import Mathlib.Data.List.Induction
import LineLayout.Layout.Placement
import LineLayout.Doc.Leaves
import LineLayout.Doc.Resolve
import LineLayout.Proofs.Fragment.Lines
/-!
Line breaks among fragments: if no text breaks the line, the line feeds of the displayed text are
those of its line breaks, and the column is the length of its last line.
-/
namespace LineLayout

variable {α : Type}

namespace Fragment

theorem toList_content_newline (indentation : Nat) :
    (newline indentation : Fragment α).content.toList =
      '\n' :: List.replicate indentation ' ' := by
  simp [content]

@[simp] theorem isNewline_newline (indentation : Nat) :
    (newline indentation : Fragment α).isNewline = true := by
  simp [isNewline, toList_content_newline]

theorem isNewline_text {piece : String} {label : Option α} (unbroken : breaksLine piece = false) :
    (text piece label).isNewline = false := by
  have absent := not_mem_toList_of_breaksLine unbroken
  cases chars : piece.toList with
  | nil => simp [isNewline, content, chars]
  | cons first others =>
    rw [chars] at absent
    have differs : first ≠ '\n' := by
      rintro rfl
      exact absent List.mem_cons_self
    simp [isNewline, content, chars, differs]

theorem plainText_append_singleton (fragments : List (Fragment α)) (fragment : Fragment α) :
    plainText (fragments ++ [fragment]) = plainText fragments ++ fragment.content := by
  simp [plainText, List.foldl_append]

theorem Unbroken.of_append {fragments later : List (Fragment α)}
    (unbroken : Unbroken (fragments ++ later)) : Unbroken fragments :=
  fun content label member => unbroken content label (List.mem_append_left later member)

theorem countP_isNewline {fragments : List (Fragment α)} (unbroken : Unbroken fragments) :
    fragments.countP isNewline = fragments.countP isLineBreak := by
  apply List.countP_congr
  intro fragment member
  cases fragment with
  | newline => simp [isLineBreak]
  | text content label => simp [isLineBreak, isNewline_text (unbroken content label member)]

theorem count_plainText {fragments : List (Fragment α)} (unbroken : Unbroken fragments) :
    (plainText fragments).toList.count '\n' = fragments.countP isNewline := by
  induction fragments with
  | nil => simp [plainText]
  | cons fragment later ih =>
    rw [plainText_cons, String.toList_append, List.count_append, ih (unbroken_tail unbroken)]
    cases fragment with
    | text piece label =>
      have plain := unbroken piece label List.mem_cons_self
      have none : piece.toList.count '\n' = 0 :=
        List.count_eq_zero.mpr (not_mem_toList_of_breaksLine plain)
      simp [content, none, isNewline_text plain]
    | newline indentation =>
      have none : (List.replicate indentation ' ').count '\n' = 0 :=
        List.count_eq_zero.mpr (by simp)
      simp [toList_content_newline, none, Nat.add_comm]

theorem foldl_columnAfter {fragments : List (Fragment α)} (unbroken : Unbroken fragments) :
    fragments.foldl columnAfter 0 = lastLineLength fragments := by
  induction fragments using List.reverseRecOn with
  | nil => simp [lastLineLength, plainText]
  | append_singleton before fragment ih =>
    rw [List.foldl_append, ih unbroken.of_append]
    unfold lastLineLength
    rw [plainText_append_singleton, String.toList_append, List.reverse_append]
    cases fragment with
    | text piece label =>
      have plain := unbroken piece label (by simp)
      have kept : ∀ char ∈ piece.toList.reverse, decide (char ≠ '\n') = true := by
        intro char member
        apply decide_eq_true
        rintro rfl
        exact not_mem_toList_of_breaksLine plain (List.mem_reverse.mp member)
      rw [content, List.takeWhile_append_of_pos kept]
      simp [columnAfter, Nat.add_comm, String.length_toList]
    | newline indentation =>
      have kept : ∀ char ∈ List.replicate indentation ' ', decide (char ≠ '\n') = true := by
        intro char member
        rw [List.eq_of_mem_replicate member]
        decide
      rw [toList_content_newline, List.reverse_cons, List.reverse_replicate, List.append_assoc,
        List.takeWhile_append_of_pos kept]
      simp [columnAfter]

end Fragment

namespace Doc

theorem countP_place (tabWidth indentation column : Nat) {d : Doc α} (free : d.ChoiceFree) :
    (d.place tabWidth indentation column).1.countP Fragment.isLineBreak = d.newlineCount := by
  induction d generalizing indentation column with
  | empty | text | newline => rfl
  | concat left right ihLeft ihRight =>
    rw [place, List.countP_append, ihLeft _ _ free.1, ihRight _ _ free.2, newlineCount_concat]
  | indent body ih | hang body ih => exact ih _ _ free
  | choice => cases free

theorem countP_isNewline_place (tabWidth indentation column : Nat) {d : Doc α}
    (free : d.ChoiceFree)
    (unbroken : Fragment.Unbroken (d.place tabWidth indentation column).1) :
    (d.place tabWidth indentation column).1.countP Fragment.isNewline = d.newlineCount := by
  rw [Fragment.countP_isNewline unbroken, countP_place _ _ _ free]

end Doc

end LineLayout
