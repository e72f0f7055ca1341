import LineLayout.Doc.Basic
import LineLayout.Layout.Exhaustive
/-!
The lines of displayed fragments, and the same lines in the displayed text.
-/
namespace LineLayout

theorem splitOn_append_of_not_mem {τ : Type} [BEq τ] [LawfulBEq τ] {separator : τ}
    {front : List τ} (rest : List τ) (absent : separator ∉ front) :
    (front ++ rest).splitOn separator = (rest.splitOn separator).modifyHead (front ++ ·) := by
  induction front with
  | nil => exact (congrFun List.modifyHead_id _).symm
  | cons first others ih =>
    simp only [List.mem_cons, not_or] at absent
    have differs : (first == separator) = false := beq_false_of_ne (Ne.symm absent.1)
    rw [List.cons_append, List.splitOn_cons_eq_if_modifyHead, differs, ih absent.2]
    simp [Function.comp_def]

namespace Fragment

variable {α : Type}

def Unbroken (fragments : List (Fragment α)) : Prop :=
  ∀ content label, text content label ∈ fragments → breaksLine content = false

/-- The columns at which the lines of fragments end when the first line starts at a column. -/
def lineEnds (column : Nat) : List (Fragment α) → List Nat
  | [] => [column]
  | text content _ :: later => lineEnds (column + content.length) later
  | newline indentation :: later => column :: lineEnds indentation later

theorem unbroken_tail {fragment : Fragment α} {later : List (Fragment α)}
    (unbroken : Unbroken (fragment :: later)) : Unbroken later :=
  fun content label member => unbroken content label (List.mem_cons_of_mem _ member)

theorem lines_ne_nil (fragments : List (Fragment α)) : lines fragments ≠ [] := by
  induction fragments with
  | nil => exact nofun
  | cons fragment later ih => cases fragment <;> simp [lines, ih]

theorem flatten_lines (fragments : List (Fragment α)) : (lines fragments).flatten = fragments := by
  induction fragments with
  | nil => rfl
  | cons fragment later ih =>
    obtain ⟨line, others, split⟩ := List.exists_cons_of_ne_nil (lines_ne_nil later)
    rw [split] at ih
    cases fragment <;> simpa [lines, split] using ih

theorem plainText_eq_join (fragments : List (Fragment α)) :
    plainText fragments = String.join (fragments.map content) := by
  rw [plainText, String.join, List.foldl_map]

theorem plainText_cons (fragment : Fragment α) (later : List (Fragment α)) :
    plainText (fragment :: later) = fragment.content ++ plainText later := by
  simp only [plainText_eq_join, List.map_cons, String.join_cons]

theorem not_mem_toList_of_breaksLine {content : String} (unbroken : breaksLine content = false) :
    '\n' ∉ content.toList := by
  intro member
  simp [breaksLine, member] at unbroken

theorem map_length_textLines (column : Nat) {fragments : List (Fragment α)}
    (unbroken : Unbroken fragments) :
    ((textLines fragments).map List.length).modifyHead (column + ·) =
      lineEnds column fragments := by
  induction fragments generalizing column with
  | nil => simp [textLines, plainText, lineEnds]
  | cons fragment later ih =>
    obtain ⟨line, others, split⟩ :=
      List.exists_cons_of_ne_nil (List.splitOn_ne_nil '\n' (plainText later).toList)
    simp only [textLines, split, List.map_cons, List.modifyHead_cons] at ih
    rw [textLines, plainText_cons, String.toList_append]
    cases fragment with
    | text piece label =>
      have absent := not_mem_toList_of_breaksLine (unbroken piece label List.mem_cons_self)
      rw [lineEnds, ← ih _ (unbroken_tail unbroken), content, splitOn_append_of_not_mem _ absent,
        split]
      simp [Nat.add_assoc, String.length_toList]
    | newline indentation =>
      have absent : '\n' ∉ List.replicate indentation ' ' := by simp
      rw [lineEnds, ← ih _ (unbroken_tail unbroken), content]
      simp [List.splitOn_cons_eq_if_modifyHead, splitOn_append_of_not_mem _ absent, split]

theorem lineEnds_zero {fragments : List (Fragment α)} (unbroken : Unbroken fragments) :
    lineEnds 0 fragments = (textLines fragments).map List.length := by
  have lengths := map_length_textLines 0 unbroken
  simp only [Nat.zero_add] at lengths
  exact lengths.symm.trans (congrFun List.modifyHead_id _)

theorem head?_lineEnds (column : Nat) {fragments : List (Fragment α)}
    (unbroken : Unbroken fragments) :
    (lineEnds column fragments).head? = some (column + Exhaustive.firstLineLength fragments) := by
  induction fragments generalizing column with
  | nil => rfl
  | cons fragment later ih =>
    cases fragment with
    | text piece label =>
      have absent := not_mem_toList_of_breaksLine (unbroken piece label List.mem_cons_self)
      have plain : ∀ char ∈ piece.toList, decide (char ≠ '\n') = true := by
        intro char member
        apply decide_eq_true
        rintro rfl
        exact absent member
      have length : Exhaustive.firstLineLength (text piece label :: later) =
          piece.length + Exhaustive.firstLineLength later := by
        simp only [Exhaustive.firstLineLength, plainText_cons, content, String.toList_append,
          List.takeWhile_append_of_pos plain, List.length_append, String.length_toList]
      rw [lineEnds, ih _ (unbroken_tail unbroken), length, Nat.add_assoc]
    | newline indentation =>
      rw [lineEnds, Exhaustive.firstLineLength, plainText_cons]
      simp [content]

theorem textLines_eq_map {fragments : List (Fragment α)} (unbroken : Unbroken fragments) :
    textLines fragments =
      (lines fragments).map fun line => (plainText line).toList.filter (· ≠ '\n') := by
  induction fragments with
  | nil => simp [textLines, plainText, lines]
  | cons fragment later ih =>
    specialize ih (unbroken_tail unbroken)
    obtain ⟨line, others, split⟩ := List.exists_cons_of_ne_nil (lines_ne_nil later)
    rw [textLines, split, List.map_cons] at ih
    rw [textLines, plainText_cons, String.toList_append]
    cases fragment with
    | text piece label =>
      have absent := not_mem_toList_of_breaksLine (unbroken piece label List.mem_cons_self)
      have kept : piece.toList.filter (· ≠ '\n') = piece.toList := by
        apply List.filter_eq_self.mpr
        intro char member
        apply decide_eq_true
        rintro rfl
        exact absent member
      rw [content, splitOn_append_of_not_mem _ absent, ih, lines, split, List.modifyHead_cons,
        List.modifyHead_cons, List.map_cons, plainText_cons, String.toList_append, content,
        List.filter_append, kept]
    | newline indentation =>
      have absent : '\n' ∉ List.replicate indentation ' ' := by simp
      have kept : (List.replicate indentation ' ').filter (· ≠ '\n') =
          List.replicate indentation ' ' := by simp
      have shown : (content (newline indentation : Fragment α)).toList =
          '\n' :: List.replicate indentation ' ' := by simp [content]
      rw [shown, List.cons_append, List.splitOn_cons_eq_if_modifyHead, beq_self_eq_true, if_pos rfl,
        splitOn_append_of_not_mem _ absent, ih, lines, split, List.modifyHead_cons,
        List.modifyHead_cons, List.map_cons, List.map_cons, plainText_cons, String.toList_append,
        shown, List.cons_append, List.filter_cons, List.filter_append, kept]
      simp [plainText]

end Fragment

end LineLayout
