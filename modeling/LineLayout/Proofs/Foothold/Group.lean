import Mathlib.Control.Monad.Basic
import LineLayout.Proofs.Doc.Texts
import LineLayout.Proofs.Foothold.Widths
import LineLayout.Proofs.Outlook.Display
import LineLayout.Proofs.Reach.Display
/-!
Groups at two widths: a group is flat, or its display is that of its document alone; and a document
that keeps its foothold needs no more line breaks at the larger width.
-/
namespace LineLayout

open Printer (Event)
open Foothold (NoMoreBreaks)
open LineLayout.Ideal (breaks fits)

variable {α : Type}

namespace Doc

theorem textLength_flat {d : Doc α} {length : Nat} (line : d.lineLength? = some length) :
    d.flat.textLength = length := by
  induction d generalizing length with
  | empty | text =>
    cases line
    rfl
  | newline => cases line
  | concat left right ihLeft ihRight =>
    simp only [lineLength?, Option.bind_eq_bind, Option.bind_eq_some_iff] at line
    obtain ⟨first, lineLeft, second, lineRight, sum⟩ := line
    cases sum
    rw [flat, textLength, ihLeft lineLeft, ihRight lineRight]
  | indent body ih | hang body ih => exact ih line
  | choice wide narrow ihWide ihNarrow => exact ihWide line

theorem Keeps.exists_group {tabWidth indentation column : Nat} {d : Doc α} {last : Foothold}
    (keeps : Keeps tabWidth d indentation (.fixed column) last) :
    ∃ last, Keeps tabWidth d.group indentation (.fixed column) last := by
  rw [group_eq_choice]
  cases line : d.lineLength? with
  | none => exact ⟨_, .anyBreak d.isFlat_flat line keeps⟩
  | some length =>
    rw [← textLength_flat line] at line
    exact ⟨_, .sameLine d.isFlat_flat line keeps⟩

theorem ChoiceFree.exists_keeps {d : Doc α} (free : d.ChoiceFree)
    (tabWidth indentation : Nat) (start : Foothold) :
    ∃ last, Keeps tabWidth d indentation start last := by
  induction d generalizing indentation start with
  | empty => exact ⟨_, .empty⟩
  | text => exact ⟨_, .text⟩
  | newline => exact ⟨_, .newline⟩
  | concat left right ihLeft ihRight =>
    obtain ⟨between, keepsLeft⟩ := ihLeft free.1 indentation start
    obtain ⟨last, keepsRight⟩ := ihRight free.2 indentation between
    exact ⟨last, .concat keepsLeft keepsRight⟩
  | indent body ih =>
    obtain ⟨last, keeps⟩ := ih free (indentation + tabWidth) start
    exact ⟨last, .indent keeps⟩
  | hang body ih =>
    cases start with
    | fixed column =>
      obtain ⟨last, keeps⟩ := ih free column (.fixed column)
      exact ⟨last, .hang keeps⟩
    | floating least => exact ⟨_, .hangFree free⟩
  | choice => cases free

theorem ChoiceFree.steady {d : Doc α} (free : d.ChoiceFree) (tabWidth : Nat) : d.Steady tabWidth :=
  free.exists_keeps tabWidth 0 (.fixed 0)

theorem exists_keeps_line (tabWidth : Nat) (start : Foothold) :
    ∃ last, Keeps tabWidth (line : Doc α) 0 start last := by
  have space : Keeps tabWidth (newline : Doc α) 0 start (.fixed 0) := .newline
  cases start with
  | fixed column => exact ⟨_, .anyBreak trivial rfl space⟩
  | floating least => exact ⟨_, .softBreak trivial trivial rfl space (Nat.zero_le _)⟩

theorem steady_foldl_line {tabWidth : Nat} {words : List (Doc α)} {built : Doc α}
    {last : Foothold} (keeps : Keeps tabWidth built 0 (.fixed 0) last)
    (free : ∀ word ∈ words, word.ChoiceFree) :
    (words.foldl (fun built word => concat built (concat line word)) built).Steady tabWidth := by
  induction words generalizing built last with
  | nil => exact ⟨last, keeps⟩
  | cons word words ih =>
    rw [List.forall_mem_cons] at free
    obtain ⟨between, keepsLine⟩ := exists_keeps_line tabWidth last
    obtain ⟨last', keepsWord⟩ := free.1.exists_keeps tabWidth 0 between
    exact ih (.concat keeps (.concat keepsLine keepsWord)) free.2

theorem steady_join_line (tabWidth : Nat) (words : List (Doc α))
    (free : ∀ word ∈ words, word.ChoiceFree) : (join words line).Steady tabWidth := by
  cases words with
  | nil => exact ⟨_, .empty⟩
  | cons first others =>
    rw [List.forall_mem_cons] at free
    obtain ⟨last, keeps⟩ := free.1.steady tabWidth
    exact steady_foldl_line keeps free.2

theorem IsFlat.choiceFree {d : Doc α} (flat : d.IsFlat) : d.ChoiceFree := by
  induction d with
  | empty | text => trivial
  | newline | choice => cases flat
  | concat left right ihLeft ihRight => exact ⟨ihLeft flat.1, ihRight flat.2⟩
  | indent body ih | hang body ih => exact ih flat

section Display

variable {settings : Settings} {d : Doc α} {fragments : List (Fragment α)}

theorem IsFlat.display (flat : d.IsFlat) (unbroken : d.Unbroken)
    (complete : d.render settings = .ok fragments) :
    fragments = (d.place settings.tabWidth 0 0).1 ∧ fragments.countP Fragment.isNewline = 0 := by
  have entries : LineLayout.Unbroken [(⟨0, d⟩ : Entry α)] := List.forall_mem_singleton.mpr unbroken
  refine ⟨flat.choiceFree.eq_place_of_render complete, ?_⟩
  rw [Printer.render_eq_ideal complete, Ideal.countP_isNewline_shown _ _ _ entries,
    Ideal.breaks_of_isFlat flat, Ideal.breaks_nil]

theorem fits_of_outlook {answer : Bool} (answered : (d.outlook settings).fits 0 = .ok answer) :
    fits settings.width settings.tabWidth 0 [⟨0, d⟩] = answer := by
  have planned := Outlook.fits_ofEntries settings 0 [(⟨0, d⟩ : Entry α)]
  obtain ⟨found, plans, rfl⟩ := except_map_eq_ok (planned.symm.trans answered)
  rw [fits, Lookahead.firstFit?_of_plan plans]

theorem display_choice {wide narrow : Doc α}
    (complete : (choice wide narrow).render settings = .ok fragments) :
    (fits settings.width settings.tabWidth 0 [⟨0, wide⟩] = true ∧
      wide.render settings = .ok fragments) ∨
    (fits settings.width settings.tabWidth 0 [⟨0, wide⟩] = false ∧
      narrow.render settings = .ok fragments) := by
  rw [render_eq_outlook] at complete
  obtain ⟨events, observed, rfl⟩ := except_map_eq_ok complete
  rcases Outlook.events_choice observed with
    ⟨later, answered, goesOn, rfl⟩ | ⟨later, answered, goesOn, rfl⟩
  · refine .inl ⟨fits_of_outlook answered, ?_⟩
    rw [render_eq_outlook, Event.shown_choice]
    exact congrArg (Except.map Event.shown) goesOn
  · refine .inr ⟨fits_of_outlook answered, ?_⟩
    rw [render_eq_outlook, Event.shown_choice]
    exact congrArg (Except.map Event.shown) goesOn

end Display

section Widths

variable {width width' tabWidth : Nat} {d : Doc α} {narrowly widely : List (Fragment α)}

theorem display_group (narrower : width ≤ width') (unbroken : d.Unbroken)
    (small : d.group.render ⟨width, tabWidth⟩ = .ok narrowly)
    (large : d.group.render ⟨width', tabWidth⟩ = .ok widely) :
    (narrowly = widely ∧ widely.countP Fragment.isNewline = 0) ∨
      (d.render ⟨width, tabWidth⟩ = .ok narrowly ∧ widely.countP Fragment.isNewline = 0) ∨
      (d.render ⟨width, tabWidth⟩ = .ok narrowly ∧ d.render ⟨width', tabWidth⟩ = .ok widely) := by
  rw [group_eq_choice] at small large
  rcases display_choice small with ⟨fitting, flatly⟩ | ⟨_, own⟩
  · rcases display_choice large with ⟨_, flatly'⟩ | ⟨tooLong, _⟩
    · obtain ⟨shown, _⟩ := d.isFlat_flat.display unbroken.flat flatly
      obtain ⟨shown', noBreak⟩ := d.isFlat_flat.display unbroken.flat flatly'
      exact .inl ⟨shown.trans shown'.symm, noBreak⟩
    · have fitting' := Ideal.fits_mono narrower (Nat.le_refl 0) fitting
      rw [fitting'] at tooLong
      cases tooLong
  · rcases display_choice large with ⟨_, flatly'⟩ | ⟨_, own'⟩
    · exact .inr (.inl ⟨own, (d.isFlat_flat.display unbroken.flat flatly').2⟩)
    · exact .inr (.inr ⟨own, own'⟩)

theorem Steady.countP_isNewline_le (steady : d.Steady tabWidth) (narrower : width ≤ width')
    (unbroken : d.Unbroken) (small : d.render ⟨width, tabWidth⟩ = .ok narrowly)
    (large : d.render ⟨width', tabWidth⟩ = .ok widely) :
    widely.countP Fragment.isNewline ≤ narrowly.countP Fragment.isNewline := by
  obtain ⟨last, keeps⟩ := steady
  have entries : LineLayout.Unbroken [(⟨0, d⟩ : Entry α)] := List.forall_mem_singleton.mpr unbroken
  have atEnd : NoMoreBreaks width width' tabWidth last ([] : List (Entry α)) := by
    intro column column' ahead _
    rw [Ideal.breaks_nil]
    exact Nat.zero_le _
  have noMore := keeps.noMoreBreaks narrower atEnd 0 0 0 ⟨rfl, rfl, rfl⟩
  rw [Printer.render_eq_ideal small, Printer.render_eq_ideal large,
    Ideal.countP_isNewline_shown _ _ _ entries, Ideal.countP_isNewline_shown _ _ _ entries]
  exact noMore

end Widths

/-- A group has no line break where it is flat, and it is flat at every width from the first one at
which it is. A document that keeps its foothold needs no more line breaks in a group at a larger
width; those without choices and words joined by soft breaks are among them. -/
theorem group_breaks_no_more {width width' tabWidth : Nat} {d : Doc α} (narrower : width ≤ width')
    (unbroken : d.Unbroken) :
    (d.group.extent tabWidth ≤ 2 ^ 63 - 2 →
      ∀ anyWidth, ∃ fragments, d.group.render ⟨anyWidth, tabWidth⟩ = .ok fragments) ∧
    ∀ narrowly widely, d.group.render ⟨width, tabWidth⟩ = .ok narrowly →
      d.group.render ⟨width', tabWidth⟩ = .ok widely →
      ((narrowly = widely ∧ widely.countP Fragment.isNewline = 0) ∨
        (d.render ⟨width, tabWidth⟩ = .ok narrowly ∧ widely.countP Fragment.isNewline = 0) ∨
        (d.render ⟨width, tabWidth⟩ = .ok narrowly ∧ d.render ⟨width', tabWidth⟩ = .ok widely)) ∧
      (d.Steady tabWidth ∨ d.ChoiceFree ∨
          (∃ words, (∀ word ∈ words, word.ChoiceFree) ∧ d = join words line) →
        widely.countP Fragment.isNewline ≤ narrowly.countP Fragment.isNewline) := by
  constructor
  · intro small anyWidth
    apply Printer.exists_render
    exact Nat.lt_of_le_of_lt small (by decide)
  intro narrowly widely small large
  refine ⟨display_group narrower unbroken small large, ?_⟩
  intro conditions
  have steady : d.Steady tabWidth := by
    rcases conditions with steady | free | ⟨words, free, rfl⟩
    · exact steady
    · exact free.steady tabWidth
    · exact steady_join_line tabWidth words free
  obtain ⟨last, keeps⟩ := steady
  have steadyGroup : d.group.Steady tabWidth := keeps.exists_group
  exact steadyGroup.countP_isNewline_le narrower unbroken.group small large

def call : Doc Unit :=
  sum [text "f" none, (sum [newline, text "a" none, newline, text "b" none]).group, line,
    text "c" none, indent (concat newline (text "d" none))]

theorem steady_call : call.Steady 4 := by
  have arguments : Keeps 4 (sum [newline, text "a" (none : Option Unit), newline, text "b" none]) 0
      (.fixed 1) (.fixed 1) := .concat (.concat (.concat .newline .text) .newline) .text
  obtain ⟨_, group⟩ := arguments.exists_group
  obtain ⟨_, soft⟩ := exists_keeps_line 4 _
  exact ⟨_, .concat (.concat (.concat (.concat .text group) soft) .text)
    (.indent (.concat .newline .text))⟩

theorem call_breaks_no_more :
    (∀ width, ∃ fragments, call.group.render ⟨width, 4⟩ = .ok fragments) ∧
    ∃ narrowly widely, call.group.render ⟨4, 4⟩ = .ok narrowly ∧
      call.group.render ⟨5, 4⟩ = .ok widely ∧
      narrowly.countP Fragment.isNewline = 3 ∧
      widely.countP Fragment.isNewline ≤ narrowly.countP Fragment.isNewline := by
  have unbroken : call.Unbroken := by
    unfold Unbroken
    decide +kernel
  have extent : call.group.extent 4 ≤ 2 ^ 63 - 2 := by decide +kernel
  have small : call.group.render ⟨4, 4⟩ =
      .ok [.text "f" none, .newline 0, .text "a" none, .newline 0, .text "b" none, .text " " none,
        .text "c" none, .newline 4, .text "d" none] := by
    decide +kernel
  have large : call.group.render ⟨5, 4⟩ =
      .ok [.text "f" none, .text " " none, .text "a" none, .text " " none, .text "b" none,
        .newline 0, .text "c" none, .newline 4, .text "d" none] := by
    decide +kernel
  obtain ⟨complete, compare⟩ := @group_breaks_no_more Unit 4 5 4 call (Nat.le_succ 4) unbroken
  have noMore := (compare _ _ small large).2 (.inl steady_call)
  exact ⟨complete extent, _, _, small, large, by decide, noMore⟩

def lineBreaks (settings : Settings) (d : Doc α) : Except Fault Nat :=
  (d.render settings).map (·.countP Fragment.isNewline)

def twoGroups : Doc Unit :=
  concat (sum [text "aaaa" none, newline, text "b" none]).group
    (sum [text "x" none, newline, text "y" none, newline, text "z" none]).group

def abbreviated : Doc Unit :=
  sum [choice (text "abcd" none) (text "a" none), line, text "x" none]

/-- A break in the middle of a line leads further right than the space in its place. -/
def deepBreak : Doc Unit :=
  sum [text "aaaa" none, line, text "b" none, indent line, text "c" none, line, text "d" none]

/-- Soft breaks are indented to the column at which one before them ends. -/
def hangingWords : Doc Unit :=
  sum [text "aaaa" none, line, hang (sum [text "b" none, line, text "c" none, line, text "d" none])]

/-- Where a document keeps no foothold, its group may need more line breaks at a larger width. -/
theorem group_breaks_more :
    (∀ d ∈ [twoGroups, abbreviated, deepBreak, hangingWords], d.Unbroken) ∧
    (twoGroups.group.lineBreaks ⟨6, 4⟩ = .ok 1 ∧ twoGroups.group.lineBreaks ⟨7, 4⟩ = .ok 2) ∧
    (abbreviated.group.lineBreaks ⟨3, 4⟩ = .ok 0 ∧ abbreviated.group.lineBreaks ⟨4, 4⟩ = .ok 1) ∧
    (deepBreak.group.lineBreaks ⟨5, 4⟩ = .ok 1 ∧ deepBreak.group.lineBreaks ⟨6, 4⟩ = .ok 2) ∧
    (hangingWords.group.lineBreaks ⟨5, 4⟩ = .ok 1 ∧
      hangingWords.group.lineBreaks ⟨6, 4⟩ = .ok 2) := by
  unfold Unbroken
  decide +kernel

end Doc

end LineLayout
