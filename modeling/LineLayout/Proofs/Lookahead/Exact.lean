import LineLayout.Proofs.Lookahead.Plan
import LineLayout.Proofs.Reach.Lookahead
/-!
A look-ahead is exact: unless a column or an indentation overflows on the way, it finds the first of
the resolutions that end the line within the width, and it finds nothing only if there are none.
-/
namespace LineLayout

variable {α : Type}

theorem Precedes.asymm {first second : List Bool} (before : Precedes first second) :
    ¬ Precedes second first := by
  induction before with
  | here => exact nofun
  | later decision _ ih =>
    intro after
    cases after with
    | later _ after => exact ih after

theorem FirstFit.unique {width tabWidth column : Nat} {entries : List (Entry α)}
    {resolved resolved' : List Bool} (first : FirstFit width tabWidth column entries resolved)
    (first' : FirstFit width tabWidth column entries resolved') : resolved = resolved' := by
  rcases first.2 resolved' first'.1 with same | before
  · exact same.symm
  · rcases first'.2 resolved first.1 with same | after
    · exact same
    · exact absurd after before.asymm

theorem Copying.Moves.eq_overflow {width tabWidth : Nat} {branches : Copying.Branches α}
    {fault : Fault} (moves : Copying.Moves width tabWidth branches (.fault fault)) :
    fault = .overflow := by
  cases moves with
  | textFault _ sum | indentFault _ sum => exact eq_overflow_of_addColumns sum

namespace Lookahead

theorem Reaches.faithful {run last : Lookahead α} (reaches : run.Reaches last)
    (faithful : Faithful run) : Faithful last := by
  induction reaches with
  | here => exact faithful
  | @going run next last progress _ ih =>
    have kept := (step_moves run faithful).1
    rw [progress] at kept
    exact ih kept.1

/-- The links of a look-ahead are never broken: all that can stop it is a sum beyond a word. -/
theorem eq_overflow_of_step {run : Lookahead α} {fault : Fault} (faithful : Faithful run)
    (stops : run.step = .fault fault) : fault = .overflow := by
  have moves := (step_moves run faithful).2
  rw [stops] at moves
  exact moves.eq_overflow

structure Exact (width tabWidth column : Nat) (entries : List (Entry α))
    (answer : Option (Array Bool)) : Prop where
  found : answer.isSome ↔ ∃ resolved, LineFits width tabWidth column entries resolved
  first : ∀ decisions, answer = some decisions ↔
    FirstFit width tabWidth column entries decisions.toList
  nothing : answer = none ↔ ¬ ∃ resolved, LineFits width tabWidth column entries resolved

theorem exact_of_firstFit? {width tabWidth column : Nat} {entries : List (Entry α)}
    {answer : Option (Array Bool)}
    (found : firstFit? width tabWidth column entries = answer.map Array.toList) :
    Exact width tabWidth column entries answer := by
  cases answer with
  | none =>
    have none : ¬ ∃ resolved, LineFits width tabWidth column entries resolved :=
      not_exists.mpr (firstFit?_eq_none_iff.mp found)
    refine ⟨by simp [none], ?_, by simp [none]⟩
    intro decisions
    exact iff_of_false nofun fun first => none ⟨_, first.1⟩
  | some decisions =>
    have first := firstFit_of_firstFit? found
    have fits : ∃ resolved, LineFits width tabWidth column entries resolved := ⟨_, first.1⟩
    refine ⟨by simp [fits], ?_, by simp [fits]⟩
    intro other
    constructor
    · intro same
      cases same
      exact first
    · intro first'
      rw [Array.toList_inj.mp (first.unique first')]

theorem exact_of_decide? {width tabWidth column : Nat} {waiting : Array (Entry α)}
    {first : Entry α} {answer : Option (Array Bool)}
    (answers : decide? width tabWidth waiting column first = .ok answer) :
    Exact width tabWidth column (first :: waiting.toList.reverse) answer := by
  rw [decide?_eq_plan] at answers
  cases planned : plan width tabWidth column (first :: waiting.toList.reverse) with
  | error fault =>
    rw [planned] at answers
    cases answers
  | ok found =>
    rw [planned] at answers
    cases answers
    apply exact_of_firstFit?
    rw [firstFit?_of_plan planned]
    cases found <;> rfl

/-- From beyond the width a look-ahead finds nothing, even if a line break is displayed first. One
that no sum stops has an answer, and the answer is exact. -/
theorem decide?_exact (width tabWidth : Nat) (waiting : Array (Entry α)) (column : Nat)
    (first : Entry α) :
    (width < column → decide? width tabWidth waiting column first = .ok none) ∧
    ((∀ last, (start width tabWidth waiting column first).Reaches last →
        last.step ≠ .fault .overflow) →
      ∃ answer, decide? width tabWidth waiting column first = .ok answer ∧
        Exact width tabWidth column (first :: waiting.toList.reverse) answer) := by
  constructor
  · intro tooWide
    rw [decide?_eq_plan, plan_of_tooWide _ tooWide]
    rfl
  · intro noOverflow
    cases answers : decide? width tabWidth waiting column first with
    | error fault =>
      obtain ⟨last, reaches, stops⟩ := exists_reaches_of_result_eq_error answers
      have overflow := eq_overflow_of_step (reaches.faithful (start_faithful ..)) stops
      subst overflow
      exact absurd stops (noOverflow last reaches)
    | ok answer => exact ⟨answer, rfl, exact_of_decide? answers⟩

def twoBreaks : Doc Unit :=
  Doc.sum [.text "a" none, .choice (.text "bb" none) .newline, .text "c" none,
    .choice (.text "dd" none) .newline, .text "e" none]

theorem second_of_two_breaks :
    decide? 6 4 #[] 0 ⟨0, twoBreaks⟩ = .ok (some #[true, false]) ∧
    FirstFit 6 4 0 [⟨0, twoBreaks⟩] [true, false] := by
  have answers : decide? 6 4 #[] 0 ⟨0, twoBreaks⟩ = .ok (some #[true, false]) := by cbv
  have within : Within 4 (twoBreaks.extent 4) 0 [⟨0, twoBreaks⟩] := .start 4 twoBreaks
  have noOverflow : ∀ last, (start 6 4 #[] 0 ⟨0, twoBreaks⟩).Reaches last →
      last.step ≠ .fault .overflow :=
    fun last reaches => (reaches.bounded (start_bounded within)).step_ne_fault (by decide) .overflow
  obtain ⟨answer, same, exact⟩ := (decide?_exact 6 4 #[] 0 ⟨0, twoBreaks⟩).2 noOverflow
  rw [answers] at same
  cases same
  exact ⟨answers, (exact.first _).mp rfl⟩

end Lookahead

end LineLayout
