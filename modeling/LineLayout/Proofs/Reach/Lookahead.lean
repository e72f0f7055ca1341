import LineLayout.Layout.Reach
import LineLayout.Proofs.Lookahead.Search
/-!
A look-ahead stays within a bound on every branch that it tries, given up or not, and meets no fault
if the bound is a word.
-/
namespace LineLayout

variable {α : Type}

namespace Copying

variable {width tabWidth bound : Nat} {branches next : Branches α}

def Bounded (tabWidth bound : Nat) (branches : Branches α) : Prop :=
  ∀ point ∈ branches, Within tabWidth bound point.column point.entries

theorem bounded_cons {point : Point α} {others : Branches α} :
    Bounded tabWidth bound (point :: others) ↔
      Within tabWidth bound point.column point.entries ∧ Bounded tabWidth bound others :=
  List.forall_mem_cons

/-- A step displays an entry of the current branch or goes on with another branch: both are paid
for. -/
theorem Moves.bounded (moves : Moves width tabWidth branches (.going next))
    (bounded : Bounded tabWidth bound branches) : Bounded tabWidth bound next := by
  cases moves with
  | backOut tooWide => exact (bounded_cons.mp bounded).2
  | empty narrowEnough =>
    obtain ⟨current, others⟩ := bounded_cons.mp bounded
    exact bounded_cons.mpr ⟨current.empty, others⟩
  | text narrowEnough sum =>
    obtain ⟨current, others⟩ := bounded_cons.mp bounded
    obtain ⟨rfl, _⟩ := addColumns_eq_ok.mp sum
    exact bounded_cons.mpr ⟨current.text, others⟩
  | concat narrowEnough =>
    obtain ⟨current, others⟩ := bounded_cons.mp bounded
    exact bounded_cons.mpr ⟨current.concat, others⟩
  | indent narrowEnough sum =>
    obtain ⟨current, others⟩ := bounded_cons.mp bounded
    obtain ⟨rfl, _⟩ := addColumns_eq_ok.mp sum
    exact bounded_cons.mpr ⟨current.indent, others⟩
  | hang narrowEnough =>
    obtain ⟨current, others⟩ := bounded_cons.mp bounded
    exact bounded_cons.mpr ⟨current.hang, others⟩
  | choice narrowEnough =>
    obtain ⟨current, others⟩ := bounded_cons.mp bounded
    have wide := current.option true
    have narrow := current.option false
    exact bounded_cons.mpr ⟨wide, bounded_cons.mpr ⟨narrow, others⟩⟩

theorem Bounded.not_moves_fault {fault : Fault} (bounded : Bounded tabWidth bound branches)
    (word : bound < wordLimit) : ¬ Moves width tabWidth branches (.fault fault) := by
  intro moves
  cases moves with
  | textFault narrowEnough sum =>
    have room := (bounded_cons.mp bounded).1.text.column_le
    rw [addColumns_eq_ok.mpr ⟨rfl, Nat.lt_of_le_of_lt room word⟩] at sum
    cases sum
  | indentFault narrowEnough sum =>
    have room := (bounded_cons.mp bounded).1.indent.indentation_le _ List.mem_cons_self
    rw [addColumns_eq_ok.mpr ⟨rfl, Nat.lt_of_le_of_lt room word⟩] at sum
    cases sum

end Copying

namespace Lookahead

variable {bound : Nat} {run next last : Lookahead α}

structure Bounded (bound : Nat) (run : Lookahead α) : Prop where
  faithful : Faithful run
  branches : Copying.Bounded run.tabWidth bound run.branches

theorem step_bounded (bounded : Bounded bound run) (progress : run.step = .going next) :
    Bounded bound next := by
  obtain ⟨kept, moves⟩ := step_moves run bounded.faithful
  rw [progress] at kept moves
  obtain ⟨faithful, _, tabWidth⟩ := kept
  refine ⟨faithful, ?_⟩
  rw [tabWidth]
  exact moves.bounded bounded.branches

theorem Reaches.bounded (reaches : run.Reaches last) (bounded : Bounded bound run) :
    Bounded bound last := by
  induction reaches with
  | here => exact bounded
  | going progress _ ih => exact ih (step_bounded bounded progress)

theorem Bounded.step_ne_fault (bounded : Bounded bound run) (word : bound < wordLimit)
    (fault : Fault) : run.step ≠ .fault fault := by
  intro progress
  have moves := (step_moves run bounded.faithful).2
  rw [progress] at moves
  exact bounded.branches.not_moves_fault word moves

/-- A run ends with a fault only if one of its steps meets it. -/
theorem exists_reaches_of_result_eq_error {run : Lookahead α} {ordered : Ordered run}
    {fault : Fault} (ends : result run ordered = .error fault) :
    ∃ last, run.Reaches last ∧ last.step = .fault fault := by
  rw [result] at ends
  split at ends
  · rename_i next progress
    obtain ⟨last, reaches, met⟩ := exists_reaches_of_result_eq_error ends
    exact ⟨last, .going progress reaches, met⟩
  · cases ends
  · cases ends
  · rename_i progress
    cases ends
    exact ⟨run, .here run, progress⟩
termination_by run.work
decreasing_by exact (step_going run ordered _ (by assumption)).2

section

variable {width tabWidth column : Nat} {waiting : Array (Entry α)} {first : Entry α}

theorem start_bounded (within : Within tabWidth bound column (first :: waiting.toList.reverse)) :
    Bounded bound (start width tabWidth waiting column first) := by
  refine ⟨start_faithful .., ?_⟩
  rw [branches_start]
  exact List.forall_mem_singleton.mpr within

theorem exists_decide?_eq_ok (width : Nat)
    (within : Within tabWidth bound column (first :: waiting.toList.reverse))
    (word : bound < wordLimit) :
    ∃ found, decide? width tabWidth waiting column first = .ok found := by
  cases answer : decide? width tabWidth waiting column first with
  | ok found => exact ⟨found, rfl⟩
  | error fault =>
    obtain ⟨last, reaches, met⟩ := exists_reaches_of_result_eq_error answer
    have bounded := reaches.bounded (start_bounded within)
    exact absurd met (bounded.step_ne_fault word fault)

end

end Lookahead

end LineLayout
