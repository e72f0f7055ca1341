import LineLayout.Proofs.Lookahead.Snapshots
/-!
A look-ahead ends. Backing out goes back to a cursor with more entries left to display, but their
work was set aside when the choice was saved, so every step leaves less work than there was.
-/
namespace LineLayout.Lookahead

variable {α : Type} {run next last : Lookahead α} {count : Nat}

/-- The work left to a run is that of the branches it has still to try. -/
theorem work_eq_work_branches (run : Lookahead α) : run.work = Copying.work run.branches := by
  rw [branches, Copying.work, total, total_map]
  rfl

theorem work_start (width tabWidth : Nat) (waiting : Array (Entry α)) (column : Nat)
    (first : Entry α) : (start width tabWidth waiting column first).work =
      entriesWork (first :: waiting.toList.reverse) := by
  rw [work_eq_work_branches, branches_start]
  simp [Copying.work, total]

theorem work_pos (run : Lookahead α) : 0 < run.work :=
  Nat.add_pos_left (entriesWork_pos _) _

def GoesOn (next run : Lookahead α) : Prop :=
  Ordered run ∧ run.step = .going next

theorem GoesOn.work_lt (goesOn : GoesOn next run) : next.work < run.work :=
  (step_going run goesOn.1 next goesOn.2).2

theorem wellFounded_goesOn : WellFounded (GoesOn (α := α)) :=
  Subrelation.wf GoesOn.work_lt (measure work).wf

inductive Takes : Nat → Lookahead α → Lookahead α → Prop
  | here (run : Lookahead α) : Takes 0 run run
  | going {count : Nat} {run next last : Lookahead α} (progress : run.step = .going next)
      (onward : Takes count next last) : Takes (count + 1) run last

theorem Takes.reaches (takes : Takes count run last) : run.Reaches last := by
  induction takes with
  | here => exact .here _
  | going progress _ ih => exact .going progress ih

/-- Every step is paid for by the work that is left. -/
theorem Takes.count_add_work_le (takes : Takes count run last) (ordered : Ordered run) :
    count + last.work ≤ run.work := by
  induction takes with
  | here => omega
  | @going count run next last progress _ ih =>
    obtain ⟨ordered', less⟩ := step_going run ordered next progress
    have rest := ih ordered'
    omega

theorem exists_takes (ordered : Ordered run) :
    ∃ count last, Takes count run last ∧ ∀ next, last.step ≠ .going next := by
  -- The induction is on the work left: a step may leave more entries or more saved choices.
  induction run using wellFounded_goesOn.induction with
  | h run ih =>
    cases progress : run.step with
    | going next =>
      have ordered' := (step_going run ordered next progress).1
      obtain ⟨count, last, takes, ends⟩ := ih next ⟨ordered, progress⟩ ordered'
      exact ⟨count + 1, last, .going progress takes, ends⟩
    | fits | tooWide | fault =>
      refine ⟨0, run, .here run, ?_⟩
      intro next
      rw [progress]
      exact nofun

inductive Ends (run : Lookahead α) : Except Fault (Option (Array Bool)) → Prop
  | fits {decisions : Array Bool} (stops : run.step = .fits decisions) :
    Ends run (.ok (some decisions))
  | tooWide (stops : run.step = .tooWide) : Ends run (.ok none)
  | overflow (stops : run.step = .fault .overflow) : Ends run (.error .overflow)

theorem ends_result (faithful : Faithful run) (ordered : Ordered run)
    (stops : ∀ next, run.step ≠ .going next) : Ends run (result run ordered) := by
  rw [result]
  split
  · rename_i next progress
    exact absurd progress (stops next)
  · exact .fits (by assumption)
  · exact .tooWide (by assumption)
  · rename_i fault met
    cases eq_overflow_of_step faithful met
    exact .overflow met

theorem result_of_going (ordered : Ordered run) (progress : run.step = .going next) :
    result run ordered = result next (step_going run ordered next progress).1 := by
  rw [result]
  split
  · rename_i next' progress'
    cases progress.symm.trans progress'
    rfl
  · rename_i decisions stops
    cases progress.symm.trans stops
  · rename_i stops
    cases progress.symm.trans stops
  · rename_i fault stops
    cases progress.symm.trans stops

theorem Takes.result_eq (takes : Takes count run last) (ordered : Ordered run)
    (ordered' : Ordered last) : result run ordered = result last ordered' := by
  induction takes with
  | here => rfl
  | going progress _ ih => exact (result_of_going ordered progress).trans (ih _ ordered')

/-- Every step of a look-ahead leaves less work than there was. So it ends, after fewer steps than
the work of all that it displays, and its last step gives the answer; if no sum overflows, there is
one. -/
theorem ends_within_work (width tabWidth : Nat) (waiting : Array (Entry α)) (column : Nat)
    (first : Entry α) :
    (∀ run next, (start width tabWidth waiting column first).Reaches run →
      run.step = .going next → next.work < run.work) ∧
    (∃ count last, count < entriesWork (first :: waiting.toList.reverse) ∧
      Takes count (start width tabWidth waiting column first) last ∧
      Ends last (decide? width tabWidth waiting column first)) ∧
    ((∀ last, (start width tabWidth waiting column first).Reaches last →
        last.step ≠ .fault .overflow) →
      ∃ answer, decide? width tabWidth waiting column first = .ok answer) := by
  have faithful : Faithful (start width tabWidth waiting column first) := start_faithful ..
  obtain ⟨count, last, takes, stops⟩ := exists_takes faithful.ordered
  have faithful' : Faithful last := takes.reaches.faithful faithful
  have answers : Ends last (decide? width tabWidth waiting column first) := by
    rw [decide?, takes.result_eq faithful.ordered faithful'.ordered]
    exact ends_result faithful' faithful'.ordered stops
  refine ⟨?less, ⟨count, last, ?bound, takes, answers⟩, ?answer⟩
  case less =>
    intro run next reaches progress
    have ordered := (reaches.faithful faithful).ordered
    exact (step_going run ordered next progress).2
  case bound =>
    have paid := takes.count_add_work_le faithful.ordered
    have left := work_pos last
    rw [work_start] at paid
    omega
  case answer =>
    intro noOverflow
    generalize decide? width tabWidth waiting column first = answer at answers
    cases answers with
    | fits | tooWide => exact ⟨_, rfl⟩
    | overflow met => exact absurd met (noOverflow last takes.reaches)

theorem backing_out_lessens_work :
    ∃ next, (start 2 4 #[] 0 ⟨0, breakBefore⟩).Reaches overlong ∧ overlong.step = .going next ∧
      overlong.pending overlong.cursor = [] ∧
      next.pending next.cursor = [⟨0, .newline⟩, ⟨0, .text "b" none⟩] ∧
      next.work < overlong.work := by
  refine ⟨_, reaches_overlong, rfl, ?_, ?_, ?_⟩
  · cbv
  · cbv
  · exact (ends_within_work 2 4 #[] 0 ⟨0, breakBefore⟩).1 overlong _ reaches_overlong rfl

end LineLayout.Lookahead
