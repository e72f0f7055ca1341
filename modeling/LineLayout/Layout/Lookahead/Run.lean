import LineLayout.Layout.Lookahead.Links
import LineLayout.Total
/-!
Running a look-ahead to its end. Every step lessens the work left, which counts the entries still to
be displayed on every branch that may yet be tried; so a run ends.
-/
namespace LineLayout

/-- The steps needed to display a document on every branch, when what comes after takes `after`. -/
def Doc.work {α : Type} : Doc α → Nat → Nat
  | .empty, after | .text _ _, after | .newline, after => after + 1
  | .concat left right, after => left.work (right.work after) + 1
  | .indent body, after | .hang body, after => body.work after + 1
  | .choice wide narrow, after => wide.work after + narrow.work after + 1

namespace Lookahead

variable {α : Type}

def entriesWork : List (Entry α) → Nat
  | [] => 1
  | entry :: entries => entry.doc.work (entriesWork entries)

def work (run : Lookahead α) : Nat :=
  entriesWork (run.pending run.cursor) +
    total (fun point => entriesWork (point.narrow :: run.pending point.cursor)) run.saved

theorem entriesWork_pos (entries : List (Entry α)) : 0 < entriesWork entries := by
  have grows : ∀ (d : Doc α) (after : Nat), after < d.work after := by
    intro d
    induction d with
    | concat left right ihLeft ihRight =>
      intro after
      have := ihRight after
      have := ihLeft (right.work after)
      simp only [Doc.work]
      omega
    | choice wide narrow ihWide ihNarrow =>
      intro after
      have := ihWide after
      simp only [Doc.work]
      omega
    | indent body ih | hang body ih =>
      intro after
      have := ih after
      simp only [Doc.work]
      omega
    | _ => simp [Doc.work]
  cases entries with
  | nil => simp [entriesWork]
  | cons entry entries => exact Nat.lt_of_le_of_lt (Nat.zero_le _) (grows _ _)

theorem work_push (run : Lookahead α) (cursor : Cursor) (entry : Entry α)
    (bounds : InBounds run cursor) (saved : ∀ point ∈ run.saved, InBounds run point.cursor) :
    (run.push cursor entry).work = entriesWork (entry :: run.pending cursor) +
      total (fun point => entriesWork (point.narrow :: run.pending point.cursor)) run.saved := by
  have same : (run.push cursor entry).saved = run.saved := rfl
  unfold work
  rw [pending_push run cursor entry bounds, same]
  congr 1
  apply total_congr
  intro point member
  rw [pending_push_of_inBounds run cursor point.cursor entry (saved point member)]

theorem display_going (run : Lookahead α) (cursor : Cursor) (entry : Entry α)
    (ordered : Ordered run) (bounds : InBounds run cursor) (next : Lookahead α)
    (going : run.display cursor entry = .going next) :
    Ordered next ∧ next.work < entriesWork (entry :: run.pending cursor) +
      total (fun point => entriesWork (point.narrow :: run.pending point.cursor)) run.saved := by
  obtain ⟨indentation, doc⟩ := entry
  cases doc with
  | empty =>
    cases going
    exact ⟨⟨ordered.downwards, bounds, ordered.saved⟩,
      by simp [work, entriesWork, Doc.work, pending]⟩
  | text content label =>
    simp only [display] at going
    split at going <;> cases going
    exact ⟨⟨ordered.downwards, bounds, ordered.saved⟩,
      by simp [work, entriesWork, Doc.work, pending]⟩
  | newline => cases going
  | concat left right =>
    cases going
    have first :=
      ordered_push run cursor ⟨indentation, right⟩ ordered.downwards bounds ordered.saved
    refine ⟨ordered_push _ _ _ first.downwards first.cursor first.saved, ?_⟩
    rw [work_push _ _ _ first.cursor first.saved, pending_push run cursor _ bounds]
    have same : total (fun point => entriesWork
          (point.narrow :: (run.push cursor ⟨indentation, right⟩).pending point.cursor)) run.saved =
        total (fun point => entriesWork (point.narrow :: run.pending point.cursor)) run.saved :=
      total_congr fun point member => by
        rw [pending_push_of_inBounds run cursor point.cursor _ (ordered.saved point member)]
    refine Nat.lt_of_le_of_lt (Nat.le_of_eq (congrArg _ same)) ?_
    simp [entriesWork, Doc.work]
  | indent body =>
    simp only [display] at going
    split at going <;> cases going
    refine ⟨ordered_push run cursor _ ordered.downwards bounds ordered.saved, ?_⟩
    rw [work_push run cursor _ bounds ordered.saved]
    simp [entriesWork, Doc.work]
  | hang body =>
    cases going
    refine ⟨ordered_push run cursor _ ordered.downwards bounds ordered.saved, ?_⟩
    rw [work_push run cursor _ bounds ordered.saved]
    simp [entriesWork, Doc.work]
  | choice wide narrow =>
    cases going
    have saved : ∀ point ∈ (⟨cursor, ⟨indentation, narrow⟩, run.decisions.size⟩ :: run.saved :
        List (SavedChoice α)), InBounds run point.cursor := by
      intro point member
      rcases List.mem_cons.mp member with rfl | older
      · exact bounds
      · exact ordered.saved point older
    refine ⟨ordered_push _ cursor _ ordered.downwards bounds saved, ?_⟩
    refine Nat.lt_of_le_of_lt (Nat.le_of_eq (work_push _ cursor _ bounds saved)) ?_
    simp only [total, entriesWork, Doc.work, pending]
    omega

theorem step_going (run : Lookahead α) (ordered : Ordered run) (next : Lookahead α)
    (going : run.step = .going next) : Ordered next ∧ next.work < run.work := by
  unfold step at going
  split at going
  · split at going
    · cases going
    · rename_i point saved savedCase
      cases going
      have member : point ∈ run.saved := by simp [savedCase]
      have bounds : InBounds run point.cursor := ordered.saved point member
      have others : ∀ other ∈ saved, InBounds run other.cursor :=
        fun other later => ordered.saved other (by simp [savedCase, later])
      refine ⟨ordered_push _ _ _ ordered.downwards bounds others, ?_⟩
      refine Nat.lt_of_le_of_lt (Nat.le_of_eq (work_push _ _ _ bounds others)) ?_
      have positive := entriesWork_pos (run.pending run.cursor)
      simp only [work, savedCase, total]
      simp only [pending] at positive ⊢
      omega
  · have popped := pop?_of_ordered run ordered
    split at going
    · cases going
    · cases going
    · rename_i entry cursor popCase
      cases pendingCase : run.pending run.cursor with
      | nil =>
        rw [pendingCase, popCase] at popped
        cases popped
      | cons first left =>
        rw [pendingCase] at popped
        obtain ⟨cursor', equal, bounds, _, rest⟩ := popped
        rw [popCase] at equal
        cases equal
        have result := display_going run cursor entry ordered bounds next going
        refine ⟨result.1, ?_⟩
        simp only [work, pendingCase]
        rw [← rest]
        exact result.2

def result (run : Lookahead α) (ordered : Ordered run) : Except Fault (Option (Array Bool)) :=
  match progress : run.step with
  | .going next => result next (step_going run ordered next progress).1
  | .fits decisions => .ok (some decisions)
  | .tooWide => .ok none
  | .fault fault => .error fault
termination_by run.work
decreasing_by exact (step_going run ordered next progress).2

/-- Whether `first` and then the waiting entries, displayed from a column, can end the line within
the width; if so, how the choices on that line are decided. -/
def decide? (width tabWidth : Nat) (waiting : Array (Entry α)) (column : Nat) (first : Entry α) :
    Except Fault (Option (Array Bool)) :=
  result (start width tabWidth waiting column first) (start_ordered ..)

end Lookahead

end LineLayout
