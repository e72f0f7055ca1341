import LineLayout.Layout.Lookahead.Copying
/-!
The look-ahead with linked cells does what the search over copies does: every saved choice stands
for a branch still to be tried, with the decisions that led to it, and a step of the run is a step of
the search.
-/
namespace LineLayout

variable {α : Type}

namespace Copying

inductive Progress (α : Type) where
  | going (branches : Branches α)
  | fits (decisions : List Bool)
  | tooWide
  | fault (fault : Fault)

/-- What one step can do with the branches still to be tried: it gives up the current one, whose
line is too long, or displays its first entry. -/
inductive Moves (width tabWidth : Nat) : Branches α → Progress α → Prop
  | tooWide {column : Nat} {entries : List (Entry α)} {decisions : List Bool}
      (tooWide : width < column) :
    Moves width tabWidth [⟨column, entries, decisions⟩] .tooWide
  | backOut {column : Nat} {entries : List (Entry α)} {decisions : List Bool} {next : Point α}
      {others : Branches α} (tooWide : width < column) :
    Moves width tabWidth (⟨column, entries, decisions⟩ :: next :: others) (.going (next :: others))
  | finished {column : Nat} {decisions : List Bool} {others : Branches α}
      (narrowEnough : ¬ width < column) :
    Moves width tabWidth (⟨column, [], decisions⟩ :: others) (.fits decisions)
  | newline {column indentation : Nat} {later : List (Entry α)} {decisions : List Bool}
      {others : Branches α} (narrowEnough : ¬ width < column) :
    Moves width tabWidth (⟨column, ⟨indentation, .newline⟩ :: later, decisions⟩ :: others)
      (.fits decisions)
  | empty {column indentation : Nat} {later : List (Entry α)} {decisions : List Bool}
      {others : Branches α} (narrowEnough : ¬ width < column) :
    Moves width tabWidth (⟨column, ⟨indentation, .empty⟩ :: later, decisions⟩ :: others)
      (.going (⟨column, later, decisions⟩ :: others))
  | text {column indentation moved : Nat} {content : String} {label : Option α}
      {later : List (Entry α)} {decisions : List Bool} {others : Branches α}
      (narrowEnough : ¬ width < column) (sum : addColumns column content.length = .ok moved) :
    Moves width tabWidth
      (⟨column, ⟨indentation, .text content label⟩ :: later, decisions⟩ :: others)
      (.going (⟨moved, later, decisions⟩ :: others))
  | textFault {column indentation : Nat} {content : String} {label : Option α} {fault : Fault}
      {later : List (Entry α)} {decisions : List Bool} {others : Branches α}
      (narrowEnough : ¬ width < column) (sum : addColumns column content.length = .error fault) :
    Moves width tabWidth
      (⟨column, ⟨indentation, .text content label⟩ :: later, decisions⟩ :: others) (.fault fault)
  | concat {column indentation : Nat} {left right : Doc α} {later : List (Entry α)}
      {decisions : List Bool} {others : Branches α} (narrowEnough : ¬ width < column) :
    Moves width tabWidth
      (⟨column, ⟨indentation, .concat left right⟩ :: later, decisions⟩ :: others)
      (.going (⟨column, ⟨indentation, left⟩ :: ⟨indentation, right⟩ :: later, decisions⟩ ::
        others))
  | indent {column indentation deeper : Nat} {body : Doc α} {later : List (Entry α)}
      {decisions : List Bool} {others : Branches α} (narrowEnough : ¬ width < column)
      (sum : addColumns indentation tabWidth = .ok deeper) :
    Moves width tabWidth (⟨column, ⟨indentation, .indent body⟩ :: later, decisions⟩ :: others)
      (.going (⟨column, ⟨deeper, body⟩ :: later, decisions⟩ :: others))
  | indentFault {column indentation : Nat} {body : Doc α} {fault : Fault}
      {later : List (Entry α)} {decisions : List Bool} {others : Branches α}
      (narrowEnough : ¬ width < column) (sum : addColumns indentation tabWidth = .error fault) :
    Moves width tabWidth (⟨column, ⟨indentation, .indent body⟩ :: later, decisions⟩ :: others)
      (.fault fault)
  | hang {column indentation : Nat} {body : Doc α} {later : List (Entry α)}
      {decisions : List Bool} {others : Branches α} (narrowEnough : ¬ width < column) :
    Moves width tabWidth (⟨column, ⟨indentation, .hang body⟩ :: later, decisions⟩ :: others)
      (.going (⟨column, ⟨column, body⟩ :: later, decisions⟩ :: others))
  | choice {column indentation : Nat} {wide narrow : Doc α} {later : List (Entry α)}
      {decisions : List Bool} {others : Branches α} (narrowEnough : ¬ width < column) :
    Moves width tabWidth
      (⟨column, ⟨indentation, .choice wide narrow⟩ :: later, decisions⟩ :: others)
      (.going (⟨column, ⟨indentation, wide⟩ :: later, decisions ++ [true]⟩ ::
        ⟨column, ⟨indentation, narrow⟩ :: later, decisions ++ [false]⟩ :: others))

def Progress.outcome (width tabWidth : Nat) : Progress α → Except Fault (Option (List Bool))
  | going branches => search width tabWidth branches
  | fits decisions => .ok (some decisions)
  | tooWide => .ok none
  | fault met => .error met

theorem search_of_moves {width tabWidth : Nat} {branches : Branches α} {progress : Progress α}
    (moves : Moves width tabWidth branches progress) :
    search width tabWidth branches = progress.outcome width tabWidth := by
  cases moves with
  | tooWide tooWide | backOut tooWide =>
    rw [search.eq_def]
    simp only [if_pos tooWide]
    simp only [Progress.outcome, search]
  | finished narrowEnough | newline narrowEnough | empty narrowEnough | concat narrowEnough
  | hang narrowEnough | choice narrowEnough =>
    rw [search, if_neg narrowEnough]
    rfl
  | text narrowEnough sum | textFault narrowEnough sum | indent narrowEnough sum
  | indentFault narrowEnough sum =>
    rw [search, if_neg narrowEnough]
    simp only [sum, Progress.outcome]

end Copying

namespace Lookahead

def SavedChoice.branch (run : Lookahead α) (point : SavedChoice α) : Copying.Point α :=
  ⟨point.cursor.column, point.narrow :: run.pending point.cursor,
    run.decisions.toList.take point.decided ++ [false]⟩

/-- The branches that a run has still to try, the current one first. -/
def branches (run : Lookahead α) : Copying.Branches α :=
  ⟨run.cursor.column, run.pending run.cursor, run.decisions.toList⟩ ::
    run.saved.map (SavedChoice.branch run)

/-- Every saved choice comes after the decisions of the choices saved before it. -/
structure Nested (run : Lookahead α) : Prop where
  within : ∀ point ∈ run.saved, point.decided ≤ run.decisions.size
  descending : run.saved.Pairwise fun later earlier => earlier.decided ≤ later.decided

structure Faithful (run : Lookahead α) : Prop where
  ordered : Ordered run
  nested : Nested run

theorem start_faithful (width tabWidth : Nat) (waiting : Array (Entry α)) (column : Nat)
    (first : Entry α) : Faithful (start width tabWidth waiting column first) where
  ordered := start_ordered ..
  nested := ⟨by simp [start], by simp [start]⟩

theorem branches_start (width tabWidth : Nat) (waiting : Array (Entry α)) (column : Nat)
    (first : Entry α) : (start width tabWidth waiting column first).branches =
      [⟨column, first :: waiting.toList.reverse, []⟩] := by
  rw [branches, pending_start]
  simp [start]

theorem branch_push (run : Lookahead α) (cursor : Cursor) (point : SavedChoice α)
    (entry : Entry α) (bounds : InBounds run point.cursor) :
    SavedChoice.branch (run.push cursor entry) point = SavedChoice.branch run point := by
  rw [SavedChoice.branch, pending_push_of_inBounds run cursor point.cursor entry bounds]
  rfl

theorem branches_push (run : Lookahead α) (cursor : Cursor) (entry : Entry α)
    (bounds : InBounds run cursor) (saved : ∀ point ∈ run.saved, InBounds run point.cursor) :
    (run.push cursor entry).branches =
      ⟨cursor.column, entry :: run.pending cursor, run.decisions.toList⟩ ::
        run.saved.map (SavedChoice.branch run) := by
  have others : ∀ point ∈ run.saved,
      SavedChoice.branch (run.push cursor entry) point = SavedChoice.branch run point :=
    fun point member => branch_push run cursor point entry (saved point member)
  rw [branches, pending_push run cursor entry bounds]
  exact congrArg _ (List.map_congr_left others)

theorem nested_push (run : Lookahead α) (cursor : Cursor) (entry : Entry α) (nested : Nested run) :
    Nested (run.push cursor entry) :=
  ⟨nested.within, nested.descending⟩

def save (run : Lookahead α) (cursor : Cursor) (narrow : Entry α) : Lookahead α :=
  { run with
    saved := ⟨cursor, narrow, run.decisions.size⟩ :: run.saved
    decisions := run.decisions.push true }

theorem nested_save (run : Lookahead α) (cursor : Cursor) (narrow : Entry α)
    (nested : Nested run) : Nested (run.save cursor narrow) where
  within := by
    intro point member
    rcases List.mem_cons.mp member with rfl | older
    · simp [save]
    · have := nested.within point older
      simp only [save, Array.size_push]
      omega
  descending := List.pairwise_cons.mpr ⟨nested.within, nested.descending⟩

theorem branch_save (run : Lookahead α) (cursor : Cursor) (point : SavedChoice α)
    (narrow : Entry α) (within : point.decided ≤ run.decisions.size) :
    SavedChoice.branch (run.save cursor narrow) point = SavedChoice.branch run point := by
  have inside : point.decided ≤ run.decisions.toList.length := within
  simp only [SavedChoice.branch, save, Array.toList_push, pending,
    List.take_append_of_le_length inside]

theorem saved_branches_save (run : Lookahead α) (cursor : Cursor) (narrow : Entry α)
    (nested : Nested run) :
    (run.save cursor narrow).saved.map (SavedChoice.branch (run.save cursor narrow)) =
      ⟨cursor.column, narrow :: run.pending cursor, run.decisions.toList ++ [false]⟩ ::
        run.saved.map (SavedChoice.branch run) := by
  have others : ∀ point ∈ run.saved,
      SavedChoice.branch (run.save cursor narrow) point = SavedChoice.branch run point :=
    fun point member => branch_save run cursor point narrow (nested.within point member)
  have newest : SavedChoice.branch (run.save cursor narrow) ⟨cursor, narrow, run.decisions.size⟩ =
      ⟨cursor.column, narrow :: run.pending cursor, run.decisions.toList ++ [false]⟩ := by
    rw [branch_save run cursor _ narrow (Nat.le_refl _)]
    simp [SavedChoice.branch, ← Array.length_toList]
  refine (List.map_cons ..).trans ?_
  rw [newest, List.map_congr_left others]

def Progress.copied : Progress α → Copying.Progress α
  | going next => .going next.branches
  | fits decisions => .fits decisions.toList
  | tooWide => .tooWide
  | fault met => .fault met

def Keeps (run : Lookahead α) : Progress α → Prop
  | .going next => Faithful next ∧ next.width = run.width ∧ next.tabWidth = run.tabWidth
  | .fits _ | .tooWide | .fault _ => True

theorem display_moves (run : Lookahead α) (cursor : Cursor) (entry : Entry α)
    (faithful : Faithful run) (bounds : InBounds run cursor)
    (narrowEnough : ¬ run.width < cursor.column) :
    Keeps run (run.display cursor entry) ∧
      Copying.Moves run.width run.tabWidth
        (⟨cursor.column, entry :: run.pending cursor, run.decisions.toList⟩ ::
          run.saved.map (SavedChoice.branch run)) (run.display cursor entry).copied := by
  obtain ⟨ordered, nested⟩ := faithful
  have pushed : ∀ pushedEntry, Faithful (run.push cursor pushedEntry) := fun pushedEntry =>
    ⟨ordered_push run cursor pushedEntry ordered.downwards bounds ordered.saved,
      nested_push run cursor pushedEntry nested⟩
  have moved : ∀ column, Faithful { run with cursor := { cursor with column := column } } :=
    fun column => ⟨⟨ordered.downwards, bounds, ordered.saved⟩, nested.within, nested.descending⟩
  have branches := fun pushedEntry => branches_push run cursor pushedEntry bounds ordered.saved
  obtain ⟨indentation, doc⟩ := entry
  cases doc with
  | empty => exact ⟨⟨moved cursor.column, rfl, rfl⟩, .empty narrowEnough⟩
  | text content label =>
    cases sum : addColumns cursor.column content.length with
    | ok column =>
      simp only [display, sum]
      exact ⟨⟨moved column, rfl, rfl⟩, .text narrowEnough sum⟩
    | error fault =>
      simp only [display, sum]
      exact ⟨trivial, .textFault narrowEnough sum⟩
  | newline => exact ⟨trivial, .newline narrowEnough⟩
  | concat left right =>
    have first := pushed ⟨indentation, right⟩
    have second : Faithful ((run.push cursor ⟨indentation, right⟩).push
        (run.push cursor ⟨indentation, right⟩).cursor ⟨indentation, left⟩) :=
      ⟨ordered_push _ _ _ first.ordered.downwards first.ordered.cursor first.ordered.saved,
        nested_push _ _ _ first.nested⟩
    have others := (List.cons.inj (branches ⟨indentation, right⟩)).2
    refine ⟨⟨second, rfl, rfl⟩, ?_⟩
    simp only [display, Progress.copied]
    rw [branches_push _ _ _ first.ordered.cursor first.ordered.saved,
      pending_push run cursor _ bounds, others]
    exact .concat narrowEnough
  | indent body =>
    cases sum : addColumns indentation run.tabWidth with
    | ok deeper =>
      simp only [display, sum, Progress.copied, branches]
      exact ⟨⟨pushed _, rfl, rfl⟩, .indent narrowEnough sum⟩
    | error fault =>
      simp only [display, sum]
      exact ⟨trivial, .indentFault narrowEnough sum⟩
  | hang body =>
    simp only [display, Progress.copied, branches]
    exact ⟨⟨pushed _, rfl, rfl⟩, .hang narrowEnough⟩
  | choice wide narrow =>
    -- The choice is saved first and its wide option pushed then: each of the two steps is known.
    have tried := nested_save run cursor ⟨indentation, narrow⟩ nested
    have saved : ∀ point ∈ (run.save cursor ⟨indentation, narrow⟩).saved,
        InBounds (run.save cursor ⟨indentation, narrow⟩) point.cursor := by
      intro point member
      rcases List.mem_cons.mp member with rfl | older
      · exact bounds
      · exact ordered.saved point older
    have both := branches_push (run.save cursor ⟨indentation, narrow⟩) cursor ⟨indentation, wide⟩
      bounds saved
    rw [saved_branches_save run cursor _ nested] at both
    refine ⟨⟨⟨ordered_push _ cursor _ ordered.downwards bounds saved, nested_push _ cursor _ tried⟩,
      rfl, rfl⟩, ?_⟩
    change Copying.Moves _ _ _ (.going ((run.save cursor ⟨indentation, narrow⟩).push cursor
      ⟨indentation, wide⟩).branches)
    rw [both]
    simp only [save, Array.toList_push]
    exact .choice narrowEnough

def backOut (run : Lookahead α) (point : SavedChoice α) (saved : List (SavedChoice α)) :
    Lookahead α :=
  { run with
    saved := saved
    decisions := (run.decisions.shrink point.decided).push false }

theorem toList_decisions_backOut (run : Lookahead α) (point : SavedChoice α)
    (saved : List (SavedChoice α)) : (run.backOut point saved).decisions.toList =
      run.decisions.toList.take point.decided ++ [false] := by
  simp [backOut]

theorem nested_backOut (run : Lookahead α) (point : SavedChoice α) (saved : List (SavedChoice α))
    (nested : Nested run) (savedCase : run.saved = point :: saved) :
    Nested (run.backOut point saved) := by
  have within := nested.within point (by simp [savedCase])
  have descending := nested.descending
  rw [savedCase, List.pairwise_cons] at descending
  refine ⟨?_, descending.2⟩
  intro earlier member
  have := descending.1 earlier member
  simp only [backOut, Array.size_push, Array.size_shrink]
  omega

theorem branch_backOut (run : Lookahead α) (point : SavedChoice α) (saved : List (SavedChoice α))
    (earlier : SavedChoice α) (before : earlier.decided ≤ point.decided)
    (within : point.decided ≤ run.decisions.size) :
    SavedChoice.branch (run.backOut point saved) earlier = SavedChoice.branch run earlier := by
  have inside : earlier.decided ≤ (run.decisions.toList.take point.decided).length := by
    simp only [List.length_take, Array.length_toList]
    omega
  rw [SavedChoice.branch, toList_decisions_backOut, List.take_append_of_le_length inside,
    List.take_take, Nat.min_eq_left before]
  rfl

theorem saved_branches_backOut (run : Lookahead α) (point : SavedChoice α)
    (saved : List (SavedChoice α)) (nested : Nested run) (savedCase : run.saved = point :: saved) :
    saved.map (SavedChoice.branch (run.backOut point saved)) =
      saved.map (SavedChoice.branch run) := by
  have within := nested.within point (by simp [savedCase])
  have descending := nested.descending
  rw [savedCase, List.pairwise_cons] at descending
  apply List.map_congr_left
  intro earlier member
  exact branch_backOut run point saved earlier (descending.1 earlier member) within

theorem branches_backOut (run : Lookahead α) (point : SavedChoice α) (saved : List (SavedChoice α))
    (faithful : Faithful run) (savedCase : run.saved = point :: saved) :
    Faithful ((run.backOut point saved).push point.cursor point.narrow) ∧
      ((run.backOut point saved).push point.cursor point.narrow).branches =
        run.saved.map (SavedChoice.branch run) := by
  obtain ⟨ordered, nested⟩ := faithful
  have bounds : InBounds run point.cursor := ordered.saved point (by simp [savedCase])
  have others : ∀ earlier ∈ saved, InBounds run earlier.cursor :=
    fun earlier member => ordered.saved earlier (by simp [savedCase, member])
  refine ⟨⟨ordered_push _ _ _ ordered.downwards bounds others,
    nested_push _ _ _ (nested_backOut run point saved nested savedCase)⟩, ?_⟩
  refine (branches_push (run.backOut point saved) _ _ bounds others).trans ?_
  rw [toList_decisions_backOut, savedCase]
  exact List.cons_eq_cons.mpr ⟨rfl, saved_branches_backOut run point saved nested savedCase⟩

theorem pop?_cases {run : Lookahead α} (ordered : Ordered run) :
    (run.pending run.cursor = [] ∧ run.pop? = .ok none) ∨
      ∃ entry cursor, run.pop? = .ok (some (entry, cursor)) ∧ InBounds run cursor ∧
        cursor.column = run.cursor.column ∧
        run.pending run.cursor = entry :: run.pending cursor := by
  have popped := pop?_of_ordered run ordered
  split at popped
  · exact .inl ⟨by assumption, popped⟩
  · rename_i entry left pendingCase
    obtain ⟨cursor, popCase, bounds, column, rest⟩ := popped
    exact .inr ⟨entry, cursor, popCase, bounds, column, by rw [pendingCase, rest]⟩

/-- What a run does next: it gives up, backs out, has come to the end of the entries, or displays the
next one. -/
inductive Turn (run : Lookahead α) : Prop
  | tooWide (tooWide : run.width < run.cursor.column) (nothing : run.saved = [])
      (stops : run.step = .tooWide)
  | backOut (point : SavedChoice α) (saved : List (SavedChoice α))
      (tooWide : run.width < run.cursor.column) (savedCase : run.saved = point :: saved)
      (goes : run.step = .going ((run.backOut point saved).push point.cursor point.narrow))
  | finished (narrowEnough : ¬ run.width < run.cursor.column)
      (nothing : run.pending run.cursor = []) (stops : run.step = .fits run.decisions)
  | displays (entry : Entry α) (cursor : Cursor) (narrowEnough : ¬ run.width < run.cursor.column)
      (popCase : run.pop? = .ok (some (entry, cursor))) (bounds : InBounds run cursor)
      (column : cursor.column = run.cursor.column)
      (pendingCase : run.pending run.cursor = entry :: run.pending cursor)
      (displays : run.step = run.display cursor entry)

theorem Ordered.turn {run : Lookahead α} (ordered : Ordered run) : Turn run := by
  by_cases tooWide : run.width < run.cursor.column
  · cases savedCase : run.saved with
    | nil =>
      apply Turn.tooWide tooWide savedCase
      rw [step, if_pos tooWide, savedCase]
    | cons point saved =>
      apply Turn.backOut point saved tooWide savedCase
      rw [step, if_pos tooWide, savedCase]
      rfl
  · rcases pop?_cases ordered with ⟨nothing, popCase⟩ | ⟨entry, cursor, popCase, bounds, column, rest⟩
    · apply Turn.finished tooWide nothing
      rw [step, if_neg tooWide, popCase]
    · apply Turn.displays entry cursor tooWide popCase bounds column rest
      rw [step, if_neg tooWide, popCase]

/-- A step of the look-ahead is a step of the search over copies. -/
theorem step_moves (run : Lookahead α) (faithful : Faithful run) :
    Keeps run run.step ∧
      Copying.Moves run.width run.tabWidth run.branches run.step.copied := by
  cases faithful.ordered.turn with
  | tooWide tooWide nothing stops =>
    rw [stops, branches, nothing]
    exact ⟨trivial, .tooWide tooWide⟩
  | backOut point saved tooWide savedCase goes =>
    obtain ⟨kept, same⟩ := branches_backOut run point saved faithful savedCase
    rw [goes, Progress.copied, same, branches, savedCase]
    exact ⟨⟨kept, rfl, rfl⟩, .backOut tooWide⟩
  | finished narrowEnough nothing stops =>
    rw [stops, branches, nothing]
    exact ⟨trivial, .finished narrowEnough⟩
  | displays entry cursor narrowEnough _ bounds column pendingCase displays =>
    rw [displays, branches, pendingCase, ← column]
    rw [← column] at narrowEnough
    exact display_moves run cursor entry faithful bounds narrowEnough

theorem result_eq_search (run : Lookahead α) (ordered : Ordered run) (faithful : Faithful run) :
    (result run ordered).map (Option.map Array.toList) =
      Copying.search run.width run.tabWidth run.branches := by
  obtain ⟨kept, moves⟩ := step_moves run faithful
  rw [result, Copying.search_of_moves moves]
  split
  · rename_i next progress
    rw [progress] at kept
    obtain ⟨faithful', width, tabWidth⟩ := kept
    rw [result_eq_search next _ faithful', width, tabWidth, progress]
    rfl
  · rename_i decisions progress
    rw [progress]
    rfl
  · rename_i progress
    rw [progress]
    rfl
  · rename_i fault progress
    rw [progress]
    rfl
termination_by run.work
decreasing_by exact (step_going run ordered _ (by assumption)).2

theorem decide?_eq_search (width tabWidth : Nat) (waiting : Array (Entry α)) (column : Nat)
    (first : Entry α) :
    (decide? width tabWidth waiting column first).map (Option.map Array.toList) =
      Copying.search width tabWidth [⟨column, first :: waiting.toList.reverse, []⟩] := by
  rw [decide?, result_eq_search _ _ (start_faithful ..), branches_start]
  rfl

end Lookahead

end LineLayout
