import Mathlib.Logic.ExistsUnique
import LineLayout.Proofs.Lookahead.Exact
/-!
Cursors are snapshots. Cells are never removed and link downwards only, so a cursor that was saved
at a choice stands, as long as it is kept, for the entries it stood for when it was saved.
-/
namespace LineLayout.Lookahead

variable {α : Type} {run next last origin : Lookahead α} {cursor : Cursor} {point : SavedChoice α}

def resume (run : Lookahead α) (cursor : Cursor) : Lookahead α :=
  { run with cursor := cursor }

/-- Whether taking one entry after the other from a cursor gives these entries and then ends. -/
inductive Unrolls (run : Lookahead α) : Cursor → List (Entry α) → Prop
  | done {cursor : Cursor} (nothing : (run.resume cursor).pop? = .ok none) : Unrolls run cursor []
  | entry {cursor below : Cursor} {entry : Entry α} {later : List (Entry α)}
      (popped : (run.resume cursor).pop? = .ok (some (entry, below)))
      (onward : Unrolls run below later) : Unrolls run cursor (entry :: later)

theorem Unrolls.unique {entries entries' : List (Entry α)} (unrolls : Unrolls run cursor entries)
    (unrolls' : Unrolls run cursor entries') : entries = entries' := by
  induction unrolls generalizing entries' with
  | done nothing =>
    cases unrolls' with
    | done => rfl
    | entry popped =>
      rw [nothing] at popped
      cases popped
  | entry popped _ ih =>
    cases unrolls' with
    | done nothing =>
      rw [nothing] at popped
      cases popped
    | entry popped' onward' =>
      rw [popped] at popped'
      cases popped'
      rw [ih onward']

theorem Ordered.resume (ordered : Ordered run) (bounds : InBounds run cursor) :
    Ordered (run.resume cursor) :=
  ⟨ordered.downwards, bounds, ordered.saved⟩

theorem unrolls_pending (ordered : Ordered run) (bounds : InBounds run cursor) :
    Unrolls run cursor (run.pending cursor) := by
  generalize same : run.pending cursor = entries
  induction entries generalizing cursor with
  | nil =>
    rcases pop?_cases (ordered.resume bounds) with ⟨_, popped⟩ | ⟨_, _, _, _, _, split⟩
    · exact .done popped
    · cases same.symm.trans split
  | cons entry later ih =>
    rcases pop?_cases (ordered.resume bounds) with ⟨nothing, _⟩ | ⟨_, _, popped, below, _, split⟩
    · cases same.symm.trans nothing
    · cases same.symm.trans split
      exact .entry popped (ih below rfl)

theorem unrolls_iff {entries : List (Entry α)} (ordered : Ordered run)
    (bounds : InBounds run cursor) :
    Unrolls run cursor entries ↔ entries = run.pending cursor := by
  constructor
  · intro unrolls
    exact unrolls.unique (unrolls_pending ordered bounds)
  · rintro rfl
    exact unrolls_pending ordered bounds

theorem existsUnique_unrolls (ordered : Ordered run) (bounds : InBounds run cursor) :
    ∃! entries, Unrolls run cursor entries :=
  ⟨_, unrolls_pending ordered bounds, fun _ => (unrolls_iff ordered bounds).mp⟩

theorem Ordered.pop?_ne_error (ordered : Ordered run) (fault : Fault) :
    run.pop? ≠ .error fault := by
  rcases pop?_cases ordered with ⟨_, popped⟩ | ⟨_, _, popped, _⟩
  · rw [popped]
    exact nofun
  · rw [popped]
    exact nofun

/-- Whether the next step of a run saves this choice: the choice is displayed next, and the cursor
saved is the one below it. -/
structure Saves (run : Lookahead α) (point : SavedChoice α) : Prop where
  popped : ∃ wide, run.pop? =
    .ok (some (⟨point.narrow.indentation, .choice wide point.narrow.doc⟩, point.cursor))
  column : point.cursor.column = run.cursor.column
  decided : point.decided = run.decisions.size
  saved : ∃ next, run.step = .going next ∧ next.saved = point :: run.saved

theorem Saves.inBounds (saves : Saves run point) (ordered : Ordered run) :
    InBounds run point.cursor := by
  obtain ⟨wide, popCase⟩ := saves.popped
  rcases pop?_cases ordered with ⟨_, popped⟩ | ⟨_, _, popped, bounds, _⟩
  · cases popCase.symm.trans popped
  · cases popCase.symm.trans popped
    exact bounds

theorem saved_of_display {entry : Entry α} (faithful : Faithful run) (bounds : InBounds run cursor)
    (going : run.display cursor entry = .going next) (member : point ∈ next.saved) :
    point.branch next = point.branch run ∧
      (point ∈ run.saved ∨
        (∃ wide, entry = ⟨point.narrow.indentation, .choice wide point.narrow.doc⟩) ∧
          point.cursor = cursor ∧ point.decided = run.decisions.size ∧
          next.saved = point :: run.saved) := by
  obtain ⟨ordered, nested⟩ := faithful
  obtain ⟨indentation, doc⟩ := entry
  cases doc with
  | empty =>
    cases going
    exact ⟨rfl, .inl member⟩
  | text content label =>
    simp only [display] at going
    split at going <;> cases going
    exact ⟨rfl, .inl member⟩
  | newline => cases going
  | concat left right =>
    cases going
    have older : point ∈ run.saved := member
    have inside := ordered.saved point older
    have first := inBounds_push run cursor point.cursor ⟨indentation, right⟩ inside
    refine ⟨?_, .inl older⟩
    rw [branch_push _ _ _ _ first, branch_push _ _ _ _ inside]
  | indent body =>
    simp only [display] at going
    split at going <;> cases going
    exact ⟨branch_push _ _ _ _ (ordered.saved point member), .inl member⟩
  | hang body =>
    cases going
    exact ⟨branch_push _ _ _ _ (ordered.saved point member), .inl member⟩
  | choice wide narrow =>
    cases going
    -- What held of the choices saved before holds of the one saved now: its cursor is in bounds, and
    -- it comes after all decisions so far.
    have tried : ∀ saved : SavedChoice α,
        InBounds run saved.cursor → saved.decided ≤ run.decisions.size →
        saved.branch ((run.save cursor ⟨indentation, narrow⟩).push cursor ⟨indentation, wide⟩) =
          saved.branch run := by
      intro saved inside within
      calc
        saved.branch ((run.save cursor ⟨indentation, narrow⟩).push cursor ⟨indentation, wide⟩) =
            saved.branch (run.save cursor ⟨indentation, narrow⟩) := branch_push _ _ _ _ inside
        _ = saved.branch run := branch_save run cursor saved _ within
    rcases List.mem_cons.mp member with rfl | older
    · exact ⟨tried _ bounds (Nat.le_refl _), .inr ⟨⟨wide, rfl⟩, rfl, rfl, rfl⟩⟩
    · exact ⟨tried point (ordered.saved point older) (nested.within point older), .inl older⟩

/-- A choice that is saved after a step was saved before, or the step saves it. Either way it stands
for what it stood for before the step. -/
theorem saved_of_step (faithful : Faithful run) (going : run.step = .going next)
    (member : point ∈ next.saved) :
    point.branch next = point.branch run ∧ (point ∈ run.saved ∨ Saves run point) := by
  cases faithful.ordered.turn with
  | tooWide _ _ stops => cases going.symm.trans stops
  | finished _ _ stops => cases going.symm.trans stops
  | backOut latest saved _ savedCase goes =>
    cases going.symm.trans goes
    have older : point ∈ saved := member
    have inside := faithful.ordered.saved point (by simp [savedCase, older])
    have within := faithful.nested.within latest (by simp [savedCase])
    have descending := faithful.nested.descending
    rw [savedCase, List.pairwise_cons] at descending
    have before := descending.1 point older
    constructor
    · calc
        point.branch ((run.backOut latest saved).push latest.cursor latest.narrow) =
            point.branch (run.backOut latest saved) := branch_push _ _ _ _ inside
        _ = point.branch run := branch_backOut run latest saved point before within
    · rw [savedCase]
      exact .inl (List.mem_cons_of_mem _ older)
  | displays entry cursor _ popCase bounds column _ displays =>
    obtain ⟨same, older | ⟨⟨wide, rfl⟩, rfl, decided, saved⟩⟩ :=
      saved_of_display faithful bounds (displays.symm.trans going) member
    · exact ⟨same, .inl older⟩
    · exact ⟨same, .inr ⟨⟨wide, popCase⟩, column, decided, next, going, saved⟩⟩

theorem Reaches.saved (reaches : run.Reaches last) (faithful : Faithful run)
    (member : point ∈ last.saved) :
    (point ∈ run.saved ∧ point.branch last = point.branch run) ∨
      ∃ made, run.Reaches made ∧ Saves made point ∧ made.Reaches last ∧
        point.branch last = point.branch made := by
  induction reaches with
  | here => exact .inl ⟨member, rfl⟩
  | @going run next last progress onward ih =>
    -- If the rest of the run has not saved the choice, its first step did, or it was there before.
    have kept := (step_moves run faithful).1
    rw [progress] at kept
    rcases ih kept.1 member with ⟨older, same⟩ | ⟨made, reaches, saves, later, same⟩
    · obtain ⟨before, older | saves⟩ := saved_of_step faithful progress older
      · exact .inl ⟨older, same.trans before⟩
      · exact .inr ⟨run, .here run, saves, .going progress onward, same.trans before⟩
    · exact .inr ⟨made, .going progress reaches, saves, later, same⟩

structure Snapshots (origin run : Lookahead α) : Prop where
  /-- All positions are in bounds, and every link leads downwards. -/
  ordered : Ordered run
  current : ∃! entries, Unrolls run run.cursor entries
  saved : ∀ point ∈ run.saved, ∃ made, origin.Reaches made ∧ Saves made point ∧ made.Reaches run ∧
    (∃! entries, Unrolls made point.cursor entries) ∧
    (∀ entries, Unrolls run point.cursor entries ↔ Unrolls made point.cursor entries) ∧
    run.decisions.toList.take point.decided = made.decisions.toList
  unbroken : (∀ fault, run.pop? ≠ .error fault) ∧ run.step ≠ .fault .brokenLink

theorem snapshots_of_reaches (faithful : Faithful origin) (fresh : origin.saved = [])
    (reaches : origin.Reaches run) : Snapshots origin run := by
  have faithful' : Faithful run := reaches.faithful faithful
  have ordered := faithful'.ordered
  refine ⟨ordered, existsUnique_unrolls ordered ordered.cursor, ?saved,
    ordered.pop?_ne_error, ?unbroken⟩
  case saved =>
    intro point member
    rcases reaches.saved faithful member with ⟨older, _⟩ | ⟨made, before, saves, after, same⟩
    · rw [fresh] at older
      cases older
    · have orderedThen := (before.faithful faithful).ordered
      have boundsThen := saves.inBounds orderedThen
      have bounds := ordered.saved point member
      obtain ⟨_, entries, decisions⟩ := Copying.Point.mk.inj same
      have pending := (List.cons.inj entries).2
      refine ⟨made, before, saves, after, existsUnique_unrolls orderedThen boundsThen, ?_, ?_⟩
      · intro entries
        rw [unrolls_iff ordered bounds, unrolls_iff orderedThen boundsThen, pending]
      · calc
          run.decisions.toList.take point.decided = made.decisions.toList.take point.decided :=
            List.append_cancel_right decisions
          _ = made.decisions.toList := by
            rw [saves.decided, ← Array.length_toList, List.take_length]
  case unbroken =>
    intro met
    cases eq_overflow_of_step faithful' met

/-- In every run that a look-ahead goes through, all cursors are snapshots and no link is broken.
So it answers as the search does that copies what is left to display at every choice. -/
theorem cursors_are_snapshots (width tabWidth : Nat) (waiting : Array (Entry α)) (column : Nat)
    (first : Entry α) :
    (∀ run, (start width tabWidth waiting column first).Reaches run →
      Snapshots (start width tabWidth waiting column first) run) ∧
    (decide? width tabWidth waiting column first).map (Option.map Array.toList) =
      Copying.search width tabWidth [⟨column, first :: waiting.toList.reverse, []⟩] := by
  constructor
  · intro run reaches
    exact snapshots_of_reaches (start_faithful ..) rfl reaches
  · exact decide?_eq_search width tabWidth waiting column first

def breakBefore : Doc Unit :=
  .concat (.choice (.text "aa" none) .newline) (.text "b" none)

def overlong : Lookahead Unit where
  width := 2
  tabWidth := 4
  waiting := #[]
  cells := #[⟨⟨0, breakBefore⟩, none⟩, ⟨⟨0, .text "b" none⟩, none⟩,
    ⟨⟨0, .choice (.text "aa" none) .newline⟩, some 1⟩, ⟨⟨0, .text "aa" none⟩, some 1⟩]
  saved := [⟨⟨0, some 1, 0⟩, ⟨0, .newline⟩, 0⟩]
  decisions := #[true]
  cursor := ⟨3, none, 0⟩

theorem reaches_overlong : (start 2 4 #[] 0 ⟨0, breakBefore⟩).Reaches overlong :=
  .going rfl (.going rfl (.going rfl (.going rfl (.here overlong))))

theorem overlong_snapshots :
    (start 2 4 #[] 0 ⟨0, breakBefore⟩).Reaches overlong ∧
    Snapshots (start 2 4 #[] 0 ⟨0, breakBefore⟩) overlong ∧
    Unrolls overlong overlong.cursor [] ∧
    Unrolls overlong ⟨0, some 1, 0⟩ [⟨0, .text "b" none⟩] := by
  have snapshots := (cursors_are_snapshots 2 4 #[] 0 ⟨0, breakBefore⟩).1 overlong reaches_overlong
  refine ⟨reaches_overlong, snapshots, ?_, ?_⟩
  · exact .done rfl
  · exact .entry rfl (.done rfl)

end LineLayout.Lookahead
