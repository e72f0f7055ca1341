import LineLayout.Doc.Context
import LineLayout.Proofs.Placement.Display
/-!
The way of a display to the hole of a context: it comes there if the decisions about the choices
around the hole lead there.
-/
namespace LineLayout.Printer

variable {α : Type}

/-- Whether a display from a printer to the last one, with these events, comes to a document with
these decisions left. -/
def ComesTo (d : Doc α) (left : List Bool) (printer : Printer α) (events : List (Event α))
    (last : Printer α) : Prop :=
  ∃ settings column indentation later decided before after,
    Trail printer before (ofEntries settings column (⟨indentation, d⟩ :: later) decided) ∧
    Trail (ofEntries settings column (⟨indentation, d⟩ :: later) decided) after last ∧
    events = before ++ after ∧ Event.resolved after = left

theorem ComesTo.after {d : Doc α} {left : List Bool} {first printer last : Printer α}
    {before events : List (Event α)} (trail : Trail first before printer)
    (comes : ComesTo d left printer events last) :
    ComesTo d left first (before ++ events) last := by
  obtain ⟨_, _, _, _, _, between, after, reaches, onward, rfl, same⟩ := comes
  refine ⟨_, _, _, _, _, _, after, trail.append reaches, onward, ?_, same⟩
  rw [List.append_assoc]

theorem comesTo_hole {settings : Settings} {column indentation : Nat} {context : Context α}
    {d : Doc α} {later : List (Entry α)} {decided left : List Bool} {events : List (Event α)}
    {last : Printer α}
    (trail : Trail (ofEntries settings column (⟨indentation, context.fill d⟩ :: later) decided)
      events last)
    (finished : last.step = .finished)
    (leads : context.decisionsAtHole (Event.resolved events) = some left) :
    ComesTo d left (ofEntries settings column (⟨indentation, context.fill d⟩ :: later) decided)
      events last := by
  induction context generalizing column indentation later decided events with
  | hole =>
    cases leads
    exact ⟨_, _, _, _, _, [], events, .here _, trail, rfl, rfl⟩
  | concatLeft front back ih =>
    obtain ⟨step, next, rest, moves, progress, first, onward, rfl⟩ := trail.exists_moves finished
    cases moves with
    | fault => cases progress
    | concat =>
      cases progress
      exact (ih onward leads).after first
  | concatRight front back ih =>
    obtain ⟨step, next, rest, moves, progress, first, onward, rfl⟩ := trail.exists_moves finished
    cases moves with
    | fault => cases progress
    | concat =>
      cases progress
      -- The display comes through the front with the decisions that resolving the front leaves.
      obtain ⟨_, _, shown, between, through, below, rfl, replays⟩ :=
        exists_trail_through onward finished
      obtain ⟨front', resolves, _⟩ := Doc.exists_resolve_of_replay replays
      have leads' : back.decisionsAtHole (Event.resolved between) = some left := by
        simpa [Context.decisionsAtHole, Progress.events, resolves] using leads
      exact ((ih below leads').after through).after first
  | indent body ih =>
    obtain ⟨step, next, rest, moves, progress, first, onward, rfl⟩ := trail.exists_moves finished
    cases moves with
    | fault => cases progress
    | indent =>
      cases progress
      exact (ih onward leads).after first
  | hang body ih =>
    obtain ⟨step, next, rest, moves, progress, first, onward, rfl⟩ := trail.exists_moves finished
    cases moves with
    | fault => cases progress
    | hang =>
      cases progress
      exact (ih onward leads).after first
  | choiceWide wide narrow ih =>
    obtain ⟨step, next, rest, moves, progress, first, onward, rfl⟩ := trail.exists_moves finished
    cases moves with
    | fault => cases progress
    | @choice _ _ _ _ isWide =>
      cases progress
      cases isWide with
      | true => exact (ih onward leads).after first
      | false => cases leads
  | choiceNarrow wide narrow ih =>
    obtain ⟨step, next, rest, moves, progress, first, onward, rfl⟩ := trail.exists_moves finished
    cases moves with
    | fault => cases progress
    | @choice _ _ _ _ isWide =>
      cases progress
      cases isWide with
      | true => cases leads
      | false => exact (ih onward leads).after first

/-- Whether the display of a document, after the earlier decisions, comes to a choice and resolves
it. -/
def Resolves (settings : Settings) (d wide narrow : Doc α) (earlier : List Bool) (isWide : Bool) :
    Prop :=
  ∃ before printer next indentation later,
    Trail (start settings d) before printer ∧ Event.resolved before = earlier ∧
    printer.entries = ⟨indentation, .choice wide narrow⟩ :: later ∧
    printer.step = .resolved printer.column isWide next

theorem ComesTo.resolves {settings : Settings} {d wide narrow : Doc α} {left : List Bool}
    {last : Printer α} {events : List (Event α)}
    (comes : ComesTo (.choice wide narrow) left (start settings d) events last)
    (finished : last.step = .finished) :
    ∃ earlier isWide later, left = isWide :: later ∧
      Event.resolved events = earlier ++ isWide :: later ∧
      Resolves settings d wide narrow earlier isWide := by
  obtain ⟨settings', column, indentation, later, decided, before, after, reaches, onward, same⟩ :=
    comes
  obtain ⟨rfl, rfl⟩ := same
  have moves := moves_step settings' column (⟨indentation, .choice wide narrow⟩ :: later) decided
  cases onward with
  | here =>
    have nothing := step_eq_finished_iff.mp finished
    rw [entries_ofEntries] at nothing
    cases nothing
  | silent progress _ | shows progress _ =>
    rw [progress] at moves
    cases moves
  | @resolved _ next _ rest logged isWide progress _ =>
    rw [column_of_step_resolved progress] at progress
    refine ⟨Event.resolved before, isWide, Event.resolved rest, rfl, ?_, ?_⟩
    · rw [Event.resolved_append, Event.resolved_choice]
    · exact ⟨before, _, next, indentation, later, reaches, rfl, entries_ofEntries .., progress⟩

end LineLayout.Printer
