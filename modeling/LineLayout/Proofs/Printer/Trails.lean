import LineLayout.Proofs.Printer.Steps
/-!
Trails: the record of a display is a trail to its end, and a trail passes the end of its first line.
-/
namespace LineLayout.Printer

variable {α : Type}

namespace Event

def firstLine : List (Event α) → List (Event α)
  | [] | .fragment (.newline _) :: _ => []
  | event :: later => event :: firstLine later

def columnAfter : Nat → List (Event α) → Nat
  | column, [] => column
  | column, .choice _ _ :: later => columnAfter column later
  | column, .fragment (.text content _) :: later => columnAfter (column + content.length) later
  | _, .fragment (.newline indentation) :: later => columnAfter indentation later

@[simp] theorem shown_fragment (piece : Fragment α) (later : List (Event α)) :
    shown (.fragment piece :: later) = piece :: shown later := rfl

@[simp] theorem shown_choice (column : Nat) (wide : Bool) (later : List (Event α)) :
    shown (.choice column wide :: later) = shown later := rfl

@[simp] theorem shown_append (events events' : List (Event α)) :
    shown (events ++ events') = shown events ++ shown events' := List.filterMap_append

@[simp] theorem resolved_choice (column : Nat) (wide : Bool) (later : List (Event α)) :
    resolved (.choice column wide :: later) = wide :: resolved later := rfl

theorem resolved_append (events events' : List (Event α)) :
    resolved (events ++ events') = resolved events ++ resolved events' := List.filterMap_append

@[simp] theorem firstLine_choice (column : Nat) (wide : Bool) (later : List (Event α)) :
    firstLine (.choice column wide :: later) = .choice column wide :: firstLine later := rfl

end Event

theorem next?_eq (printer : Printer α) : printer.next? =
    match printer.step with
    | .finished => .ok none
    | .silent next | .resolved _ _ next => next.next?
    | .shows fragment next => .ok (some (fragment, next))
    | .fault fault => .error fault := by
  rw [next?]
  split <;> simp only [*]

theorem collect_eq (printer : Printer α) : printer.collect =
    match printer.step with
    | .finished => .ok []
    | .silent next | .resolved _ _ next => next.collect
    | .shows fragment next => next.collect.map (fragment :: ·)
    | .fault fault => .error fault := by
  have unfolded : ∀ printer : Printer α, printer.collect =
      match printer.next? with
      | .ok none => .ok []
      | .ok (some (fragment, next)) => next.collect.map (fragment :: ·)
      | .error fault => .error fault := by
    intro printer
    rw [collect]
    split <;> simp only [*]
  rw [unfolded, next?_eq]
  cases printer.step with
  | silent next => exact (unfolded next).symm
  | resolved column wide next => exact (unfolded next).symm
  | finished | shows | fault => rfl

theorem complete_recordAfter (events : Array (Event α)) (printer : Printer α) :
    (recordAfter events printer).complete =
      printer.collect.map (Event.shown events.toList ++ ·) := by
  rw [recordAfter_eq, collect_eq]
  cases progress : printer.step with
  | finished => exact congrArg Except.ok (List.append_nil _).symm
  | fault fault => rfl
  | silent next => exact complete_recordAfter events next
  | resolved column wide next =>
    refine (complete_recordAfter (events.push (.choice column wide)) next).trans ?_
    simp [Event.shown]
  | shows fragment next =>
    refine (complete_recordAfter (events.push (.fragment fragment)) next).trans ?_
    dsimp only
    cases next.collect <;> simp [Event.shown, Except.map]
termination_by printer.remaining
decreasing_by all_goals exact step_remaining _ _ (by rw [progress]; rfl)

theorem render_eq_collect (settings : Settings) (d : Doc α) :
    d.render settings = (start settings d).collect := by
  refine (complete_recordAfter #[] (start settings d)).trans ?_
  cases (start settings d).collect <;> rfl

def Stopped (printer : Printer α) : Option Fault → Prop
  | none => printer.step = .finished
  | some fault => printer.step = .fault fault

/-- A record lists the events of the trail to the printer at which the display ends. -/
theorem exists_trail_of_recordAfter (printer : Printer α) (events : Array (Event α)) :
    ∃ shown last, Trail printer shown last ∧
      (recordAfter events printer).events.toList = events.toList ++ shown ∧
      Stopped last (recordAfter events printer).fault := by
  rw [recordAfter_eq]
  cases progress : printer.step with
  | finished => exact ⟨[], printer, .here printer, by simp, progress⟩
  | fault fault => exact ⟨[], printer, .here printer, by simp, progress⟩
  | silent next =>
    obtain ⟨shown, last, trail, listed, stopped⟩ := exists_trail_of_recordAfter next events
    exact ⟨shown, last, .silent progress trail, listed, stopped⟩
  | resolved column wide next =>
    obtain ⟨shown, last, trail, listed, stopped⟩ :=
      exists_trail_of_recordAfter next (events.push (.choice column wide))
    exact ⟨_, last, .resolved progress trail, by simpa using listed, stopped⟩
  | shows fragment next =>
    obtain ⟨shown, last, trail, listed, stopped⟩ :=
      exists_trail_of_recordAfter next (events.push (.fragment fragment))
    exact ⟨_, last, .shows progress trail, by simpa using listed, stopped⟩
termination_by printer.remaining
decreasing_by all_goals exact step_remaining _ _ (by rw [progress]; rfl)

theorem trail_of_render {settings : Settings} {d : Doc α} {fragments : List (Fragment α)}
    (complete : d.render settings = .ok fragments) :
    ∃ last, Trail (start settings d) (d.record settings).events.toList last ∧
      last.step = .finished ∧ fragments = Event.shown (d.record settings).events.toList := by
  obtain ⟨events, last, trail, listed, stopped⟩ :=
    exists_trail_of_recordAfter (start settings d) #[]
  change (d.record settings).events.toList = [] ++ events at listed
  change Stopped last (d.record settings).fault at stopped
  unfold Doc.render Record.complete at complete
  split at complete
  · rename_i noFault
    cases complete
    rw [noFault] at stopped
    rw [List.nil_append] at listed
    exact ⟨last, listed ▸ trail, stopped, rfl⟩
  · cases complete

theorem exists_trail_of_render {settings : Settings} {d : Doc α} {fragments : List (Fragment α)}
    (complete : d.render settings = .ok fragments) :
    ∃ events last, Trail (start settings d) events last ∧ last.step = .finished ∧
      fragments = Event.shown events := by
  obtain ⟨last, trail, finished, shown⟩ := trail_of_render complete
  exact ⟨_, last, trail, finished, shown⟩

theorem Trail.append {first middle last : Printer α} {events events' : List (Event α)}
    (trail : Trail first events middle) (trail' : Trail middle events' last) :
    Trail first (events ++ events') last := by
  induction trail with
  | here => exact trail'
  | silent progress _ ih => exact .silent progress (ih trail')
  | resolved progress _ ih => exact .resolved progress (ih trail')
  | shows progress _ ih => exact .shows progress (ih trail')

theorem Trail.split {first middle last : Printer α} {events events' : List (Event α)}
    (trail : Trail first events last) (stopped : last.step.next? = none)
    (trail' : Trail first events' middle) :
    ∃ left, Trail middle left last ∧ events = events' ++ left := by
  induction trail' generalizing events with
  | here => exact ⟨events, trail, rfl⟩
  | silent progress' _ ih =>
    cases trail with
    | here => simp [progress', Progress.next?] at stopped
    | silent progress rest =>
      cases progress'.symm.trans progress
      exact ih rest
    | resolved progress _ => cases progress'.symm.trans progress
    | shows progress _ => cases progress'.symm.trans progress
  | resolved progress' _ ih =>
    cases trail with
    | here => simp [progress', Progress.next?] at stopped
    | silent progress _ => cases progress'.symm.trans progress
    | resolved progress rest =>
      cases progress'.symm.trans progress
      obtain ⟨left, trail, rfl⟩ := ih rest
      exact ⟨left, trail, rfl⟩
    | shows progress _ => cases progress'.symm.trans progress
  | shows progress' _ ih =>
    cases trail with
    | here => simp [progress', Progress.next?] at stopped
    | silent progress _ => cases progress'.symm.trans progress
    | resolved progress _ => cases progress'.symm.trans progress
    | shows progress rest =>
      cases progress'.symm.trans progress
      obtain ⟨left, trail, rfl⟩ := ih rest
      exact ⟨left, trail, rfl⟩

theorem Trail.firstLine {printer last : Printer α} {events : List (Event α)}
    (trail : Trail printer events last) (finished : last.step = .finished) :
    ∃ lineEnd, Trail printer (Event.firstLine events) lineEnd ∧ lineEnd.AtLineEnd := by
  induction trail with
  | here => exact ⟨_, .here _, .inl finished⟩
  | silent progress _ ih =>
    obtain ⟨lineEnd, trail, ends⟩ := ih finished
    exact ⟨lineEnd, .silent progress trail, ends⟩
  | resolved progress _ ih =>
    obtain ⟨lineEnd, trail, ends⟩ := ih finished
    exact ⟨lineEnd, .resolved progress trail, ends⟩
  | @shows printer next _ _ fragment progress _ ih =>
    cases fragment with
    | text content label =>
      obtain ⟨lineEnd, trail, ends⟩ := ih finished
      exact ⟨lineEnd, .shows progress trail, ends⟩
    | newline indentation => exact ⟨printer, .here _, .inr ⟨indentation, next, progress⟩⟩

end LineLayout.Printer
