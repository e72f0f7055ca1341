import LineLayout.Layout.Printer
/-!
Trails: the steps that lead from one printer to another, and what can be observed on the way.
-/
namespace LineLayout.Printer

variable {α : Type}

/-- The first printer reaches the second one, and the events are observed on the way. -/
inductive Trail : Printer α → List (Event α) → Printer α → Prop
  | here (printer : Printer α) : Trail printer [] printer
  | silent {printer next last : Printer α} {events : List (Event α)} :
    printer.step = .silent next → Trail next events last → Trail printer events last
  | resolved {printer next last : Printer α} {events : List (Event α)} {column : Nat}
      {wide : Bool} :
    printer.step = .resolved column wide next → Trail next events last →
    Trail printer (.choice column wide :: events) last
  | shows {printer next last : Printer α} {events : List (Event α)}
      {fragment : Fragment α} :
    printer.step = .shows fragment next → Trail next events last →
    Trail printer (.fragment fragment :: events) last

def Reachable (settings : Settings) (d : Doc α) (printer : Printer α) : Prop :=
  ∃ events, Trail (start settings d) events printer

def entries (printer : Printer α) : List (Entry α) := printer.stack.toList.reverse

def Event.shown (events : List (Event α)) : List (Fragment α) :=
  events.filterMap fun
    | .fragment piece => some piece
    | .choice _ _ => none

def Event.resolved (events : List (Event α)) : List Bool :=
  events.filterMap fun
    | .fragment _ => none
    | .choice _ wide => some wide

/-- A printer at the start of a line of a document: nothing is displayed yet, or a line break was
displayed last. -/
def AtLineStart (settings : Settings) (d : Doc α) (printer : Printer α) : Prop :=
  printer = start settings d ∨ ∃ before indentation,
    Reachable settings d before ∧ before.step = .shows (.newline indentation) printer

def AtLineEnd (printer : Printer α) : Prop :=
  printer.step = .finished ∨ ∃ indentation next, printer.step = .shows (.newline indentation) next

def LooksAhead (printer : Printer α) : Prop :=
  printer.decided = [] ∧
    ∃ indentation wide narrow, printer.stack.back? = some ⟨indentation, .choice wide narrow⟩

theorem next?_remaining {printer next : Printer α} {fragment : Fragment α}
    (shown : printer.next? = .ok (some (fragment, next))) : next.remaining < printer.remaining := by
  fun_induction next? printer with
  | case1 => cases shown
  | case2 printer middle progress ih =>
    have smaller := step_remaining printer middle (by rw [progress]; rfl)
    exact Nat.lt_trans (ih shown) smaller
  | case3 printer column wide middle progress ih =>
    have smaller := step_remaining printer middle (by rw [progress]; rfl)
    exact Nat.lt_trans (ih shown) smaller
  | case4 printer fragment' middle progress =>
    cases shown
    exact step_remaining printer next (by rw [progress]; rfl)
  | case5 => cases shown

def collect (printer : Printer α) : Except Fault (List (Fragment α)) :=
  match _shown : printer.next? with
  | .ok none => .ok []
  | .ok (some (fragment, next)) => (collect next).map (fragment :: ·)
  | .error fault => .error fault
termination_by printer.remaining
decreasing_by exact next?_remaining _shown

def forget (printer : Printer α) : Printer α := { printer with decided := [] }

/-- Runs to the end, looking ahead anew at every choice. -/
def recordAnew (events : Array (Event α)) (printer : Printer α) : Record α :=
  match _progress : printer.forget.step with
  | .finished => ⟨events, none⟩
  | .silent next => recordAnew events next
  | .resolved column wide next => recordAnew (events.push (.choice column wide)) next
  | .shows fragment next => recordAnew (events.push (.fragment fragment)) next
  | .fault fault => ⟨events, some fault⟩
termination_by printer.remaining
decreasing_by all_goals exact step_remaining printer.forget _ (by simp [_progress, Progress.next?])

end LineLayout.Printer
