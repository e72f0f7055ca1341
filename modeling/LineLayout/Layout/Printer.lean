import LineLayout.Layout.Fragment
import LineLayout.Layout.Lookahead.Run
import LineLayout.Layout.Settings
/-!
The printer: displays a document fragment by fragment, resolving each choice when it reaches it.
-/
namespace LineLayout

structure Printer (α : Type) where
  width : Nat
  tabWidth : Nat
  column : Nat
  /-- What is still to be displayed, the next entry at the end. -/
  stack : Array (Entry α)
  /-- How the next choices will be resolved, as the last look-ahead found; `true` is wide. -/
  decided : List Bool

namespace Printer

variable {α : Type}

inductive Progress (α : Type) where
  | finished
  | silent (next : Printer α)
  | resolved (column : Nat) (wide : Bool) (next : Printer α)
  | shows (fragment : Fragment α) (next : Printer α)
  | fault (fault : Fault)

def start (settings : Settings) (d : Doc α) : Printer α :=
  ⟨settings.width, settings.tabWidth, 0, #[⟨0, d⟩], []⟩

/-- Resolves a choice whose wide option is `wide`, from what was decided before or else by looking
ahead; also gives what is decided for the choices after it. -/
def choose (printer : Printer α) (wide : Entry α) : Except Fault (Bool × List Bool) :=
  match printer.decided with
  | decision :: decided => .ok (decision, decided)
  | [] =>
    match Lookahead.decide? printer.width printer.tabWidth printer.stack printer.column wide with
    | .ok (some decisions) => .ok (true, decisions.toList)
    | .ok none => .ok (false, [])
    | .error fault => .error fault

def display (printer : Printer α) (entry : Entry α) : Progress α :=
  match entry.doc with
  | .empty => .silent printer
  | .text content label =>
    match addColumns printer.column content.length with
    | .ok column => .shows (.text content label) { printer with column := column }
    | .error fault => .fault fault
  | .concat left right =>
    .silent { printer with
      stack := (printer.stack.push { entry with doc := right }).push { entry with doc := left } }
  | .newline =>
    match lineBreakLength entry.indentation with
    | .ok _ => .shows (.newline entry.indentation) { printer with column := entry.indentation }
    | .error fault => .fault fault
  | .indent body =>
    match addColumns entry.indentation printer.tabWidth with
    | .ok indentation => .silent { printer with stack := printer.stack.push ⟨indentation, body⟩ }
    | .error fault => .fault fault
  | .hang body => .silent { printer with stack := printer.stack.push ⟨printer.column, body⟩ }
  | .choice wide narrow =>
    match printer.choose { entry with doc := wide } with
    | .ok (isWide, decided) =>
      .resolved printer.column isWide { printer with
        stack := printer.stack.push { entry with doc := if isWide then wide else narrow }
        decided := decided }
    | .error fault => .fault fault

def step (printer : Printer α) : Progress α :=
  match printer.stack.back? with
  | none => .finished
  | some entry => { printer with stack := printer.stack.pop }.display entry

def remaining (printer : Printer α) : Nat :=
  total (fun entry => entry.doc.size) printer.stack.toList

def Progress.next? : Progress α → Option (Printer α)
  | silent next | resolved _ _ next | shows _ next => some next
  | finished | fault _ => none

theorem display_remaining (printer next : Printer α) (entry : Entry α)
    (progress : (printer.display entry).next? = some next) :
    next.remaining < printer.remaining + entry.doc.size := by
  obtain ⟨indentation, doc⟩ := entry
  cases doc with
  | empty =>
    cases progress
    simp [Doc.size]
  | text content label =>
    simp only [display] at progress
    split at progress <;> cases progress
    simp [remaining, Doc.size]
  | concat left right =>
    cases progress
    simp [remaining, total_append, total, Doc.size]
    omega
  | newline =>
    simp only [display] at progress
    split at progress <;> cases progress
    simp [remaining, Doc.size]
  | indent body =>
    simp only [display] at progress
    split at progress <;> cases progress
    simp [remaining, total_append, total, Doc.size]
  | hang body =>
    cases progress
    simp [remaining, total_append, total, Doc.size]
  | choice wide narrow =>
    simp only [display] at progress
    split at progress <;> cases progress
    simp only [remaining, Array.toList_push, total_append, total, Doc.size]
    split <;> omega

theorem step_remaining (printer next : Printer α) (progress : printer.step.next? = some next) :
    next.remaining < printer.remaining := by
  unfold step at progress
  split at progress
  · cases progress
  · rename_i entry last
    have smaller := display_remaining _ _ _ progress
    obtain ⟨others, isLast⟩ := Array.back?_eq_some_iff.mp last
    simp only [remaining] at smaller ⊢
    rw [isLast] at smaller ⊢
    simpa [total_append, total] using smaller

def next? (printer : Printer α) : Except Fault (Option (Fragment α × Printer α)) :=
  match _progress : printer.step with
  | .finished => .ok none
  | .silent next => next.next?
  | .resolved _ _ next => next.next?
  | .shows fragment next => .ok (some (fragment, next))
  | .fault fault => .error fault
termination_by printer.remaining
decreasing_by all_goals exact step_remaining _ _ (by simp [_progress, Progress.next?])

inductive Event (α : Type) where
  | fragment (fragment : Fragment α)
  | choice (column : Nat) (wide : Bool)
  deriving DecidableEq, Repr

/-- Everything observed, in order, and the fault that ended it, if one did. -/
structure Record (α : Type) where
  events : Array (Event α)
  fault : Option Fault
  deriving Repr

def recordAfter (events : Array (Event α)) (printer : Printer α) : Record α :=
  match _progress : printer.step with
  | .finished => ⟨events, none⟩
  | .silent next => recordAfter events next
  | .resolved column wide next => recordAfter (events.push (.choice column wide)) next
  | .shows fragment next => recordAfter (events.push (.fragment fragment)) next
  | .fault fault => ⟨events, some fault⟩
termination_by printer.remaining
decreasing_by all_goals exact step_remaining _ _ (by simp [_progress, Progress.next?])

end Printer

namespace Doc

variable {α : Type}

def record (settings : Settings) (d : Doc α) : Printer.Record α :=
  Printer.recordAfter #[] (Printer.start settings d)

end Doc

namespace Printer.Record

variable {α : Type}

def fragments (record : Record α) : List (Fragment α) :=
  record.events.toList.filterMap fun
    | .fragment fragment => some fragment
    | .choice _ _ => none

def decisions (record : Record α) : List Bool :=
  record.events.toList.filterMap fun
    | .fragment _ => none
    | .choice _ wide => some wide

def complete (record : Record α) : Except Fault (List (Fragment α)) :=
  match record.fault with
  | none => .ok record.fragments
  | some fault => .error fault

end Printer.Record

namespace Doc

variable {α : Type}

def render (settings : Settings) (d : Doc α) : Except Fault (List (Fragment α)) :=
  (d.record settings).complete

def pretty (settings : Settings) (d : Doc α) : Except Fault String :=
  (d.render settings).map Fragment.plainText

end Doc

end LineLayout
