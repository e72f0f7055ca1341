import LineLayout.Layout.Printer
/-!
Outlooks: what is still to be displayed, as a function of the column at which it goes on. A document
turns the outlook after it into the outlook before it, by recursion on its structure; no stack, no
links and no earlier decisions are kept.
-/
namespace LineLayout

open Printer (Event)

theorem except_map_eq_ok {ε σ τ : Type} {f : σ → τ} {answer : Except ε σ} {result : τ}
    (equal : answer.map f = .ok result) : ∃ value, answer = .ok value ∧ f value = result := by
  cases answer with
  | error fault => cases equal
  | ok value => exact ⟨value, rfl, Except.ok.inj equal⟩

theorem except_bind_eq_ok {ε σ τ : Type} {f : σ → Except ε τ} {answer : Except ε σ} {result : τ}
    (equal : answer.bind f = .ok result) : ∃ value, answer = .ok value ∧ f value = .ok result := by
  cases answer with
  | error fault => cases equal
  | ok value => exact ⟨value, rfl, equal⟩

/-- What is still to be displayed from a column on. -/
structure Outlook (settings : Settings) (α : Type) where
  /-- Whether the line can end within the width. -/
  fits : Nat → Except Fault Bool
  events : Nat → Except Fault (List (Event α))
  /-- A line that is too long is not looked at any further. -/
  fits_of_tooWide : ∀ column, settings.width < column → fits column = .ok false
  /-- A fault met in looking ahead is met in the display as well. -/
  events_of_fault : ∀ column fault, fits column = .error fault → events column = .error fault

namespace Outlook

variable {settings : Settings} {α : Type}

def finished : Outlook settings α where
  fits column := .ok (column ≤ settings.width)
  events _ := .ok []
  fits_of_tooWide column tooWide := by simp [tooWide]
  events_of_fault := nofun

/-- The display ends with a fault; a look-ahead from a line that is too long does not get so far. -/
def stopped (fault : Fault) : Outlook settings α where
  fits column := if settings.width < column then .ok false else .error fault
  events _ := .error fault
  fits_of_tooWide column tooWide := if_pos tooWide
  events_of_fault column met equal := by
    split at equal <;> cases equal
    rfl

def text (content : String) (label : Option α) (rest : Outlook settings α) :
    Outlook settings α where
  fits column :=
    if settings.width < column then .ok false
    else (addColumns column content.length).bind rest.fits
  events column := (addColumns column content.length).bind fun next =>
    (rest.events next).map (.fragment (.text content label) :: ·)
  fits_of_tooWide column tooWide := if_pos tooWide
  events_of_fault column fault equal := by
    split at equal
    · cases equal
    · cases sum : addColumns column content.length with
      | error fault' =>
        rw [sum] at equal
        cases equal
        rfl
      | ok next =>
        rw [sum] at equal
        exact congrArg (Except.map _) (rest.events_of_fault next fault equal)

def newline (indentation : Nat) (rest : Outlook settings α) : Outlook settings α where
  fits column := .ok (column ≤ settings.width)
  events _ := (lineBreakLength indentation).bind fun _ =>
    (rest.events indentation).map (.fragment (.newline indentation) :: ·)
  fits_of_tooWide column tooWide := by simp [tooWide]
  events_of_fault := nofun

def atColumn (start : Nat → Outlook settings α) : Outlook settings α where
  fits column := (start column).fits column
  events column := (start column).events column
  fits_of_tooWide column := (start column).fits_of_tooWide column
  events_of_fault column := (start column).events_of_fault column

def choice (wide narrow : Outlook settings α) : Outlook settings α where
  fits column :=
    match wide.fits column with
    | .ok true => .ok true
    | .ok false => narrow.fits column
    | .error fault => .error fault
  events column :=
    match wide.fits column with
    | .ok true => (wide.events column).map (.choice column true :: ·)
    | .ok false => (narrow.events column).map (.choice column false :: ·)
    | .error fault => .error fault
  fits_of_tooWide column tooWide := by
    rw [wide.fits_of_tooWide column tooWide]
    exact narrow.fits_of_tooWide column tooWide
  events_of_fault column fault equal := by
    cases fits : wide.fits column with
    | error fault' =>
      rw [fits] at equal
      cases equal
      rfl
    | ok answer =>
      rw [fits] at equal
      cases answer with
      | true => cases equal
      | false => exact congrArg (Except.map _) (narrow.events_of_fault column fault equal)

theorem events_text {content : String} {label : Option α} {rest : Outlook settings α}
    {column : Nat} {events : List (Event α)}
    (display : (rest.text content label).events column = .ok events) :
    ∃ next later, addColumns column content.length = .ok next ∧ rest.events next = .ok later ∧
      events = .fragment (.text content label) :: later := by
  obtain ⟨next, sum, onward⟩ := except_bind_eq_ok display
  obtain ⟨later, goesOn, same⟩ := except_map_eq_ok onward
  exact ⟨next, later, sum, goesOn, same.symm⟩

theorem fits_text {content : String} {label : Option α} {rest : Outlook settings α}
    {column : Nat} {answer : Bool} (answered : (rest.text content label).fits column = .ok answer) :
    (settings.width < column ∧ answer = false) ∨
      rest.fits (column + content.length) = .ok answer := by
  simp only [text] at answered
  split at answered
  · rename_i tooWide
    exact .inl ⟨tooWide, (Except.ok.inj answered).symm⟩
  · obtain ⟨next, sum, onward⟩ := except_bind_eq_ok answered
    obtain ⟨rfl, _⟩ := addColumns_eq_ok.mp sum
    exact .inr onward

theorem events_newline {indentation column : Nat} {rest : Outlook settings α}
    {events : List (Event α)} (display : (rest.newline indentation).events column = .ok events) :
    ∃ size later, lineBreakLength indentation = .ok size ∧ rest.events indentation = .ok later ∧
      events = .fragment (.newline indentation) :: later := by
  obtain ⟨size, length, onward⟩ := except_bind_eq_ok display
  obtain ⟨later, goesOn, same⟩ := except_map_eq_ok onward
  exact ⟨size, later, length, goesOn, same.symm⟩

theorem events_choice {wide narrow : Outlook settings α} {column : Nat} {events : List (Event α)}
    (display : (wide.choice narrow).events column = .ok events) :
    (∃ later, wide.fits column = .ok true ∧ wide.events column = .ok later ∧
      events = .choice column true :: later) ∨
    (∃ later, wide.fits column = .ok false ∧ narrow.events column = .ok later ∧
      events = .choice column false :: later) := by
  simp only [choice] at display
  cases fits : wide.fits column with
  | error fault =>
    rw [fits] at display
    cases display
  | ok answer =>
    rw [fits] at display
    cases answer with
    | true =>
      obtain ⟨later, goesOn, same⟩ := except_map_eq_ok display
      exact .inl ⟨later, rfl, goesOn, same.symm⟩
    | false =>
      obtain ⟨later, goesOn, same⟩ := except_map_eq_ok display
      exact .inr ⟨later, rfl, goesOn, same.symm⟩

theorem fits_choice_eq_false {wide narrow : Outlook settings α} {column : Nat} :
    (wide.choice narrow).fits column = .ok false ↔
      wide.fits column = .ok false ∧ narrow.fits column = .ok false := by
  simp only [choice]
  cases wide.fits column with
  | error fault => simp
  | ok answer => cases answer <;> simp

end Outlook

variable {settings : Settings} {α : Type}

/-- The outlook on a document at an indentation and then on the rest. -/
def Doc.before : Doc α → Nat → Outlook settings α → Outlook settings α
  | .empty, _, rest => rest
  | .text content label, _, rest => rest.text content label
  | .concat left right, indentation, rest =>
    left.before indentation (right.before indentation rest)
  | .newline, indentation, rest => rest.newline indentation
  | .indent body, indentation, rest =>
    match addColumns indentation settings.tabWidth with
    | .ok deeper => body.before deeper rest
    | .error fault => .stopped fault
  | .hang body, _, rest => .atColumn fun column => body.before column rest
  | .choice wide narrow, indentation, rest =>
    (wide.before indentation rest).choice (narrow.before indentation rest)

def Outlook.ofEntries : List (Entry α) → Outlook settings α
  | [] => finished
  | entry :: later => entry.doc.before entry.indentation (ofEntries later)

def Doc.outlook (settings : Settings) (d : Doc α) : Outlook settings α := d.before 0 .finished

end LineLayout
