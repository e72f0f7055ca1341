import LineLayout.Layout.Printer
/-!
Layout by recursion on the structure of a document: of a document without choices, and of any
document whose choices are resolved by decisions given in advance.
-/
namespace LineLayout.Doc

variable {α : Type}

/-- The fragments of a document from an indentation and a column on, and the column after them. Only
documents without choices are meant; a choice places its wide option. -/
def place (tabWidth : Nat) : Doc α → Nat → Nat → List (Fragment α) × Nat
  | empty, _, column => ([], column)
  | text content label, _, column => ([.text content label], column + content.length)
  | newline, indentation, _ => ([.newline indentation], indentation)
  | concat left right, indentation, column =>
    let (first, between) := left.place tabWidth indentation column
    let (second, last) := right.place tabWidth indentation between
    (first ++ second, last)
  | indent body, indentation, column => body.place tabWidth (indentation + tabWidth) column
  | hang body, _, column => body.place tabWidth column column
  | choice wide _, indentation, column => wide.place tabWidth indentation column

def columns (tabWidth : Nat) : Doc α → Nat → Nat → List Nat
  | empty, _, _ => []
  | text content _, _, column => [column + content.length]
  | newline, indentation, _ => [indentation]
  | concat left right, indentation, column =>
    left.columns tabWidth indentation column ++
      right.columns tabWidth indentation (left.place tabWidth indentation column).2
  | indent body, indentation, column => body.columns tabWidth (indentation + tabWidth) column
  | hang body, _, column => body.columns tabWidth column column
  | choice wide _, indentation, column => wide.columns tabWidth indentation column

structure Replayed (α : Type) where
  events : List (Printer.Event α)
  column : Nat
  decisions : List Bool
  deriving Repr

/-- Displays a document from an indentation and a column on, resolving its choices by the decisions
in display order; `none` if they run out. -/
def replay (tabWidth : Nat) : Doc α → Nat → Nat → List Bool → Option (Replayed α)
  | empty, _, column, decisions => some ⟨[], column, decisions⟩
  | text content label, _, column, decisions =>
    some ⟨[.fragment (.text content label)], column + content.length, decisions⟩
  | newline, indentation, _, decisions =>
    some ⟨[.fragment (.newline indentation)], indentation, decisions⟩
  | concat left right, indentation, column, decisions => do
    let first ← left.replay tabWidth indentation column decisions
    let second ← right.replay tabWidth indentation first.column first.decisions
    return { second with events := first.events ++ second.events }
  | indent body, indentation, column, decisions =>
    body.replay tabWidth (indentation + tabWidth) column decisions
  | hang body, _, column, decisions => body.replay tabWidth column column decisions
  | choice _ _, _, _, [] => none
  | choice wide narrow, indentation, column, isWide :: decisions => do
    let chosen ← if isWide then wide.replay tabWidth indentation column decisions
      else narrow.replay tabWidth indentation column decisions
    return { chosen with events := .choice column isWide :: chosen.events }

end LineLayout.Doc
