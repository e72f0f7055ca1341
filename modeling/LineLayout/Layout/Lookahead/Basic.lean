import LineLayout.Doc.Basic
import LineLayout.Layout.Fault
/-!
Looking ahead: whether what is still to be displayed can end the current line within the width.

The run displays an entry and then the entries that wait below it, up to the first line break. At a
choice it tries the wide option and saves a cursor; when the line grows too long it returns to the
latest saved cursor and tries the narrow option. Entries produced on the way are linked cells that
are never removed, so that a cursor saved once stays meaningful.
-/
namespace LineLayout

structure Entry (α : Type) where
  indentation : Nat
  doc : Doc α

namespace Lookahead

variable {α : Type}

structure Cell (α : Type) where
  entry : Entry α
  below : Option Nat

structure Cursor where
  column : Nat
  top : Option Nat
  /-- How many of the waiting entries come after the cells. -/
  waiting : Nat

/-- A choice whose wide option is being tried. -/
structure SavedChoice (α : Type) where
  cursor : Cursor
  narrow : Entry α
  decided : Nat

end Lookahead

structure Lookahead (α : Type) where
  width : Nat
  tabWidth : Nat
  /-- The entries that wait below, the one displayed first at the end. -/
  waiting : Array (Entry α)
  cells : Array (Lookahead.Cell α)
  saved : List (Lookahead.SavedChoice α)
  /-- How the choices met so far were decided; `true` is wide. -/
  decisions : Array Bool
  cursor : Lookahead.Cursor

namespace Lookahead

variable {α : Type}

inductive Progress (α : Type) where
  | going (run : Lookahead α)
  | fits (decisions : Array Bool)
  | tooWide
  | fault (fault : Fault)

def start (width tabWidth : Nat) (waiting : Array (Entry α)) (column : Nat) (first : Entry α) :
    Lookahead α where
  width := width
  tabWidth := tabWidth
  waiting := waiting
  cells := #[⟨first, none⟩]
  saved := []
  decisions := #[]
  cursor := ⟨column, some 0, waiting.size⟩

def push (run : Lookahead α) (cursor : Cursor) (entry : Entry α) : Lookahead α :=
  let position := run.cells.size
  { run with
    cells := run.cells.push ⟨entry, cursor.top⟩
    cursor := { cursor with top := some position } }

/-- Takes the next entry from the cursor; `none` where nothing is left. -/
def pop? (run : Lookahead α) : Except Fault (Option (Entry α × Cursor)) :=
  match run.cursor.top with
  | some position =>
    match run.cells[position]? with
    | some cell => .ok (some (cell.entry, { run.cursor with top := cell.below }))
    | none => .error .brokenLink
  | none =>
    match run.cursor.waiting with
    | 0 => .ok none
    | left + 1 =>
      match run.waiting[left]? with
      | some entry => .ok (some (entry, { run.cursor with waiting := left }))
      | none => .error .brokenLink

def display (run : Lookahead α) (cursor : Cursor) (entry : Entry α) : Progress α :=
  match entry.doc with
  | .empty => .going { run with cursor := cursor }
  | .text content _ =>
    match addColumns cursor.column content.length with
    | .ok column => .going { run with cursor := { cursor with column := column } }
    | .error fault => .fault fault
  | .newline => .fits run.decisions
  | .concat left right =>
    let below := run.push cursor { entry with doc := right }
    .going (below.push below.cursor { entry with doc := left })
  | .indent body =>
    match addColumns entry.indentation run.tabWidth with
    | .ok indentation => .going (run.push cursor ⟨indentation, body⟩)
    | .error fault => .fault fault
  | .hang body => .going (run.push cursor ⟨cursor.column, body⟩)
  | .choice wide narrow =>
    let point := ⟨cursor, { entry with doc := narrow }, run.decisions.size⟩
    let tried := { run with saved := point :: run.saved, decisions := run.decisions.push true }
    .going (tried.push cursor { entry with doc := wide })

/-- One step: backs out of a line that is too long, or displays the next entry. -/
def step (run : Lookahead α) : Progress α :=
  if run.width < run.cursor.column then
    match run.saved with
    | [] => .tooWide
    | point :: saved =>
      let decisions := (run.decisions.shrink point.decided).push false
      .going (push { run with saved := saved, decisions := decisions } point.cursor point.narrow)
  else
    match run.pop? with
    | .error fault => .fault fault
    | .ok none => .fits run.decisions
    | .ok (some (entry, cursor)) => run.display cursor entry

end Lookahead

end LineLayout
