import LineLayout.Doc.Extent
import LineLayout.Doc.Flatten
import LineLayout.Doc.Leaves
import LineLayout.Doc.Resolve
/-!
Footholds: what is known of the column at which a part of a document is displayed, whatever the
width. Documents that never leave one need no more line breaks at a larger width.
-/
namespace LineLayout

inductive Foothold where
  | fixed (column : Nat)
  /-- The column depends on choices before it on the line. Where a smaller width has needed more
  line breaks than a larger one so far, it is at this column at least. -/
  | floating (least : Nat)
  deriving DecidableEq, Repr

namespace Foothold

def least : Foothold → Nat
  | fixed column => column
  | floating least => least

def advance (length : Nat) : Foothold → Foothold
  | fixed column => fixed (column + length)
  | floating least => floating (least + length)

def Admits : Foothold → Nat → Prop
  | fixed column, actual => actual = column
  | floating least, actual => least ≤ actual

/-- Whether these may be the columns at a smaller and at a larger width, where the smaller one has
already needed `ahead` more line breaks. -/
def Pairs : Foothold → Nat → Nat → Nat → Prop
  | fixed known, column, column', ahead => column = known ∧ column' = known ∧ ahead = 0
  | floating least, column, column', ahead =>
    (column' ≤ column ∧ ahead = 0) ∨ (least ≤ column ∧ ahead = 1)

end Foothold

namespace Doc

variable {α : Type}

def lineLength? : Doc α → Option Nat
  | empty => some 0
  | text content _ => some content.length
  | newline => none
  | concat left right => do return (← left.lineLength?) + (← right.lineLength?)
  | indent body | hang body => body.lineLength?
  | choice wide _ => wide.lineLength?

/-- Displayed at an indentation from the first foothold on, the document leads to the second one.
Where the column is fixed, a choice may take any narrow option that breaks the line. Where it
floats, a choice has to be a soft break: its narrow option has a single line break, and leads no
further right than its wide option does. -/
inductive Keeps (tabWidth : Nat) : Doc α → Nat → Foothold → Foothold → Prop
  | empty {indentation : Nat} {start : Foothold} : Keeps tabWidth empty indentation start start
  | text {content : String} {label : Option α} {indentation : Nat} {start : Foothold} :
    Keeps tabWidth (text content label) indentation start (start.advance content.length)
  | newline {indentation : Nat} {start : Foothold} :
    Keeps tabWidth newline indentation start (.fixed indentation)
  | concat {left right : Doc α} {indentation : Nat} {start between last : Foothold} :
    Keeps tabWidth left indentation start between → Keeps tabWidth right indentation between last →
    Keeps tabWidth (concat left right) indentation start last
  | indent {body : Doc α} {indentation : Nat} {start last : Foothold} :
    Keeps tabWidth body (indentation + tabWidth) start last →
    Keeps tabWidth (indent body) indentation start last
  | hang {body : Doc α} {indentation column : Nat} {last : Foothold} :
    Keeps tabWidth body column (.fixed column) last →
    Keeps tabWidth (hang body) indentation (.fixed column) last
  | hangFree {body : Doc α} {indentation least : Nat} :
    body.ChoiceFree → Keeps tabWidth (hang body) indentation (.floating least) (.floating least)
  | sameLine {wide narrow : Doc α} {indentation : Nat} {start last : Foothold} :
    wide.IsFlat → narrow.lineLength? = some wide.textLength →
    Keeps tabWidth narrow indentation start last →
    Keeps tabWidth (choice wide narrow) indentation start last
  | anyBreak {wide narrow : Doc α} {indentation column : Nat} {last : Foothold} :
    wide.IsFlat → narrow.lineLength? = none →
    Keeps tabWidth narrow indentation (.fixed column) last →
    Keeps tabWidth (choice wide narrow) indentation (.fixed column)
      (.floating (min last.least (column + wide.textLength)))
  | softBreak {wide narrow : Doc α} {indentation least last : Nat} :
    wide.IsFlat → narrow.ChoiceFree → narrow.newlineCount = 1 →
    Keeps tabWidth narrow indentation (.floating least) (.fixed last) →
    last ≤ least + wide.textLength →
    Keeps tabWidth (choice wide narrow) indentation (.floating least) (.floating last)

/-- From the start on, all choices are met where the document keeps a foothold. -/
def Steady (tabWidth : Nat) (d : Doc α) : Prop := ∃ last, Keeps tabWidth d 0 (.fixed 0) last

end Doc

end LineLayout
