import LineLayout.Doc.Resolve
/-!
Contexts: documents with one place left open.
-/
namespace LineLayout

inductive Context (α : Type) where
  | hole
  | concatLeft (left : Context α) (right : Doc α)
  | concatRight (left : Doc α) (right : Context α)
  | indent (body : Context α)
  | hang (body : Context α)
  | choiceWide (wide : Context α) (narrow : Doc α)
  | choiceNarrow (wide : Doc α) (narrow : Context α)
  deriving Repr

namespace Context

variable {α : Type}

def fill : Context α → Doc α → Doc α
  | hole, d => d
  | concatLeft left right, d => .concat (left.fill d) right
  | concatRight left right, d => .concat left (right.fill d)
  | indent body, d => .indent (body.fill d)
  | hang body, d => .hang (body.fill d)
  | choiceWide wide narrow, d => .choice (wide.fill d) narrow
  | choiceNarrow wide narrow, d => .choice wide (narrow.fill d)

/-- The decisions left when the display reaches the hole; `none` if it does not reach it, because a
choice around the hole goes the other way. -/
def decisionsAtHole : Context α → List Bool → Option (List Bool)
  | hole, decisions => some decisions
  | concatLeft left _, decisions => left.decisionsAtHole decisions
  | concatRight left right, decisions => do
    let (_, afterLeft) ← left.resolve decisions
    right.decisionsAtHole afterLeft
  | indent body, decisions | hang body, decisions => body.decisionsAtHole decisions
  | choiceWide wide _, true :: decisions => wide.decisionsAtHole decisions
  | choiceNarrow _ narrow, false :: decisions => narrow.decisionsAtHole decisions
  | choiceWide _ _, _ | choiceNarrow _ _, _ => none

end Context

end LineLayout
