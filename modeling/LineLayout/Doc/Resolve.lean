import LineLayout.Doc.Basic
/-!
Resolving the choices of a document: one decision for every choice that is met in display order.
-/
namespace LineLayout.Doc

variable {α : Type}

/-- The document with its choices resolved in display order (`true` is wide), and the decisions that
are left over; `none` if they run out. -/
def resolve : Doc α → List Bool → Option (Doc α × List Bool)
  | empty, decisions => some (empty, decisions)
  | text content label, decisions => some (text content label, decisions)
  | newline, decisions => some (newline, decisions)
  | concat left right, decisions => do
    let (left', afterLeft) ← left.resolve decisions
    let (right', afterRight) ← right.resolve afterLeft
    return (concat left' right', afterRight)
  | indent body, decisions => do
    let (body', after) ← body.resolve decisions
    return (indent body', after)
  | hang body, decisions => do
    let (body', after) ← body.resolve decisions
    return (hang body', after)
  | choice _ _, [] => none
  | choice wide narrow, isWide :: decisions =>
    if isWide then wide.resolve decisions else narrow.resolve decisions

def widest : Doc α → Doc α
  | empty => empty
  | text content label => text content label
  | newline => newline
  | concat left right => concat left.widest right.widest
  | indent body => indent body.widest
  | hang body => hang body.widest
  | choice wide _ => wide.widest

def ChoiceFree : Doc α → Prop
  | empty | text _ _ | newline => True
  | concat left right => left.ChoiceFree ∧ right.ChoiceFree
  | indent body | hang body => body.ChoiceFree
  | choice _ _ => False

theorem choiceFree_widest (d : Doc α) : d.widest.ChoiceFree := by
  induction d with
  | empty | text | newline => trivial
  | concat left right ihLeft ihRight => exact ⟨ihLeft, ihRight⟩
  | indent body ih | hang body ih => exact ih
  | choice wide narrow ihWide ihNarrow => exact ihWide

end LineLayout.Doc
