import LineLayout.Doc.Basic
/-!
The leaves of a document, from left to right and wide options before narrow ones.
-/
namespace LineLayout.Doc

variable {α : Type}

def leaves : Doc α → List (Doc α)
  | concat left right | choice left right => left.leaves ++ right.leaves
  | indent body | hang body => body.leaves
  | empty => [empty]
  | newline => [newline]
  | text content label => [text content label]

/-- The number of line breaks in a document, those of all options counted. -/
def newlineCount (d : Doc α) : Nat := d.leaves.countP (· matches newline)

theorem newlineCount_concat (left right : Doc α) :
    (concat left right).newlineCount = left.newlineCount + right.newlineCount := by
  simp [newlineCount, leaves]

end LineLayout.Doc
