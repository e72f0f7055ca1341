import LineLayout.Doc.Basic
/-!
The extent of a document: how far to the right any layout of it can reach.
-/
namespace LineLayout.Doc

variable {α : Type}

def textLength : Doc α → Nat
  | empty | newline => 0
  | text content _ => content.length
  | concat left right | choice left right => left.textLength + right.textLength
  | indent body | hang body => body.textLength

def indentCount : Doc α → Nat
  | empty | newline | text _ _ => 0
  | concat left right | choice left right => left.indentCount + right.indentCount
  | indent body => body.indentCount + 1
  | hang body => body.indentCount

/-- A bound on every column and indentation. -/
def extent (tabWidth : Nat) (d : Doc α) : Nat := d.textLength + d.indentCount * tabWidth

section

variable (tabWidth : Nat)

@[simp] theorem extent_text (content : String) (label : Option α) :
    (text content label).extent tabWidth = content.length := by
  simp [extent, textLength, indentCount]

@[simp] theorem extent_concat (left right : Doc α) :
    (concat left right).extent tabWidth = left.extent tabWidth + right.extent tabWidth := by
  simp only [extent, textLength, indentCount, Nat.add_mul]
  omega

@[simp] theorem extent_indent (body : Doc α) :
    (indent body).extent tabWidth = body.extent tabWidth + tabWidth := by
  simp only [extent, textLength, indentCount, Nat.add_mul]
  omega

@[simp] theorem extent_hang (body : Doc α) :
    (hang body).extent tabWidth = body.extent tabWidth := rfl

@[simp] theorem extent_choice (wide narrow : Doc α) :
    (choice wide narrow).extent tabWidth = wide.extent tabWidth + narrow.extent tabWidth := by
  simp only [extent, textLength, indentCount, Nat.add_mul]
  omega

end

end LineLayout.Doc
