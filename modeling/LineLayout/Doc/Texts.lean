import LineLayout.Doc.Basic
/-!
The texts of a document, from left to right and wide options before narrow ones.
-/
namespace LineLayout.Doc

variable {α : Type}

def texts : Doc α → List String
  | empty | newline => []
  | text content _ => [content]
  | concat left right | choice left right => left.texts ++ right.texts
  | indent body | hang body => body.texts

def Unbroken (d : Doc α) : Prop := ∀ content ∈ d.texts, breaksLine content = false

@[simp] theorem unbroken_text (content : String) (label : Option α) :
    (text content label).Unbroken ↔ breaksLine content = false := by
  simp [Unbroken, texts]

@[simp] theorem unbroken_concat (left right : Doc α) :
    (concat left right).Unbroken ↔ left.Unbroken ∧ right.Unbroken := by
  simp only [Unbroken, texts, List.forall_mem_append]

@[simp] theorem unbroken_choice (wide narrow : Doc α) :
    (choice wide narrow).Unbroken ↔ wide.Unbroken ∧ narrow.Unbroken := by
  simp only [Unbroken, texts, List.forall_mem_append]

@[simp] theorem unbroken_indent (body : Doc α) : (indent body).Unbroken ↔ body.Unbroken := Iff.rfl

@[simp] theorem unbroken_hang (body : Doc α) : (hang body).Unbroken ↔ body.Unbroken := Iff.rfl

end LineLayout.Doc
