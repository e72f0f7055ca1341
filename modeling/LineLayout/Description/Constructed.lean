import LineLayout.Description.Basic
/-!
The documents that can be made without writing a text past its check.
-/
namespace LineLayout.Doc

variable {α : Type}

/-- A document made from checked texts, from descriptions and from other such documents. -/
inductive Constructed : Doc α → Prop
  | empty : Constructed empty
  | piece {content : String} {label : Option α} {d : Doc α} :
    piece? content label = .ok d → Constructed d
  | built {description : Description α} {d : Doc α} : description.build = .ok d → Constructed d
  | newline : Constructed newline
  | line : Constructed line
  | softline : Constructed softline
  | concat {left right : Doc α} : Constructed left → Constructed right →
    Constructed (concat left right)
  | choice {wide narrow : Doc α} : Constructed wide → Constructed narrow →
    Constructed (choice wide narrow)
  | indent {body : Doc α} : Constructed body → Constructed (indent body)
  | hang {body : Doc α} : Constructed body → Constructed (hang body)
  | sum {docs : List (Doc α)} : (∀ d ∈ docs, Constructed d) → Constructed (sum docs)
  | join {elements : List (Doc α)} {separator : Doc α} : (∀ d ∈ elements, Constructed d) →
    Constructed separator → Constructed (join elements separator)
  | flatten {d : Doc α} : Constructed d → Constructed d.flatten
  | group {d : Doc α} : Constructed d → Constructed d.group

end LineLayout.Doc
