import LineLayout.Doc.Flatten
/-!
Descriptions: documents as they are written down, with shorthands for common combinations.
-/
namespace LineLayout

inductive Description (α : Type) where
  | empty
  | text (content : String)
  | styled (content : String) (label : α)
  | newline
  | line
  | softline
  | concat (parts : List (Description α))
  | indent (body : Description α)
  | hang (body : Description α)
  | choice (wide narrow : Description α)
  | group (body : Description α)
  | flatten (body : Description α)
  | join (elements : List (Description α)) (separator : Description α)
  deriving Repr, BEq

namespace Description

variable {α : Type}

def ofName? : String → Option (Description α)
  | "Empty" => some empty
  | "Newline" => some newline
  | "Line" => some line
  | "SoftLine" => some softline
  | _ => none

mutual

/-- The document described, refused at the first text that breaks the line. -/
def build : Description α → Except TextError (Doc α)
  | empty => .ok .empty
  | text content => Doc.piece? content none
  | styled content label => Doc.piece? content (some label)
  | newline => .ok .newline
  | line => .ok Doc.line
  | softline => .ok Doc.softline
  | concat parts => do return Doc.sum (← buildAll parts)
  | indent body => do return .indent (← body.build)
  | hang body => do return .hang (← body.build)
  | choice wide narrow => do
    let builtWide ← wide.build
    let builtNarrow ← narrow.build
    return .choice builtWide builtNarrow
  | group body => do return (← body.build).group
  | flatten body => do return (← body.build).flatten
  | join elements separator => do
    let builtElements ← buildAll elements
    let builtSeparator ← separator.build
    return Doc.join builtElements builtSeparator

def buildAll : List (Description α) → Except TextError (List (Doc α))
  | [] => .ok []
  | first :: others => do
    let built ← first.build
    let builtOthers ← buildAll others
    return built :: builtOthers

end

end Description

end LineLayout
