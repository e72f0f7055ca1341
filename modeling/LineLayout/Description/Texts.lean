import LineLayout.Description.Basic
/-!
The texts of a description in the order in which they are written: wide options before narrow ones,
and the elements of a join before its separator.
-/
namespace LineLayout.Description

variable {α : Type}

mutual

def texts : Description α → List String
  | empty | newline | line | softline => []
  | text content | styled content _ => [content]
  | concat parts => allTexts parts
  | indent body | hang body | group body | flatten body => body.texts
  | choice wide narrow => wide.texts ++ narrow.texts
  | join elements separator => allTexts elements ++ separator.texts

def allTexts : List (Description α) → List String
  | [] => []
  | first :: others => first.texts ++ allTexts others

end

end LineLayout.Description
