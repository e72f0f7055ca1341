import LineLayout.Description.Basic
import LineLayout.Description.Fields
import LineLayout.Layout.Settings
import LineLayout.Ron.Number
import LineLayout.Ron.Tree
import LineLayout.Style.Basic
/-!
Descriptions, styles and settings in RON. What is read may nest only so deep: reading a value has a
budget of levels, from which every construct on the way takes its share.
-/
namespace LineLayout.Ron

class Coded (α : Type) where
  encode : α → Tree
  decode? (levels : Nat) : Tree → Option α

instance : Coded String where
  encode := .text
  decode? _
    | .text content => some content
    | _ => none

def encodeBool (value : Bool) : Tree := .word false (if value then "true" else "false")

instance : Coded Bool where
  encode := encodeBool
  decode? _
    | .word false "true" => some true
    | .word false "false" => some false
    | _ => none

instance : Coded Nat where
  encode value := .word false (toString value)
  decode? _
    | .word false letters => number? letters
    | _ => none

/-- A name by itself takes one level for the choice it makes and one while it is read. -/
instance : Coded Color where
  encode color := .word false color.name
  decode?
    | _ + 2, .word _ name => Color.ofName? name
    | _, _ => none

def keyed? : List (Option String × Tree) → Option (List (String × Tree))
  | [] => some []
  | (some key, value) :: others => (keyed? others).map ((key, value) :: ·)
  | (none, _) :: _ => none

def fields? (type : String) (names : List String) (levels : Nat) :
    Tree → Option (List (Option Tree))
  | .group name items => do
    if name.isSome ∧ name ≠ some type then none
    if levels < (if items.isEmpty then 1 else 2) then none
    namedFields? names (← keyed? items)
  | _ => none

def encodeFields (fields : List (String × Tree)) : Tree :=
  .group none (fields.map fun (key, value) => (some key, value))

instance : Coded Emphasis where
  encode emphasis := encodeFields
    [("bold", encodeBool emphasis.bold), ("underlined", encodeBool emphasis.underlined)]
  decode? levels tree := do
    match ← fields? "Emph" ["bold", "underlined"] levels tree with
    | [bold, underlined] =>
      return ⟨← fieldOr false (Coded.decode? (levels - 2)) bold,
        ← fieldOr false (Coded.decode? (levels - 2)) underlined⟩
    | _ => none

instance : Coded Style where
  encode style := encodeFields [("color", Coded.encode style.color),
    ("emph", Coded.encode style.emphasis), ("reversed", encodeBool style.reversed)]
  decode? levels tree := do
    match ← fields? "Style" ["color", "emph", "reversed"] levels tree with
    | [color, emphasis, reversed] =>
      return ⟨← fieldOr Color.base05 (Coded.decode? (levels - 2)) color,
        ← fieldOr {} (Coded.decode? (levels - 2)) emphasis,
        ← fieldOr false (Coded.decode? (levels - 2)) reversed⟩
    | _ => none

instance : Coded Settings where
  encode settings := encodeFields
    [("width", Coded.encode settings.width), ("tab_width", Coded.encode settings.tabWidth)]
  decode? levels tree := do
    match ← fields? "Settings" ["width", "tab_width"] levels tree with
    | [width, tabWidth] =>
      return ⟨← fieldOr 80 (Coded.decode? (levels - 2)) width,
        ← fieldOr standardTabWidth (Coded.decode? (levels - 2)) tabWidth⟩
    | _ => none

variable {α : Type}

def applied (name : String) (arguments : List Tree) : Tree :=
  .group (some name) (arguments.map fun argument => (none, argument))

mutual

def encodeDescription [Coded α] : Description α → Tree
  | .empty => .word false "Empty"
  | .text content => applied "Text" [.text content]
  | .styled content label => applied "Styled" [.text content, Coded.encode label]
  | .newline => .word false "Newline"
  | .line => .word false "Line"
  | .softline => .word false "SoftLine"
  | .concat parts => applied "Concat" [.list (encodeDescriptions parts)]
  | .indent body => applied "Indent" [encodeDescription body]
  | .hang body => applied "Hang" [encodeDescription body]
  | .choice wide narrow => applied "Choice" [encodeDescription wide, encodeDescription narrow]
  | .group body => applied "Group" [encodeDescription body]
  | .flatten body => applied "Flatten" [encodeDescription body]
  | .join elements separator =>
    .group (some "Join") [(some "elements", .list (encodeDescriptions elements)),
      (some "separator", encodeDescription separator)]

def encodeDescriptions [Coded α] : List (Description α) → List Tree
  | [] => []
  | first :: others => encodeDescription first :: encodeDescriptions others

end

mutual

/-- The description that a tree writes. A name takes one level for the choice it makes and one while
it is read; its content takes one, and every item of a list or of several takes one more. -/
def decodeDescription? [Coded α] : Nat → Tree → Option (Description α)
  | _ + 2, .word _ name => Description.ofName? name
  | _ + 2, .group (some "Text") [(none, .text content)] => some (.text content)
  | levels + 3, .group (some "Styled") [(none, .text content), (none, label)] =>
    (Coded.decode? levels label).map (.styled content)
  | levels + 3, .group (some "Concat") [(none, .list parts)] =>
    (decodeDescriptions? levels parts).map .concat
  | levels + 2, .group (some "Indent") [(none, body)] =>
    (decodeDescription? levels body).map .indent
  | levels + 2, .group (some "Hang") [(none, body)] =>
    (decodeDescription? levels body).map .hang
  | levels + 3, .group (some "Choice") [(none, wide), (none, narrow)] => do
    return .choice (← decodeDescription? levels wide) (← decodeDescription? levels narrow)
  | levels + 2, .group (some "Group") [(none, body)] =>
    (decodeDescription? levels body).map .group
  | levels + 2, .group (some "Flatten") [(none, body)] =>
    (decodeDescription? levels body).map .flatten
  | levels + 4, .group (some "Join")
      [(some "elements", .list elements), (some "separator", separator)]
  | levels + 4, .group (some "Join")
      [(some "separator", separator), (some "elements", .list elements)] => do
    return .join (← decodeDescriptions? levels elements)
      (← decodeDescription? (levels + 1) separator)
  | _, _ => none

def decodeDescriptions? [Coded α] : Nat → List Tree → Option (List (Description α))
  | _, [] => some []
  | 0, _ :: _ => none
  | levels + 1, first :: others => do
    return (← decodeDescription? levels first) :: (← decodeDescriptions? (levels + 1) others)

end

instance [Coded α] : Coded (Description α) := ⟨encodeDescription, decodeDescription?⟩

def nestingLimit : Nat := 128

def write [Coded α] (value : α) : String := (Coded.encode value).toText

def read? [Coded α] (text : String) : Option α := do
  Coded.decode? nestingLimit (← Tree.ofText? text)

end LineLayout.Ron
