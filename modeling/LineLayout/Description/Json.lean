import LineLayout.Description.Basic
import LineLayout.Description.Fields
import LineLayout.Json.Tree
import LineLayout.Layout.Settings
import LineLayout.Style.Basic
import LineLayout.Word
/-!
Descriptions, styles and settings as JSON.
-/
namespace LineLayout.Json

class Coded (α : Type) where
  encode : α → Tree
  decode? : Tree → Option α

instance : Coded String where
  encode := .text
  decode?
    | .text content => some content
    | _ => none

instance : Coded Bool where
  encode := .bool
  decode?
    | .bool value => some value
    | _ => none

instance : Coded Nat where
  encode := .number
  decode?
    | .number value => word? value
    | _ => none

/-- The fields of a record, written as an object or as an array in order. -/
def fields? (names : List String) : Tree → Option (List (Option Tree))
  | .object members => namedFields? names members
  | .array elements => positionalFields? names elements
  | _ => none

instance : Coded Color where
  encode color := .text color.name
  decode?
    | .text name | .object [(name, .null)] => Color.ofName? name
    | _ => none

instance : Coded Emphasis where
  encode emphasis :=
    .object [("bold", .bool emphasis.bold), ("underlined", .bool emphasis.underlined)]
  decode? tree := do
    match ← fields? ["bold", "underlined"] tree with
    | [bold, underlined] =>
      return ⟨← fieldOr false Coded.decode? bold, ← fieldOr false Coded.decode? underlined⟩
    | _ => none

instance : Coded Style where
  encode style := .object [("color", Coded.encode style.color),
    ("emph", Coded.encode style.emphasis), ("reversed", .bool style.reversed)]
  decode? tree := do
    match ← fields? ["color", "emph", "reversed"] tree with
    | [color, emphasis, reversed] =>
      return ⟨← fieldOr Color.base05 Coded.decode? color, ← fieldOr {} Coded.decode? emphasis,
        ← fieldOr false Coded.decode? reversed⟩
    | _ => none

instance : Coded Settings where
  encode settings :=
    .object [("width", .number settings.width), ("tab_width", .number settings.tabWidth)]
  decode? tree := do
    match ← fields? ["width", "tab_width"] tree with
    | [width, tabWidth] =>
      return ⟨← fieldOr 80 Coded.decode? width,
        ← fieldOr standardTabWidth Coded.decode? tabWidth⟩
    | _ => none

variable {α : Type}

mutual

def encodeDescription [Coded α] : Description α → Tree
  | .empty => .text "Empty"
  | .text content => .object [("Text", .text content)]
  | .styled content label =>
    .object [("Styled", .array [.text content, Coded.encode label])]
  | .newline => .text "Newline"
  | .line => .text "Line"
  | .softline => .text "SoftLine"
  | .concat parts => .object [("Concat", .array (encodeDescriptions parts))]
  | .indent body => .object [("Indent", encodeDescription body)]
  | .hang body => .object [("Hang", encodeDescription body)]
  | .choice wide narrow =>
    .object [("Choice", .array [encodeDescription wide, encodeDescription narrow])]
  | .group body => .object [("Group", encodeDescription body)]
  | .flatten body => .object [("Flatten", encodeDescription body)]
  | .join elements separator =>
    .object [("Join", .object [("elements", .array (encodeDescriptions elements)),
      ("separator", encodeDescription separator)])]

def encodeDescriptions [Coded α] : List (Description α) → List Tree
  | [] => []
  | first :: others => encodeDescription first :: encodeDescriptions others

end

mutual

def decodeDescription? [Coded α] : Tree → Option (Description α)
  | .text name | .object [(name, .null)] => Description.ofName? name
  | .object [("Text", .text content)] => some (.text content)
  | .object [("Styled", .array [.text content, label])] =>
    (Coded.decode? label).map (.styled content)
  | .object [("Concat", .array parts)] => (decodeDescriptions? parts).map .concat
  | .object [("Indent", body)] => (decodeDescription? body).map .indent
  | .object [("Hang", body)] => (decodeDescription? body).map .hang
  | .object [("Choice", .array [wide, narrow])] => do
    return .choice (← decodeDescription? wide) (← decodeDescription? narrow)
  | .object [("Group", body)] => (decodeDescription? body).map .group
  | .object [("Flatten", body)] => (decodeDescription? body).map .flatten
  | .object [("Join", .array [.array elements, separator])]
  | .object [("Join", .object [("elements", .array elements), ("separator", separator)])]
  | .object [("Join", .object [("separator", separator), ("elements", .array elements)])] => do
    return .join (← decodeDescriptions? elements) (← decodeDescription? separator)
  | _ => none

def decodeDescriptions? [Coded α] : List Tree → Option (List (Description α))
  | [] => some []
  | first :: others => do
    return (← decodeDescription? first) :: (← decodeDescriptions? others)

end

instance [Coded α] : Coded (Description α) := ⟨encodeDescription, decodeDescription?⟩

def write [Coded α] (value : α) : String := (Coded.encode value).toText

def read? [Coded α] (text : String) : Option α := do Coded.decode? (← Tree.ofText? text)

end LineLayout.Json
