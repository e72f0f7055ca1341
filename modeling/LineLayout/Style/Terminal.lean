import LineLayout.Style.StyledText
import LineLayout.Style.Theme
/-!
Styled text for a terminal: the text between the escape sequences that set its appearance.
-/
namespace LineLayout.Terminal

def sgr (parameters : String) : String := "\x1b[" ++ parameters ++ "m"

def reset : String := sgr "0"

def channels (rgb : Rgb) : String :=
  toString rgb.red.toNat ++ ";" ++ toString rgb.green.toNat ++ ";" ++ toString rgb.blue.toNat

def setAppearance (appearance : Appearance) : String :=
  let background := match appearance.background with
    | some rgb => sgr ("48;2;" ++ channels rgb)
    | none => ""
  background ++ sgr ("38;2;" ++ channels appearance.foreground) ++
    (if appearance.bold then sgr "1" else "") ++
    (if appearance.underlined then sgr "4" else "")

def span (theme : Theme) (content : String) (style : Style) : String :=
  reset ++ setAppearance (theme.appearance style) ++ content

/-- The text with its sequences; at the end every attribute and color is reset. -/
def write (theme : Theme) (text : StyledText Style) : String :=
  text.spans.foldl (fun written part => written ++ span theme part.1 part.2) "" ++ reset ++ reset

/-- Moves characters to those that arrived, the latest first, while `limit` bytes accept them. -/
def acceptFrom (limit : Nat) (arrived : List Char) : List Char → List Char × Bool
  | [] => (arrived, true)
  | c :: later =>
    if c.utf8Size ≤ limit then acceptFrom (limit - c.utf8Size) (c :: arrived) later
    else (if limit = 0 then arrived else '\ufffd' :: arrived, false)

/-- What arrives where only `limit` bytes are accepted, and whether that is everything. A character
that was cut shows as a replacement character. -/
def accepted (limit : Nat) (written : String) : String × Bool :=
  let (arrived, complete) := acceptFrom limit [] written.toList
  (String.ofList arrived.reverse, complete)

end LineLayout.Terminal
