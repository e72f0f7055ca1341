import LineLayout.Style.Theme
/-!
Screens: how a terminal reads a stream of characters and escape sequences.
-/
namespace LineLayout.Screen

structure Attributes where
  foreground : Option Rgb := none
  background : Option Rgb := none
  bold : Bool := false
  underlined : Bool := false
  deriving DecidableEq, Repr

inductive State where
  | plain
  | escape
  /-- In a sequence; the complete parameters, the latest first, and the one being read. -/
  | sequence (parameters : List Nat) (current : Nat)
  deriving DecidableEq, Repr

def apply (attributes : Attributes) : List Nat → Attributes
  | [0] => {}
  | [1] => { attributes with bold := true }
  | [4] => { attributes with underlined := true }
  | [38, 2, red, green, blue] =>
    { attributes with
      foreground := some ⟨UInt8.ofNat red, UInt8.ofNat green, UInt8.ofNat blue⟩ }
  | [48, 2, red, green, blue] =>
    { attributes with
      background := some ⟨UInt8.ofNat red, UInt8.ofNat green, UInt8.ofNat blue⟩ }
  | _ => attributes

/-- The characters shown, each with its attributes, and the attributes at the end. -/
def interpret (attributes : Attributes) : State → List Char → List (Char × Attributes) × Attributes
  | _, [] => ([], attributes)
  | .plain, c :: later =>
    if c = '\x1b' then interpret attributes .escape later
    else
      let (shown, last) := interpret attributes .plain later
      ((c, attributes) :: shown, last)
  | .escape, c :: later =>
    if c = '[' then interpret attributes (.sequence [] 0) later
    else interpret attributes .plain later
  | .sequence parameters current, c :: later =>
    if c.isDigit then
      interpret attributes (.sequence parameters (10 * current + (c.toNat - '0'.toNat))) later
    else if c = ';' then interpret attributes (.sequence (current :: parameters) 0) later
    else if c = 'm' then
      interpret (apply attributes (current :: parameters).reverse) .plain later
    else interpret attributes .plain later

/-- The characters of a stream without its escape sequences; each of them ends with the first `m`. -/
def withoutSequences (inSequence : Bool) : List Char → List Char
  | [] => []
  | c :: later =>
    if inSequence then withoutSequences (c != 'm') later
    else if c = '\x1b' then withoutSequences true later
    else c :: withoutSequences false later

def Attributes.ofAppearance (appearance : Appearance) : Attributes where
  foreground := some appearance.foreground
  background := appearance.background
  bold := appearance.bold
  underlined := appearance.underlined

def Attributes.ofStyle (theme : Theme) (style : Style) : Attributes where
  foreground := some (theme.foreground style)
  background := theme.background style
  bold := style.emphasis.bold
  underlined := style.emphasis.underlined

end LineLayout.Screen
