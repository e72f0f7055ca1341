import LineLayout.Style.Basic
import LineLayout.Text.Hex
import LineLayout.Text.Slice
/-!
Themes: the actual colors behind the roles of a color scheme.
-/
namespace LineLayout

structure Rgb where
  red : UInt8
  green : UInt8
  blue : UInt8
  deriving DecidableEq, Repr

namespace Rgb

def channel? (text : List Char) (start : Nat) : Option UInt8 :=
  (Text.slice? text start 2).bind Text.hexByte?

/-- The color that a text of seven bytes writes: a number sign and the three channels. -/
def ofHex? (written : String) : Option Rgb :=
  let text := written.toList
  if written.utf8ByteSize ≠ 7 ∨ text.head? ≠ some '#' then none
  else do
    return ⟨← channel? text 1, ← channel? text 3, ← channel? text 5⟩

end Rgb

structure Theme where
  rgb : Color → Rgb

namespace Theme

def defaultDark : Theme where
  rgb
    | .base00 => ⟨0x18, 0x18, 0x18⟩
    | .base01 => ⟨0x28, 0x28, 0x28⟩
    | .base02 => ⟨0x38, 0x38, 0x38⟩
    | .base03 => ⟨0x58, 0x58, 0x58⟩
    | .base04 => ⟨0xb8, 0xb8, 0xb8⟩
    | .base05 => ⟨0xd8, 0xd8, 0xd8⟩
    | .base06 => ⟨0xe8, 0xe8, 0xe8⟩
    | .base07 => ⟨0xf8, 0xf8, 0xf8⟩
    | .base08 => ⟨0xab, 0x46, 0x42⟩
    | .base09 => ⟨0xdc, 0x96, 0x56⟩
    | .base0A => ⟨0xf7, 0xca, 0x88⟩
    | .base0B => ⟨0xa1, 0xb5, 0x6c⟩
    | .base0C => ⟨0x86, 0xc1, 0xb9⟩
    | .base0D => ⟨0x7c, 0xaf, 0xc2⟩
    | .base0E => ⟨0xba, 0x8b, 0xaf⟩
    | .base0F => ⟨0xa1, 0x69, 0x46⟩

def set (theme : Theme) (color : Color) (rgb : Rgb) : Theme where
  rgb other := if other = color then rgb else theme.rgb other

def agrees (first second : Theme) : Bool :=
  Color.all.all fun color => first.rgb color == second.rgb color

def foreground (theme : Theme) (style : Style) : Rgb :=
  if style.reversed then theme.rgb .base00 else theme.rgb style.color

def background (theme : Theme) (style : Style) : Option Rgb :=
  if style.reversed then some (theme.rgb style.color) else none

end Theme

structure Appearance where
  foreground : Rgb
  background : Option Rgb
  bold : Bool
  underlined : Bool
  deriving DecidableEq, Repr

def Theme.appearance (theme : Theme) (style : Style) : Appearance where
  foreground := theme.foreground style
  background := theme.background style
  bold := style.emphasis.bold
  underlined := style.emphasis.underlined

end LineLayout
