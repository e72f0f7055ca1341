/-!
Styles: how a piece of text is to look in a terminal, independent of actual colors.
-/
namespace LineLayout

/-- The sixteen roles of a Base16 color scheme. -/
inductive Color where
  /-- Background. -/
  | base00
  /-- Slightly lighter background. -/
  | base01
  /-- Highlighted background. -/
  | base02
  /-- Comments. -/
  | base03
  /-- Dim foreground. -/
  | base04
  /-- Ordinary text and punctuation. -/
  | base05
  /-- Bright foreground. -/
  | base06
  /-- Brightest foreground. -/
  | base07
  /-- Variables. -/
  | base08
  /-- Numbers and other constants. -/
  | base09
  /-- Types. -/
  | base0A
  /-- Strings. -/
  | base0B
  /-- Escapes and regular expressions. -/
  | base0C
  /-- Function names. -/
  | base0D
  /-- Keywords. -/
  | base0E
  /-- Anything deprecated. -/
  | base0F
  deriving DecidableEq, Repr

namespace Color

def all : List Color :=
  [base00, base01, base02, base03, base04, base05, base06, base07,
    base08, base09, base0A, base0B, base0C, base0D, base0E, base0F]

def name : Color → String
  | base00 => "Base00"
  | base01 => "Base01"
  | base02 => "Base02"
  | base03 => "Base03"
  | base04 => "Base04"
  | base05 => "Base05"
  | base06 => "Base06"
  | base07 => "Base07"
  | base08 => "Base08"
  | base09 => "Base09"
  | base0A => "Base0A"
  | base0B => "Base0B"
  | base0C => "Base0C"
  | base0D => "Base0D"
  | base0E => "Base0E"
  | base0F => "Base0F"

def ofName? (name : String) : Option Color := all.find? fun color => color.name == name

theorem ofName?_name (color : Color) : ofName? color.name = some color := by
  cases color <;> decide

end Color

structure Emphasis where
  bold : Bool := false
  underlined : Bool := false
  deriving DecidableEq, Repr

structure Style where
  color : Color := .base05
  emphasis : Emphasis := {}
  reversed : Bool := false
  deriving DecidableEq, Repr

namespace Style

def ofColor (color : Color) : Style := { color := color }

def onColor (color : Color) : Style := { color := color, reversed := true }

def bolder (style : Style) : Style :=
  { style with emphasis := { style.emphasis with bold := true } }

def describe (style : Style) : String :=
  "Style \x7b color: " ++ style.color.name ++ ", emph: Emph \x7b bold: " ++
    toString style.emphasis.bold ++ ", underlined: " ++ toString style.emphasis.underlined ++
    " \x7d, reversed: " ++ toString style.reversed ++ " \x7d"

end Style

end LineLayout
