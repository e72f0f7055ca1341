import LineLayout.Text.Hex
import LineLayout.Word
/-!
Numbers of RON: decimal, or with a base in front, with underscores between digits.
-/
namespace LineLayout.Ron

def splitBase : List Char → Nat × List Char
  | '0' :: 'x' :: digits => (16, digits)
  | '0' :: 'b' :: digits => (2, digits)
  | '0' :: 'o' :: digits => (8, digits)
  | digits => (10, digits)

def digitsValue? (base value : Nat) : List Char → Option Nat
  | [] => some value
  | '_' :: later => digitsValue? base value later
  | c :: later =>
    match Text.hexDigit? c with
    | some digit => if digit < base then digitsValue? base (base * value + digit) later else none
    | none => none

/-- The number that letters write; it has a digit in front and fits into 64 bits. -/
def number? (letters : String) : Option Nat :=
  let (base, digits) := splitBase letters.toList
  if digits = [] ∨ digits.head? = some '_' then none
  else (digitsValue? base 0 digits).bind word?

end LineLayout.Ron
