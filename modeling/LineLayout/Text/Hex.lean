/-!
Hexadecimal digits, and the bytes that they write.
-/
namespace LineLayout.Text

def hexDigit? (c : Char) : Option Nat :=
  if '0' ≤ c ∧ c ≤ '9' then some (c.toNat - '0'.toNat)
  else if 'a' ≤ c ∧ c ≤ 'f' then some (c.toNat - 'a'.toNat + 10)
  else if 'A' ≤ c ∧ c ≤ 'F' then some (c.toNat - 'A'.toNat + 10)
  else none

theorem hexDigit?_digitChar {digit : Nat} (below : digit < 16) :
    hexDigit? digit.digitChar = some digit := by
  revert digit
  decide

def hexNumber? (value : Nat) : List Char → Option Nat
  | [] => some value
  | c :: later => (hexDigit? c).bind fun digit => hexNumber? (16 * value + digit) later

/-- A number without the plus sign that may come before its digits. -/
def withoutPlus : List Char → List Char
  | '+' :: digits => digits
  | digits => digits

/-- The byte that a number with at least one digit writes, if it fits into one. -/
def hexByte? (written : List Char) : Option UInt8 :=
  match withoutPlus written with
  | [] => none
  | digits =>
    match hexNumber? 0 digits with
    | some value => if value < UInt8.size then some (UInt8.ofNat value) else none
    | none => none

end LineLayout.Text
