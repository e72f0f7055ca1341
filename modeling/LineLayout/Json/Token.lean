import LineLayout.Text.Hex
import LineLayout.Text.Scanner
/-!
JSON tokens, and the machine that reads them off a text one character at a time.
-/
namespace LineLayout.Json

inductive Token where
  | openObject
  | closeObject
  | openArray
  | closeArray
  | colon
  | comma
  | null
  | bool (value : Bool)
  /-- A number written as plain digits; no other number has a token. -/
  | number (value : Nat)
  | text (content : String)
  deriving DecidableEq, Repr

/-- Where the machine stands. Characters read so far come last first. -/
inductive Scan where
  | between
  | name (letters : List Char)
  | zero
  /-- In a number that starts with another digit. -/
  | digits (value : Nat)
  | text (chars : List Char)
  | escape (chars : List Char)
  /-- In a code unit that still lacks some digits; `high` is a first surrogate before it. -/
  | unit (chars : List Char) (high : Option Nat) (value missing : Nat)
  /-- After a first surrogate, which needs a second one. -/
  | half (chars : List Char) (high : Nat)
  | halfEscape (chars : List Char) (high : Nat)
  deriving DecidableEq, Repr

def literal? (letters : List Char) : Option Token :=
  match letters.reverse with
  | ['n', 'u', 'l', 'l'] => some .null
  | ['t', 'r', 'u', 'e'] => some (.bool true)
  | ['f', 'a', 'l', 's', 'e'] => some (.bool false)
  | _ => none

def scanBetween (c : Char) : Option (List Token × Scan) :=
  match c with
  | ' ' | '\t' | '\n' | '\r' => some ([], .between)
  | '\x7b' => some ([.openObject], .between)
  | '\x7d' => some ([.closeObject], .between)
  | '[' => some ([.openArray], .between)
  | ']' => some ([.closeArray], .between)
  | ':' => some ([.colon], .between)
  | ',' => some ([.comma], .between)
  | '"' => some ([], .text [])
  | '0' => some ([], .zero)
  | c =>
    if c.isDigit then some ([], .digits (c.toNat - '0'.toNat))
    else if c.isLower then some ([], .name [c])
    else none

def scanAfter (token : Token) (c : Char) : Option (List Token × Scan) :=
  (scanBetween c).map fun (tokens, scan) => (token :: tokens, scan)

def escaped? : Char → Option Char
  | '"' => some '"'
  | '\\' => some '\\'
  | '/' => some '/'
  | 'b' => some '\x08'
  | 'f' => some '\x0c'
  | 'n' => some '\n'
  | 'r' => some '\r'
  | 't' => some '\t'
  | _ => none

def scanUnit (chars : List Char) (high : Option Nat) (value : Nat) : Option Scan :=
  let isHigh := 0xd800 ≤ value && value < 0xdc00
  let isLow := 0xdc00 ≤ value && value < 0xe000
  match high with
  | none =>
    if isHigh then some (.half chars value)
    else if isLow then none
    else some (.text (Char.ofNat value :: chars))
  | some first =>
    if isLow then
      some (.text (Char.ofNat (0x10000 + (first - 0xd800) * 0x400 + (value - 0xdc00)) :: chars))
    else none

/-- One character: the tokens that it completes, and where it leads; `none` if it cannot follow. -/
def scanStep : Scan → Char → Option (List Token × Scan)
  | .between, c => scanBetween c
  | .name letters, c =>
    if c.isAlphanum then some ([], .name (c :: letters))
    else (literal? letters).bind (scanAfter · c)
  | .zero, c => if c.isDigit then none else scanAfter (.number 0) c
  | .digits value, c =>
    if c.isDigit then some ([], .digits (10 * value + (c.toNat - '0'.toNat)))
    else scanAfter (.number value) c
  | .text chars, '"' => some ([.text (String.ofList chars.reverse)], .between)
  | .text chars, '\\' => some ([], .escape chars)
  | .text chars, c => if c < ' ' then none else some ([], .text (c :: chars))
  | .escape chars, 'u' => some ([], .unit chars none 0 4)
  | .escape chars, c => (escaped? c).map fun char => ([], .text (char :: chars))
  | .unit chars high value missing, c => do
    let digit ← Text.hexDigit? c
    let scan ← if missing ≤ 1 then scanUnit chars high (16 * value + digit)
      else some (.unit chars high (16 * value + digit) (missing - 1))
    return ([], scan)
  | .half chars high, c => if c = '\\' then some ([], .halfEscape chars high) else none
  | .halfEscape chars high, c => if c = 'u' then some ([], .unit chars (some high) 0 4) else none

def scanEnd : Scan → Option (List Token)
  | .between => some []
  | .name letters => (literal? letters).map fun token => [token]
  | .zero => some [.number 0]
  | .digits value => some [.number value]
  | _ => none

def scanner : Text.Scanner Scan Token := ⟨.between, scanStep, scanEnd⟩

def escape (c : Char) : List Char :=
  match c with
  | '"' => ['\\', '"']
  | '\\' => ['\\', '\\']
  | '\x08' => ['\\', 'b']
  | '\x0c' => ['\\', 'f']
  | '\n' => ['\\', 'n']
  | '\r' => ['\\', 'r']
  | '\t' => ['\\', 't']
  | c =>
    if c < ' ' then
      ['\\', 'u', '0', '0', Nat.digitChar (c.toNat / 16), Nat.digitChar (c.toNat % 16)]
    else [c]

def Token.chars : Token → List Char
  | openObject => ['\x7b']
  | closeObject => ['\x7d']
  | openArray => ['[']
  | closeArray => [']']
  | colon => [':']
  | comma => [',']
  | null => "null".toList
  | bool true => "true".toList
  | bool false => "false".toList
  | number value => Nat.toDigits 10 value
  | text content => '"' :: content.toList.flatMap escape ++ ['"']

def Token.toText (tokens : List Token) : String := String.ofList (tokens.flatMap chars)

end LineLayout.Json
