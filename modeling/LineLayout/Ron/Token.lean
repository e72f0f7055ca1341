import LineLayout.Text.Hex
import LineLayout.Text.Quoted
import LineLayout.Text.Scanner
/-!
Tokens of RON, and the machine that reads them off a text one character at a time.
-/
namespace LineLayout.Ron

inductive Token where
  | openParen
  | closeParen
  | openBracket
  | closeBracket
  | colon
  | comma
  | hash
  | bang
  /-- A name or a number; a raw name stands behind a mark that makes it a name in any case. -/
  | word (raw : Bool) (letters : String)
  | text (content : String)
  deriving DecidableEq, Repr

/-- Where the machine stands. Characters read so far come last first. -/
inductive Scan where
  | between
  | slash
  | lineComment
  /-- In nested comments; `previous` is the character before unless that belongs to a delimiter. -/
  | comment (level : Nat) (previous : Char)
  | word (raw : Bool) (letters : List Char)
  | announced
  | hashes (count : Nat)
  /-- In a raw text, closed by a quote and `hashes` hashes; `matched` counts those after a quote. -/
  | rawText (hashes : Nat) (chars : List Char) (matched : Option Nat)
  | text (chars : List Char)
  | escape (chars : List Char)
  | byte (chars : List Char) (value missing : Nat)
  | openNumber (chars : List Char)
  | number (chars : List Char) (value digits : Nat)
  deriving DecidableEq, Repr

def isWordChar (c : Char) : Bool := c.isAlphanum || ['_', '.', '+', '-'].contains c

def scanBetween (c : Char) : Option (List Token × Scan) :=
  match c with
  | ' ' | '\t' | '\n' | '\r' => some ([], .between)
  | '(' => some ([.openParen], .between)
  | ')' => some ([.closeParen], .between)
  | '[' => some ([.openBracket], .between)
  | ']' => some ([.closeBracket], .between)
  | ':' => some ([.colon], .between)
  | ',' => some ([.comma], .between)
  | '#' => some ([.hash], .between)
  | '!' => some ([.bang], .between)
  | '"' => some ([], .text [])
  | '/' => some ([], .slash)
  | 'r' => some ([], .announced)
  | c => if isWordChar c then some ([], .word false [c]) else none

def scanAfter (raw : Bool) (letters : List Char) (c : Char) : Option (List Token × Scan) :=
  (scanBetween c).map fun (tokens, scan) =>
    (.word raw (String.ofList letters.reverse) :: tokens, scan)

def textToken (chars : List Char) : Token := .text (String.ofList chars.reverse)

def unmatched (chars : List Char) : Option Nat → List Char
  | none => chars
  | some count => List.replicate count '#' ++ '"' :: chars

def escaped? : Char → Option Char
  | '\'' => some '\''
  | '"' => some '"'
  | '\\' => some '\\'
  | 'n' => some '\n'
  | 'r' => some '\r'
  | 't' => some '\t'
  | '0' => some '\x00'
  | _ => none

def scanStep : Scan → Char → Option (List Token × Scan)
  | .between, c => scanBetween c
  | .slash, '/' => some ([], .lineComment)
  | .slash, '*' => some ([], .comment 1 ' ')
  | .slash, _ => none
  | .lineComment, c => some ([], if c = '\n' then .between else .lineComment)
  | .comment level '/', '*' => some ([], .comment (level + 1) ' ')
  | .comment level '*', '/' =>
    some ([], if level ≤ 1 then .between else .comment (level - 1) ' ')
  | .comment level _, c => some ([], .comment level c)
  | .word raw letters, c =>
    if isWordChar c then some ([], .word raw (c :: letters)) else scanAfter raw letters c
  | .announced, '"' => some ([], .rawText 0 [] none)
  | .announced, '#' => some ([], .hashes 1)
  | .announced, c =>
    if isWordChar c then some ([], .word false [c, 'r']) else scanAfter false ['r'] c
  | .hashes count, '#' => some ([], .hashes (count + 1))
  | .hashes count, '"' => some ([], .rawText count [] none)
  | .hashes count, c =>
    if count = 1 && isWordChar c then some ([], .word true [c]) else none
  | .rawText hashes chars matched, '"' =>
    if hashes = 0 then some ([textToken chars], .between)
    else some ([], .rawText hashes (unmatched chars matched) (some 0))
  | .rawText hashes chars (some count), '#' =>
    if hashes ≤ count + 1 then some ([textToken chars], .between)
    else some ([], .rawText hashes chars (some (count + 1)))
  | .rawText hashes chars matched, c =>
    some ([], .rawText hashes (c :: unmatched chars matched) none)
  | .text chars, '"' => some ([textToken chars], .between)
  | .text chars, '\\' => some ([], .escape chars)
  | .text chars, c => some ([], .text (c :: chars))
  | .escape chars, 'x' => some ([], .byte chars 0 2)
  | .escape chars, 'u' => some ([], .openNumber chars)
  | .escape chars, c => (escaped? c).map fun char => ([], .text (char :: chars))
  | .byte chars value missing, c => (Text.hexDigit? c).map fun digit =>
    ([], if missing ≤ 1 then .text (Char.ofNat (16 * value + digit) :: chars)
      else .byte chars (16 * value + digit) (missing - 1))
  | .openNumber chars, c => if c = '\x7b' then some ([], .number chars 0 0) else none
  | .number chars value digits, '\x7d' =>
    if 0 < digits ∧ value.isValidChar then some ([], .text (Char.ofNat value :: chars)) else none
  | .number chars value digits, c =>
    if digits < 6 then
      (Text.hexDigit? c).map fun digit => ([], .number chars (16 * value + digit) (digits + 1))
    else none

def scanEnd : Scan → Option (List Token)
  | .between | .lineComment => some []
  | .word raw letters => some [.word raw (String.ofList letters.reverse)]
  | .announced => some [.word false "r"]
  | _ => none

def scanner : Text.Scanner Scan Token := ⟨.between, scanStep, scanEnd⟩

def Token.chars : Token → List Char
  | openParen => ['(']
  | closeParen => [')']
  | openBracket => ['[']
  | closeBracket => [']']
  | colon => [':']
  | comma => [',']
  | hash => ['#']
  | bang => ['!']
  | word raw letters => if raw then 'r' :: '#' :: letters.toList else letters.toList
  | text content => (Text.quotedWith ['"', '\\', '\''] content).toList

def Token.toText (tokens : List Token) : String := String.ofList (tokens.flatMap chars)

end LineLayout.Ron
