import LineLayout.Json.Token
import LineLayout.Proofs.Text.Scanner
/-!
JSON tokens are read back from the text that is written for them.
-/
namespace LineLayout.Json

open Text (Scanner)

/-- The last digit of an escape completes it, unless the number is half of a pair. -/
theorem scanUnit_of_lt {value : Nat} (below : value < 0xd800) (chars : List Char) :
    scanUnit chars none value = some (.text (Char.ofNat value :: chars)) := by
  have notHigh : ¬ 0xd800 ≤ value := by omega
  have notLow : ¬ 0xdc00 ≤ value := by omega
  simp [scanUnit, notHigh, notLow]

theorem scanStep_unit {digit missing : Nat} (below : digit < 16) (more : 1 < missing)
    (chars : List Char) (high : Option Nat) (value : Nat) :
    scanStep (.unit chars high value missing) digit.digitChar =
      some ([], .unit chars high (16 * value + digit) (missing - 1)) := by
  have notLast : ¬ missing ≤ 1 := by omega
  simp [scanStep, Text.hexDigit?_digitChar below, notLast]

theorem scanStep_lastUnit {digit value : Nat} (below : digit < 16)
    (single : 16 * value + digit < 0xd800) (chars : List Char) :
    scanStep (.unit chars none value 1) digit.digitChar =
      some ([], .text (Char.ofNat (16 * value + digit) :: chars)) := by
  simp [scanStep, Text.hexDigit?_digitChar below, scanUnit_of_lt single]

theorem read_control {c : Char} (control : c < ' ') (chars later : List Char) :
    scanner.tokensFrom? (.text chars)
        (['\\', 'u', '0', '0', Nat.digitChar (c.toNat / 16), Nat.digitChar (c.toNat % 16)] ++
          later) =
      scanner.tokensFrom? (.text (c :: chars)) later := by
  have small : c.toNat < 32 := control
  have number : 16 * (c.toNat / 16) + c.toNat % 16 = c.toNat := by omega
  have high : scanStep (.unit chars none 0 2) (Nat.digitChar (c.toNat / 16)) =
      some ([], .unit chars none (c.toNat / 16) 1) := by
    simpa using scanStep_unit (by omega) (by omega : 1 < 2) chars none 0
  have low : scanStep (.unit chars none (c.toNat / 16) 1) (Nat.digitChar (c.toNat % 16)) =
      some ([], .text (c :: chars)) := by
    rw [scanStep_lastUnit (by omega) (by omega), number, Char.ofNat_toNat]
  have opened : scanStep (.text chars) '\\' = some ([], .escape chars) := rfl
  have unit : scanStep (.escape chars) 'u' = some ([], .unit chars none 0 4) := rfl
  have zero : scanStep (.unit chars none 0 4) '0' = some ([], .unit chars none 0 3) := rfl
  have zeros : scanStep (.unit chars none 0 3) '0' = some ([], .unit chars none 0 2) := rfl
  simp only [List.cons_append, List.nil_append]
  rw [Scanner.tokensFrom?_of_silent opened, Scanner.tokensFrom?_of_silent unit,
    Scanner.tokensFrom?_of_silent zero, Scanner.tokensFrom?_of_silent zeros,
    Scanner.tokensFrom?_of_silent high, Scanner.tokensFrom?_of_silent low]

theorem read_escape (c : Char) (chars later : List Char) :
    scanner.tokensFrom? (.text chars) (escape c ++ later) =
      scanner.tokensFrom? (.text (c :: chars)) later := by
  unfold escape
  split
  case h_8 =>
    split
    case isTrue control => exact read_control control chars later
    case isFalse shown =>
      have plain : scanStep (.text chars) c = some ([], .text (c :: chars)) := by
        simp [scanStep, shown]
      exact Scanner.tokensFrom?_of_silent plain later
  -- Each of the others takes a backslash and a letter.
  all_goals
    have opened : scanStep (.text chars) '\\' = some ([], .escape chars) := rfl
    exact (Scanner.tokensFrom?_of_silent opened _).trans
      (Scanner.tokensFrom?_of_silent rfl later)

theorem read_content (content chars later : List Char) :
    scanner.tokensFrom? (.text chars) (content.flatMap escape ++ '"' :: later) =
      (scanner.tokensFrom? .between later).map
        (.text (String.ofList (chars.reverse ++ content)) :: ·) := by
  induction content generalizing chars with
  | nil =>
    rw [List.append_nil]
    exact Scanner.tokensFrom?_of_completes rfl later
  | cons c content ih =>
    rw [List.flatMap_cons, List.append_assoc, read_escape, ih, List.reverse_cons,
      List.append_assoc, List.singleton_append]

theorem read_digits {value : Nat} (positive : 0 < value) (later : List Char) :
    scanner.tokensFrom? .between (Nat.toDigits 10 value ++ later) =
      scanner.tokensFrom? (.digits value) later := by
  induction value using Nat.base_induction 10 (by decide) generalizing later with
  | single digit below =>
    rw [Nat.toDigits_of_lt_base below]
    refine Scanner.tokensFrom?_of_silent ?_ later
    revert digit
    decide
  | digit value digit below above ih =>
    have next : scanStep (.digits value) digit.digitChar =
        some ([], .digits (10 * value + digit)) := by
      have code := Nat.toNat_digitChar_of_lt_ten below
      simp [scanStep, Nat.isDigit_digitChar, below, code]
    rw [← Nat.toDigits_append_toDigits (by decide) above below, List.append_assoc, ih above,
      Nat.toDigits_of_lt_base below]
    exact Scanner.tokensFrom?_of_silent next later

def Apart (chars : List Char) : Prop := ∀ c, chars.head? = some c → c.isAlphanum = false

theorem read_literal (first : Char) (letters : List Char) {token : Token}
    (start : scanBetween first = some ([], .name [first]))
    (alphanum : ∀ c ∈ letters, c.isAlphanum = true)
    (literal : literal? (first :: letters).reverse = some token)
    {later : List Char} (apart : Apart later) :
    scanner.tokensFrom? .between (first :: letters ++ later) =
      (scanner.tokensFrom? .between later).map (token :: ·) := by
  have collects : ∀ c ∈ letters, ∀ before,
      scanStep (.name before) c = some ([], .name (c :: before)) := by
    intro c member before
    simp [scanStep, alphanum c member]
  have ends : scanEnd (.name (first :: letters).reverse) = some [token] := by
    rw [scanEnd, literal]
    rfl
  rw [List.cons_append, Scanner.tokensFrom?_of_silent start,
    Scanner.tokensFrom?_collect collects, ← List.reverse_cons]
  refine Scanner.tokensFrom?_of_ends ends rfl ?_
  intro c head
  change scanStep (.name (first :: letters).reverse) c = scanAfter token c
  rw [scanStep, apart c head, literal]
  rfl

theorem isDigit_of_not_isAlphanum {c : Char} (other : c.isAlphanum = false) : c.isDigit = false := by
  simp only [Char.isAlphanum, Bool.or_eq_false_iff] at other
  exact other.2

theorem read_number (value : Nat) {later : List Char} (apart : Apart later) :
    scanner.tokensFrom? .between (Nat.toDigits 10 value ++ later) =
      (scanner.tokensFrom? .between later).map (.number value :: ·) := by
  obtain rfl | positive := Nat.eq_zero_or_pos value
  · have zero : scanner.tokensFrom? .between (Nat.toDigits 10 0 ++ later) =
        scanner.tokensFrom? .zero later := Scanner.tokensFrom?_of_silent rfl later
    rw [zero]
    refine Scanner.tokensFrom?_of_ends rfl rfl ?_
    intro c head
    change scanStep .zero c = scanAfter (.number 0) c
    simp [scanStep, isDigit_of_not_isAlphanum (apart c head)]
  · rw [read_digits positive]
    refine Scanner.tokensFrom?_of_ends rfl rfl ?_
    intro c head
    change scanStep (.digits value) c = scanAfter (.number value) c
    simp [scanStep, isDigit_of_not_isAlphanum (apart c head)]

def Token.isMark : Token → Bool
  | openObject | closeObject | openArray | closeArray | colon | comma => true
  | null | bool _ | number _ | text _ => false

def Clear (tokens : List Token) : Prop := ∀ token, tokens.head? = some token → token.isMark = true

theorem Clear.apart {tokens : List Token} (clear : Clear tokens) :
    Apart (tokens.flatMap Token.chars) := by
  intro c first
  cases tokens with
  | nil => cases first
  | cons token others =>
    have mark := clear token rfl
    cases token <;> cases mark <;> cases first <;> rfl

theorem recovers_mark {token : Token} {tokens : List Token}
    (recovers : scanner.Recovers Token.chars tokens) (mark : token.isMark = true) :
    scanner.Recovers Token.chars (token :: tokens) := by
  apply recovers.cons
  cases token <;> cases mark <;> exact Scanner.tokensFrom?_of_completes rfl _

/-- Any token is read back in front of tokens before which a word is complete. -/
theorem recovers_cons {tokens : List Token} (recovers : scanner.Recovers Token.chars tokens)
    (clear : Clear tokens) (token : Token) : scanner.Recovers Token.chars (token :: tokens) := by
  cases token with
  | null =>
    exact recovers.cons
      (read_literal 'n' "ull".toList rfl (by simp) rfl clear.apart)
  | bool value =>
    cases value with
    | true =>
      exact recovers.cons
        (read_literal 't' "rue".toList rfl (by simp) rfl clear.apart)
    | false =>
      exact recovers.cons
        (read_literal 'f' "alse".toList rfl (by simp) rfl clear.apart)
  | number value => exact recovers.cons (read_number value clear.apart)
  | text content =>
    apply recovers.cons
    have quote : scanStep .between '"' = some ([], .text []) := rfl
    have inside := read_content content.toList [] (tokens.flatMap Token.chars)
    rw [List.reverse_nil, List.nil_append, String.ofList_toList] at inside
    rw [Token.chars, List.append_assoc, List.singleton_append, List.cons_append]
    exact (Scanner.tokensFrom?_of_silent quote _).trans inside
  | _ => exact recovers_mark recovers rfl

end LineLayout.Json
