import LineLayout.Proofs.Text.Scanner
import LineLayout.Ron.Token
/-!
RON tokens are read back from the text that is written for them.
-/
namespace LineLayout.Ron

open Text (Scanner)

theorem scanStep_hexDigit {digit digits : Nat} (below : digit < 16) (more : digits < 6)
    (chars : List Char) (value : Nat) :
    scanStep (.number chars value digits) digit.digitChar =
      some ([], .number chars (16 * value + digit) (digits + 1)) := by
  simp [scanStep, more, Text.hexDigit?_digitChar below]

theorem read_hexDigits {value : Nat} (short : (Nat.toDigits 16 value).length ≤ 6)
    (chars later : List Char) :
    scanner.tokensFrom? (.number chars 0 0) (Nat.toDigits 16 value ++ later) =
      scanner.tokensFrom? (.number chars value (Nat.toDigits 16 value).length) later := by
  induction value using Nat.base_induction 16 (by decide) generalizing later with
  | single digit below =>
    have first := scanStep_hexDigit below (by decide : 0 < 6) chars 0
    rw [Nat.mul_zero, Nat.zero_add] at first
    rw [Nat.toDigits_of_lt_base below]
    exact Scanner.tokensFrom?_of_silent first later
  | digit value digit below above ih =>
    have digits : Nat.toDigits 16 (16 * value + digit) =
        Nat.toDigits 16 value ++ [digit.digitChar] := by
      rw [← Nat.toDigits_append_toDigits (by decide) above below, Nat.toDigits_of_lt_base below]
    rw [digits, List.length_append, List.length_singleton] at short ⊢
    have next := scanStep_hexDigit below (by omega : (Nat.toDigits 16 value).length < 6) chars value
    rw [List.append_assoc, ih (by omega), List.singleton_append]
    exact Scanner.tokensFrom?_of_silent next later

theorem read_codePoint (c : Char) (chars later : List Char) :
    scanner.tokensFrom? (.text chars)
        (['\\', 'u', '\x7b'] ++ Nat.toDigits 16 c.toNat ++ ['\x7d'] ++ later) =
      scanner.tokensFrom? (.text (c :: chars)) later := by
  have short : (Nat.toDigits 16 c.toNat).length ≤ 6 := by
    rw [Nat.length_toDigits_le_iff (by decide) (by decide)]
    obtain small | ⟨_, below⟩ := c.valid
    · exact Nat.lt_trans small (by decide)
    · exact Nat.lt_trans below (by decide)
  have opened : scanStep (.text chars) '\\' = some ([], .escape chars) := rfl
  have unit : scanStep (.escape chars) 'u' = some ([], .openNumber chars) := rfl
  have brace : scanStep (.openNumber chars) '\x7b' = some ([], .number chars 0 0) := rfl
  have closed : scanStep (.number chars c.toNat (Nat.toDigits 16 c.toNat).length) '\x7d' =
      some ([], .text (c :: chars)) := by
    have some' : 0 < (Nat.toDigits 16 c.toNat).length := Nat.length_toDigits_pos
    have valid : c.toNat.isValidChar := c.valid
    simp [scanStep, some', valid]
  simp only [List.cons_append, List.nil_append, List.append_assoc]
  rw [Scanner.tokensFrom?_of_silent opened, Scanner.tokensFrom?_of_silent unit,
    Scanner.tokensFrom?_of_silent brace, read_hexDigits short,
    Scanner.tokensFrom?_of_silent closed]

theorem read_escapeChar (c : Char) (chars later : List Char) :
    scanner.tokensFrom? (.text chars) (Text.escapeChar ['"', '\\', '\''] c ++ later) =
      scanner.tokensFrom? (.text (c :: chars)) later := by
  have opened : scanStep (.text chars) '\\' = some ([], .escape chars) := rfl
  unfold Text.escapeChar
  split
  case isTrue marked =>
    have mark : scanStep (.escape chars) c = some ([], .text (c :: chars)) := by
      simp only [List.contains_eq_mem, List.mem_cons, List.not_mem_nil, or_false,
        decide_eq_true_eq] at marked
      obtain rfl | rfl | rfl := marked <;> rfl
    exact (Scanner.tokensFrom?_of_silent opened _).trans (Scanner.tokensFrom?_of_silent mark later)
  case isFalse unmarked =>
    split
    case h_5 =>
      split
      case isTrue hidden => exact read_codePoint c chars later
      case isFalse shown =>
        have plain : scanStep (.text chars) c = some ([], .text (c :: chars)) := by
          have notQuote : c ≠ '"' := by
            rintro rfl
            exact unmarked rfl
          have notBackslash : c ≠ '\\' := by
            rintro rfl
            exact unmarked rfl
          simp [scanStep]
        exact Scanner.tokensFrom?_of_silent plain later
    all_goals
      exact (Scanner.tokensFrom?_of_silent opened _).trans (Scanner.tokensFrom?_of_silent rfl later)

theorem read_content (content chars later : List Char) :
    scanner.tokensFrom? (.text chars)
        (content.flatMap (Text.escapeChar ['"', '\\', '\'']) ++ '"' :: later) =
      (scanner.tokensFrom? .between later).map
        (.text (String.ofList (chars.reverse ++ content)) :: ·) := by
  induction content generalizing chars with
  | nil =>
    rw [List.append_nil]
    exact Scanner.tokensFrom?_of_completes rfl later
  | cons c content ih =>
    rw [List.flatMap_cons, List.append_assoc, read_escapeChar, ih, List.reverse_cons,
      List.append_assoc, List.singleton_append]

/-- A text does not go on with a word, and what it starts with does not make an `r` before it
announce a raw text or a raw name. -/
def Apart (chars : List Char) : Prop :=
  ∀ c, chars.head? = some c → isWordChar c = false ∧ c ≠ '"' ∧ c ≠ '#'

theorem read_letters {letters : List Char} (sound : ∀ c ∈ letters, isWordChar c = true)
    (raw : Bool) (before : List Char) {later : List Char} (apart : Apart later) :
    scanner.tokensFrom? (.word raw before) (letters ++ later) =
      (scanner.tokensFrom? .between later).map
        (.word raw (String.ofList (before.reverse ++ letters)) :: ·) := by
  have collects : ∀ c ∈ letters, ∀ before,
      scanStep (.word raw before) c = some ([], .word raw (c :: before)) := by
    intro c member before
    rw [scanStep, if_pos (sound c member)]
  have ends : scanEnd (.word raw (letters.reverse ++ before)) =
      some [.word raw (String.ofList (before.reverse ++ letters))] := by
    rw [scanEnd, List.reverse_append, List.reverse_reverse]
  rw [Scanner.tokensFrom?_collect collects]
  refine Scanner.tokensFrom?_of_ends ends rfl ?_
  intro c head
  change scanStep (.word raw (letters.reverse ++ before)) c = _
  rw [scanStep, if_neg (by simp [(apart c head).1]), scanAfter, List.reverse_append,
    List.reverse_reverse]
  rfl

theorem scanBetween_of_isWordChar {c : Char} (word : isWordChar c = true) (notR : c ≠ 'r') :
    scanBetween c = some ([], .word false [c]) := by
  unfold scanBetween
  split
  case h_16 => rw [if_pos word]
  all_goals
    first
      | exact absurd rfl notR
      | exact absurd word (by decide)

theorem read_word {first : Char} {letters : List Char}
    (sound : ∀ c ∈ first :: letters, isWordChar c = true) {later : List Char}
    (apart : Apart later) :
    scanner.tokensFrom? .between (first :: letters ++ later) =
      (scanner.tokensFrom? .between later).map
        (.word false (String.ofList (first :: letters)) :: ·) := by
  rw [List.forall_mem_cons] at sound
  rw [List.cons_append]
  by_cases announces : first = 'r'
  · subst announces
    have start : scanStep .between 'r' = some ([], .announced) := rfl
    refine (Scanner.tokensFrom?_of_silent start _).trans ?_
    cases letters with
    | nil =>
      refine Scanner.tokensFrom?_of_ends rfl rfl ?_
      intro c head
      obtain ⟨other, notQuote, notHash⟩ := apart c head
      change scanStep .announced c = scanAfter false ['r'] c
      simp [scanStep, other]
    | cons second letters =>
      have rest := List.forall_mem_cons.mp sound.2
      have next : scanStep .announced second = some ([], .word false [second, 'r']) := by
        have notQuote : second ≠ '"' := by
          rintro rfl
          exact absurd rest.1 (by decide)
        have notHash : second ≠ '#' := by
          rintro rfl
          exact absurd rest.1 (by decide)
        simp [scanStep, rest.1]
      exact (Scanner.tokensFrom?_of_silent next _).trans (read_letters rest.2 false _ apart)
  · have start := scanBetween_of_isWordChar sound.1 announces
    exact (Scanner.tokensFrom?_of_silent start _).trans (read_letters sound.2 false _ apart)

theorem read_rawWord {first : Char} {letters : List Char}
    (sound : ∀ c ∈ first :: letters, isWordChar c = true) {later : List Char}
    (apart : Apart later) :
    scanner.tokensFrom? .between ('r' :: '#' :: first :: letters ++ later) =
      (scanner.tokensFrom? .between later).map
        (.word true (String.ofList (first :: letters)) :: ·) := by
  rw [List.forall_mem_cons] at sound
  have start : scanStep .between 'r' = some ([], .announced) := rfl
  have hash : scanStep .announced '#' = some ([], .hashes 1) := rfl
  have named : scanStep (.hashes 1) first = some ([], .word true [first]) := by
    have notQuote : first ≠ '"' := by
      rintro rfl
      exact absurd sound.1 (by decide)
    have notHash : first ≠ '#' := by
      rintro rfl
      exact absurd sound.1 (by decide)
    simp [scanStep, sound.1]
  simp only [List.cons_append]
  exact (Scanner.tokensFrom?_of_silent start _).trans <|
    (Scanner.tokensFrom?_of_silent hash _).trans <|
      (Scanner.tokensFrom?_of_silent named _).trans (read_letters sound.2 true _ apart)

def Token.isMark : Token → Bool
  | openParen | closeParen | openBracket | closeBracket | colon | comma | bang => true
  | hash | word _ _ | text _ => false

/-- A word has letters, which are all such that words consist of. -/
def Token.isSound : Token → Bool
  | word _ letters => !letters.toList.isEmpty && letters.toList.all isWordChar
  | _ => true

def Clear (tokens : List Token) : Prop := ∀ token, tokens.head? = some token → token.isMark = true

theorem Clear.apart {tokens : List Token} (clear : Clear tokens) :
    Apart (tokens.flatMap Token.chars) := by
  intro c first
  cases tokens with
  | nil => cases first
  | cons token others =>
    have mark := clear token rfl
    cases token <;> cases mark <;> cases first <;> decide

theorem recovers_mark {token : Token} {tokens : List Token}
    (recovers : scanner.Recovers Token.chars tokens) (mark : token.isMark = true) :
    scanner.Recovers Token.chars (token :: tokens) := by
  apply recovers.cons
  cases token <;> cases mark <;> exact Scanner.tokensFrom?_of_completes rfl _

/-- Any sound token is read back in front of tokens before which a word is complete. -/
theorem recovers_cons {tokens : List Token} (recovers : scanner.Recovers Token.chars tokens)
    (clear : Clear tokens) {token : Token} (sound : token.isSound = true) :
    scanner.Recovers Token.chars (token :: tokens) := by
  cases token with
  | word raw word =>
    apply recovers.cons
    simp only [Token.isSound, Bool.and_eq_true, List.all_eq_true] at sound
    cases letters : word.toList with
    | nil => simp [letters] at sound
    | cons first later =>
      have written : String.ofList (first :: later) = word := by
        rw [← letters, String.ofList_toList]
      rw [letters] at sound
      cases raw with
      | false =>
        have read := read_word sound.2 clear.apart
        rw [written, ← letters] at read
        exact read
      | true =>
        have read := read_rawWord sound.2 clear.apart
        rw [written, ← letters] at read
        exact read
  | text content =>
    apply recovers.cons
    have quote : scanStep .between '"' = some ([], .text []) := rfl
    have inside := read_content content.toList [] (tokens.flatMap Token.chars)
    rw [List.reverse_nil, List.nil_append, String.ofList_toList] at inside
    rw [Token.chars, Text.quotedWith, String.toList_ofList, List.append_assoc,
      List.singleton_append, List.cons_append]
    exact (Scanner.tokensFrom?_of_silent quote _).trans inside
  | hash =>
    apply recovers.cons
    exact Scanner.tokensFrom?_of_completes rfl _
  | _ => exact recovers_mark recovers rfl

end LineLayout.Ron
