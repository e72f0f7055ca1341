import Mathlib.Data.String.Basic
import LineLayout.Text.Hex
import LineLayout.Text.Slice
/-!
Which characters write a byte in hexadecimal digits, and what a slice of text by its bytes is.
-/
namespace LineLayout.Text

open String (utf8Len utf8Len_cons utf8Len_eq_zero)

theorem splitAtByte?_eq_some_iff {bytes : Nat} {text front back : List Char} :
    splitAtByte? bytes text = some (front, back) ↔
      text = front ++ back ∧ utf8Len front = bytes := by
  fun_induction splitAtByte? bytes text generalizing front with
  | case1 text =>
    rw [utf8Len_eq_zero]
    constructor
    · intro split
      cases split
      exact ⟨rfl, rfl⟩
    · rintro ⟨rfl, rfl⟩
      rfl
  | case2 bytes =>
    constructor
    · exact nofun
    · rintro ⟨nothing, length⟩
      rw [(List.nil_eq_append_iff.mp nothing).1] at length
      cases length
  | case3 bytes c later cut =>
    constructor
    · exact nofun
    · rintro ⟨same, length⟩
      cases front with
      | nil => cases length
      | cons first front =>
        cases same
        rw [utf8Len_cons] at length
        omega
  | case4 bytes c later whole ih =>
    rw [Option.map_eq_some_iff]
    constructor
    · rintro ⟨⟨rest, back'⟩, split, same⟩
      cases same
      obtain ⟨rfl, length⟩ := ih.mp split
      refine ⟨rfl, ?_⟩
      rw [utf8Len_cons, length]
      omega
    · rintro ⟨same, length⟩
      cases front with
      | nil => cases length
      | cons first front =>
        cases same
        rw [utf8Len_cons] at length
        exact ⟨(front, back), ih.mpr ⟨rfl, by omega⟩, rfl⟩

theorem split_unique {front back front' back' : List Char}
    (same : front ++ back = front' ++ back') (lengths : utf8Len front = utf8Len front') :
    front = front' ∧ back = back' := by
  have split : splitAtByte? (utf8Len front) (front ++ back) = some (front, back) :=
    splitAtByte?_eq_some_iff.mpr ⟨rfl, rfl⟩
  have split' : splitAtByte? (utf8Len front) (front ++ back) = some (front', back') :=
    splitAtByte?_eq_some_iff.mpr ⟨same, lengths.symm⟩
  rw [split] at split'
  cases split'
  exact ⟨rfl, rfl⟩

theorem slice?_eq_some_iff {text inside : List Char} {start length : Nat} :
    slice? text start length = some inside ↔
      ∃ front back, text = front ++ (inside ++ back) ∧ utf8Len front = start ∧
        utf8Len inside = length := by
  simp only [slice?, Option.bind_eq_bind, Option.bind_eq_some_iff]
  constructor
  · rintro ⟨⟨front, later⟩, before, ⟨inside', back⟩, within, same⟩
    cases same
    obtain ⟨rfl, start⟩ := splitAtByte?_eq_some_iff.mp before
    obtain ⟨rfl, length⟩ := splitAtByte?_eq_some_iff.mp within
    exact ⟨front, back, rfl, start, length⟩
  · rintro ⟨front, back, rfl, start, length⟩
    exact ⟨(front, inside ++ back), splitAtByte?_eq_some_iff.mpr ⟨rfl, start⟩,
      (inside, back), splitAtByte?_eq_some_iff.mpr ⟨rfl, length⟩, rfl⟩

def IsHexDigit (value : Nat) (c : Char) : Prop :=
  value < 16 ∧ (c = value.digitChar ∨ c = value.digitChar.toUpper)

instance (value : Nat) (c : Char) : Decidable (IsHexDigit value c) :=
  inferInstanceAs (Decidable (_ ∧ _))

theorem exists_offset {low high c : Char} (within : low ≤ c ∧ c ≤ high) :
    ∃ offset, offset ≤ high.toNat - low.toNat ∧ c.toNat - low.toNat = offset ∧
      c = Char.ofNat (low.toNat + offset) := by
  have first : low.toNat ≤ c.toNat := within.1
  have last : c.toNat ≤ high.toNat := within.2
  refine ⟨c.toNat - low.toNat, by omega, rfl, ?_⟩
  rw [Nat.add_sub_cancel' first, Char.ofNat_toNat]

theorem hexDigit?_eq_some_iff {c : Char} {value : Nat} :
    hexDigit? c = some value ↔ IsHexDigit value c := by
  constructor
  · intro digit
    have numerals : ∀ offset ≤ 9, IsHexDigit offset (Char.ofNat ('0'.toNat + offset)) := by decide
    have lowerCase : ∀ offset ≤ 5, IsHexDigit (offset + 10) (Char.ofNat ('a'.toNat + offset)) := by
      decide
    have upperCase : ∀ offset ≤ 5, IsHexDigit (offset + 10) (Char.ofNat ('A'.toNat + offset)) := by
      decide
    unfold hexDigit? at digit
    split at digit
    · obtain ⟨offset, bound, same, named⟩ := exists_offset (by assumption)
      rw [← Option.some.inj digit, same, named]
      exact numerals offset bound
    · split at digit
      · obtain ⟨offset, bound, same, named⟩ := exists_offset (by assumption)
        rw [← Option.some.inj digit, same, named]
        exact lowerCase offset bound
      · split at digit
        · obtain ⟨offset, bound, same, named⟩ := exists_offset (by assumption)
          rw [← Option.some.inj digit, same, named]
          exact upperCase offset bound
        · cases digit
  · rintro ⟨below, rfl | rfl⟩
    · exact hexDigit?_digitChar below
    · revert value
      decide

theorem IsHexDigit.utf8Size_eq_one {value : Nat} {c : Char} (digit : IsHexDigit value c) :
    c.utf8Size = 1 := by
  obtain ⟨below, rfl | rfl⟩ := digit
  · revert value
    decide
  · revert value
    decide

theorem hexNumber?_cons_eq_some_iff {value number : Nat} {c : Char} {later : List Char} :
    hexNumber? value (c :: later) = some number ↔
      ∃ digit, IsHexDigit digit c ∧ hexNumber? (16 * value + digit) later = some number := by
  rw [hexNumber?, Option.bind_eq_some_iff]
  simp only [hexDigit?_eq_some_iff]

theorem hexNumber?_singleton {c : Char} {number : Nat} :
    hexNumber? 0 [c] = some number ↔ IsHexDigit number c := by
  rw [hexNumber?_cons_eq_some_iff]
  simp [hexNumber?]

theorem hexNumber?_pair {first second : Char} {number : Nat} :
    hexNumber? 0 [first, second] = some number ↔
      IsHexDigit (number / 16) first ∧ IsHexDigit (number % 16) second := by
  simp only [hexNumber?_cons_eq_some_iff]
  constructor
  · rintro ⟨high, isHigh, low, isLow, sum⟩
    have whole : 16 * high + low = number := by simpa [hexNumber?] using sum
    have below := isLow.1
    rw [show number / 16 = high by omega, show number % 16 = low by omega]
    exact ⟨isHigh, isLow⟩
  · rintro ⟨isHigh, isLow⟩
    refine ⟨_, isHigh, _, isLow, ?_⟩
    rw [hexNumber?, Nat.mul_zero, Nat.zero_add, Nat.div_add_mod]

theorem utf8Size_of_hexNumber? {value number : Nat} {digits : List Char}
    (read : hexNumber? value digits = some number) : ∀ c ∈ digits, c.utf8Size = 1 := by
  induction digits generalizing value with
  | nil => exact nofun
  | cons first later ih =>
    obtain ⟨digit, isDigit, onward⟩ := hexNumber?_cons_eq_some_iff.mp read
    exact List.forall_mem_cons.mpr ⟨isDigit.utf8Size_eq_one, ih onward⟩

theorem withoutPlus_eq_or (written : List Char) :
    written = withoutPlus written ∨ written = '+' :: withoutPlus written := by
  unfold withoutPlus
  split
  · exact .inr rfl
  · exact .inl rfl

theorem withoutPlus_of_ne {first : Char} (later : List Char) (other : first ≠ '+') :
    withoutPlus (first :: later) = first :: later := by
  unfold withoutPlus
  split
  · rename_i same
    exact absurd (List.cons.inj same).1 other
  · rfl

theorem hexByte?_eq_some_iff {written : List Char} {value : UInt8} :
    hexByte? written = some value ↔
      withoutPlus written ≠ [] ∧ hexNumber? 0 (withoutPlus written) = some value.toNat := by
  have byte : ∀ number, number < UInt8.size → (UInt8.ofNat number = value ↔ number = value.toNat) := by
    intro number below
    rw [← UInt8.toNat_inj, UInt8.toNat_ofNat_of_lt' below]
  unfold hexByte?
  split
  · rename_i nothing
    simp [nothing]
  · rename_i something
    refine (Iff.trans ?_ (and_iff_right (by simpa using something)).symm)
    cases hexNumber? 0 (withoutPlus written) with
    | none => simp
    | some number =>
      by_cases below : number < UInt8.size
      · simp only [if_pos below, Option.some.injEq, byte number below]
      · have tooLarge : number ≠ value.toNat := by
          rintro rfl
          exact below value.toNat_lt
        simp [below, tooLarge]

def IsHexByte (value : UInt8) (first second : Char) : Prop :=
  IsHexDigit (value.toNat / 16) first ∧ IsHexDigit (value.toNat % 16) second

/-- Whether two characters write a byte: its two digits, or a plus sign and its only digit. -/
def WritesByte (value : UInt8) (first second : Char) : Prop :=
  IsHexByte value first second ∨ first = '+' ∧ IsHexDigit value.toNat second

theorem not_isHexDigit_plus (value : Nat) : ¬ IsHexDigit value '+' := by
  rw [← hexDigit?_eq_some_iff]
  have none : hexDigit? '+' = none := by decide
  rw [none]
  exact nofun

theorem hexByte?_pair {first second : Char} {value : UInt8} :
    hexByte? [first, second] = some value ↔ WritesByte value first second := by
  rw [hexByte?_eq_some_iff]
  -- A plus sign is no digit, so only one of the two ways to write a byte is left in each case.
  by_cases plus : first = '+'
  · subst plus
    rw [withoutPlus, hexNumber?_singleton]
    simp [WritesByte, IsHexByte, not_isHexDigit_plus]
  · rw [withoutPlus_of_ne _ plus, hexNumber?_pair]
    simp [WritesByte, IsHexByte, plus]

theorem utf8Len_eq_length {text : List Char} (single : ∀ c ∈ text, c.utf8Size = 1) :
    utf8Len text = text.length := by
  induction text with
  | nil => rfl
  | cons first later ih =>
    obtain ⟨one, others⟩ := List.forall_mem_cons.mp single
    rw [utf8Len_cons, one, ih others, List.length_cons]

theorem utf8Len_of_hexByte? {written : List Char} {value : UInt8}
    (read : hexByte? written = some value) : utf8Len written = written.length := by
  have digits := utf8Size_of_hexNumber? (hexByte?_eq_some_iff.mp read).2
  apply utf8Len_eq_length
  rcases withoutPlus_eq_or written with same | same
  · rw [same]
    exact digits
  · rw [same]
    exact List.forall_mem_cons.mpr ⟨by decide, digits⟩

theorem exists_pair_of_hexByte? {written : List Char} {value : UInt8}
    (read : hexByte? written = some value) (length : utf8Len written = 2) :
    ∃ first second, written = [first, second] ∧ WritesByte value first second := by
  rw [utf8Len_of_hexByte? read] at length
  obtain ⟨first, second, rfl⟩ := List.length_eq_two.mp length
  exact ⟨first, second, rfl, hexByte?_pair.mp read⟩

theorem WritesByte.utf8Size_eq_one {value : UInt8} {first second : Char}
    (writes : WritesByte value first second) : first.utf8Size = 1 ∧ second.utf8Size = 1 := by
  rcases writes with ⟨high, low⟩ | ⟨rfl, low⟩
  · exact ⟨high.utf8Size_eq_one, low.utf8Size_eq_one⟩
  · exact ⟨by decide, low.utf8Size_eq_one⟩

end LineLayout.Text
