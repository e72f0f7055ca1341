import LineLayout.Proofs.Text.Hex
import LineLayout.Style.Theme
/-!
Which texts are read as colors: a number sign and three channels of two characters each. A channel
may also be a plus sign and one digit, so more texts are read than the six digits that are meant.
-/
namespace LineLayout.Rgb

open String (utf8Len utf8Len_cons utf8Len_eq_zero)
open Text (IsHexByte WritesByte)

/-- Whether a text is a number sign and three channels, each written in two characters. -/
def IsWritten (channel : UInt8 → Char → Char → Prop) (written : String) (rgb : Rgb) : Prop :=
  ∃ r r' g g' b b', written.toList = ['#', r, r', g, g', b, b'] ∧
    channel rgb.red r r' ∧ channel rgb.green g g' ∧ channel rgb.blue b b'

theorem IsWritten.mono {channel channel' : UInt8 → Char → Char → Prop} {written : String}
    {rgb : Rgb} (isWritten : IsWritten channel written rgb)
    (weaker : ∀ value first second, first ∈ written.toList → channel value first second →
      channel' value first second) : IsWritten channel' written rgb := by
  obtain ⟨r, r', g, g', b, b', text, red, green, blue⟩ := isWritten
  refine ⟨r, r', g, g', b, b', text, ?_, ?_, ?_⟩
  · exact weaker _ _ _ (by simp [text]) red
  · exact weaker _ _ _ (by simp [text]) green
  · exact weaker _ _ _ (by simp [text]) blue

theorem channel?_eq_some_iff {text : List Char} {start : Nat} {value : UInt8} :
    channel? text start = some value ↔ ∃ front first second back,
      text = front ++ first :: second :: back ∧ utf8Len front = start ∧
        WritesByte value first second := by
  simp only [channel?, Option.bind_eq_some_iff, Text.slice?_eq_some_iff]
  constructor
  · rintro ⟨inside, ⟨front, back, rfl, before, length⟩, read⟩
    obtain ⟨first, second, rfl, writes⟩ := Text.exists_pair_of_hexByte? read length
    exact ⟨front, first, second, back, rfl, before, writes⟩
  · rintro ⟨front, first, second, back, rfl, before, writes⟩
    have sizes := writes.utf8Size_eq_one
    refine ⟨[first, second], ⟨front, back, rfl, before, ?_⟩, Text.hexByte?_pair.mpr writes⟩
    simp [sizes]

theorem exists_of_channel? (front : List Char) {rest : List Char} {start : Nat} {value : UInt8}
    (read : channel? (front ++ rest) start = some value) (before : utf8Len front = start) :
    ∃ first second later, rest = first :: second :: later ∧ WritesByte value first second := by
  obtain ⟨front', first, second, later, same, before', writes⟩ := channel?_eq_some_iff.mp read
  obtain ⟨rfl, rest⟩ := Text.split_unique same (before.trans before'.symm)
  exact ⟨first, second, later, rest, writes⟩

theorem ofHex?_eq_some_iff_channels {written : String} {rgb : Rgb} :
    ofHex? written = some rgb ↔
      (utf8Len written.toList = 7 ∧ written.toList.head? = some '#') ∧
        channel? written.toList 1 = some rgb.red ∧ channel? written.toList 3 = some rgb.green ∧
        channel? written.toList 5 = some rgb.blue := by
  have bytes : written.utf8ByteSize = utf8Len written.toList := by
    rw [← String.utf8ByteSize_ofList, String.ofList_toList]
  rw [ofHex?, bytes]
  split
  · rename_i other
    have other : ¬ (utf8Len written.toList = 7 ∧ written.toList.head? = some '#') := by tauto
    exact iff_of_false nofun fun reads => other reads.1
  · rename_i sign
    have sign : utf8Len written.toList = 7 ∧ written.toList.head? = some '#' := by tauto
    obtain ⟨red, green, blue⟩ := rgb
    simp [sign, Option.bind_eq_some_iff]

theorem isWritten_of_ofHex? {written : String} {rgb : Rgb} (read : ofHex? written = some rgb) :
    IsWritten WritesByte written rgb := by
  obtain ⟨⟨bytes, sign⟩, red, green, blue⟩ := ofHex?_eq_some_iff_channels.mp read
  obtain ⟨rest, text⟩ := List.head?_eq_some_iff.mp sign
  have signSize : '#'.utf8Size = 1 := by decide
  rw [text] at red green blue bytes
  -- Each channel starts where the one before it ends: the characters are found from the front on.
  obtain ⟨r, r', rest, rfl, writesRed⟩ :=
    exists_of_channel? ['#'] red (by simp [signSize])
  have sizesRed := writesRed.utf8Size_eq_one
  obtain ⟨g, g', rest, rfl, writesGreen⟩ :=
    exists_of_channel? ['#', r, r'] green (by simp [signSize, sizesRed])
  have sizesGreen := writesGreen.utf8Size_eq_one
  obtain ⟨b, b', rest, rfl, writesBlue⟩ :=
    exists_of_channel? ['#', r, r', g, g'] blue (by simp [signSize, sizesRed, sizesGreen])
  have sizesBlue := writesBlue.utf8Size_eq_one
  have nothing : rest = [] := by
    apply utf8Len_eq_zero.mp
    simp only [utf8Len_cons, signSize, sizesRed, sizesGreen, sizesBlue] at bytes
    omega
  rw [nothing] at text
  exact ⟨r, r', g, g', b, b', text, writesRed, writesGreen, writesBlue⟩

theorem ofHex?_of_isWritten {written : String} {rgb : Rgb}
    (isWritten : IsWritten WritesByte written rgb) : ofHex? written = some rgb := by
  obtain ⟨r, r', g, g', b, b', text, writesRed, writesGreen, writesBlue⟩ := isWritten
  have signSize : '#'.utf8Size = 1 := by decide
  have sizesRed := writesRed.utf8Size_eq_one
  have sizesGreen := writesGreen.utf8Size_eq_one
  have sizesBlue := writesBlue.utf8Size_eq_one
  rw [ofHex?_eq_some_iff_channels, text]
  refine ⟨⟨?bytes, rfl⟩, ?red, ?green, ?blue⟩
  case bytes => simp [signSize, sizesRed, sizesGreen, sizesBlue]
  case red =>
    apply channel?_eq_some_iff.mpr
    exact ⟨['#'], r, r', [g, g', b, b'], rfl, by simp [signSize], writesRed⟩
  case green =>
    apply channel?_eq_some_iff.mpr
    exact ⟨['#', r, r'], g, g', [b, b'], rfl, by simp [signSize, sizesRed], writesGreen⟩
  case blue =>
    apply channel?_eq_some_iff.mpr
    exact ⟨['#', r, r', g, g'], b, b', [], rfl, by simp [signSize, sizesRed, sizesGreen], writesBlue⟩

/-- The texts that are read are those with three written channels, and each is read as these. Six
hexadecimal digits after a number sign are always read; where no plus sign stands for a digit they
are all that is read. -/
theorem ofHex?_reads_channels (written : String) (rgb : Rgb) :
    (ofHex? written = some rgb ↔ IsWritten WritesByte written rgb) ∧
    (IsWritten IsHexByte written rgb → ofHex? written = some rgb) ∧
    ('+' ∉ written.toList → (ofHex? written = some rgb ↔ IsWritten IsHexByte written rgb)) := by
  have reads : ofHex? written = some rgb ↔ IsWritten WritesByte written rgb :=
    ⟨isWritten_of_ofHex?, ofHex?_of_isWritten⟩
  have digits : IsWritten IsHexByte written rgb → ofHex? written = some rgb := by
    intro isWritten
    exact reads.mpr (isWritten.mono fun _ _ _ _ isByte => .inl isByte)
  refine ⟨reads, digits, ?_⟩
  intro noPlus
  refine ⟨?_, digits⟩
  intro read
  apply (reads.mp read).mono
  intro value first second member writes
  rcases writes with isByte | ⟨rfl, _⟩
  · exact isByte
  · exact absurd member noPlus

example : ofHex? "#1é234" = none := by decide

theorem ofHex?_mixed_case :
    IsWritten IsHexByte "#aB4642" ⟨0xab, 0x46, 0x42⟩ ∧
    ofHex? "#aB4642" = some ⟨0xab, 0x46, 0x42⟩ := by
  have isWritten : IsWritten IsHexByte "#aB4642" ⟨0xab, 0x46, 0x42⟩ := by
    refine ⟨'a', 'B', '4', '6', '4', '2', by decide, ?_, ?_, ?_⟩
    · exact ⟨by decide, by decide⟩
    · exact ⟨by decide, by decide⟩
    · exact ⟨by decide, by decide⟩
  exact ⟨isWritten, (ofHex?_reads_channels _ _).2.1 isWritten⟩

theorem ofHex?_plus_signs :
    ofHex? "#+1+2+3" = some ⟨1, 2, 3⟩ ∧ ¬ ∃ rgb, IsWritten IsHexByte "#+1+2+3" rgb := by
  constructor
  · decide
  · rintro ⟨rgb, r, r', g, g', b, b', text, red, _⟩
    cases text
    exact Text.not_isHexDigit_plus _ red.1

end LineLayout.Rgb
