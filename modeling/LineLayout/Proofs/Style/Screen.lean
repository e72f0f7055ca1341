import LineLayout.Proofs.Style.Spans
import LineLayout.Style.Screen
import LineLayout.Style.Terminal
/-!
What a terminal shows of styled text: every character in the appearance of its own span, whatever
attributes were set before, and with all attributes reset at the end.
-/
namespace LineLayout.Screen

open Terminal (sgr)

variable {before between after : Attributes} {stream stream' : List Char}
  {shown shown' : List (Char × Attributes)}

/-- Whether a stream, read on some attributes, shows characters and leaves other attributes behind.
What comes later is read as if it stood alone. -/
structure Displays (before : Attributes) (stream : List Char) (shown : List (Char × Attributes))
    (after : Attributes) : Prop where
  interpreted : ∀ later, interpret before .plain (stream ++ later) =
    (shown ++ (interpret after .plain later).1, (interpret after .plain later).2)
  remaining : ∀ later, withoutSequences false (stream ++ later) =
    shown.map Prod.fst ++ withoutSequences false later

theorem displays_nil (attributes : Attributes) : Displays attributes [] [] attributes :=
  ⟨fun _ => rfl, fun _ => rfl⟩

theorem Displays.append (displays : Displays before stream shown between)
    (displays' : Displays between stream' shown' after) :
    Displays before (stream ++ stream') (shown ++ shown') after where
  interpreted later := by
    rw [List.append_assoc, displays.interpreted, displays'.interpreted, List.append_assoc]
  remaining later := by
    rw [List.append_assoc, displays.remaining, displays'.remaining, List.map_append,
      List.append_assoc]

theorem displays_text (attributes : Attributes) {content : List Char}
    (plain : '\x1b' ∉ content) :
    Displays attributes content (content.map (·, attributes)) attributes := by
  induction content with
  | nil => exact displays_nil attributes
  | cons c content ih =>
    rw [List.mem_cons, not_or] at plain
    have shows : c ≠ '\x1b' := plain.1 ∘ Eq.symm
    have first : Displays attributes [c] [(c, attributes)] attributes := by
      constructor
      · intro later
        simp [interpret, shows]
      · intro later
        simp [withoutSequences, shows]
    exact first.append (ih plain.2)

section Sequences

variable (attributes : Attributes) (parameters : List Nat) (later : List Char)

theorem interpret_digits {digits : List Char} (allDigits : ∀ c ∈ digits, c.isDigit = true)
    (current : Nat) :
    interpret attributes (.sequence parameters current) (digits ++ later) =
      interpret attributes (.sequence parameters (Nat.ofDigitChars 10 digits current)) later := by
  induction digits generalizing current with
  | nil => rfl
  | cons digit digits ih =>
    rw [List.forall_mem_cons] at allDigits
    rw [List.cons_append, interpret, if_pos allDigits.1, ih allDigits.2, Nat.ofDigitChars_cons]

theorem interpret_number (number : Nat) :
    interpret attributes (.sequence parameters 0) ((toString number).toList ++ later) =
      interpret attributes (.sequence parameters number) later := by
  have allDigits : ∀ c ∈ Nat.toDigits 10 number, c.isDigit = true := by
    intro c member
    exact Nat.isDigit_of_mem_toDigits (by decide) (by decide) member
  rw [Nat.toString_eq_repr, Nat.toList_repr, interpret_digits _ _ _ allDigits,
    Nat.ofDigitChars_ten_toDigits]

theorem interpret_numbers (first : Nat) (others : List Nat) :
    interpret attributes (.sequence parameters 0)
        ((";".intercalate ((first :: others).map toString)).toList ++ 'm' :: later) =
      interpret (apply attributes (parameters.reverse ++ first :: others)) .plain later := by
  induction others generalizing first parameters with
  | nil =>
    rw [List.map_singleton, String.intercalate_singleton, interpret_number, interpret,
      if_neg (by decide), if_neg (by decide), if_pos rfl, List.reverse_cons]
  | cons next others ih =>
    have rest := ih (first :: parameters) next
    rw [List.reverse_cons, List.append_assoc, List.singleton_append] at rest
    rw [List.map_cons, List.map_cons, String.intercalate_cons_cons, String.toList_append,
      String.toList_append, List.append_assoc, List.append_assoc, interpret_number, ← rest]
    simp [interpret]

theorem withoutSequences_inside {inside : List Char} (noEnd : 'm' ∉ inside) :
    withoutSequences true (inside ++ 'm' :: later) = withoutSequences false later := by
  induction inside with
  | nil => rfl
  | cons c inside ih =>
    rw [List.mem_cons, not_or] at noEnd
    have goesOn : (c != 'm') = true := bne_iff_ne.mpr (noEnd.1 ∘ Eq.symm)
    rw [List.cons_append, withoutSequences, if_pos rfl, goesOn, ih noEnd.2]

theorem not_mem_numbers (numbers : List Nat) :
    'm' ∉ (";".intercalate (numbers.map toString)).toList := by
  have inNumber : ∀ number : Nat, 'm' ∉ (toString number).toList := by
    intro number member
    rw [Nat.toString_eq_repr, Nat.toList_repr] at member
    have digit := Nat.isDigit_of_mem_toDigits (by decide) (by decide) member
    cases digit
  induction numbers with
  | nil => simp
  | cons number numbers ih =>
    cases numbers with
    | nil => simpa using inNumber number
    | cons next later =>
      rw [List.map_cons, List.map_cons, String.intercalate_cons_cons, String.toList_append,
        String.toList_append, List.mem_append, List.mem_append]
      rintro ((inFirst | isMark) | inOthers)
      · exact inNumber number inFirst
      · simp at isMark
      · exact ih inOthers

end Sequences

theorem displays_sgr (attributes : Attributes) {written : String} {first : Nat} {others : List Nat}
    (numbers : written = ";".intercalate ((first :: others).map toString)) :
    Displays attributes (sgr written).toList [] (apply attributes (first :: others)) := by
  subst numbers
  have chars : ∀ later, (sgr (";".intercalate ((first :: others).map toString))).toList ++ later =
      '\x1b' :: '[' ::
        ((";".intercalate ((first :: others).map toString)).toList ++ 'm' :: later) := by
    intro later
    simp [sgr]
  constructor
  · intro later
    rw [chars]
    exact interpret_numbers attributes [] later first others
  · intro later
    rw [chars]
    exact withoutSequences_inside later (not_mem_numbers (first :: others))

theorem displays_reset (attributes : Attributes) :
    Displays attributes Terminal.reset.toList [] {} := by
  have zero : "0" = ";".intercalate ([0].map toString) := rfl
  exact displays_sgr attributes zero

theorem color_eq_intercalate (ground : Nat) (rgb : Rgb) :
    toString ground ++ ";2;" ++ Terminal.channels rgb = ";".intercalate
      ([ground, 2, rgb.red.toNat, rgb.green.toNat, rgb.blue.toNat].map toString) := by
  have two : ";2;" = ";" ++ toString 2 ++ ";" := rfl
  simp only [two, Terminal.channels, List.map_cons, List.map_nil, String.intercalate_cons_cons,
    String.intercalate_singleton, String.append_assoc]

theorem displays_foreground (attributes : Attributes) (rgb : Rgb) :
    Displays attributes (sgr ("38;2;" ++ Terminal.channels rgb)).toList []
      { attributes with foreground := some rgb } := by
  have sets := displays_sgr attributes (color_eq_intercalate 38 rgb)
  simp only [apply, UInt8.ofNat_toNat] at sets
  exact sets

theorem displays_background (attributes : Attributes) (rgb : Rgb) :
    Displays attributes (sgr ("48;2;" ++ Terminal.channels rgb)).toList []
      { attributes with background := some rgb } := by
  have sets := displays_sgr attributes (color_eq_intercalate 48 rgb)
  simp only [apply, UInt8.ofNat_toNat] at sets
  exact sets

theorem displays_ground (background : Option Rgb) :
    Displays {} (background.elim "" fun rgb => sgr ("48;2;" ++ Terminal.channels rgb)).toList []
      { background := background } := by
  cases background with
  | none => exact displays_nil _
  | some rgb => exact displays_background _ rgb

theorem displays_setAppearance (appearance : Appearance) :
    Displays {} (Terminal.setAppearance appearance).toList [] (.ofAppearance appearance) := by
  obtain ⟨foreground, background, bold, underlined⟩ := appearance
  have ground := displays_ground background
  have color := displays_foreground { background := background } foreground
  have weight : Displays { foreground := some foreground, background := background }
      (if bold then sgr "1" else "").toList []
      { foreground := some foreground, background := background, bold := bold } := by
    have one : "1" = ";".intercalate ([1].map toString) := rfl
    cases bold with
    | false => exact displays_nil _
    | true => exact displays_sgr _ one
  have rule : Displays { foreground := some foreground, background := background, bold := bold }
      (if underlined then sgr "4" else "").toList []
      ⟨some foreground, background, bold, underlined⟩ := by
    have four : "4" = ";".intercalate ([4].map toString) := rfl
    cases underlined with
    | false => exact displays_nil _
    | true => exact displays_sgr _ four
  have written : Terminal.setAppearance ⟨foreground, background, bold, underlined⟩ =
      (background.elim "" fun rgb => sgr ("48;2;" ++ Terminal.channels rgb)) ++
        sgr ("38;2;" ++ Terminal.channels foreground) ++ (if bold then sgr "1" else "") ++
        (if underlined then sgr "4" else "") := by
    cases background <;> rfl
  rw [written, String.toList_append, String.toList_append, String.toList_append]
  exact ((ground.append color).append weight).append rule

/-- A span resets what was set before, so nothing of it is left in its text. -/
theorem displays_span (theme : Theme) (before : Attributes) {content : String} (style : Style)
    (plain : '\x1b' ∉ content.toList) :
    Displays before (Terminal.span theme content style).toList
      (content.toList.map (·, .ofStyle theme style)) (.ofStyle theme style) := by
  have resets := displays_reset before
  have sets : Displays {} (Terminal.setAppearance (theme.appearance style)).toList []
      (.ofStyle theme style) := displays_setAppearance (theme.appearance style)
  have shows := displays_text (.ofStyle theme style) plain
  rw [Terminal.span, String.toList_append, String.toList_append]
  exact (resets.append sets).append shows

def styledCharacters (theme : Theme) (spans : List (String × Style)) : List (Char × Attributes) :=
  (StyledText.characters spans).map fun (c, style) => (c, .ofStyle theme style)

theorem displays_spans (theme : Theme) {spans : List (String × Style)}
    (plain : ∀ span ∈ spans, '\x1b' ∉ span.1.toList) {written : String}
    (displays : Displays before written.toList shown after) :
    ∃ last, Displays before
      (spans.foldl (fun written part => written ++ Terminal.span theme part.1 part.2)
        written).toList
      (shown ++ styledCharacters theme spans) last := by
  induction spans generalizing written shown after with
  | nil =>
    refine ⟨after, ?_⟩
    simpa [styledCharacters] using displays
  | cons span spans ih =>
    obtain ⟨content, style⟩ := span
    rw [List.forall_mem_cons] at plain
    have next := displays.append (displays_span theme after style plain.1)
    rw [← String.toList_append] at next
    have rest := ih plain.2 next
    simpa [styledCharacters, Function.comp_def] using rest

end LineLayout.Screen

namespace LineLayout.Terminal

open Screen (Attributes)

/-- Whatever attributes a terminal has, it shows the characters of styled text in order, each in the
appearance that the theme gives the style of its own span, and has every attribute reset at the end;
without its escape sequences the stream is the text. -/
theorem shows_each_span_in_its_style (theme : Theme) (text : StyledText Style)
    (plain : ∀ span ∈ text.spans, '\x1b' ∉ span.1.toList) (attributes : Attributes) :
    Screen.interpret attributes .plain (write theme text).toList =
      (Screen.styledCharacters theme text.spans, {}) ∧
    Screen.withoutSequences false (write theme text).toList = text.display.toList := by
  have nothing : Screen.Displays attributes "".toList [] attributes :=
    Screen.displays_nil attributes
  obtain ⟨last, shows⟩ := Screen.displays_spans theme plain nothing
  have resets := (Screen.displays_reset last).append (Screen.displays_reset {})
  have whole : Screen.Displays attributes (write theme text).toList
      (Screen.styledCharacters theme text.spans) {} := by
    simpa [write] using shows.append resets
  constructor
  · have read := whole.interpreted []
    simpa [Screen.interpret] using read
  · calc
      Screen.withoutSequences false (write theme text).toList
        = (Screen.styledCharacters theme text.spans).map Prod.fst := by
          have read := whole.remaining []
          simpa [Screen.withoutSequences] using read
      _ = (StyledText.characters text.spans).map Prod.fst := by
          rw [Screen.styledCharacters, List.map_map]
          rfl
      _ = text.display.toList := by
          rw [StyledText.map_fst_characters, StyledText.display_eq_join]

def lookalike : StyledText Style :=
  ⟨[("[0m", {}), ("1m", ⟨.base08, ⟨true, true⟩, true⟩)]⟩

theorem shows_lookalike :
    (∀ span ∈ lookalike.spans, '\x1b' ∉ span.1.toList) ∧
    Screen.interpret ⟨some ⟨1, 2, 3⟩, some ⟨4, 5, 6⟩, true, false⟩ .plain
        (write .defaultDark lookalike).toList =
      ([('1', ⟨some ⟨0x18, 0x18, 0x18⟩, some ⟨0xab, 0x46, 0x42⟩, true, true⟩),
        ('m', ⟨some ⟨0x18, 0x18, 0x18⟩, some ⟨0xab, 0x46, 0x42⟩, true, true⟩),
        ('[', ⟨some ⟨0xd8, 0xd8, 0xd8⟩, none, false, false⟩),
        ('0', ⟨some ⟨0xd8, 0xd8, 0xd8⟩, none, false, false⟩),
        ('m', ⟨some ⟨0xd8, 0xd8, 0xd8⟩, none, false, false⟩)], {}) ∧
    Screen.withoutSequences false (write .defaultDark lookalike).toList = "1m[0m".toList := by
  have plain : ∀ span ∈ lookalike.spans, '\x1b' ∉ span.1.toList := by
    decide +kernel
  have shows := shows_each_span_in_its_style .defaultDark lookalike plain
    ⟨some ⟨1, 2, 3⟩, some ⟨4, 5, 6⟩, true, false⟩
  exact ⟨plain, shows.1, shows.2⟩

end LineLayout.Terminal
