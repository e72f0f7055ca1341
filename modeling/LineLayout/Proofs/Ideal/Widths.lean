import LineLayout.Proofs.Ideal.Lines
/-!
Layouts at two widths agree up to the first line of the wider one that exceeds the smaller width.
-/
namespace LineLayout

variable {α : Type}

theorem LineFits.mono {width width' tabWidth column : Nat} {entries : List (Entry α)}
    {resolved : List Bool} (narrower : width ≤ width')
    (fits : LineFits width tabWidth column entries resolved) :
    LineFits width' tabWidth column entries resolved := by
  obtain ⟨shown, last, ends, bound⟩ := fits
  exact ⟨shown, last, ends, Nat.le_trans bound narrower⟩

theorem firstFit?_eq_none_of_le {width width' tabWidth column : Nat} {entries : List (Entry α)}
    (narrower : width ≤ width') (nothing : firstFit? width' tabWidth column entries = none) :
    firstFit? width tabWidth column entries = none := by
  rw [firstFit?_eq_none_iff] at nothing ⊢
  intro resolved fits
  exact nothing resolved (fits.mono narrower)

namespace Ideal

open Printer (Event)
open Fragment (lines lineEnds)

/-- If the first line at the larger width ends within the smaller one, then some resolution fits at
the smaller width too. -/
theorem firstFit?_of_lineEnds_le {width width' tabWidth column count : Nat}
    {entries : List (Entry α)}
    (bound : ∀ last ∈ (lineEnds column
      (Event.shown (events width' tabWidth column entries))).take (count + 1), last ≤ width) :
    ∃ first, firstFit? width tabWidth column entries = some first := by
  have ends := lineEnds_firstLine width' tabWidth column entries
  have head := Event.head?_lineEnds_shown column (events width' tabWidth column entries)
  obtain ⟨others, split⟩ := List.head?_eq_some_iff.mp head
  rw [split, List.take_succ_cons] at bound
  obtain ⟨first, found, _⟩ := firstFit?_of_lineEnds ends (bound _ List.mem_cons_self)
  exact ⟨first, found⟩

theorem take_lines_eq {width width' tabWidth column : Nat} {entries : List (Entry α)}
    (narrower : width ≤ width') (count : Nat)
    (bound : ∀ last ∈ (lineEnds column
      (Event.shown (events width' tabWidth column entries))).take count, last ≤ width) :
    (lines (Event.shown (events width tabWidth column entries))).take count =
      (lines (Event.shown (events width' tabWidth column entries))).take count := by
  induction entries using Entry.induction generalizing column count with
  | nil => rw [events, events]
  | newline indentation later ih =>
    cases count with
    | zero => rfl
    | succ count =>
      rw [events, Event.shown_fragment, lineEnds, List.take_succ_cons] at bound
      have same := ih count fun last member => bound last (List.mem_cons_of_mem _ member)
      rw [events, events, Event.shown_fragment, Event.shown_fragment, lines, lines,
        List.take_succ_cons, List.take_succ_cons, List.take_modifyHead, List.take_modifyHead, same]
  | empty indentation later ih =>
    rw [events] at bound
    rw [events, events]
    exact ih count bound
  | text indentation content label later ih =>
    rw [events, Event.shown_fragment, lineEnds] at bound
    rw [events, events, Event.shown_fragment, Event.shown_fragment, lines, lines,
      List.take_modifyHead, List.take_modifyHead, ih count bound]
  | concat indentation left right later ih =>
    rw [events] at bound
    rw [events, events]
    exact ih count bound
  | indent indentation body later ih | hang indentation body later ih =>
    rw [events] at bound
    rw [events, events]
    exact ih _ count bound
  | choice indentation wide narrow later ihWide ihNarrow =>
    cases count with
    | zero => rfl
    | succ count =>
      cases wider : firstFit? width' tabWidth column (⟨indentation, wide⟩ :: later) with
      | some first' =>
        -- The first line at the larger width is short enough for the smaller one, so the choice is
        -- wide there as well.
        rw [events, wider, Event.shown_choice] at bound
        obtain ⟨first, found⟩ := firstFit?_of_lineEnds_le bound
        rw [events, events, wider, found]
        exact ihWide _ bound
      | none =>
        have nothing := firstFit?_eq_none_of_le narrower wider
        rw [events, wider, Event.shown_choice] at bound
        rw [events, events, wider, nothing]
        exact ihNarrow _ bound

end Ideal

/-- Two displays of a document agree on every line before the first one that is longer than the
smaller width at the larger one, and are the same if there is no such line. -/
theorem render_eq_up_to_long_line {width width' tabWidth : Nat} {d : Doc α}
    {narrowly widely : List (Fragment α)} (narrower : width ≤ width') (unbroken : d.Unbroken)
    (complete : d.render ⟨width, tabWidth⟩ = .ok narrowly)
    (complete' : d.render ⟨width', tabWidth⟩ = .ok widely) :
    (∀ count, (∀ line ∈ (Fragment.textLines widely).take count, line.length ≤ width) →
      (Fragment.lines narrowly).take count = (Fragment.lines widely).take count ∧
      (Fragment.textLines narrowly).take count = (Fragment.textLines widely).take count) ∧
    ((∀ line ∈ Fragment.textLines widely, line.length ≤ width) → narrowly = widely) := by
  have entries : Unbroken [(⟨0, d⟩ : Entry α)] := List.forall_mem_singleton.mpr unbroken
  have plain := Ideal.unbroken_shown_events width tabWidth 0 entries
  have plain' := Ideal.unbroken_shown_events width' tabWidth 0 entries
  rw [← Printer.render_eq_ideal complete] at plain
  rw [← Printer.render_eq_ideal complete'] at plain'
  have same : ∀ count, (∀ line ∈ (Fragment.textLines widely).take count, line.length ≤ width) →
      (Fragment.lines narrowly).take count = (Fragment.lines widely).take count := by
    intro count short
    have ends : ∀ last ∈ (Fragment.lineEnds 0 widely).take count, last ≤ width := by
      intro last member
      rw [Fragment.lineEnds_zero plain', ← List.map_take] at member
      obtain ⟨line, present, rfl⟩ := List.mem_map.mp member
      exact short line present
    rw [Printer.render_eq_ideal complete'] at ends
    rw [Printer.render_eq_ideal complete, Printer.render_eq_ideal complete']
    exact Ideal.take_lines_eq narrower count ends
  refine ⟨fun count short => ⟨same count short, ?_⟩, ?_⟩
  · rw [Fragment.textLines_eq_map plain, Fragment.textLines_eq_map plain', ← List.map_take,
      ← List.map_take, same count short]
  · intro short
    have lines := same (max (Fragment.lines narrowly).length (Fragment.lines widely).length)
      fun line member => short line (List.mem_of_mem_take member)
    rw [List.take_of_length_le (Nat.le_max_left ..), List.take_of_length_le (Nat.le_max_right ..)]
      at lines
    rw [← Fragment.flatten_lines narrowly, lines, Fragment.flatten_lines]

theorem first_line_eq_at_smaller_width :
    (Fragment.lines [.text "ab" (none : Option Unit), .newline 0, .text "cd" none, .newline 0,
      .text "ef" none]).take 1 =
    (Fragment.lines [.text "ab" (none : Option Unit), .newline 0, .text "cd" none, .text " " none,
      .text "ef" none]).take 1 := by
  have narrowly : (Doc.sum [.text "ab" (none : Option Unit), .newline, .text "cd" none, .line,
      .text "ef" none]).render ⟨4, 4⟩ =
      .ok [.text "ab" none, .newline 0, .text "cd" none, .newline 0, .text "ef" none] := by
    decide +kernel
  have widely : (Doc.sum [.text "ab" (none : Option Unit), .newline, .text "cd" none, .line,
      .text "ef" none]).render ⟨8, 4⟩ =
      .ok [.text "ab" none, .newline 0, .text "cd" none, .text " " none, .text "ef" none] := by
    decide +kernel
  have unbroken : (Doc.sum [.text "ab" (none : Option Unit), .newline, .text "cd" none, .line,
      .text "ef" none]).Unbroken := by
    unfold Doc.Unbroken
    decide
  exact ((render_eq_up_to_long_line (by decide) unbroken narrowly widely).1 1 (by decide)).1

end LineLayout
