import Mathlib.Control.Monad.Basic
import LineLayout.Proofs.Line.FirstFit
import LineLayout.Proofs.Printer.Ideal
/-!
Each line of a layout is the first one that fits: its choices are resolved by the first resolution
that ends it within the width, and are all narrow if no resolution does.
-/
namespace LineLayout

variable {α : Type}

namespace Ideal

open Printer (Event)

theorem lineEnds_firstLine (width tabWidth column : Nat) (entries : List (Entry α)) :
    LineEnds tabWidth column entries
      (Event.resolved (Event.firstLine (events width tabWidth column entries)))
      (Event.shown (Event.firstLine (events width tabWidth column entries)))
      (Event.columnAfter column (Event.firstLine (events width tabWidth column entries))) := by
  induction entries using Entry.induction generalizing column with
  | nil =>
    rw [events]
    exact .finished column
  | newline indentation later ih =>
    rw [events]
    exact .newline column indentation later
  | empty indentation later ih =>
    rw [events]
    exact .empty (ih column)
  | text indentation content label later ih =>
    rw [events]
    exact .text (ih _)
  | concat indentation left right later ih =>
    rw [events]
    exact .concat (ih column)
  | indent indentation body later ih =>
    rw [events]
    exact .indent (ih _ column)
  | hang indentation body later ih =>
    rw [events]
    exact .hang (ih _ column)
  | choice indentation wide narrow later ihWide ihNarrow =>
    rw [events]
    split
    · exact .wide (ihWide column)
    · exact .narrow (ihNarrow column)

theorem resolved_firstLine {width tabWidth column : Nat} {entries : List (Entry α)}
    {resolved : List Bool} (found : firstFit? width tabWidth column entries = some resolved) :
    Event.resolved (Event.firstLine (events width tabWidth column entries)) = resolved := by
  induction entries using Entry.induction generalizing column resolved with
  | nil | newline indentation later ih =>
    rw [firstFit?] at found
    rw [events]
    split at found <;> cases found
    rfl
  | empty indentation later ih =>
    rw [firstFit?] at found
    rw [events]
    exact ih found
  | text indentation content label later ih =>
    rw [firstFit?] at found
    rw [events]
    exact ih found
  | concat indentation left right later ih =>
    rw [firstFit?] at found
    rw [events]
    exact ih found
  | indent indentation body later ih | hang indentation body later ih =>
    rw [firstFit?] at found
    rw [events]
    exact ih _ found
  | choice indentation wide narrow later ihWide ihNarrow =>
    rw [firstFit?] at found
    rw [events]
    cases fits : firstFit? width tabWidth column (⟨indentation, wide⟩ :: later) with
    | some first =>
      rw [fits] at found
      cases found
      simp [ihWide fits]
    | none =>
      rw [fits] at found
      obtain ⟨first, fits', rfl⟩ := Option.map_eq_some_iff.mp found
      simp [ihNarrow fits']

theorem narrow_of_mem_resolved_firstLine {width tabWidth column : Nat} {entries : List (Entry α)}
    (nothing : firstFit? width tabWidth column entries = none) :
    ∀ decision ∈ Event.resolved (Event.firstLine (events width tabWidth column entries)),
      decision = false := by
  induction entries using Entry.induction generalizing column with
  | nil | newline indentation later ih =>
    rw [events]
    intro decision member
    cases member
  | empty indentation later ih | text indentation content label later ih
  | concat indentation left right later ih =>
    rw [firstFit?] at nothing
    rw [events]
    exact ih nothing
  | indent indentation body later ih | hang indentation body later ih =>
    rw [firstFit?] at nothing
    rw [events]
    exact ih _ nothing
  | choice indentation wide narrow later ihWide ihNarrow =>
    rw [firstFit?] at nothing
    cases fits : firstFit? width tabWidth column (⟨indentation, wide⟩ :: later) with
    | some first =>
      rw [fits] at nothing
      cases nothing
    | none =>
      rw [fits] at nothing
      rw [events, fits]
      intro decision member
      rcases List.mem_cons.mp member with rfl | later
      · rfl
      · exact ihNarrow (Option.map_eq_none_iff.mp nothing) decision later

theorem columnAfter_firstLine_le_iff (width tabWidth column : Nat) (entries : List (Entry α)) :
    Event.columnAfter column (Event.firstLine (events width tabWidth column entries)) ≤ width ↔
      ∃ resolved, firstFit? width tabWidth column entries = some resolved := by
  have ends := lineEnds_firstLine width tabWidth column entries
  constructor
  · intro bound
    obtain ⟨resolved, found, _⟩ := firstFit?_of_lineEnds ends bound
    exact ⟨resolved, found⟩
  · rintro ⟨resolved, found⟩
    obtain ⟨shown, last, ends', bound⟩ := lineFits_of_firstFit? found
    rw [resolved_firstLine found] at ends
    rwa [(ends.unique ends').2]

theorem bestLine_firstLine (width tabWidth column : Nat) (entries : List (Entry α)) :
    BestLine width tabWidth column entries
      (Event.resolved (Event.firstLine (events width tabWidth column entries)))
      (Event.shown (Event.firstLine (events width tabWidth column entries)))
      (Event.columnAfter column (Event.firstLine (events width tabWidth column entries))) := by
  have ends := lineEnds_firstLine width tabWidth column entries
  have narrow : (¬ ∃ other, LineFits width tabWidth column entries other) →
      ∀ decision ∈ Event.resolved (Event.firstLine (events width tabWidth column entries)),
        decision = false := by
    intro nothing
    exact narrow_of_mem_resolved_firstLine (firstFit?_eq_none_iff.mpr (not_exists.mp nothing))
  refine ⟨ends, ?_, narrow, ?_⟩
  · rintro ⟨other, shown, last, ends, bound⟩
    obtain ⟨first, found, _⟩ := firstFit?_of_lineEnds ends bound
    rw [resolved_firstLine found]
    exact firstFit_of_firstFit? found
  · intro tooLong
    have nothing : ¬ ∃ other, LineFits width tabWidth column entries other := by
      rintro ⟨other, shown, last, ends, bound⟩
      obtain ⟨first, found, _⟩ := firstFit?_of_lineEnds ends bound
      have := (columnAfter_firstLine_le_iff width tabWidth column entries).mpr ⟨first, found⟩
      omega
    exact ⟨nothing, narrow nothing⟩

end Ideal

namespace Printer

theorem AtLineStart.reachable {settings : Settings} {d : Doc α} {printer : Printer α}
    (lineStart : AtLineStart settings d printer) : Reachable settings d printer := by
  rcases lineStart with rfl | ⟨before, indentation, ⟨events, trail⟩, progress⟩
  · exact ⟨[], .here _⟩
  · exact ⟨_, trail.append (.shows progress (.here printer))⟩

/-- Every line of a display in full is the best line that what is left at its start can come to. -/
theorem line_is_best {settings : Settings} {d : Doc α} {fragments : List (Fragment α)}
    (complete : d.render settings = .ok fragments) {printer : Printer α}
    (lineStart : AtLineStart settings d printer) :
    ∃ events lineEnd, Trail printer events lineEnd ∧ lineEnd.AtLineEnd ∧
      BestLine settings.width settings.tabWidth printer.column printer.entries
        (Event.resolved events) (Event.shown events) lineEnd.column := by
  obtain ⟨before, reaches⟩ := lineStart.reachable
  obtain ⟨all, last, trail, finished, _⟩ := exists_trail_of_render complete
  obtain ⟨events, left, _⟩ := trail.split (by rw [finished]; rfl) reaches
  obtain ⟨lineEnd, lineTrail, ends⟩ := left.firstLine finished
  have coherent := trail_coherent reaches (.inl rfl)
  have same : printer.settings = settings := (trail_agrees reaches (.inl rfl)).settings
  have column := (trail_agrees lineTrail coherent).column
  refine ⟨_, lineEnd, lineTrail, ends, ?_⟩
  rw [column, events_eq_ideal left coherent finished, ← same]
  exact Ideal.bestLine_firstLine ..

theorem first_of_words_is_best : ∃ events lineEnd,
    Trail (start ⟨5, 4⟩ (Doc.sum [.text "ab" (none : Option Unit), .line, .text "cd" none, .line,
      .text "e" none])) events lineEnd ∧ lineEnd.AtLineEnd ∧
    BestLine 5 4 0 [⟨0, Doc.sum [.text "ab" (none : Option Unit), .line, .text "cd" none, .line,
      .text "e" none]⟩] (Event.resolved events) (Event.shown events) lineEnd.column := by
  have complete : (Doc.sum [.text "ab" (none : Option Unit), .line, .text "cd" none, .line,
      .text "e" none]).render ⟨5, 4⟩ =
      .ok [.text "ab" none, .text " " none, .text "cd" none, .newline 0, .text "e" none] := by
    decide +kernel
  exact line_is_best complete (.inl rfl)

end Printer

end LineLayout
