import LineLayout.Proofs.Ideal.Lines
/-!
The rule of layout taken literally gives the ideal layout, and so what the printer displays, for
documents whose texts break no line.
-/
namespace LineLayout

variable {α : Type}

namespace Exhaustive

open Printer (Event)

theorem firstLineLength_events (width tabWidth column : Nat) {entries : List (Entry α)}
    (unbroken : Unbroken entries) :
    column + firstLineLength (Event.shown (Ideal.events width tabWidth column entries)) =
      Event.columnAfter column (Event.firstLine (Ideal.events width tabWidth column entries)) := by
  have plain := Ideal.unbroken_shown_events width tabWidth column unbroken
  have ends := Fragment.head?_lineEnds column plain
  rw [Event.head?_lineEnds_shown] at ends
  exact (Option.some.inj ends).symm

theorem layOut_eq_shown (width tabWidth column : Nat) (entries : List (Entry α))
    (unbroken : Unbroken entries) :
    layOut width tabWidth column entries =
      Event.shown (Ideal.events width tabWidth column entries) := by
  induction entries using Entry.induction generalizing column with
  | nil => rw [Ideal.events, layOut]; rfl
  | newline indentation later ih =>
    rw [Ideal.events, layOut, Event.shown_fragment]
    exact congrArg _ (ih indentation (unbroken_cons _ _ |>.mp unbroken).2)
  | empty indentation later ih =>
    rw [Ideal.events, layOut]
    exact ih column (unbroken_cons _ _ |>.mp unbroken).2
  | text indentation content label later ih =>
    rw [Ideal.events, layOut, Event.shown_fragment]
    exact congrArg _ (ih (column + content.length) (unbroken_cons _ _ |>.mp unbroken).2)
  | concat indentation left right later ih =>
    rw [unbroken_cons, Doc.unbroken_concat] at unbroken
    rw [Ideal.events, layOut]
    apply ih
    simp [unbroken]
  | indent indentation body later ih | hang indentation body later ih =>
    rw [Ideal.events, layOut]
    exact ih _ column (by simpa using unbroken)
  | choice indentation wide narrow later ihWide ihNarrow =>
    rw [unbroken_cons, Doc.unbroken_choice] at unbroken
    obtain ⟨⟨wideUnbroken, narrowUnbroken⟩, laterUnbroken⟩ := unbroken
    have wideEntries : Unbroken (⟨indentation, wide⟩ :: later) := by simp [*]
    have narrowEntries : Unbroken (⟨indentation, narrow⟩ :: later) := by simp [*]
    have fits := Ideal.columnAfter_firstLine_le_iff width tabWidth column
      (⟨indentation, wide⟩ :: later)
    rw [← firstLineLength_events _ _ _ wideEntries] at fits
    rw [Ideal.events, layOut, ihWide column wideEntries, ihNarrow column narrowEntries]
    cases found : firstFit? width tabWidth column (⟨indentation, wide⟩ :: later) with
    | some first =>
      rw [if_pos (fits.mpr ⟨first, found⟩)]
      rfl
    | none =>
      rw [if_neg]
      · rfl
      · intro bound
        obtain ⟨first, found'⟩ := fits.mp bound
        rw [found] at found'
        cases found'

end Exhaustive

/-- The fragments of a document whose texts break no line are, if no fault stops them, those of the
rule of layout taken literally. -/
theorem collect_eq_exhaustive {settings : Settings} {d : Doc α} {fragments : List (Fragment α)}
    (unbroken : d.Unbroken) (complete : (Printer.start settings d).collect = .ok fragments) :
    fragments = Exhaustive.render settings.width settings.tabWidth d := by
  have entries : Unbroken [(⟨0, d⟩ : Entry α)] := List.forall_mem_singleton.mpr unbroken
  rw [← Printer.render_eq_collect] at complete
  rw [Printer.render_eq_ideal complete, Exhaustive.render, Exhaustive.layOut_eq_shown _ _ _ _ entries]

theorem words_eq_exhaustive :
    [.text "ab" none, .text " " none, .text "cd" none, .newline 0, .text "e" none] =
      Exhaustive.render 5 4 (Doc.sum [.text "ab" (none : Option Unit), .line, .text "cd" none, .line,
        .text "e" none]) :=
  @collect_eq_exhaustive Unit ⟨5, 4⟩ _ _ (by unfold Doc.Unbroken; decide) (by decide +kernel)

end LineLayout
