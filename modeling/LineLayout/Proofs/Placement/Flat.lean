import LineLayout.Proofs.Foothold.Group
import LineLayout.Proofs.Outlook.Ample
/-!
A flat document shows what its document shows at a width that leaves room for all of it, with a
space in place of each line break.
-/
namespace LineLayout.Doc

variable {α : Type}

theorem place_widest (tabWidth indentation column : Nat) (d : Doc α) :
    d.widest.place tabWidth indentation column = d.place tabWidth indentation column := by
  induction d generalizing indentation column with
  | empty | text | newline => rfl
  | concat left right ihLeft ihRight => simp only [widest, place, ihLeft, ihRight]
  | indent body ih | hang body ih | choice body _ ih _ => exact ih ..

/-- Where its line breaks are spaces, neither columns nor indentations matter to what a document
places. -/
theorem place_flat (tabWidth indentation indentation' column column' : Nat) (d : Doc α) :
    (d.flat.place tabWidth indentation column).1 =
      (d.place tabWidth indentation' column').1.map Fragment.flat := by
  induction d generalizing indentation indentation' column column' with
  | empty | text | newline => rfl
  | concat left right ihLeft ihRight =>
    simp only [flat, place, List.map_append]
    rw [ihLeft indentation indentation' column column', ihRight indentation indentation' _ _]
  | indent body ih | hang body ih | choice body _ ih _ => exact ih ..

/-- At every width that leaves room for all of a document its choices are all wide, and it is
displayed alike. Flattened it is displayed alike at any width, and shows the same as at those but for
a space in place of each line break. -/
theorem flatten_is_widest {tabWidth width : Nat} {d : Doc α} (ample : d.extent tabWidth ≤ width) :
    (∀ wider, d.extent tabWidth ≤ wider →
      d.render ⟨wider, tabWidth⟩ = d.render ⟨width, tabWidth⟩) ∧
    (∀ anyWidth, d.flatten.render ⟨anyWidth, tabWidth⟩ = d.flatten.render ⟨width, tabWidth⟩) ∧
    (d.extent tabWidth ≤ 2 ^ 63 - 2 → ∃ fragments, d.render ⟨width, tabWidth⟩ = .ok fragments) ∧
    (d.flatten.extent tabWidth ≤ 2 ^ 63 - 2 →
      ∃ flatly, d.flatten.render ⟨width, tabWidth⟩ = .ok flatly) ∧
    ∀ fragments, d.render ⟨width, tabWidth⟩ = .ok fragments →
      (∀ isWide ∈ (d.record ⟨width, tabWidth⟩).decisions, isWide = true) ∧
      ∀ anyWidth flatly, d.flatten.render ⟨anyWidth, tabWidth⟩ = .ok flatly →
        flatly = fragments.map Fragment.flat := by
  have isFlat : d.flatten.IsFlat := d.flatten_eq_flat ▸ d.isFlat_flat
  have same : d.render ⟨width, tabWidth⟩ = d.widest.render ⟨width, tabWidth⟩ :=
    render_eq_widest ample
  refine ⟨?alike, ?flatAlike, ?complete, ?flatComplete, ?shown⟩
  case alike =>
    intro wider ample'
    calc
      d.render ⟨wider, tabWidth⟩ = d.widest.render ⟨wider, tabWidth⟩ := render_eq_widest ample'
      _ = d.widest.render ⟨width, tabWidth⟩ := d.choiceFree_widest.render_eq wider width tabWidth
      _ = d.render ⟨width, tabWidth⟩ := same.symm
  case flatAlike => exact fun anyWidth => isFlat.choiceFree.render_eq anyWidth width tabWidth
  case complete =>
    exact fun small => Printer.exists_render (Nat.lt_of_le_of_lt small (by decide))
  case flatComplete =>
    exact fun small => Printer.exists_render (Nat.lt_of_le_of_lt small (by decide))
  case shown =>
    intro fragments complete
    refine ⟨decisions_of_ample ample complete, ?_⟩
    intro anyWidth flatly complete'
    rw [flatten_eq_flat] at complete'
    have shown : fragments = (d.place tabWidth 0 0).1 := by
      rw [d.choiceFree_widest.eq_place_of_render (same.symm.trans complete), place_widest]
    calc
      flatly = (d.flat.place tabWidth 0 0).1 :=
        d.isFlat_flat.choiceFree.eq_place_of_render complete'
      _ = (d.place tabWidth 0 0).1.map Fragment.flat := d.place_flat tabWidth 0 0 0 0
      _ = fragments.map Fragment.flat := by rw [shown]

def hangingCall : Doc Unit :=
  sum [text "f" none, hang (sum [indent (sum [newline, text "ab" (some ()), newline,
    choice (text "c" none) (sum [text "c," none, newline])]), newline, text "d" none])]

theorem flatten_hangingCall_is_widest :
    hangingCall.extent 2 = 9 ∧
    hangingCall.render ⟨9, 2⟩ = .ok [.text "f" none, .newline 3, .text "ab" (some ()), .newline 3,
      .text "c" none, .newline 1, .text "d" none] ∧
    hangingCall.flatten.render ⟨0, 2⟩ = .ok [.text "f" none, .text " " none, .text "ab" (some ()),
      .text " " none, .text "c" none, .text " " none, .text "d" none] := by
  have complete : hangingCall.render ⟨9, 2⟩ = .ok [.text "f" none, .newline 3,
      .text "ab" (some ()), .newline 3, .text "c" none, .newline 1, .text "d" none] := by
    decide +kernel
  have ample : hangingCall.extent 2 ≤ 9 := by decide
  obtain ⟨_, flatAlike, _, flatComplete, shown⟩ := flatten_is_widest ample
  obtain ⟨flatly, complete'⟩ := flatComplete (by decide +kernel)
  refine ⟨by decide, complete, ?_⟩
  rw [flatAlike, complete', (shown _ complete).2 9 flatly complete']
  rfl

end LineLayout.Doc
