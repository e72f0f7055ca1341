import LineLayout.Layout.Line
/-!
The first resolution that fits: the recursion finds it, and it finds none only if no resolution ends
the line within the width.
-/
namespace LineLayout

variable {α : Type}

/-- Induction on entries in the order in which they are displayed: what holds of the parts of the
first entry at every indentation holds of the entry. -/
@[elab_as_elim]
theorem Entry.induction {motive : List (Entry α) → Prop} (nil : motive [])
    (empty : ∀ indentation later, motive later → motive (⟨indentation, .empty⟩ :: later))
    (text : ∀ indentation content label later, motive later →
      motive (⟨indentation, .text content label⟩ :: later))
    (newline : ∀ indentation later, motive later → motive (⟨indentation, .newline⟩ :: later))
    (concat : ∀ indentation left right later,
      motive (⟨indentation, left⟩ :: ⟨indentation, right⟩ :: later) →
      motive (⟨indentation, .concat left right⟩ :: later))
    (indent : ∀ indentation body later, (∀ deeper, motive (⟨deeper, body⟩ :: later)) →
      motive (⟨indentation, .indent body⟩ :: later))
    (hang : ∀ indentation body later, (∀ deeper, motive (⟨deeper, body⟩ :: later)) →
      motive (⟨indentation, .hang body⟩ :: later))
    (choice : ∀ indentation wide narrow later, motive (⟨indentation, wide⟩ :: later) →
      motive (⟨indentation, narrow⟩ :: later) →
      motive (⟨indentation, .choice wide narrow⟩ :: later))
    (entries : List (Entry α)) : motive entries := by
  match entries with
  | [] => exact nil
  | ⟨indentation, .empty⟩ :: later =>
    exact empty _ _
      (Entry.induction nil empty text newline concat indent hang choice later)
  | ⟨indentation, .text content label⟩ :: later =>
    exact text _ _ _ _
      (Entry.induction nil empty text newline concat indent hang choice later)
  | ⟨indentation, .newline⟩ :: later =>
    exact newline _ _
      (Entry.induction nil empty text newline concat indent hang choice later)
  | ⟨indentation, .concat left right⟩ :: later =>
    exact concat _ _ _ _ (Entry.induction nil empty text newline concat indent hang choice _)
  | ⟨indentation, .indent body⟩ :: later =>
    exact indent _ _ _ fun _ =>
      Entry.induction nil empty text newline concat indent hang choice _
  | ⟨indentation, .hang body⟩ :: later =>
    exact hang _ _ _ fun _ =>
      Entry.induction nil empty text newline concat indent hang choice _
  | ⟨indentation, .choice wide narrow⟩ :: later =>
    exact choice _ _ _ _
      (Entry.induction nil empty text newline concat indent hang choice _)
      (Entry.induction nil empty text newline concat indent hang choice _)
termination_by Exhaustive.entriesSize entries
decreasing_by all_goals simp only [Exhaustive.entriesSize, total, Doc.size]; omega

theorem LineEnds.column_le {tabWidth column last : Nat} {entries : List (Entry α)}
    {resolved : List Bool} {shown : List (Fragment α)}
    (ends : LineEnds tabWidth column entries resolved shown last) : column ≤ last := by
  induction ends with
  | finished | newline => exact Nat.le_refl _
  | text _ ih => exact Nat.le_trans (Nat.le_add_right _ _) ih
  | empty _ ih | concat _ ih | indent _ ih | hang _ ih | wide _ ih | narrow _ ih => exact ih

theorem LineEnds.unique {tabWidth column last last' : Nat} {entries : List (Entry α)}
    {resolved : List Bool} {shown shown' : List (Fragment α)}
    (ends : LineEnds tabWidth column entries resolved shown last)
    (ends' : LineEnds tabWidth column entries resolved shown' last') :
    shown = shown' ∧ last = last' := by
  induction ends generalizing shown' last' with
  | finished | newline =>
    cases ends'
    exact ⟨rfl, rfl⟩
  | text _ ih =>
    cases ends' with
    | text rest =>
      obtain ⟨rfl, rfl⟩ := ih rest
      exact ⟨rfl, rfl⟩
  | empty _ ih | concat _ ih | indent _ ih | hang _ ih | wide _ ih | narrow _ ih =>
    cases ends'
    exact ih (by assumption)

theorem lineFits_of_firstFit? {width tabWidth column : Nat} {entries : List (Entry α)}
    {resolved : List Bool} (found : firstFit? width tabWidth column entries = some resolved) :
    LineFits width tabWidth column entries resolved := by
  induction entries using Entry.induction generalizing column resolved with
  | nil =>
    simp only [firstFit?, Option.ite_none_right_eq_some, Option.some.injEq] at found
    obtain ⟨bound, rfl⟩ := found
    exact ⟨_, _, .finished column, bound⟩
  | newline indentation later ih =>
    simp only [firstFit?, Option.ite_none_right_eq_some, Option.some.injEq] at found
    obtain ⟨bound, rfl⟩ := found
    exact ⟨_, _, .newline column indentation later, bound⟩
  | empty indentation later ih =>
    rw [firstFit?] at found
    obtain ⟨shown, last, ends, bound⟩ := ih found
    exact ⟨_, _, .empty ends, bound⟩
  | text indentation content label later ih =>
    rw [firstFit?] at found
    obtain ⟨shown, last, ends, bound⟩ := ih found
    exact ⟨_, _, .text ends, bound⟩
  | concat indentation left right later ih =>
    rw [firstFit?] at found
    obtain ⟨shown, last, ends, bound⟩ := ih found
    exact ⟨_, _, .concat ends, bound⟩
  | indent indentation body later ih =>
    rw [firstFit?] at found
    obtain ⟨shown, last, ends, bound⟩ := ih _ found
    exact ⟨_, _, .indent ends, bound⟩
  | hang indentation body later ih =>
    rw [firstFit?] at found
    obtain ⟨shown, last, ends, bound⟩ := ih _ found
    exact ⟨_, _, .hang ends, bound⟩
  | choice indentation wide narrow later ihWide ihNarrow =>
    rw [firstFit?] at found
    split at found
    · rename_i first wideFits
      cases found
      obtain ⟨shown, last, ends, bound⟩ := ihWide wideFits
      exact ⟨_, _, .wide ends, bound⟩
    · obtain ⟨rest, narrowFits, rfl⟩ := Option.map_eq_some_iff.mp found
      obtain ⟨shown, last, ends, bound⟩ := ihNarrow narrowFits
      exact ⟨_, _, .narrow ends, bound⟩

/-- If a resolution ends the line within the width, the recursion finds it or one before it. -/
theorem firstFit?_of_lineEnds {width tabWidth column last : Nat} {entries : List (Entry α)}
    {resolved : List Bool} {shown : List (Fragment α)}
    (ends : LineEnds tabWidth column entries resolved shown last) (bound : last ≤ width) :
    ∃ first, firstFit? width tabWidth column entries = some first ∧
      (resolved = first ∨ Precedes first resolved) := by
  induction ends with
  | finished | newline => exact ⟨[], by simp [firstFit?, bound], .inl rfl⟩
  | empty _ ih | text _ ih | concat _ ih | indent _ ih | hang _ ih =>
    rw [firstFit?]
    exact ih bound
  | wide _ ih =>
    obtain ⟨first, found, order⟩ := ih bound
    refine ⟨true :: first, by simp only [firstFit?, found], ?_⟩
    rcases order with rfl | before
    · exact .inl rfl
    · exact .inr (.later true before)
  | @narrow column last indentation wide narrow later resolved shown _ ih =>
    obtain ⟨first, found, order⟩ := ih bound
    rw [firstFit?]
    -- A resolution of the wide option comes before every resolution of the narrow one.
    cases firstFit? width tabWidth column (⟨indentation, wide⟩ :: later) with
    | some earlier => exact ⟨_, rfl, .inr (.here earlier resolved)⟩
    | none =>
      refine ⟨false :: first, by simp only [found, Option.map_some], ?_⟩
      rcases order with rfl | before
      · exact .inl rfl
      · exact .inr (.later false before)

theorem firstFit_of_firstFit? {width tabWidth column : Nat} {entries : List (Entry α)}
    {resolved : List Bool} (found : firstFit? width tabWidth column entries = some resolved) :
    FirstFit width tabWidth column entries resolved := by
  refine ⟨lineFits_of_firstFit? found, ?_⟩
  intro other fits
  obtain ⟨shown, last, ends, bound⟩ := fits
  obtain ⟨first, found', order⟩ := firstFit?_of_lineEnds ends bound
  rw [found] at found'
  cases found'
  exact order

theorem firstFit?_eq_none_iff {width tabWidth column : Nat} {entries : List (Entry α)} :
    firstFit? width tabWidth column entries = none ↔
      ∀ resolved, ¬ LineFits width tabWidth column entries resolved := by
  constructor
  · intro nothing resolved fits
    obtain ⟨shown, last, ends, bound⟩ := fits
    obtain ⟨first, found, _⟩ := firstFit?_of_lineEnds ends bound
    rw [nothing] at found
    cases found
  · intro nothing
    cases found : firstFit? width tabWidth column entries with
    | none => rfl
    | some resolved => exact absurd (lineFits_of_firstFit? found) (nothing resolved)

theorem firstFit?_of_tooWide {width tabWidth column : Nat} (entries : List (Entry α))
    (tooWide : width < column) : firstFit? width tabWidth column entries = none := by
  apply firstFit?_eq_none_iff.mpr
  intro resolved fits
  obtain ⟨shown, last, ends, bound⟩ := fits
  have := ends.column_le
  omega

end LineLayout
