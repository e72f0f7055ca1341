import LineLayout.Proofs.Foothold.Breaks
/-!
Documents that keep a foothold need no more line breaks at a larger width.
-/
namespace LineLayout

variable {α : Type}

namespace Doc

theorem lineLength?_of_isFlat {d : Doc α} (flat : d.IsFlat) :
    d.lineLength? = some d.textLength := by
  induction d with
  | empty | text => rfl
  | newline | choice => cases flat
  | concat left right ihLeft ihRight =>
    rw [lineLength?, ihLeft flat.1, ihRight flat.2]
    rfl
  | indent body ih | hang body ih => exact ih flat

theorem lineLength?_choice_ne_none {wide narrow : Doc α} (flat : wide.IsFlat) :
    (choice wide narrow).lineLength? ≠ none := by
  rw [lineLength?, lineLength?_of_isFlat flat]
  exact Option.some_ne_none _

theorem lineLength?_concat_eq_none {left right : Doc α}
    (breaks : (concat left right).lineLength? = none) :
    left.lineLength? = none ∨ right.lineLength? = none := by
  cases first : left.lineLength? with
  | none => exact .inl rfl
  | some length =>
    cases second : right.lineLength? with
    | none => exact .inr rfl
    | some length' =>
      rw [lineLength?, first, second] at breaks
      cases breaks

theorem newlineCount_pos {d : Doc α} (free : d.ChoiceFree) (breaks : d.lineLength? = none) :
    0 < d.newlineCount := by
  induction d with
  | empty | text => cases breaks
  | newline => exact Nat.one_pos
  | choice => cases free
  | concat left right ihLeft ihRight =>
    rw [newlineCount_concat]
    rcases lineLength?_concat_eq_none breaks with first | second
    · exact Nat.add_pos_left (ihLeft free.1 first) _
    · exact Nat.add_pos_right _ (ihRight free.2 second)
  | indent body ih | hang body ih => exact ih free breaks

variable {tabWidth indentation indentation' column column' : Nat}

theorem place_snd_mono (d : Doc α) (shallower : indentation' ≤ indentation)
    (closer : column' ≤ column) : (d.place tabWidth indentation' column').2 ≤
      (d.place tabWidth indentation column).2 := by
  induction d generalizing indentation indentation' column column' with
  | empty => exact closer
  | text content label => exact Nat.add_le_add_right closer _
  | newline => exact shallower
  | concat left right ihLeft ihRight => exact ihRight shallower (ihLeft shallower closer)
  | indent body ih => exact ih (Nat.add_le_add_right shallower _) closer
  | hang body ih => exact ih closer closer
  | choice wide narrow ihWide ihNarrow => exact ihWide shallower closer

theorem le_place_snd (d : Doc α) {least : Nat} (deep : least ≤ indentation)
    (far : least ≤ column) : least ≤ (d.place tabWidth indentation column).2 := by
  induction d generalizing indentation column with
  | empty => exact far
  | text content label => exact Nat.le_add_right_of_le far
  | newline => exact deep
  | concat left right ihLeft ihRight => exact ihRight deep (ihLeft deep far)
  | indent body ih => exact ih (Nat.le_add_right_of_le deep) far
  | hang body ih => exact ih far far
  | choice wide narrow ihWide ihNarrow => exact ihWide deep far

end Doc

theorem Foothold.Admits.least_le {foothold : Foothold} {column : Nat}
    (admits : foothold.Admits column) : foothold.least ≤ column := by
  cases foothold with
  | fixed known => exact Nat.le_of_eq admits.symm
  | floating least => exact admits

open Doc (Keeps)
open LineLayout.Ideal (breaks fits)

variable {width width' tabWidth indentation column : Nat} {start last : Foothold} {d : Doc α}

theorem Doc.Keeps.exists_breaks_eq (keeps : Keeps tabWidth d indentation start last)
    (admits : start.Admits column) (width : Nat) (later : List (Entry α)) :
    ∃ count next, last.Admits next ∧ (d.lineLength? = none → 0 < count) ∧
      breaks width tabWidth column (⟨indentation, d⟩ :: later) =
        breaks width tabWidth next later + count := by
  induction keeps generalizing column later with
  | empty => exact ⟨0, column, admits, nofun, Ideal.breaks_empty⟩
  | @text content _ _ start =>
    refine ⟨0, column + content.length, ?_, nofun, Ideal.breaks_text⟩
    cases start with
    | fixed known => exact congrArg (· + content.length) admits
    | floating least => exact Nat.add_le_add_right admits _
  | @newline indentation =>
    exact ⟨1, indentation, rfl, fun _ => Nat.one_pos, Ideal.breaks_newline⟩
  | @concat left right indentation _ _ _ _ _ ihLeft ihRight =>
    obtain ⟨count, next, admits, breaksFirst, first⟩ :=
      ihLeft admits (⟨indentation, right⟩ :: later)
    obtain ⟨count', next', admits', breaksSecond, second⟩ := ihRight admits later
    refine ⟨count' + count, next', admits', ?_, ?_⟩
    · intro line
      rcases Doc.lineLength?_concat_eq_none line with lineLeft | lineRight
      · exact Nat.add_pos_right _ (breaksFirst lineLeft)
      · exact Nat.add_pos_left (breaksSecond lineRight) _
    · rw [Ideal.breaks_concat, first, second, Nat.add_assoc]
  | indent _ ih =>
    rw [Ideal.breaks_indent]
    exact ih admits later
  | hang _ ih =>
    obtain rfl := admits
    rw [Ideal.breaks_hang]
    exact ih rfl later
  | @hangFree body _ _ free =>
    refine ⟨body.newlineCount, (body.place tabWidth column column).2, ?_,
      Doc.newlineCount_pos free, ?_⟩
    · exact body.le_place_snd admits admits
    · rw [Ideal.breaks_hang, Ideal.breaks_of_choiceFree free]
  | sameLine flat line _ ih =>
    obtain ⟨count, next, admits, _, equal⟩ := ih admits later
    refine ⟨count, next, admits, (absurd · (Doc.lineLength?_choice_ne_none flat)), ?_⟩
    rw [Ideal.breaks_sameLine flat line, equal]
  | @anyBreak wide narrow indentation known last flat breaksLine _ ih =>
    obtain rfl := admits
    have line : (Doc.choice wide narrow).lineLength? ≠ none := Doc.lineLength?_choice_ne_none flat
    cases fitting : fits width tabWidth column (⟨indentation, wide⟩ :: later) with
    | true =>
      refine ⟨0, column + wide.textLength, Nat.min_le_right .., (absurd · line), ?_⟩
      rw [Ideal.breaks_wide fitting, Ideal.breaks_of_isFlat flat, Nat.add_zero]
    | false =>
      obtain ⟨count, next, admits, _, equal⟩ := ih rfl later
      refine ⟨count, next, Nat.le_trans (Nat.min_le_left ..) admits.least_le, (absurd · line), ?_⟩
      rw [Ideal.breaks_narrow fitting, equal]
  | @softBreak wide narrow indentation least known flat _ _ _ short ih =>
    have line : (Doc.choice wide narrow).lineLength? ≠ none := Doc.lineLength?_choice_ne_none flat
    cases fitting : fits width tabWidth column (⟨indentation, wide⟩ :: later) with
    | true =>
      refine ⟨0, column + wide.textLength, ?_, (absurd · line), ?_⟩
      · exact Nat.le_trans short (Nat.add_le_add_right admits _)
      · rw [Ideal.breaks_wide fitting, Ideal.breaks_of_isFlat flat, Nat.add_zero]
    | false =>
      obtain ⟨count, next, admits, _, equal⟩ := ih admits later
      refine ⟨count, next, Nat.le_of_eq admits.symm, (absurd · line), ?_⟩
      rw [Ideal.breaks_narrow fitting, equal]

theorem Doc.Keeps.place_snd_eq (keeps : Keeps tabWidth d indentation start last)
    (free : d.ChoiceFree) (here : ∀ known, start = .fixed known → column = known) :
    ∀ known, last = .fixed known → (d.place tabWidth indentation column).2 = known := by
  induction keeps generalizing column with
  | empty => exact here
  | @text content _ _ start =>
    rintro known advanced
    cases start with
    | fixed before =>
      cases advanced
      rw [← here before rfl]
      rfl
    | floating least => cases advanced
  | newline =>
    rintro known ⟨⟩
    rfl
  | concat _ _ ihLeft ihRight => exact ihRight free.2 (ihLeft free.1 here)
  | indent _ ih => exact ih free here
  | hang _ ih =>
    obtain rfl := here _ rfl
    exact ih free here
  | hangFree => exact nofun
  | sameLine | anyBreak | softBreak => cases free

namespace Foothold

theorem Pairs.advance {column column' ahead : Nat} (pairs : start.Pairs column column' ahead)
    (length : Nat) :
    (start.advance length).Pairs (column + length) (column' + length) ahead := by
  cases start with
  | fixed known =>
    obtain ⟨rfl, rfl, rfl⟩ := pairs
    exact ⟨rfl, rfl, rfl⟩
  | floating least =>
    rcases pairs with ⟨closer, level⟩ | ⟨far, one⟩
    · exact .inl ⟨Nat.add_le_add_right closer length, level⟩
    · exact .inr ⟨Nat.add_le_add_right far length, one⟩

theorem Pairs.weaken {column column' ahead least : Nat} (pairs : start.Pairs column column' ahead)
    (further : least ≤ start.least) : (floating least).Pairs column column' ahead := by
  cases start with
  | fixed known =>
    obtain ⟨rfl, rfl, rfl⟩ := pairs
    exact .inl ⟨Nat.le_refl _, rfl⟩
  | floating least' =>
    rcases pairs with level | ⟨far, one⟩
    · exact .inl level
    · exact .inr ⟨Nat.le_trans further far, one⟩

/-- From a foothold on, the larger width needs no more line breaks than the smaller one, those by
which that is ahead included. -/
def NoMoreBreaks (width width' tabWidth : Nat) (foothold : Foothold) (later : List (Entry α)) :
    Prop :=
  ∀ column column' ahead, foothold.Pairs column column' ahead →
    breaks width' tabWidth column' later ≤ breaks width tabWidth column later + ahead

end Foothold

open Foothold (NoMoreBreaks)

section Choice

variable {wide narrow : Doc α} {later : List (Entry α)}

/-- At a fixed column a choice that is wide at the smaller width is wide at the larger one, and one
that is narrow has broken the line. -/
theorem noMoreBreaks_anyBreak (narrower : width ≤ width') (flat : wide.IsFlat)
    (breaksLine : narrow.lineLength? = none)
    (keeps : Keeps tabWidth narrow indentation (.fixed column) last)
    (noMore : NoMoreBreaks width width' tabWidth
      (.floating (min last.least (column + wide.textLength))) later)
    (narrowly : NoMoreBreaks width width' tabWidth (.fixed column)
      (⟨indentation, narrow⟩ :: later)) :
    NoMoreBreaks width width' tabWidth (.fixed column)
      (⟨indentation, .choice wide narrow⟩ :: later) := by
  rintro _ _ _ ⟨here, here', level⟩
  rw [here, here', level]
  cases small : fits width tabWidth column (⟨indentation, wide⟩ :: later) with
  | true =>
    have large := Ideal.fits_mono narrower (Nat.le_refl column) small
    rw [Ideal.breaks_wide small, Ideal.breaks_wide large, Ideal.breaks_of_isFlat flat,
      Ideal.breaks_of_isFlat flat]
    exact noMore _ _ 0 (.inl ⟨Nat.le_refl _, rfl⟩)
  | false =>
    rw [Ideal.breaks_narrow small]
    cases large : fits width' tabWidth column (⟨indentation, wide⟩ :: later) with
    | true =>
      -- From here on the columns differ; all that is kept is that the smaller width is one break
      -- ahead, and how far left it can be.
      obtain ⟨count, next, admits, counted, equal⟩ := keeps.exists_breaks_eq rfl width later
      have one := noMore next (column + wide.textLength) 1
        (.inr ⟨Nat.le_trans (Nat.min_le_left ..) admits.least_le, rfl⟩)
      have positive := counted breaksLine
      rw [Ideal.breaks_wide large, Ideal.breaks_of_isFlat flat, equal]
      omega
    | false =>
      rw [Ideal.breaks_narrow large]
      exact narrowly column column 0 ⟨rfl, rfl, rfl⟩

/-- A soft break leads to the same column wherever it is narrow, and as a line break it is worth the
one by which the smaller width may be ahead. -/
theorem noMoreBreaks_softBreak {least known : Nat} (narrower : width ≤ width')
    (flat : wide.IsFlat) (free : narrow.ChoiceFree) (single : narrow.newlineCount = 1)
    (keeps : Keeps tabWidth narrow indentation (.floating least) (.fixed known))
    (short : known ≤ least + wide.textLength)
    (noMore : NoMoreBreaks width width' tabWidth (.floating known) later) :
    NoMoreBreaks width width' tabWidth (.floating least)
      (⟨indentation, .choice wide narrow⟩ :: later) := by
  -- Narrow, the break leads to the same column from everywhere: there the two widths meet again.
  have narrowly : ∀ width column, breaks width tabWidth column (⟨indentation, narrow⟩ :: later) =
      breaks width tabWidth known later + 1 := by
    intro width column
    rw [Ideal.breaks_of_choiceFree free, keeps.place_snd_eq free nofun known rfl, single]
  have level := noMore known known 0 (.inl ⟨Nat.le_refl known, rfl⟩)
  have behind : ∀ column', breaks width' tabWidth column' later ≤
      breaks width tabWidth known later + 1 :=
    fun column' => noMore known column' 1 (.inr ⟨Nat.le_refl known, rfl⟩)
  intro column column' ahead pairs
  cases small : fits width tabWidth column (⟨indentation, wide⟩ :: later) with
  | true =>
    rw [Ideal.breaks_wide small, Ideal.breaks_of_isFlat flat]
    rcases pairs with ⟨closer, rfl⟩ | ⟨far, rfl⟩
    · have large := Ideal.fits_mono narrower closer small
      rw [Ideal.breaks_wide large, Ideal.breaks_of_isFlat flat]
      exact noMore _ _ 0 (.inl ⟨Nat.add_le_add_right closer _, rfl⟩)
    · -- The larger width may be narrow here only, but then it uses up the break it had saved.
      have further : known ≤ column + wide.textLength := by omega
      cases large : fits width' tabWidth column' (⟨indentation, wide⟩ :: later) with
      | true =>
        rw [Ideal.breaks_wide large, Ideal.breaks_of_isFlat flat]
        exact noMore _ _ 1 (.inr ⟨further, rfl⟩)
      | false =>
        rw [Ideal.breaks_narrow large, narrowly]
        exact Nat.add_le_add_right (noMore _ known 0 (.inl ⟨further, rfl⟩)) 1
  | false =>
    rw [Ideal.breaks_narrow small, narrowly]
    cases large : fits width' tabWidth column' (⟨indentation, wide⟩ :: later) with
    | true =>
      have one := behind (column' + wide.textLength)
      rw [Ideal.breaks_wide large, Ideal.breaks_of_isFlat flat]
      omega
    | false =>
      rw [Ideal.breaks_narrow large, narrowly]
      omega

end Choice

/-- What holds of the entries after a document holds with the document before them. -/
theorem Doc.Keeps.noMoreBreaks (narrower : width ≤ width')
    (keeps : Keeps tabWidth d indentation start last) {later : List (Entry α)}
    (noMore : NoMoreBreaks width width' tabWidth last later) :
    NoMoreBreaks width width' tabWidth start (⟨indentation, d⟩ :: later) := by
  -- By how the foothold is kept; a sequence hands on what is known from its right part to its left.
  induction keeps generalizing later with
  | empty =>
    intro column column' ahead pairs
    rw [Ideal.breaks_empty, Ideal.breaks_empty]
    exact noMore column column' ahead pairs
  | text =>
    intro column column' ahead pairs
    rw [Ideal.breaks_text, Ideal.breaks_text]
    exact noMore _ _ ahead (pairs.advance _)
  | @newline indentation start =>
    intro column column' ahead _
    have level := noMore indentation indentation 0 ⟨rfl, rfl, rfl⟩
    rw [Ideal.breaks_newline, Ideal.breaks_newline]
    omega
  | concat _ _ ihLeft ihRight =>
    intro column column' ahead pairs
    rw [Ideal.breaks_concat, Ideal.breaks_concat]
    exact ihLeft (ihRight noMore) column column' ahead pairs
  | indent _ ih =>
    intro column column' ahead pairs
    rw [Ideal.breaks_indent, Ideal.breaks_indent]
    exact ih noMore column column' ahead pairs
  | hang _ ih =>
    rintro _ _ _ ⟨rfl, rfl, rfl⟩
    rw [Ideal.breaks_hang, Ideal.breaks_hang]
    exact ih noMore _ _ 0 ⟨rfl, rfl, rfl⟩
  | @hangFree body _ least free =>
    intro column column' ahead pairs
    have placed : (Foothold.floating least).Pairs (body.place tabWidth column column).2
        (body.place tabWidth column' column').2 ahead := by
      rcases pairs with ⟨closer, level⟩ | ⟨far, one⟩
      · exact .inl ⟨body.place_snd_mono closer closer, level⟩
      · exact .inr ⟨body.le_place_snd far far, one⟩
    have after := noMore _ _ ahead placed
    rw [Ideal.breaks_hang, Ideal.breaks_hang, Ideal.breaks_of_choiceFree free,
      Ideal.breaks_of_choiceFree free]
    omega
  | sameLine flat line _ ih =>
    intro column column' ahead pairs
    rw [Ideal.breaks_sameLine flat line, Ideal.breaks_sameLine flat line]
    exact ih noMore column column' ahead pairs
  | anyBreak flat breaksLine keeps ih =>
    apply noMoreBreaks_anyBreak narrower flat breaksLine keeps noMore
    apply ih
    intro column column' ahead pairs
    exact noMore column column' ahead (pairs.weaken (Nat.min_le_left ..))
  | softBreak flat free single keeps short ih =>
    exact noMoreBreaks_softBreak narrower flat free single keeps short noMore

end LineLayout
