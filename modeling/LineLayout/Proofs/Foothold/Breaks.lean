import LineLayout.Layout.Foothold
import LineLayout.Proofs.Fragment.Breaks
import LineLayout.Proofs.Ideal.Lines
/-!
The line breaks of the ideal layout, part by part: what a document adds to those of the entries
after it, and when a line fits at two columns and widths.
-/
namespace LineLayout.Printer.Event

theorem shown_map_fragment {α : Type} (pieces : List (Fragment α)) :
    shown (pieces.map .fragment) = pieces := by
  rw [shown, List.filterMap_map]
  exact List.filterMap_some

end LineLayout.Printer.Event

namespace LineLayout.Ideal

open Printer (Event)

variable {α : Type} {width tabWidth column indentation : Nat} {later : List (Entry α)}

section Equations

@[simp] theorem breaks_nil : breaks width tabWidth column ([] : List (Entry α)) = 0 := by
  rw [breaks, events]
  rfl

@[simp] theorem breaks_empty : breaks width tabWidth column (⟨indentation, .empty⟩ :: later) =
    breaks width tabWidth column later := by
  simp [breaks, events]

@[simp] theorem breaks_text {content : String} {label : Option α} :
    breaks width tabWidth column (⟨indentation, .text content label⟩ :: later) =
      breaks width tabWidth (column + content.length) later := by
  rw [breaks, events, Event.shown_fragment, List.countP_cons_of_neg Bool.false_ne_true, breaks]

@[simp] theorem breaks_newline : breaks width tabWidth column (⟨indentation, .newline⟩ :: later) =
    breaks width tabWidth indentation later + 1 := by
  rw [breaks, events, Event.shown_fragment, List.countP_cons_of_pos rfl, breaks]

@[simp] theorem breaks_concat {left right : Doc α} :
    breaks width tabWidth column (⟨indentation, .concat left right⟩ :: later) =
      breaks width tabWidth column (⟨indentation, left⟩ :: ⟨indentation, right⟩ :: later) := by
  simp [breaks, events]

@[simp] theorem breaks_indent {body : Doc α} :
    breaks width tabWidth column (⟨indentation, .indent body⟩ :: later) =
      breaks width tabWidth column (⟨indentation + tabWidth, body⟩ :: later) := by
  simp [breaks, events]

@[simp] theorem breaks_hang {body : Doc α} :
    breaks width tabWidth column (⟨indentation, .hang body⟩ :: later) =
      breaks width tabWidth column (⟨column, body⟩ :: later) := by
  simp [breaks, events]

theorem breaks_wide {wide narrow : Doc α}
    (fitting : fits width tabWidth column (⟨indentation, wide⟩ :: later) = true) :
    breaks width tabWidth column (⟨indentation, .choice wide narrow⟩ :: later) =
      breaks width tabWidth column (⟨indentation, wide⟩ :: later) := by
  obtain ⟨resolved, found⟩ := Option.isSome_iff_exists.mp fitting
  simp [breaks, events, found]

theorem breaks_narrow {wide narrow : Doc α}
    (tooLong : fits width tabWidth column (⟨indentation, wide⟩ :: later) = false) :
    breaks width tabWidth column (⟨indentation, .choice wide narrow⟩ :: later) =
      breaks width tabWidth column (⟨indentation, narrow⟩ :: later) := by
  have nothing := Option.isSome_eq_false_iff.mp tooLong
  simp [breaks, events, Option.isNone_iff_eq_none.mp nothing]

end Equations

theorem breaks_of_isFlat {d : Doc α} (flat : d.IsFlat) :
    breaks width tabWidth column (⟨indentation, d⟩ :: later) =
      breaks width tabWidth (column + d.textLength) later := by
  induction d generalizing column indentation later with
  | empty => simp [Doc.textLength]
  | text content label => simp [Doc.textLength]
  | newline | choice => cases flat
  | concat left right ihLeft ihRight =>
    rw [breaks_concat, ihLeft flat.1, ihRight flat.2, Doc.textLength, Nat.add_assoc]
  | indent body ih =>
    rw [breaks_indent]
    exact ih flat
  | hang body ih =>
    rw [breaks_hang]
    exact ih flat

theorem firstFit?_of_isFlat {d : Doc α} (flat : d.IsFlat) :
    firstFit? width tabWidth column (⟨indentation, d⟩ :: later) =
      firstFit? width tabWidth (column + d.textLength) later := by
  induction d generalizing column indentation later with
  | empty => simp [Doc.textLength, firstFit?]
  | text content label => simp [Doc.textLength, firstFit?]
  | newline | choice => cases flat
  | concat left right ihLeft ihRight =>
    rw [firstFit?, ihLeft flat.1, ihRight flat.2, Doc.textLength, Nat.add_assoc]
  | indent body ih =>
    rw [firstFit?]
    exact ih flat
  | hang body ih =>
    rw [firstFit?]
    exact ih flat

theorem fits_of_isFlat {d : Doc α} (flat : d.IsFlat) :
    fits width tabWidth column (⟨indentation, d⟩ :: later) =
      fits width tabWidth (column + d.textLength) later := by
  rw [fits, fits, firstFit?_of_isFlat flat]

theorem wide_of_fits (indentation : Nat) {d : Doc α} {length : Nat}
    (line : d.lineLength? = some length)
    (fitting : fits width tabWidth (column + length) later = true) :
    fits width tabWidth column (⟨indentation, d⟩ :: later) = true ∧
      breaks width tabWidth column (⟨indentation, d⟩ :: later) =
        breaks width tabWidth (column + length) later := by
  induction d generalizing column indentation later length with
  | empty =>
    cases line
    refine ⟨?_, breaks_empty⟩
    rw [fits, firstFit?]
    exact fitting
  | text content label =>
    cases line
    refine ⟨?_, breaks_text⟩
    rw [fits, firstFit?]
    exact fitting
  | newline => cases line
  | concat left right ihLeft ihRight =>
    simp only [Doc.lineLength?, Option.bind_eq_bind, Option.bind_eq_some_iff] at line
    obtain ⟨first, lineLeft, second, lineRight, sum⟩ := line
    cases sum
    rw [← Nat.add_assoc] at fitting ⊢
    obtain ⟨fitsRight, breaksRight⟩ := ihRight indentation lineRight fitting
    obtain ⟨fitsLeft, breaksLeft⟩ := ihLeft indentation lineLeft fitsRight
    refine ⟨?_, ?_⟩
    · rw [fits, firstFit?]
      exact fitsLeft
    · rw [breaks_concat, breaksLeft, breaksRight]
  | indent body ih =>
    obtain ⟨fitsBody, breaksBody⟩ := ih (indentation + tabWidth) line fitting
    refine ⟨?_, ?_⟩
    · rw [fits, firstFit?]
      exact fitsBody
    · rw [breaks_indent, breaksBody]
  | hang body ih =>
    obtain ⟨fitsBody, breaksBody⟩ := ih column line fitting
    refine ⟨?_, ?_⟩
    · rw [fits, firstFit?]
      exact fitsBody
    · rw [breaks_hang, breaksBody]
  | choice wide narrow ihWide ihNarrow =>
    obtain ⟨fitsWide, breaksWide⟩ := ihWide indentation line fitting
    refine ⟨?_, ?_⟩
    · obtain ⟨resolved, found⟩ := Option.isSome_iff_exists.mp fitsWide
      rw [fits, firstFit?, found]
      rfl
    · rw [breaks_wide fitsWide, breaksWide]

theorem breaks_sameLine {wide narrow : Doc α} (flat : wide.IsFlat)
    (line : narrow.lineLength? = some wide.textLength) :
    breaks width tabWidth column (⟨indentation, .choice wide narrow⟩ :: later) =
      breaks width tabWidth column (⟨indentation, narrow⟩ :: later) := by
  cases fitting : fits width tabWidth column (⟨indentation, wide⟩ :: later) with
  | false => exact breaks_narrow fitting
  | true =>
    rw [breaks_wide fitting, breaks_of_isFlat flat]
    rw [fits_of_isFlat flat] at fitting
    exact (wide_of_fits indentation line fitting).2.symm

theorem events_of_choiceFree {d : Doc α} (free : d.ChoiceFree) :
    events width tabWidth column (⟨indentation, d⟩ :: later) =
      (d.place tabWidth indentation column).1.map .fragment ++
        events width tabWidth (d.place tabWidth indentation column).2 later := by
  induction d generalizing column indentation later with
  | empty | text content label | newline =>
    rw [events]
    rfl
  | concat left right ihLeft ihRight =>
    rw [events, ihLeft free.1, ihRight free.2, Doc.place, List.map_append, List.append_assoc]
  | indent body ih | hang body ih =>
    rw [events]
    exact ih free
  | choice => cases free

theorem breaks_of_choiceFree {d : Doc α} (free : d.ChoiceFree) :
    breaks width tabWidth column (⟨indentation, d⟩ :: later) =
      breaks width tabWidth (d.place tabWidth indentation column).2 later + d.newlineCount := by
  rw [breaks, events_of_choiceFree free, Event.shown_append, Event.shown_map_fragment,
    List.countP_append, Doc.countP_place _ _ _ free, Nat.add_comm, breaks]

theorem countP_isNewline_shown (width tabWidth column : Nat) {entries : List (Entry α)}
    (unbroken : Unbroken entries) :
    (Event.shown (events width tabWidth column entries)).countP Fragment.isNewline =
      breaks width tabWidth column entries := by
  rw [Fragment.countP_isNewline (unbroken_shown_events width tabWidth column unbroken), breaks]

end LineLayout.Ideal

namespace LineLayout

variable {α : Type}

theorem Doc.ChoiceFree.eq_place_of_render {settings : Settings} {d : Doc α}
    {fragments : List (Fragment α)} (free : d.ChoiceFree)
    (complete : d.render settings = .ok fragments) :
    fragments = (d.place settings.tabWidth 0 0).1 := by
  rw [Printer.render_eq_ideal complete, Ideal.events_of_choiceFree free,
    Printer.Event.shown_append, Printer.Event.shown_map_fragment, Ideal.events]
  exact List.append_nil _

theorem LineEnds.exists_closer {tabWidth column column' last : Nat}
    {entries entries' : List (Entry α)} {resolved : List Bool} {shown : List (Fragment α)}
    (ends : LineEnds tabWidth column entries resolved shown last) (closer : column' ≤ column)
    (docs : entries'.map Entry.doc = entries.map Entry.doc) :
    ∃ shown' last', LineEnds tabWidth column' entries' resolved shown' last' ∧ last' ≤ last := by
  induction ends generalizing column' entries' with
  | finished column =>
    obtain rfl := List.map_eq_nil_iff.mp docs
    exact ⟨_, _, .finished _, closer⟩
  | newline column indentation later =>
    obtain ⟨⟨indentation', _⟩, later', rfl, rfl, _⟩ := List.map_eq_cons_iff.mp docs
    exact ⟨_, _, .newline _ _ _, closer⟩
  | empty _ ih =>
    obtain ⟨⟨indentation', _⟩, later', rfl, rfl, rest⟩ := List.map_eq_cons_iff.mp docs
    obtain ⟨shown', last', ends', bound⟩ := ih closer rest
    exact ⟨_, _, .empty ends', bound⟩
  | text _ ih =>
    obtain ⟨⟨indentation', _⟩, later', rfl, rfl, rest⟩ := List.map_eq_cons_iff.mp docs
    obtain ⟨shown', last', ends', bound⟩ := ih (Nat.add_le_add_right closer _) rest
    exact ⟨_, _, .text ends', bound⟩
  | @concat _ _ _ left right _ _ _ _ ih =>
    obtain ⟨⟨indentation', _⟩, later', rfl, rfl, rest⟩ := List.map_eq_cons_iff.mp docs
    have parts : (⟨indentation', left⟩ :: ⟨indentation', right⟩ :: later').map Entry.doc = _ :=
      congrArg (left :: right :: ·) rest
    obtain ⟨shown', last', ends', bound⟩ := ih closer parts
    exact ⟨_, _, .concat ends', bound⟩
  | @indent _ _ _ body _ _ _ _ ih =>
    obtain ⟨⟨indentation', _⟩, later', rfl, rfl, rest⟩ := List.map_eq_cons_iff.mp docs
    have parts : (⟨indentation' + tabWidth, body⟩ :: later').map Entry.doc = _ :=
      congrArg (body :: ·) rest
    obtain ⟨shown', last', ends', bound⟩ := ih closer parts
    exact ⟨_, _, .indent ends', bound⟩
  | @hang _ _ _ body _ _ _ _ ih =>
    obtain ⟨⟨indentation', _⟩, later', rfl, rfl, rest⟩ := List.map_eq_cons_iff.mp docs
    have parts : (⟨column', body⟩ :: later').map Entry.doc = _ :=
      congrArg (body :: ·) rest
    obtain ⟨shown', last', ends', bound⟩ := ih closer parts
    exact ⟨_, _, .hang ends', bound⟩
  | @wide _ _ _ wide _ _ _ _ _ ih =>
    obtain ⟨⟨indentation', _⟩, later', rfl, rfl, rest⟩ := List.map_eq_cons_iff.mp docs
    have parts : (⟨indentation', wide⟩ :: later').map Entry.doc = _ :=
      congrArg (wide :: ·) rest
    obtain ⟨shown', last', ends', bound⟩ := ih closer parts
    exact ⟨_, _, .wide ends', bound⟩
  | @narrow _ _ _ _ narrow _ _ _ _ ih =>
    obtain ⟨⟨indentation', _⟩, later', rfl, rfl, rest⟩ := List.map_eq_cons_iff.mp docs
    have parts : (⟨indentation', narrow⟩ :: later').map Entry.doc = _ :=
      congrArg (narrow :: ·) rest
    obtain ⟨shown', last', ends', bound⟩ := ih closer parts
    exact ⟨_, _, .narrow ends', bound⟩

/-- A line that fits still fits from a column further left and at a larger width. -/
theorem Ideal.fits_mono {width width' tabWidth column column' : Nat} {entries : List (Entry α)}
    (narrower : width ≤ width') (closer : column' ≤ column)
    (fitting : fits width tabWidth column entries = true) :
    fits width' tabWidth column' entries = true := by
  obtain ⟨resolved, found⟩ := Option.isSome_iff_exists.mp fitting
  obtain ⟨shown, last, ends, bound⟩ := lineFits_of_firstFit? found
  obtain ⟨shown', last', ends', closerEnd⟩ := ends.exists_closer closer rfl
  have within : last' ≤ width' := by omega
  obtain ⟨first, found', _⟩ := firstFit?_of_lineEnds ends' within
  exact Option.isSome_iff_exists.mpr ⟨first, found'⟩

end LineLayout
