import LineLayout.Layout.Exhaustive
/-!
Lines: the ways in which the choices met on one line can be resolved, what the line then shows and
where it ends.
-/
namespace LineLayout

variable {α : Type}

/-- Displaying entries from a column, with the choices on the line resolved as listed (`true` is
wide), shows the fragments and ends the line at the last column: at its first line break, or where
nothing is left. -/
inductive LineEnds (tabWidth : Nat) :
    Nat → List (Entry α) → List Bool → List (Fragment α) → Nat → Prop
  | finished (column : Nat) : LineEnds tabWidth column [] [] [] column
  | newline (column indentation : Nat) (later : List (Entry α)) :
    LineEnds tabWidth column (⟨indentation, .newline⟩ :: later) [] [] column
  | empty {column last indentation : Nat} {later : List (Entry α)} {resolved : List Bool}
      {shown : List (Fragment α)} :
    LineEnds tabWidth column later resolved shown last →
    LineEnds tabWidth column (⟨indentation, .empty⟩ :: later) resolved shown last
  | text {column last indentation : Nat} {content : String} {label : Option α}
      {later : List (Entry α)} {resolved : List Bool} {shown : List (Fragment α)} :
    LineEnds tabWidth (column + content.length) later resolved shown last →
    LineEnds tabWidth column (⟨indentation, .text content label⟩ :: later) resolved
      (.text content label :: shown) last
  | concat {column last indentation : Nat} {left right : Doc α} {later : List (Entry α)}
      {resolved : List Bool} {shown : List (Fragment α)} :
    LineEnds tabWidth column (⟨indentation, left⟩ :: ⟨indentation, right⟩ :: later) resolved shown
      last →
    LineEnds tabWidth column (⟨indentation, .concat left right⟩ :: later) resolved shown last
  | indent {column last indentation : Nat} {body : Doc α} {later : List (Entry α)}
      {resolved : List Bool} {shown : List (Fragment α)} :
    LineEnds tabWidth column (⟨indentation + tabWidth, body⟩ :: later) resolved shown last →
    LineEnds tabWidth column (⟨indentation, .indent body⟩ :: later) resolved shown last
  | hang {column last indentation : Nat} {body : Doc α} {later : List (Entry α)}
      {resolved : List Bool} {shown : List (Fragment α)} :
    LineEnds tabWidth column (⟨column, body⟩ :: later) resolved shown last →
    LineEnds tabWidth column (⟨indentation, .hang body⟩ :: later) resolved shown last
  | wide {column last indentation : Nat} {wide narrow : Doc α} {later : List (Entry α)}
      {resolved : List Bool} {shown : List (Fragment α)} :
    LineEnds tabWidth column (⟨indentation, wide⟩ :: later) resolved shown last →
    LineEnds tabWidth column (⟨indentation, .choice wide narrow⟩ :: later) (true :: resolved) shown
      last
  | narrow {column last indentation : Nat} {wide narrow : Doc α} {later : List (Entry α)}
      {resolved : List Bool} {shown : List (Fragment α)} :
    LineEnds tabWidth column (⟨indentation, narrow⟩ :: later) resolved shown last →
    LineEnds tabWidth column (⟨indentation, .choice wide narrow⟩ :: later) (false :: resolved) shown
      last

def LineFits (width tabWidth column : Nat) (entries : List (Entry α)) (resolved : List Bool) :
    Prop :=
  ∃ shown last, LineEnds tabWidth column entries resolved shown last ∧ last ≤ width

/-- Whether a resolution comes before another one: at the first difference it is wide. -/
inductive Precedes : List Bool → List Bool → Prop
  | here (first second : List Bool) : Precedes (true :: first) (false :: second)
  | later {first second : List Bool} (decision : Bool) :
    Precedes first second → Precedes (decision :: first) (decision :: second)

def FirstFit (width tabWidth column : Nat) (entries : List (Entry α)) (resolved : List Bool) :
    Prop :=
  LineFits width tabWidth column entries resolved ∧
    ∀ other, LineFits width tabWidth column entries other →
      other = resolved ∨ Precedes resolved other

/-- The line that entries displayed from a column should come to: that of the first resolution that
ends it within the width, and of narrow options only where none does. -/
structure BestLine (width tabWidth column : Nat) (entries : List (Entry α)) (resolved : List Bool)
    (shown : List (Fragment α)) (last : Nat) : Prop where
  ends : LineEnds tabWidth column entries resolved shown last
  first : (∃ other, LineFits width tabWidth column entries other) →
    FirstFit width tabWidth column entries resolved
  narrow : (¬ ∃ other, LineFits width tabWidth column entries other) →
    ∀ decision ∈ resolved, decision = false
  /-- A line is longer than the width only if nothing could make it fit. -/
  tooLong : width < last → (¬ ∃ other, LineFits width tabWidth column entries other) ∧
    ∀ decision ∈ resolved, decision = false

def firstFit? (width tabWidth column : Nat) : List (Entry α) → Option (List Bool)
  | [] | ⟨_, .newline⟩ :: _ => if column ≤ width then some [] else none
  | ⟨_, .empty⟩ :: later => firstFit? width tabWidth column later
  | ⟨_, .text content _⟩ :: later => firstFit? width tabWidth (column + content.length) later
  | ⟨indentation, .concat left right⟩ :: later =>
    firstFit? width tabWidth column (⟨indentation, left⟩ :: ⟨indentation, right⟩ :: later)
  | ⟨indentation, .indent body⟩ :: later =>
    firstFit? width tabWidth column (⟨indentation + tabWidth, body⟩ :: later)
  | ⟨_, .hang body⟩ :: later => firstFit? width tabWidth column (⟨column, body⟩ :: later)
  | ⟨indentation, .choice wide narrow⟩ :: later =>
    match firstFit? width tabWidth column (⟨indentation, wide⟩ :: later) with
    | some resolved => some (true :: resolved)
    | none => (firstFit? width tabWidth column (⟨indentation, narrow⟩ :: later)).map (false :: ·)
termination_by entries => Exhaustive.entriesSize entries
decreasing_by all_goals simp only [Exhaustive.entriesSize, total, Doc.size]; omega

end LineLayout
