import LineLayout.Layout.Line
import LineLayout.Layout.Trail
/-!
The ideal layout: a choice is wide exactly if the line it starts can still end within the width, and
no column is limited. Neither a cursor nor earlier decisions are kept.
-/
namespace LineLayout.Ideal

variable {α : Type}

/-- What displaying entries from a column shows and how it resolves the choices. -/
def events (width tabWidth column : Nat) : List (Entry α) → List (Printer.Event α)
  | [] => []
  | ⟨_, .empty⟩ :: later => events width tabWidth column later
  | ⟨_, .text content label⟩ :: later =>
    .fragment (.text content label) :: events width tabWidth (column + content.length) later
  | ⟨indentation, .newline⟩ :: later =>
    .fragment (.newline indentation) :: events width tabWidth indentation later
  | ⟨indentation, .concat left right⟩ :: later =>
    events width tabWidth column (⟨indentation, left⟩ :: ⟨indentation, right⟩ :: later)
  | ⟨indentation, .indent body⟩ :: later =>
    events width tabWidth column (⟨indentation + tabWidth, body⟩ :: later)
  | ⟨_, .hang body⟩ :: later => events width tabWidth column (⟨column, body⟩ :: later)
  | ⟨indentation, .choice wide narrow⟩ :: later =>
    match firstFit? width tabWidth column (⟨indentation, wide⟩ :: later) with
    | some _ => .choice column true :: events width tabWidth column (⟨indentation, wide⟩ :: later)
    | none => .choice column false :: events width tabWidth column (⟨indentation, narrow⟩ :: later)
termination_by entries => Exhaustive.entriesSize entries
decreasing_by all_goals simp only [Exhaustive.entriesSize, total, Doc.size]; omega

def breaks (width tabWidth column : Nat) (entries : List (Entry α)) : Nat :=
  (Printer.Event.shown (events width tabWidth column entries)).countP Fragment.isLineBreak

def fits (width tabWidth column : Nat) (entries : List (Entry α)) : Bool :=
  (firstFit? width tabWidth column entries).isSome

end LineLayout.Ideal
