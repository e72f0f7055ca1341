import LineLayout.Layout.Fragment
import LineLayout.Layout.Lookahead.Basic
import LineLayout.Total
/-!
The rule of layout taken literally: at a choice, everything that would be displayed with the wide
option is laid out in full and kept if its first line fits. This takes time exponential in the
number of choices; no column is limited.
-/
namespace LineLayout.Exhaustive

variable {α : Type}

def entriesSize (entries : List (Entry α)) : Nat := total (fun entry => entry.doc.size) entries

def firstLineLength (fragments : List (Fragment α)) : Nat :=
  ((Fragment.plainText fragments).toList.takeWhile (· ≠ '\n')).length

/-- The fragments of entries displayed from a column. -/
def layOut (width tabWidth column : Nat) : List (Entry α) → List (Fragment α)
  | [] => []
  | ⟨_, .empty⟩ :: later => layOut width tabWidth column later
  | ⟨_, .text content label⟩ :: later =>
    .text content label :: layOut width tabWidth (column + content.length) later
  | ⟨indentation, .newline⟩ :: later =>
    .newline indentation :: layOut width tabWidth indentation later
  | ⟨indentation, .concat left right⟩ :: later =>
    layOut width tabWidth column (⟨indentation, left⟩ :: ⟨indentation, right⟩ :: later)
  | ⟨indentation, .indent body⟩ :: later =>
    layOut width tabWidth column (⟨indentation + tabWidth, body⟩ :: later)
  | ⟨_, .hang body⟩ :: later => layOut width tabWidth column (⟨column, body⟩ :: later)
  | ⟨indentation, .choice wide narrow⟩ :: later =>
    let candidate := layOut width tabWidth column (⟨indentation, wide⟩ :: later)
    if column + firstLineLength candidate ≤ width then candidate
    else layOut width tabWidth column (⟨indentation, narrow⟩ :: later)
termination_by entries => entriesSize entries
decreasing_by all_goals simp only [entriesSize, total, Doc.size]; omega

def render (width tabWidth : Nat) (d : Doc α) : List (Fragment α) :=
  layOut width tabWidth 0 [⟨0, d⟩]

end LineLayout.Exhaustive
