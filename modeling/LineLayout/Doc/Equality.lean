import LineLayout.Doc.Basic
import LineLayout.Total
/-!
Equality of documents, decided over a list of pairs still to be compared. Two places that hold the
same shared document need no comparison.
-/
namespace LineLayout

/-- A test that recognises some equal documents without looking inside them. -/
structure Sharing (α : Type) where
  recognises : Doc α → Doc α → Bool
  eq_of_recognises : ∀ first second, recognises first second = true → first = second

namespace Sharing

variable {α : Type}

def nothing : Sharing α := ⟨fun _ _ => false, fun _ _ claimed => by cases claimed⟩

def require (sharing : Sharing α) (first second : Doc α) (pending : List (Doc α × Doc α)) :
    List (Doc α × Doc α) :=
  if sharing.recognises first second then pending else (first, second) :: pending

end Sharing

namespace Doc

variable {α : Type}

def pairsSize (pairs : List (Doc α × Doc α)) : Nat := total (fun pair => pair.1.size) pairs

theorem pairsSize_require (sharing : Sharing α) (first second : Doc α)
    (pending : List (Doc α × Doc α)) :
    pairsSize (sharing.require first second pending) ≤ first.size + pairsSize pending := by
  unfold Sharing.require
  split <;> simp [pairsSize, total]

def allEqual [BEq α] (sharing : Sharing α) : List (Doc α × Doc α) → Bool
  | [] => true
  | (empty, empty) :: pending | (newline, newline) :: pending => allEqual sharing pending
  | (text content label, text content' label') :: pending =>
    content == content' && label == label' && allEqual sharing pending
  | (concat left right, concat left' right') :: pending
  | (choice left right, choice left' right') :: pending =>
    allEqual sharing (sharing.require left left' (sharing.require right right' pending))
  | (indent body, indent body') :: pending | (hang body, hang body') :: pending =>
    allEqual sharing (sharing.require body body' pending)
  | _ :: _ => false
termination_by pairs => pairsSize pairs
decreasing_by
  all_goals simp only [pairsSize, total, size]
  all_goals first
    | omega
    | exact Nat.lt_of_le_of_lt (pairsSize_require ..) (by simp only [pairsSize]; omega)
    | exact Nat.lt_of_le_of_lt (Nat.le_trans (pairsSize_require ..)
        (Nat.add_le_add_left (pairsSize_require ..) _)) (by simp only [pairsSize]; omega)

/-- Equality that may skip what `sharing` recognises. -/
def equalUpTo [BEq α] (sharing : Sharing α) (first second : Doc α) : Bool :=
  allEqual sharing [(first, second)]

instance [BEq α] : BEq (Doc α) := ⟨equalUpTo Sharing.nothing⟩

end Doc

end LineLayout
