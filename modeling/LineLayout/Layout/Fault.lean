import LineLayout.Word
/-!
The limits of a layout: columns are 64-bit numbers, and a line break has to fit into memory.
-/
namespace LineLayout

inductive Fault where
  | overflow
  /-- A line break with its indentation is longer than any text can be. -/
  | capacity
  | brokenLink
  deriving DecidableEq, Repr

def longestText : Nat := 0x7fffffffffffffff

def addColumns (first second : Nat) : Except Fault Nat :=
  if first + second < wordLimit then .ok (first + second) else .error .overflow

def lineBreakLength (indentation : Nat) : Except Fault Nat :=
  if wordLimit ≤ indentation + 1 then .error .overflow
  else if longestText < indentation + 1 then .error .capacity
  else .ok (indentation + 1)

theorem addColumns_eq_ok {first second total : Nat} :
    addColumns first second = .ok total ↔ first + second = total ∧ total < wordLimit := by
  unfold addColumns
  split
  · constructor
    · intro equal
      cases equal
      exact ⟨rfl, by assumption⟩
    · rintro ⟨rfl, _⟩
      rfl
  · constructor
    · intro equal
      cases equal
    · rintro ⟨rfl, bound⟩
      contradiction

theorem eq_overflow_of_addColumns {first second : Nat} {fault : Fault}
    (sum : addColumns first second = .error fault) : fault = .overflow := by
  unfold addColumns at sum
  split at sum <;> cases sum
  rfl

end LineLayout
