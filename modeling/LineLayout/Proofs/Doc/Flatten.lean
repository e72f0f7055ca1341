import LineLayout.Doc.Flatten
/-!
Flattening never lacks what it needs: at every moment of a run the flat children of each document
still to be put together are on top of the finished ones when its turn comes.
-/
namespace LineLayout

open Doc

variable {α : Type}

namespace Flattening

/-- One step of a run, from what is left to do and what is done to what is left and done after it.
To keep a document whose children are unchanged is to put it together again. -/
inductive Moves : List (Step α) → List (Doc α) → List (Step α) → List (Doc α) → Prop
  | empty (steps : List (Step α)) (done : List (Doc α)) :
    Moves (.visit empty :: steps) done steps (empty :: done)
  | text (content : String) (label : Option α) (steps : List (Step α)) (done : List (Doc α)) :
    Moves (.visit (text content label) :: steps) done steps (text content label :: done)
  | newline (steps : List (Step α)) (done : List (Doc α)) :
    Moves (.visit newline :: steps) done steps (space :: done)
  | choice (wide narrow : Doc α) (steps : List (Step α)) (done : List (Doc α)) :
    Moves (.visit (choice wide narrow) :: steps) done (.visit wide :: steps) done
  | concat (left right : Doc α) (steps : List (Step α)) (done : List (Doc α)) :
    Moves (.visit (concat left right) :: steps) done
      (.visit left :: .visit right :: .rebuild (concat left right) :: steps) done
  | indent (body : Doc α) (steps : List (Step α)) (done : List (Doc α)) :
    Moves (.visit (indent body) :: steps) done
      (.visit body :: .rebuild (indent body) :: steps) done
  | hang (body : Doc α) (steps : List (Step α)) (done : List (Doc α)) :
    Moves (.visit (hang body) :: steps) done (.visit body :: .rebuild (hang body) :: steps) done
  | rebuildConcat (left right flatLeft flatRight : Doc α) (steps : List (Step α))
      (done : List (Doc α)) :
    Moves (.rebuild (concat left right) :: steps) (flatRight :: flatLeft :: done) steps
      (concat flatLeft flatRight :: done)
  | rebuildIndent (body flatBody : Doc α) (steps : List (Step α)) (done : List (Doc α)) :
    Moves (.rebuild (indent body) :: steps) (flatBody :: done) steps (indent flatBody :: done)
  | rebuildHang (body flatBody : Doc α) (steps : List (Step α)) (done : List (Doc α)) :
    Moves (.rebuild (hang body) :: steps) (flatBody :: done) steps (hang flatBody :: done)

theorem run_of_moves (sharing : Sharing α) {steps steps' : List (Step α)} {done done' : List (Doc α)}
    (moves : Moves steps done steps' done') :
    run sharing steps done = run sharing steps' done' := by
  cases moves with
  | empty | text | newline | choice | concat | indent | hang => rw [run]
  | rebuildConcat left right flatLeft flatRight steps done =>
    rw [run]
    split
    · rename_i unchanged
      simp only [Bool.and_eq_true] at unchanged
      rw [sharing.eq_of_recognises _ _ unchanged.1, sharing.eq_of_recognises _ _ unchanged.2]
    · rfl
  | rebuildIndent body flatBody steps done | rebuildHang body flatBody steps done =>
    rw [run]
    split
    · rename_i unchanged
      rw [sharing.eq_of_recognises _ _ unchanged]
    · rfl

inductive Reaches (steps : List (Step α)) (done : List (Doc α)) :
    List (Step α) → List (Doc α) → Prop
  | here : Reaches steps done steps done
  | moves {steps' steps'' : List (Step α)} {done' done'' : List (Doc α)} :
    Reaches steps done steps' done' → Moves steps' done' steps'' done'' →
    Reaches steps done steps'' done''

/-- Whether the steps left find on top of what is done all that they need, and come to a document
in the end. -/
inductive Aligned : List (Step α) → List (Doc α) → Doc α → Prop
  | finished (last : Doc α) : Aligned [] [last] last
  | visit {d last : Doc α} {steps : List (Step α)} {done : List (Doc α)} :
    Aligned steps (d.flat :: done) last → Aligned (.visit d :: steps) done last
  | concat {left right last : Doc α} {steps : List (Step α)} {done : List (Doc α)} :
    Aligned steps (Doc.concat left.flat right.flat :: done) last →
    Aligned (.rebuild (.concat left right) :: steps) (right.flat :: left.flat :: done) last
  | indent {body last : Doc α} {steps : List (Step α)} {done : List (Doc α)} :
    Aligned steps (Doc.indent body.flat :: done) last →
    Aligned (.rebuild (.indent body) :: steps) (body.flat :: done) last
  | hang {body last : Doc α} {steps : List (Step α)} {done : List (Doc α)} :
    Aligned steps (Doc.hang body.flat :: done) last →
    Aligned (.rebuild (.hang body) :: steps) (body.flat :: done) last

theorem Moves.aligned {steps steps' : List (Step α)} {done done' : List (Doc α)} {last : Doc α}
    (moves : Moves steps done steps' done') (aligned : Aligned steps done last) :
    Aligned steps' done' last := by
  cases moves with
  | empty | text | newline =>
    cases aligned with
    | visit rest => exact rest
  | choice =>
    cases aligned with
    | visit rest => exact .visit rest
  | concat =>
    cases aligned with
    | visit rest => exact .visit (.visit (.concat rest))
  | indent =>
    cases aligned with
    | visit rest => exact .visit (.indent rest)
  | hang =>
    cases aligned with
    | visit rest => exact .visit (.hang rest)
  | rebuildConcat =>
    cases aligned with
    | concat rest => exact rest
  | rebuildIndent =>
    cases aligned with
    | indent rest => exact rest
  | rebuildHang =>
    cases aligned with
    | hang rest => exact rest

theorem Aligned.finished_or_moves {steps : List (Step α)} {done : List (Doc α)} {last : Doc α}
    (aligned : Aligned steps done last) :
    (steps = [] ∧ done = [last]) ∨ ∃ steps' done', Moves steps done steps' done' := by
  cases aligned with
  | finished => exact .inl ⟨rfl, rfl⟩
  | concat => exact .inr ⟨_, _, .rebuildConcat ..⟩
  | indent => exact .inr ⟨_, _, .rebuildIndent ..⟩
  | hang => exact .inr ⟨_, _, .rebuildHang ..⟩
  | @visit d =>
    right
    cases d with
    | empty => exact ⟨_, _, .empty ..⟩
    | text => exact ⟨_, _, .text ..⟩
    | newline => exact ⟨_, _, .newline ..⟩
    | choice => exact ⟨_, _, .choice ..⟩
    | concat => exact ⟨_, _, .concat ..⟩
    | indent => exact ⟨_, _, .indent ..⟩
    | hang => exact ⟨_, _, .hang ..⟩

theorem Reaches.aligned {steps steps' : List (Step α)} {done done' : List (Doc α)} {last : Doc α}
    (reaches : Reaches steps done steps' done') (aligned : Aligned steps done last) :
    Aligned steps' done' last := by
  induction reaches with
  | here => exact aligned
  | moves _ moves ih => exact moves.aligned ih

end Flattening

/-- Flattening answers by the recursive definition, whatever is recognised as unchanged; its answer
is flat, and it stays as it is when flattened once more. A run never stops before its end, where the
flat document alone is left. -/
theorem Doc.flattenUpTo_exact (sharing : Sharing α) (d : Doc α) :
    d.flattenUpTo sharing = d.flat ∧
    (d.flattenUpTo sharing).IsFlat ∧
    (∀ other : Sharing α, (d.flattenUpTo sharing).flattenUpTo other = d.flattenUpTo sharing) ∧
    ∀ child : Doc α, Flattening.run sharing [.visit child] [] = some child.flat ∧
      ∀ steps done, Flattening.Reaches [.visit child] [] steps done →
        (steps = [] ∧ done = [child.flat]) ∨
        ∃ steps' done', Flattening.Moves steps done steps' done' ∧
          Flattening.run sharing steps done = Flattening.run sharing steps' done' := by
  have same := flattenUpTo_eq_flat sharing d
  refine ⟨same, ?_, ?_, ?_⟩
  · rw [same]
    exact d.isFlat_flat
  · intro other
    rw [same, flattenUpTo_eq_flat, flat_flat]
  · intro child
    refine ⟨Flattening.run_visit_nil sharing child, ?_⟩
    intro steps done reaches
    have start : Flattening.Aligned [.visit child] [] child.flat := .visit (.finished _)
    rcases (reaches.aligned start).finished_or_moves with finished | ⟨steps', done', moves⟩
    · exact .inl finished
    · exact .inr ⟨steps', done', moves, Flattening.run_of_moves sharing moves⟩

end LineLayout
