import LineLayout.Doc.Equality
/-!
Flat documents: every line break becomes a space and every choice its wide option. The main
statement is that the run over an explicit list of steps computes the recursive definition.
-/
namespace LineLayout

namespace Doc

variable {α : Type}

def flat : Doc α → Doc α
  | empty => empty
  | text content label => text content label
  | newline => space
  | choice wide _ => wide.flat
  | concat left right => concat left.flat right.flat
  | indent body => indent body.flat
  | hang body => hang body.flat

def IsFlat : Doc α → Prop
  | empty | text _ _ => True
  | newline | choice _ _ => False
  | concat left right => left.IsFlat ∧ right.IsFlat
  | indent body | hang body => body.IsFlat

end Doc

namespace Flattening

open Doc

variable {α : Type}

inductive Step (α : Type) where
  | visit (d : Doc α)
  /-- Put the flat children of this document together again. -/
  | rebuild (d : Doc α)

def Step.weight : Step α → Nat
  | visit d => 2 * d.size
  | rebuild _ => 1

def weight (steps : List (Step α)) : Nat := total Step.weight steps

/-- Carries out the steps; `done` holds the flat documents that wait for their parent, the latest
first. A document whose children are recognised as unchanged is kept as it is. The answer is `none`
where a step finds fewer flat documents than it needs. -/
def run (sharing : Sharing α) : List (Step α) → List (Doc α) → Option (Doc α)
  | [], done => done.head?
  | .visit empty :: steps, done => run sharing steps (empty :: done)
  | .visit (text content label) :: steps, done =>
    run sharing steps (text content label :: done)
  | .visit newline :: steps, done => run sharing steps (space :: done)
  | .visit (choice wide _) :: steps, done => run sharing (.visit wide :: steps) done
  | .visit (concat left right) :: steps, done =>
    run sharing (.visit left :: .visit right :: .rebuild (concat left right) :: steps) done
  | .visit (indent body) :: steps, done =>
    run sharing (.visit body :: .rebuild (indent body) :: steps) done
  | .visit (hang body) :: steps, done =>
    run sharing (.visit body :: .rebuild (hang body) :: steps) done
  | .rebuild (concat left right) :: steps, flatRight :: flatLeft :: done =>
    let unchanged := sharing.recognises flatLeft left && sharing.recognises flatRight right
    run sharing steps
      ((if unchanged then concat left right else concat flatLeft flatRight) :: done)
  | .rebuild (indent body) :: steps, flatBody :: done =>
    run sharing steps
      ((if sharing.recognises flatBody body then indent body else indent flatBody) :: done)
  | .rebuild (hang body) :: steps, flatBody :: done =>
    run sharing steps
      ((if sharing.recognises flatBody body then hang body else hang flatBody) :: done)
  | .rebuild _ :: _, _ => none
termination_by steps => weight steps
decreasing_by all_goals simp only [weight, total, Step.weight, size]; omega

theorem run_visit (sharing : Sharing α) (d : Doc α) (steps : List (Step α)) (done : List (Doc α)) :
    run sharing (.visit d :: steps) done = run sharing steps (d.flat :: done) := by
  induction d generalizing steps done with
  | empty => simp [run, flat]
  | text content label => simp [run, flat]
  | newline => simp [run, flat]
  | choice wide narrow ihWide ihNarrow => simp [run, flat, ihWide]
  | concat left right ihLeft ihRight =>
    simp only [run, flat, ihLeft, ihRight]
    split
    · rename_i unchanged
      simp only [Bool.and_eq_true] at unchanged
      rw [sharing.eq_of_recognises _ _ unchanged.1, sharing.eq_of_recognises _ _ unchanged.2]
    · rfl
  | indent body ih =>
    simp only [run, flat, ih]
    split
    · rename_i unchanged
      rw [sharing.eq_of_recognises _ _ unchanged]
    · rfl
  | hang body ih =>
    simp only [run, flat, ih]
    split
    · rename_i unchanged
      rw [sharing.eq_of_recognises _ _ unchanged]
    · rfl

theorem run_visit_nil (sharing : Sharing α) (d : Doc α) :
    run sharing [.visit d] [] = some d.flat := by
  simp [run_visit, run]

def shared (sharing : Sharing α) (d : Doc α) : Doc α :=
  (run sharing [.visit d] []).get (by simp [run_visit_nil])

theorem shared_eq_flat (sharing : Sharing α) (d : Doc α) : shared sharing d = d.flat := by
  simp [shared, run_visit_nil]

end Flattening

namespace Doc

variable {α : Type}

/-- The document on a single line, keeping what `sharing` recognises as flat already. -/
def flattenUpTo (sharing : Sharing α) : Doc α → Doc α
  | empty => empty
  | text content label => text content label
  | newline => space
  | choice wide _ => Flattening.shared sharing wide
  | concat left right => concat (Flattening.shared sharing left) (Flattening.shared sharing right)
  | indent body => indent (Flattening.shared sharing body)
  | hang body => hang (Flattening.shared sharing body)

def flatten (d : Doc α) : Doc α := flattenUpTo .nothing d

theorem flattenUpTo_eq_flat (sharing : Sharing α) (d : Doc α) : d.flattenUpTo sharing = d.flat := by
  cases d <;> simp [flattenUpTo, flat, Flattening.shared_eq_flat]

theorem flatten_eq_flat (d : Doc α) : d.flatten = d.flat := flattenUpTo_eq_flat .nothing d

theorem isFlat_flat (d : Doc α) : d.flat.IsFlat := by
  induction d with
  | empty | text | newline => trivial
  | concat left right ihLeft ihRight => exact ⟨ihLeft, ihRight⟩
  | indent body ih | hang body ih => exact ih
  | choice wide narrow ihWide ihNarrow => exact ihWide

@[simp] theorem flat_flat (d : Doc α) : d.flat.flat = d.flat := by
  induction d with
  | empty | text | newline => rfl
  | concat left right ihLeft ihRight => simp only [flat, ihLeft, ihRight]
  | indent body ih | hang body ih => simp only [flat, ih]
  | choice wide narrow ihWide ihNarrow => exact ihWide

def group (d : Doc α) : Doc α := choice d.flatten d

end Doc

end LineLayout
