import LineLayout.Doc.Equality
/-!
Documents compare as equal exactly if they are the same tree, wherever they share parts with each
other or within themselves and whichever of these the comparison notices.
-/
namespace LineLayout

open Doc

variable {α : Type}

namespace Comparison

inductive Adds (first second : Doc α) (pending : List (Doc α × Doc α)) :
    List (Doc α × Doc α) → Prop
  | compared : Adds first second pending ((first, second) :: pending)
  | noticed : first = second → Adds first second pending pending

/-- One step of a comparison, from the pending pairs to those after it. -/
inductive Moves [BEq α] : List (Doc α × Doc α) → List (Doc α × Doc α) → Prop
  | empty (pending : List (Doc α × Doc α)) : Moves ((empty, empty) :: pending) pending
  | newline (pending : List (Doc α × Doc α)) : Moves ((newline, newline) :: pending) pending
  | text {content content' : String} {label label' : Option α} (pending : List (Doc α × Doc α)) :
    (content == content') = true → (label == label') = true →
    Moves ((text content label, text content' label') :: pending) pending
  | concat {left right left' right' : Doc α} {pending pending' pending'' : List (Doc α × Doc α)} :
    Adds right right' pending pending' → Adds left left' pending' pending'' →
    Moves ((concat left right, concat left' right') :: pending) pending''
  | choice {wide narrow wide' narrow' : Doc α} {pending pending' pending'' : List (Doc α × Doc α)} :
    Adds narrow narrow' pending pending' → Adds wide wide' pending' pending'' →
    Moves ((choice wide narrow, choice wide' narrow') :: pending) pending''
  | indent {body body' : Doc α} {pending pending' : List (Doc α × Doc α)} :
    Adds body body' pending pending' → Moves ((indent body, indent body') :: pending) pending'
  | hang {body body' : Doc α} {pending pending' : List (Doc α × Doc α)} :
    Adds body body' pending pending' → Moves ((hang body, hang body') :: pending) pending'

inductive Answers [BEq α] : List (Doc α × Doc α) → Bool → Prop
  | finished : Answers [] true
  | refused {pair : Doc α × Doc α} {pending : List (Doc α × Doc α)} :
    (∀ pending', ¬ Moves (pair :: pending) pending') → Answers (pair :: pending) false
  | moves {pending pending' : List (Doc α × Doc α)} {answer : Bool} : Moves pending pending' →
    Answers pending' answer → Answers pending answer

def Matched (pending : List (Doc α × Doc α)) : Prop := ∀ pair ∈ pending, pair.1 = pair.2

theorem matched_nil : Matched ([] : List (Doc α × Doc α)) := List.forall_mem_nil _

theorem matched_cons {first second : Doc α} {pending : List (Doc α × Doc α)} :
    Matched ((first, second) :: pending) ↔ first = second ∧ Matched pending :=
  List.forall_mem_cons

theorem Adds.matched_iff {first second : Doc α} {pending pending' : List (Doc α × Doc α)}
    (adds : Adds first second pending pending') :
    Matched pending' ↔ first = second ∧ Matched pending := by
  cases adds with
  | compared => exact matched_cons
  | noticed same => simp only [same, true_and]

theorem Adds.pairsSize_le {first second : Doc α} {pending pending' : List (Doc α × Doc α)}
    (adds : Adds first second pending pending') :
    pairsSize pending' ≤ first.size + pairsSize pending := by
  cases adds with
  | compared => exact Nat.le_refl _
  | noticed same => exact Nat.le_add_left _ _

theorem adds_require (sharing : Sharing α) (first second : Doc α)
    (pending : List (Doc α × Doc α)) :
    Adds first second pending (sharing.require first second pending) := by
  rw [Sharing.require]
  split
  · rename_i recognised
    exact .noticed (sharing.eq_of_recognises first second recognised)
  · exact .compared

theorem Moves.pairsSize_lt [BEq α] {pending pending' : List (Doc α × Doc α)}
    (moves : Moves pending pending') : pairsSize pending' < pairsSize pending := by
  cases moves with
  | empty | newline | text =>
    simp only [pairsSize, total, size]
    omega
  | concat right left | choice right left =>
    have after := right.pairsSize_le
    have last := left.pairsSize_le
    simp only [pairsSize, total, size] at *
    omega
  | indent body | hang body =>
    have after := body.pairsSize_le
    simp only [pairsSize, total, size] at *
    omega

theorem wellFounded_moves [BEq α] :
    WellFounded fun later earlier : List (Doc α × Doc α) => Moves earlier later :=
  Subrelation.wf Moves.pairsSize_lt (measure pairsSize).wf

theorem answers_allEqual [BEq α] (sharing : Sharing α) (pending : List (Doc α × Doc α)) :
    Answers pending (allEqual sharing pending) := by
  fun_induction allEqual sharing pending with
  | case1 => exact .finished
  | case2 pending ih => exact .moves (.empty pending) ih
  | case3 pending ih => exact .moves (.newline pending) ih
  | case4 content label content' label' pending ih =>
    by_cases same : (content == content') = true ∧ (label == label') = true
    · rw [same.1, same.2]
      exact .moves (.text pending same.1 same.2) ih
    · rw [← Bool.and_eq_true] at same
      have differs :
          (content == content' && label == label' && allEqual sharing pending) = false := by
        rw [Bool.eq_false_iff.mpr same, Bool.false_and]
      rw [differs]
      apply Answers.refused
      intro pending' moves
      cases moves with
      | text _ contents labels =>
        rw [contents, labels] at same
        exact same rfl
  | case5 left right left' right' pending ih =>
    exact .moves (.concat (adds_require ..) (adds_require ..)) ih
  | case6 wide narrow wide' narrow' pending ih =>
    exact .moves (.choice (adds_require ..) (adds_require ..)) ih
  | case7 body body' pending ih => exact .moves (.indent (adds_require ..)) ih
  | case8 body body' pending ih => exact .moves (.hang (adds_require ..)) ih
  | case9 pair pending noEmpty noNewline noText noConcat noChoice noIndent noHang =>
    apply Answers.refused
    intro pending' moves
    cases moves with
    | empty => exact noEmpty rfl
    | newline => exact noNewline rfl
    | text => exact noText _ _ _ _ rfl
    | concat => exact noConcat _ _ _ _ rfl
    | choice => exact noChoice _ _ _ _ rfl
    | indent => exact noIndent _ _ rfl
    | hang => exact noHang _ _ rfl

section Lawful

variable [BEq α] [LawfulBEq α]

theorem Moves.matched_iff {pending pending' : List (Doc α × Doc α)}
    (moves : Moves pending pending') : Matched pending ↔ Matched pending' := by
  cases moves with
  | empty | newline => simp only [matched_cons, true_and]
  | text _ contents labels =>
    rw [eq_of_beq contents, eq_of_beq labels]
    simp only [matched_cons, true_and]
  | concat right left =>
    rw [left.matched_iff, right.matched_iff, matched_cons, Doc.concat.injEq, and_assoc]
  | choice right left =>
    rw [left.matched_iff, right.matched_iff, matched_cons, Doc.choice.injEq, and_assoc]
  | indent body => rw [body.matched_iff, matched_cons, Doc.indent.injEq]
  | hang body => rw [body.matched_iff, matched_cons, Doc.hang.injEq]

theorem exists_moves (d : Doc α) (pending : List (Doc α × Doc α)) :
    ∃ pending', Moves ((d, d) :: pending) pending' := by
  cases d with
  | empty => exact ⟨_, .empty pending⟩
  | newline => exact ⟨_, .newline pending⟩
  | text => exact ⟨_, .text pending (beq_self_eq_true _) (beq_self_eq_true _)⟩
  | concat => exact ⟨_, .concat .compared .compared⟩
  | choice => exact ⟨_, .choice .compared .compared⟩
  | indent => exact ⟨_, .indent .compared⟩
  | hang => exact ⟨_, .hang .compared⟩

/-- Whatever a comparison notices, it answers whether all the pairs match. -/
theorem Answers.iff_matched {pending : List (Doc α × Doc α)} {answer : Bool}
    (answers : Answers pending answer) : answer = true ↔ Matched pending := by
  induction answers with
  | finished => exact ⟨fun _ => matched_nil, fun _ => rfl⟩
  | @refused pair pending stuck =>
    constructor
    · intro absurdity
      cases absurdity
    · intro matched
      obtain ⟨first, second⟩ := pair
      obtain rfl := (matched_cons.mp matched).1
      obtain ⟨pending', moves⟩ := exists_moves first pending
      exact absurd moves (stuck pending')
  | moves moves _ ih => exact ih.trans moves.matched_iff.symm

end Lawful

end Comparison

namespace Doc

open Comparison (Moves Answers)

structure Congruence [BEq α] (same : Doc α → Doc α → Prop) : Prop extends Equivalence same where
  text : ∀ {content content' : String} {label label' : Option α}, (content == content') = true →
    (label == label') = true → same (text content label) (text content' label')
  concat : ∀ {left right left' right' : Doc α}, same left left' → same right right' →
    same (concat left right) (concat left' right')
  indent : ∀ {body body' : Doc α}, same body body' → same (indent body) (indent body')
  hang : ∀ {body body' : Doc α}, same body body' → same (hang body) (hang body')
  choice : ∀ {wide narrow wide' narrow' : Doc α}, same wide wide' → same narrow narrow' →
    same (choice wide narrow) (choice wide' narrow')

section Lawful

variable [BEq α] [LawfulBEq α]

theorem equalUpTo_eq_true_iff (sharing : Sharing α) {a b : Doc α} :
    a.equalUpTo sharing b = true ↔ a = b := by
  rw [equalUpTo, (Comparison.answers_allEqual sharing [(a, b)]).iff_matched]
  simp [Comparison.Matched]

theorem congruence_eq : Congruence (Eq : Doc α → Doc α → Prop) where
  refl := Eq.refl
  symm := Eq.symm
  trans := Eq.trans
  text contents labels := by rw [eq_of_beq contents, eq_of_beq labels]
  concat left right := by rw [left, right]
  indent body := by rw [body]
  hang body := by rw [body]
  choice wide narrow := by rw [wide, narrow]

/-- Documents compare as equal exactly if they are the same tree, so the comparison is a congruence.
It ends whatever shared children it notices on its way, and its answer does not depend on them. -/
theorem equality_is_structural (sharing : Sharing α) :
    (∀ a b : Doc α, a.equalUpTo sharing b = true ↔ a = b) ∧
    Congruence (fun a b : Doc α => a.equalUpTo sharing b = true) ∧
    WellFounded (fun later earlier : List (Doc α × Doc α) => Moves earlier later) ∧
    ∀ a b : Doc α, Answers [(a, b)] (a.equalUpTo sharing b) ∧
      ∀ answer, Answers [(a, b)] answer → (answer = true ↔ a = b) := by
  have structural : (fun a b : Doc α => a.equalUpTo sharing b = true) = Eq := by
    funext a b
    exact propext (equalUpTo_eq_true_iff sharing)
  refine ⟨fun a b => equalUpTo_eq_true_iff sharing, ?_, Comparison.wellFounded_moves, ?_⟩
  · rw [structural]
    exact congruence_eq
  · intro a b
    refine ⟨Comparison.answers_allEqual sharing [(a, b)], ?_⟩
    intro answer answers
    rw [answers.iff_matched]
    simp [Comparison.Matched]

end Lawful

def newlinesShared : Sharing α where
  recognises
    | newline, newline => true
    | _, _ => false
  eq_of_recognises first second recognised := by
    split at recognised
    · rfl
    · cases recognised

theorem differs_over_same_child :
    LawfulBEq Bool ∧
    (concat (text "a" none) (indent newline) : Doc Bool).equalUpTo newlinesShared
      (concat (text "a" none) (indent newline)) = true ∧
    (concat (text "a" none) (indent newline) : Doc Bool).equalUpTo newlinesShared
      (concat (text "a" none) (hang newline)) = false ∧
    (text "a" none : Doc Bool).equalUpTo newlinesShared (text "a" (some true)) = false := by
  have structural := (equality_is_structural (newlinesShared : Sharing Bool)).1
  refine ⟨inferInstance, (structural _ _).mpr rfl, ?_, ?_⟩
  · apply Bool.eq_false_iff.mpr
    intro equal
    have same := (structural _ _).mp equal
    cases same
  · apply Bool.eq_false_iff.mpr
    intro equal
    have same := (structural _ _).mp equal
    cases same

end Doc

end LineLayout
