import LineLayout.Doc.Leaves
import LineLayout.Doc.Search
import LineLayout.Doc.Texts
/-!
Searching a document looks at its leaves in order; the check of its texts therefore names the first
one that breaks the line.
-/
namespace LineLayout.Doc

variable {α β : Type}

theorem findLeaf?_eq_findSome? (ask : Doc α → Option β) (pending : List (Doc α)) :
    findLeaf? ask pending = (pending.flatMap leaves).findSome? ask := by
  fun_induction findLeaf? ask pending with
  | case1 => rfl
  | case2 pending left right ih | case3 pending left right ih =>
    rw [ih]
    simp only [List.flatMap_cons, leaves, List.append_assoc]
  | case4 pending body ih | case5 pending body ih => exact ih
  | case6 pending ih | case7 pending ih | case8 pending content label ih =>
    rw [ih, List.flatMap_cons, leaves, List.singleton_append, List.findSome?_cons]
    cases ask _ <;> rfl

def offence : Doc α → Option TextError
  | text content _ => if breaksLine content then some (.containsNewline content) else none
  | _ => none

theorem findSome?_offence_leaves (d : Doc α) :
    d.leaves.findSome? offence = (d.texts.find? breaksLine).map .containsNewline := by
  induction d with
  | empty | newline => rfl
  | text content label =>
    cases breaks : breaksLine content <;> simp [leaves, texts, offence, breaks]
  | concat left right ihLeft ihRight | choice left right ihLeft ihRight =>
    rw [leaves, texts, List.findSome?_append, List.find?_append, ihLeft, ihRight]
    cases left.texts.find? breaksLine <;> rfl
  | indent body ih | hang body ih => exact ih

theorem validate_eq (d : Doc α) : d.validate =
    match d.texts.find? breaksLine with
    | some content => .error (.containsNewline content)
    | none => .ok () := by
  have searched : findLeaf? offence [d] = (d.texts.find? breaksLine).map .containsNewline := by
    rw [findLeaf?_eq_findSome?, List.flatMap_singleton, findSome?_offence_leaves]
  have checks : d.validate = (findLeaf? offence [d]).elim (.ok ()) .error := by
    simp only [validate]
    split
    · rename_i error found
      have found : findLeaf? offence [d] = some error := found
      rw [found]
      rfl
    · rename_i nothing
      have nothing : findLeaf? offence [d] = none := nothing
      rw [nothing]
      rfl
  rw [checks, searched]
  cases d.texts.find? breaksLine <;> rfl

theorem validate_eq_ok_iff {d : Doc α} : d.validate = .ok () ↔ d.Unbroken := by
  rw [validate_eq]
  constructor
  · intro valid
    cases found : d.texts.find? breaksLine with
    | none =>
      intro content member
      exact Bool.eq_false_iff.mpr (List.find?_eq_none.mp found content member)
    | some content =>
      rw [found] at valid
      cases valid
  · intro unbroken
    have nothing : d.texts.find? breaksLine = none := by
      apply List.find?_eq_none.mpr
      intro content member
      exact Bool.eq_false_iff.mp (unbroken content member)
    rw [nothing]

end LineLayout.Doc
