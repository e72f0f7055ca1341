import LineLayout.Proofs.Outlook.Alike
import LineLayout.Proofs.Outlook.Text
/-!
Joined documents are the sum of the documents with the separator between neighbours, and flattening
goes into sums and joins.
-/
namespace LineLayout.Doc

variable {settings : Settings} {α : Type}

theorem foldr_intersperse {β : Type} (step : Doc α → β → β) (last : β) (first separator : Doc α)
    (others : List (Doc α)) :
    (List.intersperse separator (first :: others)).foldr step last =
      step first (others.foldr (fun d reached => step separator (step d reached)) last) := by
  induction others generalizing first with
  | nil => rfl
  | cons d later ih =>
    rw [List.intersperse_cons_cons, List.foldr_cons, List.foldr_cons, ih, List.foldr_cons]

/-- A join nests each separator with the document after it, and the sum does not; the display does
not see that. -/
theorem before_join_eq_before_sum (elements : List (Doc α)) (separator : Doc α) (indentation : Nat)
    (rest : Outlook settings α) :
    (join elements separator).before indentation rest =
      (sum (elements.intersperse separator)).before indentation rest := by
  cases elements with
  | nil => rfl
  | cons first others =>
    rw [before_join, before_sum, foldr_intersperse]

/-- In every context joined documents display as the documents with the separator between neighbours,
and flattening a join or a sum flattens its parts, whatever is recognised as unchanged. -/
theorem join_interleaves (elements : List (Doc α)) (separator : Doc α) :
    Interchangeable (join elements separator) (sum (elements.intersperse separator)) ∧
    ∀ sharing sharing' : Sharing α,
      (join elements separator).flattenUpTo sharing =
        join (elements.map (flattenUpTo sharing')) (separator.flattenUpTo sharing') ∧
      (sum elements).flattenUpTo sharing = sum (elements.map (flattenUpTo sharing')) := by
  refine ⟨?display, ?flatten⟩
  case display =>
    apply interchangeable_of_before_eq
    intro settings indentation rest
    exact before_join_eq_before_sum elements separator indentation rest
  case flatten =>
    intro sharing sharing'
    have flattens : flattenUpTo sharing' = flat := funext (flattenUpTo_eq_flat sharing')
    rw [flattens]
    constructor
    · calc
        (join elements separator).flattenUpTo sharing
          = (join elements separator).flat := flattenUpTo_eq_flat sharing _
        _ = join (elements.map flat) separator.flat := flat_join elements separator
    · calc
        (sum elements).flattenUpTo sharing = (sum elements).flat := flattenUpTo_eq_flat sharing _
        _ = sum (elements.map flat) := flat_sum elements

end LineLayout.Doc
