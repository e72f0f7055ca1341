import LineLayout.Doc.Flatten
import LineLayout.Proofs.Outlook.Alike
/-!
Laws of layout: documents that display the same in every context, at every width and tab width.
-/
namespace LineLayout

variable {settings : Settings} {α : Type}

namespace Outlook

theorem choice_assoc (first second third : Outlook settings α) :
    Alike ((first.choice second).choice third) (first.choice (second.choice third)) where
  fits column := by
    simp only [choice]
    cases first.fits column with
    | error fault => rfl
    | ok answer => cases answer <;> rfl
  shown column := by
    simp only [choice]
    cases first.fits column with
    | error fault => rfl
    | ok answer =>
      cases answer with
      | true => simp only [map_shown_choice]
      | false =>
        cases second.fits column with
        | error fault => rfl
        | ok answer =>
          cases answer <;> simp only [map_shown_choice]

/-- A choice between equals is none: a fault met in looking ahead would be met in the display. -/
theorem choice_self (outlook : Outlook settings α) : Alike (outlook.choice outlook) outlook where
  fits column := by
    simp only [choice]
    cases outlook.fits column with
    | error fault => rfl
    | ok answer => cases answer <;> rfl
  shown column := by
    simp only [choice]
    cases fits : outlook.fits column with
    | error fault => rw [outlook.events_of_fault column fault fits]
    | ok answer => cases answer <;> simp only [map_shown_choice]

end Outlook

namespace Doc

open Outlook (Alike)

variable (a b c : Doc α) (indentation : Nat) (rest : Outlook settings α)

section Choice

theorem before_choice_assoc : Alike ((choice (choice a b) c).before indentation rest)
    ((choice a (choice b c)).before indentation rest) :=
  Outlook.choice_assoc _ _ _

theorem before_choice_self : Alike ((choice a a).before indentation rest)
    (a.before indentation rest) :=
  Outlook.choice_self _

theorem before_concat_choice : (concat (choice a b) c).before indentation rest =
    (choice (concat a c) (concat b c)).before indentation rest := rfl

theorem before_indent_choice : Alike ((indent (choice a b)).before indentation rest)
    ((choice (indent a) (indent b)).before indentation rest) := by
  simp only [before]
  cases addColumns indentation settings.tabWidth with
  | error fault => exact (Outlook.choice_self _).symm
  | ok deeper => exact .refl _

theorem before_hang_choice : Alike ((hang (choice a b)).before indentation rest)
    ((choice (hang a) (hang b)).before indentation rest) :=
  .refl _

theorem before_group_group : Alike (a.group.group.before indentation rest)
    (a.group.before indentation rest) := by
  have flat : a.group.flatten = a.flatten := by
    simp only [flatten_eq_flat, group, Doc.flat, flat_flat]
  have same : a.group.group = choice a.flatten (choice a.flatten a) := by
    rw [group, flat]
    rfl
  rw [same]
  exact (before_choice_assoc _ _ _ _ _).symm.trans
    (.choice (before_choice_self _ _ _) (.refl _))

/-- Choices associate and are idempotent, concatenation, indentation and hanging distribute over
them, and a group within a group is one group. -/
theorem choice_algebra (a b c : Doc α) :
    Interchangeable (choice (choice a b) c) (choice a (choice b c)) ∧
      Interchangeable (choice a a) a ∧
      Interchangeable (concat (choice a b) c) (choice (concat a c) (concat b c)) ∧
      Interchangeable (indent (choice a b)) (choice (indent a) (indent b)) ∧
      Interchangeable (hang (choice a b)) (choice (hang a) (hang b)) ∧
      Interchangeable a.group.group a.group := by
  refine ⟨?assoc, ?self, ?concat, ?indent, ?hang, ?group⟩
  case assoc => exact interchangeable_of_alike fun _ => before_choice_assoc a b c
  case self => exact interchangeable_of_alike fun _ => before_choice_self a
  case concat => exact interchangeable_of_before_eq fun _ => before_concat_choice a b c
  case indent => exact interchangeable_of_alike fun _ => before_indent_choice a b
  case hang => exact interchangeable_of_alike fun _ => before_hang_choice a b
  case group => exact interchangeable_of_alike fun _ => before_group_group a

end Choice

section Concatenation

theorem before_concat_assoc : (concat (concat a b) c).before indentation rest =
    (concat a (concat b c)).before indentation rest := rfl

theorem before_empty_concat : (concat empty a).before indentation rest =
    a.before indentation rest := rfl

theorem before_concat_empty : (concat a empty).before indentation rest =
    a.before indentation rest := rfl

theorem before_indent_concat : (indent (concat a b)).before indentation rest =
    (concat (indent a) (indent b)).before indentation rest := by
  simp only [before]
  cases addColumns indentation settings.tabWidth <;> rfl

/-- The inner one of two hanging documents starts at the column of the outer one. -/
theorem before_hang_hang : (hang (hang a)).before indentation rest =
    (hang a).before indentation rest := rfl

/-- Concatenation associates and has the empty document as its unit, indentation distributes over
it, and hanging is idempotent. -/
theorem concatenation_algebra (a b c : Doc α) :
    Interchangeable (concat (concat a b) c) (concat a (concat b c)) ∧
      Interchangeable (concat empty a) a ∧ Interchangeable (concat a empty) a ∧
      Interchangeable (indent (concat a b)) (concat (indent a) (indent b)) ∧
      Interchangeable (hang (hang a)) (hang a) := by
  refine ⟨?assoc, ?emptyLeft, ?emptyRight, ?indent, ?hang⟩
  case assoc => exact interchangeable_of_before_eq fun _ => before_concat_assoc a b c
  case emptyLeft => exact interchangeable_of_before_eq fun _ => before_empty_concat a
  case emptyRight => exact interchangeable_of_before_eq fun _ => before_concat_empty a
  case indent => exact interchangeable_of_before_eq fun _ => before_indent_concat a b
  case hang => exact interchangeable_of_before_eq fun _ => before_hang_hang a

end Concatenation

end Doc

end LineLayout
