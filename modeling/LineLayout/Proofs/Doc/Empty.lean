import LineLayout.Doc.Flatten
import LineLayout.Proofs.Doc.Search
import LineLayout.Proofs.Placement.Resolved
/-!
Empty documents: those whose leaves are all empty. Of any other document some resolution leads to a
leaf that is displayed.
-/
namespace LineLayout.Doc

variable {α : Type} {d left right body : Doc α}

section Leaves

theorem isEmpty_iff_leaves : d.isEmpty = true ↔ ∀ leaf ∈ d.leaves, leaf = empty := by
  rw [isEmpty, findLeaf?_eq_findSome?, List.flatMap_singleton, Option.isNone_iff_eq_none,
    List.findSome?_eq_none_iff]
  apply forall₂_congr
  intro leaf member
  cases leaf <;> simp

@[simp] theorem isEmpty_empty : (empty : Doc α).isEmpty = true := by
  rw [isEmpty_iff_leaves]
  exact List.forall_mem_singleton.mpr rfl

@[simp] theorem isEmpty_text (content : String) (label : Option α) :
    (text content label).isEmpty = false := by
  rw [← Bool.not_eq_true, isEmpty_iff_leaves]
  simp [leaves]

@[simp] theorem isEmpty_newline : (newline : Doc α).isEmpty = false := by
  rw [← Bool.not_eq_true, isEmpty_iff_leaves]
  simp [leaves]

@[simp] theorem isEmpty_concat :
    (concat left right).isEmpty = (left.isEmpty && right.isEmpty) := by
  rw [Bool.eq_iff_iff, Bool.and_eq_true]
  simp only [isEmpty_iff_leaves]
  exact List.forall_mem_append

@[simp] theorem isEmpty_indent : (indent body).isEmpty = body.isEmpty := by
  rw [Bool.eq_iff_iff, isEmpty_iff_leaves, isEmpty_iff_leaves, leaves]

@[simp] theorem isEmpty_hang : (hang body).isEmpty = body.isEmpty := by
  rw [Bool.eq_iff_iff, isEmpty_iff_leaves, isEmpty_iff_leaves, leaves]

@[simp] theorem isEmpty_choice (wide narrow : Doc α) :
    (choice wide narrow).isEmpty = (wide.isEmpty && narrow.isEmpty) := by
  rw [Bool.eq_iff_iff, Bool.and_eq_true]
  simp only [isEmpty_iff_leaves]
  exact List.forall_mem_append

end Leaves

theorem isEmpty_flat (nothing : d.isEmpty = true) : d.flat.isEmpty = true := by
  induction d with
  | empty => exact nothing
  | text | newline => simp at nothing
  | concat left right ihLeft ihRight =>
    simp only [isEmpty_concat, Bool.and_eq_true] at nothing
    simp [flat, ihLeft nothing.1, ihRight nothing.2]
  | indent body ih | hang body ih =>
    simp only [isEmpty_indent, isEmpty_hang] at nothing
    simp [flat, ih nothing]
  | choice wide narrow ihWide _ =>
    simp only [isEmpty_choice, Bool.and_eq_true] at nothing
    exact ihWide nothing.1

theorem ChoiceFree.place_eq_nil_iff (free : d.ChoiceFree) (tabWidth indentation column : Nat) :
    (d.place tabWidth indentation column).1 = [] ↔ d.isEmpty = true := by
  induction d generalizing indentation column with
  | empty | text | newline => simp [place]
  | concat left right ihLeft ihRight =>
    rw [place, List.append_eq_nil_iff, ihLeft free.1, ihRight free.2, isEmpty_concat,
      Bool.and_eq_true]
  | indent body ih =>
    rw [place, ih free, isEmpty_indent]
  | hang body ih =>
    rw [place, ih free, isEmpty_hang]
  | choice => cases free

section Resolutions

theorem Resolution.isEmpty {resolved : Doc α} {decisions : List Bool}
    (resolution : Resolution d decisions resolved) (nothing : d.isEmpty = true) :
    resolved.isEmpty = true := by
  induction resolution with
  | empty | text | newline => exact nothing
  | concat _ _ ihLeft ihRight =>
    simp only [isEmpty_concat, Bool.and_eq_true] at nothing ⊢
    exact ⟨ihLeft nothing.1, ihRight nothing.2⟩
  | indent _ ih =>
    rw [isEmpty_indent] at nothing ⊢
    exact ih nothing
  | hang _ ih =>
    rw [isEmpty_hang] at nothing ⊢
    exact ih nothing
  | wide _ _ ih =>
    simp only [isEmpty_choice, Bool.and_eq_true] at nothing
    exact ih nothing.1
  | narrow _ _ ih =>
    simp only [isEmpty_choice, Bool.and_eq_true] at nothing
    exact ih nothing.2

theorem exists_resolution (d : Doc α) : ∃ decisions resolved, Resolution d decisions resolved := by
  induction d with
  | empty => exact ⟨_, _, .empty⟩
  | text content label => exact ⟨_, _, .text content label⟩
  | newline => exact ⟨_, _, .newline⟩
  | concat left right ihLeft ihRight =>
    obtain ⟨_, _, resolution⟩ := ihLeft
    obtain ⟨_, _, resolution'⟩ := ihRight
    exact ⟨_, _, resolution.concat resolution'⟩
  | indent body ih =>
    obtain ⟨_, _, resolution⟩ := ih
    exact ⟨_, _, resolution.indent⟩
  | hang body ih =>
    obtain ⟨_, _, resolution⟩ := ih
    exact ⟨_, _, resolution.hang⟩
  | choice wide narrow ihWide _ =>
    obtain ⟨_, _, resolution⟩ := ihWide
    exact ⟨_, _, resolution.wide narrow⟩

/-- Of the choices around a leaf that is displayed, each takes the option that leads to it. -/
theorem exists_resolution_of_not_isEmpty (something : d.isEmpty = false) :
    ∃ decisions resolved, Resolution d decisions resolved ∧ resolved.isEmpty = false := by
  induction d with
  | empty => simp at something
  | text content label => exact ⟨_, _, .text content label, something⟩
  | newline => exact ⟨_, _, .newline, something⟩
  | concat left right ihLeft ihRight =>
    rw [isEmpty_concat, Bool.and_eq_false_iff] at something
    -- The part that shows nothing has to be resolved as well, in any way.
    rcases something with something | something
    · obtain ⟨_, _, resolution, shows⟩ := ihLeft something
      obtain ⟨_, _, resolution'⟩ := exists_resolution right
      exact ⟨_, _, resolution.concat resolution', by simp [shows]⟩
    · obtain ⟨_, _, resolution⟩ := exists_resolution left
      obtain ⟨_, _, resolution', shows⟩ := ihRight something
      exact ⟨_, _, resolution.concat resolution', by simp [shows]⟩
  | indent body ih =>
    rw [isEmpty_indent] at something
    obtain ⟨_, _, resolution, shows⟩ := ih something
    exact ⟨_, _, resolution.indent, by rwa [isEmpty_indent]⟩
  | hang body ih =>
    rw [isEmpty_hang] at something
    obtain ⟨_, _, resolution, shows⟩ := ih something
    exact ⟨_, _, resolution.hang, by rwa [isEmpty_hang]⟩
  | choice wide narrow ihWide ihNarrow =>
    rw [isEmpty_choice, Bool.and_eq_false_iff] at something
    rcases something with something | something
    · obtain ⟨_, _, resolution, shows⟩ := ihWide something
      exact ⟨_, _, resolution.wide narrow, shows⟩
    · obtain ⟨_, _, resolution, shows⟩ := ihNarrow something
      exact ⟨_, _, resolution.narrow wide, shows⟩

theorem isEmpty_iff_places_nothing (tabWidth indentation column : Nat) :
    d.isEmpty = true ↔ ∀ decisions resolved later,
      d.resolve decisions = some (resolved, later) →
        (resolved.place tabWidth indentation column).1 = [] := by
  constructor
  · intro nothing decisions resolved later resolves
    obtain ⟨_, _, resolution⟩ := exists_resolution_of_resolve resolves
    apply (resolution.choiceFree.place_eq_nil_iff ..).mpr
    exact resolution.isEmpty nothing
  · intro places
    cases something : d.isEmpty with
    | true => rfl
    | false =>
      obtain ⟨decisions, resolved, resolution, shows⟩ :=
        exists_resolution_of_not_isEmpty something
      have shown := places _ _ _ (resolution.resolve_append [])
      have nothing := (resolution.choiceFree.place_eq_nil_iff ..).mp shown
      exact shows.symm.trans nothing

end Resolutions

end LineLayout.Doc
