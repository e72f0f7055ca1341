import LineLayout.Doc.Flatten
import LineLayout.Doc.Texts
/-!
Where no text of the parts of a document breaks the line, none of the document does.
-/
namespace LineLayout.Doc

variable {α : Type}

theorem unbroken_empty : (empty : Doc α).Unbroken := nofun

theorem unbroken_newline : (newline : Doc α).Unbroken := nofun

theorem unbroken_space : (space : Doc α).Unbroken := by
  simp [space, breaksLine]

theorem unbroken_line : (line : Doc α).Unbroken :=
  (unbroken_choice _ _).mpr ⟨unbroken_space, unbroken_newline⟩

theorem unbroken_softline : (softline : Doc α).Unbroken :=
  (unbroken_choice _ _).mpr ⟨unbroken_empty, unbroken_newline⟩

theorem unbroken_sum {docs : List (Doc α)} (unbroken : ∀ d ∈ docs, d.Unbroken) :
    (sum docs).Unbroken := by
  cases docs with
  | nil => exact unbroken_empty
  | cons first others =>
    rw [List.forall_mem_cons] at unbroken
    apply List.foldlRecOn others concat unbroken.1
    intro built kept d member
    exact (unbroken_concat _ _).mpr ⟨kept, unbroken.2 d member⟩

theorem unbroken_join {elements : List (Doc α)} {separator : Doc α}
    (unbroken : ∀ d ∈ elements, d.Unbroken) (plain : separator.Unbroken) :
    (join elements separator).Unbroken := by
  cases elements with
  | nil => exact unbroken_empty
  | cons first others =>
    rw [List.forall_mem_cons] at unbroken
    rw [join_eq_sum]
    apply unbroken_sum
    rw [List.forall_mem_cons]
    refine ⟨unbroken.1, ?_⟩
    intro d member
    obtain ⟨element, among, rfl⟩ := List.mem_map.mp member
    exact (unbroken_concat _ _).mpr ⟨plain, unbroken.2 element among⟩

theorem Unbroken.flat {d : Doc α} (unbroken : d.Unbroken) : d.flat.Unbroken := by
  induction d with
  | empty | text => exact unbroken
  | newline => exact unbroken_space
  | concat left right ihLeft ihRight =>
    rw [unbroken_concat] at unbroken
    exact (unbroken_concat _ _).mpr ⟨ihLeft unbroken.1, ihRight unbroken.2⟩
  | indent body ih | hang body ih => exact ih unbroken
  | choice wide narrow ihWide ihNarrow =>
    rw [unbroken_choice] at unbroken
    exact ihWide unbroken.1

theorem Unbroken.flattenUpTo {d : Doc α} (unbroken : d.Unbroken) (sharing : Sharing α) :
    (d.flattenUpTo sharing).Unbroken := by
  rw [flattenUpTo_eq_flat]
  exact unbroken.flat

theorem group_eq_choice (d : Doc α) : d.group = choice d.flat d := by
  rw [group, flatten_eq_flat]

theorem Unbroken.group {d : Doc α} (unbroken : d.Unbroken) : d.group.Unbroken := by
  rw [group_eq_choice, unbroken_choice]
  exact ⟨unbroken.flat, unbroken⟩

end LineLayout.Doc
