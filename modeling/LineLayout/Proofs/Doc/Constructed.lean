import LineLayout.Description.Constructed
import LineLayout.Proofs.Description.Build
/-!
The check of a document names the first of its texts that breaks the line, and a document that was
made from checked texts and descriptions passes it.
-/
namespace LineLayout.Doc

variable {α : Type}

theorem unbroken_of_piece? {content : String} {label : Option α} {d : Doc α}
    (accepted : piece? content label = .ok d) : d.Unbroken := by
  have reports := Description.Reports.piece content label
  rw [accepted] at reports
  cases reports with
  | built _ unbroken => exact unbroken

theorem unbroken_of_build {description : Description α} {d : Doc α}
    (built : description.build = .ok d) : d.Unbroken := by
  have reports := Description.reports_build description
  rw [built] at reports
  cases reports with
  | built _ unbroken => exact unbroken

theorem Constructed.unbroken {d : Doc α} (constructed : Constructed d) : d.Unbroken := by
  induction constructed with
  | empty => exact unbroken_empty
  | newline => exact unbroken_newline
  | line => exact unbroken_line
  | softline => exact unbroken_softline
  | piece accepted => exact unbroken_of_piece? accepted
  | built built => exact unbroken_of_build built
  | concat _ _ left right => exact (unbroken_concat _ _).mpr ⟨left, right⟩
  | choice _ _ wide narrow => exact (unbroken_choice _ _).mpr ⟨wide, narrow⟩
  | indent _ body => exact (unbroken_indent _).mpr body
  | hang _ body => exact (unbroken_hang _).mpr body
  | sum _ docs => exact unbroken_sum docs
  | join _ _ elements separator => exact unbroken_join elements separator
  | flatten _ unbroken => exact unbroken.flattenUpTo .nothing
  | group _ unbroken => exact unbroken.group

/-- The check refuses a document for the first of its texts that breaks the line and accepts all
others; it accepts every document made from checked texts and descriptions, and a document that it
accepts stays accepted when flattened or grouped. -/
theorem validate_names_first_break (d : Doc α) :
    (∀ content, d.validate = .error (.containsNewline content) ↔
      d.texts.find? breaksLine = some content) ∧
    (d.validate = .ok () ↔ ∀ content ∈ d.texts, breaksLine content = false) ∧
    (Constructed d → d.validate = .ok ()) ∧
    (d.validate = .ok () →
      (∀ sharing, (d.flattenUpTo sharing).validate = .ok ()) ∧ d.group.validate = .ok ()) := by
  refine ⟨?first, ?accepted, ?constructed, ?kept⟩
  case first =>
    intro content
    rw [validate_eq]
    cases d.texts.find? breaksLine with
    | none => simp
    | some found => simp
  case accepted => exact validate_eq_ok_iff
  case constructed =>
    intro constructed
    exact validate_eq_ok_iff.mpr constructed.unbroken
  case kept =>
    intro valid
    have unbroken : d.Unbroken := validate_eq_ok_iff.mp valid
    constructor
    · intro sharing
      exact validate_eq_ok_iff.mpr (unbroken.flattenUpTo sharing)
    · exact validate_eq_ok_iff.mpr unbroken.group

theorem grouped_words_accepted :
    Constructed (group (join [text "a" none, hang (text "b" none)] line) : Doc Unit) ∧
    (group (join [text "a" none, hang (text "b" none)] line) : Doc Unit).validate = .ok () ∧
    (group (join [text "a" none, hang (text "b" none)] line) : Doc Unit).flatten.validate =
      .ok () := by
  have first : piece? "a" (none : Option Unit) = .ok (text "a" none) := rfl
  have second : piece? "b" (none : Option Unit) = .ok (text "b" none) := rfl
  have words : ∀ d ∈ [text "a" none, hang (text "b" none)], Constructed (d : Doc Unit) := by
    intro d member
    rcases List.mem_cons.mp member with rfl | member
    · exact .piece first
    · obtain rfl := List.mem_singleton.mp member
      exact .hang (.piece second)
  have constructed : Constructed (group (join _ line)) := .group (.join words .line)
  obtain ⟨_, _, accepts, keeps⟩ := validate_names_first_break _
  exact ⟨constructed, accepts constructed, (keeps (accepts constructed)).1 .nothing⟩

end LineLayout.Doc
