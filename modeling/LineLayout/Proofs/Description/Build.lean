import LineLayout.Description.Texts
import LineLayout.Proofs.Doc.Search
import LineLayout.Proofs.Doc.Texts
/-!
Building a description: it is refused exactly if one of its texts breaks the line, for the first one
that does, whether or not the document would show that text.
-/
namespace LineLayout.Description

variable {α : Type}

/-- What building from texts may come to: a refusal that names the first of them that breaks the
line, or a result without one. -/
inductive Reports {β : Type} (sound : β → Prop) (texts : List String) : Except TextError β → Prop
  | refused {content : String} : texts.find? breaksLine = some content →
    Reports sound texts (.error (.containsNewline content))
  | built {result : β} : texts.find? breaksLine = none → sound result →
    Reports sound texts (.ok result)

namespace Reports

variable {β γ δ : Type} {sound : β → Prop} {sound' : γ → Prop} {sound'' : δ → Prop}
  {texts texts' : List String}

theorem map {answer : Except TextError β} {make : β → γ} (reports : Reports sound texts answer)
    (keeps : ∀ result, sound result → sound' (make result)) :
    Reports sound' texts (do return make (← answer)) := by
  cases reports with
  | refused found => exact .refused found
  | built clean good => exact .built clean (keeps _ good)

theorem both {first : Except TextError β} {second : Except TextError γ} {make : β → γ → δ}
    (reports : Reports sound texts first) (reports' : Reports sound' texts' second)
    (keeps : ∀ result result', sound result → sound' result' → sound'' (make result result')) :
    Reports sound'' (texts ++ texts') (do
      let result ← first
      let result' ← second
      return make result result') := by
  cases reports with
  | refused found =>
    refine .refused ?_
    rw [List.find?_append, found, Option.some_or]
  | built clean good =>
    have rest : (texts ++ texts').find? breaksLine = texts'.find? breaksLine := by
      rw [List.find?_append, clean, Option.none_or]
    cases reports' with
    | refused found => exact .refused (rest.trans found)
    | built clean' good' => exact .built (rest.trans clean') (keeps _ _ good good')

theorem piece (content : String) (label : Option α) :
    Reports Doc.Unbroken [content] (Doc.piece? content label) := by
  cases breaks : breaksLine content with
  | true =>
    rw [Doc.piece?, if_pos breaks]
    exact .refused (by simp [breaks])
  | false =>
    rw [Doc.piece?, if_neg (by simp [breaks])]
    exact .built (by simp [breaks]) (by simp [breaks])

end Reports

open Doc (Unbroken)

mutual

theorem reports_build : ∀ description : Description α,
    Reports Unbroken description.texts description.build
  | empty => .built rfl Doc.unbroken_empty
  | newline => .built rfl Doc.unbroken_newline
  | line => .built rfl Doc.unbroken_line
  | softline => .built rfl Doc.unbroken_softline
  | text content => .piece content none
  | styled content label => .piece content (some label)
  | concat parts => (reports_buildAll parts).map fun _ => Doc.unbroken_sum
  | indent body | hang body => (reports_build body).map fun _ => id
  | group body => (reports_build body).map fun _ => Unbroken.group
  | flatten body => (reports_build body).map fun _ unbroken => unbroken.flattenUpTo .nothing
  | choice wide narrow => (reports_build wide).both (reports_build narrow) fun _ _ wide narrow =>
    (Doc.unbroken_choice _ _).mpr ⟨wide, narrow⟩
  | join elements separator => (reports_buildAll elements).both (reports_build separator)
    fun _ _ => Doc.unbroken_join

theorem reports_buildAll : ∀ descriptions : List (Description α),
    Reports (fun docs => ∀ d ∈ docs, d.Unbroken) (allTexts descriptions) (buildAll descriptions)
  | [] => .built rfl nofun
  | first :: others => (reports_build first).both (reports_buildAll others)
    fun _ _ first others => List.forall_mem_cons.mpr ⟨first, others⟩

end

/-- A description with a text that breaks the line is refused for the first such text in the order in
which they are written; any other description is built, to a document that passes the check. -/
theorem build_reports_first_break (description : Description α) :
    (∀ content, description.build = .error (.containsNewline content) ↔
      description.texts.find? breaksLine = some content) ∧
    ((∃ error, description.build = .error error) ↔
      ∃ content ∈ description.texts, breaksLine content = true) ∧
    ((∀ content ∈ description.texts, breaksLine content = false) →
      ∃ d, description.build = .ok d) ∧
    ∀ d, description.build = .ok d → d.validate = .ok () := by
  have reports := reports_build description
  generalize description.build = answer at reports
  cases reports with
  | @refused content found =>
    have breaks : breaksLine content = true := List.find?_some found
    have present := List.mem_of_find?_eq_some found
    refine ⟨?_, ?_, ?_, nofun⟩
    · simp [found]
    · exact ⟨fun _ => ⟨content, present, breaks⟩, fun _ => ⟨_, rfl⟩⟩
    · intro clean
      rw [clean content present] at breaks
      cases breaks
  | @built d clean unbroken =>
    refine ⟨?_, ?_, fun _ => ⟨d, rfl⟩, ?_⟩
    · simp [clean]
    · constructor
      · rintro ⟨error, refused⟩
        cases refused
      · rintro ⟨content, present, breaks⟩
        exact absurd breaks (List.find?_eq_none.mp clean content present)
    · rintro _ ⟨⟩
      exact Doc.validate_eq_ok_iff.mpr unbroken

example : (flatten (choice (text "a") (text "b\n")) : Description Unit).build =
    .error (.containsNewline "b\n") := by
  rfl

end LineLayout.Description
