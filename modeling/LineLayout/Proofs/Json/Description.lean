import LineLayout.Proofs.Json.Tree
/-!
Styles and descriptions are read back from the JSON that is written for them.
-/
namespace LineLayout.Json

class LawfulCoded (α : Type) [Coded α] : Prop where
  decode?_encode (value : α) : Coded.decode? (Coded.encode value) = some value

instance : LawfulCoded Color where
  decode?_encode := Color.ofName?_name

instance : LawfulCoded Emphasis where
  decode?_encode _ := rfl

instance : LawfulCoded Style where
  decode?_encode style := by
    have color := LawfulCoded.decode?_encode style.color
    have emphasis := LawfulCoded.decode?_encode style.emphasis
    change (do return (⟨← Coded.decode? (Coded.encode style.color),
      ← Coded.decode? (Coded.encode style.emphasis), style.reversed⟩ : Style)) = some style
    rw [color, emphasis]
    rfl

variable {α : Type} [Coded α]

theorem decodeDescription?_body {name : String} (wrap : Description α → Description α)
    (known : (name, wrap) ∈
      [("Indent", .indent), ("Hang", .hang), ("Group", .group), ("Flatten", .flatten)])
    (body : Tree) :
    decodeDescription? (.object [(name, body)]) = (decodeDescription? body).map wrap := by
  simp only [List.mem_cons, List.not_mem_nil, or_false, Prod.mk.injEq] at known
  by_cases null : body = .null
  · -- Such an object stands for its name, and none of these names stands for a description.
    subst null
    obtain ⟨rfl, rfl⟩ | ⟨rfl, rfl⟩ | ⟨rfl, rfl⟩ | ⟨rfl, rfl⟩ := known <;> rfl
  · obtain ⟨rfl, rfl⟩ | ⟨rfl, rfl⟩ | ⟨rfl, rfl⟩ | ⟨rfl, rfl⟩ := known <;>
      rw [decodeDescription?] <;> exact null

mutual

theorem decodeDescription?_encodeDescription [LawfulCoded α] : ∀ description : Description α,
    decodeDescription? (encodeDescription description) = some description
  | .empty | .newline | .line | .softline => by
    simp [encodeDescription, decodeDescription?, Description.ofName?]
  | .text content => by
    simp [encodeDescription, decodeDescription?]
  | .styled content label => by
    have decoded := LawfulCoded.decode?_encode label
    rw [encodeDescription, decodeDescription?, decoded]
    rfl
  | .concat parts => by
    rw [encodeDescription, decodeDescription?, decodeDescriptions?_encodeDescriptions parts]
    rfl
  | .indent body => by
    rw [encodeDescription, decodeDescription?_body .indent (by simp),
      decodeDescription?_encodeDescription body]
    rfl
  | .hang body => by
    rw [encodeDescription, decodeDescription?_body .hang (by simp),
      decodeDescription?_encodeDescription body]
    rfl
  | .choice wide narrow => by
    rw [encodeDescription, decodeDescription?, decodeDescription?_encodeDescription wide,
      decodeDescription?_encodeDescription narrow]
    rfl
  | .group body => by
    rw [encodeDescription, decodeDescription?_body .group (by simp),
      decodeDescription?_encodeDescription body]
    rfl
  | .flatten body => by
    rw [encodeDescription, decodeDescription?_body .flatten (by simp),
      decodeDescription?_encodeDescription body]
    rfl
  | .join elements separator => by
    rw [encodeDescription, decodeDescription?, decodeDescriptions?_encodeDescriptions elements,
      decodeDescription?_encodeDescription separator]
    rfl

theorem decodeDescriptions?_encodeDescriptions [LawfulCoded α] :
    ∀ descriptions : List (Description α),
      decodeDescriptions? (encodeDescriptions descriptions) = some descriptions
  | [] => by rw [encodeDescriptions, decodeDescriptions?]
  | first :: others => by
    rw [encodeDescriptions, decodeDescriptions?, decodeDescription?_encodeDescription first,
      decodeDescriptions?_encodeDescriptions others]
    rfl

end

instance [LawfulCoded α] : LawfulCoded (Description α) where
  decode?_encode := decodeDescription?_encodeDescription

theorem read?_write [LawfulCoded α] (value : α) :
    read? (write value) =
      if (Coded.encode value).depth ≤ nestingLimit then some value else none := by
  rw [read?, write, Tree.ofText?_toText]
  by_cases fits : (Coded.encode value).depth ≤ nestingLimit
  · rw [if_pos fits, if_pos fits]
    exact LawfulCoded.decode?_encode value
  · rw [if_neg fits, if_neg fits]
    rfl

end LineLayout.Json
