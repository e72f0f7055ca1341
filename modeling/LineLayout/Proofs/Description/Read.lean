import LineLayout.Description.Read
import LineLayout.Proofs.Json.Description
import LineLayout.Proofs.Ron.Description
/-!
Descriptions of styled documents are read back from both notations.
-/
namespace LineLayout.Description

variable {α : Type}

theorem readDoc_of_read? [Ron.Coded α] [Json.Coded α] {account : Account} {format : Format}
    {text : String} {fits : Prop} [Decidable fits] {description : Description α}
    (reads : read? format text = if fits then some description else none) :
    readDoc (α := α) account format text =
      if fits then description.build.mapError .invalid
      else .error (.malformed format (account format text)) := by
  rw [readDoc, reads]
  by_cases within : fits
  · rw [if_pos within, if_pos within]
    cases built : description.build <;> simp only [built] <;> rfl
  · rw [if_neg within, if_neg within]

/-- A written description is read back, and makes the same document or is refused for the same text
as the description itself, exactly if it keeps within the nesting limit of its notation. -/
theorem written_description_reads_back (account : Account) (description : Description Style) :
    (Json.read? (Json.write description) =
      if (Json.encodeDescription description).depth ≤ Json.nestingLimit then some description
      else none) ∧
    (readDoc (α := Style) account .json (Json.write description) =
      if (Json.encodeDescription description).depth ≤ Json.nestingLimit then
        description.build.mapError .invalid
      else .error (.malformed .json (account .json (Json.write description)))) ∧
    (Ron.read? (Ron.write description) =
      if Ron.levels Ron.styleLevels description ≤ Ron.nestingLimit then some description
      else none) ∧
    (readDoc (α := Style) account .ron (Ron.write description) =
      if Ron.levels Ron.styleLevels description ≤ Ron.nestingLimit then
        description.build.mapError .invalid
      else .error (.malformed .ron (account .ron (Ron.write description)))) := by
  have json := Json.read?_write description
  have ron := Ron.read?_write Ron.lawful_style description
  exact ⟨json, readDoc_of_read? json, ron, readDoc_of_read? ron⟩

example :
    Json.write (Description.concat [.styled "a\"\\\t\u0301" ({} : Style), .line]) =
      "\x7b\"Concat\":[\x7b\"Styled\":[\"a\\\"\\\\\\t\u0301\",\x7b\"color\":\"Base05\",\"emph\":" ++
        "\x7b\"bold\":false,\"underlined\":false\x7d,\"reversed\":false\x7d]\x7d,\"Line\"]\x7d" ∧
    Ron.write (Description.concat [.styled "a\"\\\t\u0301" ({} : Style), .line]) =
      "Concat([Styled(\"a\\\"\\\\\\t\\u\x7b301\x7d\",(color:Base05,emph:" ++
        "(bold:false,underlined:false),reversed:false)),Line])" := by
  decide +kernel

end LineLayout.Description
