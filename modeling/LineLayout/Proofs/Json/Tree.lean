import LineLayout.Description.Nesting
import LineLayout.Proofs.Json.Token
/-!
JSON trees are read back from the text that is written for them, as far as the nesting limit allows.
-/
namespace LineLayout.Json

theorem clear_elementTokens (elements : List Tree) {later : List Token} :
    Clear (Tree.elementTokens elements ++ later) := by
  intro token first
  cases elements <;> cases first <;> rfl

theorem clear_memberTokens (members : List (String × Tree)) {later : List Token} :
    Clear (Tree.memberTokens members ++ later) := by
  intro token first
  cases members <;> cases first <;> rfl

theorem recovers_key {key : String} {later : List Token}
    (recovers : scanner.Recovers Token.chars later) :
    scanner.Recovers Token.chars (.text key :: .colon :: later) := by
  have colon : scanner.Recovers Token.chars (.colon :: later) := recovers_mark recovers rfl
  refine recovers_cons colon ?_ (.text key)
  intro token first
  cases first
  rfl

mutual

theorem recovers_tokens : ∀ (tree : Tree) {later : List Token},
    scanner.Recovers Token.chars later → Clear later →
      scanner.Recovers Token.chars (tree.tokens ++ later)
  | .null, _, recovers, clear => recovers_cons recovers clear .null
  | .bool value, _, recovers, clear => recovers_cons recovers clear (.bool value)
  | .number value, _, recovers, clear => recovers_cons recovers clear (.number value)
  | .text content, _, recovers, clear => recovers_cons recovers clear (.text content)
  | .array [], _, recovers, _ => recovers_mark (recovers_mark recovers rfl) rfl
  | .array (first :: others), _, recovers, _ => by
    have rest := recovers_elementTokens others recovers
    have element := recovers_tokens first rest (clear_elementTokens others)
    rw [Tree.tokens, List.cons_append, List.append_assoc]
    exact recovers_mark element rfl
  | .object [], _, recovers, _ => recovers_mark (recovers_mark recovers rfl) rfl
  | .object ((key, value) :: others), _, recovers, _ => by
    have rest := recovers_memberTokens others recovers
    have member := recovers_tokens value rest (clear_memberTokens others)
    rw [Tree.tokens, List.cons_append, List.cons_append, List.cons_append, List.append_assoc]
    exact recovers_mark (recovers_key member) rfl

theorem recovers_elementTokens : ∀ (elements : List Tree) {later : List Token},
    scanner.Recovers Token.chars later →
      scanner.Recovers Token.chars (Tree.elementTokens elements ++ later)
  | [], _, recovers => recovers_mark recovers rfl
  | first :: others, _, recovers => by
    have rest := recovers_elementTokens others recovers
    have element := recovers_tokens first rest (clear_elementTokens others)
    rw [Tree.elementTokens, List.cons_append, List.append_assoc]
    exact recovers_mark element rfl

theorem recovers_memberTokens : ∀ (members : List (String × Tree)) {later : List Token},
    scanner.Recovers Token.chars later →
      scanner.Recovers Token.chars (Tree.memberTokens members ++ later)
  | [], _, recovers => recovers_mark recovers rfl
  | (key, value) :: others, _, recovers => by
    have rest := recovers_memberTokens others recovers
    have member := recovers_tokens value rest (clear_memberTokens others)
    rw [Tree.memberTokens, List.cons_append, List.cons_append, List.cons_append,
      List.append_assoc]
    exact recovers_mark (recovers_key member) rfl

end

theorem tokens?_toText (tree : Tree) : scanner.tokens? tree.toText.toList = some tree.tokens := by
  have clear : Clear [] := by simp [Clear]
  have recovers := recovers_tokens tree (Text.Scanner.recovers_nil rfl) clear
  rw [List.append_nil] at recovers
  rw [Tree.toText, Token.toText, String.toList_ofList]
  exact recovers

theorem foldlM_firstElement (tree : Tree) (frames : List Frame) (rest : List Token) :
    (tree.tokens ++ rest).foldlM readStep (.firstElement frames) =
      (tree.tokens ++ rest).foldlM readStep (.value (.array [] :: frames)) := by
  fun_cases Tree.tokens tree <;> rfl

theorem foldlM_openArray {frames : List Frame} (rest : List Token) :
    (Token.openArray :: rest).foldlM readStep (.value frames) =
      if frames.length < nestingLimit then rest.foldlM readStep (.firstElement frames) else none := by
  by_cases more : frames.length < nestingLimit <;> simp [readStep, startValue, more]

theorem foldlM_openObject {frames : List Frame} (rest : List Token) :
    (Token.openObject :: rest).foldlM readStep (.value frames) =
      if frames.length < nestingLimit then rest.foldlM readStep (.firstKey frames) else none := by
  by_cases more : frames.length < nestingLimit <;> simp [readStep, startValue, more]

theorem room_for_both {reached next last : Option Expect} {used depth later limit : Nat}
    (first : reached = if used + depth ≤ limit then next else none)
    (second : next = if used + later ≤ limit then last else none) :
    reached = if used + max depth later ≤ limit then last else none := by
  by_cases fits : used + depth ≤ limit
  · rw [first, if_pos fits, second]
    by_cases laterFits : used + later ≤ limit
    · rw [if_pos laterFits, if_pos (by omega)]
    · rw [if_neg laterFits, if_neg (by omega)]
  · rw [first, if_neg fits, if_neg (by omega)]

theorem room_inside {reached last : Option Expect} {used depth limit : Nat}
    (inside : used < limit → reached = if used + 1 + depth ≤ limit then last else none) :
    (if used < limit then reached else none) =
      if used + (depth + 1) ≤ limit then last else none := by
  have level : used + (depth + 1) = used + 1 + depth := by omega
  rw [level]
  by_cases more : used < limit
  · rw [if_pos more, inside more]
  · rw [if_neg more, if_neg (by omega)]

mutual

/-- From where a value may come, the tokens of a tree lead behind it if there is room for it. -/
theorem foldlM_tokens : ∀ (tree : Tree) (frames : List Frame) (rest : List Token),
    frames.length ≤ nestingLimit →
    (tree.tokens ++ rest).foldlM readStep (.value frames) =
      if frames.length + tree.depth ≤ nestingLimit then
        rest.foldlM readStep (.after tree frames) else none
  | .null, _, _, room | .bool _, _, _, room | .number _, _, _, room | .text _, _, _, room => by
    rw [Tree.depth, Nat.add_zero, if_pos room]
    rfl
  | .array [], _, _, _ => by
    rw [Tree.tokens, List.cons_append, foldlM_openArray]
    rfl
  | .array (first :: others), frames, rest, _ => by
    rw [Tree.tokens, List.cons_append, foldlM_openArray, List.append_assoc, foldlM_firstElement]
    apply room_inside
    intro more
    have inner := foldlM_tokens first (.array [] :: frames)
      (Tree.elementTokens others ++ rest) more
    exact room_for_both inner (foldlM_elementTokens others [first] rest more)
  | .object [], _, _, _ => by
    rw [Tree.tokens, List.cons_append, foldlM_openObject]
    rfl
  | .object ((key, value) :: others), frames, rest, _ => by
    rw [Tree.tokens, List.cons_append, foldlM_openObject]
    apply room_inside
    intro more
    have inner := foldlM_tokens value (.object [] key :: frames)
      (Tree.memberTokens others ++ rest) more
    rw [List.cons_append, List.cons_append, List.append_assoc]
    exact room_for_both inner (foldlM_memberTokens others [(key, value)] rest more)

theorem foldlM_elementTokens : ∀ (elements before : List Tree) {frames : List Frame}
    (rest : List Token), frames.length < nestingLimit →
    (Tree.elementTokens elements ++ rest).foldlM readStep (.moreElements before frames) =
      if frames.length + 1 + Tree.elementsDepth elements ≤ nestingLimit then
        rest.foldlM readStep (.after (.array (before.reverse ++ elements)) frames) else none
  | [], before, frames, rest, room => by
    have here : frames.length + 1 + Tree.elementsDepth [] ≤ nestingLimit := room
    rw [if_pos here, List.append_nil]
    rfl
  | first :: others, before, frames, rest, room => by
    have inner := foldlM_tokens first (.array before :: frames)
      (Tree.elementTokens others ++ rest) room
    have later := foldlM_elementTokens others (first :: before) rest room
    rw [List.reverse_cons, List.append_assoc] at later
    rw [Tree.elementTokens, List.cons_append, List.append_assoc]
    exact room_for_both inner later

theorem foldlM_memberTokens : ∀ (members before : List (String × Tree)) {frames : List Frame}
    (rest : List Token), frames.length < nestingLimit →
    (Tree.memberTokens members ++ rest).foldlM readStep (.moreMembers before frames) =
      if frames.length + 1 + Tree.membersDepth members ≤ nestingLimit then
        rest.foldlM readStep (.after (.object (before.reverse ++ members)) frames) else none
  | [], before, frames, rest, room => by
    have here : frames.length + 1 + Tree.membersDepth [] ≤ nestingLimit := room
    rw [if_pos here, List.append_nil]
    rfl
  | (key, value) :: others, before, frames, rest, room => by
    have inner := foldlM_tokens value (.object before key :: frames)
      (Tree.memberTokens others ++ rest) room
    have later := foldlM_memberTokens others ((key, value) :: before) rest room
    rw [List.reverse_cons, List.append_assoc] at later
    rw [Tree.memberTokens, List.cons_append, List.cons_append, List.cons_append,
      List.append_assoc]
    exact room_for_both inner later

end

/-- A tree is read back from its text exactly if it keeps within the nesting limit. -/
theorem Tree.ofText?_toText (tree : Tree) :
    Tree.ofText? tree.toText = if tree.depth ≤ nestingLimit then some tree else none := by
  have run := foldlM_tokens tree [] [] (Nat.zero_le nestingLimit)
  rw [List.append_nil, List.length_nil, Nat.zero_add] at run
  rw [Tree.ofText?, tokens?_toText]
  change (tree.tokens.foldlM readStep (.value [])).bind Expect.tree? = _
  rw [run]
  by_cases fits : tree.depth ≤ nestingLimit
  · rw [if_pos fits, if_pos fits]
    rfl
  · rw [if_neg fits, if_neg fits]
    rfl

end LineLayout.Json
