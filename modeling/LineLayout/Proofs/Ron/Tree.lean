import LineLayout.Proofs.Ron.Token
import LineLayout.Ron.Tree
/-!
RON trees are read back from the text that is written for them, however deep they nest.
-/
namespace LineLayout.Ron

def Tree.Sound (tree : Tree) : Prop := tree.tokens.all Token.isSound = true

theorem clear_elementTokens (elements : List Tree) {later : List Token} :
    Clear (Tree.elementTokens elements ++ later) := by
  intro token first
  cases elements <;> cases first <;> rfl

theorem clear_itemTokens (items : List (Option String × Tree)) {later : List Token} :
    Clear (Tree.itemTokens items ++ later) := by
  intro token first
  cases items with
  | nil =>
    cases first
    rfl
  | cons item others =>
    cases first
    rfl

theorem recovers_name {name : String} {mark : Token} {later : List Token}
    (recovers : scanner.Recovers Token.chars later) (isMark : mark.isMark = true)
    (sound : (Token.word false name).isSound = true) :
    scanner.Recovers Token.chars (.word false name :: mark :: later) := by
  refine recovers_cons (recovers_mark recovers isMark) ?_ sound
  intro token first
  cases first
  exact isMark

theorem recovers_keyTokens (key : Option String) {later : List Token}
    (recovers : scanner.Recovers Token.chars later)
    (sound : (Tree.keyTokens key).all Token.isSound = true) :
    scanner.Recovers Token.chars (Tree.keyTokens key ++ later) := by
  cases key with
  | none => exact recovers
  | some key =>
    simp only [Tree.keyTokens, List.all_cons, Bool.and_eq_true] at sound
    exact recovers_name recovers rfl sound.1

theorem recovers_openTokens (name : Option String) {later : List Token}
    (recovers : scanner.Recovers Token.chars later)
    (sound : (Tree.openTokens name).all Token.isSound = true) :
    scanner.Recovers Token.chars (Tree.openTokens name ++ later) := by
  cases name with
  | none => exact recovers_mark recovers rfl
  | some name =>
    simp only [Tree.openTokens, List.all_cons, Bool.and_eq_true] at sound
    exact recovers_name recovers rfl sound.1

mutual

theorem recovers_tokens : ∀ (tree : Tree) {later : List Token}, tree.Sound →
    scanner.Recovers Token.chars later → Clear later →
      scanner.Recovers Token.chars (tree.tokens ++ later)
  | .word raw letters, _, sound, recovers, clear => by
    simp only [Tree.Sound, Tree.tokens, List.all_cons, Bool.and_eq_true] at sound
    exact recovers_cons recovers clear sound.1
  | .text content, _, _, recovers, clear => recovers_cons recovers clear rfl
  | .list [], _, _, recovers, _ => recovers_mark (recovers_mark recovers rfl) rfl
  | .list (first :: others), _, sound, recovers, _ => by
    simp only [Tree.Sound, Tree.tokens, List.all_cons, List.all_append, Bool.and_eq_true] at sound
    have rest := recovers_elementTokens others sound.2.2 recovers
    have element := recovers_tokens first sound.2.1 rest (clear_elementTokens others)
    rw [Tree.tokens, List.cons_append, List.append_assoc]
    exact recovers_mark element rfl
  | .group name [], _, sound, recovers, _ => by
    simp only [Tree.Sound, Tree.tokens, List.all_append, Bool.and_eq_true] at sound
    rw [Tree.tokens, List.append_assoc]
    exact recovers_openTokens name (recovers_mark recovers rfl) sound.1
  | .group name ((key, value) :: others), _, sound, recovers, _ => by
    simp only [Tree.Sound, Tree.tokens, List.all_append, Bool.and_eq_true] at sound
    obtain ⟨⟨⟨soundName, soundKey⟩, soundValue⟩, soundOthers⟩ := sound
    have rest := recovers_itemTokens others soundOthers recovers
    have item := recovers_tokens value soundValue rest (clear_itemTokens others)
    rw [Tree.tokens, List.append_assoc, List.append_assoc, List.append_assoc]
    exact recovers_openTokens name (recovers_keyTokens key item soundKey) soundName

theorem recovers_elementTokens : ∀ (elements : List Tree) {later : List Token},
    (Tree.elementTokens elements).all Token.isSound = true →
    scanner.Recovers Token.chars later →
      scanner.Recovers Token.chars (Tree.elementTokens elements ++ later)
  | [], _, _, recovers => recovers_mark recovers rfl
  | first :: others, _, sound, recovers => by
    simp only [Tree.elementTokens, List.all_cons, List.all_append, Bool.and_eq_true] at sound
    have rest := recovers_elementTokens others sound.2.2 recovers
    have element := recovers_tokens first sound.2.1 rest (clear_elementTokens others)
    rw [Tree.elementTokens, List.cons_append, List.append_assoc]
    exact recovers_mark element rfl

theorem recovers_itemTokens : ∀ (items : List (Option String × Tree)) {later : List Token},
    (Tree.itemTokens items).all Token.isSound = true →
    scanner.Recovers Token.chars later →
      scanner.Recovers Token.chars (Tree.itemTokens items ++ later)
  | [], _, _, recovers => recovers_mark recovers rfl
  | (key, value) :: others, _, sound, recovers => by
    simp only [Tree.itemTokens, List.all_cons, List.all_append, Bool.and_eq_true] at sound
    obtain ⟨_, ⟨soundKey, soundValue⟩, soundOthers⟩ := sound
    have rest := recovers_itemTokens others soundOthers recovers
    have item := recovers_tokens value soundValue rest (clear_itemTokens others)
    rw [Tree.itemTokens, List.cons_append, List.append_assoc, List.append_assoc]
    exact recovers_mark (recovers_keyTokens key item soundKey) rfl

end

theorem tokens?_toText {tree : Tree} (sound : tree.Sound) :
    scanner.tokens? tree.toText.toList = some tree.tokens := by
  have clear : Clear [] := by simp [Clear]
  have recovers := recovers_tokens tree sound (Text.Scanner.recovers_nil rfl) clear
  rw [List.append_nil] at recovers
  rw [Tree.toText, Token.toText, String.toList_ofList]
  exact recovers

/-- Where a tree leads: a word might still be a key or the name of a group. -/
def reached (frames : List Frame) : Tree → Expect
  | .word raw letters => .afterWord raw letters frames
  | tree => .after tree frames

theorem readStep_reached (tree : Tree) (frames : List Frame) {token : Token}
    (notName : token ≠ .openParen) (notKey : token ≠ .colon) :
    readStep (reached frames tree) token = readStep (.after tree frames) token := by
  cases tree with
  | word raw letters =>
    have completed : readStep (.afterWord raw letters frames) token =
        continueAfter (.after (.word raw letters) frames) token := by
      cases token <;> first | rfl | contradiction
    rw [reached, completed]
    cases frames with
    | nil => rfl
    | cons frame frames => cases frame <;> rfl
  | _ => rfl

theorem foldlM_reached (tree : Tree) (frames : List Frame) {token : Token} (rest : List Token)
    (notName : token ≠ .openParen) (notKey : token ≠ .colon) :
    (token :: rest).foldlM readStep (reached frames tree) =
      (token :: rest).foldlM readStep (.after tree frames) := by
  rw [List.foldlM_cons, List.foldlM_cons, readStep_reached tree frames notName notKey]

theorem foldlM_elementTokens_reached (elements : List Tree) (tree : Tree) (frames : List Frame)
    (rest : List Token) :
    (Tree.elementTokens elements ++ rest).foldlM readStep (reached frames tree) =
      (Tree.elementTokens elements ++ rest).foldlM readStep (.after tree frames) := by
  cases elements <;> exact foldlM_reached tree frames _ nofun nofun

theorem foldlM_itemTokens_reached (items : List (Option String × Tree)) (tree : Tree)
    (frames : List Frame) (rest : List Token) :
    (Tree.itemTokens items ++ rest).foldlM readStep (reached frames tree) =
      (Tree.itemTokens items ++ rest).foldlM readStep (.after tree frames) := by
  cases items <;> exact foldlM_reached tree frames _ nofun nofun

theorem exists_tokens_eq_cons (tree : Tree) : ∃ token later, tree.tokens = token :: later ∧
    token ≠ .hash ∧ token ≠ .closeBracket ∧ token ≠ .closeParen := by
  fun_cases Tree.tokens tree with
  | case5 name => cases name <;> exact ⟨_, _, rfl, nofun, nofun, nofun⟩
  | case6 name => cases name <;> exact ⟨_, _, rfl, nofun, nofun, nofun⟩
  | _ => exact ⟨_, _, rfl, nofun, nofun, nofun⟩

theorem close_eq_none {token : Token} (notBracket : token ≠ .closeBracket)
    (notParen : token ≠ .closeParen) (frames : List Frame) : close frames token = none := by
  unfold close
  split <;> first | rfl | contradiction

theorem foldlM_item (tree : Tree) (frames : List Frame) (rest : List Token) :
    (tree.tokens ++ rest).foldlM readStep (.item frames) =
      (tree.tokens ++ rest).foldlM readStep (.value frames) := by
  obtain ⟨token, later, starts, _, notBracket, notParen⟩ := exists_tokens_eq_cons tree
  have same : readStep (.item frames) token = readStep (.value frames) token := by
    change (close frames token).or (startValue frames token) = startValue frames token
    rw [close_eq_none notBracket notParen]
    rfl
  rw [starts, List.cons_append, List.foldlM_cons, List.foldlM_cons, same]

theorem foldlM_openTokens (name : Option String) (frames : List Frame) (rest : List Token) :
    (Tree.openTokens name ++ rest).foldlM readStep (.value frames) =
      rest.foldlM readStep (.item (.group name [] none :: frames)) := by
  cases name <;> rfl

theorem foldlM_keyTokens (name : Option String) (before : List (Option String × Tree))
    (key : Option String) (value : Tree) (frames : List Frame) (rest : List Token) :
    (Tree.keyTokens key ++ (value.tokens ++ rest)).foldlM readStep
        (.item (.group name before none :: frames)) =
      (value.tokens ++ rest).foldlM readStep (.value (.group name before key :: frames)) := by
  cases key with
  | none => exact foldlM_item value _ rest
  | some key => rfl

mutual

/-- From where a value may come, the tokens of a tree lead behind it. -/
theorem foldlM_tokens : ∀ (tree : Tree) (frames : List Frame) (rest : List Token),
    (tree.tokens ++ rest).foldlM readStep (.value frames) =
      rest.foldlM readStep (reached frames tree)
  | .word _ _, _, _ | .text _, _, _ | .list [], _, _ => rfl
  | .list (first :: others), frames, rest => by
    have opened : readStep (.value frames) .openBracket = some (.item (.list [] :: frames)) := rfl
    rw [Tree.tokens, List.cons_append, List.foldlM_cons, opened, Option.bind_eq_bind,
      Option.bind_some, List.append_assoc, foldlM_item, foldlM_tokens first,
      foldlM_elementTokens_reached]
    exact foldlM_elementTokens others [first] frames rest
  | .group name [], frames, rest => by
    rw [Tree.tokens, List.append_assoc, foldlM_openTokens]
    rfl
  | .group name ((key, value) :: others), frames, rest => by
    rw [Tree.tokens, List.append_assoc, List.append_assoc, List.append_assoc, foldlM_openTokens,
      foldlM_keyTokens, foldlM_tokens value, foldlM_itemTokens_reached]
    exact foldlM_itemTokens others name [(key, value)] frames rest

theorem foldlM_elementTokens : ∀ (elements before : List Tree) (frames : List Frame)
    (rest : List Token),
    (Tree.elementTokens elements ++ rest).foldlM readStep (.more (.list before :: frames)) =
      rest.foldlM readStep (.after (.list (before.reverse ++ elements)) frames)
  | [], before, frames, rest => by
    rw [List.append_nil]
    rfl
  | first :: others, before, frames, rest => by
    have comma : readStep (.more (.list before :: frames)) .comma =
      some (.item (.list before :: frames)) := rfl
    have later := foldlM_elementTokens others (first :: before) frames rest
    rw [List.reverse_cons, List.append_assoc] at later
    rw [Tree.elementTokens, List.cons_append, List.foldlM_cons, comma, Option.bind_eq_bind,
      Option.bind_some, List.append_assoc, foldlM_item, foldlM_tokens first,
      foldlM_elementTokens_reached]
    exact later

theorem foldlM_itemTokens : ∀ (items : List (Option String × Tree)) (name : Option String)
    (before : List (Option String × Tree)) (frames : List Frame) (rest : List Token),
    (Tree.itemTokens items ++ rest).foldlM readStep (.more (.group name before none :: frames)) =
      rest.foldlM readStep (.after (.group name (before.reverse ++ items)) frames)
  | [], name, before, frames, rest => by
    rw [List.append_nil]
    rfl
  | (key, value) :: others, name, before, frames, rest => by
    have comma : readStep (.more (.group name before none :: frames)) .comma =
      some (.item (.group name before none :: frames)) := rfl
    have later := foldlM_itemTokens others name ((key, value) :: before) frames rest
    rw [List.reverse_cons, List.append_assoc] at later
    rw [Tree.itemTokens, List.cons_append, List.foldlM_cons, comma, Option.bind_eq_bind,
      Option.bind_some, List.append_assoc, List.append_assoc, foldlM_keyTokens,
      foldlM_tokens value, foldlM_itemTokens_reached]
    exact later

end

theorem skipExtensions_tokens (tree : Tree) : skipExtensions tree.tokens = some tree.tokens := by
  obtain ⟨token, later, starts, notHash, _⟩ := exists_tokens_eq_cons tree
  rw [starts, skipExtensions]
  rintro names ⟨⟩
  exact notHash rfl

theorem tree?_reached (tree : Tree) : (reached [] tree).tree? = some tree := by
  cases tree <;> rfl

theorem Tree.ofText?_toText {tree : Tree} (sound : tree.Sound) :
    Tree.ofText? tree.toText = some tree := by
  have run := foldlM_tokens tree [] []
  rw [List.append_nil] at run
  rw [Tree.ofText?, tokens?_toText sound]
  change (skipExtensions tree.tokens).bind Tree.ofTokens? = _
  rw [skipExtensions_tokens]
  change (tree.tokens.foldlM readStep (.value [])).bind Expect.tree? = _
  rw [run]
  exact tree?_reached tree

end LineLayout.Ron
