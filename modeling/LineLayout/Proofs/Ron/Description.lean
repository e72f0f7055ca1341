import LineLayout.Description.Nesting
import LineLayout.Proofs.Ron.Tree
/-!
Styles and descriptions are read back from the RON that is written for them.
-/
namespace LineLayout.Ron

section Sound

theorem all_elementTokens (elements : List Tree) :
    (Tree.elementTokens elements).all Token.isSound = true ↔ ∀ tree ∈ elements, tree.Sound := by
  induction elements with
  | nil => exact iff_of_true rfl nofun
  | cons first others ih =>
    simp only [Tree.elementTokens, List.all_cons, List.all_append, Bool.and_eq_true, ih,
      List.forall_mem_cons]
    exact and_iff_right rfl

theorem all_itemTokens (items : List (Option String × Tree)) :
    (Tree.itemTokens items).all Token.isSound = true ↔
      ∀ item ∈ items, (Tree.keyTokens item.1).all Token.isSound = true ∧ item.2.Sound := by
  induction items with
  | nil => exact iff_of_true rfl nofun
  | cons item others ih =>
    simp only [Tree.itemTokens, List.all_cons, List.all_append, Bool.and_eq_true, ih,
      List.forall_mem_cons]
    exact and_iff_right rfl

theorem Tree.sound_list {elements : List Tree} (sound : ∀ tree ∈ elements, tree.Sound) :
    (Tree.list elements).Sound := by
  cases elements with
  | nil => rfl
  | cons first others =>
    rw [List.forall_mem_cons, ← all_elementTokens] at sound
    simp only [Tree.Sound, Tree.tokens, List.all_cons, List.all_append, Bool.and_eq_true]
    exact ⟨rfl, sound⟩

theorem Tree.sound_group {name : Option String} {items : List (Option String × Tree)}
    (soundName : (Tree.openTokens name).all Token.isSound = true)
    (sound : ∀ item ∈ items, (Tree.keyTokens item.1).all Token.isSound = true ∧ item.2.Sound) :
    (Tree.group name items).Sound := by
  cases items with
  | nil =>
    simp only [Tree.Sound, Tree.tokens, List.all_append, Bool.and_eq_true]
    exact ⟨soundName, rfl⟩
  | cons item others =>
    rw [List.forall_mem_cons, ← all_itemTokens] at sound
    simp only [Tree.Sound, Tree.tokens, List.all_append, Bool.and_eq_true]
    exact ⟨⟨⟨soundName, sound.1.1⟩, sound.1.2⟩, sound.2⟩

theorem sound_applied {name : String} (soundName : (Token.word false name).isSound = true)
    {arguments : List Tree} (sound : ∀ tree ∈ arguments, tree.Sound) :
    (applied name arguments).Sound := by
  apply Tree.sound_group
  · simp only [Tree.openTokens, List.all_cons, Bool.and_eq_true]
    exact ⟨soundName, rfl, rfl⟩
  · intro item member
    obtain ⟨tree, among, rfl⟩ := List.mem_map.mp member
    exact ⟨rfl, sound tree among⟩

theorem sound_encodeFields {fields : List (String × Tree)}
    (sound : ∀ field ∈ fields, (Token.word false field.1).isSound = true ∧ field.2.Sound) :
    (encodeFields fields).Sound := by
  apply Tree.sound_group
  · rfl
  · intro item member
    obtain ⟨field, among, rfl⟩ := List.mem_map.mp member
    obtain ⟨soundKey, soundValue⟩ := sound field among
    simp only [Tree.keyTokens, List.all_cons, Bool.and_eq_true]
    exact ⟨⟨soundKey, rfl, rfl⟩, soundValue⟩

end Sound

/-- Whatever is encoded can be written, and is decoded to itself within a budget exactly if that has
so many levels. -/
structure Lawful (α : Type) [Coded α] (levels : Nat) : Prop where
  sound (value : α) : (Coded.encode value).Sound
  decode?_encode (budget : Nat) (value : α) :
    Coded.decode? budget (Coded.encode value) = if levels ≤ budget then some value else none

theorem lawful_bool : Lawful Bool 0 where
  sound value := by cases value <;> rfl
  decode?_encode _ value := by cases value <;> rfl

theorem lawful_color : Lawful Color 2 where
  sound color := by cases color <;> rfl
  decode?_encode budget color := by
    match budget with
    | 0 | 1 => rfl
    | budget + 2 =>
      rw [if_pos (by omega)]
      exact Color.ofName?_name color

theorem lawful_emphasis : Lawful Emphasis 2 where
  sound emphasis := by
    apply sound_encodeFields
    simp only [List.forall_mem_cons]
    exact ⟨⟨rfl, lawful_bool.sound _⟩, ⟨rfl, lawful_bool.sound _⟩, nofun⟩
  decode?_encode budget emphasis := by
    match budget with
    | 0 | 1 => rfl
    | budget + 2 =>
      have bold := lawful_bool.decode?_encode budget emphasis.bold
      have underlined := lawful_bool.decode?_encode budget emphasis.underlined
      rw [if_pos (by omega)] at bold underlined ⊢
      change (do return (⟨← Coded.decode? budget (Coded.encode emphasis.bold),
        ← Coded.decode? budget (Coded.encode emphasis.underlined)⟩ : Emphasis)) = some emphasis
      rw [bold, underlined]
      rfl

theorem lawful_style : Lawful Style styleLevels where
  sound style := by
    apply sound_encodeFields
    simp only [List.forall_mem_cons]
    exact ⟨⟨rfl, lawful_color.sound _⟩, ⟨rfl, lawful_emphasis.sound _⟩,
      ⟨rfl, lawful_bool.sound _⟩, nofun⟩
  decode?_encode budget style := by
    match budget with
    | 0 | 1 => rfl
    | budget + 2 =>
      have color := lawful_color.decode?_encode budget style.color
      have emphasis := lawful_emphasis.decode?_encode budget style.emphasis
      have reversed := lawful_bool.decode?_encode budget style.reversed
      have levels : styleLevels = 2 + 2 := rfl
      change (do return (⟨← Coded.decode? budget (Coded.encode style.color),
        ← Coded.decode? budget (Coded.encode style.emphasis),
        ← Coded.decode? budget (Coded.encode style.reversed)⟩ : Style)) = _
      rw [color, emphasis, reversed, levels]
      by_cases enough : 2 ≤ budget <;> simp [enough]

theorem budget_for_both {β γ δ : Type} (make : β → γ → δ) {left : β} {right : γ}
    {readLeft : Option β} {readRight : Option γ}
    {neededLeft neededRight needed budgetLeft budgetRight budget : Nat}
    (decodedLeft : readLeft = if neededLeft ≤ budgetLeft then some left else none)
    (decodedRight : readRight = if neededRight ≤ budgetRight then some right else none)
    (both : needed ≤ budget ↔ neededLeft ≤ budgetLeft ∧ neededRight ≤ budgetRight) :
    (do return make (← readLeft) (← readRight)) =
      if needed ≤ budget then some (make left right) else none := by
  rw [decodedLeft, decodedRight]
  by_cases enoughLeft : neededLeft ≤ budgetLeft <;>
    by_cases enoughRight : neededRight ≤ budgetRight <;>
      simp [both, enoughLeft, enoughRight]

section Description

variable {α : Type} [Coded α] {labelLevels : Nat}

theorem decodeDescription?_body {name : String} (wrap : Description α → Description α)
    (known : (name, wrap) ∈
      [("Indent", .indent), ("Hang", .hang), ("Group", .group), ("Flatten", .flatten)])
    (budget : Nat) (body : Tree) :
    decodeDescription? (budget + 2) (applied name [body]) =
      (decodeDescription? budget body).map wrap := by
  simp only [List.mem_cons, List.not_mem_nil, or_false, Prod.mk.injEq] at known
  obtain ⟨rfl, rfl⟩ | ⟨rfl, rfl⟩ | ⟨rfl, rfl⟩ | ⟨rfl, rfl⟩ := known <;>
    simp [applied, decodeDescription?]

theorem decodeDescription?_encode_body {name : String} {wrap : Description α → Description α}
    (known : (name, wrap) ∈
      [("Indent", .indent), ("Hang", .hang), ("Group", .group), ("Flatten", .flatten)])
    {body : Description α} {needed : Nat}
    (decoded : ∀ budget, decodeDescription? budget (encodeDescription body) =
      if needed ≤ budget then some body else none) (budget : Nat) :
    decodeDescription? budget (applied name [encodeDescription body]) =
      if needed + 2 ≤ budget then some (wrap body) else none := by
  match budget with
  | 0 | 1 => simp [applied, decodeDescription?]
  | budget + 2 =>
    rw [decodeDescription?_body wrap known, decoded budget]
    by_cases enough : needed ≤ budget <;> simp [enough]

mutual

theorem decodeDescription?_encodeDescription (lawful : Lawful α labelLevels) :
    ∀ (description : Description α) (budget : Nat),
      decodeDescription? budget (encodeDescription description) =
        if levels labelLevels description ≤ budget then some description else none
  | .empty, budget | .newline, budget | .line, budget | .softline, budget => by
    match budget with
    | 0 | 1 => simp [encodeDescription, decodeDescription?, levels]
    | budget + 2 => simp [encodeDescription, decodeDescription?, levels, Description.ofName?]
  | .text content, budget => by
    match budget with
    | 0 | 1 => simp [encodeDescription, applied, decodeDescription?, levels]
    | budget + 2 => simp [encodeDescription, applied, decodeDescription?, levels]
  | .styled content label, budget => by
    match budget with
    | 0 | 1 | 2 => simp [encodeDescription, applied, decodeDescription?, levels]
    | budget + 3 =>
      have decoded := lawful.decode?_encode budget label
      simp only [encodeDescription, applied, List.map, decodeDescription?, decoded, levels]
      by_cases enough : labelLevels ≤ budget <;> simp [enough]
  | .concat parts, budget => by
    match budget with
    | 0 | 1 | 2 => simp [encodeDescription, applied, decodeDescription?, levels]
    | budget + 3 =>
      have decoded := decodeDescriptions?_encodeDescriptions lawful parts budget
      simp only [encodeDescription, applied, List.map, decodeDescription?, decoded, levels]
      by_cases enough : levelsOfAll labelLevels parts ≤ budget <;> simp [enough]
  | .indent body, budget =>
    decodeDescription?_encode_body (by simp) (decodeDescription?_encodeDescription lawful body)
      budget
  | .hang body, budget =>
    decodeDescription?_encode_body (by simp) (decodeDescription?_encodeDescription lawful body)
      budget
  | .group body, budget =>
    decodeDescription?_encode_body (by simp) (decodeDescription?_encodeDescription lawful body)
      budget
  | .flatten body, budget =>
    decodeDescription?_encode_body (by simp) (decodeDescription?_encodeDescription lawful body)
      budget
  | .choice wide narrow, budget => by
    match budget with
    | 0 | 1 | 2 => simp [encodeDescription, applied, decodeDescription?, levels]
    | budget + 3 =>
      have decodedWide := decodeDescription?_encodeDescription lawful wide budget
      have decodedNarrow := decodeDescription?_encodeDescription lawful narrow budget
      simp only [encodeDescription, applied, List.map, decodeDescription?, levels]
      refine budget_for_both Description.choice decodedWide decodedNarrow ?_
      omega
  | .join elements separator, budget => by
    match budget with
    | 0 | 1 | 2 | 3 =>
      rw [if_neg (by rw [levels]; omega)]
      simp [encodeDescription, decodeDescription?]
    | budget + 4 =>
      have decoded := decodeDescriptions?_encodeDescriptions lawful elements budget
      have decodedSeparator := decodeDescription?_encodeDescription lawful separator (budget + 1)
      simp only [encodeDescription, decodeDescription?, levels]
      refine budget_for_both Description.join decoded decodedSeparator ?_
      omega

theorem decodeDescriptions?_encodeDescriptions (lawful : Lawful α labelLevels) :
    ∀ (descriptions : List (Description α)) (budget : Nat),
      decodeDescriptions? budget (encodeDescriptions descriptions) =
        if levelsOfAll labelLevels descriptions ≤ budget then some descriptions else none
  | [], budget => by simp [encodeDescriptions, decodeDescriptions?, levelsOfAll]
  | first :: others, 0 => by simp [encodeDescriptions, decodeDescriptions?, levelsOfAll]
  | first :: others, budget + 1 => by
    have decoded := decodeDescription?_encodeDescription lawful first budget
    have decodedOthers := decodeDescriptions?_encodeDescriptions lawful others (budget + 1)
    simp only [encodeDescriptions, decodeDescriptions?, levelsOfAll]
    refine budget_for_both List.cons decoded decodedOthers ?_
    omega

end

mutual

theorem sound_encodeDescription (lawful : Lawful α labelLevels) : ∀ description : Description α,
    (encodeDescription description).Sound
  | .empty | .newline | .line | .softline => rfl
  | .text content => sound_applied rfl (List.forall_mem_singleton.mpr rfl)
  | .styled content label => by
    apply sound_applied rfl
    simp only [List.forall_mem_cons]
    exact ⟨rfl, lawful.sound label, nofun⟩
  | .concat parts =>
    sound_applied rfl (List.forall_mem_singleton.mpr
      (Tree.sound_list (sound_encodeDescriptions lawful parts)))
  | .indent body | .hang body | .group body | .flatten body =>
    sound_applied rfl (List.forall_mem_singleton.mpr (sound_encodeDescription lawful body))
  | .choice wide narrow => by
    apply sound_applied rfl
    simp only [List.forall_mem_cons]
    exact ⟨sound_encodeDescription lawful wide, sound_encodeDescription lawful narrow, nofun⟩
  | .join elements separator => by
    apply Tree.sound_group rfl
    simp only [List.forall_mem_cons]
    exact ⟨⟨rfl, Tree.sound_list (sound_encodeDescriptions lawful elements)⟩,
      ⟨rfl, sound_encodeDescription lawful separator⟩, nofun⟩

theorem sound_encodeDescriptions (lawful : Lawful α labelLevels) :
    ∀ descriptions : List (Description α),
      ∀ tree ∈ encodeDescriptions descriptions, tree.Sound
  | [] => nofun
  | first :: others =>
    List.forall_mem_cons.mpr
      ⟨sound_encodeDescription lawful first, sound_encodeDescriptions lawful others⟩

end

theorem read?_write (lawful : Lawful α labelLevels) (description : Description α) :
    read? (write description) =
      if levels labelLevels description ≤ nestingLimit then some description else none := by
  have written : Tree.ofText? (write description) = some (encodeDescription description) :=
    Tree.ofText?_toText (sound_encodeDescription lawful description)
  rw [read?, written]
  exact decodeDescription?_encodeDescription lawful description nestingLimit

end Description

end LineLayout.Ron
