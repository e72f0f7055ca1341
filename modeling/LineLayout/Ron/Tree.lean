import LineLayout.Ron.Token
/-!
Trees of RON, the tokens that write them, and the machine that reads them off tokens.
-/
namespace LineLayout.Ron

/-- A value: words are names and numbers; a group is everything between parentheses. -/
inductive Tree where
  | word (raw : Bool) (letters : String)
  | text (content : String)
  | list (elements : List Tree)
  | group (name : Option String) (items : List (Option String × Tree))
  deriving Repr, BEq

namespace Tree

def keyTokens : Option String → List Token
  | none => []
  | some key => [.word false key, .colon]

def openTokens : Option String → List Token
  | none => [.openParen]
  | some name => [.word false name, .openParen]

mutual

def tokens : Tree → List Token
  | word raw letters => [.word raw letters]
  | text content => [.text content]
  | list [] => [.openBracket, .closeBracket]
  | list (first :: others) => .openBracket :: (first.tokens ++ elementTokens others)
  | group name [] => openTokens name ++ [.closeParen]
  | group name ((key, value) :: others) =>
    openTokens name ++ keyTokens key ++ value.tokens ++ itemTokens others

def elementTokens : List Tree → List Token
  | [] => [.closeBracket]
  | element :: others => .comma :: (element.tokens ++ elementTokens others)

def itemTokens : List (Option String × Tree) → List Token
  | [] => [.closeParen]
  | (key, value) :: others => .comma :: (keyTokens key ++ value.tokens ++ itemTokens others)

end

def toText (tree : Tree) : String := Token.toText tree.tokens

end Tree

inductive Frame where
  | list (elements : List Tree)
  | group (name : Option String) (items : List (Option String × Tree)) (key : Option String)

inductive Expect where
  | value (frames : List Frame)
  | item (frames : List Frame)
  /-- A word was read, which may turn out to be a key or the name of a group. -/
  | afterWord (raw : Bool) (letters : String) (frames : List Frame)
  | more (frames : List Frame)
  | finished (tree : Tree)

def Expect.after (tree : Tree) : List Frame → Expect
  | [] => finished tree
  | .list elements :: frames => more (.list (tree :: elements) :: frames)
  | .group name items key :: frames => more (.group name ((key, tree) :: items) none :: frames)

def startValue (frames : List Frame) : Token → Option Expect
  | .word raw letters => some (.afterWord raw letters frames)
  | .text content => some (.after (.text content) frames)
  | .openBracket => some (.item (.list [] :: frames))
  | .openParen => some (.item (.group none [] none :: frames))
  | _ => none

def close : List Frame → Token → Option Expect
  | .list elements :: frames, .closeBracket => some (.after (.list elements.reverse) frames)
  | .group name items _ :: frames, .closeParen => some (.after (.group name items.reverse) frames)
  | _, _ => none

def continueAfter : Expect → Token → Option Expect
  | .more frames, .comma => some (.item frames)
  | .more frames, token => close frames token
  | _, _ => none

/-- One token; `none` if it cannot come here. A comma may come before the end of a list or group. -/
def readStep : Expect → Token → Option Expect
  | .value frames, token => startValue frames token
  | .item frames, token => (close frames token).or (startValue frames token)
  | .afterWord _ letters frames, .openParen =>
    some (.item (.group (some letters) [] none :: frames))
  | .afterWord _ letters (.group name items none :: frames), .colon =>
    some (.value (.group name items (some letters) :: frames))
  | .afterWord raw letters frames, token => continueAfter (.after (.word raw letters) frames) token
  | .more frames, token => continueAfter (.more frames) token
  | .finished _, _ => none

def Expect.tree? : Expect → Option Tree
  | finished tree => some tree
  | afterWord raw letters [] => some (.word raw letters)
  | _ => none

def Tree.ofTokens? (tokens : List Token) : Option Tree := do
  (← tokens.foldlM readStep (.value [])).tree?

/-- The language extensions that a text may switch on; none of them matters to what is read. -/
def extensions : List String := ["unwrap_newtypes", "implicit_some", "unwrap_variant_newtypes"]

def afterExtensions : List Token → Option (List Token)
  | .word _ name :: .comma :: .closeParen :: .closeBracket :: later
  | .word _ name :: .closeParen :: .closeBracket :: later =>
    if extensions.contains name then some later else none
  | .word _ name :: .comma :: later =>
    if extensions.contains name then afterExtensions later else none
  | _ => none

theorem afterExtensions_length {tokens later : List Token}
    (follows : afterExtensions tokens = some later) : later.length < tokens.length := by
  fun_induction afterExtensions tokens with
  | case1 name rest known =>
    cases follows
    simp only [List.length_cons]
    omega
  | case2 => cases follows
  | case3 name rest known =>
    cases follows
    simp only [List.length_cons]
    omega
  | case4 => cases follows
  | case5 =>
    rename_i ih
    have shorter := ih follows
    simp only [List.length_cons]
    omega
  | case6 => cases follows
  | case7 => cases follows

def skipExtensions (tokens : List Token) : Option (List Token) :=
  match tokens with
  | .hash :: .bang :: .openBracket :: .word false "enable" :: .openParen :: names =>
    match _follows : afterExtensions names with
    | some later => skipExtensions later
    | none => none
  | other => some other
termination_by tokens.length
decreasing_by
  have shorter := afterExtensions_length _follows
  simp only [List.length_cons]
  omega

def Tree.ofText? (text : String) : Option Tree := do
  Tree.ofTokens? (← skipExtensions (← scanner.tokens? text.toList))

end LineLayout.Ron
