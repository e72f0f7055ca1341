import LineLayout.Json.Token
/-!
JSON trees, the tokens that write them, and the machine that reads them off tokens.
-/
namespace LineLayout.Json

/-- A JSON value whose numbers are natural; the members of an object keep their order. -/
inductive Tree where
  | null
  | bool (value : Bool)
  | number (value : Nat)
  | text (content : String)
  | array (elements : List Tree)
  | object (members : List (String × Tree))
  deriving Repr, BEq

namespace Tree

mutual

def tokens : Tree → List Token
  | null => [.null]
  | bool value => [.bool value]
  | number value => [.number value]
  | text content => [.text content]
  | array [] => [.openArray, .closeArray]
  | array (first :: others) => .openArray :: (first.tokens ++ elementTokens others)
  | object [] => [.openObject, .closeObject]
  | object ((key, value) :: others) =>
    .openObject :: .text key :: .colon :: (value.tokens ++ memberTokens others)

def elementTokens : List Tree → List Token
  | [] => [.closeArray]
  | element :: others => .comma :: (element.tokens ++ elementTokens others)

def memberTokens : List (String × Tree) → List Token
  | [] => [.closeObject]
  | (key, value) :: others =>
    .comma :: .text key :: .colon :: (value.tokens ++ memberTokens others)

end

def toText (tree : Tree) : String := Token.toText tree.tokens

end Tree

def nestingLimit : Nat := 127

inductive Frame where
  | array (elements : List Tree)
  | object (members : List (String × Tree)) (key : String)

inductive Expect where
  | value (frames : List Frame)
  | firstElement (frames : List Frame)
  | moreElements (elements : List Tree) (frames : List Frame)
  | firstKey (frames : List Frame)
  | nextKey (members : List (String × Tree)) (frames : List Frame)
  | colon (members : List (String × Tree)) (key : String) (frames : List Frame)
  | moreMembers (members : List (String × Tree)) (frames : List Frame)
  | finished (tree : Tree)

def Expect.after (tree : Tree) : List Frame → Expect
  | [] => finished tree
  | .array elements :: frames => moreElements (tree :: elements) frames
  | .object members key :: frames => moreMembers ((key, tree) :: members) frames

def startValue (frames : List Frame) : Token → Option Expect
  | .null => some (.after .null frames)
  | .bool value => some (.after (.bool value) frames)
  | .number value => some (.after (.number value) frames)
  | .text content => some (.after (.text content) frames)
  | .openArray => if frames.length < nestingLimit then some (.firstElement frames) else none
  | .openObject => if frames.length < nestingLimit then some (.firstKey frames) else none
  | _ => none

/-- One token; `none` if it cannot come here. -/
def readStep : Expect → Token → Option Expect
  | .value frames, token => startValue frames token
  | .firstElement frames, .closeArray => some (.after (.array []) frames)
  | .firstElement frames, token => startValue (.array [] :: frames) token
  | .moreElements elements frames, .comma => some (.value (.array elements :: frames))
  | .moreElements elements frames, .closeArray => some (.after (.array elements.reverse) frames)
  | .firstKey frames, .closeObject => some (.after (.object []) frames)
  | .firstKey frames, .text key => some (.colon [] key frames)
  | .nextKey members frames, .text key => some (.colon members key frames)
  | .colon members key frames, .colon => some (.value (.object members key :: frames))
  | .moreMembers members frames, .comma => some (.nextKey members frames)
  | .moreMembers members frames, .closeObject => some (.after (.object members.reverse) frames)
  | _, _ => none

def Expect.tree? : Expect → Option Tree
  | finished tree => some tree
  | _ => none

def Tree.ofTokens? (tokens : List Token) : Option Tree := do
  (← tokens.foldlM readStep (.value [])).tree?

def Tree.ofText? (text : String) : Option Tree := do
  Tree.ofTokens? (← scanner.tokens? text.toList)

end LineLayout.Json
