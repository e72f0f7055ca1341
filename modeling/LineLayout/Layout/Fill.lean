import LineLayout.Doc.Flatten
/-!
Filling lines with words: each word goes onto the current line if it fits there.
-/
namespace LineLayout.Fill

def document (words : List String) : Doc Unit :=
  Doc.group (Doc.join (words.map fun word => .text word none) Doc.line)

def greedyFrom (width : Nat) : Nat → List String → String
  | _, [] => ""
  | length, word :: words =>
    if length + 1 + word.length ≤ width then
      " " ++ word ++ greedyFrom width (length + 1 + word.length) words
    else "\n" ++ word ++ greedyFrom width word.length words

/-- The words on lines of at most the width, except for words that are longer themselves. -/
def greedy (width : Nat) : List String → String
  | [] => ""
  | word :: words => word ++ greedyFrom width word.length words

def ofLines (lines : List (List String)) : String :=
  "\n".intercalate (lines.map fun line => " ".intercalate line)

def lineFeeds (text : String) : Nat := text.toList.count '\n'

def linesFrom (width : Nat) : List String → List String → List (List String)
  | line, [] => [line]
  | line, word :: words =>
    if (" ".intercalate line).length + 1 + word.length ≤ width then
      linesFrom width (line ++ [word]) words
    else line :: linesFrom width [word] words

def lines (width : Nat) : List String → List (List String)
  | [] => []
  | word :: words => linesFrom width [word] words

/-- Lines that hold the words in order. None of them is empty, and one beyond the width holds a
single word. -/
structure Fills (width : Nat) (words : List String) (lines : List (List String)) : Prop where
  words : lines.flatten = words
  nonempty : [] ∉ lines
  fits : ∀ line ∈ lines, line.length = 1 ∨ (" ".intercalate line).length ≤ width

end LineLayout.Fill
