/-!
Fragments: the pieces of a finished layout.
-/
namespace LineLayout

inductive Fragment (α : Type) where
  | text (content : String) (label : Option α)
  | newline (indentation : Nat)
  deriving DecidableEq, Repr

namespace Fragment

variable {α : Type}

def content : Fragment α → String
  | text content _ => content
  | newline indentation => "\n" ++ String.ofList (List.replicate indentation ' ')

def label : Fragment α → Option α
  | text _ label => label
  | newline _ => none

def columnAfter (column : Nat) : Fragment α → Nat
  | text content _ => column + content.length
  | newline indentation => indentation

def flat : Fragment α → Fragment α
  | text content label => text content label
  | newline _ => text " " none

def isNewline (fragment : Fragment α) : Bool := fragment.content.toList.head? == some '\n'

def isLineBreak : Fragment α → Bool
  | text _ _ => false
  | newline _ => true

def plainText (fragments : List (Fragment α)) : String :=
  fragments.foldl (fun shown fragment => shown ++ fragment.content) ""

/-- The number of characters after the last line break of the displayed text, or of all characters
if there is none. -/
def lastLineLength (fragments : List (Fragment α)) : Nat :=
  ((plainText fragments).toList.reverse.takeWhile (· ≠ '\n')).length

def textLines (fragments : List (Fragment α)) : List (List Char) :=
  (plainText fragments).toList.splitOn '\n'

/-- The lines of fragments: every line break starts a new one. -/
def lines : List (Fragment α) → List (List (Fragment α))
  | [] => [[]]
  | text content label :: later => (lines later).modifyHead (text content label :: ·)
  | newline indentation :: later => [] :: (lines later).modifyHead (newline indentation :: ·)

end Fragment

end LineLayout
