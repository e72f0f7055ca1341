import LineLayout.Text.Quoted
/-!
Documents: what a piece of text says, together with the ways in which it may be broken into lines.
-/
namespace LineLayout

inductive Doc (α : Type) where
  | empty
  /-- A piece of text, meant to hold no line break. -/
  | text (content : String) (label : Option α)
  | concat (left right : Doc α)
  | newline
  /-- The body, one tab deeper. -/
  | indent (body : Doc α)
  /-- The body, indented to the column at which it starts. -/
  | hang (body : Doc α)
  /-- The wide option where the line it starts can fit, the narrow option elsewhere. -/
  | choice (wide narrow : Doc α)
  deriving Repr, Inhabited

inductive TextError where
  | containsNewline (content : String)
  deriving DecidableEq, Repr

def TextError.message : TextError → String
  | containsNewline content => "Text may not contain a newline: " ++ Text.quoted content

def breaksLine (content : String) : Bool := content.toList.contains '\n'

namespace Doc

variable {α : Type}

def size : Doc α → Nat
  | empty | text _ _ | newline => 1
  | concat left right | choice left right => left.size + right.size + 1
  | indent body | hang body => body.size + 1

def piece? (content : String) (label : Option α) : Except TextError (Doc α) :=
  if breaksLine content then .error (.containsNewline content) else .ok (text content label)

def space : Doc α := text " " none

def line : Doc α := choice space newline

def softline : Doc α := choice empty newline

def sum : List (Doc α) → Doc α
  | [] => empty
  | first :: others => others.foldl concat first

def join (elements : List (Doc α)) (separator : Doc α) : Doc α :=
  match elements with
  | [] => empty
  | first :: others =>
    others.foldl (fun built element => concat built (concat separator element)) first

theorem join_eq_sum (first separator : Doc α) (others : List (Doc α)) :
    join (first :: others) separator = sum (first :: others.map (concat separator)) := by
  rw [join, sum, List.foldl_map]

end Doc

end LineLayout
