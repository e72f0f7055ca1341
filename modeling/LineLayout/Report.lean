/-!
Reports of what should never happen: a value that had to be there is missing.
-/
namespace LineLayout.Report

inductive Absence where
  | nothing
  | failure (why : String)
  deriving DecidableEq, Repr

def Absence.message (note : Option String) : Absence → String
  | nothing => note.getD "Tried to unwrap a `None` value"
  | failure why =>
    match note with
    | none => why
    | some text => text ++ "\n" ++ why

/-- Cuts text after every line feed; a carriage return in front of it belongs to the line's end, and
no empty line follows the last one. The current line comes reversed. -/
def linesFrom (current : List Char) : List Char → List (List Char)
  | [] => if current.isEmpty then [] else [current.reverse]
  | '\n' :: later =>
    let line := match current with
      | '\r' :: before => before
      | other => other
    line.reverse :: linesFrom [] later
  | c :: later => linesFrom (c :: current) later

def lines (message : String) : List String := (linesFrom [] message.toList).map String.ofList

def defect (location message : String) : String :=
  "\n*** Bug in docprint.\n*** Location:\n***   " ++ location ++ "\n*** Error message:" ++
    String.join ((lines message).map ("\n***   " ++ ·)) ++ "\n"

end LineLayout.Report
