import LineLayout.Description.Json
import LineLayout.Description.Ron
/-!
Reading documents from the text of their descriptions.
-/
namespace LineLayout.Description

inductive Format where
  | ron
  | json
  deriving DecidableEq, Repr

def Format.name : Format → String
  | ron => "Ron"
  | json => "Json"

/-- What the parser of a format says about a text that it refuses, if it says anything. -/
abbrev Account := Format → String → Option String

inductive Error where
  | malformed (format : Format) (account : Option String)
  | invalid (error : TextError)
  deriving DecidableEq, Repr

def withAccount (message : String) : Option String → String
  | none => message
  | some account => message ++ ": " ++ account

def Error.message : Error → String
  | malformed .ron account => withAccount "Invalid RON doc description" account
  | malformed .json account => withAccount "Invalid JSON doc description" account
  | invalid error => "Invalid doc: " ++ error.message

variable {α : Type}

def read? [Ron.Coded α] [Json.Coded α] (format : Format) (text : String) : Option α :=
  match format with
  | .ron => Ron.read? text
  | .json => Json.read? text

def readDoc [Ron.Coded α] [Json.Coded α] (account : Account) (format : Format) (text : String) :
    Except Error (Doc α) :=
  match read? (α := Description α) format text with
  | none => .error (.malformed format (account format text))
  | some description =>
    match description.build with
    | .ok d => .ok d
    | .error error => .error (.invalid error)

end LineLayout.Description
