import LineLayout.Description.Read
import LineLayout.Layout.Settings
import LineLayout.Word
/-!
The arguments of the command line.
-/
namespace LineLayout.Command

structure Options where
  file : String
  settings : Settings
  format : Option Description.Format
  color : Bool
  log : Option String
  verbosity : Nat
  deriving DecidableEq, Repr

structure Given where
  file : Option String := none
  width : Option Nat := none
  tabWidth : Option Nat := none
  format : Option Description.Format := none
  color : Bool := false
  log : Option String := none
  verbosity : Nat := 0
  deriving DecidableEq, Repr

inductive Stop where
  | usage
  | version
  deriving DecidableEq, Repr

inductive Valued where
  | width
  | tabWidth
  | format
  | log
  deriving DecidableEq, Repr

inductive Flag where
  | color
  | verbose
  | version
  deriving DecidableEq, Repr

def number? (written : String) : Option Nat :=
  let digits := match written.toList with
    | '+' :: digits => digits
    | digits => digits
  if digits.isEmpty || !digits.all Char.isDigit then none
  else word? (digits.foldl (fun value c => 10 * value + (c.toNat - '0'.toNat)) 0)

def path? (written : String) : Option String := if written.isEmpty then none else some written

def format? : String → Option Description.Format
  | "ron" => some .ron
  | "json" => some .json
  | _ => none

def fill {β : Type} (given : Option β) (read : String → Option β) (written : String) :
    Except Stop (Option β) :=
  match given, read written with
  | none, some value => .ok (some value)
  | _, _ => .error .usage

namespace Given

def setValue (given : Given) (option : Valued) (written : String) : Except Stop Given :=
  match option with
  | .width => do return { given with width := ← fill given.width number? written }
  | .tabWidth => do return { given with tabWidth := ← fill given.tabWidth number? written }
  | .format => do return { given with format := ← fill given.format format? written }
  | .log => do return { given with log := ← fill given.log path? written }

def setFlag (given : Given) : Flag → Except Stop Given
  | .color => if given.color then .error .usage else .ok { given with color := true }
  | .verbose => .ok { given with verbosity := given.verbosity + 1 }
  | .version => .error .version

def setFile (given : Given) (written : String) : Except Stop Given := do
  return { given with file := ← fill given.file path? written }

def options (given : Given) : Except Stop Options :=
  match given.file with
  | none => .error .usage
  | some file => .ok {
      file := file
      settings := ⟨given.width.getD 80, given.tabWidth.getD standardTabWidth⟩
      format := given.format
      color := given.color
      log := given.log
      verbosity := given.verbosity }

end Given

def longOption? : String → Option (Valued ⊕ Flag)
  | "width" => some (.inl .width)
  | "tab-width" => some (.inl .tabWidth)
  | "format" => some (.inl .format)
  | "log" => some (.inl .log)
  | "color" => some (.inr .color)
  | "verbose" => some (.inr .verbose)
  | "version" => some (.inr .version)
  | _ => none

def shortOption? : Char → Option (Valued ⊕ Flag)
  | 'w' => some (.inl .width)
  | 'v' => some (.inr .verbose)
  | 'V' => some (.inr .version)
  | _ => none

inductive Argument where
  /-- The name of a long option and what follows the equals sign, if there is one. -/
  | long (name : String) (value : Option String)
  /-- The letters behind a single dash. -/
  | short (letters : List Char)
  | plain (written : String)
  deriving DecidableEq, Repr

def Argument.of (written : String) : Argument :=
  match written.toList with
  | '-' :: '-' :: chars =>
    let name := chars.takeWhile (· ≠ '=')
    let value := match chars.dropWhile (· ≠ '=') with
      | '=' :: value => some (String.ofList value)
      | _ => none
    .long (String.ofList name) value
  | '-' :: c :: chars => .short (c :: chars)
  | _ => .plain written

def Given.setLetters (given : Given) : List Char → Except Stop (Given × Option Valued)
  | [] => .ok (given, none)
  | letter :: letters =>
    match shortOption? letter with
    | none => .error .usage
    | some (.inr flag) => do (← given.setFlag flag).setLetters letters
    | some (.inl option) =>
      match letters with
      | [] => .ok (given, some option)
      | '=' :: value => do return (← given.setValue option (String.ofList value), none)
      | value => do return (← given.setValue option (String.ofList value), none)

def Given.take (given : Given) : Argument → Except Stop (Given × Option Valued)
  | .plain written => do return (← given.setFile written, none)
  | .short letters => given.setLetters letters
  | .long name value =>
    match longOption? name, value with
    | some (.inl option), some written => do return (← given.setValue option written, none)
    | some (.inl option), none => .ok (given, some option)
    | some (.inr flag), none => do return (← given.setFlag flag, none)
    | _, _ => .error .usage

/-- Takes the arguments in order; `waiting` is an option whose value comes next. -/
def Given.takeAll (given : Given) (waiting : Option Valued) : List String → Except Stop Given
  | [] => if waiting.isSome then .error .usage else .ok given
  | written :: later =>
    match waiting, Argument.of written with
    | some option, .plain value => do (← given.setValue option value).takeAll none later
    | some _, _ => .error .usage
    | none, argument =>
      if written = "--" then later.foldlM setFile given
      else do
        let (next, stillWaiting) ← given.take argument
        next.takeAll stillWaiting later

def Options.ofArguments (arguments : List String) : Except Stop Options := do
  (← Given.takeAll {} none arguments).options

end LineLayout.Command
