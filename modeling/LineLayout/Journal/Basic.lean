import LineLayout.Journal.Files
/-!
The journal: what the program notes about its own work, for a reader who asks for it.
-/
namespace LineLayout

namespace Journal

inductive Level where
  | trace
  | debug
  | info
  | warn
  | error
  deriving DecidableEq, Repr

namespace Level

def rank : Level → Nat
  | trace => 0
  | debug => 1
  | info => 2
  | warn => 3
  | error => 4

def name : Level → String
  | trace => "Trace"
  | debug => "Debug"
  | info => "Info"
  | warn => "Warn"
  | error => "Error"

end Level

structure Entry where
  level : Level
  message : String
  deriving DecidableEq, Repr

def Entry.display (entry : Entry) : String :=
  let tag := "[" ++ entry.level.name ++ "]"
  tag ++ String.ofList (List.replicate (7 - tag.length) ' ') ++ " " ++ entry.message

def capacity : Nat := 1000

end Journal

structure Journal where
  level : Journal.Level := .warn
  /-- The newest entries, the oldest of them first. -/
  held : List Journal.Entry := []
  /-- The file that entries are also written to. -/
  current : Option FileId := none
  files : Files := .empty

namespace Journal

def setLevel (journal : Journal) (level : Level) : Journal := { journal with level := level }

def isEnabled (journal : Journal) (level : Level) : Bool := journal.level.rank ≤ level.rank

def push (journal : Journal) (entry : Entry) : Journal where
  level := journal.level
  held := (if journal.held.length = capacity then journal.held.tail else journal.held) ++ [entry]
  current := journal.current
  files := match journal.current with
    | none => journal.files
    | some file => journal.files.append file (entry.display ++ "\n")

def note (journal : Journal) (level : Level) (message : String) : Journal :=
  if journal.isEnabled level then journal.push ⟨level, message⟩ else journal

/-- Also writes to an open file from now on; opening it has made it if it was missing. -/
def writeTo (journal : Journal) (file : FileId) : Journal :=
  { journal with current := some file, files := journal.files.append file "" }

/-- Also writes to a file from now on, given what opening it came to. -/
def redirect (journal : Journal) (opening : Except FileError FileId) : Except FileError Journal :=
  opening.map journal.writeTo

def contents (journal : Journal) : String :=
  journal.held.foldl (fun written entry => written ++ entry.display ++ "\n") ""

end Journal

end LineLayout
