import LineLayout.Command.Run
/-!
The stages of a run before its display, said without the run: what each of them takes up, and what
it can be refused for.
-/
namespace LineLayout.Command

/-- Whether the last part of a path ends with a dot and this extension. Slashes at the end are of no
part, and a part that starts with its only dot has no extension. -/
def HasExtension (path ending : String) : Prop :=
  ∃ parent stem slashes : List Char,
    path.toList = parent ++ (stem ++ '.' :: ending.toList) ++ slashes ∧
    (parent = [] ∨ parent.getLast? = some '/') ∧ stem ≠ [] ∧
    '/' ∉ stem ++ '.' :: ending.toList ∧ '.' ∉ ending.toList ∧ ∀ c ∈ slashes, c = '/'

/-- The format that is asked for, else JSON for exactly one extension and RON for all others. -/
def Selects (options : Options) (format : Description.Format) : Prop :=
  options.format = some format ∨
    options.format = none ∧ (format = .json ↔ HasExtension options.file "json")

def Opens (world : World) (options : Options) : Prop :=
  ∀ path, options.log = some path → ∃ file, world.openFile path = .ok file

/-- The log file opens, and then the input file gives this. -/
def Reads (world : World) (options : Options) (input : Except FileError ByteArray) : Prop :=
  Opens world options ∧ world.readFile options.file = input

def Loads (world : World) (options : Options) (d : Doc Style) : Prop :=
  ∃ bytes text format, ∃ description : Description Style,
    Reads world options (.ok bytes) ∧ String.fromUTF8? bytes = some text ∧
    Selects options format ∧ Description.read? format text = some description ∧
    description.build = .ok d

/-- A stage is refused after those before it succeeded. -/
inductive Refused (world : World) (options : Options) : Failure → Prop
  | logFile {path : String} {error : FileError} :
    options.log = some path → world.openFile path = .error error →
    Refused world options (.logFile path error)
  | unreadable {error : FileError} :
    Reads world options (.error error) → Refused world options (.read options.file error)
  | notText {bytes : ByteArray} :
    Reads world options (.ok bytes) → String.fromUTF8? bytes = none →
    Refused world options (.read options.file .notText)
  | malformed {bytes : ByteArray} {text : String} {format : Description.Format} :
    Reads world options (.ok bytes) → String.fromUTF8? bytes = some text →
    Selects options format → Description.read? (α := Description Style) format text = none →
    Refused world options (.source options.file (.malformed format (world.account format text)))
  | invalid {bytes : ByteArray} {text : String} {format : Description.Format}
      {description : Description Style} {error : TextError} :
    Reads world options (.ok bytes) → String.fromUTF8? bytes = some text →
    Selects options format → Description.read? format text = some description →
    description.build = .error error →
    Refused world options (.source options.file (.invalid error))

end LineLayout.Command
