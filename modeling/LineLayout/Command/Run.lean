import LineLayout.Command.Arguments
import LineLayout.Journal.Directory
import LineLayout.Journal.Rendering
import LineLayout.Report
import LineLayout.Style.Terminal
/-!
A run of the command: reads a description and prints the document. What it prints is either the
whole document or nothing.
-/
namespace LineLayout

def Fault.message : Fault → String
  | overflow => "attempt to add with overflow"
  | capacity => "capacity overflow"
  | brokenLink => Report.defect "the look-ahead" (Report.Absence.nothing.message none)

namespace Command

inductive Failure where
  | read (path : String) (error : FileError)
  | logFile (path : String) (error : FileError)
  | source (path : String) (error : Description.Error)
  deriving DecidableEq, Repr

def Failure.message : Failure → String
  | read path error => "Could not read '" ++ path ++ "': " ++ error.message
  | logFile path error => "Could not open log file '" ++ path ++ "': " ++ error.message
  | source path error => "In '" ++ path ++ "': " ++ error.message

inductive Ending where
  | printed (output : String)
  | failed (failure : Failure)
  | stopped (fault : Fault)
  deriving DecidableEq, Repr

def fileName (path : String) : List Char :=
  (path.toList.reverse.dropWhile (· = '/')).takeWhile (· ≠ '/') |>.reverse

/-- What follows the last dot of a file name, unless the name starts with that dot. -/
def suffix? (name : List Char) : Option (List Char) :=
  let reversed := name.reverse
  match reversed.dropWhile (· ≠ '.') with
  | '.' :: _ :: _ => some (reversed.takeWhile (· ≠ '.')).reverse
  | _ => none

def guessFormat (path : String) : Description.Format :=
  if suffix? (fileName path) = some "json".toList then .json else .ron

def levelFor : Nat → Journal.Level
  | 0 => .warn
  | 1 => .debug
  | _ => .trace

def printedText (color : Bool) (fragments : List (Fragment Style)) : String :=
  if color then
    Terminal.write .defaultDark (StyledText.ofFragments (fun label => label.getD {}) fragments)
  else Fragment.plainText fragments

/-- What lies outside a run, and how it answers. -/
structure World where
  /-- What files hold before the run. -/
  files : Files
  /-- What opening the file at a path for additions comes to. -/
  openFile : String → Except FileError FileId
  /-- What the file at a path holds once the log file is open, or why it cannot be read. -/
  readFile : String → Except FileError ByteArray
  account : Description.Account

def print (world : World) (options : Options) (text : String) (journal : Journal) :
    Journal × Ending :=
  let format := options.format.getD (guessFormat options.file)
  let loading := journal.note .info
    ("Loading " ++ Text.quoted options.file ++ " as " ++ format.name)
  match Description.readDoc (α := Style) world.account format text with
  | .error error => (loading, .failed (.source options.file error))
  | .ok d =>
    match loading.render options.settings d with
    | (rendered, .ok fragments) =>
      (rendered, .printed (printedText options.color fragments ++ "\n"))
    | (rendered, .error fault) => (rendered, .stopped fault)

def load (world : World) (options : Options) (journal : Journal) : Journal × Ending :=
  match world.readFile options.file with
  | .error error => (journal, .failed (.read options.file error))
  | .ok bytes =>
    match String.fromUTF8? bytes with
    | none => (journal, .failed (.read options.file .notText))
    | some text => print world options text journal

def perform (world : World) (options : Options) : Journal × Ending :=
  let journal : Journal := { level := levelFor options.verbosity, files := world.files }
  match options.log with
  | none => load world options journal
  | some path =>
    match journal.redirect (world.openFile path) with
    | .error error => (journal, .failed (.logFile path error))
    | .ok opened => load world options opened

structure Outcome where
  status : Nat
  output : String
  complaint : Option String
  journal : Journal

def run (world : World) (options : Options) : Outcome :=
  match perform world options with
  | (journal, .printed output) => ⟨0, output, none, journal⟩
  | (journal, .failed failure) =>
    ⟨1, "", some ("docprint: " ++ failure.message), journal.note .error failure.message⟩
  | (journal, .stopped fault) => ⟨101, "", some fault.message, journal⟩

/-- The world of a run in a directory, where the log file may be the file that is read. -/
def worldIn (directory : Directory) (options : Options) : World where
  files := directory
  openFile := directory.openFile
  readFile :=
    match options.log.map directory.openFile with
    | some (.ok file) => Directory.read (directory.append file "")
    | _ => directory.read
  account _ _ := none

def runIn (directory : Directory) (options : Options) : Outcome :=
  run (worldIn directory options) options

def versionText : String := "docprint 0.1.0\n"

end Command

end LineLayout
