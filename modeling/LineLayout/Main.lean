import LineLayout.Command.Run
/-!
The command line program.
-/
namespace LineLayout

def FileError.ofIOError : IO.Error → FileError
  | .noFileOrDirectory .. => .notFound
  | .inappropriateType .. => .isDirectory
  | error => .other (toString error)

def openLogFile (path : String) : IO (Except FileError FileId) := do
  try
    IO.FS.withFile path .append fun _ => pure ()
    return .ok path
  catch error => return .error (FileError.ofIOError error)

def readInputFile (path : String) : IO (Except FileError ByteArray) := do
  try
    return .ok (← IO.FS.readBinFile path)
  catch error => return .error (FileError.ofIOError error)

/-- The answers to what one run asks, got in the order in which it asks. -/
def Command.World.around (options : Options) : IO World := do
  let opening ← options.log.mapM openLogFile
  let input ← readInputFile options.file
  return {
    files := .empty
    openFile := fun _ => opening.getD (.error .notFound)
    readFile := fun _ => input
    account := fun _ _ => none }

def flushLog (journal : Journal) : IO Unit := do
  let some path := journal.current | return
  try
    IO.FS.withFile path .append fun handle => handle.write (journal.files.content path)
  catch _ => return

end LineLayout

open LineLayout in
def main (arguments : List String) : IO UInt32 := do
  match Command.Options.ofArguments arguments with
  | .error .version =>
    IO.print Command.versionText
    return 0
  | .error .usage =>
    IO.eprintln "docprint: invalid arguments"
    return 2
  | .ok options =>
    let outcome := Command.run (← Command.World.around options) options
    flushLog outcome.journal
    IO.print outcome.output
    if let some complaint := outcome.complaint then IO.eprintln complaint
    return UInt32.ofNat outcome.status
