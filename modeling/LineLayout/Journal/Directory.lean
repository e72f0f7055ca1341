import LineLayout.Journal.Basic
/-!
Directories: files that are reached by paths. The identity of a file is its path from the working
directory, or from the root.
-/
namespace LineLayout

/-- The files that paths lead to. A folder is there as long as something is in it. -/
abbrev Directory := Files

namespace Directory

def longestName : Nat := 255

def longestPath : Nat := 4095

/-- The parts of a path that leads straight from the working directory; from the root, if the first
of them is empty. -/
abbrev Place := List String

def Place.file (place : Place) : FileId := "/".intercalate place

def Place.parent (place : Place) : Place :=
  if place = [""] then place
  else if place.all (· == "..") then ".." :: place
  else place.dropLast

def isFile (directory : Directory) (place : Place) : Bool := (directory.get? place.file).isSome

def isFolder (directory : Directory) (place : Place) : Bool :=
  place == [""] || place.all (· == "..") ||
    directory.entries.any fun (file, _) => place.isPrefixOf (file.splitOn "/").dropLast

def enter (directory : Directory) (place : Place) (part : String) : Except FileError Place :=
  if directory.isFile place then .error .notDirectory
  else if !directory.isFolder place then .error .notFound
  else if part = "" || part = "." then .ok place
  else if part = ".." then .ok place.parent
  else if longestName < part.utf8ByteSize then .error .nameTooLong
  else .ok (place ++ [part])

def follow (directory : Directory) (path : String) (parts : List String) : Except FileError Place :=
  if path = "" then .error .notFound
  else if longestPath < path.utf8ByteSize then .error .nameTooLong
  else parts.foldlM directory.enter (if path.startsWith "/" then [""] else [])

def read (directory : Directory) (path : String) : Except FileError ByteArray := do
  let place ← directory.follow path (path.splitOn "/")
  match directory.get? place.file with
  | some content => .ok content
  | none => .error (if directory.isFolder place then .isDirectory else .notFound)

/-- Opens the file at a path for additions, if need be a new one; with a slash behind it, a path
leads to no file. -/
def openFile (directory : Directory) (path : String) : Except FileError FileId := do
  let parts := path.splitOn "/"
  let named := (parts.reverse.dropWhile (· == "")).reverse
  let place ← directory.follow path named
  if directory.isFolder place || named.length < parts.length then .error .isDirectory
  else .ok place.file

end Directory

def Journal.directory (journal : Journal) : Directory := journal.files

def Journal.setFile (journal : Journal) (path : String) : Except FileError Journal :=
  journal.redirect (journal.directory.openFile path)

end LineLayout
