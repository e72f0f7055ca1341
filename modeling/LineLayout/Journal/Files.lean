/-!
Files by identity: what each of them holds, and what an addition changes. Which file a path leads
to, if it leads to any, is for the world around the program to say.
-/
namespace LineLayout

inductive FileError where
  | notFound
  | isDirectory
  | notDirectory
  | nameTooLong
  | notText
  | other (message : String)
  deriving DecidableEq, Repr

def FileError.message : FileError → String
  | notFound => "No such file or directory (os error 2)"
  | isDirectory => "Is a directory (os error 21)"
  | notDirectory => "Not a directory (os error 20)"
  | nameTooLong => "File name too long (os error 36)"
  | notText => "stream did not contain valid UTF-8"
  | other message => message

/-- One name for every file, however many paths lead to it. -/
abbrev FileId := String

structure Files where
  entries : List (FileId × ByteArray)

namespace Files

def empty : Files := ⟨[]⟩

def get? (files : Files) (file : FileId) : Option ByteArray := files.entries.lookup file

def append (files : Files) (file : FileId) (text : String) : Files :=
  ⟨go files.entries⟩
where
  go : List (FileId × ByteArray) → List (FileId × ByteArray)
    | [] => [(file, text.toUTF8)]
    | (other, content) :: later =>
      if other = file then (other, content ++ text.toUTF8) :: later
      else (other, content) :: go later

def content (files : Files) (file : FileId) : ByteArray := (files.get? file).getD .empty

theorem get?_cons (file other : FileId) (bytes : ByteArray) (later : List (FileId × ByteArray)) :
    get? ⟨(file, bytes) :: later⟩ other = if other = file then some bytes else get? ⟨later⟩ other := by
  by_cases same : other = file
  · subst same
    rw [get?, List.lookup_cons_self, if_pos rfl]
  · have differ : (other == file) = false := by simpa using same
    rw [get?, List.lookup_cons, differ, if_neg same]
    rfl

theorem get?_append (files : Files) (file : FileId) (text : String) (other : FileId) :
    (files.append file text).get? other =
      if other = file then some (files.content file ++ text.toUTF8) else files.get? other := by
  obtain ⟨entries⟩ := files
  simp only [append, content]
  induction entries with
  | nil =>
    rw [append.go, get?_cons]
    split <;> simp [get?]
  | cons entry later ih =>
    obtain ⟨first, bytes⟩ := entry
    by_cases here : first = file
    · subst here
      rw [append.go, if_pos rfl]
      simp only [get?_cons, if_true, Option.getD_some]
      split <;> rfl
    · rw [append.go, if_neg here]
      simp only [get?_cons, if_neg (Ne.symm here), ih]
      by_cases found : other = first
      · subst found
        simp [here]
      · simp [found]

theorem isSome_get?_append {files : Files} (file : FileId) (text : String) {other : FileId}
    (there : (files.get? other).isSome) : ((files.append file text).get? other).isSome := by
  rw [get?_append]
  split
  · rfl
  · exact there

theorem content_append (files : Files) (file : FileId) (text : String) (other : FileId) :
    (files.append file text).content other =
      if other = file then files.content file ++ text.toUTF8 else files.content other := by
  unfold content
  rw [get?_append]
  split <;> rfl

end Files

end LineLayout
