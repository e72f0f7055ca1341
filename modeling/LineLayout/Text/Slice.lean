/-!
Slices of text by the bytes of its UTF-8 form. A slice that would cut a character does not exist.
-/
namespace LineLayout.Text

def splitAtByte? : Nat → List Char → Option (List Char × List Char)
  | 0, text => some ([], text)
  | _ + 1, [] => none
  | bytes + 1, c :: later =>
    if bytes + 1 < c.utf8Size then none
    else (splitAtByte? (bytes + 1 - c.utf8Size) later).map fun (front, back) => (c :: front, back)

def slice? (text : List Char) (start length : Nat) : Option (List Char) := do
  let (_, later) ← splitAtByte? start text
  let (inside, _) ← splitAtByte? length later
  return inside

end LineLayout.Text
