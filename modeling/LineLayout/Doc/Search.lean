import LineLayout.Doc.Basic
import LineLayout.Total
/-!
Searching a document for its first leaf with a property, wide options before narrow ones. The
pending documents are a list, so the depth of a document does not matter.
-/
namespace LineLayout.Doc

variable {α β : Type}

def totalSize (docs : List (Doc α)) : Nat := total size docs

def findLeaf? (ask : Doc α → Option β) : List (Doc α) → Option β
  | [] => none
  | concat left right :: pending | choice left right :: pending =>
    findLeaf? ask (left :: right :: pending)
  | indent body :: pending | hang body :: pending => findLeaf? ask (body :: pending)
  | empty :: pending => (ask empty).or (findLeaf? ask pending)
  | newline :: pending => (ask newline).or (findLeaf? ask pending)
  | text content label :: pending =>
    (ask (text content label)).or (findLeaf? ask pending)
termination_by pending => totalSize pending
decreasing_by all_goals simp only [totalSize, total, size]; omega

/-- Whether no resolution of the choices displays anything: no text, not even an empty one, and no
line break. -/
def isEmpty (d : Doc α) : Bool :=
  (findLeaf? (fun leaf => if leaf matches empty then none else some ()) [d]).isNone

def validate (d : Doc α) : Except TextError Unit :=
  let offence : Doc α → Option TextError
    | text content _ => if breaksLine content then some (.containsNewline content) else none
    | _ => none
  match findLeaf? offence [d] with
  | some error => .error error
  | none => .ok ()

end LineLayout.Doc
