import LineLayout.Doc.Basic
/-!
The structure of a document, written as nested constructor applications on one line.
-/
namespace LineLayout.Doc

variable {α : Type}

def describeAfter (annotate : α → String) : Doc α → String → String
  | empty, written => written ++ "Empty"
  | text content label, written =>
    let noted := match label with
      | none => "None"
      | some value => "Some(" ++ annotate value ++ ")"
    written ++ "Text(" ++ Text.quoted content ++ ", " ++ noted ++ ")"
  | concat left right, written =>
    right.describeAfter annotate (left.describeAfter annotate (written ++ "Concat(") ++ ", ") ++ ")"
  | newline, written => written ++ "Newline"
  | indent body, written => body.describeAfter annotate (written ++ "Indent(") ++ ")"
  | hang body, written => body.describeAfter annotate (written ++ "Hang(") ++ ")"
  | choice wide narrow, written =>
    narrow.describeAfter annotate
      (wide.describeAfter annotate (written ++ "Choice(") ++ ", ") ++ ")"

def describe (annotate : α → String) (d : Doc α) : String := d.describeAfter annotate ""

end LineLayout.Doc
