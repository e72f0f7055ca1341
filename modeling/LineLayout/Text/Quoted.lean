import LineLayout.Text.Hidden
/-!
Quoted text: a text between double quotes, with every character that could be misread escaped.
-/
namespace LineLayout.Text

/-- How one character is written between quotes; those of `marks` take a backslash. -/
def escapeChar (marks : List Char) (c : Char) : List Char :=
  if marks.contains c then ['\\', c]
  else match c with
    | '\x00' => ['\\', '0']
    | '\t' => ['\\', 't']
    | '\r' => ['\\', 'r']
    | '\n' => ['\\', 'n']
    | c => if isHidden c then ['\\', 'u', '\x7b'] ++ Nat.toDigits 16 c.toNat ++ ['\x7d'] else [c]

def quotedWith (marks : List Char) (content : String) : String :=
  String.ofList ('"' :: content.toList.flatMap (escapeChar marks) ++ ['"'])

def quoted (content : String) : String := quotedWith ['"', '\\'] content

end LineLayout.Text
