import LineLayout.Layout.Fragment
/-!
Styled text: displayed text cut into spans of one style each.
-/
namespace LineLayout

/-- A text in spans; the latest span comes first. -/
structure StyledText (σ : Type) where
  latestFirst : List (String × σ)
  deriving Repr

namespace StyledText

variable {α σ : Type}

def empty : StyledText σ := ⟨[]⟩

def spans (text : StyledText σ) : List (String × σ) := text.latestFirst.reverse

def isEmpty (text : StyledText σ) : Bool := text.latestFirst.isEmpty

def push [BEq σ] (text : StyledText σ) (content : String) (style : σ) : StyledText σ :=
  if content.isEmpty then text
  else match text with
    | ⟨[]⟩ => ⟨[(content, style)]⟩
    | ⟨(last, lastStyle) :: earlier⟩ =>
      if lastStyle == style then ⟨(last ++ content, lastStyle) :: earlier⟩
      else ⟨(content, style) :: (last, lastStyle) :: earlier⟩

def pushAll [BEq σ] (text : StyledText σ) (pieces : List (String × σ)) : StyledText σ :=
  pieces.foldl (fun text piece => text.push piece.1 piece.2) text

def ofFragments [BEq σ] (styleOf : Option α → σ) (fragments : List (Fragment α)) : StyledText σ :=
  fragments.foldl (fun text fragment => text.push fragment.content (styleOf fragment.label)) empty

def characters (pieces : List (String × σ)) : List (Char × σ) :=
  pieces.flatMap fun (content, style) => content.toList.map (·, style)

def display (text : StyledText σ) : String :=
  text.spans.foldl (fun shown span => shown ++ span.1) ""

end StyledText

end LineLayout
