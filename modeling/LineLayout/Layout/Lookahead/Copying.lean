import LineLayout.Layout.Lookahead.Run
/-!
The look-ahead without links: every choice keeps a copy of what is still to be displayed.
-/
namespace LineLayout.Copying

variable {α : Type}

structure Point (α : Type) where
  column : Nat
  entries : List (Entry α)
  decisions : List Bool

abbrev Branches (α : Type) := List (Point α)

def work (branches : Branches α) : Nat :=
  total (fun point => Lookahead.entriesWork point.entries) branches

/-- The decisions on the first branch that ends the line within the width. -/
def search (width tabWidth : Nat) : Branches α → Except Fault (Option (List Bool))
  | [] => .ok none
  | ⟨column, entries, decisions⟩ :: others =>
    if width < column then search width tabWidth others
    else match entries with
      | [] => .ok (some decisions)
      | ⟨_, .newline⟩ :: _ => .ok (some decisions)
      | ⟨_, .empty⟩ :: later => search width tabWidth (⟨column, later, decisions⟩ :: others)
      | ⟨_, .text content _⟩ :: later =>
        match addColumns column content.length with
        | .ok next => search width tabWidth (⟨next, later, decisions⟩ :: others)
        | .error fault => .error fault
      | ⟨indentation, .concat left right⟩ :: later =>
        search width tabWidth
          (⟨column, ⟨indentation, left⟩ :: ⟨indentation, right⟩ :: later, decisions⟩ :: others)
      | ⟨indentation, .indent body⟩ :: later =>
        match addColumns indentation tabWidth with
        | .ok deeper =>
          search width tabWidth (⟨column, ⟨deeper, body⟩ :: later, decisions⟩ :: others)
        | .error fault => .error fault
      | ⟨_, .hang body⟩ :: later =>
        search width tabWidth (⟨column, ⟨column, body⟩ :: later, decisions⟩ :: others)
      | ⟨indentation, .choice wide narrow⟩ :: later =>
        search width tabWidth
          (⟨column, ⟨indentation, wide⟩ :: later, decisions ++ [true]⟩ ::
            ⟨column, ⟨indentation, narrow⟩ :: later, decisions ++ [false]⟩ :: others)
termination_by branches => work branches
decreasing_by
  all_goals simp only [work, total, Lookahead.entriesWork, Doc.work]
  all_goals first
    | omega
    | exact Nat.lt_add_of_pos_left (Lookahead.entriesWork_pos _)

end LineLayout.Copying
