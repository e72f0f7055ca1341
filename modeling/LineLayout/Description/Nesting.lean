import LineLayout.Description.Json
import LineLayout.Description.Ron
/-!
How deep written descriptions nest.
-/
namespace LineLayout

namespace Json.Tree

mutual

/-- How many arrays and objects are open at once. -/
def depth : Tree → Nat
  | null | bool _ | number _ | text _ => 0
  | array elements => elementsDepth elements + 1
  | object members => membersDepth members + 1

def elementsDepth : List Tree → Nat
  | [] => 0
  | first :: others => max first.depth (elementsDepth others)

def membersDepth : List (String × Tree) → Nat
  | [] => 0
  | (_, value) :: others => max value.depth (membersDepth others)

end

end Json.Tree

namespace Ron

def styleLevels : Nat := 4

mutual

/-- The levels that a description takes, in which a label takes `labelLevels`. -/
def levels {α : Type} (labelLevels : Nat) : Description α → Nat
  | .empty | .newline | .line | .softline | .text _ => 2
  | .styled _ _ => labelLevels + 3
  | .concat parts => levelsOfAll labelLevels parts + 3
  | .indent body | .hang body | .group body | .flatten body => levels labelLevels body + 2
  | .choice wide narrow => max (levels labelLevels wide) (levels labelLevels narrow) + 3
  | .join elements separator =>
    max (levelsOfAll labelLevels elements + 4) (levels labelLevels separator + 3)

def levelsOfAll {α : Type} (labelLevels : Nat) : List (Description α) → Nat
  | [] => 0
  | first :: others => max (levels labelLevels first + 1) (levelsOfAll labelLevels others)

end

end Ron

end LineLayout
