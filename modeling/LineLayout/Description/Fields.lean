/-!
Records written as named fields, in any order and with fields left out.
-/
namespace LineLayout

variable {τ : Type}

/-- What is given for each of the names; refused if a name is unknown or comes twice. -/
def namedFields? (names : List String) (given : List (String × τ)) : Option (List (Option τ)) :=
  let keys := given.map Prod.fst
  if keys.Nodup ∧ keys.all names.contains then some (names.map (List.lookup · given)) else none

def positionalFields? (names : List String) (given : List τ) : Option (List (Option τ)) :=
  if given.length ≤ names.length then some ((List.range names.length).map (given[·]?)) else none

def fieldOr {β : Type} (standard : β) (decode : τ → Option β) : Option τ → Option β
  | none => some standard
  | some written => decode written

end LineLayout
