import LineLayout.Proofs.Line.FirstFit
import LineLayout.Proofs.Lookahead.Search
/-!
The look-ahead by recursion: the narrow option of a choice is tried after the whole search from its
wide option. The faults on the way are the same, and without a fault the answer is the first
resolution that fits.
-/
namespace LineLayout.Lookahead

variable {α : Type}

/-- The decisions that end the line within the width, each option of a choice in turn. -/
def plan (width tabWidth column : Nat) (entries : List (Entry α)) :
    Except Fault (Option (List Bool)) :=
  if width < column then .ok none
  else match entries with
    | [] | ⟨_, .newline⟩ :: _ => .ok (some [])
    | ⟨_, .empty⟩ :: later => plan width tabWidth column later
    | ⟨_, .text content _⟩ :: later =>
      match addColumns column content.length with
      | .ok next => plan width tabWidth next later
      | .error fault => .error fault
    | ⟨indentation, .concat left right⟩ :: later =>
      plan width tabWidth column (⟨indentation, left⟩ :: ⟨indentation, right⟩ :: later)
    | ⟨indentation, .indent body⟩ :: later =>
      match addColumns indentation tabWidth with
      | .ok deeper => plan width tabWidth column (⟨deeper, body⟩ :: later)
      | .error fault => .error fault
    | ⟨_, .hang body⟩ :: later => plan width tabWidth column (⟨column, body⟩ :: later)
    | ⟨indentation, .choice wide narrow⟩ :: later =>
      match plan width tabWidth column (⟨indentation, wide⟩ :: later) with
      | .ok (some decisions) => .ok (some (true :: decisions))
      | .ok none =>
        (plan width tabWidth column (⟨indentation, narrow⟩ :: later)).map (Option.map (false :: ·))
      | .error fault => .error fault
termination_by Exhaustive.entriesSize entries
decreasing_by all_goals simp only [Exhaustive.entriesSize, total, Doc.size]; omega

theorem plan_of_tooWide {width tabWidth column : Nat} (entries : List (Entry α))
    (tooWide : width < column) : plan width tabWidth column entries = .ok none := by
  rw [plan.eq_def, if_pos tooWide]

theorem narrowEnough_of_plan {width tabWidth column : Nat} {entries : List (Entry α)}
    {decisions : List Bool} (planned : plan width tabWidth column entries = .ok (some decisions)) :
    ¬ width < column := by
  intro tooWide
  rw [plan_of_tooWide entries tooWide] at planned
  cases planned

theorem plan_nil (width tabWidth column : Nat) :
    plan width tabWidth column ([] : List (Entry α)) =
      .ok (if column ≤ width then some [] else none) := by
  rw [plan]
  split <;> split <;> first | rfl | omega

theorem plan_newline (width tabWidth column indentation : Nat) (later : List (Entry α)) :
    plan width tabWidth column (⟨indentation, .newline⟩ :: later) =
      .ok (if column ≤ width then some [] else none) := by
  rw [plan]
  split <;> split <;> first | rfl | omega

theorem plan_empty (width tabWidth column indentation : Nat) (later : List (Entry α)) :
    plan width tabWidth column (⟨indentation, .empty⟩ :: later) =
      plan width tabWidth column later := by
  rw [plan]
  split
  · rename_i tooWide
    rw [plan_of_tooWide later tooWide]
  · rfl

theorem plan_text {width tabWidth column : Nat} (indentation : Nat) (content : String)
    (label : Option α) (later : List (Entry α)) (narrowEnough : ¬ width < column) :
    plan width tabWidth column (⟨indentation, .text content label⟩ :: later) =
      (addColumns column content.length).bind fun next => plan width tabWidth next later := by
  rw [plan, if_neg narrowEnough]
  cases addColumns column content.length <;> rfl

theorem plan_concat (width tabWidth column indentation : Nat) (left right : Doc α)
    (later : List (Entry α)) :
    plan width tabWidth column (⟨indentation, .concat left right⟩ :: later) =
      plan width tabWidth column (⟨indentation, left⟩ :: ⟨indentation, right⟩ :: later) := by
  rw [plan]
  split
  · rename_i tooWide
    rw [plan_of_tooWide _ tooWide]
  · rfl

theorem plan_indent {width tabWidth column : Nat} (indentation : Nat) (body : Doc α)
    (later : List (Entry α)) (narrowEnough : ¬ width < column) :
    plan width tabWidth column (⟨indentation, .indent body⟩ :: later) =
      (addColumns indentation tabWidth).bind fun deeper =>
        plan width tabWidth column (⟨deeper, body⟩ :: later) := by
  rw [plan, if_neg narrowEnough]
  cases addColumns indentation tabWidth <;> rfl

theorem plan_hang (width tabWidth column indentation : Nat) (body : Doc α)
    (later : List (Entry α)) :
    plan width tabWidth column (⟨indentation, .hang body⟩ :: later) =
      plan width tabWidth column (⟨column, body⟩ :: later) := by
  rw [plan]
  split
  · rename_i tooWide
    rw [plan_of_tooWide _ tooWide]
  · rfl

theorem plan_choice (width tabWidth column indentation : Nat) (wide narrow : Doc α)
    (later : List (Entry α)) :
    plan width tabWidth column (⟨indentation, .choice wide narrow⟩ :: later) =
      match plan width tabWidth column (⟨indentation, wide⟩ :: later) with
      | .ok (some decisions) => .ok (some (true :: decisions))
      | .ok none => (plan width tabWidth column (⟨indentation, narrow⟩ :: later)).map
          (Option.map (false :: ·))
      | .error fault => .error fault := by
  rw [plan]
  split
  · rename_i tooWide
    rw [plan_of_tooWide _ tooWide, plan_of_tooWide _ tooWide]
    rfl
  · rfl

/-- Whether the search tries some entries to their end, and then the other branches. -/
def Tries (width tabWidth column : Nat) (entries : List (Entry α)) : Prop :=
  ∀ decisions others, Copying.search width tabWidth (⟨column, entries, decisions⟩ :: others) =
    match plan width tabWidth column entries with
    | .ok (some found) => .ok (some (decisions ++ found))
    | .ok none => Copying.search width tabWidth others
    | .error fault => .error fault

theorem tries_of_narrowEnough {width tabWidth column : Nat} {entries : List (Entry α)}
    (tries : ¬ width < column → Tries width tabWidth column entries) :
    Tries width tabWidth column entries := by
  by_cases tooWide : width < column
  · intro decisions others
    rw [plan_of_tooWide entries tooWide, Copying.search.eq_def]
    simp only [if_pos tooWide]
  · exact tries tooWide

theorem search_tries (width tabWidth column : Nat) (entries : List (Entry α)) :
    Tries width tabWidth column entries := by
  -- The other branches stay arbitrary: at a choice the narrow option becomes one of them.
  induction entries using Entry.induction generalizing column with
  | nil | newline indentation later ih =>
    apply tries_of_narrowEnough
    intro narrowEnough decisions others
    simp [Copying.search, plan, narrowEnough]
  | empty indentation later ih | concat indentation left right later ih =>
    apply tries_of_narrowEnough
    intro narrowEnough decisions others
    rw [Copying.search, if_neg narrowEnough, plan, if_neg narrowEnough]
    exact ih column decisions others
  | text indentation content label later ih =>
    apply tries_of_narrowEnough
    intro narrowEnough decisions others
    rw [Copying.search, if_neg narrowEnough, plan, if_neg narrowEnough]
    cases addColumns column content.length with
    | ok next => exact ih next decisions others
    | error fault => rfl
  | indent indentation body later ih =>
    apply tries_of_narrowEnough
    intro narrowEnough decisions others
    rw [Copying.search, if_neg narrowEnough, plan, if_neg narrowEnough]
    cases addColumns indentation tabWidth with
    | ok deeper => exact ih deeper column decisions others
    | error fault => rfl
  | hang indentation body later ih =>
    apply tries_of_narrowEnough
    intro narrowEnough decisions others
    rw [Copying.search, if_neg narrowEnough, plan, if_neg narrowEnough]
    exact ih column column decisions others
  | choice indentation wide narrow later ihWide ihNarrow =>
    apply tries_of_narrowEnough
    intro narrowEnough decisions others
    rw [Copying.search, if_neg narrowEnough, plan, if_neg narrowEnough, ihWide]
    cases plan width tabWidth column (⟨indentation, wide⟩ :: later) with
    | error fault => rfl
    | ok found =>
      cases found with
      | some rest => simp
      | none =>
        simp only [ihNarrow column (decisions ++ [false]) others]
        cases plan width tabWidth column (⟨indentation, narrow⟩ :: later) with
        | error fault => rfl
        | ok found => cases found <;> simp [Except.map]

theorem decide?_eq_plan (width tabWidth : Nat) (waiting : Array (Entry α)) (column : Nat)
    (first : Entry α) :
    decide? width tabWidth waiting column first =
      (plan width tabWidth column (first :: waiting.toList.reverse)).map
        (Option.map List.toArray) := by
  have found := decide?_eq_search width tabWidth waiting column first
  rw [search_tries] at found
  cases answer : decide? width tabWidth waiting column first with
  | error fault =>
    rw [answer] at found
    cases planned : plan width tabWidth column (first :: waiting.toList.reverse) with
    | error fault' =>
      rw [planned] at found
      cases found
      rfl
    | ok decisions =>
      rw [planned] at found
      cases decisions <;> simp [Copying.search, Except.map] at found
  | ok decisions =>
    rw [answer] at found
    cases planned : plan width tabWidth column (first :: waiting.toList.reverse) with
    | error fault =>
      rw [planned] at found
      cases found
    | ok decisions' =>
      rw [planned] at found
      cases decisions <;> cases decisions' <;>
        simp [Copying.search, Except.map] at found ⊢
      simp [← found]

theorem firstFit?_of_plan {width tabWidth column : Nat} {entries : List (Entry α)}
    {answer : Option (List Bool)} (planned : plan width tabWidth column entries = .ok answer) :
    firstFit? width tabWidth column entries = answer := by
  induction entries using Entry.induction generalizing column answer with
  | nil =>
    rw [plan_nil] at planned
    cases planned
    rw [firstFit?]
  | newline indentation later ih =>
    rw [plan_newline] at planned
    cases planned
    rw [firstFit?]
  | empty indentation later ih =>
    rw [plan_empty] at planned
    rw [firstFit?]
    exact ih planned
  | text indentation content label later ih =>
    by_cases tooWide : width < column
    · rw [plan_of_tooWide _ tooWide] at planned
      cases planned
      exact firstFit?_of_tooWide _ tooWide
    · rw [plan_text _ _ _ _ tooWide] at planned
      cases sum : addColumns column content.length with
      | error fault =>
        rw [sum] at planned
        cases planned
      | ok next =>
        rw [sum] at planned
        rw [firstFit?, (addColumns_eq_ok.mp sum).1]
        exact ih planned
  | concat indentation left right later ih =>
    rw [plan_concat] at planned
    rw [firstFit?]
    exact ih planned
  | indent indentation body later ih =>
    by_cases tooWide : width < column
    · rw [plan_of_tooWide _ tooWide] at planned
      cases planned
      exact firstFit?_of_tooWide _ tooWide
    · rw [plan_indent _ _ _ tooWide] at planned
      cases sum : addColumns indentation tabWidth with
      | error fault =>
        rw [sum] at planned
        cases planned
      | ok deeper =>
        rw [sum] at planned
        rw [firstFit?, (addColumns_eq_ok.mp sum).1]
        exact ih deeper planned
  | hang indentation body later ih =>
    rw [plan_hang] at planned
    rw [firstFit?]
    exact ih column planned
  | choice indentation wide narrow later ihWide ihNarrow =>
    rw [plan_choice] at planned
    rw [firstFit?]
    cases tried : plan width tabWidth column (⟨indentation, wide⟩ :: later) with
    | error fault =>
      rw [tried] at planned
      cases planned
    | ok found =>
      rw [tried] at planned
      rw [ihWide tried]
      cases found with
      | some decisions =>
        cases planned
        rfl
      | none =>
        cases tried' : plan width tabWidth column (⟨indentation, narrow⟩ :: later) with
        | error fault =>
          rw [tried'] at planned
          cases planned
        | ok found =>
          rw [tried'] at planned
          cases planned
          simp only [ihNarrow tried']

end LineLayout.Lookahead
