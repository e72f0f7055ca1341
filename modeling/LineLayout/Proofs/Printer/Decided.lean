import LineLayout.Proofs.Lookahead.Plan
import LineLayout.Proofs.Printer.Steps
/-!
The decisions that a printer keeps: at every step there are none, or they are what a look-ahead from
there would find.
-/
namespace LineLayout.Printer

open Lookahead (plan)

variable {α : Type}

/-- Whether the kept decisions are what a look-ahead over everything left would find. -/
def Settled (printer : Printer α) : Prop :=
  plan printer.width printer.tabWidth printer.column printer.entries = .ok (some printer.decided)

/-- Whether the kept decisions may be relied upon: there are none, or they are settled. -/
def Coherent (printer : Printer α) : Prop := printer.decided = [] ∨ Settled printer

theorem settled_ofEntries {settings : Settings} {column : Nat} {entries : List (Entry α)}
    {decided : List Bool} : Settled (ofEntries settings column entries decided) ↔
      plan settings.width settings.tabWidth column entries = .ok (some decided) := by
  simp [Settled]

theorem choose_anew (settings : Settings) (column indentation : Nat) (wide : Doc α)
    (later : List (Entry α)) :
    (ofEntries settings column later []).choose ⟨indentation, wide⟩ =
      match plan settings.width settings.tabWidth column (⟨indentation, wide⟩ :: later) with
      | .ok (some found) => .ok (true, found)
      | .ok none => .ok (false, [])
      | .error fault => .error fault := by
  have asked := Lookahead.decide?_eq_plan settings.width settings.tabWidth
    (ofEntries settings column later []).stack column ⟨indentation, wide⟩
  simp only [ofEntries, List.reverse_reverse] at asked
  simp only [choose, ofEntries, asked]
  cases plan settings.width settings.tabWidth column (⟨indentation, wide⟩ :: later) with
  | error fault => rfl
  | ok found => cases found <;> rfl

theorem plan_wide_of_settled {settings : Settings} {column indentation : Nat} {wide narrow : Doc α}
    {later : List (Entry α)} {decided : List Bool}
    (settled : Settled (ofEntries settings column (⟨indentation, .choice wide narrow⟩ :: later)
      decided)) :
    (∃ found, decided = true :: found ∧
      plan settings.width settings.tabWidth column (⟨indentation, wide⟩ :: later) =
        .ok (some found)) ∨
    (∃ found, decided = false :: found ∧
      plan settings.width settings.tabWidth column (⟨indentation, wide⟩ :: later) = .ok none ∧
      plan settings.width settings.tabWidth column (⟨indentation, narrow⟩ :: later) =
        .ok (some found)) := by
  rw [settled_ofEntries, Lookahead.plan_choice] at settled
  cases tried : plan settings.width settings.tabWidth column (⟨indentation, wide⟩ :: later) with
  | error fault =>
    rw [tried] at settled
    cases settled
  | ok answer =>
    rw [tried] at settled
    cases answer with
    | some found =>
      cases settled
      exact .inl ⟨found, rfl, rfl⟩
    | none =>
      cases tried' : plan settings.width settings.tabWidth column
          (⟨indentation, narrow⟩ :: later) with
      | error fault =>
        rw [tried'] at settled
        cases settled
      | ok answer =>
        rw [tried'] at settled
        cases answer with
        | none => cases settled
        | some found =>
          cases settled
          exact .inr ⟨found, rfl, rfl, rfl⟩

theorem step_choice_of_coherent {settings : Settings} {column indentation : Nat}
    {wide narrow : Doc α} {later : List (Entry α)} {decided : List Bool}
    (coherent : Coherent (ofEntries settings column (⟨indentation, .choice wide narrow⟩ :: later)
      decided)) :
    (ofEntries settings column (⟨indentation, .choice wide narrow⟩ :: later) decided).step =
      match plan settings.width settings.tabWidth column (⟨indentation, wide⟩ :: later) with
      | .ok (some found) =>
        .resolved column true (ofEntries settings column (⟨indentation, wide⟩ :: later) found)
      | .ok none => .resolved column false
        (ofEntries settings column (⟨indentation, narrow⟩ :: later) decided.tail)
      | .error fault => .fault fault := by
  rw [step_choice]
  rcases coherent with nothing | settled
  · rw [decided_ofEntries] at nothing
    subst nothing
    rw [choose_anew]
    cases plan settings.width settings.tabWidth column (⟨indentation, wide⟩ :: later) with
    | error fault => rfl
    | ok answer => cases answer <;> rfl
  · rcases plan_wide_of_settled settled with ⟨found, rfl, tried⟩ | ⟨found, rfl, tried, _⟩ <;>
      rw [tried] <;> rfl

theorem plan_of_choose {settings : Settings} {column indentation : Nat} {wide narrow : Doc α}
    {later : List (Entry α)} {decided left : List Bool} {isWide : Bool}
    (coherent : Coherent (ofEntries settings column (⟨indentation, .choice wide narrow⟩ :: later)
      decided))
    (chosen : (ofEntries settings column later decided).choose ⟨indentation, wide⟩ =
      .ok (isWide, left)) :
    plan settings.width settings.tabWidth column (⟨indentation, wide⟩ :: later) =
      .ok (if isWide then some left else none) := by
  rcases coherent with nothing | settled
  · rw [decided_ofEntries] at nothing
    subst nothing
    rw [choose_anew] at chosen
    split at chosen <;> cases chosen <;> assumption
  · rcases plan_wide_of_settled settled with ⟨found, rfl, tried⟩ | ⟨found, rfl, tried, _⟩ <;>
      cases chosen <;> exact tried

/-- A step keeps settled decisions settled, up to the end of the line, where none are left. -/
theorem step_settled {printer next : Printer α} (settled : Settled printer)
    (progress : printer.step.next? = some next) :
    Settled next ∨
      ∃ indentation, printer.step = .shows (.newline indentation) next ∧ next.decided = [] := by
  obtain ⟨settings, column, entries, decided, rfl⟩ := printer.exists_ofEntries
  have planned := settled_ofEntries.mp settled
  -- A look-ahead that succeeded did not start beyond the width.
  have narrowEnough := Lookahead.narrowEnough_of_plan planned
  have moves := moves_step settings column entries decided
  generalize (ofEntries settings column entries decided).step = step at progress moves ⊢
  cases moves with
  | finished | fault => cases progress
  | empty indentation later =>
    cases progress
    rw [Lookahead.plan_empty] at planned
    exact .inl (settled_ofEntries.mpr planned)
  | text sum =>
    cases progress
    rw [Lookahead.plan_text _ _ _ _ narrowEnough, sum] at planned
    exact .inl (settled_ofEntries.mpr planned)
  | concat indentation left right later =>
    cases progress
    rw [Lookahead.plan_concat] at planned
    exact .inl (settled_ofEntries.mpr planned)
  | newline indentation later =>
    cases progress
    rw [Lookahead.plan_newline] at planned
    split at planned <;> cases planned
    exact .inr ⟨indentation, rfl, rfl⟩
  | indent sum =>
    cases progress
    rw [Lookahead.plan_indent _ _ _ narrowEnough, sum] at planned
    exact .inl (settled_ofEntries.mpr planned)
  | hang indentation body later =>
    cases progress
    rw [Lookahead.plan_hang] at planned
    exact .inl (settled_ofEntries.mpr planned)
  | choice chosen =>
    cases progress
    rcases plan_wide_of_settled settled with ⟨found, rfl, tried⟩ | ⟨found, rfl, _, tried⟩ <;>
      cases chosen
    · exact .inl (settled_ofEntries.mpr tried)
    · exact .inl (settled_ofEntries.mpr tried)

theorem step_of_nothing_decided {printer next : Printer α} (nothing : printer.decided = [])
    (progress : printer.step.next? = some next) :
    next.decided = [] ∨ Settled next := by
  obtain ⟨settings, column, entries, decided, rfl⟩ := printer.exists_ofEntries
  rw [decided_ofEntries] at nothing
  subst nothing
  have moves := moves_step settings column entries []
  generalize (ofEntries settings column entries []).step = step at progress moves
  cases moves with
  | finished | fault => cases progress
  | empty | text | concat | newline | indent | hang =>
    cases progress
    exact .inl rfl
  | choice chosen =>
    cases progress
    rw [choose_anew] at chosen
    split at chosen <;> cases chosen
    · rename_i tried
      exact .inr (settled_ofEntries.mpr tried)
    · exact .inl rfl

theorem step_coherent {printer next : Printer α} (coherent : Coherent printer)
    (progress : printer.step.next? = some next) : Coherent next := by
  rcases coherent with nothing | settled
  · exact step_of_nothing_decided nothing progress
  · rcases step_settled settled progress with settled | ⟨_, _, nothing⟩
    · exact .inr settled
    · exact .inl nothing

theorem trail_coherent {printer last : Printer α} {events : List (Event α)}
    (trail : Trail printer events last) (coherent : Coherent printer) : Coherent last := by
  induction trail with
  | here => exact coherent
  | silent progress _ ih | resolved progress _ ih | shows progress _ ih =>
    exact ih (step_coherent coherent (by rw [progress]; rfl))

theorem reachable_coherent {settings : Settings} {d : Doc α} {printer : Printer α}
    (reachable : Reachable settings d printer) : Coherent printer := by
  obtain ⟨events, trail⟩ := reachable
  exact trail_coherent trail (.inl rfl)

theorem trail_settled {printer last : Printer α} {events : List (Event α)}
    (trail : Trail printer events last) (settled : Settled printer)
    (sameLine : ∀ indentation, .fragment (.newline indentation) ∉ events) : Settled last := by
  induction trail with
  | here => exact settled
  | silent progress _ ih =>
    refine ih ?_ sameLine
    rcases step_settled settled (by rw [progress]; rfl) with kept | ⟨indentation, ended, _⟩
    · exact kept
    · rw [progress] at ended
      cases ended
  | resolved progress _ ih =>
    refine ih ?_ fun indentation member => sameLine indentation (List.mem_cons_of_mem _ member)
    rcases step_settled settled (by rw [progress]; rfl) with kept | ⟨indentation, ended, _⟩
    · exact kept
    · rw [progress] at ended
      cases ended
  | shows progress _ ih =>
    refine ih ?_ fun indentation member => sameLine indentation (List.mem_cons_of_mem _ member)
    rcases step_settled settled (by rw [progress]; rfl) with kept | ⟨indentation, ended, _⟩
    · exact kept
    · rw [progress] at ended
      cases ended
      exact absurd List.mem_cons_self (sameLine indentation)

end LineLayout.Printer
