import Mathlib.Control.Monad.Basic
import LineLayout.Proofs.Outlook.Alike
import LineLayout.Proofs.Placement.Hole
/-!
Outlooks with fewer options. A choice that is replaced by the option that its display takes changes
nothing: what did not fit before does not fit now either, and the way that was found is still there.
-/
namespace LineLayout

open Printer (Event)

variable {settings : Settings} {α : Type}

def Doc.Leaves (d : Doc α) (agreed : List Bool → Prop) (decisions : List Bool) : Prop :=
  ∀ resolved left, d.resolve decisions = some (resolved, left) → agreed left

/-- Whether a choice in the hole of a context, if some decisions lead there, is resolved to this
option and not to the other one. -/
def Context.TakesNoOther (context : Context α) (isWide : Bool) (decisions : List Bool) : Prop :=
  ∀ decision left, context.decisionsAtHole decisions = some (decision :: left) → decision = isWide

namespace Outlook

/-- Whether an outlook lacks options of the full one, but none of those that a display with agreed
decisions takes. -/
structure Pruned (agreed : List Bool → Prop) (full pruned : Outlook settings α) : Prop where
  /-- Nothing fits that did not fit before. -/
  unfit : ∀ column, full.fits column = .ok false → pruned.fits column = .ok false
  fits : ∀ column events, full.events column = .ok events → agreed (Event.resolved events) →
    pruned.fits column = full.fits column
  shown : ∀ column events, full.events column = .ok events → agreed (Event.resolved events) →
    (pruned.events column).map Event.shown = .ok (Event.shown events)

theorem Pruned.refl (agreed : List Bool → Prop) (outlook : Outlook settings α) :
    Pruned agreed outlook outlook where
  unfit _ := id
  fits _ _ _ _ := rfl
  shown column events display _ := by
    rw [display]
    rfl

theorem Pruned.weaken {agreed agreed' : List Bool → Prop} {full pruned : Outlook settings α}
    (prunes : Pruned agreed full pruned)
    (weaker : ∀ decisions, agreed' decisions → agreed decisions) :
    Pruned agreed' full pruned where
  unfit := prunes.unfit
  fits column events display agrees := prunes.fits column events display (weaker _ agrees)
  shown column events display agrees := prunes.shown column events display (weaker _ agrees)

theorem Pruned.text {agreed : List Bool → Prop} {full pruned : Outlook settings α}
    (content : String) (label : Option α) (prunes : Pruned agreed full pruned) :
    Pruned agreed (full.text content label) (pruned.text content label) where
  unfit column unfit := by
    simp only [Outlook.text] at unfit ⊢
    split at unfit
    · rw [if_pos (by assumption)]
    · obtain ⟨next, sum, onward⟩ := except_bind_eq_ok unfit
      rw [if_neg (by assumption), sum]
      exact prunes.unfit next onward
  fits column events display agrees := by
    obtain ⟨next, later, sum, goesOn, rfl⟩ := events_text display
    have same := prunes.fits next later goesOn agrees
    simp only [Outlook.text, sum, Except.bind, same]
  shown column events display agrees := by
    obtain ⟨next, later, sum, goesOn, rfl⟩ := events_text display
    have same := prunes.shown next later goesOn agrees
    simp only [Outlook.text, sum, Except.bind, map_shown_fragment, same]
    rfl

theorem Pruned.newline {agreed : List Bool → Prop} {full pruned : Outlook settings α}
    (indentation : Nat) (prunes : Pruned agreed full pruned) :
    Pruned agreed (full.newline indentation) (pruned.newline indentation) where
  unfit _ := id
  fits _ _ _ _ := rfl
  shown column events display agrees := by
    obtain ⟨size, later, length, goesOn, rfl⟩ := events_newline display
    have same := prunes.shown indentation later goesOn agrees
    simp only [Outlook.newline, length, Except.bind, map_shown_fragment, same]
    rfl

theorem Pruned.atColumn {agreed : List Bool → Prop} {full pruned : Nat → Outlook settings α}
    (prunes : ∀ column, Pruned agreed (full column) (pruned column)) :
    Pruned agreed (.atColumn full) (.atColumn pruned) where
  unfit column := (prunes column).unfit column
  fits column := (prunes column).fits column
  shown column := (prunes column).shown column

theorem Pruned.choice {agreed agreedWide agreedNarrow : List Bool → Prop}
    {wide wide' narrow narrow' : Outlook settings α} (prunes : Pruned agreedWide wide wide')
    (prunes' : Pruned agreedNarrow narrow narrow')
    (ifWide : ∀ decisions, agreed (true :: decisions) → agreedWide decisions)
    (ifNarrow : ∀ decisions, agreed (false :: decisions) → agreedNarrow decisions) :
    Pruned agreed (wide.choice narrow) (wide'.choice narrow') where
  unfit column unfit := by
    obtain ⟨unfitWide, unfitNarrow⟩ := fits_choice_eq_false.mp unfit
    exact fits_choice_eq_false.mpr
      ⟨prunes.unfit column unfitWide, prunes'.unfit column unfitNarrow⟩
  fits column events display agrees := by
    rcases events_choice display with ⟨later, fits, goesOn, rfl⟩ | ⟨later, fits, goesOn, rfl⟩
    · have same := prunes.fits column later goesOn (ifWide _ agrees)
      simp only [Outlook.choice, same, fits]
    · -- What was wide did not fit, so it does not fit now either and the choice stays narrow.
      have unfit := prunes.unfit column fits
      have same := prunes'.fits column later goesOn (ifNarrow _ agrees)
      simp only [Outlook.choice, unfit, fits, same]
  shown column events display agrees := by
    rcases events_choice display with ⟨later, fits, goesOn, rfl⟩ | ⟨later, fits, goesOn, rfl⟩
    · have same := prunes.fits column later goesOn (ifWide _ agrees)
      simp only [Outlook.choice, same, fits, map_shown_choice, Event.shown_choice]
      exact prunes.shown column later goesOn (ifWide _ agrees)
    · have unfit := prunes.unfit column fits
      simp only [Outlook.choice, unfit, map_shown_choice, Event.shown_choice]
      exact prunes'.shown column later goesOn (ifNarrow _ agrees)

/-- A document keeps outlooks pruned: it takes the same way on both, and leaves the decisions that
resolving it leaves. -/
theorem Pruned.before (d : Doc α) (indentation : Nat) {agreed : List Bool → Prop}
    {full pruned : Outlook settings α} (prunes : Pruned agreed full pruned) :
    Pruned (d.Leaves agreed) (d.before indentation full) (d.before indentation pruned) := by
  induction d generalizing indentation agreed full pruned with
  | empty => exact prunes.weaken fun decisions agrees => agrees _ _ rfl
  | text content label =>
    exact (prunes.text content label).weaken fun decisions agrees => agrees _ _ rfl
  | newline => exact (prunes.newline indentation).weaken fun decisions agrees => agrees _ _ rfl
  | concat left right ihLeft ihRight =>
    refine (ihLeft indentation (ihRight indentation prunes)).weaken ?_
    intro decisions agrees left' between resolvesLeft right' after resolvesRight
    exact agrees (.concat left' right') after (by simp [Doc.resolve, resolvesLeft, resolvesRight])
  | indent body ih =>
    simp only [Doc.before]
    cases addColumns indentation settings.tabWidth with
    | error fault => exact .refl _ _
    | ok deeper =>
      refine (ih deeper prunes).weaken ?_
      intro decisions agrees body' after resolvesBody
      exact agrees (.indent body') after (by simp [Doc.resolve, resolvesBody])
  | hang body ih =>
    refine .atColumn fun column => (ih column prunes).weaken ?_
    intro decisions agrees body' after resolvesBody
    exact agrees (.hang body') after (by simp [Doc.resolve, resolvesBody])
  | choice wide narrow ihWide ihNarrow =>
    refine .choice (ihWide indentation prunes) (ihNarrow indentation prunes) ?_ ?_
    · intro decisions agrees resolved left resolves
      exact agrees _ _ resolves
    · intro decisions agrees resolved left resolves
      exact agrees _ _ resolves

theorem Pruned.option (wide narrow : Outlook settings α) (isWide : Bool) :
    Pruned (fun decisions => ∀ decision left, decisions = decision :: left → decision = isWide)
      (wide.choice narrow) (if isWide then wide else narrow) where
  unfit column unfit := by
    obtain ⟨unfitWide, unfitNarrow⟩ := fits_choice_eq_false.mp unfit
    cases isWide with
    | true => exact unfitWide
    | false => exact unfitNarrow
  fits column events display agrees := by
    rcases events_choice display with ⟨later, fits, goesOn, rfl⟩ | ⟨later, fits, goesOn, rfl⟩
    · cases agrees true _ rfl
      simp only [Outlook.choice, fits, if_true]
    · cases agrees false _ rfl
      simp only [Outlook.choice, fits, Bool.false_eq_true, if_false]
  shown column events display agrees := by
    rcases events_choice display with ⟨later, fits, goesOn, rfl⟩ | ⟨later, fits, goesOn, rfl⟩
    · cases agrees true _ rfl
      rw [if_pos rfl, goesOn]
      rfl
    · cases agrees false _ rfl
      rw [if_neg Bool.false_ne_true, goesOn]
      rfl

theorem Pruned.fill (context : Context α) (wide narrow : Doc α) (isWide : Bool)
    (indentation : Nat) (rest : Outlook settings α) :
    Pruned (context.TakesNoOther isWide)
      ((context.fill (.choice wide narrow)).before indentation rest)
      ((context.fill (if isWide then wide else narrow)).before indentation rest) := by
  induction context generalizing indentation rest with
  | hole =>
    have option := Pruned.option (wide.before indentation rest) (narrow.before indentation rest)
      isWide
    have same : (if isWide then wide else narrow).before indentation rest =
        if isWide then wide.before indentation rest else narrow.before indentation rest := by
      cases isWide <;> rfl
    rw [Context.fill, Context.fill, same]
    exact option.weaken fun decisions agrees decision left equal =>
      agrees decision left (congrArg some equal)
  | concatLeft left right ih => exact ih indentation (right.before indentation rest)
  | concatRight left right ih =>
    refine (Pruned.before left indentation (ih indentation rest)).weaken ?_
    intro decisions agrees left' between resolves decision after leads
    exact agrees decision after (by simp [Context.decisionsAtHole, resolves, leads])
  | indent body ih =>
    simp only [Context.fill, Doc.before]
    cases addColumns indentation settings.tabWidth with
    | error fault => exact .refl _ _
    | ok deeper => exact ih deeper rest
  | hang body ih => exact .atColumn fun column => ih column rest
  | choiceWide wide' narrow' ih =>
    exact .choice (ih indentation rest) (.refl (fun _ => True) _) (fun _ agrees => agrees)
      fun _ _ => trivial
  | choiceNarrow wide' narrow' ih =>
    exact .choice (.refl (fun _ => True) _) (ih indentation rest) (fun _ _ => trivial)
      fun _ agrees => agrees

end Outlook

namespace Doc

/-- In a display in full a choice may be replaced by the option that it was resolved to, or by
either option if the display did not come to it: the same fragments are displayed. -/
theorem render_option_of_choice {settings : Settings} {context : Context α} {wide narrow : Doc α}
    {fragments : List (Fragment α)} {decisions : List Bool}
    (complete : (context.fill (choice wide narrow)).render settings = .ok fragments)
    (recorded : ((context.fill (choice wide narrow)).record settings).decisions = decisions) :
    ((∃ earlier isWide left, decisions = earlier ++ isWide :: left ∧
        context.decisionsAtHole decisions = some (isWide :: left) ∧
        Printer.Resolves settings (context.fill (choice wide narrow)) wide narrow earlier isWide ∧
        (context.fill (if isWide then wide else narrow)).render settings = .ok fragments) ∨
      (context.decisionsAtHole decisions = none ∧
        (context.fill wide).render settings = .ok fragments ∧
        (context.fill narrow).render settings = .ok fragments)) ∧
    ((context.fill wide).render settings = .ok fragments ∨
      (context.fill narrow).render settings = .ok fragments) := by
  subst recorded
  have display := events_outlook_of_render complete
  obtain ⟨last, trail, finished, shown⟩ := Printer.trail_of_render complete
  have option : ∀ isWide, context.TakesNoOther isWide
        ((context.fill (choice wide narrow)).record settings).decisions →
      (context.fill (if isWide then wide else narrow)).render settings = .ok fragments := by
    intro isWide takes
    rw [render_eq_outlook, shown]
    exact (Outlook.Pruned.fill context wide narrow isWide 0 .finished).shown 0 _ display takes
  cases leads : context.decisionsAtHole
      ((context.fill (choice wide narrow)).record settings).decisions with
  | none =>
    have takes : ∀ isWide, context.TakesNoOther isWide
        ((context.fill (choice wide narrow)).record settings).decisions := by
      intro isWide decision left leads'
      rw [leads] at leads'
      cases leads'
    have widely := option true (takes true)
    have narrowly := option false (takes false)
    exact ⟨.inr ⟨rfl, widely, narrowly⟩, .inr narrowly⟩
  | some left =>
    rw [Printer.start_eq_ofEntries] at trail
    have comes := Printer.comesTo_hole trail finished leads
    obtain ⟨earlier, isWide, later, rfl, listed, resolves⟩ := comes.resolves finished
    have takes : context.TakesNoOther isWide
        ((context.fill (choice wide narrow)).record settings).decisions := by
      intro decision left leads'
      rw [leads] at leads'
      cases leads'
      rfl
    have chosen := option isWide takes
    refine ⟨.inl ⟨earlier, isWide, later, listed, rfl, resolves, chosen⟩, ?_⟩
    cases isWide with
    | true => exact .inl chosen
    | false => exact .inr chosen

def betweenChoiceAndText : Context Unit :=
  .concatRight (.choice (.text "aaa" none) (.text "a" none)) (.concatLeft .hole (.text "c" none))

theorem render_narrow_between_choice_and_text :
    (betweenChoiceAndText.fill (.text "b" none)).render ⟨5, 4⟩ =
      .ok [.text "aaa" none, .text "b" none, .text "c" none] := by
  have complete : (betweenChoiceAndText.fill
      (.choice (.text "bbb" none) (.text "b" none))).render ⟨5, 4⟩ =
      .ok [.text "aaa" none, .text "b" none, .text "c" none] := by
    decide +kernel
  have recorded : ((betweenChoiceAndText.fill
      (.choice (.text "bbb" none) (.text "b" none))).record ⟨5, 4⟩).decisions = [true, false] := by
    decide +kernel
  rcases (render_option_of_choice complete recorded).1 with
    ⟨_, _, _, _, leads, _, chosen⟩ | ⟨_, _, narrowly⟩
  · cases leads
    exact chosen
  · exact narrowly

end Doc

end LineLayout
