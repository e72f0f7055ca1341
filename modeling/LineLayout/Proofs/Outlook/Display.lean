import LineLayout.Layout.Outlook
import LineLayout.Proofs.Printer.Ideal
/-!
The printer displays what the outlook on a document says, faults included: its look-ahead answers
whether the line can end within the width, and its record is what the outlook observes.
-/
namespace LineLayout

variable {α : Type}

namespace Outlook

open Lookahead (plan)

theorem fits_ofEntries (settings : Settings) (column : Nat) (entries : List (Entry α)) :
    (ofEntries entries : Outlook settings α).fits column =
      (plan settings.width settings.tabWidth column entries).map Option.isSome := by
  have fitting : ∀ column, (.ok (column ≤ settings.width) : Except Fault Bool) =
      (.ok (if column ≤ settings.width then some [] else none) :
        Except Fault (Option (List Bool))).map Option.isSome := by
    intro column
    split <;> simp [Except.map, *]
  induction entries using Entry.induction generalizing column with
  | nil =>
    rw [Lookahead.plan_nil]
    exact fitting column
  | newline indentation later ih =>
    rw [Lookahead.plan_newline]
    exact fitting column
  | empty indentation later ih =>
    rw [Lookahead.plan_empty]
    exact ih column
  | text indentation content label later ih =>
    by_cases tooWide : settings.width < column
    · rw [fits_of_tooWide _ column tooWide, Lookahead.plan_of_tooWide _ tooWide]
      rfl
    · rw [Lookahead.plan_text _ _ _ _ tooWide]
      refine (if_neg tooWide).trans ?_
      cases addColumns column content.length with
      | error fault => rfl
      | ok next => exact ih next
  | concat indentation left right later ih =>
    rw [Lookahead.plan_concat]
    exact ih column
  | indent indentation body later ih =>
    by_cases tooWide : settings.width < column
    · rw [fits_of_tooWide _ column tooWide, Lookahead.plan_of_tooWide _ tooWide]
      rfl
    · rw [Lookahead.plan_indent _ _ _ tooWide, ofEntries, Doc.before]
      cases addColumns indentation settings.tabWidth with
      | error fault => exact if_neg tooWide
      | ok deeper => exact ih deeper column
  | hang indentation body later ih =>
    rw [Lookahead.plan_hang]
    exact ih column column
  | choice indentation wide narrow later ihWide ihNarrow =>
    have fits := ihWide column
    have fits' := ihNarrow column
    rw [ofEntries] at fits fits'
    rw [Lookahead.plan_choice, ofEntries, Doc.before]
    simp only [choice, fits, fits']
    cases plan settings.width settings.tabWidth column (⟨indentation, wide⟩ :: later) with
    | error fault => rfl
    | ok found =>
      cases found with
      | some decisions => rfl
      | none =>
        cases plan settings.width settings.tabWidth column (⟨indentation, narrow⟩ :: later) with
        | error fault => rfl
        | ok found => cases found <;> rfl

end Outlook

namespace Printer

open Lookahead (plan)

def Record.observed (record : Record α) : Except Fault (List (Event α)) :=
  match record.fault with
  | none => .ok record.events.toList
  | some fault => .error fault

theorem Record.complete_eq (record : Record α) :
    record.complete = record.observed.map Event.shown := by
  unfold complete observed
  cases record.fault <;> rfl

def foreseen (printer : Printer α) : Except Fault (List (Event α)) :=
  (Outlook.ofEntries printer.entries : Outlook printer.settings α).events printer.column

theorem foreseen_ofEntries (settings : Settings) (column : Nat) (entries : List (Entry α))
    (decided : List Bool) : (ofEntries settings column entries decided).foreseen =
      (Outlook.ofEntries entries : Outlook settings α).events column := by
  change (Outlook.ofEntries (ofEntries settings column entries decided).entries :
    Outlook settings α).events column = _
  rw [entries_ofEntries]

/-- What a printer is foreseen to display is what its next step displays and then what is foreseen
after that step. -/
theorem foreseen_eq {printer : Printer α} (coherent : Coherent printer) : printer.foreseen =
    match printer.step with
    | .finished => .ok []
    | .silent next => next.foreseen
    | .resolved column wide next => next.foreseen.map (.choice column wide :: ·)
    | .shows fragment next => next.foreseen.map (.fragment fragment :: ·)
    | .fault fault => .error fault := by
  obtain ⟨settings, column, entries, decided, rfl⟩ := printer.exists_ofEntries
  rw [foreseen_ofEntries]
  match entries with
  | [] => rfl
  | ⟨indentation, .empty⟩ :: later =>
    simp only [step_empty, foreseen_ofEntries]
    rfl
  | ⟨indentation, .text content label⟩ :: later =>
    change (addColumns column content.length).bind _ = _
    rw [step_text]
    cases addColumns column content.length with
    | error fault => rfl
    | ok moved =>
      simp only [foreseen_ofEntries]
      rfl
  | ⟨indentation, .newline⟩ :: later =>
    change (lineBreakLength indentation).bind _ = _
    rw [step_newline]
    cases lineBreakLength indentation with
    | error fault => rfl
    | ok size =>
      simp only [foreseen_ofEntries]
      rfl
  | ⟨indentation, .concat left right⟩ :: later =>
    simp only [step_concat, foreseen_ofEntries]
    rfl
  | ⟨indentation, .indent body⟩ :: later =>
    rw [step_indent, Outlook.ofEntries, Doc.before]
    cases addColumns indentation settings.tabWidth with
    | error fault => rfl
    | ok deeper =>
      simp only [foreseen_ofEntries]
      rfl
  | ⟨indentation, .hang body⟩ :: later =>
    simp only [step_hang, foreseen_ofEntries]
    rfl
  | ⟨indentation, .choice wide narrow⟩ :: later =>
    have fits := Outlook.fits_ofEntries settings column (⟨indentation, wide⟩ :: later)
    rw [Outlook.ofEntries] at fits
    rw [step_choice_of_coherent coherent, Outlook.ofEntries, Doc.before]
    simp only [Outlook.choice, fits]
    cases plan settings.width settings.tabWidth column (⟨indentation, wide⟩ :: later) with
    | error fault => rfl
    | ok found =>
      cases found with
      | some decisions =>
        simp only [foreseen_ofEntries]
        rfl
      | none =>
        simp only [foreseen_ofEntries]
        rfl

theorem observed_recordAfter {printer : Printer α} (events : Array (Event α))
    (coherent : Coherent printer) :
    (recordAfter events printer).observed = printer.foreseen.map (events.toList ++ ·) := by
  have kept := fun next => @step_coherent _ _ next coherent
  rw [recordAfter_eq, foreseen_eq coherent]
  cases progress : printer.step with
  | finished => exact congrArg Except.ok (List.append_nil _).symm
  | fault fault => rfl
  | silent next => exact observed_recordAfter events (kept next (by rw [progress]; rfl))
  | resolved column wide next =>
    refine (observed_recordAfter _ (kept next (by rw [progress]; rfl))).trans ?_
    dsimp only
    cases next.foreseen <;> simp [Except.map]
  | shows fragment next =>
    refine (observed_recordAfter _ (kept next (by rw [progress]; rfl))).trans ?_
    dsimp only
    cases next.foreseen <;> simp [Except.map]
termination_by printer.remaining
decreasing_by all_goals exact step_remaining _ _ (by rw [progress]; rfl)

end Printer

theorem Doc.observed_record (settings : Settings) (d : Doc α) :
    (d.record settings).observed = (d.outlook settings).events 0 := by
  refine (Printer.observed_recordAfter #[] (.inl rfl)).trans ?_
  rw [Printer.start_eq_ofEntries, Printer.foreseen_ofEntries]
  change ((d.outlook settings).events 0).map _ = _
  cases (d.outlook settings).events 0 <;> rfl

theorem Doc.events_outlook_of_render {settings : Settings} {d : Doc α}
    {fragments : List (Fragment α)} (complete : d.render settings = .ok fragments) :
    (d.outlook settings).events 0 = .ok (d.record settings).events.toList := by
  rw [← observed_record]
  unfold render Printer.Record.complete at complete
  unfold Printer.Record.observed
  cases fault : (d.record settings).fault with
  | none => rfl
  | some met =>
    rw [fault] at complete
    cases complete

theorem Doc.render_eq_outlook (settings : Settings) (d : Doc α) :
    d.render settings = ((d.outlook settings).events 0).map Printer.Event.shown := by
  rw [← observed_record, ← Printer.Record.complete_eq]
  rfl

end LineLayout
