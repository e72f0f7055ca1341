import LineLayout.Doc.Flatten
import LineLayout.Proofs.Fragment.Lines
import LineLayout.Proofs.Outlook.Display
/-!
What an outlook comes to: where its line can end, from where its display is complete, and which text
it shows.
-/
namespace LineLayout

open Printer (Event)

namespace Doc

variable {settings : Settings} {α : Type}

theorem before_sum (docs : List (Doc α)) (indentation : Nat) (rest : Outlook settings α) :
    (sum docs).before indentation rest =
      docs.foldr (fun d outlook => d.before indentation outlook) rest := by
  cases docs with
  | nil => rfl
  | cons first others =>
    rw [sum, List.foldr_cons]
    induction others generalizing first with
    | nil => rfl
    | cons d later ih => exact ih (concat first d)

theorem before_join (first separator : Doc α) (others : List (Doc α)) (indentation : Nat)
    (rest : Outlook settings α) :
    (join (first :: others) separator).before indentation rest =
      first.before indentation (others.foldr (fun element outlook =>
        separator.before indentation (element.before indentation outlook)) rest) := by
  rw [join_eq_sum, before_sum, List.foldr_cons, List.foldr_map]
  rfl

theorem flat_sum (docs : List (Doc α)) : (sum docs).flat = sum (docs.map flat) := by
  cases docs with
  | nil => rfl
  | cons first others =>
    rw [List.map_cons, sum, sum]
    induction others generalizing first with
    | nil => rfl
    | cons d later ih => exact ih (concat first d)

theorem flat_join (elements : List (Doc α)) (separator : Doc α) :
    (join elements separator).flat = join (elements.map flat) separator.flat := by
  cases elements with
  | nil => rfl
  | cons first others =>
    rw [join_eq_sum, flat_sum, List.map_cons, List.map_cons, join_eq_sum, List.map_map,
      List.map_map]
    rfl

end Doc

namespace Outlook

variable {settings : Settings} {α : Type} {column columns : Nat}
  {rest wide narrow : Outlook settings α}

/-- Whether the line can end that many columns on and not before. -/
def EndsAfter (columns : Nat) (outlook : Outlook settings α) : Prop :=
  ∀ column answer, outlook.fits column = .ok answer →
    answer = decide (column + columns ≤ settings.width)

theorem endsAfter_finished : EndsAfter 0 (finished : Outlook settings α) :=
  fun _ _ answered => (Except.ok.inj answered).symm

theorem endsAfter_newline (indentation : Nat) (rest : Outlook settings α) :
    EndsAfter 0 (rest.newline indentation) :=
  fun _ _ answered => (Except.ok.inj answered).symm

theorem EndsAfter.text (ends : EndsAfter columns rest) (content : String) (label : Option α) :
    EndsAfter (content.length + columns) (rest.text content label) := by
  intro column answer answered
  rcases fits_text answered with ⟨tooWide, rfl⟩ | onward
  · exact (decide_eq_false (by omega)).symm
  · rw [← Nat.add_assoc]
    exact ends _ answer onward

theorem EndsAfter.choice (ends : EndsAfter columns wide) (ends' : EndsAfter 0 narrow) :
    EndsAfter 0 (wide.choice narrow) := by
  intro column answer answered
  simp only [Outlook.choice] at answered
  split at answered
  · rename_i fits
    cases answered
    have within := of_decide_eq_true (ends column true fits).symm
    exact (decide_eq_true (by omega)).symm
  · exact ends' column answer answered
  · cases answered

def Completes (room : Nat) (outlook : Outlook settings α) : Prop :=
  ∀ column, column + room < wordLimit → ∃ events, outlook.events column = .ok events

variable {room : Nat}

theorem completes_finished : Completes 0 (finished : Outlook settings α) := fun _ _ => ⟨[], rfl⟩

theorem Completes.weaken {room' : Nat} {outlook : Outlook settings α}
    (completes : Completes room outlook) (more : room ≤ room') : Completes room' outlook :=
  fun column word => completes column (by omega)

theorem Completes.text (completes : Completes room rest) (content : String) (label : Option α) :
    Completes (content.length + room) (rest.text content label) := by
  intro column word
  obtain ⟨later, goesOn⟩ := completes (column + content.length) (by omega)
  have sum : addColumns column content.length = .ok (column + content.length) :=
    addColumns_eq_ok.mpr ⟨rfl, by omega⟩
  refine ⟨.fragment (.text content label) :: later, ?_⟩
  simp only [Outlook.text, sum, Except.bind, goesOn]
  rfl

theorem Completes.newline (completes : Completes room rest) :
    Completes room (rest.newline 0) := by
  intro column word
  obtain ⟨later, goesOn⟩ := completes 0 (by omega)
  refine ⟨.fragment (.newline 0) :: later, ?_⟩
  have length : lineBreakLength 0 = .ok 1 := rfl
  simp only [Outlook.newline, length, Except.bind, goesOn]
  rfl

theorem Completes.choice (completes : Completes room wide) (completes' : Completes room narrow) :
    Completes room (wide.choice narrow) := by
  intro column word
  obtain ⟨events, display⟩ := completes column word
  obtain ⟨events', display'⟩ := completes' column word
  simp only [Outlook.choice]
  cases fits : wide.fits column with
  | error fault =>
    -- The wide option, which is displayed in full, would meet the fault as well.
    rw [wide.events_of_fault column fault fits] at display
    cases display
  | ok answer =>
    cases answer with
    | true => exact ⟨_, congrArg (Except.map _) display⟩
    | false => exact ⟨_, congrArg (Except.map _) display'⟩

def Shows (outlook : Outlook settings α) (column : Nat) (shown : String) : Prop :=
  ∀ events, outlook.events column = .ok events →
    Fragment.plainText (Event.shown events) = shown

variable {shown : String}

theorem shows_finished (column : Nat) : Shows (finished : Outlook settings α) column "" := by
  intro events display
  cases display
  rfl

theorem Shows.text {content : String} (shows : Shows rest (column + content.length) shown)
    (label : Option α) : Shows (rest.text content label) column (content ++ shown) := by
  intro events display
  obtain ⟨next, later, sum, goesOn, rfl⟩ := events_text display
  obtain ⟨rfl, _⟩ := addColumns_eq_ok.mp sum
  rw [Event.shown_fragment, Fragment.plainText_cons, shows later goesOn]
  rfl

theorem Shows.newline (shows : Shows rest 0 shown) :
    Shows (rest.newline 0) column ("\n" ++ shown) := by
  intro events display
  obtain ⟨size, later, length, goesOn, rfl⟩ := events_newline display
  rw [Event.shown_fragment, Fragment.plainText_cons, shows later goesOn]
  rfl

theorem Shows.choice (shows : wide.fits column = .ok true → Shows wide column shown)
    (shows' : wide.fits column = .ok false → Shows narrow column shown) :
    Shows (wide.choice narrow) column shown := by
  intro events display
  rcases events_choice display with ⟨later, fits, goesOn, rfl⟩ | ⟨later, unfit, goesOn, rfl⟩
  · rw [Event.shown_choice]
    exact shows fits later goesOn
  · rw [Event.shown_choice]
    exact shows' unfit later goesOn

end Outlook

end LineLayout
