import LineLayout.Doc.Extent
import LineLayout.Proofs.Outlook.Alike
/-!
Outlooks on a line with room to spare: where a document and what follows cannot outgrow the width,
every choice is wide. The display of a document without choices is the same at every width.
-/
namespace LineLayout

open Printer (Event)

variable {settings settings' : Settings} {α : Type}

namespace Outlook

/-- Whether an outlook displays what the widest one does, all of its choices wide, from every column
that leaves some room within the width. -/
structure Ample (room : Nat) (full widest : Outlook settings α) : Prop where
  fits : ∀ column, column + room ≤ settings.width → full.fits column ≠ .ok false
  shown : ∀ column, column + room ≤ settings.width →
    (full.events column).map Event.shown = (widest.events column).map Event.shown
  wide : ∀ column events, column + room ≤ settings.width → full.events column = .ok events →
    ∀ isWide ∈ Event.resolved events, isWide = true

variable {room room' : Nat} {full widest : Outlook settings α}

theorem Ample.weaken (ample : Ample room full widest) (more : room ≤ room') :
    Ample room' full widest where
  fits column bound := ample.fits column (by omega)
  shown column bound := ample.shown column (by omega)
  wide column events bound := ample.wide column events (by omega)

theorem ample_finished : Ample 0 (finished : Outlook settings α) finished where
  fits column bound := by
    have inside : column ≤ settings.width := bound
    simp [finished, inside]
  shown _ _ := rfl
  wide column events _ display := by
    cases display
    exact List.forall_mem_nil _

theorem ample_stopped (room : Nat) (fault : Fault) :
    Ample room (stopped fault : Outlook settings α) (stopped fault) where
  fits column bound := by
    have inside : ¬ settings.width < column := by omega
    simp [stopped, inside]
  shown _ _ := rfl
  wide _ _ _ := nofun

theorem Ample.text (content : String) (label : Option α) (ample : Ample room full widest) :
    Ample (content.length + room) (full.text content label) (widest.text content label) where
  fits column bound unfit := by
    rcases fits_text unfit with ⟨tooWide, _⟩ | onward
    · omega
    · exact ample.fits _ (by omega) onward
  shown column bound := by
    simp only [Outlook.text]
    cases sum : addColumns column content.length with
    | error fault => rfl
    | ok next =>
      obtain ⟨rfl, _⟩ := addColumns_eq_ok.mp sum
      have same := ample.shown (column + content.length) (by omega)
      simp only [Except.bind, map_shown_fragment, same]
  wide column events bound display := by
    obtain ⟨next, later, sum, goesOn, rfl⟩ := events_text display
    obtain ⟨rfl, _⟩ := addColumns_eq_ok.mp sum
    exact ample.wide _ later (by omega) goesOn

theorem Ample.newline {indentation : Nat} (ample : Ample room full widest)
    (deep : indentation + room ≤ settings.width) :
    Ample 0 (full.newline indentation) (widest.newline indentation) where
  fits column bound := by
    have inside : column ≤ settings.width := bound
    simp [Outlook.newline, inside]
  shown column bound := by
    simp only [Outlook.newline]
    cases lineBreakLength indentation with
    | error fault => rfl
    | ok size => simp only [Except.bind, map_shown_fragment, ample.shown _ deep]
  wide column events bound display := by
    obtain ⟨size, later, length, goesOn, rfl⟩ := events_newline display
    exact ample.wide _ later deep goesOn

theorem Ample.choice (ample : Ample room full widest) (narrow : Outlook settings α) :
    Ample room (full.choice narrow) widest where
  fits column bound unfit :=
    ample.fits column bound (fits_choice_eq_false.mp unfit).1
  shown column bound := by
    have same := ample.shown column bound
    simp only [Outlook.choice]
    cases fits : full.fits column with
    | error fault =>
      rw [← same, full.events_of_fault column fault fits]
    | ok answer =>
      cases answer with
      | true => rw [map_shown_choice, same]
      | false => exact absurd fits (ample.fits column bound)
  wide column events bound display := by
    rcases events_choice display with ⟨later, _, goesOn, rfl⟩ | ⟨_, unfit, _, _⟩
    · rw [Event.resolved_choice, List.forall_mem_cons]
      exact ⟨rfl, ample.wide column later bound goesOn⟩
    · exact absurd unfit (ample.fits column bound)

theorem Ample.before (d : Doc α) {indentation : Nat} (ample : Ample room full widest)
    (deep : indentation + (d.extent settings.tabWidth + room) ≤ settings.width) :
    Ample (d.extent settings.tabWidth + room) (d.before indentation full)
      (d.widest.before indentation widest) := by
  induction d generalizing indentation room full widest with
  | empty => exact ample.weaken (by omega)
  | text content label =>
    rw [Doc.extent_text]
    exact ample.text content label
  | newline => exact (ample.newline (by omega)).weaken (by omega)
  | concat left right ihLeft ihRight =>
    rw [Doc.extent_concat, Nat.add_assoc] at deep ⊢
    exact ihLeft (ihRight ample (by omega)) deep
  | indent body ih =>
    rw [Doc.extent_indent] at deep ⊢
    simp only [Doc.before, Doc.widest]
    cases sum : addColumns indentation settings.tabWidth with
    | error fault => exact ample_stopped _ fault
    | ok deeper =>
      obtain ⟨rfl, _⟩ := addColumns_eq_ok.mp sum
      exact (ih ample (by omega)).weaken (by omega)
  | hang body ih =>
    -- The body is indented to the column from which it is displayed: that one leaves room for it.
    rw [Doc.extent_hang]
    exact {
      fits := fun column bound => (ih ample bound).fits column bound
      shown := fun column bound => (ih ample bound).shown column bound
      wide := fun column events bound => (ih ample bound).wide column events bound }
  | choice wide narrow ihWide ihNarrow =>
    rw [Doc.extent_choice] at deep ⊢
    exact ((ihWide ample (by omega)).choice _).weaken (by omega)

end Outlook

namespace Doc

theorem ChoiceFree.events_before {d : Doc α} (free : d.ChoiceFree)
    (tabs : settings.tabWidth = settings'.tabWidth) (rest : Outlook settings α)
    (rest' : Outlook settings' α) (alike : rest.events = rest'.events) (indentation : Nat) :
    (d.before indentation rest).events = (d.before indentation rest').events := by
  induction d generalizing rest rest' indentation with
  | empty => exact alike
  | text content label =>
    funext column
    simp only [before, Outlook.text, alike]
  | newline =>
    funext column
    simp only [before, Outlook.newline, alike]
  | concat left right ihLeft ihRight =>
    exact ihLeft free.1 _ _ (ihRight free.2 rest rest' alike indentation) indentation
  | indent body ih =>
    simp only [before, tabs]
    cases addColumns indentation settings'.tabWidth with
    | error fault => rfl
    | ok deeper => exact ih free rest rest' alike deeper
  | hang body ih =>
    funext column
    exact congrFun (ih free rest rest' alike column) column
  | choice => cases free

theorem ChoiceFree.render_eq {d : Doc α} (free : d.ChoiceFree) (width width' tabWidth : Nat) :
    d.render ⟨width, tabWidth⟩ = d.render ⟨width', tabWidth⟩ := by
  have tabs : (⟨width, tabWidth⟩ : Settings).tabWidth = (⟨width', tabWidth⟩ : Settings).tabWidth :=
    rfl
  have alike : (d.outlook ⟨width, tabWidth⟩).events = (d.outlook ⟨width', tabWidth⟩).events :=
    free.events_before tabs .finished .finished rfl 0
  rw [render_eq_outlook, render_eq_outlook, alike]

section Widest

variable {d : Doc α}

theorem ample_outlook (ample : d.extent settings.tabWidth ≤ settings.width) :
    Outlook.Ample (d.extent settings.tabWidth) (d.outlook settings) (d.widest.outlook settings) :=
  Outlook.ample_finished.before d (by omega)

theorem render_eq_widest (ample : d.extent settings.tabWidth ≤ settings.width) :
    d.render settings = d.widest.render settings := by
  rw [render_eq_outlook, render_eq_outlook]
  exact (ample_outlook ample).shown 0 (by omega)

theorem decisions_of_ample (ample : d.extent settings.tabWidth ≤ settings.width)
    {fragments : List (Fragment α)} (complete : d.render settings = .ok fragments) :
    ∀ isWide ∈ (d.record settings).decisions, isWide = true :=
  (ample_outlook ample).wide 0 _ (by omega) (events_outlook_of_render complete)

end Widest

end Doc

end LineLayout
