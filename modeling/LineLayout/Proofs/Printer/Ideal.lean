import LineLayout.Layout.Ideal
import LineLayout.Proofs.Printer.Decided
import LineLayout.Proofs.Printer.Trails
/-!
The printer displays the ideal layout as long as no fault stops it.
-/
namespace LineLayout.Printer

open Lookahead (plan)

variable {α : Type}

def settings (printer : Printer α) : Settings := ⟨printer.width, printer.tabWidth⟩

def ideal (printer : Printer α) : List (Event α) :=
  Ideal.events printer.width printer.tabWidth printer.column printer.entries

def Progress.events : Progress α → List (Event α)
  | finished | silent _ | fault _ => []
  | resolved column wide _ => [.choice column wide]
  | shows fragment _ => [.fragment fragment]

/-- Whether a printer leads to another one as the ideal layout has it. -/
structure Agrees (printer : Printer α) (events : List (Event α)) (next : Printer α) : Prop where
  settings : next.settings = printer.settings
  column : next.column = Event.columnAfter printer.column events
  ideal : printer.ideal = events ++ next.ideal

theorem ideal_ofEntries (settings : Settings) (column : Nat) (entries : List (Entry α))
    (decided : List Bool) : (ofEntries settings column entries decided).ideal =
      Ideal.events settings.width settings.tabWidth column entries := by
  simp [ideal]

theorem Event.columnAfter_append (column : Nat) (events events' : List (Event α)) :
    columnAfter column (events ++ events') = columnAfter (columnAfter column events) events' := by
  fun_induction columnAfter column events with
  | case1 column => rfl
  | case2 column at' wide later ih => rw [List.cons_append, columnAfter, ih]
  | case3 column content label later ih => rw [List.cons_append, columnAfter, ih]
  | case4 column indentation later ih => rw [List.cons_append, columnAfter, ih]

theorem Agrees.refl (printer : Printer α) : Agrees printer [] printer := ⟨rfl, rfl, rfl⟩

theorem Agrees.trans {first middle last : Printer α} {events events' : List (Event α)}
    (agrees : Agrees first events middle) (agrees' : Agrees middle events' last) :
    Agrees first (events ++ events') last where
  settings := agrees'.settings.trans agrees.settings
  column := by rw [agrees'.column, agrees.column, Event.columnAfter_append]
  ideal := by rw [agrees.ideal, agrees'.ideal, List.append_assoc]

theorem step_agrees {printer next : Printer α} (coherent : Coherent printer)
    (progress : printer.step.next? = some next) : Agrees printer printer.step.events next := by
  obtain ⟨settings, column, entries, decided, rfl⟩ := printer.exists_ofEntries
  have moves := moves_step settings column entries decided
  generalize (ofEntries settings column entries decided).step = step at progress moves ⊢
  cases moves with
  | finished | fault => cases progress
  | empty | concat | newline | hang =>
    cases progress
    exact ⟨rfl, rfl, by rw [ideal_ofEntries, ideal_ofEntries, Ideal.events]; rfl⟩
  | text sum =>
    cases progress
    have moved := (addColumns_eq_ok.mp sum).1
    exact ⟨rfl, moved.symm, by rw [ideal_ofEntries, ideal_ofEntries, Ideal.events, moved]; rfl⟩
  | indent sum =>
    cases progress
    have deeper := (addColumns_eq_ok.mp sum).1
    exact ⟨rfl, rfl, by rw [ideal_ofEntries, ideal_ofEntries, Ideal.events, deeper]; rfl⟩
  | @choice _ _ _ _ isWide _ chosen =>
    cases progress
    have fits := Lookahead.firstFit?_of_plan (plan_of_choose coherent chosen)
    cases isWide with
    | true | false =>
      exact ⟨rfl, rfl, by rw [ideal_ofEntries, ideal_ofEntries, Ideal.events, fits]; rfl⟩

theorem ideal_of_finished {printer : Printer α} (finished : printer.step = .finished) :
    printer.ideal = [] := by
  rw [ideal, step_eq_finished_iff.mp finished, Ideal.events]

theorem trail_agrees {printer last : Printer α} {events : List (Event α)}
    (trail : Trail printer events last) (coherent : Coherent printer) :
    Agrees printer events last := by
  induction trail with
  | here printer => exact .refl printer
  | silent progress _ ih | resolved progress _ ih | shows progress _ ih =>
    have next : _ := congrArg Progress.next? progress
    have agrees := step_agrees coherent next
    rw [progress] at agrees
    exact agrees.trans (ih (step_coherent coherent next))

theorem events_eq_ideal {printer last : Printer α} {events : List (Event α)}
    (trail : Trail printer events last) (coherent : Coherent printer)
    (finished : last.step = .finished) : events = printer.ideal := by
  have agrees := trail_agrees trail coherent
  rw [agrees.ideal, ideal_of_finished finished, List.append_nil]

theorem render_eq_ideal {settings : Settings} {d : Doc α} {fragments : List (Fragment α)}
    (complete : d.render settings = .ok fragments) :
    fragments = Event.shown (Ideal.events settings.width settings.tabWidth 0 [⟨0, d⟩]) := by
  obtain ⟨events, last, trail, finished, rfl⟩ := exists_trail_of_render complete
  rw [events_eq_ideal trail (.inl rfl) finished, start_eq_ofEntries, ideal_ofEntries]

end LineLayout.Printer
