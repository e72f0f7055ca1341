import LineLayout.Proofs.Printer.Decided
/-!
A printer that looks ahead anew at every choice displays what the printer displays that keeps its
decisions, and the kept decisions are the ones that looking ahead anew would give.
-/
namespace LineLayout.Printer

open Lookahead (plan)

variable {α : Type}

theorem recordAnew_eq (events : Array (Event α)) (printer : Printer α) :
    recordAnew events printer =
      match printer.forget.step with
      | .finished => ⟨events, none⟩
      | .silent next => recordAnew events next
      | .resolved column wide next => recordAnew (events.push (.choice column wide)) next
      | .shows fragment next => recordAnew (events.push (.fragment fragment)) next
      | .fault fault => ⟨events, some fault⟩ := by
  rw [recordAnew]
  split <;> simp only [*]

theorem recordAnew_eq_recordAfter (settings : Settings) (column : Nat) (entries : List (Entry α))
    (decided decided' : List Bool) (events : Array (Event α))
    (coherent : Coherent (ofEntries settings column entries decided)) :
    recordAnew events (ofEntries settings column entries decided') =
      recordAfter events (ofEntries settings column entries decided) := by
  -- The decisions of the two printers drift apart, so those of the first one stay arbitrary.
  induction entries using Entry.induction generalizing column decided decided' events with
  | nil => rw [recordAnew_eq, recordAfter_eq, forget_ofEntries, step_nil, step_nil]
  | empty indentation later ih =>
    have kept := step_coherent coherent (congrArg Progress.next? (step_empty ..))
    rw [recordAnew_eq, recordAfter_eq, forget_ofEntries, step_empty, step_empty]
    exact ih _ _ _ _ kept
  | text indentation content label later ih =>
    have kept := fun next => @step_coherent _ _ next coherent
    rw [step_text] at kept
    rw [recordAnew_eq, recordAfter_eq, forget_ofEntries, step_text, step_text]
    cases sum : addColumns column content.length with
    | error fault => rfl
    | ok moved => exact ih _ _ _ _ (kept _ (by rw [sum]; rfl))
  | newline indentation later ih =>
    have kept := fun next => @step_coherent _ _ next coherent
    rw [step_newline] at kept
    rw [recordAnew_eq, recordAfter_eq, forget_ofEntries, step_newline, step_newline]
    cases length : lineBreakLength indentation with
    | error fault => rfl
    | ok size => exact ih _ _ _ _ (kept _ (by rw [length]; rfl))
  | concat indentation left right later ih =>
    have kept := step_coherent coherent (congrArg Progress.next? (step_concat ..))
    rw [recordAnew_eq, recordAfter_eq, forget_ofEntries, step_concat, step_concat]
    exact ih _ _ _ _ kept
  | indent indentation body later ih =>
    have kept := fun next => @step_coherent _ _ next coherent
    rw [step_indent] at kept
    rw [recordAnew_eq, recordAfter_eq, forget_ofEntries, step_indent, step_indent]
    cases sum : addColumns indentation settings.tabWidth with
    | error fault => rfl
    | ok deeper => exact ih _ _ _ _ _ (kept _ (by rw [sum]; rfl))
  | hang indentation body later ih =>
    have kept := step_coherent coherent (congrArg Progress.next? (step_hang ..))
    rw [recordAnew_eq, recordAfter_eq, forget_ofEntries, step_hang, step_hang]
    exact ih _ _ _ _ _ kept
  | choice indentation wide narrow later ihWide ihNarrow =>
    have kept := fun next => @step_coherent _ _ next coherent
    rw [step_choice_of_coherent coherent] at kept
    rw [recordAnew_eq, recordAfter_eq, forget_ofEntries, step_choice_of_coherent coherent,
      step_choice_of_coherent (.inl rfl)]
    cases tried : plan settings.width settings.tabWidth column (⟨indentation, wide⟩ :: later) with
    | error fault => rfl
    | ok answer =>
      cases answer with
      | some found => exact ihWide _ _ _ _ (kept _ (by rw [tried]; rfl))
      | none => exact ihNarrow _ _ _ _ (kept _ (by rw [tried]; rfl))

/-- What the kept decisions of a printer promise about its next step. -/
structure Reliable (printer : Printer α) : Prop where
  /-- Looking ahead anew at a choice says wide exactly if that is decided, and then finds the
  decisions that are left. -/
  choice : ∀ indentation wide narrow decision left,
    printer.stack.back? = some ⟨indentation, .choice wide narrow⟩ →
    printer.decided = decision :: left →
    Lookahead.decide? printer.width printer.tabWidth printer.stack.pop printer.column
      ⟨indentation, wide⟩ = .ok (if decision then some left.toArray else none)
  newline : ∀ indentation, printer.stack.back? = some ⟨indentation, .newline⟩ →
    printer.decided = []
  finished : printer.stack = #[] → printer.decided = []
  once : ∀ column next, printer.LooksAhead → printer.step = .resolved column true next →
    ∀ events last, Trail next events last →
      (∀ indentation, .fragment (.newline indentation) ∉ events) → ¬ last.LooksAhead

theorem not_looksAhead_of_settled {printer : Printer α} (settled : Settled printer) :
    ¬ printer.LooksAhead := by
  rintro ⟨nothing, indentation, wide, narrow, next⟩
  rw [eq_ofEntries_of_back? next, nothing] at settled
  rcases plan_wide_of_settled settled with ⟨found, impossible, _⟩ | ⟨found, impossible, _⟩ <;>
    cases impossible

theorem settled_of_looksAhead {printer next : Printer α} {column : Nat}
    (looks : printer.LooksAhead) (progress : printer.step = .resolved column true next) :
    Settled next := by
  obtain ⟨nothing, indentation, wide, narrow, choice⟩ := looks
  have same := eq_ofEntries_of_back? choice
  rw [nothing] at same
  rw [same, step_choice_of_coherent (.inl rfl)] at progress
  split at progress <;> cases progress
  exact settled_ofEntries.mpr (by assumption)

theorem decided_of_settled_ofEntries {settings : Settings} {column : Nat}
    {entries : List (Entry α)} {decided : List Bool}
    (settled : Settled (ofEntries settings column entries decided))
    (ends : entries = [] ∨ ∃ indentation later, entries = ⟨indentation, .newline⟩ :: later) :
    decided = [] := by
  rw [settled_ofEntries] at settled
  rcases ends with rfl | ⟨indentation, later, rfl⟩
  · rw [Lookahead.plan_nil] at settled
    split at settled <;> cases settled
    rfl
  · rw [Lookahead.plan_newline] at settled
    split at settled <;> cases settled
    rfl

theorem reliable_of_coherent {printer : Printer α} (coherent : Coherent printer) :
    Reliable printer where
  choice := by
    intro indentation wide narrow decision left next decided
    rcases coherent with nothing | settled
    · rw [nothing] at decided
      cases decided
    rw [eq_ofEntries_of_back? next, decided] at settled
    rw [Lookahead.decide?_eq_plan]
    rcases plan_wide_of_settled settled with ⟨found, same, tried⟩ | ⟨found, same, tried, _⟩ <;>
      cases same
    · exact congrArg (Except.map (Option.map List.toArray)) tried
    · exact congrArg (Except.map (Option.map List.toArray)) tried
  newline := by
    intro indentation next
    rcases coherent with nothing | settled
    · exact nothing
    rw [eq_ofEntries_of_back? next] at settled
    exact decided_of_settled_ofEntries settled (.inr ⟨_, _, rfl⟩)
  finished := by
    intro empty
    rcases coherent with nothing | settled
    · exact nothing
    obtain ⟨settings, column, entries, decided, rfl⟩ := printer.exists_ofEntries
    refine decided_of_settled_ofEntries settled (.inl ?_)
    simpa [ofEntries] using empty
  once := by
    intro column next looks progress events last trail sameLine
    have settled := settled_of_looksAhead looks progress
    exact not_looksAhead_of_settled (trail_settled trail settled sameLine)

/-- Every printer on the way keeps decisions that agree with looking ahead anew, so looking ahead
anew at every choice gives the same display. -/
theorem kept_decisions_reliable (settings : Settings) (d : Doc α) :
    (∀ printer, Reachable settings d printer → Reliable printer) ∧
      recordAnew #[] (start settings d) = d.record settings := by
  refine ⟨fun printer reachable => reliable_of_coherent (reachable_coherent reachable), ?_⟩
  exact recordAnew_eq_recordAfter settings 0 [⟨0, d⟩] [] [] #[] (.inl rfl)

theorem kept_decision_of_nested_choice :
    Reliable (⟨1, 4, 0, #[⟨0, .choice (.text "ab" none) .newline⟩], [false]⟩ : Printer Unit) := by
  have progress : (start ⟨1, 4⟩ (.choice (.choice (.text "ab" none) .newline) .empty)).step =
      .resolved 0 true
        (⟨1, 4, 0, #[⟨0, .choice (.text "ab" none) .newline⟩], [false]⟩ : Printer Unit) := by
    cbv
  exact (kept_decisions_reliable _ _).1 _ ⟨_, .resolved progress (.here _)⟩

end LineLayout.Printer
