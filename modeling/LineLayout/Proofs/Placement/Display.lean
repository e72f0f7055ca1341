import Mathlib.Control.Monad.Basic
import LineLayout.Proofs.Placement.Resolved
import LineLayout.Proofs.Printer.Ideal
/-!
What the printer displays is the layout, by recursion on its structure, of the document with its
choices resolved as the printer resolved them.
-/
namespace LineLayout.Printer

variable {α : Type}

theorem Event.columnAfter_eq_foldl (column : Nat) (events : List (Event α)) :
    columnAfter column events = (shown events).foldl Fragment.columnAfter column := by
  fun_induction columnAfter column events with
  | case1 column => rfl
  | case2 column at' wide later ih => exact ih
  | case3 column content label later ih => exact ih
  | case4 column indentation later ih => exact ih

theorem Trail.of_step {printer next : Printer α} (progress : printer.step.next? = some next) :
    Trail printer printer.step.events next := by
  cases case : printer.step with
  | finished | fault =>
    rw [case] at progress
    cases progress
  | silent =>
    rw [case] at progress
    cases progress
    exact .silent case (.here next)
  | resolved =>
    rw [case] at progress
    cases progress
    exact .resolved case (.here next)
  | shows =>
    rw [case] at progress
    cases progress
    exact .shows case (.here next)

theorem Trail.exists_moves {settings : Settings} {column : Nat} {entry : Entry α}
    {later : List (Entry α)} {decided : List Bool} {events : List (Event α)} {last : Printer α}
    (trail : Trail (ofEntries settings column (entry :: later) decided) events last)
    (finished : last.step = .finished) :
    ∃ step next left, Moves settings decided column (entry :: later) step ∧
      step.next? = some next ∧
      Trail (ofEntries settings column (entry :: later) decided) step.events next ∧
      Trail next left last ∧ events = step.events ++ left := by
  have moves := moves_step settings column (entry :: later) decided
  cases trail with
  | here =>
    have nothing := step_eq_finished_iff.mp finished
    rw [entries_ofEntries] at nothing
    cases nothing
  | silent progress rest | resolved progress rest | shows progress rest =>
    have next : _ := congrArg Progress.next? progress
    refine ⟨_, _, _, moves, next, .of_step next, rest, ?_⟩
    rw [progress]
    rfl

/-- A display that ends comes through its first entry to the entries below it, and shows on the way
what the replay of that entry shows. -/
theorem exists_trail_through {settings : Settings} {column indentation : Nat} {d : Doc α}
    {later : List (Entry α)} {decided : List Bool} {events : List (Event α)} {last : Printer α}
    (trail : Trail (ofEntries settings column (⟨indentation, d⟩ :: later) decided) events last)
    (finished : last.step = .finished) :
    ∃ column' decided' shown left,
      Trail (ofEntries settings column (⟨indentation, d⟩ :: later) decided) shown
        (ofEntries settings column' later decided') ∧
      Trail (ofEntries settings column' later decided') left last ∧ events = shown ++ left ∧
      d.replay settings.tabWidth indentation column (Event.resolved events) =
        some ⟨shown, column', Event.resolved left⟩ := by
  induction d generalizing column indentation later decided events with
  | empty =>
    obtain ⟨step, next, left, moves, progress, first, rest, rfl⟩ := trail.exists_moves finished
    cases moves with
    | fault => cases progress
    | empty =>
      cases progress
      exact ⟨_, _, _, left, first, rest, rfl, rfl⟩
  | text content label =>
    obtain ⟨step, next, left, moves, progress, first, rest, rfl⟩ := trail.exists_moves finished
    cases moves with
    | fault => cases progress
    | text sum =>
      cases progress
      refine ⟨_, _, _, left, first, rest, rfl, ?_⟩
      rw [← (addColumns_eq_ok.mp sum).1]
      rfl
  | newline =>
    obtain ⟨step, next, left, moves, progress, first, rest, rfl⟩ := trail.exists_moves finished
    cases moves with
    | fault => cases progress
    | newline =>
      cases progress
      exact ⟨_, _, _, left, first, rest, rfl, rfl⟩
  | concat front back ihFront ihBack =>
    obtain ⟨step, next, left, moves, progress, first, rest, rfl⟩ := trail.exists_moves finished
    cases moves with
    | fault => cases progress
    | concat =>
      cases progress
      obtain ⟨_, _, shown, between, through, onward, rfl, replays⟩ := ihFront rest
      obtain ⟨_, _, shown', after, through', below, rfl, replays'⟩ := ihBack onward
      refine ⟨_, _, _, after, first.append (through.append through'), below, ?_, ?_⟩
      · simp only [List.append_assoc]
      · simp [Doc.replay, Progress.events, replays, replays']
  | indent body ih =>
    obtain ⟨step, next, left, moves, progress, first, rest, rfl⟩ := trail.exists_moves finished
    cases moves with
    | fault => cases progress
    | indent sum =>
      cases progress
      obtain ⟨_, _, shown, after, through, below, rfl, replays⟩ := ih rest
      rw [← (addColumns_eq_ok.mp sum).1] at replays
      exact ⟨_, _, _, after, first.append through, below, rfl, replays⟩
  | hang body ih =>
    obtain ⟨step, next, left, moves, progress, first, rest, rfl⟩ := trail.exists_moves finished
    cases moves with
    | fault => cases progress
    | hang =>
      cases progress
      obtain ⟨_, _, shown, after, through, below, rfl, replays⟩ := ih rest
      exact ⟨_, _, _, after, first.append through, below, rfl, replays⟩
  | choice wide narrow ihWide ihNarrow =>
    obtain ⟨step, next, left, moves, progress, first, rest, rfl⟩ := trail.exists_moves finished
    cases moves with
    | fault => cases progress
    | @choice _ _ _ _ isWide _ chosen =>
      cases progress
      cases isWide with
      | true =>
        obtain ⟨_, _, shown, after, through, below, rfl, replays⟩ := ihWide rest
        refine ⟨_, _, _, after, first.append through, below, rfl, ?_⟩
        simp [Doc.replay, Progress.events, replays]
      | false =>
        obtain ⟨_, _, shown, after, through, below, rfl, replays⟩ := ihNarrow rest
        refine ⟨_, _, _, after, first.append through, below, rfl, ?_⟩
        simp [Doc.replay, Progress.events, replays]

theorem exists_trail_of_next? {printer next : Printer α} {fragment : Fragment α}
    (shows : printer.next? = .ok (some (fragment, next))) :
    ∃ events, Trail printer events next ∧ Event.shown events = [fragment] := by
  fun_induction next? printer with
  | case1 => cases shows
  | case2 printer middle progress ih =>
    obtain ⟨events, trail, shown⟩ := ih shows
    exact ⟨events, .silent progress trail, shown⟩
  | case3 printer column isWide middle progress ih =>
    obtain ⟨events, trail, shown⟩ := ih shows
    exact ⟨_, .resolved progress trail, shown⟩
  | case4 printer fragment' middle progress =>
    cases shows
    exact ⟨_, .shows progress (.here next), rfl⟩
  | case5 => cases shows

theorem column_of_step_resolved {printer next : Printer α} {logged : Nat} {isWide : Bool}
    (progress : printer.step = .resolved logged isWide next) : logged = printer.column := by
  obtain ⟨settings, column, entries, decided, rfl⟩ := printer.exists_ofEntries
  have moves := moves_step settings column entries decided
  rw [progress] at moves
  cases moves
  rfl

theorem replay_of_render {settings : Settings} {d : Doc α} {fragments : List (Fragment α)}
    (complete : d.render settings = .ok fragments) :
    ∃ column, d.replay settings.tabWidth 0 0 (d.record settings).decisions =
      some ⟨(d.record settings).events.toList, column, []⟩ := by
  obtain ⟨last, trail, finished, _⟩ := trail_of_render complete
  rw [start_eq_ofEntries] at trail
  obtain ⟨column, decided, shown, left, _, below, listed, replays⟩ :=
    exists_trail_through trail finished
  -- Nothing lies below the document, so nothing is observed after it.
  cases below with
  | here =>
    rw [List.append_nil] at listed
    rw [← listed] at replays
    exact ⟨column, replays⟩
  | silent progress _ | resolved progress _ | shows progress _ =>
    rw [step_nil] at progress
    cases progress

/-- A display in full is a layout: its decisions resolve all choices of the document, and the
fragments and columns are those of the document so resolved, laid out by recursion on its
structure. -/
theorem display_is_layout {settings : Settings} {d : Doc α} {fragments : List (Fragment α)}
    (complete : d.render settings = .ok fragments) :
    ∃ resolved column,
      d.resolve (d.record settings).decisions = some (resolved, []) ∧ resolved.ChoiceFree ∧
      resolved.place settings.tabWidth 0 0 = (fragments, column) ∧
      d.replay settings.tabWidth 0 0 (d.record settings).decisions =
        some ⟨(d.record settings).events.toList, column, []⟩ ∧
      ∀ before printer, Trail (start settings d) before printer →
        before <+: (d.record settings).events.toList ∧
        (0 :: resolved.columns settings.tabWidth 0 0)[(Event.shown before).length]? =
          some printer.column ∧
        (∀ logged isWide next, printer.step = .resolved logged isWide next →
          logged = printer.column) ∧
        ∀ fragment next, printer.next? = .ok (some (fragment, next)) →
          (resolved.columns settings.tabWidth 0 0)[(Event.shown before).length]? =
            some next.column := by
  obtain ⟨column, replays⟩ := replay_of_render complete
  obtain ⟨resolved, resolves, places⟩ := Doc.exists_resolve_of_replay replays
  obtain ⟨last, trail, finished, rfl⟩ := trail_of_render complete
  have listed : ∀ before printer, Trail (start settings d) before printer →
      before <+: (d.record settings).events.toList := by
    intro before printer reaches
    obtain ⟨after, _, split⟩ := trail.split (by rw [finished]; rfl) reaches
    exact ⟨after, split.symm⟩
  have passes : ∀ before printer, Trail (start settings d) before printer →
      (0 :: resolved.columns settings.tabWidth 0 0)[(Event.shown before).length]? =
        some printer.column := by
    intro before printer reaches
    obtain ⟨after, split⟩ := listed before printer reaches
    have moved : printer.column = Event.columnAfter 0 before :=
      (trail_agrees reaches (.inl rfl)).column
    rw [← split, Event.shown_append] at places
    rw [moved, Event.columnAfter_eq_foldl]
    exact Doc.getElem?_cons_columns places
  refine ⟨resolved, column, resolves, Doc.choiceFree_of_resolve resolves, places, replays, ?_⟩
  intro before printer reaches
  refine ⟨listed before printer reaches, passes before printer reaches,
    fun _ _ _ => column_of_step_resolved, ?_⟩
  intro fragment next shows
  obtain ⟨events, onward, shown⟩ := exists_trail_of_next? shows
  have passesNext := passes _ next (reaches.append onward)
  rw [Event.shown_append, shown, List.length_append] at passesNext
  exact passesNext

theorem hanging_break_is_layout : ∃ resolved column,
    (Doc.sum [.text "ab" (none : Option Unit), .hang (Doc.sum [.text "cd" none, .line,
      .indent (Doc.sum [.text "ef" none, .line, .text "gh" none])])]).resolve [false, false] =
      some (resolved, []) ∧
    resolved.place 2 0 0 = ([.text "ab" none, .text "cd" none, .newline 2, .text "ef" none,
      .newline 4, .text "gh" none], column) := by
  have complete : (Doc.sum [.text "ab" (none : Option Unit), .hang (Doc.sum [.text "cd" none, .line,
      .indent (Doc.sum [.text "ef" none, .line, .text "gh" none])])]).render ⟨6, 2⟩ =
      .ok [.text "ab" none, .text "cd" none, .newline 2, .text "ef" none, .newline 4,
        .text "gh" none] := by
    decide +kernel
  have decisions : ((Doc.sum [.text "ab" (none : Option Unit), .hang (Doc.sum [.text "cd" none,
      .line, .indent (Doc.sum [.text "ef" none, .line, .text "gh" none])])]).record
      ⟨6, 2⟩).decisions = [false, false] := by
    decide +kernel
  obtain ⟨resolved, column, resolves, _, places, _⟩ := display_is_layout complete
  rw [decisions] at resolves
  exact ⟨resolved, column, resolves, places⟩

end LineLayout.Printer
