import LineLayout.Proofs.Doc.Search
import LineLayout.Proofs.Fragment.Breaks
import LineLayout.Proofs.Ideal.Lines
import LineLayout.Proofs.Placement.Display
/-!
Line breaks in a display: they come from the line breaks of the document alone, and the column is
the length of the last line displayed so far.
-/
namespace LineLayout.Printer

variable {α : Type}

theorem back?_ofEntries (settings : Settings) (column : Nat) (entry : Entry α)
    (later : List (Entry α)) (decided : List Bool) :
    (ofEntries settings column (entry :: later) decided).stack.back? = some entry := by
  simp [ofEntries]

theorem of_step_shows {printer next : Printer α} {fragment : Fragment α}
    (progress : printer.step = .shows fragment next) :
    next.column = fragment.columnAfter printer.column ∧
      ((∃ indentation, fragment = .newline indentation ∧
          printer.stack.back? = some ⟨indentation, .newline⟩) ∨
        ∃ indentation content label, fragment = .text content label ∧
          printer.stack.back? = some ⟨indentation, .text content label⟩) := by
  obtain ⟨settings, column, entries, decided, rfl⟩ := printer.exists_ofEntries
  have moves := moves_step settings column entries decided
  rw [progress] at moves
  cases moves with
  | newline indentation later =>
    exact ⟨rfl, .inl ⟨_, rfl, back?_ofEntries ..⟩⟩
  | text sum =>
    exact ⟨(addColumns_eq_ok.mp sum).1.symm, .inr ⟨_, _, _, rfl, back?_ofEntries ..⟩⟩

theorem Trail.unbroken {settings : Settings} {d : Doc α} {events : List (Event α)}
    {printer : Printer α} (trail : Trail (start settings d) events printer)
    (unbroken : d.Unbroken) : Fragment.Unbroken (Event.shown events) := by
  have entries : Unbroken [(⟨0, d⟩ : Entry α)] := List.forall_mem_singleton.mpr unbroken
  have plain := Ideal.unbroken_shown_events settings.width settings.tabWidth 0 entries
  have ideal := (trail_agrees trail (.inl rfl)).ideal
  rw [start_eq_ofEntries, ideal_ofEntries] at ideal
  rw [ideal, Event.shown_append] at plain
  exact plain.of_append

theorem Trail.column_eq {settings : Settings} {d : Doc α} {events : List (Event α)}
    {printer : Printer α} (trail : Trail (start settings d) events printer)
    (unbroken : d.Unbroken) : printer.column = Fragment.lastLineLength (Event.shown events) := by
  have column : printer.column = Event.columnAfter 0 events :=
    (trail_agrees trail (.inl rfl)).column
  rw [column, Event.columnAfter_eq_foldl]
  exact Fragment.foldl_columnAfter (trail.unbroken unbroken)

/-- As far as a document without line breaks in its texts is displayed, the line feeds are those of
its line breaks: a fragment has one exactly if a line break was next, and it is then followed by the
indentation of that line break alone. The printer's column is the length of the last line. -/
theorem line_feeds_and_columns {settings : Settings} {d : Doc α} (valid : d.validate = .ok ()) :
    (∀ events printer, Trail (start settings d) events printer →
      printer.column = Fragment.lastLineLength (Event.shown events) ∧
      (Fragment.plainText (Event.shown events)).toList.count '\n' =
        (Event.shown events).countP Fragment.isNewline ∧
      ∀ fragment next, printer.step = .shows fragment next →
        ('\n' ∈ fragment.content.toList ↔
          ∃ indentation, printer.stack.back? = some ⟨indentation, .newline⟩) ∧
        ('\n' ∈ fragment.content.toList ↔ fragment.isNewline = true) ∧
        (fragment.isNewline = true →
          printer.stack.back? = some ⟨next.column, .newline⟩ ∧
          fragment.content.toList = '\n' :: List.replicate next.column ' ' ∧
          fragment.label = none)) ∧
    ∀ fragments, d.render settings = .ok fragments →
      ∃ resolved, d.resolve (d.record settings).decisions = some (resolved, []) ∧
        resolved.ChoiceFree ∧
        (Fragment.plainText fragments).toList.count '\n' = resolved.newlineCount := by
  have unbroken := Doc.validate_eq_ok_iff.mp valid
  constructor
  · intro events printer trail
    refine ⟨trail.column_eq unbroken, Fragment.count_plainText (trail.unbroken unbroken), ?_⟩
    intro fragment next progress
    have plain := (trail.append (.shows progress (.here next))).unbroken unbroken
    obtain ⟨column, ⟨indentation, rfl, top⟩ | ⟨indentation, content, label, rfl, top⟩⟩ :=
      of_step_shows progress
    · have here : next.column = indentation := column
      subst here
      have shown := Fragment.toList_content_newline (α := α) next.column
      have feed : '\n' ∈ (Fragment.newline next.column : Fragment α).content.toList := by
        rw [shown]
        exact List.mem_cons_self
      exact ⟨iff_of_true feed ⟨_, top⟩, iff_of_true feed (Fragment.isNewline_newline _),
        fun _ => ⟨top, shown, rfl⟩⟩
    · have breaks : breaksLine content = false := plain content label (by simp)
      have feed : '\n' ∉ (Fragment.text content label).content.toList :=
        Fragment.not_mem_toList_of_breaksLine breaks
      have flat : (Fragment.text content label).isNewline = false :=
        Fragment.isNewline_text breaks
      refine ⟨iff_of_false feed ?_, iff_of_false feed (by simp [flat]), by simp [flat]⟩
      rintro ⟨indentation', top'⟩
      rw [top] at top'
      cases top'
  · intro fragments complete
    obtain ⟨last, trail, _, rfl⟩ := trail_of_render complete
    obtain ⟨column, replays⟩ := replay_of_render complete
    obtain ⟨resolved, resolves, places⟩ := Doc.exists_resolve_of_replay replays
    have free := Doc.choiceFree_of_resolve resolves
    have plain := trail.unbroken unbroken
    refine ⟨resolved, resolves, free, ?_⟩
    rw [Fragment.count_plainText plain]
    have counted := Doc.countP_isNewline_place settings.tabWidth 0 0 free
    rw [places] at counted
    exact counted plain

theorem line_feeds_of_hanging_lines : ∃ resolved,
    (Doc.sum [.text "ab" (none : Option Unit), .line,
      .hang (Doc.sum [.text "c" none, .line, .text "d" none, .line])]).resolve
        [true, false, false] = some (resolved, []) ∧
    (Fragment.plainText [.text "ab" (none : Option Unit), .text " " none, .text "c" none,
      .newline 3, .text "d" none, .newline 3]).toList.count '\n' = resolved.newlineCount := by
  have valid : (Doc.sum [.text "ab" (none : Option Unit), .line,
      .hang (Doc.sum [.text "c" none, .line, .text "d" none, .line])]).validate = .ok () := by
    decide +kernel
  have complete : (Doc.sum [.text "ab" (none : Option Unit), .line,
      .hang (Doc.sum [.text "c" none, .line, .text "d" none, .line])]).render ⟨4, 4⟩ =
      .ok [.text "ab" none, .text " " none, .text "c" none, .newline 3, .text "d" none,
        .newline 3] := by
    decide +kernel
  have decisions : ((Doc.sum [.text "ab" (none : Option Unit), .line,
      .hang (Doc.sum [.text "c" none, .line, .text "d" none, .line])]).record ⟨4, 4⟩).decisions =
      [true, false, false] := by
    decide +kernel
  obtain ⟨resolved, resolves, _, count⟩ := (line_feeds_and_columns valid).2 _ complete
  rw [decisions] at resolves
  exact ⟨resolved, resolves, count⟩

end LineLayout.Printer
