import LineLayout.Proofs.Command.Selection
import LineLayout.Proofs.Fragment.Lines
import LineLayout.Proofs.Journal.History
import LineLayout.Proofs.Ron.Description
/-!
A run of the command prints the whole rendering or nothing, and says on the error output what it
notes in its journal.
-/
namespace LineLayout.Command

section

variable {world : World} {options : Options}

structure Ready (world : World) (options : Options) (journal : Journal) : Prop where
  performs : perform world options = load world options journal
  current : ∀ path file, options.log = some path → world.openFile path = .ok file →
    journal.current = some file

theorem Opens.ready (opens : Opens world options) : ∃ journal, Ready world options journal := by
  let start : Journal := { level := levelFor options.verbosity, files := world.files }
  cases asked : options.log with
  | none => exact ⟨start, by simp only [perform, asked, start], by simp [asked]⟩
  | some path =>
    obtain ⟨file, answer⟩ := opens path asked
    refine ⟨start.writeTo file, ?_, ?_⟩
    · simp only [perform, asked, Journal.redirect, answer, Except.map, start]
    · intro path' file' asked' answer'
      cases asked.symm.trans asked'
      cases answer.symm.trans answer'
      rfl

theorem opens_or_refused (world : World) (options : Options) :
    Opens world options ∨ ∃ failure, Refused world options failure := by
  cases asked : options.log with
  | none => exact .inl (by simp [Opens, asked])
  | some path =>
    cases answer : world.openFile path with
    | ok file => exact .inl (by simp [Opens, asked, answer])
    | error error => exact .inr ⟨_, .logFile asked answer⟩

/-- Every run comes to a document or is refused at some stage. -/
theorem loads_or_refused (world : World) (options : Options) :
    (∃ d, Loads world options d) ∨ ∃ failure, Refused world options failure := by
  rcases opens_or_refused world options with opens | refused
  · cases input : world.readFile options.file with
    | error error => exact .inr ⟨_, .unreadable ⟨opens, input⟩⟩
    | ok bytes =>
      have reads : Reads world options (.ok bytes) := ⟨opens, input⟩
      cases decoded : String.fromUTF8? bytes with
      | none => exact .inr ⟨_, .notText reads decoded⟩
      | some text =>
        have selects := (selects_iff options _).mpr rfl
        cases parsed : Description.read? (α := Description Style) _ text with
        | none => exact .inr ⟨_, .malformed reads decoded selects parsed⟩
        | some description =>
          cases built : description.build with
          | error error => exact .inr ⟨_, .invalid reads decoded selects parsed built⟩
          | ok d => exact .inl ⟨d, _, _, _, _, reads, decoded, selects, parsed, built⟩
  · exact .inr refused

theorem print_of_build {text : String} {format : Description.Format}
    {description : Description Style} {d : Doc Style} (journal : Journal)
    (selects : Selects options format) (parsed : Description.read? format text = some description)
    (built : description.build = .ok d) :
    (print world options text journal).2 =
      match d.render options.settings with
      | .ok fragments => .printed (printedText options.color fragments ++ "\n")
      | .error fault => .stopped fault := by
  have selected := (selects_iff options format).mp selects
  have read : Description.readDoc (α := Style) world.account format text = .ok d := by
    simp only [Description.readDoc, parsed, built]
  simp only [print, selected, read]
  have rendered (loading : Journal) :
      (loading.render options.settings d).2 = d.render options.settings := rfl
  split
  · rename_i fragments answer
    rw [← rendered, answer]
  · rename_i fault answer
    rw [← rendered, answer]

theorem run_of_loads {d : Doc Style} (loads : Loads world options d) :
    ∃ journal, run world options =
      match d.render options.settings with
      | .ok fragments => ⟨0, printedText options.color fragments ++ "\n", none, journal⟩
      | .error fault => ⟨101, "", some fault.message, journal⟩ := by
  obtain ⟨bytes, text, format, description, ⟨opens, input⟩, decoded, selects, parsed, built⟩ := loads
  obtain ⟨journal, ready⟩ := opens.ready
  have ending : (print world options text journal).2 = _ :=
    print_of_build journal selects parsed built
  simp only [run, ready.performs, load, input, decoded]
  rcases outcome : print world options text journal with ⟨after, result⟩
  rw [outcome] at ending
  cases rendered : d.render options.settings with
  | ok fragments =>
    rw [rendered] at ending
    subst ending
    exact ⟨after, rfl⟩
  | error fault =>
    rw [rendered] at ending
    subst ending
    exact ⟨after, rfl⟩

theorem print_of_error {text : String} {format : Description.Format} {error : Description.Error}
    (journal : Journal) (selects : Selects options format)
    (fails : Description.readDoc (α := Style) world.account format text = .error error) :
    print world options text journal =
      (journal.note .info ("Loading " ++ Text.quoted options.file ++ " as " ++ format.name),
        .failed (.source options.file error)) := by
  have selected := (selects_iff options format).mp selects
  simp only [print, selected, fails]

def Complains (world : World) (options : Options) (failure : Failure) : Prop :=
  ∃ journal : Journal,
    run world options = ⟨1, "", some ("docprint: " ++ failure.message),
      journal.note .error failure.message⟩ ∧
    ∀ path file, options.log = some path → world.openFile path = .ok file →
      journal.current = some file

theorem Ready.complains {journal after : Journal} {failure : Failure}
    (ready : Ready world options journal)
    (fails : load world options journal = (after, .failed failure))
    (same : after.current = journal.current) : Complains world options failure := by
  refine ⟨after, by simp only [run, ready.performs, fails], ?_⟩
  intro path file asked answer
  rw [same, ready.current path file asked answer]

theorem complains_of_source {bytes : ByteArray} {text : String} {format : Description.Format}
    {error : Description.Error} (reads : Reads world options (.ok bytes))
    (decoded : String.fromUTF8? bytes = some text) (selects : Selects options format)
    (fails : Description.readDoc (α := Style) world.account format text = .error error) :
    Complains world options (.source options.file error) := by
  obtain ⟨opens, input⟩ := reads
  obtain ⟨journal, ready⟩ := opens.ready
  have prints : load world options journal = print world options text journal := by
    simp only [load, input, decoded]
  exact ready.complains (prints.trans (print_of_error journal selects fails))
    (congrArg Journal.Situation.current (Journal.situation_note ..))

theorem complains_of_refused {failure : Failure} (refused : Refused world options failure) :
    Complains world options failure := by
  cases refused with
  | @logFile path error asked fails =>
    refine ⟨{ level := levelFor options.verbosity, files := world.files }, ?_, ?_⟩
    · simp only [run, perform, asked, Journal.redirect, fails, Except.map]
    · intro path' file asked' answer
      rw [asked] at asked'
      cases asked'
      cases fails.symm.trans answer
  | unreadable reads =>
    obtain ⟨journal, ready⟩ := reads.1.ready
    exact ready.complains (by simp only [load, reads.2]) rfl
  | notText reads garbled =>
    obtain ⟨journal, ready⟩ := reads.1.ready
    exact ready.complains (by simp only [load, reads.2, garbled]) rfl
  | malformed reads decoded selects parsed =>
    exact complains_of_source reads decoded selects (by simp only [Description.readDoc, parsed])
  | invalid reads decoded selects parsed built =>
    exact complains_of_source reads decoded selects
      (by simp only [Description.readDoc, parsed, built])

end

theorem printed_or_failed (world : World) (options : Options) :
    (∃ d fragments, Loads world options d ∧ d.render options.settings = .ok fragments) ∨
      (run world options).status ≠ 0 ∧ (run world options).output = "" ∧
      ((∃ d fault, Loads world options d ∧ d.render options.settings = .error fault) ∨
        ∃ failure, Refused world options failure) := by
  rcases loads_or_refused world options with ⟨d, loads⟩ | ⟨failure, refused⟩
  · cases rendered : d.render options.settings with
    | ok fragments => exact .inl ⟨d, fragments, loads, rendered⟩
    | error fault =>
      obtain ⟨journal, ran⟩ := run_of_loads loads
      rw [rendered] at ran
      rw [ran]
      exact .inr ⟨by simp, rfl, .inl ⟨d, fault, loads, rendered⟩⟩
  · obtain ⟨journal, ran, -⟩ := complains_of_refused refused
    rw [ran]
    exact .inr ⟨by simp, rfl, .inr ⟨failure, refused⟩⟩

theorem printed_of_render {world : World} {options : Options} {d : Doc Style}
    {fragments : List (Fragment Style)} (loads : Loads world options d)
    (rendered : d.render options.settings = .ok fragments) :
    (run world options).status = 0 ∧
      (run world options).output = printedText options.color fragments ++ "\n" := by
  obtain ⟨journal, ran⟩ := run_of_loads loads
  rw [rendered] at ran
  rw [ran]
  exact ⟨rfl, rfl⟩

/-- A run prints the whole rendering or nothing. It succeeds exactly if its log file opens, its input
is text that describes a document in the selected format, and the display of that comes to its end.
Where a stage before the display is refused, the message that is printed as a complaint is also the
newest entry of the journal and the last line of the log file, if there is one. -/
theorem prints_all_or_nothing (world : World) (options : Options) :
    ((run world options).status = 0 ↔
      ∃ d fragments, Loads world options d ∧ d.render options.settings = .ok fragments) ∧
    (∀ d fragments, Loads world options d → d.render options.settings = .ok fragments →
      (run world options).output =
        (if options.color then
          Terminal.write .defaultDark
            (StyledText.ofFragments (fun label => label.getD {}) fragments)
        else String.join (fragments.map Fragment.content)) ++ "\n") ∧
    ((run world options).status ≠ 0 →
      (run world options).output = "" ∧
      ((∃ d fault, Loads world options d ∧ d.render options.settings = .error fault) ∨
        ∃ failure, Refused world options failure)) ∧
    ∀ failure, Refused world options failure →
      (run world options).status = 1 ∧
      (run world options).complaint = some ("docprint: " ++ failure.message) ∧
      (run world options).journal.held.getLast? = some ⟨.error, failure.message⟩ ∧
      ∀ path file, options.log = some path → world.openFile path = .ok file →
        ∃ earlier, (run world options).journal.files.content file =
          earlier ++ (Journal.Entry.display ⟨.error, failure.message⟩ ++ "\n").toUTF8 := by
  refine ⟨⟨?_, ?_⟩, ?_, ?_, ?_⟩
  · intro success
    rcases printed_or_failed world options with printed | ⟨nonzero, -⟩
    · exact printed
    · exact absurd success nonzero
  · rintro ⟨d, fragments, loads, rendered⟩
    exact (printed_of_render loads rendered).1
  · intro d fragments loads rendered
    rw [(printed_of_render loads rendered).2, printedText, Fragment.plainText_eq_join]
  · intro nonzero
    rcases printed_or_failed world options with ⟨d, fragments, loads, rendered⟩ | ⟨-, nothing⟩
    · exact absurd (printed_of_render loads rendered).1 nonzero
    · exact nothing
  · intro failure refused
    obtain ⟨journal, ran, currently⟩ := complains_of_refused refused
    simp only [ran, Journal.note_error]
    refine ⟨trivial, trivial, ?_, ?_⟩
    · simp [Journal.push]
    · intro path file asked answer
      simp only [Journal.push, currently path file asked answer, Files.content_append]
      exact ⟨_, rfl⟩

def worldOf (text : String) : World where
  files := .empty
  openFile path := .ok path
  readFile _ := .ok text.toUTF8
  account _ _ := some "1:7: Unexpected end of RON"

def pairOptions : Options where
  file := "demos/pair.ron"
  settings := ⟨2, 4⟩
  format := none
  color := false
  log := some "/tmp/run.log"
  verbosity := 0

def pair : Description Style := .group (.concat [.text "a", .line, .text "b"])

def pairText : String := "Group(Concat([Text(\"a\"),Line,Text(\"b\")]))"

theorem loads_pair :
    Loads (worldOf pairText) pairOptions
      (Doc.sum [.text "a" none, Doc.line, .text "b" none]).group := by
  have decoded : String.fromUTF8? pairText.toUTF8 = some pairText := by decide +kernel
  have selects : Selects pairOptions .ron := (selects_iff _ _).mpr (by decide +kernel)
  have written : Ron.write pair = pairText := by decide +kernel
  have parsed : Description.read? .ron pairText = some pair := by
    rw [← written]
    exact (Ron.read?_write Ron.lawful_style pair).trans (if_pos (by decide))
  exact ⟨_, _, _, _, ⟨fun path _ => ⟨path, rfl⟩, rfl⟩, decoded, selects, parsed, rfl⟩

theorem refused_pair :
    Refused (worldOf "Group(") pairOptions
      (.source "demos/pair.ron" (.malformed .ron (some "1:7: Unexpected end of RON"))) := by
  have decoded : String.fromUTF8? "Group(".toUTF8 = some "Group(" := by decide +kernel
  have selects : Selects pairOptions .ron := (selects_iff _ _).mpr (by decide +kernel)
  have fails : Description.read? (α := Description Style) .ron "Group(" = none :=
    Option.isNone_iff_eq_none.mp (by decide +kernel)
  exact .malformed ⟨fun path _ => ⟨path, rfl⟩, rfl⟩ decoded selects fails

theorem pair_prints_or_complains :
    (run (worldOf pairText) pairOptions).status = 0 ∧
    (run (worldOf pairText) pairOptions).output = "a\nb\n" ∧
    (run (worldOf "Group(") pairOptions).output = "" ∧
    (run (worldOf "Group(") pairOptions).complaint = some ("docprint: In 'demos/pair.ron': " ++
      "Invalid RON doc description: 1:7: Unexpected end of RON") ∧
    ∃ earlier, (run (worldOf "Group(") pairOptions).journal.files.content "/tmp/run.log" =
      earlier ++ ("[Error] In 'demos/pair.ron': " ++
        "Invalid RON doc description: 1:7: Unexpected end of RON\n").toUTF8 := by
  have rendered : (Doc.sum [.text "a" none, Doc.line, .text "b" none]).group.render ⟨2, 4⟩ =
      .ok [.text "a" (none : Option Style), .newline 0, .text "b" none] := by
    decide +kernel
  obtain ⟨succeeds, prints, -, -⟩ := prints_all_or_nothing (worldOf pairText) pairOptions
  obtain ⟨-, -, nothing, complains⟩ := prints_all_or_nothing (worldOf "Group(") pairOptions
  obtain ⟨status, complaint, -, noted⟩ := complains _ refused_pair
  refine ⟨succeeds.mpr ⟨_, _, loads_pair, rendered⟩, ?_, ?_, complaint, ?_⟩
  · rw [prints _ _ loads_pair rendered]
    decide +kernel
  · exact (nothing (by simp [status])).1
  · exact noted "/tmp/run.log" "/tmp/run.log" rfl rfl

end LineLayout.Command
