import Mathlib.Data.List.DropRight
import LineLayout.Journal.History
/-!
What a journal keeps of a history: the newest entries in memory, and in every file that was ever
current all entries that were recorded while it was.
-/
namespace LineLayout.Journal

variable {α : Type}

def situation (journal : Journal) : Situation := ⟨journal.level, journal.current⟩

namespace Situation

def entries (situation : Situation) : Action α → List Entry
  | .setLevel _ | .setFile _ => []
  | .push entry => [entry]
  | .note level message => [⟨level, message⟩].filter (situation.level.rank ≤ ·.level.rank)
  | .render settings d => (displayEntries settings d).filter (situation.level.rank ≤ ·.level.rank)

def after (situation : Situation) : Action α → Situation
  | .setLevel level => { situation with level := level }
  | .setFile (.ok file) => { situation with current := some file }
  | .setFile (.error _) | .push _ | .note _ _ | .render _ _ => situation

end Situation

theorem recorded_cons (situation : Situation) (action : Action α) (later : List (Action α)) :
    recorded situation (action :: later) =
      (situation.entries action).map (situation.current, ·) ++
        recorded (situation.after action) later := by
  cases action with
  | setLevel | push | render => rfl
  | setFile opening => cases opening <;> rfl
  | note level message =>
    rw [recorded]
    by_cases enabled : situation.level.rank ≤ level.rank <;>
      simp [Situation.entries, Situation.after, enabled]

def pushAll (journal : Journal) (entries : List Entry) : Journal := entries.foldl push journal

theorem situation_pushAll (journal : Journal) (entries : List Entry) :
    (journal.pushAll entries).situation = journal.situation := by
  induction entries generalizing journal with
  | nil => rfl
  | cons entry later ih => exact ih (journal.push entry)

def noteAll (journal : Journal) (entries : List Entry) : Journal :=
  journal.pushAll (entries.filter (journal.level.rank ≤ ·.level.rank))

theorem noteAll_cons (journal : Journal) (entry : Entry) (later : List Entry) :
    journal.noteAll (entry :: later) =
      (journal.note entry.level entry.message).noteAll later := by
  by_cases enabled : journal.level.rank ≤ entry.level.rank
  · simp [noteAll, note, isEnabled, enabled, pushAll, push]
  · simp [noteAll, note, isEnabled, enabled]

theorem situation_note (journal : Journal) (level : Level) (message : String) :
    (journal.note level message).situation = journal.situation := by
  unfold note
  split <;> rfl

theorem note_error (journal : Journal) (message : String) :
    journal.note .error message = journal.push ⟨.error, message⟩ := by
  have enabled : journal.isEnabled .error := by
    cases level : journal.level <;> simp [isEnabled, level, Level.rank]
  rw [note, if_pos enabled]

def eventEntry? : Printer.Event α → Option Entry
  | .fragment _ => none
  | .choice column wide => some ⟨.trace, "Choice at column " ++ toString column ++ ": " ++
      if wide then "wide" else "narrow"⟩

theorem foldl_noteEvent (journal : Journal) (events : List (Printer.Event α)) :
    events.foldl noteEvent journal = journal.noteAll (events.filterMap eventEntry?) := by
  induction events generalizing journal with
  | nil => rfl
  | cons event later ih =>
    cases event with
    | fragment piece => exact ih journal
    | choice column wide =>
      simp only [List.foldl_cons, ih, List.filterMap_cons, eventEntry?, noteAll_cons, noteEvent]

theorem render_eq_noteAll (journal : Journal) (settings : Settings) (d : Doc α) :
    (journal.render settings d).1 = journal.noteAll (displayEntries settings d) := by
  rw [displayEntries, noteAll_cons]
  exact foldl_noteEvent ..

theorem situation_act (journal : Journal) (action : Action α) :
    (journal.act action).situation = journal.situation.after action := by
  cases action with
  | setLevel | push => rfl
  | note level message => exact situation_note journal level message
  | setFile opening => cases opening <;> rfl
  | render settings d =>
    exact (congrArg _ (render_eq_noteAll journal settings d)).trans (situation_pushAll ..)

/-- What a journal keeps, after a start with some files, of entries recorded one after another, each
while some file was current; the files named are there, and so is the current one. -/
structure Keeps (prior : Files) (named : List FileId) (all : List (Option FileId × Entry))
    (journal : Journal) : Prop where
  held : journal.held = (all.map (·.2)).rtake capacity
  files : ∀ file, journal.files.content file = prior.content file ++ (linesOf file all).toUTF8
  there : ∀ file ∈ named, (journal.files.get? file).isSome
  opened : ∀ file, journal.current = some file → (journal.files.get? file).isSome

theorem linesOf_append (file : FileId) (all later : List (Option FileId × Entry)) :
    linesOf file (all ++ later) = linesOf file all ++ linesOf file later := by
  simp [linesOf, String.join_append]

theorem linesOf_singleton (file : FileId) (current : Option FileId) (entry : Entry) :
    linesOf file [(current, entry)] =
      if current = some file then entry.display ++ "\n" else "" := by
  by_cases here : current = some file <;> simp [linesOf, here, String.join]

/-- Giving up the first of the last entries where there are enough makes room for one more. -/
theorem rtake_concat {τ : Type} (all : List τ) (newest : τ) (count : Nat) (positive : 0 < count) :
    (if (all.rtake count).length = count then (all.rtake count).tail else all.rtake count) ++
      [newest] = (all ++ [newest]).rtake count := by
  obtain ⟨fewer, rfl⟩ := Nat.exists_eq_add_one.mpr positive
  rw [List.rtake_concat_succ]
  congr 1
  simp only [List.rtake, List.length_drop]
  split
  · rename_i full
    have enough : all.length - (fewer + 1) + 1 = all.length - fewer := by omega
    rw [List.tail_drop, enough]
  · rename_i room
    have few : all.length ≤ fewer := by omega
    rw [Nat.sub_eq_zero_of_le few, Nat.sub_eq_zero_of_le (Nat.le_succ_of_le few)]

section

variable {prior : Files} {named : List FileId} {all : List (Option FileId × Entry)}
  {journal : Journal}

theorem Keeps.push (keeps : Keeps prior named all journal) (entry : Entry) :
    Keeps prior named (all ++ [(journal.current, entry)]) (journal.push entry) where
  held := by
    have newest := rtake_concat (all.map (·.2)) entry capacity (by decide)
    rw [← keeps.held] at newest
    rw [List.map_append]
    exact newest
  files := by
    intro file
    rw [linesOf_append, linesOf_singleton, String.toUTF8_eq_toByteArray, String.toByteArray_append,
      ← ByteArray.append_assoc]
    have before := keeps.files file
    cases currently : journal.current with
    | none => simpa [Journal.push, currently] using before
    | some current =>
      simp only [Journal.push, currently, Files.content_append]
      by_cases here : file = current
      · subst here
        simp [before]
      · simpa [here, Ne.symm here] using before
  there := by
    intro file member
    have before := keeps.there file member
    simp only [Journal.push]
    split
    · exact before
    · exact Files.isSome_get?_append _ _ before
  opened := by
    intro file currently
    have still : journal.current = some file := currently
    simp only [Journal.push, still]
    exact Files.isSome_get?_append _ _ (keeps.opened file still)

theorem Keeps.writeTo (keeps : Keeps prior named all journal) (file : FileId) :
    Keeps prior named all (journal.writeTo file) where
  held := keeps.held
  files := by
    intro other
    have before := keeps.files other
    simp only [Journal.writeTo, Files.content_append]
    split
    · rename_i here
      subst here
      simpa using before
    · exact before
  there := fun other member => Files.isSome_get?_append _ _ (keeps.there other member)
  opened := by
    rintro other ⟨⟩
    simp [Journal.writeTo, Files.get?_append]

theorem Keeps.pushAll (keeps : Keeps prior named all journal) (entries : List Entry) :
    Keeps prior named (all ++ entries.map (journal.current, ·)) (journal.pushAll entries) := by
  induction entries generalizing all journal with
  | nil => simpa [Journal.pushAll] using keeps
  | cons entry later ih =>
    have step := ih (keeps.push entry)
    rwa [List.append_assoc] at step

/-- An action records its entries under the file that is current before it. -/
theorem Keeps.act (keeps : Keeps prior named all journal) (action : Action α) :
    Keeps prior named (all ++ (journal.situation.entries action).map (journal.current, ·))
      (journal.act action) := by
  cases action with
  | setLevel level =>
    simp only [Situation.entries, List.map_nil, List.append_nil]
    exact ⟨keeps.held, keeps.files, keeps.there, keeps.opened⟩
  | note level message =>
    have step := keeps.pushAll ([⟨level, message⟩].filter (journal.level.rank ≤ ·.level.rank))
    rwa [← noteAll, noteAll_cons] at step
  | push entry => exact keeps.push entry
  | setFile opening =>
    simp only [Situation.entries, List.map_nil, List.append_nil]
    cases opening with
    | ok file => exact keeps.writeTo file
    | error error => exact keeps
  | render settings d =>
    have step := keeps.pushAll
      ((displayEntries settings d).filter (journal.level.rank ≤ ·.level.rank))
    rwa [← noteAll, ← render_eq_noteAll] at step

theorem Keeps.actAll (keeps : Keeps prior named all journal) (actions : List (Action α)) :
    Keeps prior named (all ++ recorded journal.situation actions) (journal.actAll actions) := by
  induction actions generalizing all journal with
  | nil => simpa [recorded, Journal.actAll] using keeps
  | cons action later ih =>
    have run := ih (keeps.act action)
    rw [List.append_assoc, situation_act] at run
    rwa [recorded_cons]

end

theorem situation_actAll (journal : Journal) (actions : List (Action α)) :
    (journal.actAll actions).situation = actions.foldl Situation.after journal.situation := by
  induction actions generalizing journal with
  | nil => rfl
  | cons action later ih =>
    have next := ih (journal.act action)
    rwa [situation_act] at next

theorem recorded_append (situation : Situation) (actions later : List (Action α)) :
    recorded situation (actions ++ later) = recorded situation actions ++
      recorded (actions.foldl Situation.after situation) later := by
  induction actions generalizing situation with
  | nil => rfl
  | cons action others ih =>
    rw [List.cons_append, recorded_cons, recorded_cons, ih, List.append_assoc, List.foldl_cons]

theorem contents_eq (journal : Journal) :
    journal.contents = String.join (journal.held.map (·.display ++ "\n")) := by
  simp only [contents, String.join, List.foldl_map, String.append_assoc]

def after (files : Files) (actions : List (Action α)) : Journal := actAll { files := files } actions

theorem after_append (files : Files) (actions later : List (Action α)) :
    after files (actions ++ later) = (after files actions).actAll later :=
  List.foldl_append ..

theorem keeps_after (files : Files) (actions : List (Action α)) :
    Keeps files [] (recorded {} actions) (after files actions) := by
  have start : Keeps files [] [] { files := files } :=
    ⟨rfl, fun file => by simp [linesOf, String.join], nofun, nofun⟩
  exact start.actAll actions

theorem get?_files_after (files : Files) (before later : List (Action α)) {file : FileId}
    (currently : (after files before).current = some file) :
    (after files (before ++ later)).files.get? file =
      some (files.content file ++ (linesOf file (recorded {} (before ++ later))).toUTF8) := by
  have sofar := keeps_after files before
  -- Once it is named, the rest of the run keeps the file there.
  have named : Keeps files [file] (recorded {} before) (after files before) :=
    ⟨sofar.held, sofar.files, by simpa using sofar.opened file currently, sofar.opened⟩
  have there := (named.actAll later).there file List.mem_cons_self
  rw [← after_append] at there
  obtain ⟨bytes, found⟩ := Option.isSome_iff_exists.mp there
  have content := (keeps_after files (before ++ later)).files file
  rw [Files.content, found] at content
  rw [found, ← content]
  rfl

/-- In memory a journal holds the newest entries of those recorded since its start. A file that was
current at some moment holds what it held before and a line for every entry recorded while it was
current, those given up in memory included. What decides about an entry is the level and the file at
that moment. A file that opens becomes the current one, and one that does not changes nothing. -/
theorem newest_held_and_all_written (files : Files) (actions : List (Action α)) :
    (after files actions).held = ((recorded {} actions).map (·.2)).rtake 1000 ∧
    (after files actions).contents =
      String.join ((after files actions).held.map (·.display ++ "\n")) ∧
    (∀ before later, actions = before ++ later →
      recorded {} actions =
        recorded {} before ++ recorded (after files before).situation later ∧
      ∀ file, (after files before).current = some file →
        (after files actions).files.get? file =
          some (files.content file ++ (linesOf file (recorded {} actions)).toUTF8)) ∧
    (∀ file, (after files (actions ++ [.setFile (.ok file)])).current = some file) ∧
    ∀ error, after files (actions ++ [.setFile (.error error)]) = after files actions := by
  refine ⟨(keeps_after files actions).held, contents_eq _, ?_, ?_, ?_⟩
  · rintro before later rfl
    refine ⟨?_, fun file currently => get?_files_after files before later currently⟩
    rw [recorded_append, after, situation_actAll]
    rfl
  · intro file
    rw [after_append]
    rfl
  · intro error
    rw [after_append]
    rfl

def switches : List (Action Unit) :=
  [.push ⟨.error, "before"⟩, .setFile (.ok "logs/a"), .note .warn "one", .note .debug "two",
    .setFile (.ok "/tmp/b"), .push ⟨.info, "three"⟩, .setFile (.error .notFound), .note .error "four"]

theorem switches_write_both :
    (after ⟨[("logs/a", "zero\n".toUTF8)]⟩ switches).held =
      [⟨.error, "before"⟩, ⟨.warn, "one"⟩, ⟨.info, "three"⟩, ⟨.error, "four"⟩] ∧
    (after ⟨[("logs/a", "zero\n".toUTF8)]⟩ switches).files.get? "logs/a" =
      some "zero\n[Warn]  one\n".toUTF8 ∧
    (after ⟨[("logs/a", "zero\n".toUTF8)]⟩ switches).files.get? "/tmp/b" =
      some "[Info]  three\n[Error] four\n".toUTF8 := by
  obtain ⟨held, -, written, -⟩ :=
    newest_held_and_all_written ⟨[("logs/a", "zero\n".toUTF8)]⟩ switches
  have first := (written (switches.take 2) (switches.drop 2) rfl).2 "logs/a" rfl
  have second := (written (switches.take 5) (switches.drop 5) rfl).2 "/tmp/b" rfl
  refine ⟨?_, ?_, ?_⟩
  · rw [held]
    decide +kernel
  · rw [first]
    decide +kernel
  · rw [second]
    decide +kernel

end LineLayout.Journal
