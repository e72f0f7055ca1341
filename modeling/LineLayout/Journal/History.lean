import LineLayout.Journal.Rendering
/-!
Histories: what happens to a journal one thing after another, and which entries should be recorded,
said without the journal that holds them.
-/
namespace LineLayout.Journal

inductive Action (α : Type) where
  | setLevel (level : Level)
  | note (level : Level) (message : String)
  | push (entry : Entry)
  /-- Another file to write to is asked for; opening it comes to its identity or an error. -/
  | setFile (opening : Except FileError FileId)
  | render (settings : Settings) (d : Doc α)

variable {α : Type}

/-- The journal after an action; a file that cannot be opened changes nothing. -/
def act (journal : Journal) : Action α → Journal
  | .setLevel level => journal.setLevel level
  | .note level message => journal.note level message
  | .push entry => journal.push entry
  | .setFile opening =>
    match journal.redirect opening with
    | .ok next => next
    | .error _ => journal
  | .render settings d => (journal.render settings d).1

def actAll (journal : Journal) (actions : List (Action α)) : Journal := actions.foldl act journal

def displayEntries (settings : Settings) (d : Doc α) : List Entry :=
  ⟨.debug, "Rendering at width " ++ toString settings.width ++
      " (tab width " ++ toString settings.tabWidth ++ ")"⟩ ::
    (d.record settings).events.toList.filterMap fun
      | .fragment _ => none
      | .choice column wide => some ⟨.trace, "Choice at column " ++ toString column ++ ": " ++
          if wide then "wide" else "narrow"⟩

structure Situation where
  level : Level := .warn
  current : Option FileId := none
  deriving DecidableEq, Repr

/-- The entries that actions record, each with the file that was current. -/
def recorded (situation : Situation) : List (Action α) → List (Option FileId × Entry)
  | [] => []
  | .setLevel level :: later => recorded { situation with level := level } later
  | .setFile (.ok file) :: later => recorded { situation with current := some file } later
  | .setFile (.error _) :: later => recorded situation later
  | .push entry :: later => (situation.current, entry) :: recorded situation later
  | .note level message :: later =>
    if situation.level.rank ≤ level.rank then
      (situation.current, ⟨level, message⟩) :: recorded situation later
    else recorded situation later
  | .render settings d :: later =>
    ((displayEntries settings d).filter (situation.level.rank ≤ ·.level.rank)).map
      (situation.current, ·) ++ recorded situation later

def linesOf (file : FileId) (entries : List (Option FileId × Entry)) : String :=
  String.join ((entries.filter (·.1 == some file)).map (·.2.display ++ "\n"))

end LineLayout.Journal
