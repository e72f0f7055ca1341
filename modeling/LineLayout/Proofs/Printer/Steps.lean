import LineLayout.Layout.Trail
/-!
What one step of the printer does, for each kind of entry on top of its stack.
-/
namespace LineLayout.Printer

variable {α : Type}

def ofEntries (settings : Settings) (column : Nat) (entries : List (Entry α))
    (decided : List Bool) : Printer α :=
  ⟨settings.width, settings.tabWidth, column, entries.reverse.toArray, decided⟩

theorem exists_ofEntries (printer : Printer α) :
    ∃ settings column entries decided, printer = ofEntries settings column entries decided := by
  refine ⟨⟨printer.width, printer.tabWidth⟩, printer.column, printer.entries, printer.decided, ?_⟩
  simp [ofEntries, entries]

theorem eq_ofEntries_of_back? {printer : Printer α} {entry : Entry α}
    (next : printer.stack.back? = some entry) :
    printer = ofEntries ⟨printer.width, printer.tabWidth⟩ printer.column
      (entry :: printer.stack.pop.toList.reverse) printer.decided := by
  obtain ⟨others, isLast⟩ := Array.back?_eq_some_iff.mp next
  have same : printer.stack = (printer.stack.pop.toList ++ [entry]).toArray := by
    simp [isLast, ← Array.toList_push]
  cases printer
  simpa [ofEntries] using same

section

variable (settings : Settings) (column indentation : Nat) (entry : Entry α)
  (later : List (Entry α)) (decided : List Bool)

@[simp] theorem width_ofEntries :
    (ofEntries settings column later decided).width = settings.width := rfl

@[simp] theorem tabWidth_ofEntries :
    (ofEntries settings column later decided).tabWidth = settings.tabWidth := rfl

@[simp] theorem column_ofEntries : (ofEntries settings column later decided).column = column := rfl

@[simp] theorem decided_ofEntries :
    (ofEntries settings column later decided).decided = decided := rfl

@[simp] theorem entries_ofEntries :
    (ofEntries settings column later decided).entries = later := by
  simp [ofEntries, entries]

@[simp] theorem forget_ofEntries :
    (ofEntries settings column later decided).forget = ofEntries settings column later [] := rfl

theorem start_eq_ofEntries (d : Doc α) : start settings d = ofEntries settings 0 [⟨0, d⟩] [] := rfl

theorem push_ofEntries : (ofEntries settings column later decided).stack.push entry =
    (ofEntries settings column (entry :: later) decided).stack := by
  simp [ofEntries]

theorem step_nil : (ofEntries settings column ([] : List (Entry α)) decided).step = .finished := rfl

theorem step_cons : (ofEntries settings column (entry :: later) decided).step =
    (ofEntries settings column later decided).display entry := by
  simp [step, ofEntries]

theorem step_empty :
    (ofEntries settings column (⟨indentation, .empty⟩ :: later) decided).step =
      .silent (ofEntries settings column later decided) :=
  step_cons ..

theorem step_text (content : String) (label : Option α) :
    (ofEntries settings column (⟨indentation, .text content label⟩ :: later) decided).step =
      match addColumns column content.length with
      | .ok next => .shows (.text content label) (ofEntries settings next later decided)
      | .error fault => .fault fault :=
  step_cons ..

theorem step_concat (left right : Doc α) :
    (ofEntries settings column (⟨indentation, .concat left right⟩ :: later) decided).step =
      .silent (ofEntries settings column (⟨indentation, left⟩ :: ⟨indentation, right⟩ :: later)
        decided) := by
  rw [step_cons]
  simp [display, ofEntries]

theorem step_newline :
    (ofEntries settings column (⟨indentation, .newline⟩ :: later) decided).step =
      match lineBreakLength indentation with
      | .ok _ => .shows (.newline indentation) (ofEntries settings indentation later decided)
      | .error fault => .fault fault :=
  step_cons ..

theorem step_indent (body : Doc α) :
    (ofEntries settings column (⟨indentation, .indent body⟩ :: later) decided).step =
      match addColumns indentation settings.tabWidth with
      | .ok deeper => .silent (ofEntries settings column (⟨deeper, body⟩ :: later) decided)
      | .error fault => .fault fault := by
  rw [step_cons, display]
  simp only [push_ofEntries, tabWidth_ofEntries]
  cases addColumns indentation settings.tabWidth <;> rfl

theorem step_hang (body : Doc α) :
    (ofEntries settings column (⟨indentation, .hang body⟩ :: later) decided).step =
      .silent (ofEntries settings column (⟨column, body⟩ :: later) decided) := by
  rw [step_cons]
  simp [display, ofEntries]

theorem step_choice (wide narrow : Doc α) :
    (ofEntries settings column (⟨indentation, .choice wide narrow⟩ :: later) decided).step =
      match (ofEntries settings column later decided).choose ⟨indentation, wide⟩ with
      | .ok (isWide, left) => .resolved column isWide (ofEntries settings column
          (⟨indentation, if isWide then wide else narrow⟩ :: later) left)
      | .error fault => .fault fault := by
  rw [step_cons, display]
  simp only [push_ofEntries]
  cases (ofEntries settings column later decided).choose ⟨indentation, wide⟩ <;> rfl

end

/-- What a step can do, by the entry that comes next. -/
inductive Moves (settings : Settings) (decided : List Bool) :
    Nat → List (Entry α) → Progress α → Prop
  | finished (column : Nat) : Moves settings decided column [] .finished
  | fault (column : Nat) (entries : List (Entry α)) (fault : Fault) :
    Moves settings decided column entries (.fault fault)
  | empty (column indentation : Nat) (later : List (Entry α)) :
    Moves settings decided column (⟨indentation, .empty⟩ :: later)
      (.silent (ofEntries settings column later decided))
  | text {column moved indentation : Nat} {content : String} {label : Option α}
      {later : List (Entry α)} (sum : addColumns column content.length = .ok moved) :
    Moves settings decided column (⟨indentation, .text content label⟩ :: later)
      (.shows (.text content label) (ofEntries settings moved later decided))
  | concat (column indentation : Nat) (left right : Doc α) (later : List (Entry α)) :
    Moves settings decided column (⟨indentation, .concat left right⟩ :: later)
      (.silent (ofEntries settings column (⟨indentation, left⟩ :: ⟨indentation, right⟩ :: later)
        decided))
  | newline (column indentation : Nat) (later : List (Entry α)) :
    Moves settings decided column (⟨indentation, .newline⟩ :: later)
      (.shows (.newline indentation) (ofEntries settings indentation later decided))
  | indent {column indentation deeper : Nat} {body : Doc α} {later : List (Entry α)}
      (sum : addColumns indentation settings.tabWidth = .ok deeper) :
    Moves settings decided column (⟨indentation, .indent body⟩ :: later)
      (.silent (ofEntries settings column (⟨deeper, body⟩ :: later) decided))
  | hang (column indentation : Nat) (body : Doc α) (later : List (Entry α)) :
    Moves settings decided column (⟨indentation, .hang body⟩ :: later)
      (.silent (ofEntries settings column (⟨column, body⟩ :: later) decided))
  | choice {column indentation : Nat} {wide narrow : Doc α} {later : List (Entry α)}
      {isWide : Bool} {left : List Bool}
      (chosen : (ofEntries settings column later decided).choose ⟨indentation, wide⟩ =
        .ok (isWide, left)) :
    Moves settings decided column (⟨indentation, .choice wide narrow⟩ :: later)
      (.resolved column isWide (ofEntries settings column
        (⟨indentation, if isWide then wide else narrow⟩ :: later) left))

theorem moves_step (settings : Settings) (column : Nat) (entries : List (Entry α))
    (decided : List Bool) :
    Moves settings decided column entries (ofEntries settings column entries decided).step := by
  match entries with
  | [] => exact .finished column
  | ⟨indentation, .empty⟩ :: later =>
    rw [step_empty]
    exact .empty column indentation later
  | ⟨indentation, .text content label⟩ :: later =>
    rw [step_text]
    cases sum : addColumns column content.length with
    | ok moved => exact .text sum
    | error fault => exact .fault _ _ fault
  | ⟨indentation, .concat left right⟩ :: later =>
    rw [step_concat]
    exact .concat column indentation left right later
  | ⟨indentation, .newline⟩ :: later =>
    rw [step_newline]
    cases lineBreakLength indentation with
    | ok size => exact .newline column indentation later
    | error fault => exact .fault _ _ fault
  | ⟨indentation, .indent body⟩ :: later =>
    rw [step_indent]
    cases sum : addColumns indentation settings.tabWidth with
    | ok deeper => exact .indent sum
    | error fault => exact .fault _ _ fault
  | ⟨indentation, .hang body⟩ :: later =>
    rw [step_hang]
    exact .hang column indentation body later
  | ⟨indentation, .choice wide narrow⟩ :: later =>
    rw [step_choice]
    cases chosen : (ofEntries settings column later decided).choose ⟨indentation, wide⟩ with
    | ok answer => exact .choice chosen
    | error fault => exact .fault _ _ fault

theorem display_ne_finished (printer : Printer α) (entry : Entry α) :
    printer.display entry ≠ .finished := by
  obtain ⟨indentation, doc⟩ := entry
  cases doc with
  | empty | concat | hang => exact nofun
  | text | newline | indent | choice =>
    simp only [display]
    split <;> exact nofun

theorem step_eq_finished_iff {printer : Printer α} :
    printer.step = .finished ↔ printer.entries = [] := by
  obtain ⟨settings, column, entries, decided, rfl⟩ := printer.exists_ofEntries
  rw [entries_ofEntries]
  cases entries with
  | nil => simp [step_nil]
  | cons entry later => simp [step_cons, display_ne_finished]

theorem recordAfter_eq (events : Array (Event α)) (printer : Printer α) :
    recordAfter events printer =
      match printer.step with
      | .finished => ⟨events, none⟩
      | .silent next => recordAfter events next
      | .resolved column wide next => recordAfter (events.push (.choice column wide)) next
      | .shows fragment next => recordAfter (events.push (.fragment fragment)) next
      | .fault fault => ⟨events, some fault⟩ := by
  rw [recordAfter]
  split <;> simp only [*]

end LineLayout.Printer
