import Mathlib.Algebra.Group.Nat.Defs
import Mathlib.Control.Monad.Basic
import LineLayout.Proofs.Printer.Trails
import LineLayout.Proofs.Reach.Lookahead
/-!
No display meets a fault as long as its document is small enough, and until its end the printer and
all its look-aheads stay within the extent of the document.
-/
namespace LineLayout.Printer

variable {α : Type}

def Bounded (bound : Nat) (printer : Printer α) : Prop :=
  Within printer.tabWidth bound printer.column printer.entries

variable {settings : Settings} {bound column : Nat} {entries : List (Entry α)}
  {decided : List Bool} {printer next last : Printer α}

theorem bounded_ofEntries : Bounded bound (ofEntries settings column entries decided) ↔
    Within settings.tabWidth bound column entries := by
  simp [Bounded]

theorem step_bounded (bounded : Bounded bound printer)
    (progress : printer.step.next? = some next) : Bounded bound next := by
  obtain ⟨settings, column, entries, decided, rfl⟩ := printer.exists_ofEntries
  have within := bounded_ofEntries.mp bounded
  have moves := moves_step settings column entries decided
  generalize (ofEntries settings column entries decided).step = step at progress moves
  cases moves with
  | finished | fault => cases progress
  | empty =>
    cases progress
    exact bounded_ofEntries.mpr within.empty
  | text sum =>
    cases progress
    obtain ⟨rfl, _⟩ := addColumns_eq_ok.mp sum
    exact bounded_ofEntries.mpr within.text
  | concat =>
    cases progress
    exact bounded_ofEntries.mpr within.concat
  | newline =>
    cases progress
    exact bounded_ofEntries.mpr within.newline
  | indent sum =>
    cases progress
    obtain ⟨rfl, _⟩ := addColumns_eq_ok.mp sum
    exact bounded_ofEntries.mpr within.indent
  | hang =>
    cases progress
    exact bounded_ofEntries.mpr within.hang
  | @choice _ _ _ _ isWide _ chosen =>
    cases progress
    exact bounded_ofEntries.mpr (within.option isWide)

theorem trail_bounded {events : List (Event α)} (trail : Trail printer events last)
    (bounded : Bounded bound printer) : Bounded bound last := by
  induction trail with
  | here => exact bounded
  | silent progress _ ih | resolved progress _ ih | shows progress _ ih =>
    exact ih (step_bounded bounded (by rw [progress]; rfl))

theorem reachable_bounded {d : Doc α} (reachable : Reachable settings d printer) :
    Bounded (d.extent settings.tabWidth) printer := by
  obtain ⟨events, trail⟩ := reachable
  apply trail_bounded trail
  rw [start_eq_ofEntries, bounded_ofEntries]
  exact .start settings.tabWidth d

theorem exists_choose_eq_ok (decided : List Bool) {indentation : Nat} {wide narrow : Doc α}
    {later : List (Entry α)}
    (within : Within settings.tabWidth bound column
      (⟨indentation, .choice wide narrow⟩ :: later)) (word : bound < wordLimit) :
    ∃ answer, (ofEntries settings column later decided).choose ⟨indentation, wide⟩ =
      .ok answer := by
  cases decided with
  | cons decision decided => exact ⟨(decision, decided), rfl⟩
  | nil =>
    have below : Within settings.tabWidth bound column
        (⟨indentation, wide⟩ :: (ofEntries settings column later []).stack.toList.reverse) := by
      simpa [ofEntries] using within.option true
    obtain ⟨found, answer⟩ := Lookahead.exists_decide?_eq_ok settings.width below word
    cases found with
    | none => exact ⟨(false, []), by simp [choose, answer]⟩
    | some decisions => exact ⟨(true, decisions.toList), by simp [choose, answer]⟩

/-- A printer that stays within a bound has room for every text and every line break. -/
theorem Bounded.step_ne_fault (bounded : Bounded bound printer) (room : bound < longestText)
    (fault : Fault) : printer.step ≠ .fault fault := by
  obtain ⟨settings, column, entries, decided, rfl⟩ := printer.exists_ofEntries
  have within := bounded_ofEntries.mp bounded
  have words : longestText < wordLimit := by decide
  have word : bound < wordLimit := Nat.lt_trans room words
  match entries with
  | [] =>
    rw [step_nil]
    exact nofun
  | ⟨indentation, .empty⟩ :: later =>
    rw [step_empty]
    exact nofun
  | ⟨indentation, .text content label⟩ :: later =>
    have moved := within.text.column_le
    rw [step_text, addColumns_eq_ok.mpr ⟨rfl, Nat.lt_of_le_of_lt moved word⟩]
    exact nofun
  | ⟨indentation, .concat left right⟩ :: later =>
    rw [step_concat]
    exact nofun
  | ⟨indentation, .newline⟩ :: later =>
    have margin := within.newline.column_le
    have length : lineBreakLength indentation = .ok (indentation + 1) := by
      unfold lineBreakLength
      rw [if_neg (by omega), if_neg (by omega)]
    rw [step_newline, length]
    exact nofun
  | ⟨indentation, .indent body⟩ :: later =>
    have deeper := within.indent.indentation_le _ List.mem_cons_self
    rw [step_indent, addColumns_eq_ok.mpr ⟨rfl, Nat.lt_of_le_of_lt deeper word⟩]
    exact nofun
  | ⟨indentation, .hang body⟩ :: later =>
    rw [step_hang]
    exact nofun
  | ⟨indentation, .choice wide narrow⟩ :: later =>
    obtain ⟨answer, chosen⟩ := exists_choose_eq_ok decided within word
    rw [step_choice, chosen]
    exact nofun

theorem Simulates.bounded {run : Lookahead α} (simulates : printer.Simulates run)
    (bounded : Bounded bound printer) : Lookahead.Bounded bound run := by
  obtain ⟨_, indentation, wide, narrow, next, reaches⟩ := simulates
  have entries : printer.entries =
      ⟨indentation, .choice wide narrow⟩ :: printer.stack.pop.toList.reverse := by
    rw [eq_ofEntries_of_back? next, entries_ofEntries]
    simp [ofEntries]
  rw [Bounded, entries] at bounded
  have wide := bounded.option true
  exact reaches.bounded (Lookahead.start_bounded wide)

theorem exists_render {settings : Settings} {d : Doc α}
    (room : d.extent settings.tabWidth < longestText) :
    ∃ fragments, d.render settings = .ok fragments := by
  obtain ⟨events, last, trail, _, stopped⟩ := exists_trail_of_recordAfter (start settings d) #[]
  cases ended : (recordAfter #[] (start settings d)).fault with
  | none =>
    refine ⟨(d.record settings).fragments, ?_⟩
    simp [Doc.render, Record.complete, Doc.record, ended]
  | some fault =>
    rw [ended] at stopped
    have bounded := reachable_bounded ⟨events, trail⟩
    exact absurd stopped (bounded.step_ne_fault room fault)

/-- A document whose texts and indented parts take at most `2 ^ 63 - 2` columns is displayed in full.
On the way no step of the printer or of a look-ahead meets a fault, and no column and no indentation
exceeds what the document can take. -/
theorem render_within_extent {settings : Settings} {d : Doc α}
    (small : d.extent settings.tabWidth ≤ 2 ^ 63 - 2) :
    (∃ fragments, d.render settings = .ok fragments) ∧
    ∀ printer, Reachable settings d printer →
      (∀ fault, printer.step ≠ .fault fault) ∧
      printer.column ≤ d.extent settings.tabWidth ∧
      (∀ entry ∈ printer.stack, entry.indentation ≤ d.extent settings.tabWidth) ∧
      ∀ run, printer.Simulates run →
        (∀ fault, run.step ≠ .fault fault) ∧
        ∀ branch ∈ run.branches, branch.column ≤ d.extent settings.tabWidth ∧
          ∀ entry ∈ branch.entries, entry.indentation ≤ d.extent settings.tabWidth := by
  have room : d.extent settings.tabWidth < longestText :=
    Nat.lt_of_le_of_lt small (by decide)
  have word : d.extent settings.tabWidth < wordLimit := Nat.lt_trans room (by decide)
  refine ⟨exists_render room, ?_⟩
  intro printer reachable
  have bounded := reachable_bounded reachable
  refine ⟨bounded.step_ne_fault room, bounded.column_le, ?_, ?_⟩
  · intro entry member
    exact bounded.indentation_le entry (by simpa [entries] using member)
  · intro run simulates
    have simulated := simulates.bounded bounded
    refine ⟨simulated.step_ne_fault word, ?_⟩
    intro branch member
    have within := simulated.branches branch member
    exact ⟨within.column_le, within.indentation_le⟩

theorem render_wide_tab : ∃ fragments,
    (Doc.sum [.text "ab" (none : Option Unit), .hang (.indent (.choice (.text "cde" none)
      (.concat .newline (.text "f" none))))]).render ⟨4, 2 ^ 62⟩ = .ok fragments := by
  have small : (Doc.sum [.text "ab" (none : Option Unit), .hang (.indent (.choice
      (.text "cde" none) (.concat .newline (.text "f" none))))]).extent
        (⟨4, 2 ^ 62⟩ : Settings).tabWidth ≤ 2 ^ 63 - 2 := by
    decide
  exact (render_within_extent small).1

example : (Doc.indent (.newline : Doc Unit)).render ⟨80, 2 ^ 63 - 1⟩ = .error .capacity := by
  decide +kernel

end LineLayout.Printer
