import LineLayout.Doc.Extent
import LineLayout.Layout.Trail
/-!
How far to the right a display and its look-aheads reach. What they have still to display can be
paid for from the columns that are left below a bound; no entry is paid for twice.
-/
namespace LineLayout

variable {α : Type}

def entriesExtent (tabWidth : Nat) (entries : List (Entry α)) : Nat :=
  total (fun entry => entry.doc.extent tabWidth) entries

/-- Whether a line that starts at the indentation of an entry has room for it and all that follow. -/
def Margins (tabWidth bound : Nat) : List (Entry α) → Prop
  | [] => True
  | entry :: later =>
    entry.indentation + entriesExtent tabWidth (entry :: later) ≤ bound ∧
      Margins tabWidth bound later

/-- Whether entries displayed from a column stay within a bound, whatever becomes of choices. -/
structure Within (tabWidth bound column : Nat) (entries : List (Entry α)) : Prop where
  column : column + entriesExtent tabWidth entries ≤ bound
  margins : Margins tabWidth bound entries

namespace Within

variable {tabWidth bound column indentation : Nat} {later : List (Entry α)}

theorem column_le {entries : List (Entry α)} (within : Within tabWidth bound column entries) :
    column ≤ bound :=
  Nat.le_trans (Nat.le_add_right _ _) within.column

theorem indentation_le {entries : List (Entry α)} (within : Within tabWidth bound column entries) :
    ∀ entry ∈ entries, entry.indentation ≤ bound := by
  have margins := within.margins
  clear within
  induction entries with
  | nil =>
    intro entry member
    cases member
  | cons first others ih =>
    intro entry member
    rcases List.mem_cons.mp member with rfl | member
    · exact Nat.le_trans (Nat.le_add_right _ _) margins.1
    · exact ih margins.2 entry member

theorem start (tabWidth : Nat) (d : Doc α) :
    Within tabWidth (d.extent tabWidth) 0 [⟨0, d⟩] := by
  have room : 0 + entriesExtent tabWidth [⟨0, d⟩] ≤ d.extent tabWidth := by
    simp [entriesExtent, total]
  exact ⟨room, room, trivial⟩

theorem empty (within : Within tabWidth bound column (⟨indentation, .empty⟩ :: later)) :
    Within tabWidth bound column later := by
  obtain ⟨room, _, margins⟩ := within
  refine ⟨?_, margins⟩
  simp only [entriesExtent, total] at room ⊢
  omega

theorem text {content : String} {label : Option α}
    (within : Within tabWidth bound column (⟨indentation, .text content label⟩ :: later)) :
    Within tabWidth bound (column + content.length) later := by
  obtain ⟨room, _, margins⟩ := within
  refine ⟨?_, margins⟩
  simp only [entriesExtent, total, Doc.extent_text] at room ⊢
  omega

theorem concat {left right : Doc α}
    (within : Within tabWidth bound column (⟨indentation, .concat left right⟩ :: later)) :
    Within tabWidth bound column (⟨indentation, left⟩ :: ⟨indentation, right⟩ :: later) := by
  obtain ⟨room, margin, margins⟩ := within
  simp only [entriesExtent, total, Doc.extent_concat] at room margin
  refine ⟨?_, ?_, ?_, margins⟩ <;> simp only [entriesExtent, total] <;> omega

theorem newline (within : Within tabWidth bound column (⟨indentation, .newline⟩ :: later)) :
    Within tabWidth bound indentation later := by
  obtain ⟨_, margin, margins⟩ := within
  refine ⟨?_, margins⟩
  simp only [entriesExtent, total] at margin ⊢
  omega

theorem indent {body : Doc α}
    (within : Within tabWidth bound column (⟨indentation, .indent body⟩ :: later)) :
    Within tabWidth bound column (⟨indentation + tabWidth, body⟩ :: later) := by
  obtain ⟨room, margin, margins⟩ := within
  simp only [entriesExtent, total, Doc.extent_indent] at room margin
  refine ⟨?_, ?_, margins⟩ <;> simp only [entriesExtent, total] <;> omega

theorem hang {body : Doc α}
    (within : Within tabWidth bound column (⟨indentation, .hang body⟩ :: later)) :
    Within tabWidth bound column (⟨column, body⟩ :: later) :=
  ⟨within.column, within.column, within.margins.2⟩

theorem option {wide narrow : Doc α} (isWide : Bool)
    (within : Within tabWidth bound column (⟨indentation, .choice wide narrow⟩ :: later)) :
    Within tabWidth bound column (⟨indentation, if isWide then wide else narrow⟩ :: later) := by
  obtain ⟨room, margin, margins⟩ := within
  simp only [entriesExtent, total, Doc.extent_choice] at room margin
  cases isWide with
  | true | false => refine ⟨?_, ?_, margins⟩ <;> simp [entriesExtent, total] <;> omega

end Within

namespace Lookahead

inductive Reaches : Lookahead α → Lookahead α → Prop
  | here (run : Lookahead α) : Reaches run run
  | going {run next last : Lookahead α} :
    run.step = .going next → Reaches next last → Reaches run last

end Lookahead

/-- A run that the printer goes through when its next step looks ahead. -/
def Printer.Simulates (printer : Printer α) (run : Lookahead α) : Prop :=
  printer.decided = [] ∧ ∃ indentation wide narrow,
    printer.stack.back? = some ⟨indentation, .choice wide narrow⟩ ∧
    (Lookahead.start printer.width printer.tabWidth printer.stack.pop printer.column
      ⟨indentation, wide⟩).Reaches run

end LineLayout
