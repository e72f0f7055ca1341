import LineLayout.Doc.Texts
import LineLayout.Proofs.Fragment.Lines
import LineLayout.Proofs.Ideal.FirstLine
/-!
The lines of the ideal layout of documents whose texts break no line.
-/
namespace LineLayout

variable {α : Type}

def Unbroken (entries : List (Entry α)) : Prop := ∀ entry ∈ entries, entry.doc.Unbroken

@[simp] theorem unbroken_cons (entry : Entry α) (later : List (Entry α)) :
    Unbroken (entry :: later) ↔ entry.doc.Unbroken ∧ Unbroken later := List.forall_mem_cons

open Printer (Event)

theorem Printer.Event.head?_lineEnds_shown (column : Nat) (events : List (Event α)) :
    (Fragment.lineEnds column (shown events)).head? =
      some (columnAfter column (firstLine events)) := by
  induction events generalizing column with
  | nil => rfl
  | cons event later ih =>
    cases event with
    | choice _ _ => exact ih column
    | fragment piece =>
      cases piece with
      | text content _ => exact ih (column + content.length)
      | newline _ => rfl

namespace Ideal

theorem unbroken_shown_events (width tabWidth column : Nat) {entries : List (Entry α)}
    (unbroken : Unbroken entries) :
    Fragment.Unbroken (Event.shown (events width tabWidth column entries)) := by
  induction entries using Entry.induction generalizing column with
  | nil =>
    rw [events]
    intro content label member
    cases member
  | newline indentation later ih =>
    rw [unbroken_cons] at unbroken
    rw [events, Event.shown_fragment]
    intro content label member
    rcases List.mem_cons.mp member with same | member
    · cases same
    · exact ih indentation unbroken.2 content label member
  | empty indentation later ih =>
    rw [unbroken_cons] at unbroken
    rw [events]
    exact ih column unbroken.2
  | text indentation piece label later ih =>
    rw [unbroken_cons, Doc.unbroken_text] at unbroken
    rw [events, Event.shown_fragment]
    intro content label' member
    rcases List.mem_cons.mp member with same | member
    · cases same
      exact unbroken.1
    · exact ih _ unbroken.2 content label' member
  | concat indentation left right later ih =>
    rw [events]
    apply ih
    simpa [and_assoc] using unbroken
  | indent indentation body later ih | hang indentation body later ih =>
    rw [events]
    exact ih _ column (by simpa using unbroken)
  | choice indentation wide narrow later ihWide ihNarrow =>
    rw [unbroken_cons, Doc.unbroken_choice] at unbroken
    rw [events]
    split
    · exact ihWide column (by simp [unbroken])
    · exact ihNarrow column (by simp [unbroken])

end Ideal

end LineLayout
