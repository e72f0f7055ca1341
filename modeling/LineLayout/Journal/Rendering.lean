import LineLayout.Journal.Basic
import LineLayout.Layout.Printer
/-!
What the journal notes about laying out a document.
-/
namespace LineLayout.Journal

variable {α : Type}

def noteEvent (journal : Journal) : Printer.Event α → Journal
  | .fragment _ => journal
  | .choice column wide =>
    journal.note .trace
      ("Choice at column " ++ toString column ++ ": " ++ if wide then "wide" else "narrow")

def render (journal : Journal) (settings : Settings) (d : Doc α) :
    Journal × Except Fault (List (Fragment α)) :=
  let started := journal.note .debug
    ("Rendering at width " ++ toString settings.width ++
      " (tab width " ++ toString settings.tabWidth ++ ")")
  let record := d.record settings
  (record.events.toList.foldl noteEvent started, record.complete)

end LineLayout.Journal
