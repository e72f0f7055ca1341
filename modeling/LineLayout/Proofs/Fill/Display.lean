import LineLayout.Proofs.Doc.Texts
import LineLayout.Proofs.Fill.Lines
import LineLayout.Proofs.Outlook.Text
/-!
Words joined by soft breaks fill lines greedily, and the group around them changes nothing.
-/
namespace LineLayout

namespace Fill

open Outlook (EndsAfter Completes Shows)

variable {settings : Settings} {column : Nat} {word : String} {words : List String}

def spacedLength (words : List String) : Nat := total (fun word => 1 + word.length) words

theorem length_intercalate (word : String) (words : List String) :
    (" ".intercalate (word :: words)).length = word.length + spacedLength words := by
  induction words generalizing word with
  | nil =>
    rw [String.intercalate_singleton]
    rfl
  | cons next later ih =>
    have space : " ".length = 1 := rfl
    rw [String.intercalate_cons_cons, String.length_append, String.length_append, ih, space]
    simp only [spacedLength, total]
    omega

def separated (settings : Settings) (separator : Doc Unit) : List String → Outlook settings Unit
  | [] => .finished
  | word :: words => separator.before 0 ((separated settings separator words).text word none)

theorem foldr_words (separator : Doc Unit) (words : List String) :
    (words.map fun word => Doc.text word none).foldr (fun element outlook =>
      separator.before 0 (element.before 0 outlook)) .finished =
        separated settings separator words := by
  induction words with
  | nil => rfl
  | cons word words ih =>
    rw [List.map_cons, List.foldr_cons, ih]
    rfl

theorem outlook_document (settings : Settings) (word : String) (words : List String) :
    (document (word :: words)).outlook settings =
      ((separated settings Doc.space words).text word none).choice
        ((separated settings Doc.line words).text word none) := by
  have flat : (Doc.join ((word :: words).map fun word => Doc.text word none) Doc.line).flat =
      Doc.join ((word :: words).map fun word => Doc.text word (none : Option Unit)) Doc.space := by
    rw [Doc.flat_join, List.map_map]
    rfl
  rw [document, Doc.group_eq_choice, flat, Doc.outlook, Doc.before, List.map_cons,
    Doc.before_join, Doc.before_join, foldr_words, foldr_words]
  rfl

section Separators

variable {rest : Outlook settings Unit} {columns : Nat} {shown : String}

theorem endsAfter_space (ends : EndsAfter columns rest) :
    EndsAfter (1 + columns) (Doc.space.before 0 rest) :=
  ends.text " " none

theorem endsAfter_line (ends : EndsAfter columns rest) :
    EndsAfter 0 (Doc.line.before 0 rest) :=
  (endsAfter_space ends).choice (Outlook.endsAfter_newline 0 rest)

theorem completes_space (room : Nat) (rest : Outlook settings Unit)
    (completes : Completes room rest) : Completes (1 + room) (Doc.space.before 0 rest) :=
  completes.text " " none

theorem completes_line (room : Nat) (rest : Outlook settings Unit)
    (completes : Completes room rest) : Completes (1 + room) (Doc.line.before 0 rest) :=
  (completes_space room rest completes).choice (completes.newline.weaken (Nat.le_add_left room 1))

theorem shows_word (shows : Shows rest word.length shown) :
    Shows (rest.text word none) 0 (word ++ shown) := by
  rw [← Nat.zero_add word.length] at shows
  exact shows.text none

theorem shows_spaced (shows : Shows rest (column + 1 + word.length) shown) :
    Shows (Doc.space.before 0 (rest.text word none)) column (" " ++ word ++ shown) := by
  have onLine : Shows (rest.text word none) (column + " ".length) (word ++ shown) :=
    Shows.text shows none
  rw [String.append_assoc]
  exact onLine.text none

end Separators

theorem endsAfter_flat (words : List String) :
    EndsAfter (spacedLength words) (separated settings Doc.space words) := by
  induction words with
  | nil => exact Outlook.endsAfter_finished
  | cons word words ih =>
    rw [spacedLength, total, Nat.add_assoc]
    exact endsAfter_space (ih.text word none)

theorem endsAfter_soft (words : List String) :
    EndsAfter 0 (separated settings Doc.line words) := by
  induction words with
  | nil => exact Outlook.endsAfter_finished
  | cons word words ih => exact endsAfter_line (ih.text word none)

theorem completes_separated {separator : Doc Unit}
    (completes : ∀ room (rest : Outlook settings Unit), Completes room rest →
      Completes (1 + room) (separator.before 0 rest)) (words : List String) :
    Completes (spacedLength words) (separated settings separator words) := by
  induction words with
  | nil => exact Outlook.completes_finished
  | cons word words ih =>
    rw [spacedLength, total, Nat.add_assoc]
    exact completes _ _ (ih.text word none)

theorem shows_flat (words : List String) (room : column + spacedLength words ≤ settings.width) :
    Shows (separated settings Doc.space words) column (greedyFrom settings.width column words) := by
  induction words generalizing column with
  | nil => exact Outlook.shows_finished column
  | cons word words ih =>
    simp only [spacedLength, total] at room
    rw [greedyFrom, if_pos (by omega)]
    apply shows_spaced
    apply ih
    rw [spacedLength]
    omega

theorem shows_soft (words : List String) (column : Nat) :
    Shows (separated settings Doc.line words) column (greedyFrom settings.width column words) := by
  induction words generalizing column with
  | nil => exact Outlook.shows_finished column
  | cons word words ih =>
    have ends := endsAfter_space ((@endsAfter_soft settings words).text word none)
    rw [greedyFrom]
    apply Shows.choice
    · intro fits
      have room := of_decide_eq_true (ends column true fits).symm
      rw [if_pos (by omega)]
      exact shows_spaced (ih _)
    · intro unfit
      have tooLong := of_decide_eq_false (ends column false unfit).symm
      rw [if_neg (by omega), String.append_assoc]
      exact (shows_word (ih _)).newline

theorem shows_document (settings : Settings) (words : List String) :
    Shows ((document words).outlook settings) 0 (greedy settings.width words) := by
  cases words with
  | nil => exact Shows.choice (fun _ => Outlook.shows_finished 0) fun _ => Outlook.shows_finished 0
  | cons word words =>
    have ends := (@endsAfter_flat settings words).text word none
    rw [outlook_document, greedy]
    apply Shows.choice
    · intro fits
      have room := of_decide_eq_true (ends 0 true fits).symm
      exact shows_word (shows_flat words (by omega))
    · exact fun _ => shows_word (shows_soft words _)

theorem completes_document (settings : Settings) (words : List String) :
    Completes (" ".intercalate words).length ((document words).outlook settings) := by
  cases words with
  | nil => exact Outlook.completes_finished.choice Outlook.completes_finished
  | cons word words =>
    have flat := (completes_separated (@completes_space settings) words).text word none
    have soft := (completes_separated (@completes_line settings) words).text word none
    rw [outlook_document, length_intercalate]
    exact flat.choice soft

/-- The words are displayed greedily, which puts more than one of them onto a line only within the
width. Other lines that do so, of words that break no line, have no fewer line feeds between them. -/
theorem document_fills (settings : Settings) (words : List String) :
    (∀ shown, (document words).pretty settings = .ok shown →
      shown = greedy settings.width words) ∧
    ((" ".intercalate words).length < wordLimit →
      (document words).pretty settings = .ok (greedy settings.width words)) ∧
    greedy settings.width words = ofLines (lines settings.width words) ∧
    Fills settings.width words (lines settings.width words) ∧
    ((∀ word ∈ words, breaksLine word = false) →
      ∀ other, Fills settings.width words other →
        lineFeeds (greedy settings.width words) ≤ lineFeeds (ofLines other)) := by
  have shows := shows_document settings words
  refine ⟨?shown, ?complete, greedy_eq_ofLines _ _, fills_lines _ _, ?fewest⟩
  case shown =>
    intro shown display
    rw [Doc.pretty, Doc.render_eq_outlook] at display
    obtain ⟨fragments, rendered, rfl⟩ := except_map_eq_ok display
    obtain ⟨events, observed, rfl⟩ := except_map_eq_ok rendered
    exact shows events observed
  case complete =>
    intro room
    obtain ⟨events, observed⟩ := completes_document settings words 0 (by omega)
    rw [Doc.pretty, Doc.render_eq_outlook, observed]
    exact congrArg Except.ok (shows events observed)
  case fewest => exact fun unbroken other fills => fills.lineFeeds_greedy_le unbroken

theorem document_fills_around_long_word :
    (document ["a", "longer", "", "b"]).pretty ⟨3, 4⟩ = .ok "a\nlonger\n b" ∧
    lineFeeds "a\nlonger\n b" ≤ lineFeeds (ofLines [["a"], ["longer"], [""], ["b"]]) := by
  have fills : Fills 3 ["a", "longer", "", "b"] [["a"], ["longer"], [""], ["b"]] :=
    ⟨rfl, by decide, by decide⟩
  have greedily : greedy 3 ["a", "longer", "", "b"] = "a\nlonger\n b" := by decide +kernel
  obtain ⟨_, complete, _, _, fewest⟩ := document_fills ⟨3, 4⟩ ["a", "longer", "", "b"]
  have shown := complete (by decide +kernel)
  have least := fewest (by decide +kernel) _ fills
  rw [greedily] at shown least
  exact ⟨shown, least⟩

end Fill

end LineLayout
