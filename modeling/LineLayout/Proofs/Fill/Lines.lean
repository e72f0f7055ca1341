import LineLayout.Layout.Fill
import LineLayout.Proofs.Fragment.Lines
/-!
Greedy lines: they hold the words within the width where that is possible, and no other lines that do
so are fewer.
-/
namespace LineLayout.Fill

variable {width : Nat} {word : String} {words line : List String}

section Lines

theorem length_append_word (begun : line ≠ []) :
    (" ".intercalate (line ++ [word])).length =
      (" ".intercalate line).length + 1 + word.length := by
  rw [String.intercalate_append_of_ne_nil begun (List.cons_ne_nil _ _),
    String.intercalate_singleton, String.length_append, String.length_append]
  rfl

theorem linesFrom_ne_nil (width : Nat) (line words : List String) :
    linesFrom width line words ≠ [] := by
  fun_induction linesFrom width line words with
  | case1 line => exact List.cons_ne_nil _ _
  | case2 line word words fits ih => exact ih
  | case3 line word words tooLong ih => exact List.cons_ne_nil _ _

theorem intercalate_greedyFrom (begun : line ≠ []) :
    " ".intercalate line ++ greedyFrom width (" ".intercalate line).length words =
      ofLines (linesFrom width line words) := by
  fun_induction linesFrom width line words with
  | case1 line => simp [greedyFrom, ofLines]
  | case2 line word words fits ih =>
    have longer := ih (by simp)
    rw [length_append_word begun,
      String.intercalate_append_of_ne_nil begun (List.cons_ne_nil _ _),
      String.intercalate_singleton] at longer
    rw [greedyFrom, if_pos fits, ← longer]
    simp only [String.append_assoc]
  | case3 line word words tooLong ih =>
    have next := ih (List.cons_ne_nil _ _)
    rw [String.intercalate_singleton] at next
    have others := linesFrom_ne_nil width [word] words
    rw [greedyFrom, if_neg tooLong, ofLines, List.map_cons,
      String.intercalate_cons_of_ne_nil (by simpa using others), ← ofLines, ← next]
    simp only [String.append_assoc]

theorem greedy_eq_ofLines (width : Nat) (words : List String) :
    greedy width words = ofLines (lines width words) := by
  cases words with
  | nil => rfl
  | cons word words =>
    have shown := @intercalate_greedyFrom width words [word] (List.cons_ne_nil _ _)
    rwa [String.intercalate_singleton] at shown

theorem fills_linesFrom (begun : line ≠ [])
    (within : line.length = 1 ∨ (" ".intercalate line).length ≤ width) :
    Fills width (line ++ words) (linesFrom width line words) := by
  fun_induction linesFrom width line words with
  | case1 line => exact ⟨by simp, by simpa using begun.symm, by simpa using within⟩
  | case2 line word words fits ih =>
    rw [List.append_cons]
    exact ih (by simp) (.inr (length_append_word begun ▸ fits))
  | case3 line word words tooLong ih =>
    obtain ⟨rest, nonempty, bounded⟩ := ih (List.cons_ne_nil _ _) (.inl rfl)
    refine ⟨?_, ?_, List.forall_mem_cons.mpr ⟨within, bounded⟩⟩
    · rw [List.flatten_cons, rest, List.singleton_append]
    · rw [List.mem_cons, not_or]
      exact ⟨begun.symm, nonempty⟩

theorem fills_lines (width : Nat) (words : List String) :
    Fills width words (lines width words) := by
  cases words with
  | nil => exact ⟨rfl, nofun, nofun⟩
  | cons word words => exact fills_linesFrom (List.cons_ne_nil word []) (.inl rfl)

end Lines

section LineFeeds

@[simp] theorem lineFeeds_append (text text' : String) :
    lineFeeds (text ++ text') = lineFeeds text + lineFeeds text' := by
  simp [lineFeeds]

theorem lineFeeds_of_unbroken (unbroken : breaksLine word = false) : lineFeeds word = 0 :=
  List.count_eq_zero.mpr (Fragment.not_mem_toList_of_breaksLine unbroken)

theorem lineFeeds_intercalate (unbroken : ∀ word ∈ line, breaksLine word = false) :
    lineFeeds (" ".intercalate line) = 0 := by
  induction line with
  | nil => rfl
  | cons word line ih =>
    rw [List.forall_mem_cons] at unbroken
    cases line with
    | nil => simpa using lineFeeds_of_unbroken unbroken.1
    | cons next later =>
      rw [String.intercalate_cons_cons, lineFeeds_append, lineFeeds_append, ih unbroken.2,
        lineFeeds_of_unbroken unbroken.1]
      rfl

theorem lineFeeds_ofLines {others : List (List String)}
    (unbroken : ∀ content ∈ (line :: others).flatten, breaksLine content = false) :
    lineFeeds (ofLines (line :: others)) = others.length := by
  induction others generalizing line with
  | nil =>
    simp only [List.flatten_cons, List.flatten_nil, List.append_nil] at unbroken
    simpa [ofLines] using lineFeeds_intercalate unbroken
  | cons next later ih =>
    rw [List.flatten_cons, List.forall_mem_append] at unbroken
    have first := lineFeeds_intercalate unbroken.1
    have rest := ih unbroken.2
    have feed : lineFeeds "\n" = 1 := by decide
    rw [ofLines, List.map_cons] at rest
    rw [ofLines, List.map_cons, List.map_cons, String.intercalate_cons_cons, lineFeeds_append,
      lineFeeds_append, first, rest, feed, List.length_cons]
    omega

end LineFeeds

section Fewest

variable {length length' : Nat}

theorem lineFeeds_greedyFrom_cons (unbroken : breaksLine word = false) (length : Nat) :
    lineFeeds (greedyFrom width length (word :: words)) =
      if length + 1 + word.length ≤ width then
        lineFeeds (greedyFrom width (length + 1 + word.length) words)
      else lineFeeds (greedyFrom width word.length words) + 1 := by
  have plain := lineFeeds_of_unbroken unbroken
  have space : lineFeeds " " = 0 := by decide
  have feed : lineFeeds "\n" = 1 := by decide
  rw [greedyFrom]
  split
  · rw [lineFeeds_append, lineFeeds_append, plain, space]
    omega
  · rw [lineFeeds_append, lineFeeds_append, plain, feed]
    omega

theorem lineFeeds_of_le (unbroken : ∀ word ∈ words, breaksLine word = false)
    (shorter : length ≤ length') :
    lineFeeds (greedyFrom width length words) ≤ lineFeeds (greedyFrom width length' words) ∧
      lineFeeds (greedyFrom width length' words) ≤
        lineFeeds (greedyFrom width length words) + 1 := by
  induction words generalizing length length' with
  | nil => exact ⟨Nat.le_refl 0, Nat.zero_le 1⟩
  | cons word words ih =>
    rw [List.forall_mem_cons] at unbroken
    have compare := fun {length length'} => @ih length length' unbroken.2
    rw [lineFeeds_greedyFrom_cons unbroken.1, lineFeeds_greedyFrom_cons unbroken.1]
    by_cases fits' : length' + 1 + word.length ≤ width
    · have fits : length + 1 + word.length ≤ width := by omega
      rw [if_pos fits, if_pos fits']
      exact compare (by omega)
    · rw [if_neg fits']
      by_cases fits : length + 1 + word.length ≤ width
      · -- The shorter line takes one more word, and the longer one is left behind.
        have behind := @compare word.length (length + 1 + word.length) (by omega)
        rw [if_pos fits]
        omega
      · rw [if_neg fits]
        omega

theorem lineFeeds_cons_le (unbroken : ∀ content ∈ word :: words, breaksLine content = false)
    (length : Nat) :
    lineFeeds (greedyFrom width length (word :: words)) ≤
      lineFeeds (greedyFrom width word.length words) + 1 := by
  rw [List.forall_mem_cons] at unbroken
  rw [lineFeeds_greedyFrom_cons unbroken.1]
  split
  · exact (lineFeeds_of_le unbroken.2 (by omega)).2
  · exact Nat.le_refl _

theorem lineFeeds_of_fits {tail : List String} (begun : line ≠ [])
    (unbroken : ∀ word ∈ tail, breaksLine word = false)
    (fits : (" ".intercalate (line ++ tail)).length ≤ width) :
    lineFeeds (greedyFrom width (" ".intercalate line).length (tail ++ words)) =
      lineFeeds (greedyFrom width (" ".intercalate (line ++ tail)).length words) := by
  induction tail generalizing line with
  | nil => simp
  | cons word tail ih =>
    rw [List.forall_mem_cons] at unbroken
    rw [List.append_cons] at fits ⊢
    have longer : line ++ [word] ≠ [] := by simp
    have next : (" ".intercalate line).length + 1 + word.length ≤ width := by
      rw [← length_append_word begun]
      refine Nat.le_trans ?_ fits
      cases tail with
      | nil => simp
      | cons _ _ =>
        rw [String.intercalate_append_of_ne_nil longer (List.cons_ne_nil _ _),
          String.length_append, String.length_append, Nat.add_assoc]
        exact Nat.le_add_right _ _
    rw [List.cons_append, lineFeeds_greedyFrom_cons unbroken.1, if_pos next,
      ← length_append_word begun]
    exact ih longer unbroken.2 fits

theorem lineFeeds_of_line {tail : List String}
    (within : (word :: tail).length = 1 ∨ (" ".intercalate (word :: tail)).length ≤ width)
    (unbroken : ∀ content ∈ tail, breaksLine content = false) :
    lineFeeds (greedyFrom width word.length (tail ++ words)) =
      lineFeeds (greedyFrom width (" ".intercalate (word :: tail)).length words) := by
  rcases within with single | fits
  · obtain rfl : tail = [] := List.eq_nil_of_length_eq_zero (Nat.succ.inj single)
    rw [String.intercalate_singleton, List.nil_append]
  · have onto := @lineFeeds_of_fits width words [word] tail (List.cons_ne_nil _ _) unbroken fits
    rwa [String.intercalate_singleton] at onto

theorem Fills.tail {others : List (List String)} (fills : Fills width words (line :: others)) :
    Fills width others.flatten others where
  words := rfl
  nonempty present := fills.nonempty (List.mem_cons_of_mem line present)
  fits := (List.forall_mem_cons.mp fills.fits).2

/-- Greedy lines stay ahead: behind any line, the words of other lines need no more line feeds than
there are such lines. -/
theorem Fills.lineFeeds_le_length {other : List (List String)} (fills : Fills width words other)
    (unbroken : ∀ content ∈ words, breaksLine content = false) (length : Nat) :
    lineFeeds (greedyFrom width length words) ≤ other.length := by
  induction other generalizing words length with
  | nil =>
    obtain rfl := fills.words
    exact Nat.le_refl 0
  | cons line others ih =>
    cases line with
    | nil => exact absurd List.mem_cons_self fills.nonempty
    | cons word tail =>
      obtain rfl := fills.words
      have within := fills.fits (word :: tail) List.mem_cons_self
      have onLine : ∀ content ∈ tail, breaksLine content = false :=
        fun content member => unbroken content (by simp [member])
      have onOthers : ∀ content ∈ others.flatten, breaksLine content = false :=
        fun content member => unbroken content (by simp [List.mem_flatten.mp member])
      -- The first word of the line may take a line feed; the others go with it.
      calc
        lineFeeds (greedyFrom width length (word :: tail ++ others.flatten))
          ≤ lineFeeds (greedyFrom width word.length (tail ++ others.flatten)) + 1 :=
            lineFeeds_cons_le unbroken length
        _ = lineFeeds (greedyFrom width (" ".intercalate (word :: tail)).length others.flatten) +
            1 := by rw [lineFeeds_of_line within onLine]
        _ ≤ others.length + 1 := Nat.succ_le_succ (ih fills.tail onOthers _)

theorem greedyFrom_width (width : Nat) (word : String) (words : List String) :
    greedyFrom width width (word :: words) = "\n" ++ greedy width (word :: words) := by
  rw [greedyFrom, if_neg (by omega), greedy, String.append_assoc]

theorem Fills.lineFeeds_greedy_le {other : List (List String)} (fills : Fills width words other)
    (unbroken : ∀ content ∈ words, breaksLine content = false) :
    lineFeeds (greedy width words) ≤ lineFeeds (ofLines other) := by
  have stays := fills.lineFeeds_le_length unbroken width
  obtain rfl := fills.words
  cases other with
  | nil => exact Nat.le_refl 0
  | cons line others =>
    rw [lineFeeds_ofLines unbroken]
    cases whole : (line :: others).flatten with
    | nil => exact Nat.zero_le _
    | cons word later =>
      have feed : lineFeeds "\n" = 1 := by decide
      rw [whole, greedyFrom_width, lineFeeds_append, feed, List.length_cons] at stays
      omega

end Fewest

end LineLayout.Fill
