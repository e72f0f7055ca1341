import Mathlib.Data.List.TakeWhile
import LineLayout.Command.Stages
/-!
The format that a file is read in: the one asked for, else what the last part of its path says.
-/
namespace LineLayout.Command

section

variable {name ending : List Char}

theorem differs_of_not_mem {stop : Char} {passed : List Char} (absent : stop ∉ passed) :
    ∀ c ∈ passed.reverse, decide (c ≠ stop) = true := by
  intro c member
  have differs : c ≠ stop := fun same => absent (same ▸ List.mem_reverse.mp member)
  simpa using differs

theorem suffix?_eq_some_iff :
    suffix? name = some ending ↔
      ∃ stem, name = stem ++ '.' :: ending ∧ stem ≠ [] ∧ '.' ∉ ending := by
  constructor
  · intro found
    simp only [suffix?] at found
    split at found
    · rename_i c stem dropped
      cases found
      refine ⟨(c :: stem).reverse, ?_, by simp, ?_⟩
      · have parts := congrArg List.reverse
          (List.takeWhile_append_dropWhile (p := (· ≠ '.')) (l := name.reverse))
        rw [dropped] at parts
        simpa using parts.symm
      · intro member
        simpa using List.mem_takeWhile_imp (List.mem_reverse.mp member)
    · cases found
  · rintro ⟨stem, rfl, nonempty, undotted⟩
    have passed := differs_of_not_mem undotted
    obtain ⟨c, later, reversed⟩ := List.exists_cons_of_ne_nil (List.reverse_ne_nil_iff.mpr nonempty)
    simp only [suffix?, List.reverse_append, List.reverse_cons, List.append_assoc,
      List.singleton_append, List.dropWhile_append_of_pos passed,
      List.takeWhile_append_of_pos passed, reversed]
    simp

theorem fileName_eq_iff {path : String} (nonempty : name ≠ []) :
    fileName path = name ↔ ∃ parent slashes : List Char,
      path.toList = parent ++ name ++ slashes ∧ (parent = [] ∨ parent.getLast? = some '/') ∧
      '/' ∉ name ∧ ∀ c ∈ slashes, c = '/' := by
  constructor
  · rintro rfl
    let rest := path.toList.reverse.dropWhile (· = '/')
    refine ⟨(rest.dropWhile (· ≠ '/')).reverse, (path.toList.reverse.takeWhile (· = '/')).reverse,
      ?_, ?_, ?_, ?_⟩
    · have ends : rest.reverse = (rest.dropWhile (· ≠ '/')).reverse ++ fileName path := by
        rw [fileName, ← List.reverse_append, List.takeWhile_append_dropWhile]
      rw [← ends, ← List.reverse_append, List.takeWhile_append_dropWhile, List.reverse_reverse]
    · have stops := List.head?_dropWhile_not (· ≠ '/') rest
      rw [List.getLast?_reverse, List.reverse_eq_nil_iff]
      cases left : rest.dropWhile (· ≠ '/') with
      | nil => exact .inl rfl
      | cons c later =>
        rw [left] at stops
        exact .inr (by simpa using stops)
    · intro member
      simpa using List.mem_takeWhile_imp (List.mem_reverse.mp member)
    · intro c member
      simpa using List.mem_takeWhile_imp (List.mem_reverse.mp member)
  · rintro ⟨parent, slashes, written, ends, unslashed, slashed⟩
    have skipped : ∀ c ∈ slashes.reverse, decide (c = '/') = true := by
      simpa using slashed
    have kept := differs_of_not_mem unslashed
    have starts : (name.reverse ++ parent.reverse).dropWhile (· = '/') =
        name.reverse ++ parent.reverse := by
      obtain ⟨c, later, reversed⟩ :=
        List.exists_cons_of_ne_nil (List.reverse_ne_nil_iff.mpr nonempty)
      have differs := kept c (by simp [reversed])
      rw [reversed]
      simpa using differs
    have stops : parent.reverse.takeWhile (· ≠ '/') = [] := by
      rcases ends with rfl | last
      · rfl
      · rw [← List.head?_reverse] at last
        obtain ⟨later, reversed⟩ := List.head?_eq_some_iff.mp last
        simp [reversed]
    simp only [fileName, written, List.reverse_append, List.append_assoc]
    rw [List.dropWhile_append_of_pos skipped, starts, List.takeWhile_append_of_pos kept, stops,
      List.append_nil, List.reverse_reverse]

end

theorem hasExtension_iff (path ending : String) :
    HasExtension path ending ↔ suffix? (fileName path) = some ending.toList := by
  constructor
  · rintro ⟨parent, stem, slashes, written, ends, nonempty, unslashed, undotted, slashed⟩
    have named : fileName path = stem ++ '.' :: ending.toList :=
      (fileName_eq_iff (by simp)).mpr ⟨parent, slashes, written, ends, unslashed, slashed⟩
    exact suffix?_eq_some_iff.mpr ⟨stem, named, nonempty, undotted⟩
  · intro found
    obtain ⟨stem, named, nonempty, undotted⟩ := suffix?_eq_some_iff.mp found
    obtain ⟨parent, slashes, written, ends, unslashed, slashed⟩ :=
      (fileName_eq_iff (by simp)).mp named
    exact ⟨parent, stem, slashes, written, ends, nonempty, unslashed, undotted, slashed⟩

example : guessFormat "a.ron.json" = .json ∧ guessFormat "a.json/b" = .ron ∧
    guessFormat ".json" = .ron := by
  decide +kernel

theorem selects_iff (options : Options) (format : Description.Format) :
    Selects options format ↔ options.format.getD (guessFormat options.file) = format := by
  rw [Selects, hasExtension_iff]
  cases options.format with
  | some asked => simp
  | none =>
    simp only [guessFormat, Option.getD_none]
    by_cases json : suffix? (fileName options.file) = some "json".toList <;>
      cases format <;> simp [json]

end LineLayout.Command
