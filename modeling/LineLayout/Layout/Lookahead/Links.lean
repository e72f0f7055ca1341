import LineLayout.Layout.Lookahead.Basic
/-!
The entries that a cursor stands for. Links lead downwards only, so following them ends; pushing a
cell changes what no earlier cursor stands for.
-/
namespace LineLayout.Lookahead

variable {α : Type}

def height : Option Nat → Nat
  | none => 0
  | some position => position + 1

/-- The entries reached from a cell by its links, as long as these lead downwards. -/
def chain (cells : Array (Cell α)) : Nat → List (Entry α)
  | 0 => []
  | position + 1 =>
    match cells[position]? with
    | none => []
    | some cell =>
      cell.entry :: if height cell.below ≤ position then chain cells (height cell.below) else []
termination_by level => level

def pending (run : Lookahead α) (cursor : Cursor) : List (Entry α) :=
  chain run.cells (height cursor.top) ++ (run.waiting.toList.take cursor.waiting).reverse

def InBounds (run : Lookahead α) (cursor : Cursor) : Prop :=
  height cursor.top ≤ run.cells.size ∧ cursor.waiting ≤ run.waiting.size

structure Ordered (run : Lookahead α) : Prop where
  downwards : ∀ position cell, run.cells[position]? = some cell → height cell.below ≤ position
  cursor : InBounds run run.cursor
  saved : ∀ point ∈ run.saved, InBounds run point.cursor

theorem chain_push (cells : Array (Cell α)) (cell : Cell α) (level : Nat)
    (bound : level ≤ cells.size) : chain (cells.push cell) level = chain cells level := by
  induction level using Nat.strongRecOn with
  | ind level ih =>
    cases level with
    | zero => simp [chain]
    | succ position =>
      have older : (cells.push cell)[position]? = cells[position]? := by
        rw [Array.getElem?_push_lt (by omega)]
        simp [show position < cells.size by omega]
      unfold chain
      rw [older]
      split
      · rfl
      · split
        · rw [ih _ (by omega) (by omega)]
        · rfl

theorem pending_push_of_inBounds (run : Lookahead α) (cursor other : Cursor) (entry : Entry α)
    (bounds : InBounds run other) : (run.push cursor entry).pending other = run.pending other := by
  simp [pending, push, chain_push _ _ _ bounds.1]

theorem pending_push (run : Lookahead α) (cursor : Cursor) (entry : Entry α)
    (bounds : InBounds run cursor) :
    (run.push cursor entry).pending (run.push cursor entry).cursor =
      entry :: run.pending cursor := by
  have below : height cursor.top ≤ run.cells.size := bounds.1
  simp only [pending, push]
  rw [show height (some run.cells.size) = run.cells.size + 1 from rfl, chain]
  simp [below, chain_push _ _ _ below]

theorem inBounds_push (run : Lookahead α) (cursor other : Cursor) (entry : Entry α)
    (bounds : InBounds run other) : InBounds (run.push cursor entry) other := by
  refine ⟨?_, bounds.2⟩
  have := bounds.1
  simp only [push, Array.size_push]
  omega

theorem ordered_push (run : Lookahead α) (cursor : Cursor) (entry : Entry α)
    (downwards : ∀ position cell, run.cells[position]? = some cell → height cell.below ≤ position)
    (bounds : InBounds run cursor) (saved : ∀ point ∈ run.saved, InBounds run point.cursor) :
    Ordered (run.push cursor entry) where
  downwards := by
    intro position cell found
    simp only [push, Array.getElem?_push] at found
    split at found
    · cases found
      rename_i last
      subst last
      exact bounds.1
    · exact downwards position cell found
  cursor := by
    refine ⟨?_, bounds.2⟩
    simp [push, height]
  saved := fun point member => inBounds_push run cursor point.cursor entry (saved point member)

theorem start_ordered (width tabWidth : Nat) (waiting : Array (Entry α)) (column : Nat)
    (first : Entry α) : Ordered (start width tabWidth waiting column first) where
  downwards := by
    intro position cell found
    simp only [start, Array.getElem?_singleton] at found
    split at found
    · cases found
      simp [height]
    · cases found
  cursor := by simp [start, InBounds, height]
  saved := by simp [start]

theorem pending_start (width tabWidth : Nat) (waiting : Array (Entry α)) (column : Nat)
    (first : Entry α) :
    (start width tabWidth waiting column first).pending
        (start width tabWidth waiting column first).cursor = first :: waiting.toList.reverse := by
  simp only [pending, start, height]
  rw [chain]
  simp [height, chain, ← Array.length_toList]

theorem pop?_of_ordered (run : Lookahead α) (ordered : Ordered run) :
    match run.pending run.cursor with
    | [] => run.pop? = .ok none
    | entry :: left => ∃ cursor, run.pop? = .ok (some (entry, cursor)) ∧ InBounds run cursor ∧
        cursor.column = run.cursor.column ∧ run.pending cursor = left := by
  obtain ⟨topBound, waitingBound⟩ := ordered.cursor
  unfold pop?
  match topCase : run.cursor.top with
  | some position =>
    have inside : position < run.cells.size := by
      simp only [topCase, height] at topBound
      omega
    have found : run.cells[position]? = some run.cells[position] := by simp [inside]
    have below := ordered.downwards position _ found
    simp only [pending, topCase, height]
    rw [chain]
    simp only [found, below, if_true, List.cons_append]
    exact ⟨_, rfl, ⟨by simp only; omega, waitingBound⟩, rfl, rfl⟩
  | none =>
    match waitingCase : run.cursor.waiting with
    | 0 => simp [pending, topCase, waitingCase, height, chain]
    | left + 1 =>
      have inside : left < run.waiting.size := by omega
      have found : run.waiting[left]? = some run.waiting[left] := by simp [inside]
      have last : (run.waiting.toList.take (left + 1)).reverse =
          run.waiting[left] :: (run.waiting.toList.take left).reverse := by
        rw [List.take_add_one]
        simp [found]
      simp only [pending, topCase, waitingCase, height, chain, List.nil_append, last, found]
      refine ⟨_, rfl, ⟨?_, by simp only; omega⟩, rfl, ?_⟩
      · simp [height]
      · simp [chain]

end LineLayout.Lookahead
