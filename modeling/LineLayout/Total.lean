/-!
Totals: the sum of a measure over a list.
-/
namespace LineLayout

variable {τ : Type}

def total (measure : τ → Nat) : List τ → Nat
  | [] => 0
  | first :: others => measure first + total measure others

theorem total_append (measure : τ → Nat) (first second : List τ) :
    total measure (first ++ second) = total measure first + total measure second := by
  induction first with
  | nil => simp [total]
  | cons head tail ih => simp [total, ih, Nat.add_assoc]

theorem total_map {σ : Type} (measure : τ → Nat) (f : σ → τ) (items : List σ) :
    total measure (items.map f) = total (fun item => measure (f item)) items := by
  induction items with
  | nil => rfl
  | cons head tail ih => exact congrArg _ ih

theorem total_congr {measure measure' : τ → Nat} {items : List τ}
    (same : ∀ item ∈ items, measure item = measure' item) :
    total measure items = total measure' items := by
  induction items with
  | nil => rfl
  | cons head tail ih =>
    have tails := ih fun item member => same item (List.mem_cons_of_mem _ member)
    simp only [total, same head List.mem_cons_self, tails]

end LineLayout
