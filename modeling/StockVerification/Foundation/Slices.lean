import Mathlib

/-!
# Lists in slices

A list is cut into slices of one size, the last of which may be shorter.
-/
namespace StockVerification.Foundation

variable {α : Type}

/-- For a positive size. -/
def slices (size : ℕ) (items : List α) : List (List α) :=
  (List.range ((items.length + size - 1) / size)).map fun i => (items.drop (size * i)).take size

theorem slices_range (size : ℕ) (items : List α) (n : ℕ) :
    ((List.range n).map fun i => (items.drop (size * i)).take size).flatten = items.take (size * n) := by
  induction n with
  | zero => simp
  | succ n ih =>
    rw [List.range_succ, List.map_append, List.flatten_append, ih, List.map_singleton,
      List.flatten_singleton, Nat.mul_succ, List.take_add]

theorem slices_flatten {size : ℕ} (positive : 0 < size) (items : List α) : (slices size items).flatten = items := by
  rw [slices, slices_range, List.take_of_length_le]
  have enough := Nat.lt_mul_div_succ (items.length + size - 1) positive
  rw [Nat.mul_succ] at enough
  omega

theorem slices_filled {size : ℕ} (positive : 0 < size) (items : List α) : ∀ slice ∈ slices size items, slice ≠ [] := by
  intro slice member
  obtain ⟨i, inside, rfl⟩ := List.mem_map.mp member
  have below := (Nat.lt_div_iff_mul_lt positive).mp (List.mem_range.mp inside)
  rw [Nat.mul_comm] at below
  rw [← List.length_pos_iff, List.length_take, List.length_drop]
  omega

/-- Sums of figures that stay below others are equal exactly if all of them are. -/
theorem sum_eq_iff {f g : α → ℕ} {items : List α} (le : ∀ a ∈ items, f a ≤ g a) :
    (items.map f).sum = (items.map g).sum ↔ ∀ a ∈ items, f a = g a := by
  induction items with
  | nil => simp
  | cons a rest ih =>
    have own := le a List.mem_cons_self
    have later := fun b member => le b (List.mem_cons_of_mem _ member)
    have below := List.sum_le_sum later
    rw [List.map_cons, List.map_cons, List.sum_cons, List.sum_cons, List.forall_mem_cons, ← ih later]
    omega

end StockVerification.Foundation
