import Mathlib.Algebra.BigOperators.Group.List.Basic
import Mathlib.Algebra.Order.BigOperators.Group.List
import Mathlib.Data.Int.Log
import Mathlib.Data.List.Perm.Subperm
import StockVerification.Foundation.Rounding

/-!
# Sums whose additions are rounded

An addition of a runtime is the exact one followed by a rounding, which is a parameter here. Sums
are compared with the exact ones where no sum of some of the numbers is rounded: doubles add whole
numbers, halves, quarters and so on up to 53 bits in this way.
-/
namespace StockVerification.Foundation

/-- The numbers added from left to right, each sum going through `round`. -/
def roundedSum (round : ℚ → ℚ) (numbers : List ℚ) : ℚ := numbers.foldl (fun sum number => round (sum + number)) 0

/-- No sum of some of the numbers is rounded. -/
def SumsExactly (round : ℚ → ℚ) (numbers : List ℚ) : Prop :=
  ∀ chosen, List.Subperm chosen numbers → round chosen.sum = chosen.sum

variable {round : ℚ → ℚ} {numbers : List ℚ}

theorem SumsExactly.mono {chosen : List ℚ} (exact : SumsExactly round numbers)
    (part : chosen.Subperm numbers) : SumsExactly round chosen :=
  fun _ smaller => exact _ (smaller.trans part)

theorem foldl_rounded (added : List ℚ)
    (exact : SumsExactly round (added ++ numbers)) :
    numbers.foldl (fun sum number => round (sum + number)) added.sum = added.sum + numbers.sum := by
  induction numbers generalizing added with
  | nil => simp
  | cons number rest ih =>
    have onward := ih (added ++ [number]) (by rwa [List.append_assoc])
    have here := exact (added ++ [number]) ((List.Sublist.append_left
      (List.singleton_sublist.mpr List.mem_cons_self) added).subperm)
    rw [List.sum_append, List.sum_singleton] at onward here
    rw [List.foldl_cons, here, onward, List.sum_cons, add_assoc]

theorem roundedSum_exact (exact : SumsExactly round numbers) :
    roundedSum round numbers = numbers.sum := by
  have added := foldl_rounded [] exact
  rwa [List.sum_nil, zero_add] at added

/-- The double nearest to a number within the range of doubles, a tie going to the even one. -/
def nearestDouble (q : ℚ) : ℚ :=
  let scale : ℤ := 52 - Int.log 2 |q|
  roundHalfEven (q * 2 ^ scale) / 2 ^ scale

variable (bits : ℕ)

theorem nearestDouble_eq_self {q : ℚ} {n : ℤ} (held : q * 2 ^ bits = n) (small : |n| < 2 ^ 53) :
    nearestDouble q = q := by
  by_cases zero : q = 0
  · rw [zero]
    simp [nearestDouble, roundHalfEven]
  have power : (0 : ℚ) < 2 ^ bits := by positivity
  have size : |q| < (2 : ℚ) ^ ((53 : ℤ) - bits) := by
    have scaled : |q| * 2 ^ bits = |(n : ℚ)| := by rw [← held, abs_mul, abs_of_pos power]
    have below : |(n : ℚ)| < 2 ^ 53 := by exact_mod_cast small
    rw [zpow_sub₀ two_ne_zero, zpow_natCast, lt_div_iff₀ power, scaled]
    exact_mod_cast below
  have log : Int.log 2 |q| < 53 - bits :=
    (Int.lt_zpow_iff_log_lt one_lt_two (abs_pos.mpr zero)).mp (by rwa [Nat.cast_ofNat])
  obtain ⟨more, scale⟩ := Int.eq_ofNat_of_zero_le (by omega : 0 ≤ 52 - Int.log 2 |q| - bits)
  have held' : q * 2 ^ (52 - Int.log 2 |q|) = ((n * 2 ^ more : ℤ) : ℚ) := by
    rw [show 52 - Int.log 2 |q| = bits + more by omega, zpow_add₀ two_ne_zero, zpow_natCast, zpow_natCast, ← mul_assoc,
      held]
    push_cast
    rfl
  rw [nearestDouble, held', roundHalfEven_intCast, ← held', mul_div_assoc, div_self (by positivity), mul_one]

theorem sum_binary (units : List ℤ) :
    (units.map fun n : ℤ => (n : ℚ) / 2 ^ bits).sum * 2 ^ bits = (units.sum : ℤ) := by
  induction units with
  | nil => simp
  | cons n rest ih =>
    rw [List.map_cons, List.sum_cons, List.sum_cons, add_mul, ih, div_mul_cancel₀ _ (by positivity)]
    push_cast
    rfl

/-- Doubles add numbers of a fixed number of binary places exactly, as long as 53 bits hold them all
together. -/
theorem sumsExactly_nearestDouble (units : List ℤ)
    (held : numbers = units.map fun n : ℤ => (n : ℚ) / 2 ^ bits)
    (small : (units.map abs).sum < 2 ^ 53) : SumsExactly nearestDouble numbers := by
  rw [held]
  rintro chosen ⟨_, reordered, part⟩
  obtain ⟨taken, among, rfl⟩ := List.sublist_map_iff.mp part
  rw [← reordered.sum_eq]
  refine nearestDouble_eq_self bits (sum_binary bits taken) (lt_of_le_of_lt ?_ small)
  calc |taken.sum| ≤ (taken.map abs).sum := by
        simpa using Multiset.abs_sum_le_sum_abs (s := (taken : Multiset ℤ))
    _ ≤ (units.map abs).sum := (among.map abs).sum_le_sum (by simp)

end StockVerification.Foundation
