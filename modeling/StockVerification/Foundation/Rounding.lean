import Mathlib.Algebra.Order.Field.Basic
import Mathlib.Tactic.Linarith
import StockVerification.Foundation.Text

/-!
# Rounding and order

Rounding to the even neighbour at a tie is monotone and odd, so the size of a rounded value grows
with the size of the value.
-/
namespace StockVerification.Foundation

variable (q : ℚ)

theorem floor_le_roundHalfEven : ⌊q⌋ ≤ roundHalfEven q ∧ roundHalfEven q ≤ ⌊q⌋ + 1 := by
  unfold roundHalfEven
  simp only
  split
  · omega
  · split
    · omega
    · split <;> omega

variable {a b : ℚ}

theorem roundHalfEven_mono (below : a ≤ b) : roundHalfEven a ≤ roundHalfEven b := by
  have floors := Int.floor_le_floor below
  by_cases apart : ⌊a⌋ < ⌊b⌋
  · have low := (floor_le_roundHalfEven a).2
    have high := (floor_le_roundHalfEven b).1
    omega
  · have same : ⌊a⌋ = ⌊b⌋ := by omega
    unfold roundHalfEven
    simp only [same]
    by_cases down : a - ⌊b⌋ < 1 / 2
    · rw [if_pos down]
      have low := (floor_le_roundHalfEven b).1
      unfold roundHalfEven at low
      exact low
    · rw [if_neg down, if_neg (by linarith : ¬ b - ⌊b⌋ < 1 / 2)]
      by_cases up : 1 / 2 < a - ⌊b⌋
      · rw [if_pos up, if_pos (by linarith : 1 / 2 < b - ⌊b⌋)]
      · rw [if_neg up]
        by_cases higher : 1 / 2 < b - ⌊b⌋
        · rw [if_pos higher]
          split <;> omega
        · rw [if_neg higher]

theorem roundHalfEven_neg : roundHalfEven (-q) = -roundHalfEven q := by
  by_cases whole : q = ⌊q⌋
  · rw [whole, ← Int.cast_neg, roundHalfEven_intCast, roundHalfEven_intCast]
  · have above : (⌊q⌋ : ℚ) < q := lt_of_le_of_ne (Int.floor_le q) (Ne.symm whole)
    have below := Int.lt_floor_add_one q
    have floor : ⌊-q⌋ = -⌊q⌋ - 1 := by
      rw [Int.floor_eq_iff]
      push_cast
      constructor <;> linarith
    unfold roundHalfEven
    simp only [floor]
    push_cast
    by_cases down : q - ⌊q⌋ < 1 / 2
    · rw [if_pos down, if_neg (by linarith), if_pos (by linarith)]
      ring
    · rw [if_neg down]
      by_cases up : 1 / 2 < q - ⌊q⌋
      · rw [if_pos up, if_pos (by linarith)]
        ring
      · rw [if_neg up, if_neg (by linarith), if_neg (by linarith)]
        by_cases even : ⌊q⌋ % 2 = 0
        · rw [if_pos even, if_neg (by omega)]
          ring
        · rw [if_neg even, if_pos (by omega)]
          ring

variable (places : Nat)

theorem roundPlaces_mono (below : a ≤ b) : roundPlaces places a ≤ roundPlaces places b := by
  have power : (0 : ℚ) < 10 ^ places := by positivity
  have scaled : a * 10 ^ places ≤ b * 10 ^ places := mul_le_mul_of_nonneg_right below (le_of_lt power)
  have rounded : (roundHalfEven (a * 10 ^ places) : ℚ) ≤ roundHalfEven (b * 10 ^ places) := by
    exact_mod_cast roundHalfEven_mono scaled
  exact div_le_div_of_nonneg_right rounded (le_of_lt power)

theorem roundPlaces_neg (q : ℚ) : roundPlaces places (-q) = -roundPlaces places q := by
  rw [roundPlaces, roundPlaces, neg_mul, roundHalfEven_neg, Int.cast_neg, neg_div]

theorem roundPlaces_zero : roundPlaces places 0 = 0 := by
  have zero : roundHalfEven 0 = 0 := roundHalfEven_intCast 0
  rw [roundPlaces, zero_mul, zero, Int.cast_zero, zero_div]

theorem abs_roundPlaces (q : ℚ) : |roundPlaces places q| = roundPlaces places |q| := by
  have zero := roundPlaces_zero places
  rcases le_total 0 q with positive | negative
  · rw [abs_of_nonneg positive, abs_of_nonneg]
    rw [← zero]
    exact roundPlaces_mono places positive
  · rw [abs_of_nonpos negative, roundPlaces_neg, abs_of_nonpos]
    rw [← zero]
    exact roundPlaces_mono places negative

theorem abs_roundPlaces_mono (places : Nat) (smaller : |a| ≤ |b|) :
    |roundPlaces places a| ≤ |roundPlaces places b| := by
  rw [abs_roundPlaces, abs_roundPlaces]
  exact roundPlaces_mono places smaller

theorem truncate_le_zero : truncate q ≤ 0 ↔ q < 1 := by
  unfold truncate
  split
  · rw [Int.le_iff_lt_add_one, Int.floor_lt]
    norm_num
  · next negative =>
    have negative : q < 0 := by linarith
    rw [Int.ceil_le]
    constructor
    · intro _
      linarith
    · intro _
      exact_mod_cast le_of_lt negative

theorem neg_le_truncate (n : Nat) : -(n : Int) ≤ truncate q ↔ -((n : ℚ) + 1) < q := by
  have natural : (0 : ℚ) ≤ n := Nat.cast_nonneg n
  unfold truncate
  split
  · next positive =>
    constructor
    · intro _
      linarith
    · intro _
      have floor := Int.floor_nonneg.mpr positive
      omega
  · rw [← Int.sub_one_lt_iff, Int.lt_ceil]
    push_cast
    constructor <;> intro bound <;> linarith

theorem roundHalfEven_nonneg : 0 ≤ roundHalfEven q ↔ -1 / 2 ≤ q := by
  constructor
  · intro rounded
    by_contra below
    have floor : ⌊q⌋ ≤ -1 := by
      have : ⌊q⌋ < 0 := by
        rw [Int.floor_lt]
        push_cast
        linarith
      omega
    have low := (floor_le_roundHalfEven q).2
    have whole : ⌊q⌋ = -1 := by omega
    have down : q - ⌊q⌋ < 1 / 2 := by
      rw [whole]
      push_cast
      linarith
    unfold roundHalfEven at rounded
    simp only [down, if_true] at rounded
    omega
  · intro above
    have tie : roundHalfEven (-1 / 2) = 0 := by decide +kernel
    rw [← tie]
    exact roundHalfEven_mono above

theorem roundPlaces_nonneg (q : ℚ) : 0 ≤ roundPlaces places q ↔ -1 / 2 ≤ q * 10 ^ places := by
  have power : (0 : ℚ) < 10 ^ places := by positivity
  rw [roundPlaces, ← roundHalfEven_nonneg, le_div_iff₀ power, zero_mul]
  exact Int.cast_nonneg_iff

theorem roundPlaces_natCast (n : Nat) : roundPlaces places n = n := by
  apply @roundPlaces_eq_self places (n : ℚ) ((n : Int) * 10 ^ places)
  push_cast
  rfl

end StockVerification.Foundation
