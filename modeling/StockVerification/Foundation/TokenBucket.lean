import Mathlib.Algebra.Order.Field.Basic
import Mathlib.Tactic.Linarith

/-!
# Token buckets

A bucket gains tokens at a rate up to a burst, and every call takes one. What is taken from a time
on is bounded by the burst and by what was gained since then. Forgetting a bucket that has been left
alone for long enough changes nothing: it is full again.
-/
namespace StockVerification.Foundation

variable {K : Type} [Field K] [LinearOrder K] [IsStrictOrderedRing K]

structure TokenBucket (K : Type) where
  tokens : K
  lastRefill : K

namespace TokenBucket

def refill (rate burst now : K) (bucket : TokenBucket K) : TokenBucket K where
  tokens := min burst (bucket.tokens + rate * (now - bucket.lastRefill))
  lastRefill := now

def take (time : K) (bucket : TokenBucket K) : TokenBucket K where
  tokens := bucket.tokens - 1
  lastRefill := time

def full (burst time : K) : TokenBucket K := { tokens := burst, lastRefill := time }

/-- The tokens taken since a start and the tokens left are no more than the burst and the gain since
then. -/
structure Covers (rate burst start : K) (taken : Nat) (bucket : TokenBucket K) : Prop where
  nonneg : 0 ≤ bucket.tokens
  atMost : bucket.tokens ≤ burst
  covered : 0 < taken → taken + bucket.tokens ≤ burst + rate * (bucket.lastRefill - start)

variable {rate burst start now : K} {taken : Nat} {bucket : TokenBucket K}

omit [LinearOrder K] [IsStrictOrderedRing K] in
theorem elapsed (rate start now : K) (bucket : TokenBucket K) :
    rate * (now - start) = rate * (now - bucket.lastRefill) + rate * (bucket.lastRefill - start) := by
  rw [← mul_add, sub_add_sub_cancel]

omit [IsStrictOrderedRing K] in
theorem Covers.full (positive : 0 ≤ burst) : Covers rate burst start 0 (full burst now) :=
  ⟨positive, le_refl burst, fun some => absurd some (Nat.lt_irrefl 0)⟩

section

variable (covers : Covers rate burst start taken bucket)
include covers

theorem Covers.refill (gain : 0 ≤ rate) (positive : 0 ≤ burst) (later : bucket.lastRefill ≤ now) :
    Covers rate burst start taken (bucket.refill rate burst now) := by
  have gained : 0 ≤ rate * (now - bucket.lastRefill) := mul_nonneg gain (sub_nonneg.mpr later)
  constructor
  · exact le_min positive (add_nonneg covers.nonneg gained)
  · exact min_le_left _ _
  · intro some
    have before := covers.covered some
    have split := elapsed rate start now bucket
    calc (taken : K) + (bucket.refill rate burst now).tokens
        ≤ taken + (bucket.tokens + rate * (now - bucket.lastRefill)) := by
          apply add_le_add_right
          exact min_le_right _ _
      _ ≤ burst + rate * (now - start) := by
          rw [split]
          linarith

theorem Covers.take (gain : 0 ≤ rate) (enough : 1 ≤ bucket.tokens) (later : bucket.lastRefill ≤ now) :
    Covers rate burst start (taken + if start ≤ now then 1 else 0) (bucket.take now) := by
  have gained : 0 ≤ rate * (now - bucket.lastRefill) := mul_nonneg gain (sub_nonneg.mpr later)
  have split := elapsed rate start now bucket
  have atMost := covers.atMost
  constructor
  · exact sub_nonneg.mpr enough
  · simp only [TokenBucket.take]
    linarith
  · intro some
    simp only [TokenBucket.take]
    rcases Nat.eq_zero_or_pos taken with none | before
    · by_cases inside : start ≤ now
      · have since : 0 ≤ rate * (now - start) := mul_nonneg gain (sub_nonneg.mpr inside)
        rw [none, if_pos inside]
        push_cast
        linarith
      · rw [none, if_neg inside] at some
        exact absurd some (Nat.lt_irrefl 0)
    · have earlier := covers.covered before
      have counted : ((taken + if start ≤ now then 1 else 0 : Nat) : K) ≤ taken + 1 := by
        split <;> simp
      linarith

/-- Left alone for as long as it takes to fill, a bucket may be forgotten and made anew. -/
theorem Covers.forget {idle : K} (gain : 0 ≤ rate) (fills : burst ≤ rate * idle)
    (later : bucket.lastRefill + idle ≤ now) : Covers rate burst start taken (TokenBucket.full burst now) := by
  have nonneg := covers.nonneg
  have atMost := covers.atMost
  constructor
  · exact le_trans nonneg atMost
  · exact le_refl burst
  · intro some
    have before := covers.covered some
    have gained : rate * idle ≤ rate * (now - bucket.lastRefill) := mul_le_mul_of_nonneg_left (by linarith) gain
    have split := elapsed rate start now bucket
    simp only [TokenBucket.full]
    linarith

/-- One more token can be taken. -/
theorem Covers.bound {finish : K} (gain : 0 ≤ rate) (enough : 1 ≤ bucket.tokens) (within : bucket.lastRefill ≤ finish)
    (window : start ≤ finish) : ((taken + 1 : Nat) : K) ≤ burst + rate * (finish - start) := by
  have since : 0 ≤ rate * (finish - start) := mul_nonneg gain (sub_nonneg.mpr window)
  have atMost := covers.atMost
  rcases Nat.eq_zero_or_pos taken with none | before
  · rw [none]
    push_cast
    linarith
  · have earlier := covers.covered before
    have gained : rate * (bucket.lastRefill - start) ≤ rate * (finish - start) :=
      mul_le_mul_of_nonneg_left (by linarith) gain
    push_cast
    linarith

end

end TokenBucket

end StockVerification.Foundation
