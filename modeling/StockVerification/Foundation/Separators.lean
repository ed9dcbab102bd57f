import Mathlib.Data.List.Basic

/-!
# Separated parts

Lists of parts with a separator between them. A part in which the separator does not occur can be
told from what stands before it and behind it.
-/
namespace StockVerification.Foundation

namespace Separated

variable {α : Type} {separator : α}

/-- The part in front of the first separator. -/
theorem first_part {front back other rest : List α} (apart : separator ∉ front) (otherApart : separator ∉ other)
    (same : front ++ separator :: back = other ++ separator :: rest) : front = other ∧ back = rest := by
  induction front generalizing other with
  | nil =>
    cases other with
    | nil => exact ⟨rfl, List.tail_eq_of_cons_eq same⟩
    | cons first tail =>
      have head := List.head_eq_of_cons_eq same
      rw [← head] at otherApart
      exact absurd List.mem_cons_self otherApart
  | cons first tail ih =>
    cases other with
    | nil =>
      have head := List.head_eq_of_cons_eq same
      rw [head] at apart
      exact absurd List.mem_cons_self apart
    | cons otherFirst otherTail =>
      rw [List.cons_append, List.cons_append, List.cons.injEq] at same
      rw [List.mem_cons, not_or] at apart otherApart
      obtain ⟨tails, backs⟩ := ih apart.2 otherApart.2 same.2
      exact ⟨by rw [same.1, tails], backs⟩

theorem last_part {front back other rest : List α} (apart : separator ∉ back) (otherApart : separator ∉ rest)
    (same : front ++ separator :: back = other ++ separator :: rest) : front = other ∧ back = rest := by
  have mirrored : back.reverse ++ separator :: front.reverse = rest.reverse ++ separator :: other.reverse := by
    have turned := congrArg List.reverse same
    simpa using turned
  obtain ⟨backs, fronts⟩ := first_part (by simpa using apart) (by simpa using otherApart) mirrored
  exact ⟨List.reverse_inj.mp fronts, List.reverse_inj.mp backs⟩

variable [DecidableEq α]

/-- There is one part exactly if there is no separator. -/
theorem splitOn_single {items : List α} : (items.splitOn separator).length = 1 ↔ separator ∉ items := by
  induction items with
  | nil => simp
  | cons first rest ih =>
    have filled : 1 ≤ (rest.splitOn separator).length := by
      rw [Nat.one_le_iff_ne_zero, Ne, List.length_eq_zero_iff]
      exact List.splitOn_ne_nil _ _
    rw [List.splitOn_cons_eq_if_modifyHead, List.mem_cons, not_or, ← ih]
    by_cases here : first = separator
    · rw [if_pos (beq_iff_eq.mpr here), List.length_cons]
      simp only [here, not_true_eq_false, false_and, iff_false]
      omega
    · rw [if_neg (by simpa using here), List.length_modifyHead]
      simp [Ne.symm here]

end Separated

end StockVerification.Foundation
