import Mathlib.Data.List.Nodup
import Mathlib.Data.List.Basic
import Mathlib.Data.List.Forall2

/-!
# Updates of one record

A collection of records is a list in natural order. An update of one record rewrites the first that
a filter selects.
-/
namespace StockVerification.Foundation

variable {α κ : Type}

def updateFirst (selects : α → Bool) (rewrite : α → α) : List α → List α
  | [] => []
  | record :: rest => if selects record then rewrite record :: rest else record :: updateFirst selects rewrite rest

variable {selects : α → Bool} {rewrite : α → α} {records : List α}

/-- What the rewriting keeps of each record, the update keeps. -/
theorem map_updateFirst {key : α → κ} (keeps : ∀ record, key (rewrite record) = key record) :
    (updateFirst selects rewrite records).map key = records.map key := by
  induction records with
  | nil => rfl
  | cons record rest ih =>
    rw [updateFirst]
    by_cases selected : selects record = true
    · rw [if_pos selected, List.map_cons, List.map_cons, keeps]
    · rw [if_neg selected, List.map_cons, List.map_cons, ih]

theorem mem_updateFirst {after : α} (member : after ∈ updateFirst selects rewrite records) :
    after ∈ records ∨ ∃ record ∈ records, selects record = true ∧ after = rewrite record := by
  induction records with
  | nil => cases member
  | cons record rest ih =>
    rw [updateFirst] at member
    by_cases selected : selects record = true
    · rw [if_pos selected] at member
      rcases List.mem_cons.mp member with isFirst | later
      · exact Or.inr ⟨record, by simp, selected, isFirst⟩
      · exact Or.inl (by simp [later])
    · rw [if_neg selected] at member
      rcases List.mem_cons.mp member with isFirst | later
      · exact Or.inl (by simp [isFirst])
      · rcases ih later with old | ⟨found, isOld, isSelected, same⟩
        · exact Or.inl (by simp [old])
        · exact Or.inr ⟨found, by simp [isOld], isSelected, same⟩

/-- Among records with different keys the updated one is the only one with its key. -/
theorem mem_updateFirst_keyed {key : α → κ} {after found : α} (distinct : (records.map key).Nodup)
    (finds : records.find? selects = some found) (member : after ∈ updateFirst selects rewrite records) :
    after = rewrite found ∨ after ∈ records ∧ key after ≠ key found := by
  induction records with
  | nil => cases member
  | cons record rest ih =>
    rw [List.map_cons, List.nodup_cons] at distinct
    rw [updateFirst] at member
    by_cases selected : selects record = true
    · rw [List.find?_cons_of_pos selected] at finds
      cases finds
      rw [if_pos selected] at member
      rcases List.mem_cons.mp member with isFirst | later
      · exact Or.inl isFirst
      · right
        refine ⟨by simp [later], fun same => distinct.1 ?_⟩
        rw [← same]
        exact List.mem_map_of_mem later
    · rw [List.find?_cons_of_neg selected] at finds
      rw [if_neg selected] at member
      rcases List.mem_cons.mp member with isFirst | later
      · right
        refine ⟨by simp [isFirst], fun same => distinct.1 ?_⟩
        rw [← isFirst, same]
        exact List.mem_map_of_mem (List.mem_of_find?_eq_some finds)
      · rcases ih distinct.2 finds later with isFound | ⟨old, different⟩
        · exact Or.inl isFound
        · exact Or.inr ⟨by simp [old], different⟩

/-- Each record is left as it is, or rewritten. -/
theorem forall₂_updateFirst {related : α → α → Prop} (same : ∀ record, related record record)
    (rewritten : ∀ record ∈ records, selects record = true → related record (rewrite record)) :
    List.Forall₂ related records (updateFirst selects rewrite records) := by
  induction records with
  | nil => exact List.Forall₂.nil
  | cons record rest ih =>
    rw [updateFirst]
    by_cases selected : selects record = true
    · rw [if_pos selected]
      exact List.Forall₂.cons (rewritten record (by simp) selected) (List.forall₂_same.mpr fun r _ => same r)
    · rw [if_neg selected]
      exact List.Forall₂.cons (same record) (ih fun r member => rewritten r (by simp [member]))

end StockVerification.Foundation
