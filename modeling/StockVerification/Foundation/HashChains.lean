import Mathlib.Data.List.Chain
import Mathlib.Data.List.Nodup

/-!
# Chains of linked records

Each record has a key and a link, and in a chain the link is the key of the record before. Where
keys determine links and the first link is nobody's key, keys do not repeat and the records can be
chained in one order only.
-/
namespace StockVerification.Foundation

variable {α β : Type*} {key link : α → β}

/-- The link of a record is the key of the record before. -/
def LinkedBy (key link : α → β) (earlier later : α) : Prop := link later = key earlier

theorem LinkedBy.before {front back : List α} {record : α} (chain : (front ++ record :: back).IsChain (LinkedBy key link)) :
    front = [] ∨ ∃ before ∈ front, link record = key before := by
  rcases List.eq_nil_or_concat front with first | ⟨rest, before, split⟩
  · exact Or.inl first
  · right
    rw [split, List.concat_eq_append, List.append_assoc] at chain
    have linked : LinkedBy key link before record := (List.isChain_append_cons_cons.mp chain).2.1
    exact ⟨before, by simp [split], linked⟩

/-- Keys that determine the links do not repeat. -/
theorem LinkedBy.nodup {records : List α} (chain : records.IsChain (LinkedBy key link))
    (determined : ∀ a ∈ records, ∀ b ∈ records, key a = key b → link a = link b)
    (start : ∀ first ∈ records.head?, ∀ b ∈ records, link first ≠ key b) : (records.map key).Nodup := by
  have next : ∀ i (below : i + 1 < records.length), link records[i + 1] = key records[i] := by
    intro i below
    exact List.isChain_iff_getElem.mp chain i below
  -- Two equal keys would be two equal keys one place earlier, down to the first link.
  have apart : ∀ i j (order : i < j) (below : j < records.length), key records[i] ≠ key records[j] := by
    intro i
    induction i with
    | zero =>
      intro j order below same
      obtain ⟨k, rfl⟩ : ∃ k, j = k + 1 := ⟨j - 1, by omega⟩
      have links := determined _ (List.getElem_mem _) _ (List.getElem_mem _) same
      rw [next k below] at links
      have first : records[0] ∈ records.head? := by
        rw [List.head?_eq_getElem?, List.getElem?_eq_getElem]
        rfl
      exact start _ first _ (List.getElem_mem _) links
    | succ i ih =>
      intro j order below same
      obtain ⟨k, rfl⟩ : ∃ k, j = k + 1 := ⟨j - 1, by omega⟩
      have links := determined _ (List.getElem_mem _) _ (List.getElem_mem _) same
      rw [next k below, next i (by omega)] at links
      exact ih k (by omega) (by omega) links
  rw [List.nodup_iff_pairwise_ne, List.pairwise_iff_getElem]
  intro i j below otherBelow order
  simp only [List.getElem_map]
  exact apart i j order (by simpa using otherBelow)

theorem LinkedBy.tail_unique {first : α} {rest other : List α} (chain : (first :: rest).IsChain (LinkedBy key link))
    (otherChain : (first :: other).IsChain (LinkedBy key link)) (perm : other.Perm rest)
    (distinct : ((first :: rest).map key).Nodup) : other = rest := by
  induction rest generalizing first other with
  | nil => exact perm.eq_nil
  | cons second rest ih =>
    obtain ⟨front, back, rfl⟩ := List.append_of_mem (perm.mem_iff.mpr (List.mem_cons_self ..))
    rw [List.map_cons, List.nodup_cons] at distinct
    have linked : link second = key first := (List.isChain_cons_cons.mp chain).1
    -- The record before the second one has the first one's key.
    rcases List.eq_nil_or_concat front with isFirst | ⟨begins, before, ends⟩
    · subst isFirst
      rw [List.nil_append] at perm otherChain ⊢
      rw [ih (List.isChain_cons_cons.mp chain).2 (List.isChain_cons_cons.mp otherChain).2 perm.cons_inv distinct.2]
    · exfalso
      subst ends
      rw [List.concat_eq_append, List.append_assoc, ← List.cons_append] at otherChain
      have again : link second = key before := (List.isChain_append_cons_cons.mp otherChain).2.1
      have member : before ∈ second :: rest := perm.mem_iff.mp (by simp)
      exact distinct.1 (List.mem_map.mpr ⟨before, member, again.symm.trans linked⟩)

/-- There is one order in which the records are chained. -/
theorem LinkedBy.unique {records other : List α} (chain : records.IsChain (LinkedBy key link))
    (otherChain : other.IsChain (LinkedBy key link)) (perm : other.Perm records) (distinct : (records.map key).Nodup)
    (start : ∀ first ∈ records.head?, ∀ b ∈ records, link first ≠ key b) : other = records := by
  cases records with
  | nil => exact perm.eq_nil
  | cons first rest =>
    obtain ⟨front, back, rfl⟩ := List.append_of_mem (perm.mem_iff.mpr (List.mem_cons_self ..))
    rcases LinkedBy.before otherChain with isFirst | ⟨before, member, linked⟩
    · subst isFirst
      rw [List.nil_append] at perm otherChain ⊢
      rw [LinkedBy.tail_unique chain otherChain perm.cons_inv distinct]
    · have isRecord : before ∈ first :: rest := perm.mem_iff.mp (by simp [member])
      exact absurd linked (start first rfl before isRecord)

end StockVerification.Foundation
