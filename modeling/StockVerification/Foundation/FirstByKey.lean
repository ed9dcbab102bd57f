import Mathlib.Data.List.Nodup

/-!
# The first of each key

A list is read from its start. The first element with a key is kept, in another form with the same
key, and the later ones are dropped.
-/
namespace StockVerification.Foundation

variable {α κ : Type} [BEq κ]

/-- What is kept so far, and what the rest of the list adds. -/
def firstByKeyFrom (key : α → κ) (form : α → α) (kept : List α) (records : List α) : List α :=
  records.foldl (fun kept record => if kept.any fun other => key other == key record then kept
    else kept ++ [form record]) kept

def firstByKey (key : α → κ) (form : α → α) (records : List α) : List α := firstByKeyFrom key form [] records

variable {key : α → κ} {form : α → α} {kept records : List α}

theorem firstByKeyFrom_cons (record : α) (rest : List α) : firstByKeyFrom key form kept (record :: rest) =
      firstByKeyFrom key form (if kept.any fun other => key other == key record then kept else kept ++ [form record])
        rest := rfl

variable {element : α}

theorem mem_firstByKeyFrom_kept (member : element ∈ kept) :
    element ∈ firstByKeyFrom key form kept records := by
  induction records generalizing kept with
  | nil => exact member
  | cons record rest ih =>
    rw [firstByKeyFrom_cons]
    apply ih
    split
    · exact member
    · exact List.mem_append_left _ member

/-- Each element is one that was kept, or the form of one that was read. -/
theorem mem_firstByKeyFrom (member : element ∈ firstByKeyFrom key form kept records) :
    element ∈ kept ∨ ∃ record ∈ records, element = form record := by
  induction records generalizing kept with
  | nil => exact .inl member
  | cons record rest ih =>
    rw [firstByKeyFrom_cons] at member
    rcases ih member with before | ⟨source, isRest, same⟩
    · split at before
      · exact .inl before
      · rcases List.mem_append.mp before with old | new
        · exact .inl old
        · exact .inr ⟨record, List.mem_cons_self, List.mem_singleton.mp new⟩
    · exact .inr ⟨source, List.mem_cons_of_mem _ isRest, same⟩

theorem mem_firstByKey (member : element ∈ firstByKey key form records) :
    ∃ record ∈ records, element = form record := by
  rcases mem_firstByKeyFrom member with old | read
  · cases old
  · exact read

variable [LawfulBEq κ] {record : α}

theorem known_key :
    (kept.any fun other => key other == key record) = true ↔ ∃ other ∈ kept, key other = key record := by
  simp

section

variable (keyed : ∀ record ∈ records, key (form record) = key record)
include keyed

/-- The form changes no key that was read. -/
theorem firstByKeyFrom_nodup (distinct : (kept.map key).Nodup) :
    ((firstByKeyFrom key form kept records).map key).Nodup := by
  induction records generalizing kept with
  | nil => exact distinct
  | cons record rest ih =>
    rw [firstByKeyFrom_cons]
    apply ih fun later member => keyed later (List.mem_cons_of_mem _ member)
    split
    · exact distinct
    · next unknown =>
      rw [List.map_append, List.map_singleton, keyed record List.mem_cons_self, List.nodup_append]
      refine ⟨distinct, List.nodup_singleton _, fun known member new single same => ?_⟩
      obtain ⟨other, isKept, isKnown⟩ := List.mem_map.mp member
      rw [List.mem_singleton] at single
      exact unknown (known_key.mpr ⟨other, isKept, by rw [isKnown, same, single]⟩)

/-- Every key that was read is kept. -/
theorem firstByKeyFrom_covers (member : record ∈ records) :
    ∃ element ∈ firstByKeyFrom key form kept records, key element = key record := by
  induction records generalizing kept with
  | nil => cases member
  | cons first rest ih =>
    rw [firstByKeyFrom_cons]
    rcases List.mem_cons.mp member with isFirst | later
    · subst isFirst
      by_cases known : (kept.any fun other => key other == key record) = true
      · rw [if_pos known]
        obtain ⟨other, isKept, same⟩ := known_key.mp known
        exact ⟨other, mem_firstByKeyFrom_kept isKept, same⟩
      · rw [if_neg known]
        refine ⟨form record, mem_firstByKeyFrom_kept (List.mem_append_right _ (List.mem_singleton.mpr rfl)), ?_⟩
        exact keyed record List.mem_cons_self
    · exact ih (fun other isRest => keyed other (List.mem_cons_of_mem _ isRest)) later

theorem firstByKey_nodup : ((firstByKey key form records).map key).Nodup :=
  firstByKeyFrom_nodup keyed List.nodup_nil

theorem firstByKey_covers (member : record ∈ records) :
    ∃ element ∈ firstByKey key form records, key element = key record :=
  firstByKeyFrom_covers keyed member

end

end StockVerification.Foundation
