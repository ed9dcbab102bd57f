import StockVerification.Foundation.Tables

/-!
# Rows replaced where they stand

A row takes the place of the one under its key, and a row with a new key is added at the end.
-/
namespace StockVerification.Foundation

namespace Table

variable {ρ κ : Type} [DecidableEq κ] {key : ρ → κ}

/-- The row replaces the one under its key or is added at the end. -/
def upsert (key : ρ → κ) (row : ρ) : List ρ → List ρ
  | [] => [row]
  | old :: rest => if key old = key row then row :: rest else old :: upsert key row rest

theorem find_upsert (row : ρ) (rows : List ρ) (k : κ) :
    find key (upsert key row rows) k = if key row = k then some row else find key rows k := by
  induction rows with
  | nil => exact find_singleton key row k
  | cons old rest ih =>
    rw [upsert]
    unfold find at ih ⊢
    by_cases here : key old = key row
    · rw [if_pos here, List.find?_cons, List.find?_cons, here]
      by_cases named : key row = k <;> simp [named]
    · rw [if_neg here, List.find?_cons, List.find?_cons, ih]
      by_cases named : key old = k
      · have other : key row ≠ k := fun same => here (named.trans same.symm)
        simp [named, other]
      · simp [named]

variable {row : ρ} {rows : List ρ}

theorem upsert_fresh (fresh : key row ∉ rows.map key) :
    upsert key row rows = rows ++ [row] := by
  induction rows with
  | nil => rfl
  | cons old rest ih =>
    rw [List.map_cons, List.mem_cons, not_or] at fresh
    rw [upsert, if_neg fun same => fresh.1 same.symm, ih fresh.2, List.cons_append]

variable {new : List ρ}

/-- Rows with different new keys are added in their order. -/
theorem upserts_fresh (distinct : ((rows ++ new).map key).Nodup) :
    new.foldl (fun rows row => upsert key row rows) rows = rows ++ new := by
  induction new generalizing rows with
  | nil => rw [List.foldl_nil, List.append_nil]
  | cons row rest ih =>
    have fresh : key row ∉ rows.map key := by
      rw [List.map_append, List.map_cons] at distinct
      exact fun known => List.disjoint_of_nodup_append distinct known List.mem_cons_self
    rw [List.foldl_cons, upsert_fresh fresh, ih, List.append_assoc, List.singleton_append]
    rwa [List.append_assoc, List.singleton_append]

/-- A row under a known key leaves the keys as they are. -/
theorem keys_upsert (known : key row ∈ rows.map key) :
    (upsert key row rows).map key = rows.map key := by
  induction rows with
  | nil => cases known
  | cons old rest ih =>
    rw [upsert]
    by_cases here : key old = key row
    · rw [if_pos here, List.map_cons, List.map_cons, here]
    · rw [if_neg here, List.map_cons, List.map_cons, ih]
      exact (List.mem_cons.mp known).resolve_left fun same => here same.symm

theorem keys_upserts (known : ∀ row ∈ new, key row ∈ rows.map key) :
    (new.foldl (fun rows row => upsert key row rows) rows).map key = rows.map key := by
  induction new generalizing rows with
  | nil => rfl
  | cons row rest ih =>
    have kept := keys_upsert (known row List.mem_cons_self)
    rw [List.foldl_cons, ih, kept]
    intro later member
    rw [kept]
    exact known later (List.mem_cons_of_mem _ member)

theorem upsert_map {σ : Type} {other : σ → κ} {f : ρ → σ} (keeps : ∀ row, other (f row) = key row) (row : ρ)
    (rows : List ρ) : (upsert key row rows).map f = upsert other (f row) (rows.map f) := by
  induction rows with
  | nil => rfl
  | cons old rest ih =>
    rw [upsert, List.map_cons, upsert, keeps, keeps]
    split
    · rfl
    · rw [List.map_cons, ih]

/-- The last row with a key is the one found after all rows are put in their places. -/
theorem find_upserts (key : ρ → κ) (new rows : List ρ) (k : κ) :
    find key (new.foldl (fun rows row => upsert key row rows) rows) k =
      ((new.filter fun row => key row = k).getLast?).or (find key rows k) := by
  induction new generalizing rows with
  | nil => rfl
  | cons row rest ih =>
    rw [List.foldl_cons, ih, find_upsert, List.filter_cons]
    by_cases named : key row = k
    · simp only [named, decide_true, if_true, List.getLast?_cons]
      cases (rest.filter fun row => key row = k).getLast? <;> rfl
    · simp [named]

theorem nodup_upsert (distinct : (rows.map key).Nodup) :
    ((upsert key row rows).map key).Nodup := by
  by_cases known : key row ∈ rows.map key
  · rw [keys_upsert known]
    exact distinct
  · rw [upsert_fresh known, List.map_append, List.map_singleton]
    exact List.nodup_append'.mpr ⟨distinct, List.nodup_singleton _, by simpa using known⟩

theorem nodup_upserts (new : List ρ) (distinct : (rows.map key).Nodup) :
    ((new.foldl (fun rows row => upsert key row rows) rows).map key).Nodup := by
  induction new generalizing rows with
  | nil => exact distinct
  | cons row rest ih => exact ih (nodup_upsert distinct)

theorem length_upserts_le (key : ρ → κ) (new rows : List ρ) :
    (new.foldl (fun rows row => upsert key row rows) rows).length ≤ rows.length + new.length := by
  induction new generalizing rows with
  | nil => exact Nat.le_refl _
  | cons row rest ih =>
    have onward := ih (upsert key row rows)
    have one : (upsert key row rows).length ≤ rows.length + 1 := by
      by_cases known : key row ∈ rows.map key
      · have lengths := congrArg List.length (keys_upsert known)
        simp only [List.length_map] at lengths
        omega
      · exact Nat.le_of_eq (by rw [upsert_fresh known, List.length_append, List.length_singleton])
    rw [List.foldl_cons, List.length_cons]
    omega

/-- Every row has a place of its own exactly if no key occurs twice. -/
theorem length_upserts_iff (key : ρ → κ) (new : List ρ) (distinct : (rows.map key).Nodup) :
    (new.foldl (fun rows row => upsert key row rows) rows).length = rows.length + new.length ↔
      ((rows ++ new).map key).Nodup := by
  constructor
  · intro lengths
    induction new generalizing rows with
    | nil => rwa [List.append_nil]
    | cons row rest ih =>
      by_cases known : key row ∈ rows.map key
      · have bound := length_upserts_le key rest (upsert key row rows)
        have same := congrArg List.length (keys_upsert known)
        simp only [List.length_map] at same
        rw [List.foldl_cons, List.length_cons] at lengths
        omega
      · have onward := ih (nodup_upsert distinct) (by
          rw [List.foldl_cons, List.length_cons] at lengths
          rw [lengths, upsert_fresh known, List.length_append, List.length_singleton]
          omega)
        rwa [upsert_fresh known, List.append_assoc, List.singleton_append] at onward
  · intro apart
    rw [upserts_fresh apart, List.length_append]

/-- Rows with different keys are determined by their keys and by what is found under them. -/
theorem eq_of_find {others : List ρ} (distinct : (rows.map key).Nodup) (keys : others.map key = rows.map key)
    (found : ∀ k, find key others k = find key rows k) : others = rows := by
  have lengths : others.length = rows.length := by simpa using congrArg List.length keys
  refine List.ext_getElem lengths fun i inside outside => ?_
  have sameKey : key others[i] = key rows[i] := by
    have at_ := congrArg (fun names => names[i]?) keys
    simpa [inside, outside] using at_
  have otherDistinct : (others.map key).Nodup := keys ▸ distinct
  have mine := find_of_mem distinct (List.getElem_mem outside)
  have other := find_of_mem otherDistinct (List.getElem_mem inside)
  rw [sameKey, found, mine, Option.some.injEq] at other
  exact other.symm

/-- Rows stay as they are exactly if the last row with each key is one of them. -/
theorem upserts_eq_iff (distinct : (rows.map key).Nodup) :
    new.foldl (fun rows row => upsert key row rows) rows = rows ↔
      ∀ row, (new.filter fun other => key other = key row).getLast? = some row → row ∈ rows := by
  constructor
  · intro same row last
    have found := find_upserts key new rows (key row)
    rw [same, last, Option.some_or] at found
    exact (mem_of_find found).1
  · intro held
    have last_ {row : ρ} (member : row ∈ new) :
        ∃ last ∈ rows, (new.filter fun other => key other = key row).getLast? = some last ∧ key last = key row := by
      have filled : new.filter (fun other => key other = key row) ≠ [] :=
        List.ne_nil_of_mem (List.mem_filter.mpr ⟨member, by simp⟩)
      have named := List.mem_filter.mp (List.getLast_mem filled)
      rw [decide_eq_true_eq] at named
      have last := List.getLast?_eq_some_getLast filled
      have again := held _ (by rw [named.2]; exact last)
      exact ⟨_, again, last, named.2⟩
    have known : ∀ row ∈ new, key row ∈ rows.map key := by
      intro row member
      obtain ⟨last, stands, _, named⟩ := last_ member
      exact named ▸ List.mem_map_of_mem stands
    refine eq_of_find distinct (keys_upserts known) fun k => ?_
    rw [find_upserts]
    cases version : (new.filter fun row => key row = k).getLast? with
    | none => exact Option.none_or
    | some row =>
      have chosen := List.mem_filter.mp (List.mem_of_getLast? version)
      rw [decide_eq_true_eq] at chosen
      have stands := held row (by rw [chosen.2]; exact version)
      rw [Option.some_or, ← chosen.2]
      exact (find_of_mem distinct stands).symm

end Table

end StockVerification.Foundation
