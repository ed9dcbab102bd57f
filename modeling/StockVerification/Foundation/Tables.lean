import Mathlib.Data.List.Nodup
import StockVerification.Foundation.Action

/-!
# Keyed tables

A table is the list of its rows in the order of their insertion, and a key tells its rows
apart. A row is put under its key in place of an older one, or inserted only if the key is
new. A transaction takes back everything if one of its statements fails.
-/
namespace StockVerification.Foundation

namespace Table

variable {ρ κ : Type} [DecidableEq κ]

def find (key : ρ → κ) (rows : List ρ) (k : κ) : Option ρ := rows.find? fun row => key row = k

/-- Insert a row in place of the one under its key. -/
def put (key : ρ → κ) (rows : List ρ) (row : ρ) : List ρ :=
  rows.filter (fun old => key old ≠ key row) ++ [row]

/-- Insert a row under a new key. -/
def insertNew (key : ρ → κ) (rows : List ρ) (row : ρ) : Option (List ρ) :=
  if key row ∈ rows.map key then none else some (rows ++ [row])

/-- Change the row under a key. -/
def modify (key : ρ → κ) (k : κ) (f : ρ → ρ) (rows : List ρ) : List ρ :=
  rows.map fun row => if key row = k then f row else row

variable {k : κ} {row : ρ}

section

variable {key : ρ → κ} {rows : List ρ}

theorem find_eq_none : find key rows k = none ↔ k ∉ rows.map key := by
  simp [find, List.find?_eq_none]

theorem find_of_mem (distinct : (rows.map key).Nodup) (member : row ∈ rows) :
    find key rows (key row) = some row := by
  induction rows with
  | nil => cases member
  | cons first rest ih =>
    rw [List.map_cons, List.nodup_cons] at distinct
    rw [find, List.find?_cons]
    by_cases same : key first = key row
    · rcases List.mem_cons.mp member with rfl | later
      · simp
      · exact absurd (same ▸ List.mem_map_of_mem later) distinct.1
    · rcases List.mem_cons.mp member with rfl | later
      · exact absurd rfl same
      · simp only [same, decide_false]
        exact ih distinct.2 later

theorem mem_of_find (found : find key rows k = some row) : row ∈ rows ∧ key row = k := by
  constructor
  · exact List.mem_of_find?_eq_some found
  · simpa using List.find?_some found

end

theorem find_append (key : ρ → κ) (rows more : List ρ) (k : κ) :
    find key (rows ++ more) k = (find key rows k).or (find key more k) := by
  simp [find]

theorem find_singleton (key : ρ → κ) (row : ρ) (k : κ) : find key [row] k = if key row = k then some row else none := by
  by_cases named : key row = k
  · simp [find, named]
  · simp [find, named]

theorem find_put (key : ρ → κ) (rows : List ρ) (row : ρ) (k : κ) :
    find key (put key rows row) k = if key row = k then some row else find key rows k := by
  rw [put, find_append, find_singleton]
  by_cases named : key row = k
  · have gone : find key (rows.filter fun old => key old ≠ key row) k = none := by
      rw [find_eq_none]
      simp [named]
    rw [gone, if_pos named, if_pos named]
    rfl
  · have same : find key (rows.filter fun old => key old ≠ key row) k = find key rows k := by
      rw [find, find, List.find?_filter]
      have alike : (fun old => decide (decide (key old ≠ key row) = true ∧ decide (key old = k) = true)) =
          fun old => decide (key old = k) := by
        funext old
        by_cases here : key old = k
        · simp [here, Ne.symm named]
        · simp [here]
      rw [alike]
    rw [same, if_neg named, if_neg named, Option.or_none]

variable {key : ρ → κ}

theorem put_fresh {rows : List ρ} (fresh : key row ∉ rows.map key) :
    put key rows row = rows ++ [row] := by
  have all : rows.filter (fun old => key old ≠ key row) = rows := by
    rw [List.filter_eq_self]
    intro old stands
    simp only [decide_eq_true_eq]
    intro same
    exact fresh (List.mem_map.mpr ⟨old, stands, same⟩)
  rw [put, all]

theorem insertNew_eq_some {rows after : List ρ} :
    insertNew key rows row = some after ↔ key row ∉ rows.map key ∧ after = rows ++ [row] := by
  unfold insertNew
  split
  · next taken => simp [taken]
  · next free => simp [free, eq_comm]

theorem map_modify {ν : Type} {f : ρ → ρ} {g : ρ → ν} (keeps : ∀ row, g (f row) = g row)
    (rows : List ρ) : (modify key k f rows).map g = rows.map g := by
  rw [modify, List.map_map]
  apply List.map_congr_left
  intro row _
  by_cases named : key row = k
  · simp [named, keeps]
  · simp [named]

end Table

namespace Action

variable {σ ε α β : Type}

/-- All statements or none. -/
def transaction (x : Action σ ε α) : Action σ ε α := fun s =>
  match x s with
  | .ok a t => .ok a t
  | .error e _ => .error e s

variable {s t : σ}

theorem transaction_ok {x : Action σ ε α} {a : α} : x.transaction s = .ok a t ↔ x s = .ok a t := by
  unfold transaction
  cases x s with
  | ok b u => exact Iff.rfl
  | error e u => simp

theorem transaction_error {x : Action σ ε α} {e : ε} (failed : x.transaction s = .error e t) : t = s := by
  unfold transaction at failed
  cases ran : x s with
  | ok b u =>
    rw [ran] at failed
    cases failed
  | error e u =>
    rw [ran] at failed
    cases failed
    rfl

/-- Writes one after another succeed as one write that folds them. -/
theorem forM_writes_ok {f : β → σ → Except ε σ} {items : List β} {u : PUnit} :
    (items.forM fun item => writes (f item)) s = .ok u t ↔ items.foldlM (fun s item => f item s) s = .ok t := by
  induction items generalizing s with
  | nil =>
    change (pure PUnit.unit : Action σ ε PUnit) s = .ok u t ↔ Except.ok s = .ok t
    simp
  | cons item rest ih =>
    change (writes (f item) >>= fun _ => rest.forM fun item => writes (f item)) s = .ok u t ↔ _
    rw [List.foldlM_cons, bind_ok]
    constructor
    · rintro ⟨_, v, wrote, later⟩
      rw [writes_ok] at wrote
      rw [wrote]
      exact ih.mp later
    · intro folded
      cases wrote : f item s with
      | error e =>
        rw [wrote] at folded
        cases folded
      | ok v =>
        rw [wrote] at folded
        exact ⟨(), v, writes_ok.mpr wrote, ih.mpr folded⟩

end Action

end StockVerification.Foundation
