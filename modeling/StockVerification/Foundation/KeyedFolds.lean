import Mathlib.Data.List.Perm.Basic
import StockVerification.Foundation.Tables

/-!
# Folds by key

Events are applied one after another to a table. Each event changes the row under its own key, so
the row under a key is the fold of the events with that key. Sorting the events does not change such
a fold where they were in order.
-/
namespace StockVerification.Foundation

namespace Table

variable {ε ρ κ : Type} [DecidableEq κ]

/-- The row under the event's key is replaced by the one that follows it. -/
def applyEvent (key : ρ → κ) (target : ε → κ) (next : ε → Option ρ → ρ) (rows : List ρ) (event : ε) : List ρ :=
  put key rows (next event (find key rows (target event)))

/-- What a row becomes by a list of events. -/
def foldEvents (next : ε → Option ρ → ρ) (row : Option ρ) (events : List ε) : Option ρ :=
  events.foldl (fun row event => some (next event row)) row

/-- The row that follows another keeps its key, and a first row has the key of its event. -/
def KeepsKey (key : ρ → κ) (target : ε → κ) (next : ε → Option ρ → ρ) : Prop :=
  ∀ event row, (∀ old, row = some old → key old = target event) → key (next event row) = target event

variable {key : ρ → κ} {target : ε → κ} {next : ε → Option ρ → ρ}

theorem find_applyEvent (keeps : KeepsKey key target next) (rows : List ρ) (event : ε) (k : κ) :
    find key (applyEvent key target next rows event) k =
      if target event = k then some (next event (find key rows k)) else find key rows k := by
  have kept : key (next event (find key rows (target event))) = target event := by
    apply keeps
    intro old found
    exact (mem_of_find found).2
  rw [applyEvent, find_put, kept]
  by_cases named : target event = k
  · rw [if_pos named, if_pos named, named]
  · rw [if_neg named, if_neg named]

/-- The row under a key is the fold of the events with that key, by induction on the events. -/
theorem find_applyEvents (keeps : KeepsKey key target next) (events : List ε) (rows : List ρ) (k : κ) :
    find key (events.foldl (applyEvent key target next) rows) k =
      foldEvents next (find key rows k) (events.filter fun event => target event = k) := by
  induction events generalizing rows with
  | nil => rfl
  | cons event rest ih =>
    rw [List.foldl_cons, ih, find_applyEvent keeps]
    by_cases named : target event = k
    · simp [named, foldEvents]
    · simp [named]

theorem foldEvents_eq_none {events : List ε} : foldEvents next none events = none ↔ events = [] := by
  have filled : ∀ (events : List ε) (row : ρ), ∃ last, foldEvents next (some row) events = some last := by
    intro events
    induction events with
    | nil =>
      intro row
      exact ⟨row, rfl⟩
    | cons event rest ih =>
      intro row
      exact ih (next event (some row))
  cases events with
  | nil => simp [foldEvents]
  | cons event rest =>
    obtain ⟨last, folded⟩ := filled rest (next event none)
    constructor
    · intro empty
      have nonempty : foldEvents next none (event :: rest) = some last := folded
      rw [nonempty] at empty
      cases empty
    · nofun

/-- A fold of renamed events is the renamed fold. -/
theorem foldEvents_map {rename : ρ → ρ} {move : ε → ε} (commutes : ∀ event row,
    next (move event) (row.map rename) = rename (next event row)) (events : List ε) (row : Option ρ) :
    foldEvents next (row.map rename) (events.map move) = (foldEvents next row events).map rename := by
  induction events generalizing row with
  | nil => rfl
  | cons event rest ih =>
    have step := ih (some (next event row))
    rw [Option.map_some, ← commutes] at step
    exact step

/-- A row that takes another key is found under that key, if it is free, and no longer under its
own. -/
theorem find_rekey {rows : List ρ} {f : ρ → ρ} {k l : κ} (different : k ≠ l)
    (moved : ∀ row, key (f row) = l) (free : l ∉ rows.map key) :
    find key (modify key k f rows) l = (find key rows k).map f ∧ find key (modify key k f rows) k = none := by
  induction rows with
  | nil => exact ⟨rfl, rfl⟩
  | cons row rest ih =>
    rw [List.map_cons, List.mem_cons, not_or] at free
    obtain ⟨found, gone⟩ := ih free.2
    simp only [modify, find, List.map_cons, List.find?_cons] at found gone ⊢
    by_cases here : key row = k
    · simp [here, moved, different.symm, gone]
    · have other : key row ≠ l := Ne.symm free.1
      simp [here, other, found, gone]

theorem modify_absent {rows : List ρ} {f : ρ → ρ} {k : κ} (absent : k ∉ rows.map key) : modify key k f rows = rows := by
  rw [modify]
  conv_rhs => rw [← List.map_id rows]
  apply List.map_congr_left
  intro row member
  have other : key row ≠ k := fun same => absent (same ▸ List.mem_map_of_mem member)
  rw [if_neg other, id]

end Table

theorem pairwise_mergeSort_cmp {α : Type} (cmp : α → α → Ordering) [Std.TransCmp cmp] (items : List α) :
    (items.mergeSort fun a b => (cmp a b).isLE).Pairwise fun a b => (cmp a b).isLE := by
  apply List.pairwise_mergeSort
  · exact fun _ _ _ => Std.TransCmp.isLE_trans
  · intro a b
    rw [Bool.or_eq_true, ← Std.OrientedCmp.isGE_iff_isLE, ← Bool.or_eq_true]
    cases cmp b a <;> rfl

/-- Where the chosen items stand in order, sorting all items leaves them as they stand. -/
theorem filter_mergeSort {α : Type} {le : α → α → Bool} (trans : ∀ a b c, le a b = true → le b c = true → le a c = true)
    (total : ∀ a b, (le a b || le b a) = true) (p : α → Bool) {items : List α}
    (ordered : (items.filter p).Pairwise fun a b => le a b = true) : (items.mergeSort le).filter p = items.filter p := by
  have stands : (items.filter p).Sublist (items.mergeSort le) :=
    List.sublist_mergeSort trans total ordered List.filter_sublist
  have chosen : (items.filter p).Sublist ((items.mergeSort le).filter p) := by
    have twice := stands.filter p
    rw [List.filter_filter] at twice
    simpa only [Bool.and_self] using twice
  have same := ((List.mergeSort_perm items le).filter p).length_eq
  exact (chosen.eq_of_length same.symm).symm

end StockVerification.Foundation
