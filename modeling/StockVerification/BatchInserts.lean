import Mathlib.Algebra.BigOperators.Fin
import Mathlib.Data.List.TakeWhile
import StockVerification.Foundation.Gatherings
import StockVerification.Foundation.Slices

/-!
# Ordered inserts in batches

Source: backend/services/batch_operations.py:42-106.

The batches of the documents are written by tasks of their own, as many at a time as the semaphore
lets in; the database inserts the documents of a batch one by one and stops at the first that fails.
The exceptions of the tasks are collected.
-/
namespace StockVerification

open Foundation

namespace BatchInserts

variable {D : Type}

/-- What the call has put into the collection, its counters, and the tasks inside the semaphore. -/
structure InsertStore (D : Type) where
  collection : List D := []
  totalInserted : ℕ := 0
  errors : List ℕ := []
  entered : ℕ := 0

/-- A task before the semaphore, with the documents that the database has yet to look at, and at its
end. -/
inductive InsertStage (D : Type) where
  | waiting
  | inserting (rest : List D)
  | finished
  deriving DecidableEq

variable (fails : D → Bool) (maxConcurrentBatches : ℕ) (batches : List (List D))

/-- The next step of `process_batch`, on the batch with the index `k`. -/
def processBatch (k : Fin batches.length) (s : InsertStore D) : InsertStage D → InsertStore D × InsertStage D
  | .waiting =>
    if s.entered < maxConcurrentBatches then ({ s with entered := s.entered + 1 }, .inserting batches[k])
    else (s, .waiting)
  | .inserting [] =>
    ({ s with totalInserted := s.totalInserted + batches[k].length, entered := s.entered - 1 }, .finished)
  | .inserting (d :: rest) =>
    if fails d then ({ s with errors := s.errors ++ [k.val + 1], entered := s.entered - 1 }, .finished)
    else ({ s with collection := s.collection ++ [d] }, .inserting rest)
  | .finished => (s, .finished)

/-- `batch_insert` with `ordered` after the steps of its tasks in the order of a schedule. -/
def batchInsert (schedule : List (Fin batches.length)) : Gathering (Fin batches.length) (InsertStore D) (InsertStage D) :=
  schedule.foldl (Gathering.step (processBatch fails maxConcurrentBatches batches)) ⟨{}, fun _ => .waiting⟩

/-- A prefix without a failing document is in the collection, and it is counted. -/
def StopsInOrder (documents : List D) (s : InsertStore D) : Prop :=
  ∃ kept, kept <+: documents ∧ (∀ d ∈ kept, fails d = false) ∧ s.collection.Perm kept ∧ s.totalInserted = kept.length

/-- What an ordered `insert_many` leaves of its documents. -/
def insertMany (batch : List D) : List D := batch.takeWhile (!fails ·)

/-- What the task counts of them. -/
def countedOf (batch : List D) : ℕ := if batch.any fails then 0 else batch.length

/-- What a task will still put into the collection. -/
def stillInserts (batch : List D) : InsertStage D → List D
  | .waiting => insertMany fails batch
  | .inserting rest => insertMany fails rest
  | .finished => []

def stillCounts (batch : List D) : InsertStage D → ℕ
  | .waiting => countedOf fails batch
  | .inserting rest => if rest.any fails then 0 else batch.length
  | .finished => 0

variable {fails batches}

theorem processBatch_inserts (k : Fin batches.length) (s : InsertStore D) (t : InsertStage D) :
    ((processBatch fails maxConcurrentBatches batches k s t).1.collection : Multiset D) +
        (stillInserts fails batches[k] (processBatch fails maxConcurrentBatches batches k s t).2 : Multiset D) =
      s.collection + (stillInserts fails batches[k] t : Multiset D) := by
  cases t with
  | waiting =>
    rw [processBatch]
    split <;> rfl
  | inserting rest =>
    cases rest with
    | nil => rfl
    | cons d rest =>
      rw [processBatch]
      split
      · next failing => simp [stillInserts, insertMany, failing]
      · next fine => simp [stillInserts, insertMany, fine, ← Multiset.coe_add, add_assoc]
  | finished => rfl

theorem processBatch_counts (k : Fin batches.length) (s : InsertStore D) (t : InsertStage D) :
    (processBatch fails maxConcurrentBatches batches k s t).1.totalInserted +
        stillCounts fails batches[k] (processBatch fails maxConcurrentBatches batches k s t).2 =
      s.totalInserted + stillCounts fails batches[k] t := by
  cases t with
  | waiting =>
    rw [processBatch]
    split <;> rfl
  | inserting rest =>
    cases rest with
    | nil => simp [processBatch, stillCounts]
    | cons d rest =>
      rw [processBatch]
      split
      · next failing => simp [stillCounts, failing]
      · next fine => simp [stillCounts, fine]
  | finished => rfl

theorem sum_insertMany (batches : List (List D)) : (batches.map fun batch => (insertMany fails batch : Multiset D)).sum =
    (batches.flatMap (insertMany fails) : Multiset D) := by
  induction batches with
  | nil => rfl
  | cons batch rest ih => rw [List.map_cons, List.sum_cons, ih, List.flatMap_cons, Multiset.coe_add]

/-- What the tasks leave, whatever their order. -/
theorem batchInsert_finished {schedule : List (Fin batches.length)}
    (finished : ∀ k, (batchInsert fails maxConcurrentBatches batches schedule).stage k = .finished) :
    (batchInsert fails maxConcurrentBatches batches schedule).store.collection.Perm (batches.flatMap (insertMany fails)) ∧
    (batchInsert fails maxConcurrentBatches batches schedule).store.totalInserted =
      (batches.map (countedOf fails)).sum := by
  have inserts := Gathering.conserved (fun s : InsertStore D => (s.collection : Multiset D))
    (fun k t => (stillInserts fails batches[k] t : Multiset D)) (processBatch_inserts maxConcurrentBatches) schedule
    ⟨{}, fun _ => .waiting⟩
  have counts := Gathering.conserved InsertStore.totalInserted (fun k t => stillCounts fails batches[k] t)
    (processBatch_counts maxConcurrentBatches) schedule ⟨{}, fun _ => .waiting⟩
  change _ + ∑ k, (stillInserts fails batches[k] ((batchInsert fails maxConcurrentBatches batches schedule).stage k) :
    Multiset D) = _ at inserts
  change _ + ∑ k, stillCounts fails batches[k]
    ((batchInsert fails maxConcurrentBatches batches schedule).stage k) = _ at counts
  simp only [finished, stillInserts, stillCounts, Multiset.coe_nil, Finset.sum_const_zero, add_zero,
    zero_add] at inserts counts
  constructor
  · rw [← Multiset.coe_eq_coe]
    refine inserts.trans ?_
    exact (Fin.sum_univ_fun_getElem batches fun batch => (insertMany fails batch : Multiset D)).trans (sum_insertMany _)
  · exact counts.trans (Fin.sum_univ_fun_getElem batches (countedOf fails))

theorem counted_le (batches : List (List D)) :
    (batches.map (countedOf fails)).sum ≤ (batches.flatMap (insertMany fails)).length := by
  induction batches with
  | nil => exact Nat.le_refl _
  | cons batch rest ih =>
    have own : countedOf fails batch ≤ (insertMany fails batch).length := by
      unfold countedOf insertMany
      split
      · exact Nat.zero_le _
      · next fine => rw [List.takeWhile_eq_self_iff.mpr (by simpa using fine)]
    rw [List.map_cons, List.sum_cons, List.flatMap_cons, List.length_append]
    omega

/-- Nothing is inserted of a batch that begins with a failing document. -/
theorem insertMany_nil_iff {batch : List D} (filled : batch ≠ []) :
    insertMany fails batch = [] ↔ batch.head?.any fails = true := by
  obtain ⟨d, rest, rfl⟩ := List.exists_cons_of_ne_nil filled
  cases failing : fails d <;> simp [insertMany, failing]

/-- By the batches one after another; from the first failing one on nothing may be inserted. -/
theorem in_order_iff (filled : ∀ batch ∈ batches, batch ≠ []) : StopsInOrder fails batches.flatten
        { collection := batches.flatMap (insertMany fails), totalInserted := (batches.map (countedOf fails)).sum } ↔
      ∀ batch ∈ batches.dropWhile (fun batch => !batch.any fails), batch.head?.any fails = true := by
  unfold StopsInOrder
  dsimp only
  induction batches with
  | nil => exact iff_of_true ⟨[], List.nil_prefix, by simp, .nil, rfl⟩ (by simp)
  | cons batch rest ih =>
    have later := ih fun other member => filled other (List.mem_cons_of_mem _ member)
    rw [List.flatten_cons, List.flatMap_cons, List.map_cons, List.sum_cons]
    cases failing : batch.any fails with
    | false =>
      have whole : insertMany fails batch = batch := List.takeWhile_eq_self_iff.mpr (by simpa using failing)
      rw [List.dropWhile_cons_of_pos (by simp [failing]), ← later, countedOf, failing, whole]
      constructor
      · rintro ⟨kept, stands, fine, perm, counted⟩
        obtain ⟨more, rfl⟩ := List.prefix_of_prefix_length_le (List.prefix_append batch rest.flatten) stands
          (by rw [← counted]; exact Nat.le_add_right ..)
        refine ⟨more, (List.prefix_append_right_inj batch).mp stands, ?_, (List.perm_append_left_iff batch).mp perm, ?_⟩
        · exact fun d member => fine d (List.mem_append_right _ member)
        · simpa using counted
      · rintro ⟨more, stands, fine, perm, counted⟩
        refine ⟨batch ++ more, (List.prefix_append_right_inj batch).mpr stands, ?_, perm.append_left batch, ?_⟩
        · exact List.forall_mem_append.mpr ⟨by simpa using failing, fine⟩
        · simpa using counted
    | true =>
      rw [List.dropWhile_cons_of_neg (by simp [failing]), countedOf, failing]
      constructor
      · rintro ⟨kept, stands, fine, perm, counted⟩
        have cut : (insertMany fails batch).length ≠ batch.length := by
          intro same
          have whole := List.takeWhile_eq_self_iff.mp (List.IsPrefix.eq_of_length (List.takeWhile_prefix _) same)
          rw [List.any_eq_true] at failing
          obtain ⟨d, member, fails_⟩ := failing
          simpa [fails_] using whole d member
        obtain ⟨more, split⟩ := stands
        have within := congrArg (fun documents => (documents.takeWhile (!fails ·)).length) split
        have passed : ∀ d ∈ kept, (!fails d) = true := by simpa using fine
        rw [insertMany] at cut
        rw [List.takeWhile_append_of_pos passed, List.takeWhile_append, if_neg cut, List.length_append] at within
        have lengths := perm.length_eq
        have less := @counted_le _ fails rest
        unfold insertMany at lengths less
        rw [List.length_append] at lengths
        simp only [if_true, zero_add] at counted
        have nothing : (batch :: rest).flatMap (insertMany fails) = [] := by
          rw [List.flatMap_cons, ← List.length_eq_zero_iff, List.length_append]
          unfold insertMany
          omega
        intro other member
        exact (insertMany_nil_iff (filled other member)).mp (List.flatMap_eq_nil_iff.mp nothing other member)
      · intro heads
        have nothing : ∀ other ∈ batch :: rest, insertMany fails other = [] := fun other member =>
          (insertMany_nil_iff (filled other member)).mpr (heads other member)
        have none_ : rest.flatMap (insertMany fails) = [] := by
          simpa using fun other member => nothing other (List.mem_cons_of_mem _ member)
        have zero := @counted_le _ fails rest
        rw [none_] at zero ⊢
        refine ⟨[], List.nil_prefix, by simp, ?_, ?_⟩
        · rw [nothing batch List.mem_cons_self, List.append_nil]
        · simpa using zero

/-- Where all tasks have ended, the insert has stopped in order exactly if every batch from the
first with a failing document on begins with a failing one. -/
theorem batch_insert_ordered_iff {batchSize maxConcurrentBatches : ℕ} {fails : D → Bool} {documents : List D}
    (positive : 0 < batchSize) {schedule : List (Fin (slices batchSize documents).length)}
    (finished : ∀ k, (batchInsert fails maxConcurrentBatches (slices batchSize documents) schedule).stage k = .finished) :
    StopsInOrder fails documents
        (batchInsert fails maxConcurrentBatches (slices batchSize documents) schedule).store ↔
      ∀ batch ∈ (slices batchSize documents).dropWhile (fun batch => !batch.any fails),
        batch.head?.any fails = true := by
  obtain ⟨contents, counted⟩ := batchInsert_finished maxConcurrentBatches finished
  rw [← in_order_iff (slices_filled positive documents), slices_flatten positive]
  unfold StopsInOrder
  rw [counted]
  constructor
  · rintro ⟨kept, stands, fine, perm, same⟩
    exact ⟨kept, stands, fine, contents.symm.trans perm, same⟩
  · rintro ⟨kept, stands, fine, perm, same⟩
    exact ⟨kept, stands, fine, contents.trans perm, same⟩

/-- The tasks one after another, with three steps each. -/
def oneByOne (batchSize : ℕ) (documents : List ℕ) : List (Fin (slices batchSize documents).length) :=
  (List.finRange _).flatMap (List.replicate 3)

theorem batch_insert_ordered_pair :
    StopsInOrder (· == 3) [1, 2] (batchInsert (· == 3) 1 (slices 1 [1, 2]) (oneByOne 1 [1, 2])).store :=
  (batch_insert_ordered_iff (by decide) (by decide +kernel)).mpr (by decide +kernel)

/-- The second document fails; the third one, of another batch, is inserted, and the first one is
not counted. -/
theorem later_batch_inserted :
    (∀ k, (batchInsert (· == 2) 5 (slices 2 [1, 2, 3]) (oneByOne 2 [1, 2, 3])).stage k = .finished) ∧
      ¬ StopsInOrder (· == 2) [1, 2, 3] (batchInsert (· == 2) 5 (slices 2 [1, 2, 3]) (oneByOne 2 [1, 2, 3])).store := by
  refine ⟨by decide +kernel, ?_⟩
  have contents : (batchInsert (· == 2) 5 (slices 2 [1, 2, 3]) (oneByOne 2 [1, 2, 3])).store.collection = [1, 3] := by
    decide +kernel
  rintro ⟨kept, stands, fine, perm, -⟩
  have start := List.prefix_iff_eq_take.mp stands
  rw [← perm.length_eq, contents] at start
  have second := fine 2 (by rw [start]; decide)
  cases second

end BatchInserts

end StockVerification
