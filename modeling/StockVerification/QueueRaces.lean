import Mathlib.Data.List.Nodup
import StockVerification.Foundation.Run
import StockVerification.OfflineQueue

/-!
# Interleaved operations on the offline queue

Source: frontend/src/services/offline/offlineStorage.ts:365-498 and
frontend/src/services/syncService.ts:508-668, 752-832.

An operation reads the stored array in one step and writes in a later one. The user's calls and the
updates a sync has started at once take their steps in any order. One sync runs at a time, on the
batches of the queue as it was when the sync began.
-/
namespace StockVerification

open Foundation

inductive CallPhase where
  | waiting
  | holding (seen : List QueueItem)
  | finished
  deriving DecidableEq

structure QueueCall where
  op : QueueOp
  phase : CallPhase := .waiting
  deriving DecidableEq

/-- What a sync does with a batch once all the updates it has started are finished. -/
inductive AfterUpdates where
  | send (batch : List QueueItem)
  | remove (batch : List QueueItem) (ids : List String)
  | removed (batch : List QueueItem)
  | failed (batch : List QueueItem)

def AfterUpdates.batch : AfterUpdates → List QueueItem
  | .send batch | .remove batch _ | .removed batch | .failed batch => batch

inductive SyncStage where
  | sending (batch : List QueueItem)
  | updating (updates : List QueueCall) (after : AfterUpdates)

/-- `syncOfflineQueue`, with the batches that come later. -/
inductive SyncPhase where
  | idle
  | reading
  | running (later : List (List QueueItem)) (stage : SyncStage)

/-- The stored queue, the calls in flight, the sync, and what has happened so far: the operations
that were written, in that order, and the data the answers acknowledged under each id. -/
structure QueueSystem where
  stored : List QueueItem
  calls : Nat → Option QueueCall := fun _ => none
  sync : SyncPhase := .idle
  written : List QueueOp := []
  acknowledged : List (String × RecordData) := []

/-- The operations that are called from outside of a sync. -/
inductive UserCall where
  | add (type : QueueItemType) (data : RecordData) (timestamp suffix : String)
  | edit (id : String) (patch : QueuePatch)

def UserCall.op : UserCall → QueueOp
  | .add type data timestamp suffix => .addToOfflineQueue type data timestamp suffix
  | .edit id patch => .updateOfflineQueueItem id patch

inductive QueueMove where
  | call (slot : Nat) (request : UserCall)
  | read (slot : Nat) (fails : Bool)
  | write (slot : Nat)
  | startSync
  | readSync (now : String) (fails : Bool)
  | readUpdate (n : Nat) (fails : Bool)
  | writeUpdate (n : Nat)
  | proceed (now : String)
  | respond (now : String) (answer : Except BatchError (List BatchResult))

def started (ops : List QueueOp) : List QueueCall := ops.map fun op => { op := op }

def nextBatch (now : String) : List (List QueueItem) → SyncPhase
  | [] => .idle
  | batch :: later =>
    .running later (.updating (started (handleInvalidSyncItems now batch)) (.send (validBatch batch)))

/-- What follows when the updates of a batch are finished. -/
def proceedSync (now : String) (later : List (List QueueItem)) : AfterUpdates → SyncPhase
  | .send batch => if batch.isEmpty then nextBatch now later else .running later (.sending batch)
  | .remove batch ids =>
    if ids.isEmpty then nextBatch now later
    else .running later (.updating (started [.removeManyFromOfflineQueue ids]) (.removed batch))
  | .removed _ | .failed _ => nextBatch now later

/-- The data that an answer acknowledges: that of the items its successful results name. -/
def acknowledgedBy (batch : List QueueItem) (results : List BatchResult) : List (String × RecordData) :=
  (batch.filter fun item => results.any fun result =>
    result.success && result.id == resolveClientRecordId item).map fun item => (item.id, item.data)

/-- What follows the answer to a batch. -/
def respondSync (now : String) (later : List (List QueueItem)) (batch : List QueueItem) :
    Except BatchError (List BatchResult) → SyncPhase
  | .ok results =>
    .running later (.updating (started (retryUpdates now batch results))
      (.remove batch (syncedQueueIds batch results)))
  | .error error => .running later (.updating (started (handleBatchFailure now batch error)) (.failed batch))

variable (stored : List QueueItem)

def QueueCall.read (fails : Bool) (call : QueueCall) : QueueCall :=
  match call.phase with
  | .waiting => { call with phase := .holding (getOfflineQueue stored fails) }
  | _ => call

def QueueCall.isFinished (call : QueueCall) : Bool := call.phase == .finished

/-- The write of an operation that has read `seen`. -/
def QueueSystem.store (s : QueueSystem) (op : QueueOp) (seen : List QueueItem) : QueueSystem :=
  { s with stored := op.apply seen, written := s.written ++ [op] }

def QueueSystem.step (s : QueueSystem) : QueueMove → QueueSystem
  | .call slot request =>
    match s.calls slot with
    | some _ => s
    | none => { s with calls := Function.update s.calls slot (some { op := request.op }) }
  | .read slot fails =>
    { s with calls := Function.update s.calls slot ((s.calls slot).map (·.read s.stored fails)) }
  | .write slot =>
    match s.calls slot with
    | some { op := op, phase := .holding seen } =>
      { s.store op seen with calls := Function.update s.calls slot none }
    | _ => s
  | .startSync =>
    match s.sync with
    | .idle => { s with sync := .reading }
    | _ => s
  | .readSync now fails =>
    match s.sync with
    | .reading =>
      let queue := getOfflineQueue s.stored fails
      { s with sync := nextBatch now (batches queue.length queue) }
    | _ => s
  | .readUpdate n fails =>
    match s.sync with
    | .running later (.updating updates after) =>
      { s with sync := .running later (.updating (updates.modify n (·.read s.stored fails)) after) }
    | _ => s
  | .writeUpdate n =>
    match s.sync with
    | .running later (.updating updates after) =>
      match updates[n]? with
      | some { op := op, phase := .holding seen } =>
        { s.store op seen with
          sync := .running later (.updating (updates.set n { op := op, phase := .finished }) after) }
      | _ => s
    | _ => s
  | .proceed now =>
    match s.sync with
    | .running later (.updating updates after) =>
      if updates.all (·.isFinished) then { s with sync := proceedSync now later after } else s
    | _ => s
  | .respond now answer =>
    match s.sync with
    | .running later (.sending batch) =>
      { s with
        sync := respondSync now later batch answer
        acknowledged := match answer with
          | .ok results => s.acknowledged ++ acknowledgedBy batch results
          | .error _ => s.acknowledged }
    | _ => s

def replay (initial : List QueueItem) (ops : List QueueOp) : List QueueItem := ops.foldl QueueOp.run initial

/-- The items an operation takes out of the queue. -/
def QueueOp.drops : QueueOp → List QueueItem
  | .removeManyFromOfflineQueue ids => stored.filter fun item => ids.contains item.id
  | _ => []

def droppedItems : List QueueItem → List QueueOp → List QueueItem
  | _, [] => []
  | stored, op :: rest => op.drops stored ++ droppedItems (op.run stored) rest

/-- The stored queue shows every operation that was written. An item that was in the queue is still
there unless it was taken out, and what was taken out had been acknowledged with the data it held.
When the updates after a failed batch are finished, every item of the batch has one retry more than
when it was read. -/
structure QueueLossless (initial : List QueueItem) (s : QueueSystem) : Prop where
  serial : s.stored = replay initial s.written
  kept : ∀ ops, ops <+: s.written → ∀ item ∈ replay initial ops,
    (∃ row ∈ s.stored, row.id = item.id) ∨ ∃ gone ∈ droppedItems initial s.written, gone.id = item.id
  removed : ∀ item ∈ droppedItems initial s.written, (item.id, item.data) ∈ s.acknowledged
  retried : ∀ later updates batch, s.sync = .running later (.updating updates (.failed batch)) →
    updates.all (·.isFinished) = true →
      ∀ item ∈ batch, ∃ row ∈ s.stored, row.id = item.id ∧ row.retries = item.retries + 1

/-- Whether an operation renames or counts no item and takes none out. -/
def QueueOp.isMild : QueueOp → Bool
  | .addToOfflineQueue .. => true
  | .updateOfflineQueueItem _ patch => patch.id.isNone && patch.retries.isNone
  | _ => false

/-- Whether an item that is appended gets an id of its own. -/
def QueueOp.isFresh : QueueOp → Bool
  | .addToOfflineQueue type data timestamp suffix =>
    (existingIndex type data (getOfflineQueue stored false)).isSome ||
      stored.all fun item => item.id != (newQueueItem type data timestamp suffix).id
  | _ => true

def isCurrent (op : QueueOp) (seen : List QueueItem) : Bool :=
  seen == getOfflineQueue stored false && op.isFresh stored

/-- Whether what the operation takes out still holds the data that was sent. -/
def isUnreplaced (batch : List QueueItem) (op : QueueOp) : Bool :=
  (op.drops stored).all fun row => batch.any fun item => item.id == row.id && item.data == row.data

/-- Whether every result leads back to the item whose record it names, and a failure is no matter
of authentication. -/
def isAnswered (batch : List QueueItem) : Except BatchError (List BatchResult) → Bool
  | .ok results => results.all fun result =>
    (resultItem batch result.id).any fun item => resolveClientRecordId item == result.id && item.id != ""
  | .error error => !shouldRetryAfterAuth error

/-- The condition on a step. -/
def QueueSystem.isQuiet (s : QueueSystem) : QueueMove → Bool
  | .call _ request => request.op.isMild
  | .write slot =>
    match s.calls slot with
    | some { op := op, phase := .holding seen } => isCurrent s.stored op seen
    | _ => true
  | .writeUpdate n =>
    match s.sync with
    | .running _ (.updating updates after) =>
      match updates[n]? with
      | some { op := op, phase := .holding seen } =>
        isCurrent s.stored op seen && isUnreplaced s.stored after.batch op
      | _ => true
    | _ => true
  | .respond _ answer =>
    match s.sync with
    | .running _ (.sending batch) => isAnswered batch answer
    | _ => true
  | _ => true

def queueTag (item : QueueItem) : String × Nat := (item.id, item.retries)

/-- An item of the queue has this id, and `extra` retries more than the given one. -/
def Tracks (item : QueueItem) (extra : Nat) : Prop :=
  (item.id, item.retries + extra) ∈ stored.map queueTag

theorem map_queueTag_getOfflineQueue :
    (getOfflineQueue stored false).map queueTag = stored.map queueTag := by
  simp only [getOfflineQueue, Bool.false_eq_true, if_false, List.map_map]
  rfl

theorem map_queueTag_modify {f : QueueItem → QueueItem} (keeps : ∀ item, queueTag (f item) = queueTag item)
    (queue : List QueueItem) (index : Nat) : (queue.modify index f).map queueTag = queue.map queueTag := by
  induction queue generalizing index with
  | nil => cases index <;> rfl
  | cons item rest ih =>
    cases index with
    | zero => simp [keeps]
    | succ index => simp [ih]

theorem map_queueTag_add (type : QueueItemType) (data : RecordData) (timestamp suffix : String)
    (stored : List QueueItem) :
    ((QueueOp.addToOfflineQueue type data timestamp suffix).run stored).map queueTag = stored.map queueTag ∨
    existingIndex type data (getOfflineQueue stored false) = none ∧
      ((QueueOp.addToOfflineQueue type data timestamp suffix).run stored).map queueTag =
        stored.map queueTag ++ [queueTag (newQueueItem type data timestamp suffix)] := by
  simp only [QueueOp.run, QueueOp.apply]
  split
  · refine .inl ?_
    rw [map_queueTag_modify (f := replacedData data timestamp) (fun _ => rfl), map_queueTag_getOfflineQueue]
  · next absent =>
    refine .inr ⟨absent, ?_⟩
    rw [List.map_append, map_queueTag_getOfflineQueue]
    rfl

theorem map_queueTag_remove (ids : List String) (stored : List QueueItem) :
    ((QueueOp.removeManyFromOfflineQueue ids).run stored).map queueTag =
      (stored.map queueTag).filter fun t => !ids.contains t.1 := by
  rw [← map_queueTag_getOfflineQueue stored, List.filter_map]
  rfl

theorem map_queueTag_retry (id : String) (options : RetryOptions) (stored : List QueueItem) :
    ((QueueOp.updateQueueItemRetries id options).run stored).map queueTag =
      (stored.map queueTag).map fun t => if t.1 = id then (t.1, t.2 + 1) else t := by
  rw [← map_queueTag_getOfflineQueue stored]
  simp only [QueueOp.run, QueueOp.apply, List.map_map]
  apply List.map_congr_left
  intro item _
  by_cases named : item.id = id
  · simp [named, queueTag, retriedItem]
  · simp [named, queueTag]

theorem map_queueTag_edit {id : String} {patch : QueuePatch}
    (mild : (QueueOp.updateOfflineQueueItem id patch).isMild = true) (stored : List QueueItem) :
    ((QueueOp.updateOfflineQueueItem id patch).run stored).map queueTag = stored.map queueTag := by
  simp only [QueueOp.isMild, Bool.and_eq_true, Option.isNone_iff_eq_none] at mild
  rw [← map_queueTag_getOfflineQueue stored]
  simp only [QueueOp.run, QueueOp.apply, List.map_map]
  apply List.map_congr_left
  intro item _
  by_cases named : item.id = id
  · simp [named, queueTag, normalizeQueueItem, QueuePatch.apply, mild.1, mild.2]
  · simp [named]

/-- Whether an operation may count this item or take it out. -/
def QueueOp.disturbs (id : String) : QueueOp → Bool
  | .removeManyFromOfflineQueue ids => ids.contains id
  | .updateQueueItemRetries other _ => other == id
  | _ => false

/-- The operations of the runs below: no id is ever rewritten. -/
def QueueOp.isOrderly : QueueOp → Bool
  | .updateOfflineQueueItem id patch => (QueueOp.updateOfflineQueueItem id patch).isMild
  | _ => true

variable {stored : List QueueItem} {item : QueueItem} {op : QueueOp}

theorem Tracks.run {extra : Nat}
    (tracks : Tracks stored item extra) (orderly : op.isOrderly = true)
    (calm : op.disturbs item.id = false) : Tracks (op.run stored) item extra := by
  unfold Tracks at *
  cases op with
  | addToOfflineQueue type data timestamp suffix =>
    rcases map_queueTag_add type data timestamp suffix stored with same | ⟨_, grown⟩
    · rw [same]
      exact tracks
    · rw [grown]
      exact List.mem_append_left _ tracks
  | removeManyFromOfflineQueue ids =>
    rw [map_queueTag_remove]
    apply List.mem_filter.mpr ⟨tracks, _⟩
    simp only [QueueOp.disturbs] at calm
    rw [calm]
    rfl
  | updateQueueItemRetries id options =>
    rw [map_queueTag_retry]
    refine List.mem_map.mpr ⟨_, tracks, ?_⟩
    simp only [QueueOp.disturbs, beq_eq_false_iff_ne] at calm
    rw [if_neg (Ne.symm calm)]
  | updateOfflineQueueItem id patch =>
    rw [map_queueTag_edit orderly]
    exact tracks

theorem Tracks.retry (options : RetryOptions)
    (tracks : Tracks stored item 0) : Tracks ((QueueOp.updateQueueItemRetries item.id options).run stored) item 1 := by
  unfold Tracks at *
  rw [map_queueTag_retry]
  exact List.mem_map.mpr ⟨_, tracks, by simp⟩

def queueIds (queue : List QueueItem) : List String := queue.map (·.id)

theorem queueIds_eq_tags (queue : List QueueItem) : queueIds queue = (queue.map queueTag).map Prod.fst := by
  rw [queueIds, List.map_map]
  rfl

/-- An orderly operation keeps the ids apart. -/
theorem nodup_queueIds_run (distinct : (queueIds stored).Nodup)
    (orderly : op.isOrderly = true) (fresh : op.isFresh stored = true) : (queueIds (op.run stored)).Nodup := by
  rw [queueIds_eq_tags] at distinct ⊢
  cases op with
  | addToOfflineQueue type data timestamp suffix =>
    rcases map_queueTag_add type data timestamp suffix stored with same | ⟨absent, grown⟩
    · rw [same]
      exact distinct
    · rw [grown, List.map_append, List.nodup_append]
      refine ⟨distinct, by simp, ?_⟩
      intro id member other isNew
      simp only [QueueOp.isFresh, absent, Option.isSome_none, Bool.false_or, List.all_eq_true, bne_iff_ne] at fresh
      simp only [List.map_map, List.mem_map, Function.comp] at member
      obtain ⟨item, stands, rfl⟩ := member
      simp only [List.map_cons, List.map_nil, List.mem_singleton] at isNew
      subst isNew
      exact fresh item stands
  | removeManyFromOfflineQueue gone =>
    rw [map_queueTag_remove]
    exact distinct.sublist ((List.filter_sublist).map _)
  | updateQueueItemRetries id options =>
    have same : ((stored.map queueTag).map fun t => if t.1 = id then (t.1, t.2 + 1) else t).map Prod.fst =
        (stored.map queueTag).map Prod.fst := by
      rw [List.map_map]
      apply List.map_congr_left
      intro t _
      by_cases named : t.1 = id
      · simp [named]
      · simp [named]
    rw [map_queueTag_retry, same]
    exact distinct
  | updateOfflineQueueItem id patch =>
    rw [map_queueTag_edit orderly]
    exact distinct

/-- An item stays under its id or is taken out. -/
theorem run_keeps (orderly : op.isOrderly = true)
    {row : QueueItem} (stands : row ∈ stored) :
    (∃ after ∈ op.run stored, after.id = row.id) ∨ ∃ gone ∈ op.drops stored, gone.id = row.id := by
  by_cases calm : op.disturbs row.id = false
  · have tracks : Tracks stored row 0 := List.mem_map.mpr ⟨row, stands, rfl⟩
    obtain ⟨after, member, same⟩ := List.mem_map.mp (tracks.run orderly calm)
    exact .inl ⟨after, member, congrArg Prod.fst same⟩
  · cases op with
    | addToOfflineQueue type data timestamp suffix | updateOfflineQueueItem id patch => simp [QueueOp.disturbs] at calm
    | removeManyFromOfflineQueue gone =>
      refine .inr ⟨row, List.mem_filter.mpr ⟨stands, ?_⟩, rfl⟩
      simpa [QueueOp.disturbs] using calm
    | updateQueueItemRetries id options =>
      have counted : (row.id, row.retries + 1) ∈
          ((QueueOp.updateQueueItemRetries id options).run stored).map queueTag := by
        rw [map_queueTag_retry]
        refine List.mem_map.mpr ⟨queueTag row, List.mem_map.mpr ⟨row, stands, rfl⟩, ?_⟩
        have named : id = row.id := by simpa [QueueOp.disturbs] using calm
        simp [queueTag, named]
      obtain ⟨after, member, same⟩ := List.mem_map.mp counted
      exact .inl ⟨after, member, congrArg Prod.fst same⟩

theorem replay_append (initial : List QueueItem) (ops : List QueueOp) (op : QueueOp) :
    replay initial (ops ++ [op]) = op.run (replay initial ops) := by
  rw [replay, List.foldl_append]
  rfl

theorem droppedItems_append (initial : List QueueItem) (ops : List QueueOp) (op : QueueOp) :
    droppedItems initial (ops ++ [op]) = droppedItems initial ops ++ op.drops (replay initial ops) := by
  induction ops generalizing initial with
  | nil => simp [droppedItems, replay]
  | cons first rest ih =>
    rw [List.cons_append, droppedItems, droppedItems, ih, List.append_assoc]
    rfl

/-- What the written operations add up to. -/
structure QueueLedger (initial : List QueueItem) (s : QueueSystem) : Prop where
  serial : s.stored = replay initial s.written
  distinct : (queueIds s.stored).Nodup
  kept : ∀ ops, ops <+: s.written → ∀ item ∈ replay initial ops,
    (∃ row ∈ s.stored, row.id = item.id) ∨ ∃ gone ∈ droppedItems initial s.written, gone.id = item.id
  removed : ∀ item ∈ droppedItems initial s.written, (item.id, item.data) ∈ s.acknowledged

variable {s : QueueSystem} {seen : List QueueItem}

/-- The write of an operation that still knows the queue. -/
theorem QueueLedger.store {initial : List QueueItem} (ledger : QueueLedger initial s)
    (current : isCurrent s.stored op seen = true) (orderly : op.isOrderly = true)
    (rightful : ∀ row ∈ op.drops s.stored, (row.id, row.data) ∈ s.acknowledged) :
    (s.store op seen).stored = op.run s.stored ∧ QueueLedger initial (s.store op seen) := by
  simp only [isCurrent, Bool.and_eq_true, beq_iff_eq] at current
  obtain ⟨rfl, fresh⟩ := current
  have serial := ledger.serial
  have dropped : droppedItems initial (s.written ++ [op]) = droppedItems initial s.written ++ op.drops s.stored := by
    rw [droppedItems_append, ← serial]
  refine ⟨rfl, ?_, nodup_queueIds_run ledger.distinct orderly fresh, ?_, ?_⟩
  · change op.run s.stored = replay initial (s.written ++ [op])
    rw [replay_append, ← serial]
  · intro ops early item member
    change (∃ row ∈ op.run s.stored, row.id = item.id) ∨
      ∃ gone ∈ droppedItems initial (s.written ++ [op]), gone.id = item.id
    rw [dropped]
    rcases List.prefix_concat_iff.mp early with rfl | earlier
    · rw [replay_append, ← serial] at member
      exact .inl ⟨item, member, rfl⟩
    · rcases ledger.kept ops earlier item member with ⟨row, stands, same⟩ | ⟨gone, listed, same⟩
      · rcases run_keeps orderly stands with ⟨after, stays, named⟩ | ⟨gone, drops, named⟩
        · exact .inl ⟨after, stays, named.trans same⟩
        · exact .inr ⟨gone, List.mem_append_right _ drops, named.trans same⟩
      · exact .inr ⟨gone, List.mem_append_left _ listed, same⟩
  · intro item listed
    change item ∈ droppedItems initial (s.written ++ [op]) at listed
    rw [dropped] at listed
    rcases List.mem_append.mp listed with earlier | now
    · exact ledger.removed item earlier
    · exact rightful item now

/-- The ids are those of items of the batch, whose data was acknowledged. -/
def Confirmed (acknowledged : List (String × RecordData)) (batch : List QueueItem)
    (gone : List String) : Prop :=
  ∀ id ∈ gone, (∃ item ∈ batch, item.id = id) ∧ ∀ item ∈ batch, item.id = id → (item.id, item.data) ∈ acknowledged

/-- A removal is only of confirmed ids. -/
def QueueOp.Rightful (acknowledged : List (String × RecordData)) (batch : List QueueItem) : QueueOp → Prop
  | .removeManyFromOfflineQueue gone => Confirmed acknowledged batch gone
  | _ => True

/-- Where the items of the batch in hand are. -/
def AfterUpdates.Sound (stored : List QueueItem) (acknowledged : List (String × RecordData))
    (updates : List QueueCall) : AfterUpdates → Prop
  | .send batch => ∀ item ∈ batch, Tracks stored item 0 ∧
      ∀ op ∈ updates.map (·.op), op.disturbs item.id = false
  | .remove batch gone => Confirmed acknowledged batch gone
  | .removed _ => True
  | .failed batch => updates.length = batch.length ∧
      ∀ (n : Nat) (item : QueueItem), batch[n]? = some item → ∃ options phase,
        updates[n]? = some ⟨.updateQueueItemRetries item.id options, phase⟩ ∧
          Tracks stored item (if phase = .finished then 1 else 0)

structure UpdatingSound (stored : List QueueItem) (acknowledged : List (String × RecordData))
    (later : List (List QueueItem)) (updates : List QueueCall) (after : AfterUpdates) : Prop where
  distinct : (queueIds (after.batch ++ later.flatten)).Nodup
  untouched : ∀ item ∈ later.flatten, Tracks stored item 0 ∧ ∀ op ∈ updates.map (·.op), op.disturbs item.id = false
  proper : ∀ op ∈ updates.map (·.op), op.isOrderly = true ∧ op.Rightful acknowledged after.batch
  inHand : after.Sound stored acknowledged updates

/-- Items that are still to be sent: they are told apart by their ids, and nothing has counted them
since the sync has read them. -/
structure Unsent (stored items : List QueueItem) : Prop where
  distinct : (queueIds items).Nodup
  tracked : ∀ item ∈ items, Tracks stored item 0

def SyncPhase.Sound (stored : List QueueItem) (acknowledged : List (String × RecordData)) : SyncPhase → Prop
  | .idle | .reading => True
  | .running later (.sending batch) => Unsent stored (batch ++ later.flatten)
  | .running later (.updating updates after) => UpdatingSound stored acknowledged later updates after

variable {later : List (List QueueItem)}

/-- The next batch begins with updates that count nothing. -/
theorem Unsent.nextBatch
    (unsent : Unsent stored later.flatten) (acknowledged : List (String × RecordData))
    (now : String) : (nextBatch now later).Sound stored acknowledged := by
  cases later with
  | nil => trivial
  | cons batch rest =>
    have sent : (validBatch batch).Sublist batch := List.filter_sublist
    have parts : (validBatch batch ++ rest.flatten).Sublist (batch ++ rest.flatten) :=
      sent.append (List.Sublist.refl _)
    have patches : ∀ op ∈ (started (handleInvalidSyncItems now batch)).map (·.op),
        op.isOrderly = true ∧ (∀ id, op.disturbs id = false) ∧ op.Rightful acknowledged (validBatch batch) := by
      intro op member
      simp only [started, List.map_map, Function.comp_def, List.map_id', handleInvalidSyncItems,
        List.mem_filterMap] at member
      obtain ⟨item, _, chosen⟩ := member
      split at chosen
      · cases chosen
      · cases chosen
        exact ⟨rfl, fun _ => rfl, trivial⟩
    refine ⟨unsent.distinct.sublist (parts.map _), ?_, ?_, ?_⟩
    · intro item member
      exact ⟨unsent.tracked item (List.mem_append_right _ member), fun op listed => (patches op listed).2.1 _⟩
    · intro op member
      exact ⟨(patches op member).1, (patches op member).2.2⟩
    · intro item member
      exact ⟨unsent.tracked item (List.mem_append_left _ (sent.subset member)),
        fun op listed => (patches op listed).2.1 _⟩

variable {after : AfterUpdates} {acknowledged : List (String × RecordData)}
  {updates : List QueueCall}

theorem UpdatingSound.rest
    (sound : UpdatingSound stored acknowledged later updates after) : Unsent stored later.flatten := by
  refine ⟨?_, fun item member => (sound.untouched item member).1⟩
  exact sound.distinct.sublist ((List.sublist_append_right _ _).map _)

variable {batch : List QueueItem} {other : QueueItem}

theorem notIn_later {rest : List QueueItem} (distinct : (queueIds (batch ++ rest)).Nodup)
    (member : item ∈ batch) (later : other ∈ rest) : item.id ≠ other.id := by
  rw [queueIds, List.map_append, List.nodup_append] at distinct
  exact distinct.2.2 _ (List.mem_map.mpr ⟨item, member, rfl⟩) _ (List.mem_map.mpr ⟨other, later, rfl⟩)

theorem Confirmed.disturbs {rest : List QueueItem}
    {gone : List String} (confirmed : Confirmed acknowledged batch gone)
    (distinct : (queueIds (batch ++ rest)).Nodup) (later : other ∈ rest) :
    (QueueOp.removeManyFromOfflineQueue gone).disturbs other.id = false := by
  simp only [QueueOp.disturbs]
  rw [List.contains_eq_mem, decide_eq_false_iff_not]
  intro listed
  obtain ⟨⟨item, member, same⟩, _⟩ := confirmed _ listed
  exact notIn_later distinct member later same

/-- What follows the updates of a batch. -/
theorem UpdatingSound.proceed
    (sound : UpdatingSound stored acknowledged later updates after) (now : String) :
    (proceedSync now later after).Sound stored acknowledged := by
  have rest := sound.rest.nextBatch acknowledged now
  cases after with
  | send batch =>
    simp only [proceedSync]
    split
    · exact rest
    · refine ⟨sound.distinct, ?_⟩
      intro item member
      rcases List.mem_append.mp member with here | later
      · exact (sound.inHand item here).1
      · exact (sound.untouched item later).1
  | remove batch gone =>
    simp only [proceedSync]
    split
    · exact rest
    · have confirmed : Confirmed acknowledged batch gone := sound.inHand
      refine ⟨sound.distinct, ?_, ?_, trivial⟩
      · intro item member
        refine ⟨(sound.untouched item member).1, ?_⟩
        intro op listed
        obtain rfl : op = .removeManyFromOfflineQueue gone := by simpa [started] using listed
        exact confirmed.disturbs sound.distinct member
      · intro op listed
        obtain rfl : op = .removeManyFromOfflineQueue gone := by simpa [started] using listed
        exact ⟨rfl, confirmed⟩
  | removed batch => exact rest
  | failed batch => exact rest

variable {results : List BatchResult}

theorem answered_item (answered : isAnswered batch (.ok results) = true) {result : BatchResult}
    (member : result ∈ results) :
    ∃ item ∈ batch, resolveClientRecordId item = result.id ∧ resultItemId batch result = item.id := by
  have leads := List.all_eq_true.mp answered result member
  obtain ⟨item, found, named⟩ := (Option.any_eq_true _ _).mp leads
  simp only [Bool.and_eq_true, beq_iff_eq, bne_iff_ne] at named
  refine ⟨item, ?_, named.1, ?_⟩
  · exact List.mem_reverse.mp (List.mem_of_find?_eq_some found)
  · simp only [resultItemId, found]
    rw [if_neg named.2]

theorem confirmed_synced (distinct : (queueIds batch).Nodup)
    (answered : isAnswered batch (.ok results) = true) (acknowledged : List (String × RecordData)) :
    Confirmed (acknowledged ++ acknowledgedBy batch results) batch (syncedQueueIds batch results) := by
  intro id listed
  obtain ⟨result, success, rfl⟩ := List.mem_map.mp listed
  obtain ⟨member, succeeded⟩ := List.mem_filter.mp success
  obtain ⟨item, inBatch, record, named⟩ := answered_item answered member
  rw [named]
  refine ⟨⟨item, inBatch, rfl⟩, ?_⟩
  intro other otherIn same
  obtain rfl : other = item := List.inj_on_of_nodup_map distinct otherIn inBatch same
  apply List.mem_append_right
  refine List.mem_map.mpr ⟨other, List.mem_filter.mpr ⟨otherIn, ?_⟩, rfl⟩
  exact List.any_eq_true.mpr ⟨result, member, by simp [succeeded, record]⟩

section

/-- The answer to a batch, as long as its results lead back to their items. -/
theorem Unsent.respondOk (unsent : Unsent stored (batch ++ later.flatten))
    (answered : isAnswered batch (.ok results) = true) (acknowledged : List (String × RecordData)) (now : String) :
    (respondSync now later batch (.ok results)).Sound stored (acknowledged ++ acknowledgedBy batch results) := by
  have retries : ∀ op ∈ (started (retryUpdates now batch results)).map (·.op), ∃ result ∈ results,
      ∃ options, op = .updateQueueItemRetries (resultItemId batch result) options := by
    intro op member
    simp only [started, List.map_map, Function.comp_def, retryUpdates, List.mem_map, List.mem_filter] at member
    obtain ⟨result, ⟨isResult, _⟩, rfl⟩ := member
    exact ⟨result, isResult, _, rfl⟩
  have distinct : (queueIds batch).Nodup :=
    unsent.distinct.sublist ((List.sublist_append_left batch later.flatten).map _)
  refine ⟨unsent.distinct, ?_, ?_, confirmed_synced distinct answered acknowledged⟩
  · intro other member
    refine ⟨unsent.tracked other (List.mem_append_right _ member), ?_⟩
    intro op listed
    obtain ⟨result, isResult, options, rfl⟩ := retries op listed
    obtain ⟨item, inBatch, _, named⟩ := answered_item answered isResult
    simp only [QueueOp.disturbs, named, beq_eq_false_iff_ne]
    exact notIn_later unsent.distinct inBatch member
  · intro op listed
    obtain ⟨result, _, options, rfl⟩ := retries op listed
    exact ⟨rfl, trivial⟩

/-- A failure starts one retry update for each item. -/
theorem Unsent.respondError {error : BatchError} (unsent : Unsent stored (batch ++ later.flatten))
    (answered : isAnswered batch (.error error) = true) (acknowledged : List (String × RecordData))
    (now : String) : (respondSync now later batch (.error error)).Sound stored acknowledged := by
  have counts : shouldRetryAfterAuth error = false := by simpa [isAnswered] using answered
  have retries : handleBatchFailure now batch error =
      batch.map fun item => .updateQueueItemRetries item.id (failureOptions now error item) := by
    simp [handleBatchFailure, counts]
  have listed : ∀ op ∈ (started (handleBatchFailure now batch error)).map (·.op), ∃ item ∈ batch,
      ∃ options, op = .updateQueueItemRetries item.id options := by
    intro op member
    rw [retries] at member
    simp only [started, List.map_map, Function.comp_def, List.mem_map] at member
    obtain ⟨item, inBatch, rfl⟩ := member
    exact ⟨item, inBatch, _, rfl⟩
  refine ⟨unsent.distinct, ?_, ?_, ?_⟩
  · intro other member
    refine ⟨unsent.tracked other (List.mem_append_right _ member), ?_⟩
    intro op isUpdate
    obtain ⟨item, inBatch, options, rfl⟩ := listed op isUpdate
    simp only [QueueOp.disturbs, beq_eq_false_iff_ne]
    exact notIn_later unsent.distinct inBatch member
  · intro op isUpdate
    obtain ⟨item, _, options, rfl⟩ := listed op isUpdate
    exact ⟨rfl, trivial⟩
  · refine ⟨by simp [started, retries], ?_⟩
    intro n item here
    have waits : Tracks stored item (if CallPhase.waiting = .finished then 1 else 0) :=
      unsent.tracked item (List.mem_append_left _ (List.mem_of_getElem? here))
    refine ⟨failureOptions now error item, .waiting, ?_, waits⟩
    rw [retries]
    simp only [started, List.map_map, List.getElem?_map, here, Option.map_some, Function.comp]

end

/-- Reads, and writes that count nothing, leave the sync sound. -/
theorem SyncPhase.Sound.grow {stored' : List QueueItem}
    {phase : SyncPhase} (sound : phase.Sound stored acknowledged)
    (kept : ∀ item extra, Tracks stored item extra → Tracks stored' item extra) : phase.Sound stored' acknowledged := by
  cases phase with
  | idle => trivial
  | reading => trivial
  | running later stage =>
    cases stage with
    | sending batch => exact ⟨sound.distinct, fun item member => kept _ _ (sound.tracked item member)⟩
    | updating updates after =>
      refine ⟨sound.distinct, ?_, sound.proper, ?_⟩
      · intro item member
        exact ⟨kept _ _ (sound.untouched item member).1, (sound.untouched item member).2⟩
      · have inHand := sound.inHand
        cases after with
        | send batch => exact fun item member => ⟨kept _ _ (inHand item member).1, (inHand item member).2⟩
        | remove batch gone => exact inHand
        | removed batch => trivial
        | failed batch =>
          refine ⟨inHand.1, ?_⟩
          intro n item here
          obtain ⟨options, phase, update, tracks⟩ := inHand.2 n item here
          exact ⟨options, phase, update, kept _ _ tracks⟩

theorem QueueCall.read_op (stored : List QueueItem) (fails : Bool) (call : QueueCall) :
    (call.read stored fails).op = call.op := by
  unfold QueueCall.read
  split
  · rfl
  · rfl

theorem QueueCall.read_mk (stored : List QueueItem) (fails : Bool) (op : QueueOp) (phase : CallPhase) :
    ∃ after, QueueCall.read stored fails ⟨op, phase⟩ = ⟨op, after⟩ ∧ (after = .finished ↔ phase = .finished) := by
  cases phase with
  | waiting => exact ⟨.holding (getOfflineQueue stored fails), rfl, by simp⟩
  | holding seen => exact ⟨.holding seen, rfl, by simp⟩
  | finished => exact ⟨.finished, rfl, by simp⟩

theorem map_op_modify (f : QueueCall → QueueCall) (keeps : ∀ call, (f call).op = call.op)
    (updates : List QueueCall) (n : Nat) : (updates.modify n f).map (·.op) = updates.map (·.op) := by
  induction updates generalizing n with
  | nil => cases n <;> rfl
  | cons call rest ih =>
    cases n with
    | zero => simp [keeps]
    | succ n => simp [ih]

theorem UpdatingSound.read
    (sound : UpdatingSound stored acknowledged later updates after) (n : Nat) (fails : Bool) :
    UpdatingSound stored acknowledged later (updates.modify n (·.read stored fails)) after := by
  have same := map_op_modify (·.read stored fails) (QueueCall.read_op stored fails) updates n
  refine ⟨sound.distinct, by rw [same]; exact sound.untouched, by rw [same]; exact sound.proper, ?_⟩
  have inHand := sound.inHand
  cases after with
  | send batch =>
    intro item member
    rw [same]
    exact inHand item member
  | remove batch gone => exact inHand
  | removed batch => trivial
  | failed batch =>
    refine ⟨by rw [List.length_modify]; exact inHand.1, ?_⟩
    intro m item here
    obtain ⟨options, phase, update, tracks⟩ := inHand.2 m item here
    by_cases atSlot : n = m
    · subst atSlot
      obtain ⟨next, isNext, finished⟩ :=
        QueueCall.read_mk stored fails (.updateQueueItemRetries item.id options) phase
      refine ⟨options, next, ?_, ?_⟩
      · rw [List.getElem?_modify_eq, update]
        exact congrArg some isNext
      · rw [if_congr finished rfl rfl]
        exact tracks
    · refine ⟨options, phase, ?_, tracks⟩
      rw [List.getElem?_modify_ne _ _ atSlot, update]

variable {n : Nat}

theorem map_op_set {phase : CallPhase}
    (held : updates[n]? = some ⟨op, phase⟩) : (updates.set n ⟨op, .finished⟩).map (·.op) = updates.map (·.op) := by
  induction updates generalizing n with
  | nil => cases held
  | cons call rest ih =>
    cases n with
    | zero =>
      cases held
      rfl
    | succ n => simp [ih held]

theorem ids_apart (distinct : (queueIds batch).Nodup) {m : Nat}
    (first : batch[n]? = some item) (second : batch[m]? = some other) (apart : n ≠ m) : item.id ≠ other.id := by
  intro same
  have here : (queueIds batch)[n]? = some item.id := by simp [queueIds, first]
  have there : (queueIds batch)[m]? = some item.id := by simp [queueIds, second, same]
  obtain ⟨bound, _⟩ := List.getElem?_eq_some_iff.mp here
  exact apart ((List.getElem?_inj bound distinct).mp (here.trans there.symm))

/-- The write of one of the updates. -/
theorem UpdatingSound.write
    (sound : UpdatingSound stored acknowledged later updates after) (held : updates[n]? = some ⟨op, .holding seen⟩) :
    UpdatingSound (op.run stored) acknowledged later (updates.set n ⟨op, .finished⟩) after := by
  have same := map_op_set held
  have member : op ∈ updates.map (·.op) := List.mem_map.mpr ⟨_, List.mem_of_getElem? held, rfl⟩
  have orderly := (sound.proper op member).1
  refine ⟨sound.distinct, ?_, by rw [same]; exact sound.proper, ?_⟩
  · intro item isLater
    rw [same]
    obtain ⟨tracks, calm⟩ := sound.untouched item isLater
    exact ⟨tracks.run orderly (calm op member), calm⟩
  · have inHand := sound.inHand
    cases after with
    | send batch =>
      intro item inBatch
      rw [same]
      obtain ⟨tracks, calm⟩ := inHand item inBatch
      exact ⟨tracks.run orderly (calm op member), calm⟩
    | remove batch gone => exact inHand
    | removed batch => trivial
    | failed batch =>
      obtain ⟨lengths, each⟩ := inHand
      refine ⟨by rw [List.length_set]; exact lengths, ?_⟩
      intro m item here
      obtain ⟨options, phase, update, tracks⟩ := each m item here
      have bound : n < updates.length := (List.getElem?_eq_some_iff.mp held).1
      by_cases atSlot : n = m
      · subst atSlot
        rw [held] at update
        cases update
        refine ⟨options, .finished, List.getElem?_set_self bound, ?_⟩
        exact Tracks.retry options tracks
      · refine ⟨options, phase, by rw [List.getElem?_set_ne atSlot, update], ?_⟩
        apply tracks.run orderly
        -- the update that is written counts another item of the batch
        have counted : batch[n]? = some (batch.get ⟨n, by omega⟩) := by simp
        obtain ⟨_, _, ofOther, _⟩ := each n _ counted
        rw [held] at ofOther
        cases ofOther
        have apart : (queueIds batch).Nodup :=
          sound.distinct.sublist ((List.sublist_append_left batch later.flatten).map _)
        simp only [QueueOp.disturbs, beq_eq_false_iff_ne]
        exact ids_apart apart counted here atSlot

structure QueueSound (initial : List QueueItem) (s : QueueSystem) : Prop where
  ledger : QueueLedger initial s
  calls : ∀ slot call, s.calls slot = some call → call.op.isMild = true
  sync : s.sync.Sound s.stored s.acknowledged

theorem mild_facts (mild : op.isMild = true) (stored : List QueueItem) :
    op.isOrderly = true ∧ (∀ id, op.disturbs id = false) ∧ op.drops stored = [] := by
  cases op with
  | addToOfflineQueue type data timestamp suffix => exact ⟨rfl, fun _ => rfl, rfl⟩
  | removeManyFromOfflineQueue gone => cases mild
  | updateQueueItemRetries id options => cases mild
  | updateOfflineQueueItem id patch => exact ⟨mild, fun _ => rfl, rfl⟩

section

variable {initial : List QueueItem}

theorem QueueLedger.withSync (ledger : QueueLedger initial s) (phase : SyncPhase) (more : List (String × RecordData)) :
    QueueLedger initial { s with sync := phase, acknowledged := s.acknowledged ++ more } :=
  { ledger with removed := fun item listed => List.mem_append_left _ (ledger.removed item listed) }

section

variable (sound : QueueSound initial s)
include sound

theorem QueueSound.withPhase {phase : SyncPhase}
    (next : phase.Sound s.stored s.acknowledged) : QueueSound initial { s with sync := phase } :=
  ⟨{ sound.ledger with }, sound.calls, next⟩

theorem QueueSound.withCalls {slot : Nat} {value : Option QueueCall}
    (mild : ∀ call, value = some call → call.op.isMild = true) :
    QueueSound initial { s with calls := Function.update s.calls slot value } := by
  refine ⟨{ sound.ledger with }, ?_, sound.sync⟩
  intro other call held
  change Function.update s.calls slot value other = some call at held
  by_cases here : other = slot
  · subst here
    rw [Function.update_self] at held
    exact mild call held
  · rw [Function.update_of_ne here] at held
    exact sound.calls other call held

theorem QueueSound.write (mild : op.isMild = true)
    (current : isCurrent s.stored op seen = true) : QueueSound initial (s.store op seen) := by
  obtain ⟨orderly, calm, nothing⟩ := mild_facts mild s.stored
  obtain ⟨written, ledger⟩ := sound.ledger.store current orderly (by simp [nothing])
  refine ⟨ledger, sound.calls, ?_⟩
  change s.sync.Sound (s.store op seen).stored s.acknowledged
  rw [written]
  exact sound.sync.grow fun item extra tracks => tracks.run orderly (calm item.id)

/-- The write of an update of the sync. -/
theorem QueueSound.writeUpdate
    (running : s.sync = .running later (.updating updates after))
    (held : updates[n]? = some ⟨op, .holding seen⟩) (current : isCurrent s.stored op seen = true)
    (unreplaced : isUnreplaced s.stored after.batch op = true) :
    QueueSound initial { s.store op seen with
      sync := .running later (.updating (updates.set n ⟨op, .finished⟩) after) } := by
  have updating : UpdatingSound s.stored s.acknowledged later updates after := by
    have phase := sound.sync
    rw [running] at phase
    exact phase
  have member : op ∈ updates.map (·.op) := List.mem_map.mpr ⟨_, List.mem_of_getElem? held, rfl⟩
  obtain ⟨orderly, rightful⟩ := updating.proper op member
  have acknowledged : ∀ row ∈ op.drops s.stored, (row.id, row.data) ∈ s.acknowledged := by
    intro row dropped
    have sent := List.all_eq_true.mp unreplaced row dropped
    obtain ⟨item, inBatch, same⟩ := List.any_eq_true.mp sent
    simp only [Bool.and_eq_true, beq_iff_eq] at same
    cases op with
    | removeManyFromOfflineQueue gone =>
      have listed : row.id ∈ gone := by simpa using (List.mem_filter.mp dropped).2
      rw [← same.1, ← same.2]
      exact (rightful row.id listed).2 item inBatch same.1
    | addToOfflineQueue type data timestamp suffix | updateQueueItemRetries id options
    | updateOfflineQueueItem id patch => cases dropped
  obtain ⟨written, ledger⟩ := sound.ledger.store current orderly acknowledged
  refine ⟨{ ledger with }, sound.calls, ?_⟩
  change UpdatingSound (s.store op seen).stored s.acknowledged later _ after
  rw [written]
  exact updating.write held

theorem QueueSound.step {move : QueueMove} (quiet : s.isQuiet move = true) :
    QueueSound initial (s.step move) := by
  have phase := sound.sync
  cases move with
  | call slot request =>
    simp only [QueueSystem.step]
    split
    · exact sound
    · apply sound.withCalls
      rintro call ⟨rfl⟩
      exact quiet
  | read slot fails =>
    apply sound.withCalls
    intro call held
    obtain ⟨before, wasHeld, rfl⟩ := Option.map_eq_some_iff.mp held
    rw [QueueCall.read_op]
    exact sound.calls slot before wasHeld
  | write slot =>
    simp only [QueueSystem.step]
    split
    · next op seen held =>
      have current : isCurrent s.stored op seen = true := by simpa [QueueSystem.isQuiet, held] using quiet
      apply (sound.write (sound.calls slot _ held) current).withCalls
      intro call absent
      cases absent
    · exact sound
  | startSync =>
    simp only [QueueSystem.step]
    split
    · exact sound.withPhase trivial
    · exact sound
  | readSync now fails =>
    simp only [QueueSystem.step]
    split
    · apply sound.withPhase
      apply Unsent.nextBatch
      rw [flatten_batches (Nat.le_refl _)]
      cases fails with
      | true => exact ⟨List.nodup_nil, fun _ member => nomatch member⟩
      | false =>
        have tags := map_queueTag_getOfflineQueue s.stored
        refine ⟨?_, ?_⟩
        · rw [queueIds_eq_tags, tags, ← queueIds_eq_tags]
          exact sound.ledger.distinct
        · intro item member
          unfold Tracks
          rw [← tags]
          exact List.mem_map.mpr ⟨item, member, rfl⟩
    · exact sound
  | readUpdate n fails =>
    simp only [QueueSystem.step]
    split
    · next later updates after running =>
      rw [running] at phase
      exact sound.withPhase (UpdatingSound.read phase n fails)
    · exact sound
  | writeUpdate n =>
    simp only [QueueSystem.step]
    split
    · next later updates after running =>
      split
      · next op seen held =>
        have checks : isCurrent s.stored op seen = true ∧ isUnreplaced s.stored after.batch op = true := by
          simpa [QueueSystem.isQuiet, running, held] using quiet
        exact sound.writeUpdate running held checks.1 checks.2
      · exact sound
    · exact sound
  | proceed now =>
    simp only [QueueSystem.step]
    split
    · next later updates after running =>
      split
      · rw [running] at phase
        exact sound.withPhase (UpdatingSound.proceed phase now)
      · exact sound
    · exact sound
  | respond now answer =>
    simp only [QueueSystem.step]
    split
    · next later batch running =>
      rw [running] at phase
      have answered : isAnswered batch answer = true := by
        simpa [QueueSystem.isQuiet, running] using quiet
      cases answer with
      | ok results =>
        exact ⟨sound.ledger.withSync _ _, sound.calls, Unsent.respondOk phase answered _ now⟩
      | error error => exact sound.withPhase (Unsent.respondError phase answered _ now)
    · exact sound

theorem QueueSound.lossless : QueueLossless initial s := by
  refine { sound.ledger with retried := ?_ }
  intro later updates batch running finished item member
  have phase := sound.sync
  rw [running] at phase
  obtain ⟨n, here⟩ := List.mem_iff_getElem?.mp member
  obtain ⟨options, ended, update, tracks⟩ := (UpdatingSound.inHand phase).2 n item here
  have isOver := List.all_eq_true.mp finished _ (List.mem_of_getElem? update)
  simp only [QueueCall.isFinished, beq_iff_eq] at isOver
  rw [if_pos isOver] at tracks
  obtain ⟨row, stands, same⟩ := List.mem_map.mp tracks
  exact ⟨row, stands, congrArg Prod.fst same, congrArg Prod.snd same⟩

end

/-- Before the run nothing is in flight, and the ids tell the items apart. -/
structure QueueStart (initial : List QueueItem) (s : QueueSystem) : Prop where
  stored : s.stored = initial
  distinct : (queueIds initial).Nodup
  idle : s.sync = .idle
  uncalled : ∀ slot, s.calls slot = none
  unwritten : s.written = []

theorem QueueStart.sound (start : QueueStart initial s) : QueueSound initial s := by
  refine ⟨⟨?_, ?_, ?_, ?_⟩, ?_, ?_⟩
  · rw [start.stored, start.unwritten]
    rfl
  · rw [start.stored]
    exact start.distinct
  · intro ops early item member
    rw [start.unwritten, List.prefix_nil] at early
    subst early
    rw [start.stored]
    exact .inl ⟨item, member, rfl⟩
  · intro item listed
    rw [start.unwritten] at listed
    cases listed
  · intro slot call held
    rw [start.uncalled] at held
    cases held
  · rw [start.idle]
    trivial

end

/-- Nothing is lost in a run in which every operation writes to the queue it has read, every
removal meets the data that was sent, and every answer is about the batch. -/
theorem queue_lossless {initial : List QueueItem} {first last : QueueSystem} (start : QueueStart initial first)
    (run : Reaches QueueSystem.step (fun s move => s.isQuiet move = true) first last) :
    QueueLossless initial last :=
  (run.invariant start.sound fun _ _ sound meets => sound.step meets).lossless

/-- The data of a count line as the client queues it. -/
def countedLine (id : String) (quantity : ℚ) : RecordData :=
  [("_id", .str id), ("session_id", .str "s1"), ("item_code", .str "I1"), ("floor_no", .str "1"),
    ("rack_no", .str "R1"), ("counted_qty", .num quantity)]

def addsLine (id : String) (quantity : ℚ) : UserCall :=
  .add .countLine (countedLine id quantity) "10:00" "0"

def emptyQueue : QueueSystem where
  stored := []

theorem emptyQueue_start : QueueStart [] emptyQueue := by
  refine ⟨rfl, List.nodup_nil, rfl, fun _ => rfl, rfl⟩

/-- Two lines are queued, one after the other, and a sync sends them. -/
def queuedAndSent : List QueueMove :=
  [.call 0 (addsLine "a" 4), .read 0 false, .write 0, .call 1 (addsLine "b" 2), .read 1 false,
    .write 1, .startSync, .readSync "10:05" false, .proceed "10:05"]

def serverFailure : QueueMove := .respond "10:06" (.error { status := some 500, message := some "down" })

def bothAccepted : QueueMove := .respond "10:20" (.ok [⟨true, "a", none⟩, ⟨true, "b", none⟩])

/-- The batch fails, its updates are made one by one, and a second sync succeeds. -/
def updatedInTurn : List QueueMove :=
  queuedAndSent ++ [serverFailure, .readUpdate 0 false, .writeUpdate 0, .readUpdate 1 false, .writeUpdate 1,
    .proceed "10:07", .startSync, .readSync "10:19" false, .proceed "10:19", bothAccepted,
    .proceed "10:20", .readUpdate 0 false, .writeUpdate 0]

theorem queue_lossless_in_turn :
    QueueLossless [] (updatedInTurn.foldl QueueSystem.step emptyQueue) ∧
      (((updatedInTurn.take 14).foldl QueueSystem.step emptyQueue).stored.map (·.retries) = [1, 1] ∧
        (updatedInTurn.foldl QueueSystem.step emptyQueue).stored = []) := by
  refine ⟨queue_lossless emptyQueue_start (Reaches.of_admitted ?_), ?_⟩
  · decide +kernel
  · decide +kernel

/-- Two lines are queued at once: both calls read the empty queue. -/
def queuedAtOnce : List QueueMove :=
  [.call 0 (addsLine "a" 4), .call 1 (addsLine "b" 2), .read 0 false, .read 1 false, .write 0, .write 1]

/-- The batch fails, and both of its updates read the queue before either is written. -/
def updatedAtOnce : List QueueMove :=
  queuedAndSent ++ [serverFailure, .readUpdate 0 false, .readUpdate 1 false, .writeUpdate 0, .writeUpdate 1]

/-- The line `a` is counted again while its first count is on its way. -/
def replacedInFlight : List QueueMove :=
  queuedAndSent ++ [.call 0 (addsLine "a" 5), .read 0 false, .write 0, bothAccepted,
    .proceed "10:20", .readUpdate 0 false, .writeUpdate 0]

/-- A line is lost, a retry is lost, and a newer count is removed with the older one's
acknowledgement. -/
theorem queue_loses :
    ((queuedAtOnce.foldl QueueSystem.step emptyQueue).stored.map (·.id) = ["count_line:b"] ∧
      (updatedAtOnce.foldl QueueSystem.step emptyQueue).stored.map (·.retries) = [0, 1] ∧
      (replacedInFlight.foldl QueueSystem.step emptyQueue).stored = [] ∧
      ∀ pair ∈ (replacedInFlight.foldl QueueSystem.step emptyQueue).acknowledged, pair.2 ≠ countedLine "a" 5) ∧
    ¬ ∀ (initial : List QueueItem) (first last : QueueSystem), QueueStart initial first →
      Reaches QueueSystem.step (fun _ _ => True) first last → QueueLossless initial last := by
  constructor
  · decide +kernel
  · intro always
    have reached : Reaches QueueSystem.step (fun _ _ => True) emptyQueue
        (queuedAtOnce.foldl QueueSystem.step emptyQueue) := Reaches.foldl fun _ _ _ => trivial
    have serial := (always [] emptyQueue _ emptyQueue_start reached).serial
    revert serial
    decide +kernel

end StockVerification
