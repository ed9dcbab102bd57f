import StockVerification.CountLineSaving

/-!
# Offline count lines on a failing storage

Source: frontend/src/services/storage/asyncStorageService.ts:71-145,
frontend/src/services/offline/offlineStorage.ts:174-246, 290-293, 365-428, 710-755, 806-819 and
frontend/src/services/offline/offlineCountLine.ts:81-168.

The storage turns a failed read into the default and a failed write into the answer false. Nothing
above it looks at that answer, so a count line is reported as created whatever the storage did.
-/
namespace StockVerification

open Foundation

/-- `storage.get` with a default. -/
def storageGet {α : Type} (stored defaultValue : α) (fails : Bool) : α := if fails then defaultValue else stored

/-- `storage.set`: its answer and what is stored. -/
def storageSet {α : Type} (stored value : α) (fails : Bool) : Bool × α := if fails then (false, stored) else (true, value)

/-- What fails of the reads and writes of one call. -/
structure StorageFaults where
  readItems : Bool := false
  readLines : Bool := false
  writeLines : Bool := false
  readQueue : Bool := false
  writeQueue : Bool := false

/-- The three stored values: names by item code, cached lines by session, and the offline queue. -/
structure DeviceStorage where
  itemsCache : List (String × String) := []
  countLinesCache : List (String × List RecordData) := []
  offlineQueue : List QueueItem := []
  deriving DecidableEq

/-- `assertValidCachedCountLine`, its errors. -/
def assertValidCachedCountLine (line : RecordData) : List String :=
  let requiredText := fun name : String => match line.field name with
    | .str text => if text = "" then [name ++ " is required and must be a string"] else []
    | _ => [name ++ " is required and must be a string"]
  requiredText "_id" ++ requiredText "session_id" ++ requiredText "item_code" ++
    match line.field "counted_qty" with
    | .num _ => []
    | _ => ["counted_qty is required and must be a number"]

namespace DeviceStorage

/-- `getItemFromCache`, the name of the item. -/
def getItemFromCache (itemCode : String) (fails : Bool) (s : DeviceStorage) : Option String :=
  (storageGet s.itemsCache [] fails).lookup itemCode

/-- `cacheCountLine`: an invalid line is skipped. -/
def cacheCountLine (line : RecordData) (now : String) (faults : StorageFaults) (s : DeviceStorage) :
    Except String (Option RecordData) × DeviceStorage :=
  if assertValidCachedCountLine line ≠ [] then (.ok none, s)
  else
    let sessionId := (line.field "session_id").text
    let cachedCountLine : RecordData := ("cached_at", .str now) :: line
    let existingCache := storageGet s.countLinesCache [] faults.readLines
    let sessionLines := (existingCache.lookup sessionId).getD []
    let sessionLines := match sessionLines.findIdx? fun other => other.field "_id" == line.field "_id" with
      | some index => sessionLines.set index cachedCountLine
      | none => sessionLines ++ [cachedCountLine]
    let updatedCache := (sessionId, sessionLines) :: existingCache.filter (·.1 != sessionId)
    let written := storageSet s.countLinesCache updatedCache faults.writeLines
    (.ok (some cachedCountLine), { s with countLinesCache := written.2 })

def addToOfflineQueue (type : QueueItemType) (data : RecordData) (timestamp suffix : String)
    (faults : StorageFaults) (s : DeviceStorage) : Except String Unit × DeviceStorage :=
  let queue := getOfflineQueue s.offlineQueue faults.readQueue
  let added := (QueueOp.addToOfflineQueue type data timestamp suffix).apply queue
  let written := storageSet s.offlineQueue added faults.writeQueue
  (.ok (), { s with offlineQueue := written.2 })

/-- The name of the counted item: of the payload, of the device context, or of the cached item. -/
def itemName (call : CountLineCall) (contextItemName : Option String) (faults : StorageFaults)
    (s : DeviceStorage) : String :=
  let given := (firstFilled [call.line.itemName.map trim, contextItemName.map trim]).getD "Unknown Item"
  if given = "Unknown Item" then (s.getItemFromCache call.line.itemCode faults.readItems).getD given else given

def finalCountLine (call : CountLineCall) (contextItemName : Option String) (faults : StorageFaults)
    (s : DeviceStorage) : RecordData :=
  offlineCountLineData { call with line := { call.line with itemName := some (s.itemName call contextItemName faults) } }

/-- `createOfflineCountLine`: the line it returns, or the error it throws. -/
def createOfflineCountLine (call : CountLineCall) (contextItemName : Option String)
    (faults : StorageFaults) (s : DeviceStorage) : Except String RecordData × DeviceStorage :=
  let line := s.finalCountLine call contextItemName faults
  match s.cacheCountLine line call.now faults with
  | (.error message, after) => (.error ("Failed to persist offline count line: " ++ message), after)
  | (.ok _, cached) =>
    match cached.addToOfflineQueue .countLine line call.now call.suffix faults with
    | (.error message, after) => (.error ("Failed to persist offline count line: " ++ message), after)
    | (.ok (), after) => (.ok line, after)

end DeviceStorage

def LineQueued (line : RecordData) (queue : List QueueItem) : Prop :=
  ∃ item ∈ queue, item.type = .countLine ∧ item.data = line

def KeepsItems (before after : List QueueItem) : Prop := ∀ item ∈ before, item.id ∈ queueIds after

theorem cacheCountLine_queue (faults : StorageFaults) (s : DeviceStorage) (line : RecordData) (now : String) :
    ∃ cached, (s.cacheCountLine line now faults).1 = .ok cached ∧
      (s.cacheCountLine line now faults).2.offlineQueue = s.offlineQueue := by
  unfold DeviceStorage.cacheCountLine
  split
  · exact ⟨_, rfl, rfl⟩
  · exact ⟨_, rfl, rfl⟩

section

variable (call : CountLineCall) (contextItemName : Option String) (faults : StorageFaults) (s : DeviceStorage)
include call contextItemName faults s

/-- The call always returns its line, and the queue is what the write leaves. -/
theorem createOfflineCountLine_ends :
    (s.createOfflineCountLine call contextItemName faults).1 = .ok (s.finalCountLine call contextItemName faults) ∧
      (s.createOfflineCountLine call contextItemName faults).2.offlineQueue = if faults.writeQueue then s.offlineQueue
        else (QueueOp.addToOfflineQueue .countLine (s.finalCountLine call contextItemName faults) call.now
          call.suffix).apply (getOfflineQueue s.offlineQueue faults.readQueue) := by
  obtain ⟨cached, ends, queue⟩ :=
    cacheCountLine_queue faults s (s.finalCountLine call contextItemName faults) call.now
  unfold DeviceStorage.createOfflineCountLine
  dsimp only
  generalize s.cacheCountLine (s.finalCountLine call contextItemName faults) call.now faults = outcome at ends queue
  obtain ⟨answer, after⟩ := outcome
  cases ends
  constructor
  · rfl
  · have same : after.offlineQueue = s.offlineQueue := queue
    change (storageSet after.offlineQueue _ faults.writeQueue).2 = _
    rw [same, storageSet, apply_ite Prod.snd]

theorem finalCountLine_key :
    resolveIdempotencyKey .countLine (s.finalCountLine call contextItemName faults) = some call.key :=
  offlineData_key { call with line := { call.line with itemName := some (s.itemName call contextItemName faults) } }

end

theorem lineQueued_add (line : RecordData) (timestamp suffix : String) (queue : List QueueItem) :
    LineQueued line ((QueueOp.addToOfflineQueue .countLine line timestamp suffix).apply queue) := by
  rw [QueueOp.apply]
  cases existing : existingIndex .countLine line queue with
  | none => exact ⟨_, List.mem_append_right _ List.mem_cons_self, rfl, rfl⟩
  | some index =>
    unfold existingIndex at existing
    split at existing
    · cases existing
    · obtain ⟨inside, named, _⟩ := List.findIdx?_eq_some_iff_getElem.mp existing
      simp only [Bool.and_eq_true, beq_iff_eq] at named
      refine ⟨replacedData line timestamp queue[index], ?_, named.1, rfl⟩
      rw [List.mem_iff_getElem?]
      exact ⟨index, by simp [inside]⟩

theorem keepsItems_refl (queue : List QueueItem) : KeepsItems queue queue :=
  fun _ member => List.mem_map_of_mem member

theorem keepsItems_run (line : RecordData) (timestamp suffix : String) (queue : List QueueItem) :
    KeepsItems queue ((QueueOp.addToOfflineQueue .countLine line timestamp suffix).run queue) := by
  intro item member
  have tagged : queueTag item ∈ queue.map queueTag := List.mem_map_of_mem member
  have kept : queueTag item ∈ ((QueueOp.addToOfflineQueue .countLine line timestamp suffix).run queue).map queueTag := by
    rcases map_queueTag_add .countLine line timestamp suffix queue with same | ⟨_, longer⟩
    · rw [same]
      exact tagged
    · rw [longer]
      exact List.mem_append_left _ tagged
  obtain ⟨after, stands, same⟩ := List.mem_map.mp kept
  exact List.mem_map.mpr ⟨after, stands, congrArg Prod.fst same⟩

theorem queueIds_add_unread {line : RecordData} {key : String} (keyed : resolveIdempotencyKey .countLine line = some key)
    (filled : key ≠ "") (timestamp suffix : String) :
    queueIds ((QueueOp.addToOfflineQueue .countLine line timestamp suffix).apply []) = [lineId key] := by
  have absent : existingIndex .countLine line [] = none := by simp [existingIndex, keyed]
  rw [QueueOp.apply, absent]
  simp only [List.nil_append, queueIds, List.map_cons, List.map_nil, newQueueItem, keyed]
  unfold buildQueueItemId
  split
  · next missing => cases missing
  · next empty => exact absurd (Option.some.inj empty) filled
  · next found =>
    rw [← Option.some.inj found]
    rfl

/-- The call returns normally only with its line in the stored queue, and no stored item is missing
after it. -/
structure SafelyCreated (call : CountLineCall) (contextItemName : Option String)
    (faults : StorageFaults) (s : DeviceStorage) : Prop where
  queued : ∀ line, (s.createOfflineCountLine call contextItemName faults).1 = .ok line →
    LineQueued line (s.createOfflineCountLine call contextItemName faults).2.offlineQueue
  kept : KeepsItems s.offlineQueue (s.createOfflineCountLine call contextItemName faults).2.offlineQueue

/-- The queue must be written, unless the very line stands there already, and read, unless it holds
nothing but items under the id of the line. -/
theorem safely_created_iff (call : CountLineCall) (contextItemName : Option String)
    (faults : StorageFaults) (s : DeviceStorage) :
    SafelyCreated call contextItemName faults s ↔
      (if faults.writeQueue then LineQueued (s.finalCountLine call contextItemName faults) s.offlineQueue
      else faults.readQueue = true → ∀ item ∈ s.offlineQueue, item.id = lineId call.key) := by
  obtain ⟨ends, queue⟩ := createOfflineCountLine_ends call contextItemName faults s
  have keyed := finalCountLine_key call contextItemName faults s
  have normal : (∀ line, (s.createOfflineCountLine call contextItemName faults).1 = .ok line →
        LineQueued line (s.createOfflineCountLine call contextItemName faults).2.offlineQueue) ↔
      LineQueued (s.finalCountLine call contextItemName faults)
        (s.createOfflineCountLine call contextItemName faults).2.offlineQueue := by
    rw [ends]
    constructor
    · intro queued
      exact queued _ rfl
    · intro queued line returned
      cases returned
      exact queued
  have parts : SafelyCreated call contextItemName faults s ↔
      LineQueued (s.finalCountLine call contextItemName faults)
          (s.createOfflineCountLine call contextItemName faults).2.offlineQueue ∧
        KeepsItems s.offlineQueue (s.createOfflineCountLine call contextItemName faults).2.offlineQueue := by
    rw [← normal]
    constructor
    · rintro ⟨queued, kept⟩
      exact ⟨queued, kept⟩
    · rintro ⟨queued, kept⟩
      exact ⟨queued, kept⟩
  rw [parts, queue]
  generalize s.finalCountLine call contextItemName faults = line at keyed
  by_cases unwritten : faults.writeQueue = true
  · rw [if_pos unwritten, if_pos unwritten]
    constructor
    · intro safe
      exact safe.1
    · intro queued
      exact ⟨queued, keepsItems_refl _⟩
  · rw [if_neg unwritten, if_neg unwritten]
    by_cases unread : faults.readQueue = true
    · have alone : queueIds ((QueueOp.addToOfflineQueue .countLine line call.now call.suffix).apply
          (getOfflineQueue s.offlineQueue faults.readQueue)) = [lineId call.key] := by
        rw [unread]
        exact queueIds_add_unread keyed call.key_trimmed.2 call.now call.suffix
      constructor
      · rintro ⟨_, kept⟩ _ item member
        have stands := kept item member
        rw [alone] at stands
        exact List.mem_singleton.mp stands
      · intro same
        refine ⟨lineQueued_add line call.now call.suffix _, ?_⟩
        intro item member
        rw [alone]
        exact List.mem_singleton.mpr (same unread item member)
    · constructor
      · intro _ read
        exact absurd read unread
      · intro _
        rw [Bool.not_eq_true] at unread
        rw [unread]
        exact ⟨lineQueued_add line call.now call.suffix _, keepsItems_run line call.now call.suffix _⟩

def earlierItem : QueueItem :=
  newQueueItem .countLine (offlineCountLineData { offlineCall with idempotencyKey := some "j" }) "t" "x"

/-- A failed write loses the line, and a failed read the whole queue; the call returns the line both
times. -/
theorem counts_lost_silently :
    ¬ SafelyCreated offlineCall none { writeQueue := true } {} ∧
      ¬ SafelyCreated offlineCall none { readQueue := true } { offlineQueue := [earlierItem] } ∧
      (DeviceStorage.createOfflineCountLine offlineCall none { readQueue := true }
        { offlineQueue := [earlierItem] }).1.isOk = true := by
  refine ⟨?_, ?_, rfl⟩
  · intro safe
    obtain ⟨item, member, _⟩ := safe.queued _ rfl
    cases member
  · intro safe
    have kept := safe.kept earlierItem List.mem_cons_self
    revert kept
    decide +kernel

end StockVerification
