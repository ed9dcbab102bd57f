import StockVerification.LocalAggregates
import StockVerification.QueueRaces
import StockVerification.SessionCommands

/-!
# Where a saved count line goes

Source: frontend/src/services/api/inventoryWorkflowApi.ts:819-843, 968-1031,
frontend/src/services/control-plane/countLineControlPlane.ts:200-311,
frontend/src/services/offline/offlineCountLine.ts:80-169,
frontend/src/core/policies/inventoryPolicies.ts and frontend/src/services/syncService.ts:624-832.

A count line is posted, recorded as an event of the local tables, or added to the offline queue. A
sync pass sends the offline queue. The operations on the queue are taken one after another here.
-/
namespace StockVerification

open Foundation Foundation.Action

structure InventoryPolicyError where
  code : String
  message : String
  deriving DecidableEq, Repr

/-- `normalizeSerials` is `extractSerials`, and `decimalPlaces` the number of digits after the point
in the text of a number. -/
def enforceCountLinePolicies (js : JsRuntime) (decimalPlaces : ℚ → Nat) (line : LinePayload) :
    Except InventoryPolicyError Unit :=
  let serials := extractSerials js.upper line
  if line.countedQty < 0 then
    .error ⟨"INVALID_QUANTITY", "Counted quantity must be a non-negative finite number."⟩
  else if 3 < decimalPlaces line.countedQty then
    .error ⟨"PRECISION_EXCEEDED", "Counted quantity exceeds supported precision (3 decimals)."⟩
  else if serials = [] then .ok ()
  else if ¬ serials.Nodup then
    .error ⟨"SERIAL_DUPLICATE", "Duplicate serial numbers were provided for the same item."⟩
  else if line.countedQty.den ≠ 1 then
    .error ⟨"FRACTION_NOT_ALLOWED", "Serialized item quantity must be an integer."⟩
  else if line.countedQty ≠ serials.length then
    .error ⟨"SERIAL_QTY_MISMATCH", "Serialized item quantity must match the number of serials entered."⟩
  else .ok ()

/-- A generated key: a text without blanks around it. -/
structure GeneratedKey where
  text : String
  trimmed : trim text = text
  filled : text ≠ ""

/-- What a count line request meets. -/
inductive LineExchange where
  | accepted (serverLineId : Option String)
  | refused (status : Nat) (message : String)
  | unanswered (executed : Bool) (message : String)
  deriving DecidableEq

/-- A call of `createCountLine`. `line` is the payload with its item name, user and time filled in,
and `fields` is the payload as the queue stores it. -/
structure CountLineCall where
  idempotencyKey : Option String
  generated : GeneratedKey
  line : LinePayload
  fields : RecordData
  ts : Int
  online : Bool
  onlineAgain : Bool
  exchange : LineExchange
  now : String
  suffix : String

structure CountWorld where
  queue : List QueueItem := []
  tables : LocalDb := {}
  sessions : SessionDb := {}
  accepted : List String := []
  saved : List String := []

/-- `ensureCountLineIdempotencyKey`. -/
def CountLineCall.key (call : CountLineCall) : String :=
  (firstFilled [call.idempotencyKey.map trim]).getD call.generated.text

/-- The server knows the line once it has carried out its request. -/
def CountWorld.accept (w : CountWorld) (key : String) (executed : Bool) : CountWorld :=
  if executed then { w with accepted := w.accepted ++ [key] } else w

def CountWorld.save (w : CountWorld) (key : String) : CountWorld := { w with saved := w.saved ++ [key] }

/-- `{ ...countData, ...offlineCountLine }`: the later entries win. -/
def offlineCountLineData (call : CountLineCall) : RecordData :=
  [("_id", .str call.key), ("idempotency_key", .str call.key), ("session_id", .str call.line.sessionId),
    ("item_code", .str call.line.itemCode), ("item_name", .str (call.line.itemName.getD "Unknown Item")),
    ("counted_qty", .num call.line.countedQty), ("system_qty", .null), ("variance", .null),
    ("counted_by", .str call.line.countedBy), ("counted_at", .str call.line.countedAt),
    ("cached_at", .str call.now),
    ("rack_no", ((firstFilled [call.line.rackNo]).map Value.str).getD .null),
    ("rack", ((firstFilled [call.line.rackNo]).map Value.str).getD .null), ("verified", .bool false),
    ("audit", .dict [("created_offline", .bool true), ("sync_status", .str "pending"),
      ("idempotency_key", .str call.key)])] ++ call.fields

def createOfflineCountLine (call : CountLineCall) (w : CountWorld) : CountWorld :=
  { w with
    queue := (QueueOp.addToOfflineQueue .countLine (offlineCountLineData call) call.now call.suffix).run w.queue }

def buildCountLineEvent (call : CountLineCall) (sessions : SessionDb) : LineEvent where
  id := call.key
  payload :=
    { call.line with sessionId := resolveLocalSessionId sessions call.line.sessionId, syncStatus := .pending }
  ts := call.ts

/-- How the command ends: with a line that counts as saved, with an answer of the server that is
thrown on, or with any other error. -/
inductive CommandEnd where
  | saved
  | refused
  | thrown
  deriving DecidableEq

section saving

variable (js : JsRuntime) (decimalPlaces : ℚ → Nat)

/-- A rejected line is dropped from the tables, unless the rebuild itself fails. -/
def rejectCountLine (eventId message : String) (w : CountWorld) : CommandEnd × CountWorld :=
  let marked := (markInventoryEventFailed eventId message).final w.tables
  let rebuilt := (rebuildInventoryProjections js).final marked
  (if (rebuildInventoryProjections js).succeeds marked then .refused else .thrown, { w with tables := rebuilt })

def postRecordedLine (call : CountLineCall) (event : LineEvent) (w : CountWorld) : CommandEnd × CountWorld :=
  match call.exchange with
  | .accepted serverLineId =>
    let synced := (markInventoryEventSynced event.id).final w.tables
    (.saved, { w with tables := (bindInventoryServerLineId event.id serverLineId).final synced }.accept call.key true)
  | .refused status message =>
    if 400 ≤ status ∧ status < 500 then rejectCountLine js event.id message w
    else (.saved, { w with tables := (markInventoryEventRetry event.id message).final w.tables })
  | .unanswered executed message =>
    (.saved, { w with tables := (markInventoryEventRetry event.id message).final w.tables }.accept call.key executed)

def submitCountLineCommand (call : CountLineCall) (w : CountWorld) : CommandEnd × CountWorld :=
  match enforceCountLinePolicies js decimalPlaces call.line with
  | .error _ => (.thrown, w)
  | .ok () =>
    let event := buildCountLineEvent call w.sessions
    if (recordInventoryEvent js event).succeeds w.tables then
      let recorded := { w with tables := (recordInventoryEvent js event).final w.tables }
      if call.onlineAgain ∧ (resolveServerSessionId w.sessions event.payload.sessionId).isSome then
        postRecordedLine js call event recorded
      else (.saved, recorded)
    else (.thrown, w)

def Client.createCountLine (call : CountLineCall) (w : CountWorld) : CountWorld :=
  if call.online = false ∨ isOfflineId call.line.sessionId then
    match submitCountLineCommand js decimalPlaces call w with
    | (.saved, after) => after.save call.key
    | (.refused, after) => after
    | (.thrown, after) => (createOfflineCountLine call after).save call.key
  else
    match call.exchange with
    | .accepted _ => (w.accept call.key true).save call.key
    | .refused .. => w
    | .unanswered executed _ => (createOfflineCountLine call (w.accept call.key executed)).save call.key

end saving

def acceptedIds (results : List BatchResult) : List String := (results.filter (·.success)).map (·.id)

/-- `syncBatchChunk`, with the answer to its request. -/
def syncBatchChunk (now : String) (batch : List QueueItem)
    (answer : Except BatchError (List BatchResult)) (w : CountWorld) : CountWorld :=
  let checked := replay w.queue (handleInvalidSyncItems now batch)
  let valid := validBatch batch
  if valid = [] then { w with queue := checked }
  else match answer with
    | .ok results => { w with
        queue := replay (replay checked (retryUpdates now valid results))
          (if syncedQueueIds valid results = [] then []
          else [.removeManyFromOfflineQueue (syncedQueueIds valid results)])
        accepted := w.accepted ++ acceptedIds results }
    | .error error => { w with queue := replay checked (handleBatchFailure now valid error) }

def syncBatches (now : String) (answers : List QueueItem → Except BatchError (List BatchResult)) :
    List (List QueueItem) → CountWorld → CountWorld
  | [], w => w
  | batch :: rest, w => syncBatches now answers rest (syncBatchChunk now batch (answers (validBatch batch)) w)

def syncOfflineQueue (now : String) (answers : List QueueItem → Except BatchError (List BatchResult))
    (w : CountWorld) : CountWorld :=
  let queue := getOfflineQueue w.queue false
  syncBatches now answers (batches queue.length queue) w

inductive CountMove where
  | create (call : CountLineCall)
  | sync (now : String) (answers : List QueueItem → Except BatchError (List BatchResult))
  | session (op : SessionOp)

def CountWorld.step (js : JsRuntime) (decimalPlaces : ℚ → Nat) (iso : Int → String) (w : CountWorld) :
    CountMove → CountWorld
  | .create call => Client.createCountLine js decimalPlaces call w
  | .sync now answers => syncOfflineQueue now answers w
  | .session op => { w with sessions := w.sessions.step js.upper iso op }

def InOfflineQueue (key : String) (queue : List QueueItem) : Prop :=
  ∃ item ∈ queue, item.type = .countLine ∧ item.idempotencyKey = some key

theorem dropWhile_of_head {p : Char → Bool} {cs : List Char}
    (kept : ∀ c, cs.head? = some c → p c = false) : cs.dropWhile p = cs := by
  cases cs with
  | nil => rfl
  | cons c rest => rw [List.dropWhile_cons, kept c rfl, if_neg Bool.false_ne_true]

theorem trimList_trimList (cs : List Char) : trimList (trimList cs) = trimList cs := by
  unfold trimList
  dsimp only
  generalize (fun c : Char => trimmedSpaces.contains c.toNat) = blank
  let inner := cs.dropWhile blank
  let ends := inner.reverse.dropWhile blank
  have front : ends.reverse.dropWhile blank = ends.reverse := by
    apply dropWhile_of_head
    intro c first
    -- what is left starts as the text without its leading blanks
    have start : ends.reverse <+: inner := by
      rw [← List.reverse_suffix, List.reverse_reverse]
      exact List.dropWhile_suffix blank
    obtain ⟨rest, whole⟩ := start
    have head : inner.head? = some c := by
      rw [← whole, List.head?_append, first]
      rfl
    have unblank := List.head?_dropWhile_not blank cs
    rw [show (cs.dropWhile blank).head? = some c from head] at unblank
    exact unblank
  change ((ends.reverse.dropWhile blank).reverse.dropWhile blank).reverse = ends.reverse
  rw [front, List.reverse_reverse, List.dropWhile_idempotent]

theorem trim_trim (s : String) : trim (trim s) = trim s := by
  rw [trim, trim, String.toList_ofList, trimList_trimList]

/-- The key of a call is a text without blanks around it. -/
theorem CountLineCall.key_trimmed (call : CountLineCall) : trim call.key = call.key ∧ call.key ≠ "" := by
  unfold CountLineCall.key
  cases found : firstFilled [call.idempotencyKey.map trim] with
  | none => exact ⟨call.generated.trimmed, call.generated.filled⟩
  | some key =>
    refine ⟨?_, firstFilled_filled found⟩
    cases given : call.idempotencyKey with
    | none =>
      rw [given] at found
      cases found
    | some text =>
      rw [given] at found
      have same : key = trim text := by
        obtain ⟨option, member, kept⟩ := List.exists_of_findSome?_eq_some found
        rw [List.mem_singleton] at member
        subst member
        exact (Option.some.inj (Option.filter_eq_some_iff.mp kept).1).symm
      change trim key = key
      rw [same, trim_trim]

def lineId (key : String) : String := "count_line" ++ ":" ++ key

theorem lineId_injective {a b : String} (same : lineId a = lineId b) : a = b := by
  have chars := congrArg String.toList same
  simp only [lineId, String.toList_append, List.append_cancel_left_eq] at chars
  exact String.toList_inj.mp chars

def LineItem (item : QueueItem) : Prop :=
  ∃ key, key ≠ "" ∧ trim key = key ∧ item.type = .countLine ∧ item.idempotencyKey = some key ∧ item.id = lineId key

def LineItems (queue : List QueueItem) : Prop := ∀ item ∈ queue, LineItem item

def Held (key : String) (queue : List QueueItem) : Prop := lineId key ∈ queueIds queue

variable {queue : List QueueItem} {key : String}

theorem Held.inQueue (held : Held key queue) (lines : LineItems queue) : InOfflineQueue key queue := by
  obtain ⟨item, member, named⟩ := List.mem_map.mp held
  obtain ⟨own, _, _, type, keyed, id⟩ := lines item member
  have same : own = key := lineId_injective (id.symm.trans named)
  rw [same] at keyed
  exact ⟨item, member, type, keyed⟩

theorem InOfflineQueue.held (stands : InOfflineQueue key queue) (lines : LineItems queue) :
    Held key queue := by
  obtain ⟨item, member, _, keyed⟩ := stands
  obtain ⟨own, _, _, _, ownKey, id⟩ := lines item member
  rw [keyed] at ownKey
  rw [← Option.some.inj ownKey] at id
  exact List.mem_map.mpr ⟨item, member, id⟩

theorem LineItem.normalize {item : QueueItem} (line : LineItem item) : LineItem (normalizeQueueItem item) := by
  obtain ⟨key, filled, trimmed, type, keyed, id⟩ := line
  refine ⟨key, filled, trimmed, type, ?_, id⟩
  change keyOr item.idempotencyKey _ = some key
  rw [keyed, keyOr, if_neg]
  simp [filled]

theorem LineItems.read (lines : LineItems queue) : LineItems (getOfflineQueue queue false) := by
  intro item member
  obtain ⟨old, stood, rfl⟩ := List.mem_map.mp member
  exact (lines old stood).normalize

/-- An operation that leaves count lines under their keys. -/
def QueueOp.KeepsLines : QueueOp → Prop
  | .addToOfflineQueue type data timestamp suffix => LineItem (newQueueItem type data timestamp suffix)
  | .updateOfflineQueueItem _ patch =>
    patch.id = none ∧ patch.type = none ∧ patch.idempotencyKey = none ∧ patch.retries = none
  | _ => True

theorem LineItems.run (lines : LineItems queue) (op : QueueOp) (keeps : op.KeepsLines) : LineItems (op.run queue) := by
  have read := lines.read
  unfold QueueOp.run
  generalize getOfflineQueue queue false = seen at read
  cases op with
  | addToOfflineQueue type data timestamp suffix =>
    unfold QueueOp.apply
    dsimp only
    split
    · intro item member
      rw [List.mem_iff_getElem?] at member
      obtain ⟨n, found⟩ := member
      rw [List.getElem?_modify] at found
      obtain ⟨old, stood, rfl⟩ := Option.map_eq_some_iff.mp found
      have line := read old (List.mem_of_getElem? stood)
      split
      · exact line
      · exact line
    · intro item member
      rcases List.mem_append.mp member with older | newer
      · exact read item older
      · rw [List.mem_singleton.mp newer]
        exact keeps
  | removeManyFromOfflineQueue ids =>
    intro item member
    exact read item (List.mem_of_mem_filter member)
  | updateQueueItemRetries id options =>
    intro item member
    obtain ⟨old, stood, rfl⟩ := List.mem_map.mp member
    have line := read old stood
    split
    · exact line
    · exact line
  | updateOfflineQueueItem id patch =>
    intro item member
    obtain ⟨old, stood, rfl⟩ := List.mem_map.mp member
    have line := read old stood
    split
    · apply LineItem.normalize
      obtain ⟨key, filled, trimmed, type, keyed, named⟩ := line
      obtain ⟨noId, noType, noKey, _⟩ := keeps
      refine ⟨key, filled, trimmed, ?_, ?_, ?_⟩
      · rw [QueuePatch.apply, noType]
        exact type
      · rw [QueuePatch.apply, noKey]
        exact keyed
      · rw [QueuePatch.apply, noId]
        exact named
    · exact line

theorem QueueOp.KeepsLines.orderly {op : QueueOp} (keeps : op.KeepsLines) : op.isOrderly = true := by
  cases op with
  | updateOfflineQueueItem id patch =>
    obtain ⟨noId, _, _, noRetries⟩ := keeps
    simp [QueueOp.isOrderly, QueueOp.isMild, noId, noRetries]
  | _ => rfl

theorem Held.run (held : Held key queue) (op : QueueOp) (keeps : op.KeepsLines) :
    Held key (op.run queue) ∨ lineId key ∈ queueIds (op.drops queue) := by
  obtain ⟨item, member, named⟩ := List.mem_map.mp held
  rcases run_keeps keeps.orderly member with ⟨after, stays, same⟩ | ⟨gone, dropped, same⟩
  · exact .inl (List.mem_map.mpr ⟨after, stays, same.trans named⟩)
  · exact .inr (List.mem_map.mpr ⟨gone, dropped, same.trans named⟩)

def QueueOp.IsUpdate (op : QueueOp) : Prop := op.KeepsLines ∧ ∀ queue, op.drops queue = []

theorem replay_updates {ops : List QueueOp} (lines : LineItems queue) (updates : ∀ op ∈ ops, op.IsUpdate) :
    LineItems (replay queue ops) ∧ ∀ key, Held key queue → Held key (replay queue ops) := by
  induction ops generalizing queue with
  | nil => exact ⟨lines, fun _ held => held⟩
  | cons op rest ih =>
    have first := updates op (List.mem_cons_self ..)
    obtain ⟨after, kept⟩ := ih (lines.run op first.1) fun later member => updates later (List.mem_cons_of_mem _ member)
    refine ⟨after, ?_⟩
    intro key held
    apply kept
    rcases held.run op first.1 with stays | gone
    · exact stays
    · rw [first.2] at gone
      cases gone

section

variable (now : String) (batch : List QueueItem)
include now batch

theorem handleInvalid_updates : ∀ op ∈ handleInvalidSyncItems now batch, op.IsUpdate := by
  intro op member
  obtain ⟨item, _, built⟩ := List.mem_filterMap.mp member
  split at built
  · cases built
  · rw [← Option.some.inj built]
    exact ⟨⟨rfl, rfl, rfl, rfl⟩, fun _ => rfl⟩

theorem retryUpdates_updates (results : List BatchResult) : ∀ op ∈ retryUpdates now batch results, op.IsUpdate := by
  intro op member
  obtain ⟨result, _, rfl⟩ := List.mem_map.mp member
  exact ⟨trivial, fun _ => rfl⟩

theorem handleFailure_updates (error : BatchError) : ∀ op ∈ handleBatchFailure now batch error, op.IsUpdate := by
  intro op member
  obtain ⟨item, _, rfl⟩ := List.mem_map.mp member
  split
  · exact ⟨⟨rfl, rfl, rfl, rfl⟩, fun _ => rfl⟩
  · exact ⟨trivial, fun _ => rfl⟩

end

/-- Every line that was reported as saved is accepted or queued. -/
structure SavedLines (w : CountWorld) : Prop where
  lines : LineItems w.queue
  saved : ∀ key ∈ w.saved, key ∈ w.accepted ∨ Held key w.queue

theorem SavedLines.init : SavedLines {} := by
  constructor
  · nofun
  · nofun

variable {w : CountWorld}

theorem SavedLines.accept (sound : SavedLines w) (key : String) (executed : Bool) :
    SavedLines (w.accept key executed) := by
  unfold CountWorld.accept
  split
  · refine ⟨sound.lines, ?_⟩
    intro other member
    rcases sound.saved other member with accepted | held
    · exact .inl (List.mem_append_left _ accepted)
    · exact .inr held
  · exact sound

theorem SavedLines.save (sound : SavedLines w) (kept : key ∈ w.accepted ∨ Held key w.queue) :
    SavedLines (w.save key) := by
  refine ⟨sound.lines, ?_⟩
  intro other member
  rcases List.mem_append.mp member with older | newer
  · exact sound.saved other older
  · rw [List.mem_singleton.mp newer]
    exact kept

theorem SavedLines.withTables {tables : LocalDb} (sound : SavedLines w) : SavedLines { w with tables := tables } :=
  ⟨sound.lines, sound.saved⟩

theorem offlineData_key (call : CountLineCall) :
    resolveIdempotencyKey .countLine (offlineCountLineData call) = some call.key := by
  have field : (offlineCountLineData call).field "idempotency_key" = .str call.key := rfl
  obtain ⟨trimmed, filled⟩ := call.key_trimmed
  unfold resolveIdempotencyKey
  rw [field]
  dsimp only
  rw [trimmed, if_neg filled]

theorem newQueueItem_line {data : RecordData} {timestamp suffix : String}
    (keyed : resolveIdempotencyKey .countLine data = some key) (trimmed : trim key = key)
    (filled : key ≠ "") : LineItem (newQueueItem .countLine data timestamp suffix) := by
  refine ⟨key, filled, trimmed, rfl, keyed, ?_⟩
  change buildQueueItemId .countLine (resolveIdempotencyKey .countLine data) suffix = lineId key
  rw [keyed]
  unfold buildQueueItemId
  split
  · next missing => cases missing
  · next empty => exact absurd (Option.some.inj empty) filled
  · next found =>
    rw [← Option.some.inj found]
    rfl

/-- The line of an added item is in the queue, whether its key was there before or not. -/
theorem held_added {data : RecordData} {timestamp suffix : String} (lines : LineItems queue)
    (keyed : resolveIdempotencyKey .countLine data = some key)
    (new : LineItem (newQueueItem .countLine data timestamp suffix)) :
    Held key ((QueueOp.addToOfflineQueue .countLine data timestamp suffix).run queue) := by
  cases existing : existingIndex .countLine data (getOfflineQueue queue false) with
  | some index =>
    have stays : ∀ held : Held key queue,
        Held key ((QueueOp.addToOfflineQueue .countLine data timestamp suffix).run queue) := by
      intro held
      rcases held.run (.addToOfflineQueue .countLine data timestamp suffix) new with stays | gone
      · exact stays
      · cases gone
    rw [existingIndex, keyed] at existing
    obtain ⟨inside, named, _⟩ := List.findIdx?_eq_some_iff_getElem.mp existing
    simp only [Bool.and_eq_true, beq_iff_eq] at named
    have queued : InOfflineQueue key (getOfflineQueue queue false) :=
      ⟨_, List.getElem_mem inside, named.1, named.2⟩
    have sameIds : queueIds (getOfflineQueue queue false) = queueIds queue := by
      rw [queueIds_eq_tags, map_queueTag_getOfflineQueue, ← queueIds_eq_tags]
    apply stays
    rw [Held, ← sameIds]
    exact queued.held lines.read
  | none =>
    obtain ⟨own, _, _, _, ownKey, id⟩ := new
    change resolveIdempotencyKey .countLine data = some own at ownKey
    rw [keyed] at ownKey
    rw [← Option.some.inj ownKey] at id
    rw [QueueOp.run, QueueOp.apply]
    simp only [existing]
    apply List.mem_map.mpr
    exact ⟨_, List.mem_append_right _ (List.mem_singleton.mpr rfl), id⟩

/-- The fallback queues the line. -/
theorem SavedLines.offline (sound : SavedLines w) (call : CountLineCall) :
    SavedLines (createOfflineCountLine call w) ∧ Held call.key (createOfflineCountLine call w).queue := by
  unfold createOfflineCountLine
  have keyed := offlineData_key call
  generalize offlineCountLineData call = data at keyed
  have new : LineItem (newQueueItem .countLine data call.now call.suffix) :=
    newQueueItem_line keyed call.key_trimmed.1 call.key_trimmed.2
  refine ⟨⟨sound.lines.run (.addToOfflineQueue .countLine data call.now call.suffix) new, ?_⟩,
    held_added sound.lines keyed new⟩
  intro key member
  rcases sound.saved key member with accepted | held
  · exact .inl accepted
  · right
    rcases held.run (.addToOfflineQueue .countLine data call.now call.suffix) new with stays | gone
    · exact stays
    · cases gone

/-- Whether a request leaves the server with the line, or the user without it. -/
def LineExchange.settles : LineExchange → Bool
  | .accepted _ => true
  | .refused status _ => decide (400 ≤ status ∧ status < 500)
  | .unanswered executed _ => executed

section saving

variable (js : JsRuntime) (decimalPlaces : ℚ → Nat)

/-- The command records the line in the local tables, reports it as saved, and does nothing more. -/
def StaysLocal (call : CountLineCall) (w : CountWorld) : Prop :=
  (call.online = false ∨ isOfflineId call.line.sessionId = true) ∧
    (enforceCountLinePolicies js decimalPlaces call.line).isOk = true ∧
    (recordInventoryEvent js (buildCountLineEvent call w.sessions)).succeeds w.tables = true ∧
    ¬ (call.onlineAgain = true ∧
      (resolveServerSessionId w.sessions (buildCountLineEvent call w.sessions).payload.sessionId).isSome = true ∧
      call.exchange.settles = true)

variable {js decimalPlaces} {call : CountLineCall}

/-- A settled request that is reported as saved was accepted. -/
theorem postRecordedLine_accepted {event : LineEvent} (settles : call.exchange.settles = true)
    (saved : (postRecordedLine js call event w).1 = .saved) :
    call.key ∈ (postRecordedLine js call event w).2.accepted := by
  unfold postRecordedLine at saved ⊢
  cases met : call.exchange with
  | accepted serverLineId => exact List.mem_append_right _ (List.mem_singleton.mpr rfl)
  | refused status message =>
    rw [met] at settles saved
    dsimp only at saved
    rw [if_pos (of_decide_eq_true settles)] at saved
    unfold rejectCountLine at saved
    dsimp only at saved
    split at saved
    · cases saved
    · cases saved
  | unanswered executed message =>
    rw [met] at settles
    obtain rfl : executed = true := settles
    exact List.mem_append_right _ (List.mem_singleton.mpr rfl)

theorem SavedLines.posted {event : LineEvent} (sound : SavedLines w) :
    SavedLines (postRecordedLine js call event w).2 := by
  unfold postRecordedLine
  split
  · exact sound.withTables.accept call.key true
  · split
    · exact sound.withTables
    · exact sound.withTables
  · exact sound.withTables.accept call.key _

/-- What the command leaves: a line that it reports as saved stays local or is accepted. -/
theorem SavedLines.submit (decimalPlaces : ℚ → Nat) (call : CountLineCall)
    (sound : SavedLines w) :
    SavedLines (submitCountLineCommand js decimalPlaces call w).2 ∧
      (submitCountLineCommand js decimalPlaces call w).2.queue = w.queue ∧
      (∀ key ∈ w.accepted, key ∈ (submitCountLineCommand js decimalPlaces call w).2.accepted) ∧
      ((call.online = false ∨ isOfflineId call.line.sessionId = true) →
        (submitCountLineCommand js decimalPlaces call w).1 = .saved → ¬ StaysLocal js decimalPlaces call w →
        call.key ∈ (submitCountLineCommand js decimalPlaces call w).2.accepted) := by
  unfold submitCountLineCommand
  cases policies : enforceCountLinePolicies js decimalPlaces call.line with
  | error broken =>
    refine ⟨sound, rfl, fun _ known => known, ?_⟩
    nofun
  | ok _ =>
    dsimp only
    by_cases records : (recordInventoryEvent js (buildCountLineEvent call w.sessions)).succeeds w.tables = true
    · rw [if_pos records]
      by_cases posts : call.onlineAgain = true ∧
          (resolveServerSessionId w.sessions (buildCountLineEvent call w.sessions).payload.sessionId).isSome = true
      · rw [if_pos posts]
        refine ⟨sound.withTables.posted, ?_, ?_, ?_⟩
        · unfold postRecordedLine
          split
          · rfl
          · split
            · rfl
            · rfl
          · unfold CountWorld.accept
            split
            · rfl
            · rfl
        · intro key known
          unfold postRecordedLine
          split
          · exact List.mem_append_left _ known
          · split
            · exact known
            · exact known
          · unfold CountWorld.accept
            split
            · exact List.mem_append_left _ known
            · exact known
        · intro branch saved reaches
          have settles : call.exchange.settles = true := by
            by_contra unsettled
            apply reaches
            refine ⟨branch, ?_, records, ?_⟩
            · rw [policies]
              rfl
            · intro settled
              exact unsettled settled.2.2
          exact postRecordedLine_accepted settles saved
      · rw [if_neg posts]
        refine ⟨sound.withTables, rfl, fun _ known => known, ?_⟩
        intro branch _ reaches
        exfalso
        apply reaches
        refine ⟨branch, ?_, records, ?_⟩
        · rw [policies]
          rfl
        · intro settled
          exact posts ⟨settled.1, settled.2.1⟩
    · rw [if_neg records]
      refine ⟨sound, rfl, fun _ known => known, ?_⟩
      nofun

def LocalIsKnown (js : JsRuntime) (decimalPlaces : ℚ → Nat) (call : CountLineCall) (w : CountWorld) : Prop :=
  StaysLocal js decimalPlaces call w → call.key ∈ w.accepted ∨ InOfflineQueue call.key w.queue

theorem SavedLines.create (sound : SavedLines w) (known : LocalIsKnown js decimalPlaces call w) :
    SavedLines (Client.createCountLine js decimalPlaces call w) := by
  unfold Client.createCountLine
  by_cases branch : call.online = false ∨ isOfflineId call.line.sessionId = true
  · rw [if_pos branch]
    obtain ⟨after, queue, accepted, ends⟩ := sound.submit decimalPlaces call
    cases ran : submitCountLineCommand js decimalPlaces call w with
    | mk ended left =>
      rw [ran] at after queue accepted ends
      cases ended with
      | saved =>
        apply after.save
        by_cases stays : StaysLocal js decimalPlaces call w
        · rcases known stays with before | queued
          · exact .inl (accepted call.key before)
          · right
            change Held call.key left.queue
            rw [show left.queue = w.queue from queue]
            exact queued.held sound.lines
        · exact .inl (ends branch rfl stays)
      | refused => exact after
      | thrown =>
        obtain ⟨queued, held⟩ := after.offline call
        exact queued.save (.inr held)
  · rw [if_neg branch]
    split
    · apply (sound.accept call.key true).save
      exact .inl (List.mem_append_right _ (List.mem_singleton.mpr rfl))
    · exact sound
    · obtain ⟨queued, held⟩ := (sound.accept call.key _).offline call
      exact queued.save (.inr held)

end saving

theorem asString_key (trimmed : trim key = key) (filled : key ≠ "") : asString (.str key) = some key := by
  rw [asString, trimmed, if_neg filled]

theorem resolveClientRecordId_line {item : QueueItem} (trimmed : trim key = key) (filled : key ≠ "")
    (keyed : item.idempotencyKey = some key) : resolveClientRecordId item = key := by
  unfold resolveClientRecordId firstString
  have first : asString ((item.idempotencyKey.map Value.str).getD .null) = some key := by
    rw [keyed]
    exact asString_key trimmed filled
  rw [List.findSome?_cons, first]
  rfl

/-- The results of an answer lead back to the items whose records they name. -/
def isTraced (batch : List QueueItem) : Except BatchError (List BatchResult) → Bool
  | .ok results => isAnswered batch (.ok results)
  | .error _ => true

theorem accepted_of_synced {batch : List QueueItem} {results : List BatchResult}
    (lines : LineItems batch) (traced : isAnswered batch (.ok results) = true)
    (removed : lineId key ∈ syncedQueueIds batch results) : key ∈ acceptedIds results := by
  obtain ⟨result, success, named⟩ := List.mem_map.mp removed
  obtain ⟨item, inBatch, record, itemId⟩ := answered_item traced (List.mem_of_mem_filter success)
  obtain ⟨own, filled, trimmed, _, keyed, id⟩ := lines item inBatch
  have same : own = key := lineId_injective (id.symm.trans (itemId.symm.trans named))
  rw [resolveClientRecordId_line trimmed filled keyed, same] at record
  exact List.mem_map.mpr ⟨result, success, record.symm⟩

variable {now : String}

theorem SavedLines.chunk {batch : List QueueItem} {answer : Except BatchError (List BatchResult)} (sound : SavedLines w)
    (lines : LineItems batch) (traced : isTraced (validBatch batch) answer = true) :
    SavedLines (syncBatchChunk now batch answer w) := by
  have valid : LineItems (validBatch batch) := by
    intro item member
    exact lines item (List.mem_of_mem_filter member)
  obtain ⟨checked, kept⟩ := replay_updates sound.lines (handleInvalid_updates now batch)
  have still : ∀ key ∈ w.saved, key ∈ w.accepted ∨ Held key (replay w.queue (handleInvalidSyncItems now batch)) := by
    intro key member
    rcases sound.saved key member with accepted | held
    · exact .inl accepted
    · exact .inr (kept key held)
  unfold syncBatchChunk
  dsimp only
  split
  · exact ⟨checked, still⟩
  · cases answer with
    | error error =>
      obtain ⟨after, kept⟩ := replay_updates checked (handleFailure_updates now (validBatch batch) error)
      refine ⟨after, ?_⟩
      intro key member
      rcases still key member with accepted | held
      · exact .inl accepted
      · exact .inr (kept key held)
    | ok results =>
      obtain ⟨retried, kept⟩ := replay_updates checked (retryUpdates_updates now (validBatch batch) results)
      dsimp only
      split
      · refine ⟨retried, ?_⟩
        intro key member
        rcases still key member with accepted | held
        · exact .inl (List.mem_append_left _ accepted)
        · exact .inr (kept key held)
      · refine ⟨retried.run (.removeManyFromOfflineQueue _) trivial, ?_⟩
        intro key member
        rcases still key member with accepted | held
        · exact .inl (List.mem_append_left _ accepted)
        · rcases (kept key held).run (.removeManyFromOfflineQueue (syncedQueueIds (validBatch batch) results))
            trivial with stays | gone
          · exact .inr stays
          · left
            obtain ⟨row, dropped, named⟩ := List.mem_map.mp gone
            have listed : lineId key ∈ syncedQueueIds (validBatch batch) results := by
              rw [← named]
              simpa [QueueOp.drops] using (List.mem_filter.mp dropped).2
            exact List.mem_append_right _ (accepted_of_synced valid traced listed)

section

variable {answers : List QueueItem → Except BatchError (List BatchResult)}

theorem SavedLines.batches {all : List (List QueueItem)} (sound : SavedLines w) (lines : ∀ batch ∈ all, LineItems batch)
    (traced : ∀ batch ∈ all, isTraced (validBatch batch) (answers (validBatch batch)) = true) :
    SavedLines (syncBatches now answers all w) := by
  induction all generalizing w with
  | nil => exact sound
  | cons batch rest ih =>
    apply ih
    · exact sound.chunk (lines batch (List.mem_cons_self ..)) (traced batch (List.mem_cons_self ..))
    · intro later member
      exact lines later (List.mem_cons_of_mem _ member)
    · intro later member
      exact traced later (List.mem_cons_of_mem _ member)

def passBatches (queue : List QueueItem) : List (List QueueItem) :=
  batches (getOfflineQueue queue false).length (getOfflineQueue queue false)

theorem SavedLines.sync (sound : SavedLines w)
    (traced : ∀ batch ∈ passBatches w.queue, isTraced (validBatch batch) (answers (validBatch batch)) = true) :
    SavedLines (syncOfflineQueue now answers w) := by
  apply sound.batches _ traced
  intro batch member item inBatch
  apply sound.lines.read
  rw [← flatten_batches (Nat.le_refl (getOfflineQueue w.queue false).length)]
  exact List.mem_flatten.mpr ⟨batch, member, inBatch⟩

end

/-- No call leaves a new line in the local tables alone, and the answers of the passes name the
records that were sent. -/
def ReachesQueue (js : JsRuntime) (decimalPlaces : ℚ → Nat) (w : CountWorld) : CountMove → Prop
  | .create call => LocalIsKnown js decimalPlaces call w
  | .sync _ answers =>
    ∀ batch ∈ passBatches w.queue, isTraced (validBatch batch) (answers (validBatch batch)) = true
  | .session _ => True

/-- In a run that leaves no new line in the local tables alone, every line that was reported as
saved is accepted by the server or stands in the queue that a sync pass sends. -/
theorem savedLine_accepted_or_queued (js : JsRuntime) (decimalPlaces : ℚ → Nat) (iso : Int → String)
    (last : CountWorld)
    (run : Reaches (CountWorld.step js decimalPlaces iso) (ReachesQueue js decimalPlaces) {} last) :
    ∀ key ∈ last.saved, key ∈ last.accepted ∨ InOfflineQueue key last.queue := by
  have sound := run.invariant SavedLines.init fun w move before meets => by
    cases move with
    | create call => exact before.create meets
    | sync now answers => exact before.sync meets
    | session op => exact ⟨before.lines, before.saved⟩
  intro key member
  rcases sound.saved key member with accepted | held
  · exact .inl accepted
  · exact .inr (held.inQueue sound.lines)

/-- A count while the device is offline. -/
def offlineCall : CountLineCall where
  idempotencyKey := some "k"
  generated := ⟨"g", by decide +kernel, by decide⟩
  line := { sessionId := "s", itemCode := "i", countedQty := 2, countedBy := "u", countedAt := "t" }
  fields := []
  ts := 0
  online := false
  onlineAgain := false
  exchange := .unanswered false "offline"
  now := "t"
  suffix := "x"

def acceptAll (batch : List QueueItem) : Except BatchError (List BatchResult) :=
  .ok (batch.map fun item => ⟨true, resolveClientRecordId item, none⟩)

def countedOffline : CountWorld :=
  [CountMove.create offlineCall, .sync "t" acceptAll].foldl (CountWorld.step jsDoubles (fun _ => 0) fun _ => "t") {}

theorem savedLine_kept_locally :
    (¬ ∀ last, Reaches (CountWorld.step jsDoubles (fun _ => 0) fun _ => "t") (fun _ _ => True) {} last →
        ∀ key ∈ last.saved, key ∈ last.accepted ∨ InOfflineQueue key last.queue) ∧
      countedOffline.saved = ["k"] ∧ countedOffline.accepted = [] ∧ countedOffline.queue = [] ∧
      countedOffline.tables.countLineRecords.map (·.eventId) = ["k"] := by
  have saved : countedOffline.saved = ["k"] := by decide +kernel
  have accepted : countedOffline.accepted = [] := by decide +kernel
  have queue : countedOffline.queue = [] := by decide +kernel
  refine ⟨?_, saved, accepted, queue, by decide +kernel⟩
  intro all
  have kept := all countedOffline (Reaches.foldl fun _ _ _ => trivial) "k" (by rw [saved]; exact List.mem_singleton.mpr rfl)
  rw [accepted, queue] at kept
  rcases kept with none | ⟨item, member, _⟩
  · cases none
  · cases member

def lostOnline : CountLineCall := { offlineCall with online := true }

theorem savedLine_accepted_or_queued_sample :
    "k" ∈ (CountWorld.step jsDoubles (fun _ => 0) (fun _ => "t") {} (.create lostOnline)).accepted ∨
      InOfflineQueue "k" (CountWorld.step jsDoubles (fun _ => 0) (fun _ => "t") {} (.create lostOnline)).queue := by
  apply savedLine_accepted_or_queued jsDoubles (fun _ => 0) (fun _ => "t") _ (.next (.create lostOnline) .start _)
  · exact List.mem_singleton.mpr (by decide +kernel)
  · intro stays
    have online : ¬ (lostOnline.online = false ∨ isOfflineId lostOnline.line.sessionId = true) := by decide +kernel
    exact absurd stays.1 online

end StockVerification
