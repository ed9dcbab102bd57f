import StockVerification.StorageFaults

/-!
# Refused count lines

Source: frontend/src/services/api/inventoryWorkflowApi.ts:802-843, 912-934, 968-1031,
frontend/src/services/control-plane/countLineControlPlane.ts:116-146, 187-311,
frontend/src/services/offline/offlineStorage.ts:834-861 and
frontend/src/data/repositories/inventoryControlPlaneRepository.ts:172-205.

The policies and the registry of serial numbers refuse a line by an error. The caller takes every
error without a response of the server for a failed connection.
-/
namespace StockVerification

open Foundation Foundation.Action

/-- What can be thrown on the way of a count line. -/
inductive CreateError where
  | policy (error : InventoryPolicyError)
  | constraint
  | rejected (status : Nat) (message : String)
  | network (message : String)
  | bothFailed
  deriving DecidableEq

/-- `error.response` is there. -/
def CreateError.hasResponse : CreateError → Bool
  | .rejected .. => true
  | _ => false

/-- What a count line meets on the device. -/
structure CountDevice where
  storage : DeviceStorage := {}
  tables : LocalDb := {}
  sessions : SessionDb := {}

def hasMeaningfulCountLineName (call : CountLineCall) : Bool :=
  let name := trim (call.line.itemName.getD "")
  let lowered := Text.lower name
  name != "" && lowered != "unknown item" && lowered != "n/a" && name != call.line.itemCode &&
    call.fields.field "barcode" != .str name

def resolveCountLineItemName (call : CountLineCall) (s : DeviceStorage) : String :=
  if hasMeaningfulCountLineName call then trim (call.line.itemName.getD "")
  else (s.getItemFromCache call.line.itemCode false).getD "Unknown Item"

def buildCachedCountLine (event : LineEvent) : RecordData :=
  [("_id", .str event.id), ("idempotency_key", .str event.id),
    ("session_id", .str event.payload.sessionId), ("item_code", .str event.payload.itemCode),
    ("item_name", .str ((firstFilled [event.payload.itemName]).getD event.payload.itemCode)),
    ("counted_qty", .num event.payload.countedQty), ("counted_by", .str event.payload.countedBy),
    ("counted_at", .str event.payload.countedAt),
    ("floor_no", (event.payload.floorNo.map Value.str).getD .null),
    ("rack_no", (event.payload.rackNo.map Value.str).getD .null),
    ("rack", ((firstFilled [event.payload.rackNo]).map Value.str).getD .null), ("verified", .bool false),
    ("cached_at", .str event.payload.countedAt),
    ("audit", .dict [("created_offline", .bool (event.payload.syncStatus != .synced)),
      ("idempotency_key", .str event.id)])]

namespace DeviceStorage

def removeCountLineFromCache (sessionId lineId : String) (s : DeviceStorage) : DeviceStorage :=
  let sessionLines := (s.countLinesCache.lookup sessionId).getD []
  let filteredLines := sessionLines.filter fun line => line.field "_id" != .str lineId
  if filteredLines.length = sessionLines.length then s
  else { s with
    countLinesCache := (sessionId, filteredLines) :: s.countLinesCache.filter (·.1 != sessionId) }

end DeviceStorage

namespace CountDevice

def cache (line : RecordData) (now : String) (d : CountDevice) : CountDevice :=
  { d with storage := (d.storage.cacheCountLine line now {}).2 }

section submission

variable (js : JsRuntime) (decimalPlaces : ℚ → Nat)

/-- A failed request of the command: an answer 4xx drops the line, anything else leaves it to a
later sync. -/
def rejected (event : LineEvent) (status : Nat) (message : String) (d : CountDevice) :
    Except CreateError RecordData × CountDevice :=
  if 400 ≤ status ∧ status < 500 then
    let marked := (markInventoryEventFailed event.id message).final d.tables
    let dropped :=
      { d with
        storage := d.storage.removeCountLineFromCache event.payload.sessionId event.id
        tables := (rebuildInventoryProjections js).final marked }
    (.error (if (rebuildInventoryProjections js).succeeds marked then .rejected status message else .constraint),
      dropped)
  else
    (.ok (buildCachedCountLine event), { d with tables := (markInventoryEventRetry event.id message).final d.tables })

/-- The request of the command. -/
def post (call : CountLineCall) (responseData : RecordData) (event : LineEvent) (d : CountDevice) :
    Except CreateError RecordData × CountDevice :=
  match call.exchange with
  | .accepted serverLineId =>
    let synced := (markInventoryEventSynced event.id).final d.tables
    let bound := { d with tables := (bindInventoryServerLineId event.id serverLineId).final synced }
    let syncedEvent := { event with payload := { event.payload with syncStatus := .synced } }
    (.ok responseData, bound.cache (buildCachedCountLine syncedEvent) call.now)
  | .refused status message => d.rejected js event status message
  | .unanswered _ message =>
    (.ok (buildCachedCountLine event), { d with tables := (markInventoryEventRetry event.id message).final d.tables })

def submitCountLineCommand (call : CountLineCall) (responseData : RecordData) (d : CountDevice) :
    Except CreateError RecordData × CountDevice :=
  match enforceCountLinePolicies js decimalPlaces call.line with
  | .error error => (.error (.policy error), d)
  | .ok () =>
    let event := buildCountLineEvent call d.sessions
    if (recordInventoryEvent js event).succeeds d.tables then
      let recorded := { d with tables := (recordInventoryEvent js event).final d.tables }
      let cached := recorded.cache (buildCachedCountLine event) call.now
      if call.onlineAgain ∧ (resolveServerSessionId d.sessions event.payload.sessionId).isSome then
        cached.post js call responseData event
      else (.ok (buildCachedCountLine event), cached)
    else (.error .constraint, d)

/-- The `try` of `createCountLine`. -/
def attempt (call : CountLineCall) (responseData : RecordData) (d : CountDevice) :
    Except CreateError RecordData × CountDevice :=
  if call.online = false ∨ isOfflineId call.line.sessionId then
    d.submitCountLineCommand js decimalPlaces call responseData
  else
    match call.exchange with
    | .accepted _ => (.ok responseData, d.cache responseData call.now)
    | .refused status message => (.error (.rejected status message), d)
    | .unanswered _ message => (.error (.network message), d)

/-- `createCountLine`: its `catch` saves the line offline, unless the error has a response. -/
def createCountLine (call : CountLineCall) (responseData : RecordData) (d : CountDevice) :
    Except CreateError RecordData × CountDevice :=
  match d.attempt js decimalPlaces call responseData with
  | (.ok line, after) => (.ok line, after)
  | (.error error, after) =>
    if error.hasResponse then (.error error, after)
    else
      let name := resolveCountLineItemName call after.storage
      match after.storage.createOfflineCountLine call (some name) {} with
      | (.ok line, storage) => (.ok line, { after with storage := storage })
      | (.error _, storage) => (.error .bothFailed, { after with storage := storage })

/-- The refusal of a line by the policies or, if they accept it, by the registry of serial
numbers. -/
def refusal (call : CountLineCall) (d : CountDevice) : Option CreateError :=
  match enforceCountLinePolicies js decimalPlaces call.line with
  | .error error => some (.policy error)
  | .ok () =>
    if (recordInventoryEvent js (buildCountLineEvent call d.sessions)).succeeds d.tables then none
    else some .constraint

end submission

section refusals

variable {js : JsRuntime} {decimalPlaces : ℚ → Nat} {call : CountLineCall} {d : CountDevice}
  {error : CreateError}

/-- A refusal comes from no server. -/
theorem refusal_local (refused : d.refusal js decimalPlaces call = some error) :
    (enforceCountLinePolicies js decimalPlaces call.line = .ok () ∧
      (recordInventoryEvent js (buildCountLineEvent call d.sessions)).succeeds d.tables ≠ true ∧ error = .constraint) ∨
    ∃ broken, enforceCountLinePolicies js decimalPlaces call.line = .error broken ∧ error = .policy broken := by
  unfold refusal at refused
  cases policies : enforceCountLinePolicies js decimalPlaces call.line with
  | error broken =>
    rw [policies] at refused
    cases refused
    exact .inr ⟨broken, rfl, rfl⟩
  | ok _ =>
    rw [policies] at refused
    dsimp only at refused
    split at refused
    · cases refused
    · next taken =>
      cases refused
      exact .inl ⟨rfl, taken, rfl⟩

variable (responseData : RecordData)

/-- The command throws the refusal and leaves the device as it was. -/
theorem submit_refused (refused : d.refusal js decimalPlaces call = some error) :
    d.submitCountLineCommand js decimalPlaces call responseData = (.error error, d) := by
  unfold submitCountLineCommand
  obtain ⟨policies, taken, rfl⟩ | ⟨broken, policies, rfl⟩ := refusal_local refused
  · rw [policies]
    dsimp only
    rw [if_neg taken]
  · rw [policies]

theorem refusal_noResponse (refused : d.refusal js decimalPlaces call = some error) : error.hasResponse = false := by
  rcases refusal_local refused with ⟨_, _, rfl⟩ | ⟨_, _, rfl⟩
  · rfl
  · rfl

theorem attempt_refused
    (offline : call.online = false ∨ isOfflineId call.line.sessionId = true)
    (refused : d.refusal js decimalPlaces call = some error) :
    d.attempt js decimalPlaces call responseData = (.error error, d) := by
  rw [attempt, if_pos offline]
  exact submit_refused responseData refused

/-- The fallback always reports its line. -/
theorem createCountLine_fallback {responseData : RecordData} {after : CountDevice}
    (attempted : d.attempt js decimalPlaces call responseData = (.error error, after))
    (noResponse : error.hasResponse = false) :
    ∃ line, (d.createCountLine js decimalPlaces call responseData).1 = .ok line ∧
      LineQueued line (d.createCountLine js decimalPlaces call responseData).2.storage.offlineQueue := by
  obtain ⟨ends, queue⟩ := createOfflineCountLine_ends call (some (resolveCountLineItemName call after.storage)) {}
    after.storage
  rw [if_neg (by decide)] at queue
  unfold createCountLine
  rw [attempted]
  dsimp only
  rw [if_neg (by simp [noResponse])]
  generalize after.storage.createOfflineCountLine call (some (resolveCountLineItemName call after.storage)) {} =
    outcome at ends queue
  obtain ⟨answer, storage⟩ := outcome
  cases ends
  refine ⟨_, rfl, ?_⟩
  change LineQueued _ storage.offlineQueue
  rw [show storage.offlineQueue = _ from queue]
  exact lineQueued_add _ _ _ _

/-- No refusal is reported: the line is saved offline, or the checks are not made at all. -/
theorem createCountLine_not_refused
    (refused : d.refusal js decimalPlaces call = some error) :
    (d.createCountLine js decimalPlaces call responseData).1 ≠ .error error := by
  intro reported
  by_cases offline : call.online = false ∨ isOfflineId call.line.sessionId = true
  · have attempted := attempt_refused responseData offline refused
    obtain ⟨line, returned, _⟩ := createCountLine_fallback attempted (refusal_noResponse refused)
    rw [returned] at reported
    cases reported
  · cases met : call.exchange with
    | accepted serverLineId =>
      rw [createCountLine, attempt, if_neg offline, met] at reported
      cases reported
    | refused status message =>
      rw [createCountLine, attempt, if_neg offline, met] at reported
      cases reported
      cases refusal_noResponse refused
    | unanswered executed message =>
      have attempted : d.attempt js decimalPlaces call responseData = (.error (.network message), d) := by
        rw [attempt, if_neg offline, met]
      obtain ⟨line, returned, _⟩ := createCountLine_fallback attempted rfl
      rw [returned] at reported
      cases reported

end refusals

/-- A refusal is reported and leaves the cached lines and the offline queue alone. -/
def RefusalFinal (js : JsRuntime) (decimalPlaces : ℚ → Nat) (call : CountLineCall)
    (responseData : RecordData) (d : CountDevice) : Prop :=
  ∀ error, d.refusal js decimalPlaces call = some error →
    (d.createCountLine js decimalPlaces call responseData).1 = .error error ∧
      (d.createCountLine js decimalPlaces call responseData).2.storage.countLinesCache = d.storage.countLinesCache ∧
      (d.createCountLine js decimalPlaces call responseData).2.storage.offlineQueue = d.storage.offlineQueue

/-- A refusal is final on no line that is refused. -/
theorem refusal_final_iff (js : JsRuntime) (decimalPlaces : ℚ → Nat) (call : CountLineCall)
    (responseData : RecordData) (d : CountDevice) :
    RefusalFinal js decimalPlaces call responseData d ↔ d.refusal js decimalPlaces call = none := by
  constructor
  · intro final
    cases refused : d.refusal js decimalPlaces call with
    | none => rfl
    | some error => exact absurd (final error refused).1 (createCountLine_not_refused responseData refused)
  · intro accepted error refused
    rw [accepted] at refused
    cases refused

end CountDevice

def negativeCall : CountLineCall := { offlineCall with line := { offlineCall.line with countedQty := -1 } }

/-- It is refused, and saved offline all the same. -/
theorem refused_line_saved :
    ({} : CountDevice).refusal jsDoubles (fun _ => 0) negativeCall =
        some (.policy ⟨"INVALID_QUANTITY", "Counted quantity must be a non-negative finite number."⟩) ∧
      (({} : CountDevice).createCountLine jsDoubles (fun _ => 0) negativeCall []).1.isOk = true ∧
      (({} : CountDevice).createCountLine jsDoubles (fun _ => 0) negativeCall []).2.storage.offlineQueue.length = 1 ∧
      ¬ CountDevice.RefusalFinal jsDoubles (fun _ => 0) negativeCall [] {} := by
  have refused : ({} : CountDevice).refusal jsDoubles (fun _ => 0) negativeCall =
      some (.policy ⟨"INVALID_QUANTITY", "Counted quantity must be a non-negative finite number."⟩) := rfl
  refine ⟨refused, by decide +kernel, by decide +kernel, ?_⟩
  intro final
  have unchanged := (final _ refused).2.2
  revert unchanged
  decide +kernel

end StockVerification
