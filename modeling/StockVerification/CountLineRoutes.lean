import StockVerification.WriteCore

/-!
# Count-line routes

Source: backend/api/count_lines_routes.py:126-230, 376-870, 941-960, 1176-1290,
1947-2161, 2679-2808, backend/api/schemas.py:228-307 and
backend/services/logic_guard.py:138-260.

Broadcasts, drafts, observations and the high-risk log are left out. So is the
risk context the creation route computes: the write core computes it again and
overwrites it. The answer of a route also lists how each unit of work it opened
was left.
-/
namespace StockVerification

open Foundation Foundation.Action

structure User where
  username : String
  role : String
  deriving DecidableEq, Repr

def User.isPrivileged (user : User) : Bool := user.role == "supervisor" || user.role == "admin"

/-- An answer and the units of work behind it. -/
structure Answer (α : Type) where
  body : α
  units : List (UnitOfWork.Exit Store) := []

/-- `_get_mutable_session_or_409`. -/
def getMutableSession (sessionId : String) (s : Store) : Except Error Doc :=
  match s.findSession sessionId with
  | none => .error (.http 404 ("Session " ++ sessionId ++ " not found"))
  | some session => do
    require (!isSessionFinalized session) (.http 409 "Session is finalized and cannot be modified")
    pure session

def ensureCountLineMutable (line : Doc) (s : Store) : Except Error Doc := do
  require (!isCountLineLocked line) (.http 409 "Count line is finalized and cannot be modified")
  let session := (s.findSession (line.get "session_id").textOrEmpty).getD Doc.empty
  require (!isSessionFinalized session) (.http 409 "Session is finalized and cannot be modified")
  pure session

/-- `_extract_stored_pin`: whether a valid pin is stored. -/
def extractStoredPin (session : Doc) : Except Error Bool := do
  let version := session.get "logic_version"
  let scope := session.get "logic_scope_source"
  if version = .null ∧ scope = .null then pure false
  else do
    require (version != .null && scope != .null) (.http 409 "missing pin on subsequent write")
    require ([.str "v1", .str "v2"].contains version &&
        [.str "global", .str "warehouse", .str "user_id", .str "session_id"].contains scope)
      (.http 409 "invalid stored session pin")
    pure true

def sessionIdentifier (session : Doc) : Option String :=
  (["id", "session_id"].map fun key => Text.strip (session.get key).textOrEmpty).find? (· != "")

variable (env : Env)

/-- `enforce_session_logic`: the first write to a session without a pin stores one,
which moves the session's version. -/
def enforceSessionLogic (session : Doc) : Request Unit :=
  match env.logicPin with
  | .error refusal => throw (.http 409 refusal)
  | .ok (version, scope) => do
    let pinned ← reads fun _ => extractStoredPin session
    if pinned then pure ()
    else
      match sessionIdentifier session with
      | none => pure ()
      | some id =>
        mapError (fun _ => .http 500 "BL V2 logic guard failure")
          (persistLogicPin env id (.str version) (.str scope) none)

/-- `_enforce_count_line_logic_from_line`. -/
def enforceLogicFromLine (line : Doc) : Request Unit := do
  let id := (line.get "session_id").textOrEmpty
  reads fun _ => require (id != "") (.http 409 "Count line is missing session context")
  let session ← reads (getMutableSession id)
  enforceSessionLogic env session

/-- `recompute_session_totals`: computed and stored without a transaction. -/
def recomputeSessionTotals (sessionId : String) : Request Unit := do
  let totals ← reads fun s => computeSessionTotals s sessionId
  updateSessionTotals env sessionId totals false none true

/-- `_find_count_line`: by id, else by object id. -/
def findCountLine (s : Store) (lineId : String) : Option Doc :=
  (s.countLines.find? (Filter.eq "id" (.str lineId)).holds).or
    (if isObjectIdText lineId then
      s.countLines.find? (Filter.eq "_id" (.oid (Text.lower lineId))).holds else none)

/-- `_find_erp_item_for_count_line`. -/
def findErpItem (s : Store) (barcode itemCode : Value) : Option Doc :=
  (if barcode.truthy then s.erpItems.find? (Filter.eq "barcode" barcode).holds else none).or
    (if itemCode.truthy then s.erpItems.find? (Filter.eq "item_code" itemCode).holds else none)

/-- `_get_erp_item_for_existing_count_line`: a stub where no item is stored. -/
def erpItemForExistingLine (s : Store) (line : Doc) : Doc :=
  (findErpItem s (line.get "barcode") (line.get "item_code")).getD
    (Doc.ofList [("item_code", line.get "item_code"), ("item_name", line.get "item_name"),
      ("category", line.get "category_correction"), ("mrp", line.get "mrp_erp"),
      ("sale_price", line.get "mrp_erp"), ("sales_price", line.get "mrp_erp")])

/-- `CountLineCreate`; `details` holds the fields that are only copied. -/
structure CountLineCreate where
  sessionId : String
  itemCode : String
  countedQty : ℚ
  locationId : Option String := none
  floorId : Option String := none
  rackId : Option String := none
  floorNo : Option String := none
  rackNo : Option String := none
  idempotencyKey : Option String := none
  recountOfId : Option String := none
  barcode : Option String := none
  damagedQty : Option ℚ := some 0
  mrpCounted : Option ℚ := none
  varianceReason : Option String := none
  remark : Option String := none
  correctionReason : Value := .null
  serialNumbers : List String := []
  details : Doc := Doc.empty

namespace CountLineCreate

/-- `str(value).strip() if value else None`. -/
def stripped : Option String → Option String
  | some t => if t = "" then none else some (Text.strip t)
  | none => none

/-- `a or b` on optional texts. -/
def orText (a b : Option String) : Option String :=
  match a with
  | some t => if t = "" then b else some t
  | none => b

/-- `normalize_location_context`: an id is filled from its number, never the number
from the id. -/
def normalizeLocationContext (line : CountLineCreate) : CountLineCreate :=
  let fill (id number : Option String) : Option String :=
    if (optionalText id).truthy || !(optionalText number).truthy then id else number
  { line with
    locationId := stripped line.locationId
    floorId := fill (stripped line.floorId) (stripped line.floorNo)
    rackId := fill (stripped line.rackId) (stripped line.rackNo)
    floorNo := stripped line.floorNo
    rackNo := stripped line.rackNo }

/-- `_normalize_idempotency_key`. -/
def normalizedKey (line : CountLineCreate) : Option String :=
  match line.idempotencyKey with
  | some t => if Text.strip t = "" then none else some (Text.strip t)
  | none => none

/-- The fields of the request that the duplicate lookup reads. -/
def payload (line : CountLineCreate) : Doc :=
  Doc.ofList [("session_id", .str line.sessionId), ("item_code", .str line.itemCode),
    ("floor_no", optionalText line.floorNo), ("rack_no", optionalText line.rackNo),
    ("recount_of_id", optionalText line.recountOfId)]

end CountLineCreate

def ensureSessionAcceptsCounts (session : Doc) : Except Error Unit := do
  require ([.str "OPEN", .str "ACTIVE"].contains (session.get "status")) (.http 400 "Session is not active")
  require (!(session.get "reconciled_at").truthy) (.http 400 "Session is in reconciliation mode")

def findIdempotentCountLine (s : Store) (line : CountLineCreate) : Option Doc :=
  match line.normalizedKey with
  | none => none
  | some key => s.countLines.find? (Filter.both (.eq "session_id" (.str line.sessionId))
      (.eq "idempotency_key" (.str key))).holds

/-- What the creation route knows before it asks for its locks. -/
structure Admission where
  session : Doc
  erpItem : Doc
  erpQty : ℚ
  baselineHash : String
  governance : GovernanceDecision

/-- The item, the frozen baseline and the decision on a new line. -/
def assessCountLine (line : CountLineCreate) (session : Doc) (s : Store) :
    Except Error Admission := do
  let erpItem ← match (findErpItem s (optionalText line.barcode) .null).or
      (s.erpItems.find? (Filter.eq "item_code" (.str line.itemCode)).holds) with
    | some item => Except.ok item
    | none => Except.error (.http 404 "Item not found in ERP")
  let (erpQty, hash) ← resolveBaseline s line.sessionId (Text.strip line.itemCode)
  let governance ← evaluatePolicy s.varianceThresholdConfigs
    { countedQty := line.countedQty, expectedQty := erpQty, item := erpItem
      location := optionalText line.floorId
      varianceReason := optionalText line.varianceReason
      correctionReason := line.correctionReason
      requireCorrectionReason := true }
  pure { session := session, erpItem := erpItem, erpQty := erpQty, baselineHash := hash
         governance := governance }

def resolveRecountTarget (line : CountLineCreate) (s : Store) : Except Error (Option Doc) :=
  match findDuplicateCountLine s.countLines line.payload with
  | none => .ok none
  | some existing =>
    if canReuseRejectedCountLine existing line.payload then .ok (some existing)
    else .error (.http 409 ("Duplicate Scan: This item has already been counted in this specific " ++
      "location (Floor/Rack). Use an explicit recount flow to resubmit it."))

/-- The request fields a document repeats unread. -/
def copiedFields : List String :=
  ["variance_note", "photo_base64", "item_condition", "mark_location", "sr_no",
    "manufacturing_date", "mfg_date_format", "expiry_date", "expiry_date_format",
    "non_returnable_damaged_qty", "photo_proofs", "correction_metadata", "expected_location",
    "found_location", "relocation_status", "split_section", "category_correction",
    "subcategory_correction", "serial_entries"]

def buildCountLineDocument (user : User) (line : CountLineCreate) (a : Admission)
    (target : Option Doc) : Except Error Doc := do
  let old := target.getD Doc.empty
  let step : Int := if target.isSome then 1 else 0
  let version ← intOrError (old.get "version") 1
  let iteration ← intOrError (old.get "recount_iteration") 0
  let previous := optionalText (target.bind extractDocumentId)
  pure (Doc.ofList ([("id", .str env.freshId), ("session_id", .str line.sessionId),
    ("location_id", optionalText line.locationId), ("floor_id", optionalText line.floorId),
    ("rack_id", optionalText line.rackId),
    ("idempotency_key", .str (line.normalizedKey.getD env.freshId)),
    ("recount_of_id", (optionalText line.recountOfId).orElse ((old.get "recount_of_id").orElse previous)),
    ("version", .num (version + step : Int)), ("previous_version_id", previous),
    ("item_code", .str line.itemCode),
    ("barcode", (optionalText line.barcode).orElse (a.erpItem.get "barcode")),
    ("item_name", (a.erpItem "item_name").getD (.str "Unknown")), ("erp_qty", .num a.erpQty),
    ("baseline_hash", .str a.baselineHash), ("counted_qty", .num line.countedQty),
    ("variance", .num a.governance.variance), ("variance_reason", optionalText line.varianceReason),
    ("remark", optionalText line.remark),
    ("damaged_qty", (line.damagedQty.map .num).getD .null),
    ("floor_no", (optionalText line.floorNo).orElse (optionalText line.floorId)),
    ("rack_no", (optionalText line.rackNo).orElse (optionalText line.rackId)),
    ("correction_reason", line.correctionReason),
    ("approval_status", .str a.governance.approvalStatus),
    ("approval_by", a.governance.approvedBy), ("approval_at", a.governance.approvedAt env.now),
    ("rejection_reason", .null), ("is_misplaced", .bool false),
    ("created_by", .str user.username), ("counted_by", .str user.username),
    ("counted_at", .date env.now), ("updated_at", .date env.now),
    ("updated_by", .str user.username), ("mrp_erp", (a.erpItem "mrp").getD (.num 0)),
    ("mrp_counted", (line.mrpCounted.map .num).getD .null),
    ("requires_supervisor_approval", .bool a.governance.requiresSupervisorApproval),
    ("variance_data", a.governance.varianceData.toValue),
    ("violated_thresholds", .rows a.governance.violatedThresholds),
    ("serial_numbers", if line.serialNumbers.isEmpty then .null else .list (line.serialNumbers.map .str)),
    ("status", .str a.governance.status), ("verified", .bool false), ("verified_at", .null),
    ("verified_by", .null), ("approved_by", a.governance.approvedBy),
    ("approved_at", a.governance.approvedAt env.now), ("rejected_by", .null),
    ("rejected_at", .null), ("recount_requested_at", .null), ("recount_requested_by", .null),
    ("assigned_to", .null), ("recount_iteration", .num (iteration + step : Int))] ++
    copiedFields.map fun field => (field, line.details.get field)))

def supersededFields (username : String) (successor : Doc) : Doc :=
  Doc.ofList [("status", .str "SUPERSEDED"), ("superseded_at", .date env.now),
    ("superseded_by", .str username), ("superseded_by_version_id", successor.get "id"),
    ("location_id", successor.get "location_id"), ("floor_id", successor.get "floor_id"),
    ("rack_id", successor.get "rack_id")]

/-- The context of both writes: the session's version may not have moved since the
session was loaded, and the totals are left to the route. -/
def persistContext (username : String) (session : Doc) : WriteContext :=
  { session := some session, username := username, skipSessionTotalsUpdate := true
    expectedSessionVersion := some (coerceVersion (session.get "version")) }

/-- The supersede mark on the line that is replaced, where there is one. -/
def supersedeTarget (committed : Store) (ctx : WriteContext) (successor : Doc) :
    Option Doc → Request Unit
  | none => pure ()
  | some old => do
    let _ ← processWriteCore env committed ctx (.updateOne (.eq "_id" (old.get "_id"))
      (.ofSet (supersededFields env ctx.username successor)))
    pure ()

/-- The block of `_persist_count_line_document`: the new line, then the supersede
mark on the line it replaces. `committed` is the store outside the unit of work. -/
def persistCountLineBlock (committed : Store) (username : String) (session document : Doc)
    (target : Option Doc) : Request Doc := do
  let ctx := persistContext username session
  let result ← processWriteCore env committed ctx (.insertOne document)
  supersedeTarget env committed ctx document target
  pure (result.after.getD document)

/-- `_persist_count_line_document`: the unit of work is left without a commit. -/
def persistCountLineDocument (username : String) (session document : Doc)
    (target : Option Doc) : Request (Doc × UnitOfWork.Exit Store) :=
  UnitOfWork.runObserved env.deployment (UnitOfWork.write (withStore fun s =>
    persistCountLineBlock env s username session document target))

def concurrencyToConflict : Error → Error
  | .concurrency _ =>
    .http 409 "Session was modified concurrently; reload the session and retry."
  | other => other

def maybeUpdateSessionBarcode (line : CountLineCreate) : Request Unit :=
  if !(optionalText line.barcode).truthy then pure ()
  else do
    let session ← reads fun s => pure (s.findSession line.sessionId)
    match session with
    | none => pure ()
    | some session =>
      if (session.get "barcode").truthy then pure ()
      else updateSessionFields env line.sessionId [("barcode", optionalText line.barcode)] none

/-- The creation route once its locks are held. -/
def storeCountLine (user : User) (line : CountLineCreate) (a : Admission) :
    Request (Doc × UnitOfWork.Exit Store) := do
  let target ← reads (resolveRecountTarget line)
  let document ← reads fun _ => buildCountLineDocument env user line a target
  persistCountLineDocument env user.username a.session document target

/-- `create_count_line` on the parsed request body. -/
def createCountLine (user : User) (body : CountLineCreate) : Request (Answer Doc) := do
  let line := body.normalizeLocationContext
  let session ← reads (getMutableSession line.sessionId)
  enforceSessionLogic env session
  reads fun _ => ensureSessionAcceptsCounts session
  let replay ← reads fun s => pure (findIdempotentCountLine s line)
  match replay with
  | some existing => pure { body := existing.erase "_id" }
  | none => do
    let a ← reads (assessCountLine line session)
    reads fun _ => require env.locksGranted (.http 423
      "Item or one of its variants is currently being counted by another user.")
    let (stored, exit) ← mapError concurrencyToConflict (storeCountLine env user line a)
    let _ ← attempt (recomputeSessionTotals env line.sessionId)
    let _ ← attempt (maybeUpdateSessionBarcode env line)
    pure { body := stored.erase "_id", units := [exit] }

structure QuantityChange where
  qty : Option ℚ
  batches : Option Value := none

def batchFields (change : QuantityChange) : List (String × Value) :=
  match change.batches with
  | some v => [("batches", v)]
  | none => []

/-- The guards both routes share: the line and its session. -/
def openLineForChange (user : User) (lineId : String) (payloadCheck : Except Error Unit) :
    Request (Doc × Doc) := do
  let line ← reads fun s => match findCountLine s lineId with
    | some line => .ok line
    | none => .error (.http 404 "Count line not found")
  let session ← reads (ensureCountLineMutable line)
  enforceLogicFromLine env line
  reads fun _ => payloadCheck
  reads fun _ => require (user.isPrivileged || line.get "counted_by" == .str user.username)
    (.http 403 "Not authorized to modify this count line")
  pure (line, session)

/-- `{"_id": …}` and the version, where the line has one. -/
def versionedLineFilter (line : Doc) : Filter :=
  if line.has "version" then
    .both (.eq "_id" (line.get "_id")) (.eq "version" (line.get "version"))
  else .eq "_id" (line.get "_id")

def lineContext (user : User) (line session : Doc) (erpItem : Option Doc) : WriteContext :=
  { session := some session, erpItem := erpItem, username := user.username
    varianceReason := line.get "variance_reason"
    correctionReason := some (line.get "correction_reason")
    location := .str (line.get "floor_no").textOrEmpty }

def addQuantityUpdate (user : User) (qty : ℚ) (change : QuantityChange) : Update :=
  { set := Doc.ofList ([("updated_at", .date env.now), ("updated_by", .str user.username)] ++
      batchFields change)
    inc := [("counted_qty", qty), ("variance", qty), ("version", 1)] }

def addQuantityToCountLine (user : User) (lineId : String) (change : QuantityChange) :
    Request Doc := do
  let qty := change.qty.getD 0
  let (line, session) ← openLineForChange env user lineId
    (require (qty != 0) (.http 400 "additional_qty must be non-zero"))
  let erpItem ← reads fun s => pure (erpItemForExistingLine s line)
  let result ← processWrite env (lineContext user line session (some erpItem))
    (.findOneAndUpdate (versionedLineFilter line) (addQuantityUpdate env user qty change))
  let updated ← reads fun _ => match result.after with
    | some updated => .ok updated
    | none => .error (.http 409 "Count line was modified concurrently or not found")
  let _ ← attempt (recomputeSessionTotals env (line.get "session_id").textOrEmpty)
  pure updated

/-- The quantity `update_count_line` measures the variance against: the live stock
of the item before the line's own frozen quantity. -/
def liveErpQty (erpItem line : Doc) : Except Error ℚ :=
  floatOrError ((erpItem.get "stock_qty").orElse (line.get "erp_qty"))

def updateCountLineFields (user : User) (line : Doc) (change : QuantityChange)
    (s : Store) : Except Error Doc := do
  let stamp := [("updated_at", .date env.now), ("updated_by", .str user.username)]
  match change.qty with
  | none => pure (Doc.ofList (stamp ++ batchFields change))
  | some qty => do
    let erpQty ← liveErpQty (erpItemForExistingLine s line) line
    pure (Doc.ofList ([("counted_qty", .num qty), ("variance", .num (qty - erpQty))] ++ stamp ++ batchFields change))

def updateCountLine (user : User) (lineId : String) (change : QuantityChange) :
    Request Doc := do
  let (line, session) ← openLineForChange env user lineId
    (require (change.qty.isSome || change.batches.isSome) (.http 400 "No updatable fields provided"))
  let fields ← reads (updateCountLineFields env user line change)
  let erpItem ← reads fun s => pure (change.qty.map fun _ => erpItemForExistingLine s line)
  let result ← processWrite env (lineContext user line session erpItem)
    (.findOneAndUpdate (versionedLineFilter line) { set := fields, inc := [("version", 1)] })
  reads fun _ => require result.after.isSome (.http 409 "Document version conflict or document not found")
  let _ ← attempt (recomputeSessionTotals env (line.get "session_id").textOrEmpty)
  pure fields

/-- What became of one source line. -/
inductive MergeOutcome where
  | skipped
  | merged (exit : UnitOfWork.Exit Store)
  | failed (reason : String)

def mergeTargetContext (user : User) (target targetSession erpItem : Doc) : WriteContext :=
  { session := some targetSession, erpItem := some erpItem, username := user.username
    varianceReason := target.get "variance_reason"
    correctionReason := some (target.get "correction_reason")
    location := target.get "floor_no", governanceMode := .mutableSession
    skipSessionTotalsUpdate := true
    expectedSessionVersion := some (coerceVersion (targetSession.get "version")) }

def mergeSourceContext (user : User) (source : Doc) : WriteContext :=
  { sessionId := .str (source.get "session_id").textOrEmpty, username := user.username
    governanceMode := .mutableSession, skipSessionTotalsUpdate := true }

/-- The target takes the quantity; its variance is not touched. -/
def mergeTargetWrite (targetId sourceId : String) (qty : ℚ) : WriteOp :=
  .findOneAndUpdate (.eq "id" (.str targetId))
    { inc := [("counted_qty", qty), ("version", 1)]
      push := [("merged_from", .atom (.str sourceId))] }

/-- The source is marked. -/
def mergeSourceWrite (targetId sourceId : String) (source : Doc) : WriteOp :=
  .findOneAndUpdate (.both (.eq "id" (.str sourceId)) (.eq "version" (source.get "version")))
    { set := Doc.ofList [("merged_into_id", .str targetId), ("merged_at", .date env.now)]
      inc := [("version", 1)] }

def mergeBlock (committed : Store) (user : User) (targetId sourceId : String)
    (target targetSession source : Doc) : Request Unit := do
  let qty ← reads fun _ => floatOrError (source.get "counted_qty")
  let erpItem := erpItemForExistingLine committed target
  let _ ← processWriteCore env committed (mergeTargetContext user target targetSession erpItem)
    (mergeTargetWrite targetId sourceId qty)
  let _ ← processWriteCore env committed (mergeSourceContext user source)
    (mergeSourceWrite env targetId sourceId source)
  pure ()

/-- One source of the loop. A failed block is reported and the loop goes on. -/
def mergeSource (user : User) (targetId : String) (target targetSession : Doc)
    (sourceId : String) : Request MergeOutcome :=
  if sourceId = targetId then pure .skipped
  else do
    let found ← reads fun s => pure (s.countLines.find? (Filter.eq "id" (.str sourceId)).holds)
    match found with
    | none => pure (.failed "Not found")
    | some source => do
      enforceLogicFromLine env source
      if (source.get "session_id").textOrEmpty ≠ (target.get "session_id").textOrEmpty then
        pure (.failed "Cross-session merge is not allowed")
      else do
        let outcome ← attempt (UnitOfWork.runObserved env.deployment (UnitOfWork.write
          (withStore fun s => mergeBlock env s user targetId sourceId target targetSession source)))
        match outcome with
        | .ok (_, exit) => pure (.merged exit)
        | .error _ => pure (.failed "Merge failed")

def MergeOutcome.exit? : MergeOutcome → Option (UnitOfWork.Exit Store)
  | .merged exit => some exit
  | _ => none

/-- The totals after a merge, where anything was merged; a failure is only logged. -/
def recomputeAfterMerge (merged : Bool) (sessionId : String) : Request Unit :=
  if merged && sessionId != "" then do
    let _ ← attempt (recomputeSessionTotals env sessionId)
    pure ()
  else pure ()

/-- `merge_count_lines`; the answer is a success whatever became of the sources. -/
def mergeCountLines (user : User) (sourceIds : List String) (targetId : String) :
    Request (Answer (List MergeOutcome)) := do
  reads fun _ => require user.isPrivileged (.http 403 "Supervisor access required")
  let target ← reads fun s => match s.countLines.find? (Filter.eq "id" (.str targetId)).holds with
    | some target => .ok target
    | none => .error (.http 404 "Target count line not found")
  enforceLogicFromLine env target
  let targetSession ← reads (ensureCountLineMutable target)
  reads fun _ => (floatOrError (target.get "counted_qty")).map fun _ => ()
  let outcomes ← sourceIds.mapM (mergeSource env user targetId target targetSession)
  let units := outcomes.filterMap MergeOutcome.exit?
  recomputeAfterMerge env (!units.isEmpty) (target.get "session_id").textOrEmpty
  pure { body := outcomes, units := units }

/-- An active session with a pin, its frozen baseline and the one item it counts. -/
def countingStore : Store where
  sessions := [Doc.ofList [("id", .str "S1"), ("session_id", .str "S1"), ("status", .str "ACTIVE"),
    ("version", .num 2), ("logic_version", .str "v1"), ("logic_scope_source", .str "global")]]
  erpItems := [Doc.ofList [("_id", .oid "a1"), ("item_code", .str "I1"), ("item_name", .str "Bolt"),
    ("barcode", .str "890001"), ("stock_qty", .num 12), ("category", .str "Hardware"),
    ("last_cost", .num 5)]]
  sessionSnapshots := [Doc.ofList [("session_id", .str "S1"), ("snapshot_hash", .str "h1"),
    ("items", .rows [[("item_code", .str "I1"), ("stock_qty", .num 10)]])]]

/-- A count of that item that agrees with the baseline. -/
def exactCount : CountLineCreate where
  sessionId := "S1"
  itemCode := "I1"
  countedQty := 10
  locationId := some "W1"
  floorNo := some "F1"
  rackNo := some "R1"
  remark := some "ok"

def counter : User := { username := "asha", role := "staff" }

end StockVerification
