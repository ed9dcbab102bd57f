import StockVerification.RecountRoutes

/-!
# Batch sync and conflict resolution

Source: backend/api/sync_batch_api.py:41-555, 831-841, 1006-1056 and
backend/services/sync_conflicts_service.py:26-545.

The rate limiter and the circuit breaker decide before a batch is looked at and
are left out. Every record of a batch comes with the surroundings it is processed
in: the clock moves and each insert takes a fresh id.
-/
namespace StockVerification

open Foundation Foundation.Action

variable (env : Env)

/-- `detect_conflict`: nothing is recorded where no common field differs. -/
def detectConflict (entityType entityId : String)
    (localData serverData : List (String × Value)) : Request Unit :=
  writes fun s => .ok
    (if localData.any fun entry =>
        ((serverData.lookup entry.1).map (· != entry.2)).getD false then
      { s with syncConflicts := s.syncConflicts ++
        [{ id := env.freshOid, entityType := entityType, entityId := entityId
           localData := localData, serverData := serverData }] }
    else s)

/-- `SyncRecord`. The time stamps are the instants their texts parse to, `none` where
`fromisoformat` raises. -/
structure SyncRecord where
  clientRecordId : String
  sessionId : String
  locationId : String
  floorId : String
  rackId : String
  floor : Option String := none
  itemCode : String
  verifiedQty : ℚ
  damagedQty : ℚ := 0
  serialNumbers : List String := []
  mfgDate : Option String := none
  mrp : Option ℚ := none
  uom : Option String := none
  category : Option String := none
  subcategory : Option String := none
  itemCondition : Option String := none
  evidencePhotos : List String := []
  remark : Option String := none
  status : String := "finalized"
  createdAt : Option Int := some 0
  updatedAt : Option Int := some 0

def normalizeSerialNumbers (values : List String) : List String :=
  values.foldl (fun known value =>
    let serial := Text.upper (Text.strip value)
    if serial = "" ∨ known.contains serial then known else known ++ [serial]) []

def SyncRecord.normalized (record : SyncRecord) : SyncRecord :=
  { record with serialNumbers := normalizeSerialNumbers record.serialNumbers }

def optionalNumber : Option ℚ → Value
  | some q => .num q
  | none => .null

/-- The fields of `model_dump` that a server document may also carry. -/
def SyncRecord.localData (record : SyncRecord) : List (String × Value) :=
  [("session_id", .str record.sessionId), ("item_code", .str record.itemCode), ("status", .str record.status)]

structure SyncConflict where
  clientRecordId : String
  conflictType : String
  message : String
  deriving DecidableEq, Repr

/-- The first serial of the record that some document already holds. -/
def conflictingSerial (s : Store) (record : SyncRecord) : Option Doc :=
  record.serialNumbers.findSome? fun serial =>
    (findSerialConflict s (.str serial) (.str record.itemCode) none).filter fun existing =>
      existing.get "client_record_id" != .str record.clientRecordId

/-- `validate_record`. `rackOwner` is the lock manager's answer. -/
def validateRecord (rackOwner : String → Option String) (userId : String)
    (record : SyncRecord) : Request (Option SyncConflict) := do
  let conflicting ← reads fun s => pure (conflictingSerial s record)
  match conflicting with
  | some existing => do
    detectConflict env "item_serial" "None" record.localData
      [("session_id", existing.get "session_id"), ("item_code", existing.get "item_code"),
        ("status", existing.get "status")]
    pure (some { clientRecordId := record.clientRecordId, conflictType := "duplicate_serial"
                 message := "Serial already exists for this item." })
  | none =>
    if record.verifiedQty < record.damagedQty then
      pure (some { clientRecordId := record.clientRecordId, conflictType := "invalid_quantity"
                   message := "Damage quantity cannot exceed verified quantity" })
    else if record.rackId ≠ "" ∧ (rackOwner record.rackId).any fun owner =>
        owner != "" && owner != userId then
      pure (some { clientRecordId := record.clientRecordId, conflictType := "rack_locked"
                   message := "Rack " ++ record.rackId ++ " is locked by another user" })
    else pure none

/-- The quantity of a record: the number of its serials where it has any. -/
def SyncRecord.countedQty (record : SyncRecord) : ℚ :=
  if record.serialNumbers.isEmpty then record.verifiedQty else record.serialNumbers.length

def syncDocument (user : User) (record : SyncRecord) (floorId rackId locationId : String)
    (countedAt updatedAt : Int) : Doc :=
  let isFinalized := Text.lower (Text.strip record.status) == "finalized"
  let isApproved := isFinalized && user.hasAuthority
  Doc.ofList [("id", .str env.freshId), ("client_record_id", .str record.clientRecordId),
    ("idempotency_key", .str record.clientRecordId), ("session_id", .str record.sessionId),
    ("location_id", .str locationId), ("floor_id", .str floorId), ("rack_id", .str rackId),
    ("floor_no", .str floorId), ("rack_no", .str rackId), ("item_code", .str record.itemCode),
    ("counted_qty", .num record.countedQty), ("damaged_qty", .num record.damagedQty),
    ("serial_numbers", .list (record.serialNumbers.map .str)),
    ("manufacturing_date", optionalText record.mfgDate), ("mrp", optionalNumber record.mrp),
    ("uom", optionalText record.uom), ("category", optionalText record.category),
    ("subcategory", optionalText record.subcategory),
    ("item_condition", optionalText record.itemCondition),
    ("evidence_photos", .list (record.evidencePhotos.map .str)),
    ("status", .str (if isFinalized then "locked" else "pending")),
    ("approval_status", .str (if isApproved then "APPROVED" else "PENDING")),
    ("verified", .bool isFinalized),
    ("verified_by", if isFinalized then .str user.username else .null),
    ("verified_at", if isFinalized then .date updatedAt else .null),
    ("finalized_by", if isApproved then .str user.username else .null),
    ("finalized_at", if isApproved then .date updatedAt else .null),
    ("counted_at", .date countedAt), ("updated_at", .date updatedAt),
    ("sync_status", .str "synced"), ("synced_by", .str user.username),
    ("synced_at", .num env.now), ("version", .num 1), ("previous_version_id", .null),
    ("recount_of_id", .null),
    ("remark", (optionalText record.remark).orElse (.str "offline-sync"))]

def countLineIsIdempotent (s : Store) (sessionId : String) (line : Doc) : Bool :=
  (line.get "idempotency_key").truthy && s.countLines.any (Filter.both
    (.eq "session_id" (.str sessionId)) (.eq "idempotency_key" (line.get "idempotency_key"))).holds

/-- The new version `_handle_duplicate_count_line` builds. -/
def duplicateSuccessor (line existing : Doc) : Except Error Doc := do
  let version ← intOrError (existing.get "version") 1
  let iteration ← intOrError (existing.get "recount_iteration") 0
  let previous := (extractDocumentId existing).getD (existing.get "_id").text
  pure ((line.erase "_id").setAll [("id", .str env.freshId), ("status", .str "pending"),
    ("approval_status", (line.get "approval_status").orElse (.str "PENDING")),
    ("verified", .bool false), ("verified_by", .null), ("verified_at", .null),
    ("rejected_by", .null), ("rejected_at", .null), ("assigned_to", .null),
    ("recount_requested_at", .null), ("recount_requested_by", .null),
    ("recount_iteration", .num (iteration + 1 : Int)), ("version", .num (version + 1 : Int)),
    ("previous_version_id", .str previous),
    ("recount_of_id", (existing.get "recount_of_id").orElse ((existing.get "id").orElse (.str previous)))])

def handleDuplicateBlock (committed : Store) (sessionId username : String)
    (session successor existing : Doc) : Request Unit := do
  let ctx := sessionContext username session
  let _ ← processWriteCore env committed { ctx with skipSessionTotalsUpdate := true } (.insertOne successor)
  let _ ← processWriteCore env committed { ctx with sessionId := .str sessionId }
    (.updateOne (.eq "_id" (existing.get "_id")) (.ofSet (supersededFields env username successor)))
  pure ()

/-- `_handle_duplicate_count_line`: left without a commit. -/
def handleDuplicateCountLine (sessionId username : String) (session line existing : Doc) :
    Request (Answer String) := do
  reads fun _ => require (canReuseRejectedCountLine existing line) (.value
    "Duplicate Scan: This item has already been counted in this specific location (Floor/Rack).")
  let successor ← reads fun _ => duplicateSuccessor env line existing
  let (_, exit) ← UnitOfWork.runObserved env.deployment (UnitOfWork.write (withStore fun s =>
    handleDuplicateBlock env s sessionId username session successor existing))
  pure { body := "Rejected count line superseded by new recount version", units := [exit] }

/-- The body of `sync_single_record`, before its errors become answers. -/
def syncRecordBody (user : User) (record : SyncRecord) : Request Unit := do
  let session ← reads (ensureSessionActive record.sessionId)
  let owner := Text.strip (session.get "staff_user").textOrEmpty
  reads fun _ => require (user.hasAuthority || owner == "" || owner == user.username)
    (.value "Not authorized to sync records for this session")
  let floorId := Text.strip (if record.floorId = "" then record.floor.getD "" else record.floorId)
  let rackId := Text.strip record.rackId
  let locationId := Text.strip record.locationId
  reads fun _ => require (locationId != "" && floorId != "" && rackId != "")
    (.value "CRITICAL: location_id, floor_id, and rack_id are required for sync writes")
  let times ← reads fun _ => match record.createdAt, record.updatedAt with
    | some countedAt, some updatedAt => .ok (countedAt, updatedAt)
    | _, _ => .error (.value "Invalid isoformat string")
  reads fun _ => require (decide (record.damagedQty ≤ record.countedQty)) (.value "damaged_qty exceeds counted_qty")
  let document := syncDocument env user record floorId rackId locationId times.1 times.2
  let replay ← reads fun s => pure (countLineIsIdempotent s record.sessionId document)
  if replay then pure ()
  else do
    let duplicate ← reads fun s => pure (findDuplicateCountLine s.countLines document)
    match duplicate with
    | some existing => do
      let _ ← handleDuplicateCountLine env record.sessionId user.username session document existing
      pure ()
    | none => do
      let _ ← processWrite env (sessionContext user.username session) (.insertOne document)
      pure ()

def errorText : Error → String
  | .http _ detail => detail
  | .governance message => message
  | .concurrency message => message
  | .value message => message
  | .database _ => "database error"

/-- `sync_single_record`: every error is caught and becomes its text. -/
def syncSingleRecord (user : User) (record : SyncRecord) : Request (Except String Unit) := do
  let outcome ← attempt (syncRecordBody env user record)
  pure (outcome.mapError errorText)

/-- What a record is answered. -/
inductive RecordAnswer where
  | ok (clientRecordId : String)
  | conflict (conflict : SyncConflict)
  | error (clientRecordId message : String)
  deriving DecidableEq, Repr

/-- The operation record of an accepted record; its unique index can refuse it. -/
def recordOperation (clientRecordId : String) : Request Unit :=
  writes fun s => do
    let operations ← liftFault (Collection.insertOne operationIndexes
      (Doc.ofList [("_id", .oid env.freshOid), ("operation_id", .str clientRecordId),
        ("created_at", .date env.now)]) s.idempotencyOperations)
    pure { s with idempotencyOperations := operations }

/-- One round of the loop of `sync_batch`; `known` are the operation ids fetched
before the loop. -/
def syncBatchRecord (rackOwner : String → Option String) (user : User) (known : List String)
    (env : Env) (record : SyncRecord) : Request RecordAnswer :=
  if known.contains record.clientRecordId then pure (.ok record.clientRecordId)
  else do
    let conflict ← validateRecord env rackOwner user.username record
    match conflict with
    | some conflict => pure (.conflict conflict)
    | none => do
      let outcome ← syncSingleRecord env user record
      match outcome with
      | .ok () => do
        recordOperation env record.clientRecordId
        pure (.ok record.clientRecordId)
      | .error message => pure (.error record.clientRecordId message)

def knownOperations (s : Store) (ids : List String) : List String :=
  ids.filter fun id => s.idempotencyOperations.any (Filter.eq "operation_id" (.str id)).holds

/-- `sync_batch`: an error outside the records' own handling answers 500 for all. -/
def syncBatch (rackOwner : String → Option String) (user : User) (records : List (Env × SyncRecord)) :
    Request (List RecordAnswer) := do
  reads fun _ => require (!records.isEmpty) (.http 400 "No records provided for batch sync")
  mapError (fun e => .http 500 ("Batch sync failed: " ++ errorText e)) do
    let known ← reads fun s =>
      pure (knownOperations s (records.map fun entry => entry.2.clientRecordId))
    records.mapM fun entry => syncBatchRecord rackOwner user known entry.1 entry.2.normalized

inductive ConflictResolution where
  | acceptServer
  | acceptLocal
  | merge
  | ignore
  deriving DecidableEq, Repr

def ConflictResolution.name : ConflictResolution → String
  | .acceptServer => "accept_server"
  | .acceptLocal => "accept_local"
  | .merge => "merge"
  | .ignore => "ignore"

def entityLookup (entityId : String) : Filter :=
  if isObjectIdText entityId then .eq "_id" (.oid (Text.lower entityId))
  else .eq "id" (.str entityId)

/-- The fields a resolution may not set on a count line. -/
def blockedLineFields : List String :=
  ["_id", "id", "session_id", "version", "previous_version_id", "recount_of_id", "counted_qty",
    "damaged_qty", "erp_qty", "baseline_hash", "superseded_at", "superseded_by",
    "superseded_by_version_id", "finalized_at", "finalized_by"]

def blockedSessionFields : List String :=
  ["_id", "id", "session_id", "version", "finalized_at", "finalized_by"]

def sanitizeFields (blocked : List String) (data : List (String × Value)) : List (String × Value) :=
  data.filter fun entry => !blocked.contains entry.1

/-- `_normalize_serials` of the conflicts service. -/
def conflictSerials (d : Doc) : List String :=
  match d.get "serial_numbers" with
  | .list items => ((items.map fun item => Text.upper (Text.strip item.toValue.text)).filter
      (· != "")).dedup
  | _ => []

/-- The id of a batch row. -/
def batchId (row : Row) : String :=
  Text.strip ((((row.lookup "batch_id").getD .null).toValue.orElse
    ((row.lookup "batch_no").getD .null).toValue).textOrEmpty)

/-- `_normalize_batches`: a row without an id is refused, a repeated id dropped. -/
def normalizeBatches (d : Doc) : Except Error (List Row) :=
  match d.get "batches" with
  | .rows rows => do
    require (rows.all fun row => batchId row != "") (.value
      "BATCH_ID_REQUIRED: batch-controlled items must supply an explicit batch_id")
    pure (rows.foldl (fun kept row =>
      if kept.any fun other => batchId other == batchId row then kept
      else kept ++ [("batch_id", .str (batchId row)) :: row.filter (·.1 != "batch_id")]) [])
  | _ => pure []

/-- The quantity the data states, else the stored one. -/
def incomingQty (data : List (String × Value)) (current : ℚ) : Except Error ℚ :=
  match (data.lookup "counted_qty").getD .null with
  | .null => .ok current
  | v => match v.number with
    | some q => .ok q
    | none => .error (.value "could not convert string to float")

/-- The `$set` document of a resolution on a count line. A quantity is set only
where it differs from the stored one. -/
def resolvedLineFields (line : Doc) (data : List (String × Value)) :
    Except Error Doc := do
  let fields := Doc.ofList (sanitizeFields blockedLineFields data)
  let current ← floatOrError (line.get "counted_qty")
  let incoming ← incomingQty data current
  let serials := conflictSerials fields
  require (serials.isEmpty || (serials.all (conflictSerials line).contains &&
      (conflictSerials line).all serials.contains))
    (.value "SERIAL_CONFLICT_REJECTED: serial conflicts require client retry")
  let stored ← normalizeBatches line
  let offered ← normalizeBatches fields
  let additive := offered.filter fun row => !stored.any fun other => batchId other == batchId row
  let plain := (fields.erase "serial_numbers").erase "serial_entries"
  let withBatches := if additive.isEmpty then plain else plain.set "batches" (.rows (stored ++ additive))
  let withQty := if incoming = current then withBatches else withBatches.set "counted_qty" (.num incoming)
  pure ((withQty.set "updated_at" (.date env.now)).set "conflict_resolved" (.bool true))

def findSessionForEntity (s : Store) (entityId : String) : Option Doc :=
  (s.sessions.find? (entityLookup entityId).holds).or (s.findSession entityId)

/-- A status in the data becomes a transition of the session. -/
def resolveSessionStatus (sessionId : String) (session : Doc) :
    Option Value → Request Unit
  | some (.str status) =>
    if Text.strip status = "" ∨ Text.upper (Text.strip status) =
        Text.upper (Text.strip (session.get "status").textOrEmpty) then pure ()
    else do
      let _ ← transitionSessionCore env sessionId (Text.upper (Text.strip status))
        "conflict_resolver" (some "Sync conflict resolution") none
      pure ()
  | _ => pure ()

/-- The session branch of `_apply_resolved_data`. -/
def applyResolvedSession (entityId : String) (session : Doc)
    (data : List (String × Value)) : Request Unit := do
  let sessionId := ((session.get "id").orElse ((session.get "session_id").orElse (.str entityId))).text
  let fields := sanitizeFields blockedSessionFields data
  resolveSessionStatus env sessionId session (fields.lookup "status")
  updateSessionFields env sessionId ([("updated_at", .date env.now),
    ("conflict_resolved", .bool true)] ++ fields.filter fun entry =>
      !(["status", "updated_at", "conflict_resolved"].contains entry.1)) none

def resolverContext (line : Doc) : WriteContext :=
  { sessionId := .str (line.get "session_id").textOrEmpty, username := "conflict_resolver"
    governanceMode := .mutableSession }

/-- `_apply_resolved_data`. An entity that is not found, or of another type, is
only logged. -/
def applyResolvedData (committed : Store) (entityType entityId : String)
    (data : List (String × Value)) : Request Unit :=
  if entityType = "session" then do
    let found ← reads fun s => pure (findSessionForEntity s entityId)
    match found with
    | none => pure ()
    | some session => applyResolvedSession env entityId session data
  else if entityType = "count_line" then do
    let found ← reads fun s => pure (s.countLines.find? (entityLookup entityId).holds)
    match found with
    | none => pure ()
    | some line => do
      let fields ← reads fun _ => resolvedLineFields env line data
      let _ ← processWriteCore env committed (resolverContext line)
        (.updateOne (entityLookup entityId) (.ofSet fields))
      pure ()
  else if entityType = "item" then
    writes fun s => do
      let payload := ((Doc.ofList data).set "updated_at" (.date env.now)).set "conflict_resolved" (.bool true)
      let (_, items) ← liftFault (Collection.updateOne [{ field := "_id" }] (entityLookup entityId)
        (.ofSet payload) s.erpItems)
      pure { s with erpItems := items }
  else pure ()

/-- The data a resolution applies. -/
def resolvedData (conflict : SyncConflictRow) (merged : List (String × Value)) :
    ConflictResolution → Except Error (List (String × Value))
  | .acceptServer => .ok conflict.serverData
  | .acceptLocal => .ok conflict.localData
  | .merge => do
    require (!merged.isEmpty) (.value "Merged data required for MERGE resolution")
    pure merged
  | .ignore => .ok []

/-- The conflict's own document once it is settled. -/
def settledConflict (resolvedBy : String) (resolution : ConflictResolution)
    (row : SyncConflictRow) : SyncConflictRow :=
  { row with
    status := if resolution = .ignore then "ignored" else "resolved"
    resolution := resolution.name
    resolvedBy := resolvedBy }

def markConflict (conflictId resolvedBy : String) (resolution : ConflictResolution) : Request Unit :=
  writes fun s =>
    let rows := s.syncConflicts.map fun row =>
      if row.id = Text.lower conflictId then settledConflict resolvedBy resolution row else row
    .ok { s with syncConflicts := rows }

/-- An approved or locked line is forked, not overwritten. -/
def isForked (s : Store) (entityType entityId : String) : Bool :=
  entityType == "count_line" &&
    (s.countLines.find? (entityLookup entityId).holds).any fun line =>
      ["approved", "locked"].contains (Text.lower ((line "status").getD (.str "")).text)

/-- The block of a resolution that applies data. -/
def resolutionBlock (committed : Store) (conflictId resolvedBy : String)
    (resolution : ConflictResolution) (conflict : SyncConflictRow) (data : List (String × Value)) :
    Request Unit := do
  markConflict conflictId resolvedBy resolution
  let forked ← reads fun s => pure (isForked s conflict.entityType conflict.entityId)
  if forked || conflict.entityType == "" || conflict.entityId == "" then pure ()
  else applyResolvedData env committed conflict.entityType conflict.entityId data

/-- The mark alone, or the mark and the change as one committed unit of work. -/
def settleConflict (conflictId resolvedBy : String) (resolution : ConflictResolution)
    (conflict : SyncConflictRow) (data : List (String × Value)) : Request Unit :=
  if resolution == .ignore || data.isEmpty then markConflict conflictId resolvedBy resolution
  else withStore fun s => UnitOfWork.runCommitted env.deployment
    (resolutionBlock env s conflictId resolvedBy resolution conflict data)

def resolveConflict (conflictId resolvedBy : String) (resolution : ConflictResolution)
    (merged : List (String × Value)) : Request Unit := do
  let conflict ← reads fun s => match s.syncConflicts.find? (·.id == Text.lower conflictId) with
    | some conflict => .ok conflict
    | none => .error (.value ("Conflict " ++ conflictId ++ " not found"))
  reads fun _ => require (conflict.status == "pending") (.value ("Conflict " ++ conflictId ++ " already resolved"))
  let data ← reads fun _ => resolvedData conflict merged resolution
  settleConflict env conflictId resolvedBy resolution conflict data

end StockVerification
