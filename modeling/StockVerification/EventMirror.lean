import StockVerification.Projections

/-!
# Mirrored count-line changes and their readers

`EventService` turns every change of a count line into events of the log and applies each
event to the projections. `InventoryReadRouter` reads the count of an item in a session
from the live lines or from the projections.

The actor, the device and the legacy source of an event's metadata are stored and read by
nobody, and are left out. So are the request key and the counters of the router.
-/
namespace StockVerification

open Foundation Foundation.Action Projection

structure ScanFingerprint where
  deviceId : Option String
  sessionId : Option String
  itemCode : Option String
  batchId : Option String
  serials : List String
  locationId : Option String
  countedQty : ℚ
  deriving DecidableEq

/-- The surroundings of the event service. Identifiers of events are fresh texts. -/
structure MirrorEnv where
  deployment : Deployment
  uuid : Nat → String
  uuid_plain : ∀ n, normalizeString (.str (uuid n)) = some (uuid n)
  uuid_distinct : Function.Injective uuid
  now : Nat → Int
  hash : ScanFingerprint → String
  deviceId : Value := .null
  /-- `V3_EVENT_ENFORCE_WRITES`. -/
  enforceWrites : Bool := true

/-- An entry of the log with the keys that make it unique. -/
structure LoggedEvent where
  event : ProjectionEvent
  idempotencyKey : Option String
  scanFingerprint : Option String

structure Mirror where
  lines : List Doc := []
  log : List LoggedEvent := []
  db : ProjectionDb := {}

abbrev MirrorAction := Action Mirror Unit

/-- An event before it is appended: its type, its payload, the document it is about and the
item code it is filed under. -/
structure EventSpec where
  eventType : String
  payload : EventPayload
  document : Doc
  itemCode : Value

/-- `compute_scan_fingerprint`; `none` where the quantity is no number. -/
def scanFingerprint (deviceId : Value) (document : Doc) : Option ScanFingerprint :=
  ((document.get "counted_qty").numberOrZero).map fun counted =>
    { deviceId := normalizeString (deviceId.orElse ((document.get "device_id").orElse
        (.str "unknown-device")))
      sessionId := normalizeString (document.get "session_id")
      itemCode := normalizeString (document.get "item_code")
      batchId := normalizeString (document.get "batch_id")
      serials := normalizeSerials document
      locationId := normalizeString (firstOf document ["location_id", "floor_id"])
      countedQty := counted }

/-- The event's idempotency key of `_build_metadata`. -/
def eventKey (eventType : String) (document : Doc) (now : Int) : String :=
  eventType ++ ":" ++ (lineIdentifier document).getD (document.get "item_code").text ++ ":" ++
    ((document.get "updated_at").orElse ((document.get "counted_at").orElse
      ((document.get "approved_at").orElse (.date now)))).text

/-- `float((document or {}).get(field) or 0.0)`. -/
def quantityOf (document : Option Doc) (field : String) : Option ℚ :=
  ((document.getD Doc.empty).get field).numberOrZero

/-- `_build_payload`; `none` where a quantity is no number. -/
def buildPayload (before after : Option Doc) (active : Doc) : Option EventPayload := do
  let beforeQty ← quantityOf before "counted_qty"
  let afterQty ← quantityOf after "counted_qty"
  let beforeDamaged ← quantityOf before "damaged_qty"
  let afterDamaged ← quantityOf after "damaged_qty"
  pure
    { fields := Doc.ofList [("session_id", active.get "session_id"),
        ("item_id", firstOf active ["item_id", "item_code"]), ("batch_id", active.get "batch_id"),
        ("count_line_id", lineIdValue active),
        ("serial_numbers", .list ((serialsOf after).map Atom.str))]
      before := before
      after := after
      countLine := some active
      delta := Doc.ofList [("counted_qty", .num (afterQty - beforeQty)),
        ("damaged_qty", .num (afterDamaged - beforeDamaged)),
        ("serial_count", .num (((serialsOf after).length : ℤ) - (serialsOf before).length : ℤ))] }

def findExistingEvent (log : List LoggedEvent) (key fingerprint : Option String) : Option LoggedEvent :=
  (key.bind fun k => log.find? fun entry => entry.idempotencyKey == some k) <|>
    fingerprint.bind fun f => log.find? fun entry => entry.scanFingerprint == some f

variable (env : MirrorEnv)

/-- `append_event` with the metadata of a count line. A known key or fingerprint ends it,
and an event that cannot be projected raises where writes are enforced. -/
def appendEvent (spec : EventSpec) : MirrorAction Unit := do
  let fingerprint ← reads fun _ =>
    if spec.eventType = "SCAN_ADDED" then
      match scanFingerprint env.deviceId spec.document with
      | some payload => .ok (normalizeString (.str (env.hash payload)))
      | none => .error ()
    else .ok none
  withStore fun m =>
    let key := normalizeString (.str (eventKey spec.eventType spec.document (env.now m.log.length)))
    let event : ProjectionEvent :=
      { id := env.uuid m.log.length
        aggregateId := (normalizeString spec.itemCode).getD "unknown-item"
        eventType := spec.eventType
        payload := spec.payload
        timestamp := env.now m.log.length }
    match findExistingEvent m.log key fingerprint with
    | some _ => pure ()
    | none => fun m =>
      let applied := applyEvent env.deployment none event m.db
      let next := { m with log := m.log ++ [⟨event, key, fingerprint⟩], db := applied.db }
      match applied.answer with
      | .error _ => if env.enforceWrites then .error () next else .ok () next
      | .ok _ => .ok () next

def appendWhen (condition : Bool) (spec : EventSpec) : MirrorAction Unit :=
  if condition then appendEvent env spec else pure ()

def numberOrRaise (value : Value) : MirrorAction ℚ :=
  reads fun _ => match value.numberOrZero with
    | some q => .ok q
    | none => .error ()

def payloadOrRaise (before after : Option Doc) (active : Doc) : MirrorAction EventPayload :=
  reads fun _ => match buildPayload before after active with
    | some payload => .ok payload
    | none => .error ()

/-- `str(value or "").strip().upper()`. -/
def upperText (value : Value) : String := Text.upper (Text.strip value.textOrEmpty)

def emitInsertEvents (document : Doc) : MirrorAction Unit := do
  let payload ← payloadOrRaise none (some document) document
  appendEvent env ⟨"SCAN_ADDED", payload, document, document.get "item_code"⟩
  let variance ← numberOrRaise (document.get "variance")
  appendWhen env (decide (0 < |variance|)) ⟨"VARIANCE_DETECTED", payload, document, document.get "item_code"⟩
  let damaged ← numberOrRaise (document.get "damaged_qty")
  appendWhen env (decide (0 < damaged)) ⟨"DAMAGE_MARKED", payload, document, document.get "item_code"⟩
  appendWhen env (upperText (document.get "approval_status") == "APPROVED")
    ⟨"APPROVAL_GRANTED", payload, document, document.get "item_code"⟩

def changesTo (before after : Doc) (field value : String) : Bool :=
  upperText (after.get field) == value && upperText (before.get field) != value

/-- `_emit_update_events`. No event tells that a line was superseded. -/
def emitUpdateEvents (before after : Doc) : MirrorAction Unit := do
  let code := (after.get "item_code").orElse (before.get "item_code")
  let payload ← payloadOrRaise (some before) (some after) after
  appendWhen env (asFloat (payload.delta.get "counted_qty") != 0) ⟨"QUANTITY_ADJUSTED", payload, after, code⟩
  appendWhen env (decide (0 < asFloat (payload.delta.get "damaged_qty"))) ⟨"DAMAGE_MARKED", payload, after, code⟩
  appendWhen env (changesTo before after "approval_status" "APPROVED") ⟨"APPROVAL_GRANTED", payload, after, code⟩
  appendWhen env (changesTo before after "status" "REJECTED") ⟨"RECOUNT_REQUESTED", payload, after, code⟩
  appendWhen env ((after.get "verified").truthy && !(before.get "verified").truthy)
    ⟨"COUNT_VERIFIED", payload, after, code⟩
  appendWhen env (!(after.get "verified").truthy && (before.get "verified").truthy)
    ⟨"COUNT_UNVERIFIED", payload, after, code⟩

def emitRemovedEvent (document : Doc) : MirrorAction Unit := do
  let payload ← payloadOrRaise (some document) none document
  appendEvent env ⟨"COUNT_LINE_REMOVED", payload, document, document.get "item_code"⟩

inductive LineWrite where
  | insertOne (document : Doc)
  | updateOne (f : Filter) (u : Update)
  | updateMany (f : Filter) (u : Update)
  | deleteOne (f : Filter)
  | deleteMany (f : Filter)

/-- The line after the write, which a refused update leaves alone. -/
def updatedLine (u : Update) (line : Doc) : Doc := (u.apply line).getD line

/-- The lines a write addresses. -/
def LineWrite.preImages (lines : List Doc) : LineWrite → List Doc
  | .insertOne _ => []
  | .updateOne f _ | .deleteOne f => (lines.find? f.holds).toList
  | .updateMany f _ | .deleteMany f => lines.filter f.holds

def LineWrite.store (lines : List Doc) : LineWrite → List Doc
  | .insertOne document => lines ++ [document]
  | .updateOne f u =>
    match lines.find? f.holds with
    | some line => Collection.replaceFirst f.holds (updatedLine u line) lines
    | none => lines
  | .updateMany f u => lines.map fun line => if f.holds line then updatedLine u line else line
  | .deleteOne f => Collection.deleteOne f lines
  | .deleteMany f => Collection.deleteMany f lines

/-- `mirror_count_line_write`: the events of every line the write addressed. A line without
an identifier has no image after an update. -/
def mirrorCountLineWrite (preImages : List Doc) : LineWrite → MirrorAction PUnit
  | .insertOne document => emitInsertEvents env document
  | .updateOne _ u | .updateMany _ u =>
    preImages.forM fun before =>
      if (lineIdentifier before).isSome ∧ lineIdentifier (updatedLine u before) = lineIdentifier before then
        emitUpdateEvents env before (updatedLine u before)
      else pure ()
  | .deleteOne _ | .deleteMany _ => preImages.forM (emitRemovedEvent env)

/-- A write of the lines with its mirror. -/
def Mirror.step (m : Mirror) (write : LineWrite) : Mirror :=
  (mirrorCountLineWrite env (write.preImages m.lines) write).final { m with lines := write.store m.lines }

structure ScanLocation where
  floorNo : Value
  rackNo : Value
  countedQty : ℚ
  countedBy : Value
  countedAt : Value

structure ScanStatus where
  scanned : Bool
  totalQty : ℚ
  locations : List ScanLocation
  batchTotals : List BatchState
  source : String

def locationOf (line : Doc) : ScanLocation where
  floorNo := line.get "floor_no"
  rackNo := line.get "rack_no"
  countedQty := asFloat (line.get "counted_qty")
  countedBy := line.get "counted_by"
  countedAt := line.get "counted_at"

def activeCountLines (lines : List Doc) (sessionId itemCode : String) : List Doc :=
  (lines.filter (itemIs sessionId itemCode).holds).filter fun line => !isSupersededCountLine line

def batchOrder (a b : BatchState) : Prop :=
  (a.batchNo.orElse (.str a.batchId)).text ≤ (b.batchNo.orElse (.str b.batchId)).text

instance : DecidableRel batchOrder := fun a b =>
  inferInstanceAs (Decidable ((a.batchNo.orElse (.str a.batchId)).text ≤ (b.batchNo.orElse (.str b.batchId)).text))

def addBatchState (totals : List BatchState) (batch : BatchState) : List BatchState :=
  if totals.any fun known => known.batchId == batch.batchId then
    totals.map fun known => if known.batchId = batch.batchId then
      { known with
        countedQty := known.countedQty + batch.countedQty
        damagedQty := known.damagedQty + batch.damagedQty }
    else known
  else totals ++ [batch]

def legacyItemScanStatus (lines : List Doc) (sessionId itemCode : String) : ScanStatus :=
  let active := activeCountLines lines sessionId itemCode
  if active.isEmpty then
    { scanned := false, totalQty := 0, locations := [], batchTotals := [], source := "legacy" }
  else
    { scanned := true
      totalQty := (active.map fun line => asFloat (line.get "counted_qty")).sum
      locations := active.map locationOf
      batchTotals := ((active.flatMap fun line => normalizeBatches (some line)).foldl addBatchState
        []).insertionSort batchOrder
      source := "legacy" }

def projectionBatchTotals (p : Projections) (sessionId itemCode : String) : List BatchState :=
  (((p .batchRecords).filter (itemIs sessionId itemCode).holds).map fun row =>
    { batchId := ((row.get "batch_id").orElse (.str "NO_BATCH")).text
      batchNo := (firstOf row ["batch_no", "batch_id"]).orElse (.str "NO_BATCH")
      countedQty := asFloat (row.get "counted_qty")
      damagedQty := asFloat (row.get "damaged_qty") }).insertionSort batchOrder

def projectionItemScanStatus (lines : List Doc) (p : Projections) (sessionId itemCode : String) :
    Option ScanStatus :=
  ((p .itemsSnapshot).find? (itemIs sessionId itemCode).holds).map fun snapshot =>
    let total := asFloat (snapshot.get "counted_qty")
    let active := (activeCountLines lines sessionId itemCode).map locationOf
    let floorNo := firstOf snapshot ["floor_no", "floor_id"]
    let rackNo := firstOf snapshot ["rack_no", "rack_id"]
    { scanned := true
      totalQty := total
      locations :=
        if active.isEmpty then
          if floorNo.truthy || rackNo.truthy || total != 0 then
            [⟨floorNo, rackNo, total, firstOf snapshot ["counted_by", "updated_by"],
              firstOf snapshot ["counted_at", "last_event_at", "updated_at"]⟩]
          else []
        else active
      batchTotals := projectionBatchTotals p sessionId itemCode
      source := "projection" }

/-- `_projection_batch_gap_reason`: the batches do not add up to the total. -/
def hasBatchGap (status : ScanStatus) : Bool :=
  decide (0 < status.totalQty) &&
    decide (1 / 10 ^ 6 < |(status.batchTotals.map (·.countedQty)).sum - status.totalQty|)

/-- `_resolve_projection_gap`: the live lines, or an error in strict mode. -/
def resolveProjectionGap (strict : Bool) (lines : List Doc) (sessionId itemCode : String) :
    Except Unit ScanStatus :=
  let legacy := legacyItemScanStatus lines sessionId itemCode
  if legacy.scanned && strict then .error () else .ok legacy

/-- The projection route of `get_session_item_scan_status`. -/
def sessionItemScanStatus (strict : Bool) (m : Mirror) (sessionId itemCode : String) :
    Except Unit ScanStatus :=
  match projectionItemScanStatus m.lines m.db.projections sessionId itemCode with
  | some projected =>
    if hasBatchGap projected then resolveProjectionGap strict m.lines sessionId itemCode
    else .ok projected
  | none => resolveProjectionGap strict m.lines sessionId itemCode

end StockVerification
