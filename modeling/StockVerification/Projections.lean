import StockVerification.Foundation.RowWrites
import StockVerification.Quantity

/-!
# Projections of the event log

The read models that `ProjectionService` keeps from the event log. An event becomes a
program of single-row writes over the projected collections, run between two writes of its
marker in `event_applied`.

The wall-clock stamps of an application (`updated_at` of a row, `started_at` and
`applied_at` of a marker) are left out: they say when a row was written, not what the
event says. A write that a unique index or a lost connection refuses is a failed write.
-/
namespace StockVerification

open Foundation

/-- `PROJECTION_COLLECTIONS`. -/
inductive ProjectionCollection where
  | itemsSnapshot
  | batchRecords
  | serialRecords
  | damageLogs
  | varianceLogs
  | approvals
  | syncQueue
  | erpSnapshot
  | serialRegistry
  | itemSerials
  | sessionDashboard
  | verifiedItems
  | varianceSummary
  | financial
  deriving DecidableEq

abbrev Projections := Tables ProjectionCollection

/-- A payload: its plain fields, and the documents it carries. A document carries its
`_id` at least, so none of them is empty. -/
structure EventPayload where
  fields : Doc := Doc.empty
  before : Option Doc := none
  after : Option Doc := none
  countLine : Option Doc := none
  delta : Doc := Doc.empty

/-- An entry of `event_log` as `append_event` writes it. -/
structure ProjectionEvent where
  id : String
  aggregateId : String
  eventType : String
  payload : EventPayload := {}
  timestamp : Int

namespace Projection

def version : Value := .str "v3.1"

/-- `a or b or c` over the fields of a document. -/
def firstOf (d : Doc) : List String → Value
  | [] => .null
  | [field] => d.get field
  | field :: rest => (d.get field).orElse (firstOf d rest)

def lineIdentifier (d : Doc) : Option String := normalizeString (firstOf d ["id", "_id"])

def lineStatusIsInactive : Value → Bool
  | .str s => ["superseded", "removed", "deleted"].contains (Text.lower (Text.strip s))
  | _ => false

def lineActive (d : Doc) : Bool :=
  d.get "is_removed" != .bool true && !lineStatusIsInactive (d.get "status")

def lineVerified (d : Doc) : Bool :=
  d.get "verified" == .bool true ||
    ["locked", "approved"].contains (Text.lower (Text.strip (d.get "status").textOrEmpty)) ||
    Text.upper (Text.strip (d.get "approval_status").textOrEmpty) == "APPROVED"

def variancePending (d : Doc) : Bool :=
  let approval := Text.upper (Text.strip (d.get "approval_status").textOrEmpty)
  let status := Text.upper (Text.strip (d.get "status").textOrEmpty)
  if ["APPROVED", "RESOLVED"].contains approval then false
  else ["PENDING", "PENDING_APPROVAL", "NEEDS_REVIEW", "RECOUNT_REQUESTED", "REJECTED",
      "RECOUNT"].contains status ||
    ["", "PENDING", "NEEDS_REVIEW", "RECOUNT_REQUESTED", "REJECTED"].contains approval

/-- `_resolve_unit_value`: the first price that is given. -/
def resolveUnitValue (d : Doc) : ℚ :=
  match ["last_cost", "sale_price", "sales_price", "mrp", "mrp_counted", "mrp_erp", "cost",
      "price"].find? fun field => !([.null, .str ""] : List Value).contains (d.get field) with
  | some field => asFloat (d.get field)
  | none => 0

structure BatchState where
  batchId : String
  batchNo : Value
  countedQty : ℚ
  damagedQty : ℚ

/-- One entry of the list of batches. -/
def addBatch (known : List BatchState) (entry : List (String × Atom)) : List BatchState :=
  let row := Doc.ofList (entry.map fun field => (field.1, field.2.toValue))
  match normalizeString (firstOf row ["batch_id", "batch_no"]) with
  | none => known
  | some batchId =>
    let counted := asFloat (firstOf row ["counted_qty", "quantity", "qty"])
    let damaged := asFloat (row.get "damaged_qty")
    if known.any fun batch => batch.batchId == batchId then
      known.map fun batch => if batch.batchId = batchId then
        { batch with countedQty := batch.countedQty + counted, damagedQty := batch.damagedQty + damaged }
      else batch
    else known ++ [⟨batchId, (row.get "batch_no").orElse (.str batchId), counted, damaged⟩]

/-- `_normalize_batches`: the listed batches, else the line as one batch. -/
def normalizeBatches : Option Doc → List BatchState
  | none => []
  | some d =>
    let listed := match d.get "batches" with
      | .rows entries => entries.foldl addBatch []
      | _ => []
    let batchId := (normalizeString (d.get "batch_id")).getD "NO_BATCH"
    if listed.isEmpty then
      [⟨batchId, (d.get "batch_no").orElse (.str batchId), asFloat (d.get "counted_qty"),
        asFloat (d.get "damaged_qty")⟩]
    else listed

end Projection

/-- `after or count_line or before`. -/
def EventPayload.line (payload : EventPayload) : Option Doc :=
  payload.after <|> payload.countLine <|> payload.before

namespace ProjectionEvent

def kind (e : ProjectionEvent) : String := Text.upper (Text.strip e.eventType)

def eventId (e : ProjectionEvent) : Option String := normalizeString (.str e.id)

def field (e : ProjectionEvent) (name : String) : Value := e.payload.fields.get name

def lineSession (e : ProjectionEvent) (line : Doc) : Option String :=
  normalizeString ((e.field "session_id").orElse (line.get "session_id"))

end ProjectionEvent

namespace Projection

abbrev Write := RowWrite ProjectionCollection

def sessionIs (sessionId : String) : Filter := .eq "session_id" (.str sessionId)

def itemIs (sessionId itemCode : String) : Filter :=
  .both (sessionIs sessionId) (.eq "item_code" (.str itemCode))

def lineIs (lineId : String) : Filter := .eq "count_line_id" (.str lineId)

def found (p : Projections) (table : ProjectionCollection) (query : Filter) : Doc :=
  ((p table).find? query.holds).getD Doc.empty

def dashboardTotals : List String :=
  ["total_items", "verified_items", "pending_items", "damage_items", "total_variance",
    "positive_variance", "negative_variance", "scanned_items", "pending_approvals",
    "approved_count"]

/-- `payload.get(field, current.get(stored))`. -/
def carried (payload current : Doc) (field stored : String) : Value :=
  if payload.has field then payload.get field else current.get stored

variable (e : ProjectionEvent)

/-- What the type of a session event changes on top of the carried fields. -/
def sessionChanges (current : Doc) (status : Value) : List (String × Value) :=
  let stamp := (e.field "updated_at").orElse (.date e.timestamp)
  match e.kind with
  | "SESSION_CREATED" => [("started_at", stamp), ("last_heartbeat", stamp)]
  | "SESSION_TRANSITIONED" =>
    let target := (e.field "to_status").orElse status
    ("status", target) ::
      (if target = .str "RECONCILE" then [("reconciled_at", stamp)]
      else if target = .str "CLOSED" then [("closed_at", stamp)]
      else if target = .str "FINALIZED" then [("finalized_at", stamp)] else [])
  | "SESSION_HEARTBEAT" => [("last_heartbeat", stamp)]
  | "SESSION_FINALIZED" =>
    [("status", .str "FINALIZED"), ("finalized_at", stamp), ("completed_at", stamp),
      ("closed_at", stamp), ("finalized_by", (e.field "finalized_by").orElse
        ((e.field "actor").orElse (current.get "finalized_by")))]
  | _ => []

/-- The `next_doc` of `_project_session_event`; `none` where a conversion to an integer
raises. -/
def sessionDoc (sessionId : String) (current : Doc) : Option Doc := do
  let payload := e.payload.fields
  let carry := fun name => (name, carried payload current name name)
  let keep := fun name => (name, current.get name)
  let status := (payload.get "status").orElse ((payload.get "to_status").orElse
    ((current.get "status").orElse (.str "OPEN")))
  let itemCount ← ((payload.get "item_count").orElse ((current.get "snapshot_item_count").orElse (.num 0))).integer
  let version ← ((payload.get "version").orElse ((current.get "version").orElse (.num 0))).integer
  let totals := dashboardTotals.filter fun name => payload.has name || current.has name
  pure (Doc.ofList (sessionChanges e current status ++
    [("session_id", .str sessionId), carry "warehouse", carry "location_id", carry "location_key",
      carry "location_type", carry "location_name", carry "rack_no", carry "staff_user",
      carry "staff_name", ("status", status),
      ("type", if payload.has "type" then payload.get "type" else (current.get "type").orElse (.str "STANDARD")),
      keep "started_at", carry "last_heartbeat", keep "closed_at", keep "completed_at",
      keep "reconciled_at", keep "finalized_at", keep "finalized_by", carry "finalization_status",
      ("notes", carried payload current "note" "notes"), carry "snapshot_hash",
      ("snapshot_item_count", .num itemCount), ("version", .num version),
      ("last_event_id", .str e.id), ("last_event_type", .str e.eventType),
      ("projection_version", Projection.version)] ++ totals.map carry))

def sessionWrite (sessionId : String) : Write :=
  .upsert .sessionDashboard (sessionIs sessionId) (Doc.ofList [("session_id", .str sessionId)])
    fun p => match sessionDoc e sessionId (found p .sessionDashboard (sessionIs sessionId)) with
      | some next => .update (.ofSet next)
      | none => .refused

def projectSessionEvent : List Write :=
  match normalizeString ((e.field "session_id").orElse (.str e.aggregateId)) with
  | none => []
  | some sessionId => [sessionWrite e sessionId]

def latestDate (rows : List Doc) : Value :=
  rows.foldl (fun latest row => match row.get "counted_at", latest with
    | .date t, .date l => if l < t then .date t else .date l
    | .date t, _ => .date t
    | _, _ => latest) .null

/-- The figures that `_refresh_session_dashboard_projection` sets. -/
def dashboardFigures (p : Projections) (sessionId : String) : Doc :=
  let rows := ((p .verifiedItems).filter (sessionIs sessionId).holds).filter lineActive
  let variances := rows.map fun row => asFloat (row.get "variance")
  let verified := rows.countP lineVerified
  let summaries := (p .varianceSummary).filter (sessionIs sessionId).holds
  Doc.ofList [("total_items", .num rows.length), ("scanned_items", .num rows.length),
    ("verified_items", .num verified), ("pending_items", .num (rows.length - verified : ℕ)),
    ("damage_items", .num (rows.countP fun row => 0 < asFloat (row.get "damaged_qty"))),
    ("total_variance", .num variances.sum),
    ("positive_variance", .num (variances.map (max · 0)).sum),
    ("negative_variance", .num (variances.map (min · 0)).sum),
    ("pending_approvals", .num (summaries.countP variancePending)),
    ("approved_count", .num (summaries.countP fun row =>
      Text.upper (Text.strip (row.get "approval_status").textOrEmpty) == "APPROVED")),
    ("completion_percent", .num (if rows.length = 0 then 0 else verified / rows.length * 100)),
    ("last_counted_at", latestDate rows), ("projection_version", version)]

/-- `_refresh_session_dashboard_projection`: only where the session has a row. -/
def refreshSessionDashboard (sessionId : String) : Write :=
  .upsert .sessionDashboard (sessionIs sessionId) (Doc.ofList [("session_id", .str sessionId)])
    fun p => match (p .sessionDashboard).find? (sessionIs sessionId).holds with
      | some _ => .update (.ofSet (dashboardFigures p sessionId))
      | none => .nothing

structure FinancialRow where
  counted : ℚ
  damaged : ℚ
  stock : ℚ
  unitValue : ℚ

/-- One row of the item snapshot in the valuation; rows without an item are skipped. -/
def financialRow (p : Projections) (sessionId : String) (row : Doc) : Option FinancialRow :=
  (normalizeString (row.get "item_code")).map fun itemCode =>
    let erp := found p .erpSnapshot (itemIs sessionId itemCode)
    let line := found p .verifiedItems (itemIs sessionId itemCode)
    { counted := asFloat (row.get "counted_qty"), damaged := asFloat (row.get "damaged_qty")
      stock := asFloat (firstOf erp ["current_sql_qty", "baseline_qty"])
      unitValue := asFloat (firstOf line ["unit_value", "mrp"]) }

def financialFigures (p : Projections) (sessionId : String) : Doc :=
  let rows := ((p .itemsSnapshot).filter (sessionIs sessionId).holds).filterMap (financialRow p sessionId)
  let total := fun (f : FinancialRow → ℚ) => (rows.map f).sum
  Doc.ofList [("session_id", .str sessionId), ("total_counted_qty", .num (total (·.counted))),
    ("total_stock_qty", .num (total (·.stock))),
    ("complete_percent", .num (if total (·.stock) = 0 then 0 else total (·.counted) / total (·.stock) * 100)),
    ("total_counted_value", .num (total fun row => row.counted * row.unitValue)),
    ("total_stock_value", .num (total fun row => row.stock * row.unitValue)),
    ("shortage_value", .num (total fun row => |min (row.counted - row.stock) 0| * row.unitValue)),
    ("overage_value", .num (total fun row => max (row.counted - row.stock) 0 * row.unitValue)),
    ("damage_value", .num (total fun row => row.damaged * row.unitValue)),
    ("valuation_basis", .str "last_cost"), ("projection_version", version)]

/-- `_refresh_financial_projection`. -/
def refreshFinancial (sessionId : String) : Write :=
  .upsert .financial (sessionIs sessionId) (Doc.ofList [("session_id", .str sessionId)])
    fun p => .update (.ofSet (financialFigures p sessionId))

/-- The row of `verified_items_projection`. -/
def verifiedDoc (line : Doc) (lineId sessionId itemCode : String) (session : Doc) :
    Doc :=
  let counted := asFloat (line.get "counted_qty")
  let stock := asFloat (firstOf line ["erp_qty", "current_sql_qty", "system_qty", "expected_qty"])
  let variance := ((line.get "variance").number).getD (counted - stock)
  let unitValue := resolveUnitValue line
  Doc.ofList [("count_line_id", .str lineId), ("id", .str lineId), ("session_id", .str sessionId),
    ("item_id", .str ((normalizeString ((line.get "item_id").orElse ((e.field "item_id").orElse
      (.str itemCode)))).getD "")),
    ("item_code", .str itemCode), ("item_name", line.get "item_name"), ("barcode", line.get "barcode"),
    ("category", line.get "category"),
    ("warehouse", (line.get "warehouse").orElse (session.get "warehouse")),
    ("floor", (line.get "floor_no").orElse ((line.get "floor_id").orElse (session.get "location_name"))),
    ("rack_id", firstOf line ["rack_id", "rack_no"]), ("rack_no", firstOf line ["rack_no", "rack_id"]),
    ("batch_id", match normalizeString ((line.get "batch_id").orElse (e.field "batch_id")) with
      | some batch => .str batch
      | none => .null),
    ("stock_qty", .num stock), ("counted_qty", .num counted),
    ("damaged_qty", .num (asFloat (line.get "damaged_qty"))), ("variance", .num variance),
    ("variance_percentage", .num (if stock = 0 then if variance = 0 then 0 else 100 else variance / |stock| * 100)),
    ("mrp", .num unitValue), ("unit_value", .num unitValue),
    ("verified", .bool ((line.get "verified").truthy ||
      Text.upper (line.get "approval_status").textOrEmpty == "APPROVED")),
    ("verified_by", firstOf line ["verified_by", "approved_by"]),
    ("verified_at", firstOf line ["verified_at", "approved_at"]),
    ("counted_by", firstOf line ["counted_by", "created_by"]), ("counted_at", line.get "counted_at"),
    ("notes", firstOf line ["notes", "approval_note", "variance_note"]), ("status", line.get "status"),
    ("approval_status", line.get "approval_status"), ("approved_by", line.get "approved_by"),
    ("approved_at", line.get "approved_at"),
    ("blind_recount_required", .bool (line.get "blind_recount_required").truthy),
    ("dual_verification_required", .bool (line.get "dual_verification_required").truthy),
    ("original_count_hidden", .bool (line.get "original_count_hidden").truthy),
    ("last_event_id", .str e.id), ("last_event_type", .str e.eventType),
    ("projection_version", version), ("is_removed", .bool false)]

def verifiedWrite (line : Doc) (lineId sessionId itemCode : String) : Write :=
  .upsert .verifiedItems (lineIs lineId) (Doc.ofList [("count_line_id", .str lineId)]) fun p =>
    .update (.ofSet (verifiedDoc e line lineId sessionId itemCode (found p .sessionDashboard (sessionIs sessionId))))

/-- The line goes into `variance_summary_projection`. -/
def needsSummary (line : Doc) : Bool :=
  let counted := asFloat (line.get "counted_qty")
  let stock := asFloat (firstOf line ["erp_qty", "current_sql_qty", "system_qty", "expected_qty"])
  let variance := ((line.get "variance").number).getD (counted - stock)
  decide (1 / 10 ^ 9 < |variance|) || (line.get "approval_status").truthy ||
    (line.get "blind_recount_required").truthy

/-- The write of `variance_summary_projection`: the row of the line, or none. -/
def summaryWrite (line : Doc) (lineId sessionId itemCode : String) : Write :=
  if needsSummary line then
    .upsert .varianceSummary (lineIs lineId) (Doc.ofList [("count_line_id", .str lineId)]) fun p =>
      .update (.ofSet ((verifiedDoc e line lineId sessionId itemCode
        (found p .sessionDashboard (sessionIs sessionId))).setAll
          [("assigned_to", line.get "assigned_to"),
            ("rejection_reason", firstOf line ["rejection_reason", "variance_reason"])]))
  else .delete .varianceSummary (lineIs lineId)

def isRemoval (line : Doc) : Bool :=
  ["COUNT_LINE_REMOVED", "COUNT_LINE_SUPERSEDED"].contains e.kind ||
    lineStatusIsInactive (line.get "status")

/-- The writes of `_project_verified_item_projection` for a line with its identifiers. -/
def verifiedItemWrites (line : Doc) (lineId sessionId : String) : List Write :=
  if isRemoval e line then
    [.delete .verifiedItems (lineIs lineId), .delete .varianceSummary (lineIs lineId),
      refreshSessionDashboard sessionId, refreshFinancial sessionId]
  else
    match normalizeString ((line.get "item_code").orElse (e.field "item_id")) with
    | none => []
    | some itemCode =>
      [verifiedWrite e line lineId sessionId itemCode, summaryWrite e line lineId sessionId itemCode,
        refreshSessionDashboard sessionId, refreshFinancial sessionId]

/-- `_project_verified_item_projection`. -/
def projectVerifiedItem : List Write :=
  match e.payload.line with
  | none => []
  | some line =>
    match (lineIdentifier line).or (normalizeString (e.field "count_line_id")), e.lineSession line with
    | some lineId, some sessionId => verifiedItemWrites e line lineId sessionId
    | _, _ => []

structure EventItem where
  sessionId : String
  itemId : String
  itemCode : String

def eventItem (line : Doc) : Option EventItem := do
  let sessionId ← e.lineSession line
  let itemId ← normalizeString ((e.field "item_id").orElse (firstOf line ["item_id", "item_code"]))
  let itemCode ← normalizeString ((line.get "item_code").orElse ((e.field "item_id").orElse (.str itemId)))
  pure ⟨sessionId, itemId, itemCode⟩

structure EventDelta where
  counted : ℚ
  damaged : ℚ
  serials : Int

/-- The increments of the item row. A scan without a counted increment counts the whole
line; a serial count that is no integer raises. -/
def eventDelta (line : Doc) : Option EventDelta := do
  let counted := asFloat (e.payload.delta.get "counted_qty")
  let serials ← ((e.payload.delta.get "serial_count").orElse (.num 0)).integer
  pure (if e.eventType = "SCAN_ADDED" ∧ counted = 0 then
    ⟨asFloat (line.get "counted_qty"), asFloat (line.get "damaged_qty"),
      (normalizeSerials (e.payload.after.getD line)).length⟩
  else ⟨counted, asFloat (e.payload.delta.get "damaged_qty"), serials⟩)

/-- The fields of the item row. -/
def snapshotFields (line : Doc) (item : EventItem) : Doc :=
  Doc.ofList [("session_id", .str item.sessionId), ("item_id", .str item.itemId),
    ("item_code", .str item.itemCode), ("item_name", line.get "item_name"),
    ("base_uom", firstOf line ["base_uom", "uom_code", "uom_name"]),
    ("input_uom", firstOf line ["input_uom", "uom_code", "uom_name"]),
    ("location_id", line.get "location_id"), ("floor_id", firstOf line ["floor_id", "floor_no"]),
    ("floor_no", firstOf line ["floor_no", "floor_id"]),
    ("rack_id", firstOf line ["rack_id", "rack_no"]), ("rack_no", firstOf line ["rack_no", "rack_id"]),
    ("counted_by", firstOf line ["counted_by", "created_by"]),
    ("updated_by", firstOf line ["updated_by", "counted_by"]), ("counted_at", line.get "counted_at"),
    ("last_event_id", .str e.id), ("last_event_type", .str e.eventType),
    ("last_event_at", .date e.timestamp), ("projection_version", version)]

/-- The upsert of `items_snapshot`. -/
def snapshotWrite (line : Doc) (item : EventItem) : Write :=
  .upsert .itemsSnapshot (itemIs item.sessionId item.itemCode)
    (Doc.ofList [("session_id", .str item.sessionId), ("item_code", .str item.itemCode)]) fun _ =>
      match eventDelta e line with
      | none => .refused
      | some delta => .update
          { set := snapshotFields e line item
            inc := [("counted_qty", delta.counted), ("damaged_qty", delta.damaged), ("serial_count", delta.serials)] }

def batchIs (item : EventItem) (batchId : String) : Filter :=
  .both (itemIs item.sessionId item.itemCode) (.eq "batch_id" (.str batchId))

/-- The upsert of one row of `batch_records`, left out where nothing changes. -/
def batchWrite (line : Doc) (item : EventItem) (before after : List BatchState)
    (batchId : String) : Option Write :=
  let state := fun (batches : List BatchState) => batches.find? (·.batchId == batchId)
  let change := fun (figure : BatchState → ℚ) =>
    ((state after).map figure).getD 0 - ((state before).map figure).getD 0
  let batchNo := fun batches => ((state batches).map (·.batchNo)).getD .null
  if change (·.countedQty) = 0 ∧ change (·.damagedQty) = 0 then none
  else some (.upsert .batchRecords (batchIs item batchId)
    (Doc.ofList [("session_id", .str item.sessionId), ("item_code", .str item.itemCode),
      ("batch_id", .str batchId)]) fun _ => .update
      { set := Doc.ofList [("session_id", .str item.sessionId), ("item_id", .str item.itemId),
          ("item_code", .str item.itemCode), ("batch_id", .str batchId),
          ("batch_no", (batchNo after).orElse ((batchNo before).orElse (.str batchId))),
          ("item_name", line.get "item_name"), ("counted_by", firstOf line ["counted_by", "created_by"]),
          ("counted_at", line.get "counted_at"), ("last_event_id", .str e.id),
          ("last_event_type", .str e.eventType), ("last_event_at", .date e.timestamp),
          ("projection_version", version)]
        inc := [("counted_qty", change (·.countedQty)), ("damaged_qty", change (·.damagedQty))] })

def batchWrites (line : Doc) (item : EventItem) : List Write :=
  let before := normalizeBatches e.payload.before
  let after := if e.eventType = "SCAN_ADDED" ∧ (normalizeBatches e.payload.after).isEmpty then
    normalizeBatches (some (e.payload.after.getD line)) else normalizeBatches e.payload.after
  let ids := ((before ++ after).map (·.batchId)).dedup.insertionSort (· ≤ ·)
  ids.filterMap (batchWrite e line item before after)

/-- `_serial_scope_query`. -/
def serialIs (item : EventItem) (field serial : String) : Filter :=
  .both (.eq field (.str serial)) (.either (.eq "item_id" (.str item.itemId)) (.eq "item_code" (.str item.itemCode)))

/-- The collections of serials, with the name of the serial's field. -/
def serialTables : List (ProjectionCollection × String) :=
  [(.serialRecords, "serial_no"), (.serialRegistry, "serial_no"), (.itemSerials, "serial_number")]

/-- The line's identifier as a field. -/
def lineIdValue (line : Doc) : Value :=
  match lineIdentifier line with
  | some lineId => .str lineId
  | none => .null

/-- The fields of a serial that all three collections hold. -/
def serialFields (line : Doc) (item : EventItem) (field serial : String) :
    List (String × Value) :=
  [("item_id", .str item.itemId), (field, .str serial), ("session_id", .str item.sessionId),
    ("item_code", .str item.itemCode),
    ("batch_id", .str ((normalizeString ((e.field "batch_id").orElse (line.get "batch_id"))).getD "NO_BATCH")),
    ("count_line_id", lineIdValue line), ("projection_version", version)]

def serialDetails (line : Doc) : ProjectionCollection → List (String × Value)
  | .serialRecords =>
    [("status", .str (if 0 < asFloat (line.get "damaged_qty") then "DAMAGED" else "GOOD")),
      ("last_event_at", .date e.timestamp)]
  | .serialRegistry =>
    [("item_name", line.get "item_name"), ("counted_by", firstOf line ["counted_by", "created_by"]),
      ("floor_id", firstOf line ["floor_id", "floor_no"]),
      ("rack_id", firstOf line ["rack_id", "rack_no"]), ("status", .str "LOCKED"),
      ("source_event_id", .str e.id)]
  | _ =>
    [("item_name", line.get "item_name"), ("rack_id", firstOf line ["rack_id", "rack_no"]),
      ("floor_no", firstOf line ["floor_id", "floor_no"]), ("status", .str "LOCKED")]

def serialUpsert (line : Doc) (item : EventItem) (serial : String)
    (target : ProjectionCollection × String) : Write :=
  .upsert target.1 (serialIs item target.2 serial) (Doc.ofList [(target.2, .str serial)]) fun _ =>
    .update (.ofSet (Doc.ofList (serialFields e line item target.2 serial ++ serialDetails e line target.1)))

def serialDelete (item : EventItem) (serial : String) (target : ProjectionCollection × String) : Write :=
  .delete target.1 (serialIs item target.2 serial)

def serialsOf (d : Option Doc) : List String := (d.map normalizeSerials).getD []

/-- The serials of the line after the change are written, those it lost are deleted. -/
def serialWrites (line : Doc) (item : EventItem) : List Write :=
  let after := serialsOf e.payload.after
  let removed := (serialsOf e.payload.before).filter fun serial => !after.contains serial
  (after.insertionSort (· ≤ ·)).flatMap (fun serial => serialTables.map (serialUpsert e line item serial)) ++
    (removed.insertionSort (· ≤ ·)).flatMap fun serial => serialTables.map (serialDelete item serial)

/-- The upsert of `erp_snapshot`. -/
def erpWrite (line : Doc) (item : EventItem) : Write :=
  .upsert .erpSnapshot (itemIs item.sessionId item.itemCode)
    (Doc.ofList [("session_id", .str item.sessionId), ("item_code", .str item.itemCode)]) fun _ =>
      .update (.ofSet (Doc.ofList [("session_id", .str item.sessionId), ("item_id", .str item.itemId),
        ("item_code", .str item.itemCode), ("baseline_qty", .num (asFloat (line.get "erp_qty"))),
        ("current_sql_qty", .num (asFloat (line.get "current_sql_qty"))),
        ("baseline_hash", line.get "baseline_hash"), ("last_event_id", .str e.id),
        ("projection_version", version)]))

def projectInventoryEvent : List Write :=
  match e.payload.line with
  | none => []
  | some line =>
    match eventItem e line with
    | none => []
    | some item =>
      [snapshotWrite e line item] ++ batchWrites e line item ++ serialWrites e line item ++
        [erpWrite e line item] ++ projectVerifiedItem e

/-- The row of a log stands under the event's identifier. -/
def logWrite (line : Doc) (eventId : String) (target : ProjectionCollection) (key : String)
    (details : List (String × Value)) : Write :=
  .upsert target (.eq key (.str eventId)) (Doc.ofList [(key, .str eventId)]) fun _ =>
    .update (.ofSet (Doc.ofList ([(key, .str eventId), ("session_id", line.get "session_id"),
      ("item_code", line.get "item_code"), ("count_line_id", lineIdValue line)] ++ details ++
      [("projection_version", version)])))

/-- The row of a log, and then the line. -/
def projectLog (target : ProjectionCollection) (key : String)
    (details : Doc → List (String × Value)) : List Write :=
  match e.payload.line, e.eventId with
  | some line, some eventId => logWrite line eventId target key (details line) :: projectVerifiedItem e
  | _, _ => []

def projectDamageLog : List Write :=
  projectLog e .damageLogs "event_id" fun line =>
    let delta := asFloat (e.payload.delta.get "damaged_qty")
    [("batch_id", line.get "batch_id"),
      ("qty", .num (if delta = 0 then asFloat (line.get "damaged_qty") else delta)),
      ("reason", (firstOf line ["condition_details", "item_condition", "variance_reason"]).orElse
        (.str "UNSPECIFIED")),
      ("location", firstOf line ["mark_location", "location_id", "floor_id", "floor_no"]),
      ("timestamp", .date e.timestamp)]

def projectVarianceLog : List Write :=
  projectLog e .varianceLogs "event_id" fun line =>
    [("batch_id", line.get "batch_id"), ("variance", .num (asFloat (line.get "variance"))),
      ("variance_reason", line.get "variance_reason"), ("approval_status", line.get "approval_status"),
      ("status", line.get "status"), ("timestamp", .date e.timestamp)]

def projectApproval : List Write :=
  projectLog e .approvals "approval_id" fun line =>
    [("approved_by", line.get "approved_by"),
      ("approved_at", (line.get "approved_at").orElse (.date e.timestamp)),
      ("approval_note", line.get "approval_note"),
      ("status", (line.get "approval_status").orElse (.str "APPROVED"))]

/-- The identifier of a row of `sync_queue`. -/
def queueId : Option String :=
  normalizeString ((e.field "queue_id").orElse (.str e.id))

def queueWrite (queueId : String) : Write :=
  .upsert .syncQueue (.eq "queue_id" (.str queueId)) (Doc.ofList [("queue_id", .str queueId)])
    fun _ => .update (.ofSet (Doc.ofList [("queue_id", .str queueId), ("event_type", .str e.eventType),
      ("status", (e.field "status").orElse (.str "PENDING")), ("session_id", e.field "session_id"),
      ("item_code", e.field "item_code"), ("strategy", e.field "strategy"),
      ("details", e.field "details"), ("resolved_by", e.field "resolved_by"),
      ("last_event_at", .date e.timestamp), ("projection_version", version)]))

def projectSyncQueue : List Write :=
  match queueId e with
  | none => []
  | some queueId => [queueWrite e queueId]

def sessionEvents : List String :=
  ["SESSION_SNAPSHOT_CREATED", "SESSION_CREATED", "SESSION_TRANSITIONED", "SESSION_TOTALS_UPDATED",
    "SESSION_UPDATED", "SESSION_HEARTBEAT", "SESSION_FINALIZED"]

def inventoryEvents : List String :=
  ["SCAN_ADDED", "QUANTITY_ADJUSTED", "COUNT_LINE_REMOVED", "COUNT_LINE_MERGED",
    "COUNT_LINE_SUPERSEDED", "COUNT_VERIFIED", "COUNT_UNVERIFIED"]

/-- The writes of `apply_event`. No type is on two of the lists. -/
def eventWrites : List Write :=
  if sessionEvents.contains e.kind then projectSessionEvent e
  else if inventoryEvents.contains e.kind then projectInventoryEvent e
  else if e.kind = "DAMAGE_MARKED" then projectDamageLog e
  else if ["VARIANCE_DETECTED", "RECOUNT_REQUESTED"].contains e.kind then projectVarianceLog e
  else if e.kind = "APPROVAL_GRANTED" then projectApproval e
  else if ["SYNC_CONFLICT_RECORDED", "SYNC_CONFLICT_RESOLVED"].contains e.kind then projectSyncQueue e
  else []

/-- What an event does to the projections; `none` where it raises. -/
def project (p : Projections) : Option Projections :=
  RowWrite.runAll (eventWrites e) p

/-- An entry of `event_applied`. -/
structure Marker where
  eventId : String
  sessionId : Value
  applied : Bool
  deriving DecidableEq

def ofSession (sessionId : String) (stored : Value) : Bool :=
  (sessionIs sessionId).holds (Doc.ofList [("session_id", stored)])

end Projection

open Projection

structure ProjectionDb where
  projections : Projections := fun _ => []
  eventApplied : List Marker := []

namespace ProjectionDb

def isApplied (db : ProjectionDb) (eventId : String) : Bool :=
  ((db.eventApplied.find? (·.eventId == eventId)).map (·.applied)).getD false

def unmarked (db : ProjectionDb) (eventId : String) : List Marker :=
  db.eventApplied.filter (·.eventId != eventId)

/-- `_clear_projection_state`: everything, or the rows and markers of one session. -/
def clear (db : ProjectionDb) : Option String → ProjectionDb
  | none => {}
  | some sessionId =>
    { projections := fun table => Collection.deleteMany (sessionIs sessionId) (db.projections table)
      eventApplied := db.eventApplied.filter fun marker => !ofSession sessionId marker.sessionId }

end ProjectionDb

/-- How an application is cut short. -/
inductive ApplyFault where
  /-- A write fails after `done` writes of the handlers, or the process stops there. -/
  | interrupted (done : Nat) (caught : Bool)
  /-- Everything is written, and the answer is lost. -/
  | unanswered

/-- The end of an application. Its answer is whether the event was applied now; an error is
an exception, or no answer at all. -/
structure Applied where
  db : ProjectionDb
  answer : Except Unit Bool
  completed : Bool := false

/-- The handlers of an event: what they make of the projections, or how many writes they
had done when they stopped and whether the failure is caught there and the marker removed.
The last write, of the marker, stands outside the handlers. -/
def runHandlers (fault : Option ApplyFault) (e : ProjectionEvent) (p : Projections) :
    Except (Nat × Bool) Projections :=
  let length := (eventWrites e).length
  let uncut : Except (Nat × Bool) Projections := match project e p with
    | some next => .ok next
    | none => .error (length, true)
  match fault with
  | some (.interrupted done caught) =>
    if done ≤ length then .error (done, caught && decide (done < length)) else uncut
  | _ => uncut

/-- `apply_event` on one connection: the marker, the handlers, the marker again. -/
def applyDirect (fault : Option ApplyFault) (e : ProjectionEvent) (db : ProjectionDb) : Applied :=
  match e.eventId with
  | none => { db := db, answer := .error () }
  | some eventId =>
    if db.isApplied eventId then { db := db, answer := .ok false }
    else
      let marked := fun applied : Bool => db.unmarked eventId ++ [⟨eventId, e.field "session_id", applied⟩]
      match runHandlers fault e db.projections with
      | .ok next =>
        { db := ⟨next, marked true⟩
          answer := match fault with
            | some .unanswered => .error ()
            | _ => .ok true
          completed := true }
      | .error (done, caught) =>
        { db := ⟨RowWrite.runUntil done (eventWrites e) db.projections,
            if caught then db.unmarked eventId else marked false⟩
          answer := .error () }

/-- `apply_event`: in a transaction where the deployment has them. -/
def applyEvent (deployment : Deployment) (fault : Option ApplyFault) (e : ProjectionEvent)
    (db : ProjectionDb) : Applied :=
  match deployment with
  | .standalone => applyDirect fault e db
  | .transactional =>
    let inner := applyDirect fault e db
    if inner.completed then inner else { inner with db := db }

/-- The sort key of the replay: the timestamp, then the identifier. -/
def replaysBefore (a b : ProjectionEvent) : Prop :=
  a.timestamp < b.timestamp ∨ a.timestamp = b.timestamp ∧ a.id ≤ b.id

instance : DecidableRel replaysBefore := fun a b =>
  inferInstanceAs (Decidable (a.timestamp < b.timestamp ∨ a.timestamp = b.timestamp ∧ a.id ≤ b.id))

/-- Apply events one after another; the first exception ends it. -/
def applyAll (deployment : Deployment) (events : List ProjectionEvent) (db : ProjectionDb) : Applied :=
  match events with
  | [] => { db := db, answer := .ok true, completed := true }
  | e :: rest =>
    let first := applyEvent deployment none e db
    match first.answer with
    | .error _ => first
    | .ok _ => applyAll deployment rest first.db

def selectEvents (log : List ProjectionEvent) (sessionId : Option String) : List ProjectionEvent :=
  log.filter fun e => sessionId.all fun name => (sessionIs name).holds e.payload.fields

/-- `rebuild_from_event_log`. An empty session id means all sessions. -/
def rebuildFromEventLog (deployment : Deployment) (log : List ProjectionEvent)
    (sessionId : Option String) (clearExisting : Bool) (db : ProjectionDb) : Applied :=
  let scope := sessionId.filter (· != "")
  applyAll deployment ((selectEvents log scope).insertionSort replaysBefore)
    (if clearExisting then db.clear scope else db)

namespace Projection

def logEvents : List String := ["DAMAGE_MARKED", "VARIANCE_DETECTED", "RECOUNT_REQUESTED", "APPROVAL_GRANTED"]

def queueEvents : List String := ["SYNC_CONFLICT_RECORDED", "SYNC_CONFLICT_RESOLVED"]

def logTables : List (ProjectionCollection × String) :=
  [(.damageLogs, "event_id"), (.varianceLogs, "event_id"), (.approvals, "approval_id")]

/-- The line that an event counts, for the kinds of events that do. -/
def inventoryLine (e : ProjectionEvent) : Option Doc :=
  if inventoryEvents.contains e.kind then e.payload.line else none

def loggedLine (e : ProjectionEvent) : Option Doc :=
  if logEvents.contains e.kind then e.payload.line else none

def lineOf (e : ProjectionEvent) : Option Doc := (inventoryLine e).or (loggedLine e)

def queueOf (e : ProjectionEvent) : Option String := if queueEvents.contains e.kind then queueId e else none

/-- A write that an event about a line or a conflict can make, with where its keys come
from. -/
inductive WriteOf (e : ProjectionEvent) : Write → Prop where
  | snapshot {line : Doc} {item : EventItem} (held : inventoryLine e = some line)
      (about : eventItem e line = some item) : WriteOf e (snapshotWrite e line item)
  | batch {line : Doc} {item : EventItem} {before after : List BatchState} {batchId : String}
      {w : Write} (held : inventoryLine e = some line) (about : eventItem e line = some item)
      (changed : batchWrite e line item before after batchId = some w) : WriteOf e w
  | serialSet {line : Doc} {item : EventItem} {serial : String} {target : ProjectionCollection × String}
      (held : inventoryLine e = some line) (about : eventItem e line = some item)
      (listed : serial ∈ serialsOf e.payload.after) (into : target ∈ serialTables) :
      WriteOf e (serialUpsert e line item serial target)
  | serialDrop {line : Doc} {item : EventItem} {serial : String} {target : ProjectionCollection × String}
      (held : inventoryLine e = some line) (about : eventItem e line = some item)
      (listed : serial ∈ serialsOf e.payload.before) (into : target ∈ serialTables) :
      WriteOf e (serialDelete item serial target)
  | erp {line : Doc} {item : EventItem} (held : inventoryLine e = some line)
      (about : eventItem e line = some item) : WriteOf e (erpWrite e line item)
  | line {line : Doc} {lineId sessionId : String} {w : Write} (held : lineOf e = some line)
      (named : (lineIdentifier line).or (normalizeString (e.field "count_line_id")) = some lineId)
      (session : e.lineSession line = some sessionId)
      (member : w ∈ verifiedItemWrites e line lineId sessionId) : WriteOf e w
  | log {line : Doc} {eventId : String} {target : ProjectionCollection} {key : String}
      {details : List (String × Value)} (held : loggedLine e = some line)
      (identified : e.eventId = some eventId) (into : (target, key) ∈ logTables) :
      WriteOf e (logWrite line eventId target key details)
  | queue {id : String} (named : queueOf e = some id) : WriteOf e (queueWrite e id)

section

variable {e : ProjectionEvent} {w : Write} {line : Doc}

theorem line_of_inventoryLine (held : inventoryLine e = some line) : e.payload.line = some line := by
  unfold inventoryLine at held
  split at held
  · exact held
  · cases held

theorem lineOf_of_inventory (held : inventoryLine e = some line) : lineOf e = some line := by
  rw [lineOf, held, Option.some_or]

theorem writeOf_verifiedItem (own : e.payload.line = lineOf e) (member : w ∈ projectVerifiedItem e) : WriteOf e w := by
  unfold projectVerifiedItem at member
  split at member
  · cases member
  · next line held =>
    split at member
    · next lineId sessionId named session => exact .line (own ▸ held) named session member
    · cases member

theorem writeOf_inventory (kind : inventoryEvents.contains e.kind = true)
    (member : w ∈ projectInventoryEvent e) : WriteOf e w := by
  have own : e.payload.line = inventoryLine e := by rw [inventoryLine, if_pos kind]
  unfold projectInventoryEvent at member
  rw [own] at member
  split at member
  · cases member
  · next line held =>
    split at member
    · cases member
    · next item about =>
      simp only [List.mem_append, List.mem_singleton, List.append_assoc] at member
      rcases member with rfl | batched | serialized | rfl | verified
      · exact .snapshot held about
      · obtain ⟨batchId, _, changed⟩ := List.mem_filterMap.mp batched
        exact .batch held about changed
      · simp only [serialWrites, List.mem_append, List.mem_flatMap, List.mem_insertionSort,
          List.mem_map, List.mem_filter] at serialized
        rcases serialized with ⟨serial, listed, target, into, rfl⟩ | ⟨serial, listed, target, into, rfl⟩
        · exact .serialSet held about listed into
        · exact .serialDrop held about listed.1 into
      · exact .erp held about
      · exact writeOf_verifiedItem (by rw [own, held, lineOf_of_inventory held]) verified

theorem writeOf_log (plain : inventoryEvents.contains e.kind ≠ true) (kind : logEvents.contains e.kind = true)
    {target : ProjectionCollection} {key : String} {details : Doc → List (String × Value)}
    (member : w ∈ projectLog e target key details) (into : (target, key) ∈ logTables) : WriteOf e w := by
  have own : e.payload.line = loggedLine e := by rw [loggedLine, if_pos kind]
  unfold projectLog at member
  rw [own] at member
  split at member
  · next line eventId held identified =>
    rcases List.mem_cons.mp member with rfl | verified
    · exact .log held identified into
    · refine writeOf_verifiedItem ?_ verified
      rw [own, lineOf, inventoryLine, if_neg plain, Option.none_or]
  · cases member

end

/-- A session event has one write at most, and every write of another event is one of
these. -/
theorem eventWrites_cases (e : ProjectionEvent) :
    (sessionEvents.contains e.kind = true ∧ ∃ sessionId,
      normalizeString ((e.field "session_id").orElse (.str e.aggregateId)) = some sessionId ∧
        eventWrites e = [sessionWrite e sessionId]) ∨
    ∀ w ∈ eventWrites e, WriteOf e w := by
  unfold eventWrites
  split
  · next kind =>
    unfold projectSessionEvent
    split
    · exact .inr nofun
    · next sessionId named => exact .inl ⟨kind, sessionId, named, rfl⟩
  · refine .inr fun w member => ?_
    split at member
    · next kind => exact writeOf_inventory kind member
    · next plain =>
      split at member
      · next kind => exact writeOf_log plain (by rw [kind]; rfl) member (by decide)
      · split at member
        · next kind =>
          refine writeOf_log plain ?_ member (by decide)
          simp only [List.contains_iff_mem, logEvents, List.mem_cons, List.not_mem_nil, or_false] at kind ⊢
          exact .inr (kind.imp_right .inl)
        · split at member
          · next kind => exact writeOf_log plain (by rw [kind]; rfl) member (by decide)
          · split at member
            · next kind =>
              unfold projectSyncQueue at member
              split at member
              · cases member
              · next id named =>
                rw [List.mem_singleton] at member
                subst member
                exact .queue (by rw [queueOf, queueEvents, if_pos kind, named])
            · cases member

end Projection

end StockVerification
