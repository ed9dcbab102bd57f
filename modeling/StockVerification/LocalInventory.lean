import StockVerification.Foundation.Run
import StockVerification.Foundation.Summation
import StockVerification.Foundation.Tables
import StockVerification.OfflineQueue

/-!
# The local inventory tables of the client

Source: frontend/src/data/repositories/inventoryControlPlaneRepository.ts:46-487,
frontend/src/core/reducers/inventoryProjectionReducer.ts and
frontend/src/data/db/controlPlaneDb.ts:5-83.

A recorded count line is an event, and the event is applied to four tables in the same
transaction. The marks of the sync change the event and the line, and a rebuild applies the
events that were not rejected once more to empty tables.
-/
namespace StockVerification

open Foundation Foundation.Action

/-- `upper` is `toUpperCase`, and `round` makes a double of an exact sum. -/
structure JsRuntime where
  upper : String → String
  round : ℚ → ℚ

inductive EventStatus where
  | pending
  | pendingRetry
  | synced
  | failed
  deriving DecidableEq, Repr

structure LineBatch where
  batchNo : Option String := none
  batchNumber : Option String := none
  barcode : Option String := none
  quantity : Option ℚ := none
  mrp : Option ℚ := none
  deriving DecidableEq

/-- `CountLineRecordedPayload`, as far as the tables read it. An entry without a text for its
serial number is none. -/
structure LinePayload where
  sessionId : String
  itemCode : String
  itemName : Option String := none
  countedQty : ℚ
  damagedQty : Option ℚ := none
  floorNo : Option String := none
  rackNo : Option String := none
  countedBy : String
  countedAt : String
  syncStatus : EventStatus := .pending
  batches : List LineBatch := []
  batchId : Option String := none
  mrpCounted : Option ℚ := none
  serialNumbers : List String := []
  serialEntries : List (Option String) := []
  deriving DecidableEq

structure LineEvent where
  id : String
  payload : LinePayload
  ts : Int
  deriving DecidableEq

structure LineEventRow where
  event : LineEvent
  syncStatus : EventStatus
  lastError : Option String := none
  deriving DecidableEq

structure LineSyncRow where
  eventId : String
  syncStatus : EventStatus
  retryCount : Nat := 0
  lastError : Option String := none
  deriving DecidableEq

structure CountLineRecord where
  eventId : String
  serverLineId : Option String
  sessionId : String
  itemCode : String
  itemName : String
  countedQty : ℚ
  damagedQty : ℚ
  floorNo : Option String
  rackNo : Option String
  countedBy : String
  countedAt : String
  syncStatus : EventStatus
  payloadJson : LinePayload
  deriving DecidableEq

structure ItemSnapshot where
  sessionId : String
  itemCode : String
  itemName : String
  totalQty : ℚ
  totalDamageQty : ℚ
  lineCount : Nat
  updatedAt : String
  deriving DecidableEq

structure BatchRecord where
  sessionId : String
  itemCode : String
  batchId : String
  qty : ℚ
  mrp : Option ℚ
  updatedAt : String
  deriving DecidableEq

structure SerialRow where
  sessionId : String
  itemCode : String
  serialNo : String
  eventId : String
  createdAt : String
  deriving DecidableEq

def ItemSnapshot.key (row : ItemSnapshot) : String × String := (row.sessionId, row.itemCode)

def BatchRecord.key (row : BatchRecord) : String × String × String := (row.sessionId, row.itemCode, row.batchId)

def SerialRow.key (row : SerialRow) : String × String × String := (row.sessionId, row.itemCode, row.serialNo)

structure LocalDb where
  inventoryEvents : List LineEventRow := []
  syncQueue : List LineSyncRow := []
  eventApplied : List String := []
  countLineRecords : List CountLineRecord := []
  itemsSnapshot : List ItemSnapshot := []
  batchRecords : List BatchRecord := []
  serialRegistry : List SerialRow := []
  deriving DecidableEq

/-- The first text that is not empty: `a || b || …`. -/
def firstFilled (texts : List (Option String)) : Option String :=
  texts.findSome? fun text => text.filter (· != "")

def buildProjectedCountLineRecord (event : LineEvent) : CountLineRecord where
  eventId := event.id
  serverLineId := none
  sessionId := event.payload.sessionId
  itemCode := event.payload.itemCode
  itemName := (firstFilled [event.payload.itemName.map trim]).getD event.payload.itemCode
  countedQty := event.payload.countedQty
  damagedQty := event.payload.damagedQty.getD 0
  floorNo := event.payload.floorNo
  rackNo := event.payload.rackNo
  countedBy := event.payload.countedBy
  countedAt := event.payload.countedAt
  syncStatus := event.payload.syncStatus
  payloadJson := event.payload

variable (js : JsRuntime)

def buildProjectedItemSnapshot (event : LineEvent) (previous : Option ItemSnapshot) : ItemSnapshot where
  sessionId := event.payload.sessionId
  itemCode := event.payload.itemCode
  itemName := (firstFilled [event.payload.itemName.map trim, previous.map (·.itemName)]).getD event.payload.itemCode
  totalQty := js.round ((previous.map (·.totalQty)).getD 0 + event.payload.countedQty)
  totalDamageQty := js.round ((previous.map (·.totalDamageQty)).getD 0 + event.payload.damagedQty.getD 0)
  lineCount := (previous.map (·.lineCount)).getD 0 + 1
  updatedAt := event.payload.countedAt

def normalizeBatchRecord (payload : LinePayload) (batch : LineBatch) : Option BatchRecord :=
  (firstFilled [batch.batchNo, batch.batchNumber, payload.batchId, batch.barcode]).map fun batchId =>
    { sessionId := payload.sessionId
      itemCode := payload.itemCode
      batchId := batchId
      qty := batch.quantity.getD 0
      mrp := batch.mrp.or payload.mrpCounted
      updatedAt := payload.countedAt }

def toBatchRecords (payload : LinePayload) : List BatchRecord :=
  if payload.batches ≠ [] then payload.batches.filterMap (normalizeBatchRecord payload)
  else match payload.batchId with
    | none | some "" => []
    | some batchId =>
      [{ sessionId := payload.sessionId
         itemCode := payload.itemCode
         batchId := batchId
         qty := payload.countedQty
         mrp := payload.mrpCounted
         updatedAt := payload.countedAt }]

def extractSerials (upper : String → String) (payload : LinePayload) : List String :=
  ((payload.serialNumbers ++ payload.serialEntries.filterMap id).map fun serial => upper (trim serial)).filter
    (· != "")

/-- A statement that breaks the key of a table. -/
inductive LocalError where
  | constraint (table : String)
  deriving DecidableEq, Repr

abbrev Statement := Action LocalDb LocalError

def upsertItemSnapshot (event : LineEvent) : Statement Unit :=
  writes fun db =>
    let previous := Table.find ItemSnapshot.key db.itemsSnapshot (event.payload.sessionId, event.payload.itemCode)
    .ok { db with
      itemsSnapshot := Table.put ItemSnapshot.key db.itemsSnapshot (buildProjectedItemSnapshot js event previous) }

/-- The row of a batch with what was counted of it before. -/
def addedBatch (rows : List BatchRecord) (record : BatchRecord) : BatchRecord :=
  let previous := Table.find BatchRecord.key rows record.key
  { record with
    qty := js.round ((previous.map (·.qty)).getD 0 + record.qty)
    mrp := record.mrp.or (previous.bind (·.mrp)) }

def upsertBatchRecords (event : LineEvent) : Statement Unit :=
  (toBatchRecords event.payload).forM fun record =>
    writes fun db =>
      .ok { db with batchRecords := Table.put BatchRecord.key db.batchRecords (addedBatch js db.batchRecords record) }

def serialRow (event : LineEvent) (serial : String) : SerialRow where
  sessionId := event.payload.sessionId
  itemCode := event.payload.itemCode
  serialNo := serial
  eventId := event.id
  createdAt := event.payload.countedAt

def upsertSerialRegistry (event : LineEvent) : Statement Unit :=
  (extractSerials js.upper event.payload).forM fun serial =>
    writes fun db =>
      match Table.insertNew SerialRow.key db.serialRegistry (serialRow event serial) with
      | some rows => .ok { db with serialRegistry := rows }
      | none => .error (.constraint "serial_registry")

def upsertCountLineRecord (event : LineEvent) : Statement Unit :=
  writes fun db =>
    .ok { db with
      countLineRecords :=
        Table.put CountLineRecord.eventId db.countLineRecords (buildProjectedCountLineRecord event) }

def markEventApplied (eventId : String) : Statement Bool :=
  transacts fun db =>
    if eventId ∈ db.eventApplied then .ok (false, db)
    else .ok (true, { db with eventApplied := db.eventApplied ++ [eventId] })

def applyInventoryEvent (event : LineEvent) : Statement Bool := do
  let wasApplied ← markEventApplied event.id
  if wasApplied then
    upsertCountLineRecord event
    upsertItemSnapshot js event
    upsertBatchRecords js event
    upsertSerialRegistry js event
    pure true
  else pure false

def logEvent (event : LineEvent) (db : LocalDb) : LocalDb :=
  { db with
    inventoryEvents := db.inventoryEvents ++ [{ event := event, syncStatus := event.payload.syncStatus }]
    syncQueue :=
      if event.id ∈ db.syncQueue.map (·.eventId) then db.syncQueue
      else db.syncQueue ++ [{ eventId := event.id, syncStatus := event.payload.syncStatus }] }

/-- The event and its place in the queue; false where the event is known already. -/
def insertInventoryEvent (event : LineEvent) : Statement Bool :=
  transacts fun db =>
    if event.id ∈ db.inventoryEvents.map (·.event.id) then .ok (false, db)
    else .ok (true, logEvent event db)

def recordInventoryEvent (event : LineEvent) : Statement Bool :=
  transaction do
    let inserted ← insertInventoryEvent event
    if inserted then
      let _ ← applyInventoryEvent js event
      pure true
    else pure false

def rowId (row : LineEventRow) : String := row.event.id

/-- The marks of the sync on the three tables that carry a status. -/
def markInventoryEvent (eventId : String) (status : EventStatus) (error : Option String)
    (retried : Bool) (db : LocalDb) : LocalDb :=
  { db with
    inventoryEvents := Table.modify rowId eventId
      (fun row => { row with syncStatus := status, lastError := error }) db.inventoryEvents
    syncQueue := Table.modify LineSyncRow.eventId eventId
      (fun row =>
        { row with
          syncStatus := status
          retryCount := if retried then row.retryCount + 1 else row.retryCount
          lastError := error })
      db.syncQueue }

def markRecord (eventId : String) (status : EventStatus) (db : LocalDb) : LocalDb :=
  { db with
    countLineRecords := Table.modify CountLineRecord.eventId eventId
      (fun record => { record with syncStatus := status }) db.countLineRecords }

def markInventoryEventSynced (eventId : String) : Statement Unit :=
  writes fun db => .ok (markRecord eventId .synced (markInventoryEvent eventId .synced none false db))

def markInventoryEventRetry (eventId errorMessage : String) : Statement Unit :=
  writes fun db =>
    .ok (markRecord eventId .pendingRetry (markInventoryEvent eventId .pendingRetry (some errorMessage) true db))

def markInventoryEventFailed (eventId errorMessage : String) : Statement Unit :=
  writes fun db => .ok (markInventoryEvent eventId .failed (some errorMessage) true db)

def bindInventoryServerLineId (eventId : String) (serverLineId : Option String) : Statement Unit :=
  writes fun db =>
    match serverLineId with
    | none | some "" => .ok db
    | some lineId => .ok { db with
        countLineRecords := Table.modify CountLineRecord.eventId eventId
          (fun record => { record with serverLineId := some lineId }) db.countLineRecords }

/-- The events that were not rejected, by their time. -/
def liveEvents (db : LocalDb) : List LineEvent :=
  ((db.inventoryEvents.filter fun row => row.syncStatus != .failed).map (·.event)).mergeSort fun a b => a.ts ≤ b.ts

def clearProjections (db : LocalDb) : LocalDb :=
  { db with
    eventApplied := []
    itemsSnapshot := []
    batchRecords := []
    serialRegistry := []
    countLineRecords := [] }

def rebuildInventoryProjections : Statement Unit :=
  transaction do
    writes fun db => .ok (clearProjections db)
    let events ← reads fun db => .ok (liveEvents db)
    events.forM fun event => do
      let _ ← applyInventoryEvent js event

end StockVerification
