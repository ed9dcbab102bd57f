import StockVerification.Foundation.Document

/-!
# The offline queue of the client

Source: frontend/src/services/offline/offlineStorage.ts:290-498 and
frontend/src/services/syncService.ts:143-378, 508-668.

The queue is one stored array. Every operation reads the whole array, and later writes a whole
array back. A sync sends the items in batches and turns the answer to a batch into such operations.
-/
namespace StockVerification

open Foundation

/-- Code points removed by `trim`. -/
def trimmedSpaces : List Nat :=
  [0x9, 0xa, 0xb, 0xc, 0xd, 0x20, 0xa0, 0x1680, 0x2000, 0x2001, 0x2002, 0x2003, 0x2004, 0x2005,
    0x2006, 0x2007, 0x2008, 0x2009, 0x200a, 0x2028, 0x2029, 0x202f, 0x205f, 0x3000, 0xfeff]

def trimList (cs : List Char) : List Char :=
  let blank := fun c : Char => trimmedSpaces.contains c.toNat
  ((cs.dropWhile blank).reverse.dropWhile blank).reverse

def trim (s : String) : String := String.ofList (trimList s.toList)

/-- A value's truth in a condition of the client, where every object is true. -/
def isTruthy : Value → Bool
  | .null => false
  | .bool b => b
  | .num q => q != 0
  | .str s => s != ""
  | _ => true

def hexDigit (c : Char) : Option Nat :=
  (Text.digit c).or <|
    if 0x61 ≤ c.toNat ∧ c.toNat ≤ 0x66 then some (c.toNat - 0x57)
    else if 0x41 ≤ c.toNat ∧ c.toNat ≤ 0x46 then some (c.toNat - 0x37)
    else none

/-- Digits after `0x`, `0o` or `0b`. -/
def radixLiteral (base : Nat) (cs : List Char) : Option ℚ :=
  if cs.isEmpty then none
  else (cs.foldlM (fun acc c => (hexDigit c).bind fun d =>
    if d < base then some (base * acc + d) else none) 0).map fun n : Nat => (n : ℚ)

def decimalLiteral (cs : List Char) : Option ℚ :=
  match cs.span fun c => c != 'e' && c != 'E' with
  | (mantissa, []) => Text.magnitude mantissa
  | (mantissa, _ :: '-' :: exponent) => do
    let m ← Text.magnitude mantissa
    let e ← Text.digits exponent
    pure (m / 10 ^ e.1)
  | (mantissa, _ :: '+' :: exponent) | (mantissa, _ :: exponent) => do
    let m ← Text.magnitude mantissa
    let e ← Text.digits exponent
    pure (m * 10 ^ e.1)

/-- `Number(text)` where it is finite. From half a unit above the largest double on, it is not. -/
def numberOfText (s : String) : Option ℚ :=
  let literal := match trimList s.toList with
    | '0' :: 'x' :: ds | '0' :: 'X' :: ds => radixLiteral 16 ds
    | '0' :: 'o' :: ds | '0' :: 'O' :: ds => radixLiteral 8 ds
    | '0' :: 'b' :: ds | '0' :: 'B' :: ds => radixLiteral 2 ds
    | '-' :: rest => (decimalLiteral rest).map Neg.neg
    | '+' :: rest => decimalLiteral rest
    | cs => decimalLiteral cs
  literal.filter fun q => |q| < 2 ^ 1024 - 2 ^ 970

def asString : Value → Option String
  | .str s => if trim s = "" then none else some (trim s)
  | .num q => some (Value.num q).text
  | _ => none

def firstString (values : List Value) : Option String := values.findSome? asString

def asNumber : Value → Option ℚ
  | .num q => some q
  | .str s => if trim s = "" then none else numberOfText s
  | _ => none

/-- `text.includes(part)`. -/
def includes (text part : String) : Bool := decide (part.toList <:+: text.toList)

inductive QueueItemType where
  | countLine
  | session
  | unknownItem
  deriving DecidableEq, Repr

def QueueItemType.name : QueueItemType → String
  | .countLine => "count_line"
  | .session => "session"
  | .unknownItem => "unknown_item"

/-- The status of an item. Any other text may have been stored by an earlier version. -/
inductive QueueStatus where
  | pending
  | pendingRetry
  | blockedConflict
  | failedManualReview
  | other (text : String)
  deriving DecidableEq, Repr

abbrev RecordData := List (String × Value)

/-- A field of the data; an absent one and one that holds null read alike everywhere here. -/
def RecordData.field (data : RecordData) (name : String) : Value := (data.lookup name).getD .null

/-- A field of the embedded `audit` object. -/
def RecordData.auditField (data : RecordData) (name : String) : Value :=
  match data.field "audit" with
  | .dict entries => ((entries.lookup name).map Atom.toValue).getD .null
  | _ => .null

structure QueueItem where
  id : String
  type : QueueItemType
  data : RecordData
  timestamp : String
  retries : Nat := 0
  status : QueueStatus := .pending
  idempotencyKey : Option String := none
  lastError : Option String := none
  lastAttemptedAt : Option String := none
  deriving DecidableEq

/-- `resolveIdempotencyKey`: a blank key in `audit` gives the empty key, not none. -/
def resolveIdempotencyKey (type : QueueItemType) (data : RecordData) : Option String :=
  let named : Option String :=
    match type with
    | .countLine =>
      match if isTruthy (data.field "_id") then data.field "_id" else data.field "id" with
      | .str lineId => if trim lineId = "" then none else some (trim lineId)
      | _ => none
    | .session =>
      let operation := match data.field "operation" with
        | .str text => trim text
        | _ => "session"
      let sessionId := match data.field "sessionId", data.field "session_id", data.field "id" with
        | .str text, _, _ => trim text
        | _, .str text, _ => trim text
        | _, _, .str text => trim text
        | _, _, _ => ""
      if sessionId = "" then none else some (operation ++ ":" ++ sessionId)
    | .unknownItem =>
      match data.field "barcode", data.field "session_id" with
      | .str barcode, .str sessionId => some (trim sessionId ++ ":" ++ trim barcode)
      | _, _ => none
  let audited : Option String :=
    match data.auditField "idempotency_key" with
    | .str key => some (trim key)
    | _ => named
  match data.field "idempotency_key" with
  | .str key => if trim key = "" then audited else some (trim key)
  | _ => audited

/-- `key || other`. -/
def keyOr (key other : Option String) : Option String := if key = none ∨ key = some "" then other else key

def normalizeQueueItem (item : QueueItem) : QueueItem :=
  { item with
    status := match item.status with
      | .other _ => .pending
      | known => known
    idempotencyKey := keyOr item.idempotencyKey (resolveIdempotencyKey item.type item.data) }

/-- `getOfflineQueue` on what is stored. A read that fails gives the empty queue. -/
def getOfflineQueue (stored : List QueueItem) (fails : Bool) : List QueueItem :=
  if fails then [] else stored.map normalizeQueueItem

/-- `suffix` is the time and the random text of an id without a key. -/
def buildQueueItemId (type : QueueItemType) (key : Option String) (suffix : String) : String :=
  match key with
  | none | some "" => type.name ++ "_" ++ suffix
  | some key => type.name ++ ":" ++ key

/-- A partial item. The two nullable fields may be patched with null. -/
structure QueuePatch where
  id : Option String := none
  type : Option QueueItemType := none
  data : Option RecordData := none
  timestamp : Option String := none
  retries : Option Nat := none
  status : Option QueueStatus := none
  idempotencyKey : Option String := none
  lastError : Option (Option String) := none
  lastAttemptedAt : Option (Option String) := none
  deriving DecidableEq

def QueuePatch.apply (patch : QueuePatch) (item : QueueItem) : QueueItem where
  id := patch.id.getD item.id
  type := patch.type.getD item.type
  data := patch.data.getD item.data
  timestamp := patch.timestamp.getD item.timestamp
  retries := patch.retries.getD item.retries
  status := patch.status.getD item.status
  idempotencyKey := patch.idempotencyKey.or item.idempotencyKey
  lastError := patch.lastError.getD item.lastError
  lastAttemptedAt := patch.lastAttemptedAt.getD item.lastAttemptedAt

structure RetryOptions where
  error : Option String := none
  status : Option QueueStatus := none
  attemptedAt : String
  deriving DecidableEq

/-- The operations on the queue, each with its arguments and its clock. -/
inductive QueueOp where
  | addToOfflineQueue (type : QueueItemType) (data : RecordData) (timestamp suffix : String)
  | removeManyFromOfflineQueue (ids : List String)
  | updateQueueItemRetries (id : String) (options : RetryOptions)
  | updateOfflineQueueItem (id : String) (patch : QueuePatch)
  deriving DecidableEq

def retriedItem (options : RetryOptions) (item : QueueItem) : QueueItem :=
  { item with
    retries := item.retries + 1
    status := options.status.getD .pendingRetry
    lastError := options.error.or item.lastError
    lastAttemptedAt := some options.attemptedAt }

/-- The item a call of `addToOfflineQueue` appends. -/
def newQueueItem (type : QueueItemType) (data : RecordData) (timestamp suffix : String) : QueueItem where
  id := buildQueueItemId type (resolveIdempotencyKey type data) suffix
  type := type
  data := data
  timestamp := timestamp
  idempotencyKey := resolveIdempotencyKey type data

/-- Where an item with this type and key stands already. -/
def existingIndex (type : QueueItemType) (data : RecordData) (queue : List QueueItem) : Option Nat :=
  match resolveIdempotencyKey type data with
  | none => none
  | some key => queue.findIdx? fun item => item.type == type && item.idempotencyKey == some key

def replacedData (data : RecordData) (timestamp : String) (item : QueueItem) : QueueItem :=
  { item with data := data, timestamp := timestamp, status := .pending, lastError := none }

/-- The array an operation writes back after it has read `queue`. -/
def QueueOp.apply (queue : List QueueItem) : QueueOp → List QueueItem
  | .addToOfflineQueue type data timestamp suffix =>
    match existingIndex type data queue with
    | some index => queue.modify index (replacedData data timestamp)
    | none => queue ++ [newQueueItem type data timestamp suffix]
  | .removeManyFromOfflineQueue ids => queue.filter fun item => !ids.contains item.id
  | .updateQueueItemRetries id options =>
    queue.map fun item => if item.id = id then retriedItem options item else item
  | .updateOfflineQueueItem id patch =>
    queue.map fun item => if item.id = id then normalizeQueueItem (patch.apply item) else item

/-- The operation on the stored queue as a whole, its read and its write at once. -/
def QueueOp.run (stored : List QueueItem) (op : QueueOp) : List QueueItem :=
  op.apply (getOfflineQueue stored false)

def manualReviewRetriesThreshold : Nat := 5

def deriveFailureStatus (errorMessage : String) (nextRetryCount : Nat) : QueueStatus :=
  let normalized := Text.lower errorMessage
  if includes normalized "duplicate" || includes normalized "conflict" ||
      includes normalized "already been counted" then .blockedConflict
  else if manualReviewRetriesThreshold ≤ nextRetryCount then .failedManualReview
  else .pendingRetry

def resolveClientRecordId (item : QueueItem) : String :=
  (firstString [(item.idempotencyKey.map Value.str).getD .null, item.data.field "idempotency_key",
    item.data.auditField "idempotency_key", item.data.field "_id", item.data.field "id",
    .str item.id]).getD item.id

/-- The required fields of a record. Nothing here reads the others. -/
structure OutgoingRecord where
  clientRecordId : String
  sessionId : String
  locationId : String
  floorId : String
  rackId : String
  itemCode : String
  verifiedQty : ℚ

/-- `buildSyncRecord`, with the text that says why an item cannot be sent. -/
def buildSyncRecord (item : QueueItem) : Except String OutgoingRecord :=
  if item.type ≠ .countLine then
    .error ("Unsupported offline item type '" ++ item.type.name ++ "' for records-based sync")
  else
    let data := item.data
    let clientRecordId := resolveClientRecordId item
    let sessionId := firstString [data.field "session_id"]
    let itemCode := firstString [data.field "item_code"]
    let floorId := firstString
      [data.field "floor_id", data.field "floor_no", data.field "floor", data.field "location_name"]
    let rackId := firstString [data.field "rack_id", data.field "rack_no", data.field "rack"]
    let locationId := firstString
      [data.field "location_id", data.field "location", data.field "location_type",
        data.field "warehouse_id", data.field "warehouse", data.field "mark_location",
        (floorId.map Value.str).getD .null]
    let verifiedQty := (asNumber (data.field "verified_qty")).or (asNumber (data.field "counted_qty"))
    let missingFields :=
      (if clientRecordId = "" then ["client_record_id"] else []) ++
      (if sessionId.isNone then ["session_id"] else []) ++
      (if locationId.isNone then ["location_id"] else []) ++
      (if floorId.isNone then ["floor_id"] else []) ++
      (if rackId.isNone then ["rack_id"] else []) ++
      (if itemCode.isNone then ["item_code"] else []) ++
      (if verifiedQty.isNone then ["verified_qty"] else [])
    match sessionId, locationId, floorId, rackId, itemCode, verifiedQty with
    | some sessionId, some locationId, some floorId, some rackId, some itemCode, some verifiedQty =>
      if clientRecordId = "" then
        .error ("Missing required sync fields: " ++ ", ".intercalate missingFields)
      else .ok ⟨clientRecordId, sessionId, locationId, floorId, rackId, itemCode, verifiedQty⟩
    | _, _, _, _, _, _ => .error ("Missing required sync fields: " ++ ", ".intercalate missingFields)

/-- The items of a batch that are sent. -/
def validBatch (batch : List QueueItem) : List QueueItem :=
  let validQueueIds := (batch.filter fun item => (buildSyncRecord item).isOk).map (·.id)
  batch.filter fun item => validQueueIds.contains item.id

/-- `handleInvalidSyncItems`: one update for each item that cannot be sent. -/
def handleInvalidSyncItems (now : String) (batch : List QueueItem) : List QueueOp :=
  batch.filterMap fun item =>
    match buildSyncRecord item with
    | .ok _ => none
    | .error text => some (.updateOfflineQueueItem item.id
      { status := some .failedManualReview, lastError := some (some text), lastAttemptedAt := some (some now) })

structure BatchResult where
  success : Bool
  id : String
  message : Option String := none
  deriving DecidableEq

/-- `queueItemsById.get`: a later item replaces an earlier one under the same name. -/
def resultItem (batch : List QueueItem) (name : String) : Option QueueItem :=
  batch.reverse.find? fun item => item.id == name || resolveClientRecordId item == name

def resultItemId (batch : List QueueItem) (result : BatchResult) : String :=
  match resultItem batch result.id with
  | some item => if item.id = "" then result.id else item.id
  | none => result.id

/-- The retry updates `handleBatchResults` starts at once. -/
def retryUpdates (now : String) (batch : List QueueItem) (results : List BatchResult) : List QueueOp :=
  (results.filter fun result => !result.success).map fun result =>
    let errorMessage := match result.message with
      | none | some "" => "Unknown error"
      | some text => text
    let nextRetryCount := ((resultItem batch result.id).map (·.retries)).getD 0 + 1
    .updateQueueItemRetries (resultItemId batch result)
      { error := some errorMessage, status := some (deriveFailureStatus errorMessage nextRetryCount),
        attemptedAt := now }

/-- The ids `handleBatchResults` removes after them. -/
def syncedQueueIds (batch : List QueueItem) (results : List BatchResult) : List String :=
  (results.filter (·.success)).map (resultItemId batch)

/-- A request that failed, with the status of the response if there was one. -/
structure BatchError where
  status : Option Nat := none
  message : Option String := none
  deriving DecidableEq

def toErrorMessage (error : BatchError) : String := error.message.getD "Unknown batch error"

def shouldRetryAfterAuth (error : BatchError) : Bool := error.status == some 401

/-- What a failure notes on an item. -/
def failureOptions (now : String) (error : BatchError) (item : QueueItem) : RetryOptions where
  error := some (toErrorMessage error)
  status := some (deriveFailureStatus (toErrorMessage error) (item.retries + 1))
  attemptedAt := now

/-- `handleBatchFailure`: one update for each item, all started at once. -/
def handleBatchFailure (now : String) (batch : List QueueItem) (error : BatchError) : List QueueOp :=
  batch.map fun item =>
    if shouldRetryAfterAuth error then
      .updateOfflineQueueItem item.id
        { status := some .pendingRetry, lastError := some (some (toErrorMessage error)),
          lastAttemptedAt := some (some now) }
    else .updateQueueItemRetries item.id (failureOptions now error item)

def batchSize : Nat := 50

/-- The batches of a queue, which is no longer than the fuel. -/
def batches : Nat → List QueueItem → List (List QueueItem)
  | 0, _ => []
  | _, [] => []
  | fuel + 1, queue => queue.take batchSize :: batches fuel (queue.drop batchSize)

theorem flatten_batches {fuel : Nat} {queue : List QueueItem} (short : queue.length ≤ fuel) :
    (batches fuel queue).flatten = queue := by
  induction fuel generalizing queue with
  | zero =>
    cases queue with
    | nil => rfl
    | cons item rest => simp at short
  | succ fuel ih =>
    cases queue with
    | nil => rfl
    | cons item rest =>
      have shorter : ((item :: rest).drop batchSize).length ≤ fuel := by
        simp only [List.length_drop, batchSize]
        simp only [List.length_cons] at short ⊢
        omega
      rw [batches, List.flatten_cons, ih shorter, List.take_append_drop]
      simp

end StockVerification
