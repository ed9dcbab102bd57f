import StockVerification.Foundation.Interleaving
import StockVerification.Foundation.Snapshots
import StockVerification.WriteEffects

/-!
# Unknown items

Source: backend/services/unknown_item_service.py:33-166 and 224-493, backend/core/uow.py:57-130.

A report of an item nobody knew is mapped to a known item, mapped to a new one, dismissed,
escalated or attached to a session. Each call reads the report, checks its session and updates the
report by its version, in a transaction of its own. A mapping first writes a count line for the
report, which the write core refuses for want of a remark. No call looks at the report's status, and
the dismissal leaves its transaction uncommitted. Audit records are not modelled.
-/
namespace StockVerification

open Foundation Foundation.Action

/-- `_resolve_filter`. -/
def resolveUnknownFilter (itemId : String) : Filter :=
  if isObjectIdText itemId then .either (.eq "id" (.str itemId)) (.eq "_id" (.oid (Text.lower itemId)))
  else .eq "id" (.str itemId)

/-- The filter of a versioned update. Both parts may be an `$or`, and then the second one takes the
place of the first in the merged dictionary. -/
def versionedUnknownFilter (itemId : String) (expected : Nat) : Filter :=
  if isObjectIdText itemId && expected == 0 then buildVersionFilter expected
  else .both (resolveUnknownFilter itemId) (buildVersionFilter expected)

def unknownItemIndexes : List UniqueIndex := [{ field := "_id" }]

def findUnknownItem (itemId : String) (s : Store) : Except Error Doc :=
  match s.unknownItems.find? (resolveUnknownFilter itemId).holds with
  | some item => .ok item
  | none => .error (.http 404 "Unknown item report not found")

/-- The update every operation ends with. -/
def updateUnknownItem (itemId : String) (existing : Doc) (fields : List (String × Value)) (s : Store) :
    Except Error Store := do
  let (answer, items) ← liftFault (Collection.updateOne unknownItemIndexes
    (versionedUnknownFilter itemId (coerceVersion (existing.get "version")))
    { set := Doc.ofList fields, inc := [("version", 1)] } s.unknownItems)
  require answer.isSome (.http 409 "Unknown item concurrent update conflict")
  pure { s with unknownItems := items }

structure MappedItem where
  unknownItemId : String
  targetItemCode : String
  countLineId : String
  manualSkuCreated : Bool

def unknownItemId (unknown : Doc) : String := ((unknown.get "id").orElse (unknown.get "_id")).textOrEmpty

def mappedCountLine (env : Env) (unknown target : Doc) (sessionId locationId floorId rackId itemCode : String)
    (countedQty : ℚ) (actorId : String) (resolveNotes : Option String) : Doc :=
  Doc.ofList [("id", .str env.freshId), ("session_id", .str sessionId), ("location_id", .str locationId),
    ("floor_id", .str floorId), ("rack_id", .str rackId), ("floor_no", .str floorId), ("rack_no", .str rackId),
    ("item_code", .str itemCode), ("barcode", (target.get "barcode").orElse (unknown.get "barcode")),
    ("counted_qty", .num countedQty), ("counted_by", (unknown.get "reported_by").orElse (.str actorId)),
    ("counted_at", (unknown.get "reported_at").orElse (.date env.now)), ("updated_at", .date env.now),
    ("is_mapped_from_unknown", .bool true), ("mapping_notes", (resolveNotes.map Value.str).getD .null),
    ("mapped_by", .str actorId),
    ("idempotency_key", .str ("unknown-map:" ++ unknownItemId unknown ++ ":" ++ itemCode)),
    ("version", .num 1), ("previous_version_id", .null), ("recount_of_id", .null)]

def mapUnknownToKnownItem (env : Env) (committed : Store) (unknown target : Doc) (actorId : String)
    (resolveNotes : Option String) (manualSkuCreated : Bool) : Request MappedItem := do
  let itemId := unknownItemId unknown
  let itemCode := Text.strip (target.get "item_code").textOrEmpty
  reads fun _ => require (itemCode != "") (.http 400 "Target item_code is required")
  let sessionId := Text.strip (unknown.get "session_id").textOrEmpty
  let session ← reads (ensureSessionActive sessionId)
  let locationId := Text.strip (unknown.get "location_id").textOrEmpty
  let floorId := Text.strip ((unknown.get "floor_id").orElse (unknown.get "floor_no")).textOrEmpty
  let rackId := Text.strip ((unknown.get "rack_id").orElse (unknown.get "rack_no")).textOrEmpty
  reads fun _ => require (locationId != "" && floorId != "" && rackId != "")
    (.http 400 "CRITICAL: Unknown-item mapping requires location_id, floor_id, rack_id")
  let countedQty ← reads fun _ => floatOrError ((unknown.get "counted_qty").orElse (.num 1))
  let _ ← processWriteCore env committed
    { session := some session, sessionId := .str sessionId, username := actorId }
    (.insertOne (mappedCountLine env unknown target sessionId locationId floorId rackId itemCode countedQty
      actorId resolveNotes))
  writes (updateUnknownItem itemId unknown [("status", .str "RESOLVED"), ("resolved_at", .date env.now),
    ("resolved_by", .str actorId), ("resolution", .str "MAPPED"), ("target_item_code", .str itemCode),
    ("resolve_notes", (resolveNotes.map Value.str).getD .null), ("updated_at", .date env.now),
    ("updated_by", .str actorId)])
  pure ⟨itemId, itemCode, env.freshId, manualSkuCreated⟩

/-- `resolve_to_known_item`, up to its commit. -/
def resolveToKnownItem (env : Env) (committed : Store) (itemId itemCode actorId : String)
    (resolveNotes : Option String) : Request MappedItem := do
  let unknown ← reads (findUnknownItem itemId)
  let target ← reads fun s => match s.erpItems.find? (Filter.eq "item_code" (.str itemCode)).holds with
    | some target => .ok target
    | none => .error (.http 404 ("Target SKU " ++ itemCode ++ " not found in ERP"))
  mapUnknownToKnownItem env committed unknown target actorId resolveNotes false

structure ManualSku where
  itemCode : String
  itemName : String
  category : String
  subcategory : Option String := none
  mrp : ℚ
  uomCode : String

def manualItem (env : Env) (unknown : Doc) (sku : ManualSku) (actorId : String) : Doc :=
  Doc.ofList [("item_code", .str sku.itemCode), ("item_name", .str sku.itemName),
    ("barcode", (unknown.get "barcode").orElse (.str "")), ("category", .str sku.category),
    ("subcategory", (sku.subcategory.map Value.str).getD .null), ("mrp", .num sku.mrp),
    ("uom_code", .str sku.uomCode), ("stock_qty", .num 0), ("created_at", .date env.now),
    ("created_by", .str actorId), ("is_manually_created", .bool true), ("_id", .oid env.freshOid)]

/-- `create_manual_sku_and_resolve`, up to its commit. -/
def createManualSkuAndResolve (env : Env) (committed : Store) (itemId : String) (sku : ManualSku)
    (actorId : String) (resolveNotes : Option String) : Request MappedItem := do
  let unknown ← reads (findUnknownItem itemId)
  reads fun s => require (!s.erpItems.any (Filter.eq "item_code" (.str sku.itemCode)).holds)
    (.http 400 "Item code already exists")
  writes fun s => do
    let items ← liftFault (Collection.insertOne erpItemIndexes (manualItem env unknown sku actorId) s.erpItems)
    pure { s with erpItems := items }
  mapUnknownToKnownItem env committed unknown (manualItem env unknown sku actorId) actorId resolveNotes true

/-- The session check of an escalation and of a dismissal. -/
def ensureItemSessionOpen (existing : Doc) (s : Store) : Except Error Unit :=
  let sessionId := Text.strip (existing.get "session_id").textOrEmpty
  if sessionId = "" then .ok () else (ensureSessionNotFinalized sessionId s).map fun _ => ()

def refreshedItem (itemId : String) (otherwise : Doc) (s : Store) : Except Error Doc :=
  .ok ((s.unknownItems.find? (resolveUnknownFilter itemId).holds).getD otherwise)

/-- `attach_to_session`, up to its commit. -/
def attachToSession (env : Env) (itemId sessionId locationId floorId rackId actorId : String) : Request Doc := do
  let _ ← reads (ensureSessionActive sessionId)
  let existing ← reads (findUnknownItem itemId)
  writes (updateUnknownItem itemId existing [("session_id", .str sessionId), ("location_id", .str locationId),
    ("floor_id", .str floorId), ("rack_id", .str rackId), ("floor_no", .str floorId), ("rack_no", .str rackId),
    ("updated_at", .date env.now), ("updated_by", .str actorId)])
  reads (refreshedItem itemId existing)

/-- `escalate_for_review`, up to its commit. -/
def escalateForReview (env : Env) (itemId actorId : String) (reason : Option String) : Request Doc := do
  let existing ← reads (findUnknownItem itemId)
  reads (ensureItemSessionOpen existing)
  writes (updateUnknownItem itemId existing [("status", .str "ESCALATED"), ("escalated_at", .date env.now),
    ("escalated_by", .str actorId), ("escalation_reason", (reason.map Value.str).getD .null),
    ("updated_at", .date env.now), ("updated_by", .str actorId)])
  reads (refreshedItem itemId existing)

def dismissalFields (env : Env) (actorId : String) (reason : Option String) : List (String × Value) :=
  [("status", .str "DISMISSED"), ("dismissed_at", .date env.now), ("dismissed_by", .str actorId),
    ("updated_at", .date env.now), ("updated_by", .str actorId)] ++
    if (reason.getD "") != "" then [("dismiss_reason", .str (reason.getD ""))] else []

/-- `dismiss_unknown_item`, the whole of it: no commit follows. -/
def dismissUnknownItem (env : Env) (itemId actorId : String) (reason : Option String) : Request Doc := do
  let existing ← reads (findUnknownItem itemId)
  reads (ensureItemSessionOpen existing)
  writes (updateUnknownItem itemId existing (dismissalFields env actorId reason))
  reads (refreshedItem itemId ((existing.update (Doc.ofList (dismissalFields env actorId reason))).set "version"
    (.num (coerceVersion (existing.get "version") + 1))))

inductive UnknownOp where
  | resolve (itemCode : String) (resolveNotes : Option String)
  | createManualSku (sku : ManualSku) (resolveNotes : Option String)
  | dismiss (reason : Option String)
  | escalate (reason : Option String)
  | attach (sessionId locationId floorId rackId : String)

structure UnknownCall where
  env : Env
  itemId : String
  actorId : String
  op : UnknownOp

/-- What a call answers its caller. -/
inductive UnknownAnswer where
  | mapped (answer : MappedItem)
  | item (answer : Doc)

/-- The transaction of a call. Reads outside of it see what others have committed. -/
def UnknownCall.block (call : UnknownCall) (committed : Store) : Request UnknownAnswer :=
  match call.op with
  | .resolve itemCode notes => do
    let answer ← resolveToKnownItem call.env committed call.itemId itemCode call.actorId notes
    pure (.mapped answer)
  | .createManualSku sku notes => do
    let answer ← createManualSkuAndResolve call.env committed call.itemId sku call.actorId notes
    pure (.mapped answer)
  | .dismiss reason => do
    let answer ← dismissUnknownItem call.env call.itemId call.actorId reason
    pure (.item answer)
  | .escalate reason => do
    let answer ← escalateForReview call.env call.itemId call.actorId reason
    pure (.item answer)
  | .attach sessionId locationId floorId rackId => do
    let answer ← attachToSession call.env call.itemId sessionId locationId floorId rackId call.actorId
    pure (.item answer)

/-- Whether the call commits its transaction before it answers. -/
def UnknownOp.commits : UnknownOp → Bool
  | .dismiss _ => false
  | _ => true

/-- A call that succeeded: what its transaction built, and what was committed when it answered. -/
structure UnknownSuccess where
  call : UnknownCall
  answer : UnknownAnswer
  built : Store
  committed : Store

structure UnknownState where
  db : Versioned Store
  successes : List UnknownSuccess := []

/-- A call that has begun its transaction has taken its snapshot. -/
structure UnknownTask where
  call : UnknownCall
  seen : Option (Snapshot Store) := none

/-- One step of a call: it begins, or it runs its transaction to the end. Every transaction writes
the report, so one that another has overtaken is aborted (one whose filter leads it to another
report is treated alike). -/
def resumeUnknown (s : UnknownState) (task : UnknownTask) : UnknownState × Option UnknownTask :=
  match task.seen with
  | none => (s, some { task with seen := some s.db.snapshot })
  | some seen =>
    match task.call.block s.db.state seen.state with
    | .error _ _ => (s, none)
    | .ok answer next =>
      match s.db.commit seen next with
      | none => (s, none)
      | some db =>
        let after := if task.call.op.commits then db else s.db
        ({ db := after, successes := ⟨task.call, answer, next, after.state⟩ :: s.successes }, none)

abbrev UnknownRun := Concurrent UnknownState UnknownTask

/-- The run of the calls that name one report by any of these ids. -/
def startUnknown (names : List String) (_ : UnknownState) (call : UnknownCall) : Option UnknownTask :=
  if names.contains call.itemId then some { call := call } else none

def UnknownRun.step (names : List String) : UnknownRun → Move UnknownCall → UnknownRun :=
  Concurrent.step (startUnknown names) resumeUnknown

def UnknownCall.updateFilter (call : UnknownCall) (existing : Doc) : Filter :=
  versionedUnknownFilter call.itemId (coerceVersion (existing.get "version"))

/-- A transaction that comes to its end: the report it read and the document it changed. -/
structure UnknownEffect (call : UnknownCall) (existing old new : Doc) (s t : Store) : Prop where
  found : s.unknownItems.find? (resolveUnknownFilter call.itemId).holds = some existing
  updated : s.unknownItems.find? (call.updateFilter existing).holds = some old
  items : t.unknownItems = Collection.replaceFirst (call.updateFilter existing).holds new s.unknownItems
  keepsId : new "id" = old "id"
  keepsOid : new "_id" = old "_id"
  lines : t.countLines = s.countLines

variable {s : Store}

theorem findUnknownItem_ok {itemId : String} {item : Doc} (found : findUnknownItem itemId s = .ok item) :
    s.unknownItems.find? (resolveUnknownFilter itemId).holds = some item := by
  unfold findUnknownItem at found
  split at found
  · next stored same =>
    cases found
    exact same
  · cases found

variable {t : Store}

/-- An update that names neither id changes one document and keeps its ids. -/
theorem updateUnknownItem_ok {itemId : String} {existing : Doc} {fields : List (String × Value)}
    (updated : updateUnknownItem itemId existing fields s = .ok t)
    (noId : Doc.ofList fields "id" = none) (noOid : Doc.ofList fields "_id" = none) :
    ∃ old new,
      s.unknownItems.find? (versionedUnknownFilter itemId (coerceVersion (existing.get "version"))).holds = some old ∧
      t = { s with unknownItems := t.unknownItems } ∧
      t.unknownItems = Collection.replaceFirst (versionedUnknownFilter itemId
        (coerceVersion (existing.get "version"))).holds new s.unknownItems ∧
      new "id" = old "id" ∧ new "_id" = old "_id" := by
  simp only [updateUnknownItem, bind_success, liftFault_ok, require_ok, pure_success] at updated
  obtain ⟨⟨answer, items⟩, changed, _, answered, rfl⟩ := updated
  rcases Collection.updateOne_ok changed with ⟨_, rfl, _⟩ | ⟨old, new, found, applied, _, rfl, rfl⟩
  · cases answered
  · have kept : ∀ field, Doc.ofList fields field = none → field ≠ "version" → new field = old field := by
      intro field unset other
      rw [Update.apply_field applied]
      · change (Doc.ofList fields field).or _ = _
        rw [unset]
        rfl
      · intro entry member
        cases List.mem_singleton.mp member
        exact Ne.symm other
      · simp
    exact ⟨old, new, found, rfl, rfl, kept "id" noId (by decide), kept "_id" noOid (by decide)⟩

theorem mapUnknownToKnownItem_refused {env : Env} {committed : Store} {unknown target : Doc}
    {actorId : String} {notes : Option String} {manual : Bool} {answer : MappedItem} :
    mapUnknownToKnownItem env committed unknown target actorId notes manual s ≠ .ok answer t := by
  intro ran
  simp only [mapUnknownToKnownItem, bind_ok, reads_ok, writes_ok, pure_ok] at ran
  obtain ⟨_, _, _, session, _, _, _, _, _, countedQty, _, ⟨_, rfl⟩, result, _, written, _⟩ := ran
  obtain ⟨p, _, prepared, _⟩ := processWriteCore_ok written
  obtain ⟨final, hash, _, left, _⟩ := prepareWrite_insert prepared
  obtain ⟨e, evaluated, _⟩ := left.governed rfl
  simp only [evaluateGovernanceForDocument, bind_success, require_ok] at evaluated
  obtain ⟨_, _, _, _, _, _, _, remarked, _⟩ := evaluated
  rw [Doc.get, Doc.set_other _ _ (by decide)] at remarked
  cases remarked

/-- What a transaction does to the reports and to the lines. -/
theorem block_effect {call : UnknownCall} {committed : Store} {answer : UnknownAnswer}
    (ran : call.block committed s = .ok answer t) : ∃ existing old new, UnknownEffect call existing old new s t := by
  rcases call with ⟨env, itemId, actorId, op⟩
  cases op with
  | resolve itemCode notes =>
    simp only [UnknownCall.block, resolveToKnownItem, bind_ok] at ran
    obtain ⟨_, _, ⟨_, _, _, _, _, _, mapped⟩, _⟩ := ran
    exact absurd mapped mapUnknownToKnownItem_refused
  | createManualSku sku notes =>
    simp only [UnknownCall.block, createManualSkuAndResolve, bind_ok] at ran
    obtain ⟨_, _, ⟨_, _, _, _, _, _, _, _, _, mapped⟩, _⟩ := ran
    exact absurd mapped mapUnknownToKnownItem_refused
  | dismiss reason =>
    simp only [UnknownCall.block, dismissUnknownItem, bind_ok, reads_ok, writes_ok, pure_ok] at ran
    obtain ⟨_, v, ⟨existing, _, ⟨found, rfl⟩, _, _, ⟨_, rfl⟩, _, w, changed, _, rfl⟩, _, rfl⟩ := ran
    have unnamed : ∀ field ∈ ["id", "_id"], Doc.ofList (dismissalFields env actorId reason) field = none := by
      intro field member
      unfold dismissalFields
      split
      all_goals
        rcases List.mem_pair.mp member with rfl | rfl
        all_goals rfl
    obtain ⟨old, new, updated, rest, items, sameId, sameOid⟩ :=
      updateUnknownItem_ok changed (unnamed "id" (by decide)) (unnamed "_id" (by decide))
    exact ⟨existing, old, new, findUnknownItem_ok found, updated, items, sameId, sameOid, by rw [rest]⟩
  | escalate reason =>
    simp only [UnknownCall.block, escalateForReview, bind_ok, reads_ok, writes_ok, pure_ok] at ran
    obtain ⟨_, v, ⟨existing, _, ⟨found, rfl⟩, _, _, ⟨_, rfl⟩, _, w, changed, _, rfl⟩, _, rfl⟩ := ran
    obtain ⟨old, new, updated, rest, items, sameId, sameOid⟩ := updateUnknownItem_ok changed rfl rfl
    exact ⟨existing, old, new, findUnknownItem_ok found, updated, items, sameId, sameOid, by rw [rest]⟩
  | attach sessionId locationId floorId rackId =>
    simp only [UnknownCall.block, attachToSession, bind_ok, reads_ok, writes_ok, pure_ok] at ran
    obtain ⟨_, v, ⟨_, _, ⟨_, rfl⟩, existing, _, ⟨found, rfl⟩, _, w, changed, _, rfl⟩, _, rfl⟩ := ran
    obtain ⟨old, new, updated, rest, items, sameId, sameOid⟩ := updateUnknownItem_ok changed rfl rfl
    exact ⟨existing, old, new, findUnknownItem_ok found, updated, items, sameId, sameOid, by rw [rest]⟩

def storedUnknown (name : String) (s : Store) : Option Doc :=
  s.unknownItems.find? (resolveUnknownFilter name).holds

def isSettledItem (item : Doc) : Bool :=
  item.get "status" == .str "RESOLVED" || item.get "status" == .str "DISMISSED"

/-- Before the calls: the names lead to one report, and nobody has called. -/
structure UnknownStart (names : List String) (c : UnknownRun) : Prop where
  one : ∃ place, ∀ name ∈ names, c.store.db.state.unknownItems.findIdx? (resolveUnknownFilter name).holds = some place
  unanswered : c.store.successes = []
  idle : ∀ slot, c.task slot = none

/-- The report is settled once: one line at most comes of it, what is settled stays as it is, and
what succeeded is committed. -/
structure SettledOnce (names : List String) (first mid last : UnknownRun) : Prop where
  oneLine : last.store.db.state.countLines.length ≤ first.store.db.state.countLines.length + 1
  final : ∀ name ∈ names, ∀ item, storedUnknown name mid.store.db.state = some item →
    isSettledItem item = true → storedUnknown name last.store.db.state = some item
  durable : ∀ success ∈ last.store.successes, success.committed = success.built

/-- The call commits, the report it reads is not settled, and its update goes to that report. -/
def UnknownCall.onOpenItem (call : UnknownCall) (s : Store) : Bool :=
  match storedUnknown call.itemId s with
  | none => true
  | some existing =>
    call.op.commits && !isSettledItem existing &&
      decide (s.unknownItems.findIdx? (call.updateFilter existing).holds =
        s.unknownItems.findIdx? (resolveUnknownFilter call.itemId).holds)

/-- Where a transaction comes to its end, its call is one on an open report. -/
def UnknownRun.onOpenItem (c : UnknownRun) : Move UnknownCall → Bool
  | .resume slot =>
    match c.task slot with
    | some { call := call, seen := some seen } =>
      decide (c.store.db.version ≠ seen.since) || !(call.block c.store.db.state).succeeds seen.state ||
        call.onOpenItem seen.state
    | _ => true
  | _ => true

theorem resolveUnknownFilter_same {name : String} {old new : Doc} (sameId : new "id" = old "id")
    (sameOid : new "_id" = old "_id") :
    (resolveUnknownFilter name).holds new = (resolveUnknownFilter name).holds old := by
  unfold resolveUnknownFilter
  split
  · simp only [Filter.holds, Filter.fieldIs, sameId, sameOid]
  · simp only [Filter.holds, Filter.fieldIs, sameId]

/-- What a run keeps. `lines` is the number of count lines it began with. -/
structure UnknownSound (names : List String) (place lines : Nat) (c : UnknownRun) : Prop where
  located : ∀ name ∈ names, c.store.db.state.unknownItems.findIdx? (resolveUnknownFilter name).holds = some place
  noLine : c.store.db.state.countLines.length = lines
  durable : ∀ success ∈ c.store.successes, success.committed = success.built
  named : ∀ slot task, c.task slot = some task → task.call.itemId ∈ names
  begun : ∀ slot task seen, c.task slot = some task → task.seen = some seen → seen.Of c.store.db

variable {names : List String} {c : UnknownRun}

theorem UnknownStart.sound (start : UnknownStart names c) :
    ∃ place, UnknownSound names place c.store.db.state.countLines.length c := by
  obtain ⟨place, located⟩ := start.one
  refine ⟨place, located, rfl, ?_, ?_, ?_⟩
  · intro success member
    rw [start.unanswered] at member
    cases member
  · intro slot task held
    rw [start.idle] at held
    cases held
  · intro slot task seen held
    rw [start.idle] at held
    cases held

variable {lines : Nat}

section

variable {place : Nat} (sound : UnknownSound names place lines c)
include sound

/-- The store after a transaction on an open report. -/
theorem UnknownSound.committed {call : UnknownCall} {answer : UnknownAnswer} {next : Store}
    (onItem : call.itemId ∈ names) (ran : call.block c.store.db.state c.store.db.state = .ok answer next)
    (opened : call.onOpenItem c.store.db.state = true) :
    call.op.commits = true ∧
    (∃ item, c.store.db.state.unknownItems[place]? = some item ∧ isSettledItem item = false) ∧
    (∀ name ∈ names, next.unknownItems.findIdx? (resolveUnknownFilter name).holds = some place) ∧
    next.countLines.length = lines := by
  obtain ⟨existing, old, new, effect⟩ := block_effect ran
  have here := sound.located call.itemId onItem
  have stored : c.store.db.state.unknownItems[place]? = some existing := by
    rw [← Collection.find_of_findIdx here]
    exact effect.found
  unfold UnknownCall.onOpenItem storedUnknown at opened
  rw [effect.found] at opened
  simp only [Bool.and_eq_true, Bool.not_eq_true', decide_eq_true_eq] at opened
  obtain ⟨⟨commits, unsettled⟩, aimed⟩ := opened
  rw [here] at aimed
  have same : old = existing := by
    have found := effect.updated
    rw [Collection.find_of_findIdx aimed, stored] at found
    exact (Option.some.inj found).symm
  subst same
  have items : next.unknownItems = c.store.db.state.unknownItems.set place new := by
    rw [effect.items]
    exact Collection.replaceFirst_of_findIdx aimed
  refine ⟨commits, ⟨old, stored, unsettled⟩, ?_, ?_⟩
  · intro name member
    rw [items, Collection.findIdx_set stored (resolveUnknownFilter_same effect.keepsId effect.keepsOid)]
    exact sound.located name member
  · rw [effect.lines]
    exact sound.noLine

end

/-- A step keeps the invariant, and it changes the store only while the report is open. -/
theorem UnknownSound.step {place : Nat} {move : Move UnknownCall}
    (sound : UnknownSound names place lines c) (meets : c.onOpenItem move = true) :
    UnknownSound names place lines (c.step names move) ∧ ((c.step names move).store.db = c.store.db ∨
        ∃ item, c.store.db.state.unknownItems[place]? = some item ∧ isSettledItem item = false) := by
  have each : Concurrent.Sound (fun s => UnknownSound names place lines { store := s } ∧ (s.db = c.store.db ∨
      ∃ item, c.store.db.state.unknownItems[place]? = some item ∧ isSettledItem item = false))
      (fun s t => t.call.itemId ∈ names ∧ ∀ seen, t.seen = some seen → seen.Of s.db) c :=
    ⟨⟨{ sound with named := fun _ _ => nofun, begun := fun _ _ _ => nofun }, .inl rfl⟩,
      fun n t holds => ⟨sound.named n t holds, fun seen => sound.begun n t seen holds⟩⟩
  have next := @Concurrent.Sound.step _ _ _ move _ _ (startUnknown names) resumeUnknown c each (by
    intro slot call t _ started
    unfold startUnknown at started
    split at started
    · next named =>
      cases started
      exact ⟨List.contains_iff_mem.mp named, nofun⟩
    · cases started) (by
    rintro slot ⟨call, seen⟩ rfl held ⟨onItem, own⟩
    cases seen with
    | none =>
      refine ⟨each.store, fun next begins => ?_, fun _ _ _ _ kept => kept⟩
      cases begins
      refine ⟨onItem, fun seen began => ?_⟩
      cases began
      exact .snapshot _
    | some seen =>
      have of := own seen rfl
      simp only [resumeUnknown]
      split
      · exact ⟨each.store, fun next resumed => (nomatch resumed), fun _ _ _ _ kept => kept⟩
      · next answer next ran =>
        split
        · exact ⟨each.store, fun next resumed => (nomatch resumed), fun _ _ _ _ kept => kept⟩
        · next db commits =>
          obtain ⟨same, rfl⟩ := of.commit commits
          have opened : call.onOpenItem seen.state = true := by
            rw [UnknownRun.onOpenItem, held] at meets
            simp only [Bool.or_eq_true, decide_eq_true_eq, succeeds_of_ok ran, Bool.not_true,
              Bool.false_eq_true, or_false] at meets
            rcases meets with overtaken | opened
            · rw [Versioned.commit, if_neg overtaken] at commits
              cases commits
            · exact opened
          rw [same] at ran opened
          obtain ⟨committing, unsettled, located, noLine⟩ := sound.committed onItem ran opened
          rw [if_pos committing]
          dsimp only
          refine ⟨⟨⟨located, noLine, fun success member => ?_, fun _ _ => nofun, fun _ _ _ => nofun⟩, .inr unsettled⟩,
            fun next resumed => (nomatch resumed), fun _ u _ _ kept =>
              ⟨kept.1, fun seen began => (kept.2 seen began).write _⟩⟩
          rcases List.mem_cons.mp member with rfl | earlier
          · rfl
          · exact sound.durable success earlier)
  exact ⟨{ next.store.1 with
    named := fun n t holds => (next.tasks n t holds).1
    begun := fun n t seen holds => (next.tasks n t holds).2 seen }, next.store.2⟩

/-- As long as every transaction that comes to its end is a committing one on an open report, the
report is settled once. -/
theorem unknownItem_settled_once {names : List String} {first mid last : UnknownRun} (start : UnknownStart names first)
    (run : Reaches (UnknownRun.step names) (fun c move => c.onOpenItem move = true) first mid)
    (later : Reaches (UnknownRun.step names) (fun c move => c.onOpenItem move = true) mid last) :
    SettledOnce names first mid last := by
  obtain ⟨place, sound⟩ := start.sound
  have middle : UnknownSound names place first.store.db.state.countLines.length mid :=
    run.invariant sound fun _ _ kept meets => (kept.step meets).1
  have ends : UnknownSound names place first.store.db.state.countLines.length last :=
    later.invariant middle fun _ _ kept meets => (kept.step meets).1
  refine ⟨Nat.le_succ_of_le (Nat.le_of_eq ends.noLine), ?_, ends.durable⟩
  intro name member item stored settled
  have there : mid.store.db.state.unknownItems[place]? = some item := by
    rw [← Collection.find_of_findIdx (middle.located name member)]
    exact stored
  -- Nothing is committed any more once the report is settled.
  have frozen : UnknownSound names place first.store.db.state.countLines.length last ∧
      last.store.db = mid.store.db := by
    apply later.invariant ⟨middle, rfl⟩
    intro c move kept meets
    obtain ⟨kept, same⟩ := kept
    obtain ⟨next, unchanged | ⟨other, opened, unsettled⟩⟩ := kept.step meets
    · exact ⟨next, unchanged.trans same⟩
    · rw [same, there] at opened
      cases opened
      rw [settled] at unsettled
      cases unsettled
  rw [frozen.2]
  exact stored

/-- A report from an active session. -/
def reportedStore (status : String) : Store :=
  { countingStore with
    unknownItems := [Doc.ofList [("_id", .oid "b1"), ("id", .str "u1"), ("session_id", .str "S1"),
      ("location_id", .str "W1"), ("floor_id", .str "F1"), ("rack_id", .str "R1"), ("barcode", .str "510001"),
      ("counted_qty", .num 10), ("reported_by", .str "asha"), ("status", .str status), ("version", .num 1)]] }

def reportedItem (status : String) : UnknownRun where
  store := { db := { state := reportedStore status } }

theorem reportedItem_start (status : String) : UnknownStart ["u1"] (reportedItem status) := by
  refine ⟨⟨0, ?_⟩, rfl, fun _ => rfl⟩
  intro name member
  cases List.mem_singleton.mp member
  rfl

def callOnReport (op : UnknownOp) : UnknownCall where
  env := sampleEnv
  itemId := "u1"
  actorId := "sudha"
  op := op

/-- An attachment is overtaken by the escalation that begins after it, and a mapping is refused. -/
def escalatedReport : List (Move UnknownCall) :=
  [.start 0 (callOnReport (.attach "S1" "W2" "F1" "R1")), .resume 0, .start 1 (callOnReport (.escalate none)),
    .resume 1, .resume 1, .resume 0, .start 2 (callOnReport (.resolve "I1" none)), .resume 2, .resume 2]

theorem unknownItem_settled_once_sample :
    SettledOnce ["u1"] (reportedItem "OPEN") (reportedItem "OPEN")
        (escalatedReport.foldl (UnknownRun.step ["u1"]) (reportedItem "OPEN")) ∧
      (escalatedReport.foldl (UnknownRun.step ["u1"]) (reportedItem "OPEN")).store.successes.length = 1 := by
  refine ⟨unknownItem_settled_once (reportedItem_start "OPEN") .start (Reaches.of_admitted ?_), ?_⟩
  · decide +kernel
  · decide +kernel

def dismissedReport : List (Move UnknownCall) :=
  [.start 0 (callOnReport (.dismiss (some "damaged label"))), .resume 0, .resume 0]

/-- A dismissal answers with a dismissed report and leaves it open, and a resolved report is
escalated. -/
theorem unknownItem_unsettled :
    ¬ (∀ (names : List String) (first mid last : UnknownRun), UnknownStart names first →
      Reaches (UnknownRun.step names) (fun _ _ => True) first mid →
      Reaches (UnknownRun.step names) (fun _ _ => True) mid last → SettledOnce names first mid last) ∧
    ((dismissedReport.foldl (UnknownRun.step ["u1"]) (reportedItem "OPEN")).store.successes.map fun success =>
        ((storedUnknown "u1" success.built).map (·.get "status"),
          (storedUnknown "u1" success.committed).map (·.get "status"))) =
      [(some (.str "DISMISSED"), some (.str "OPEN"))] ∧
    (storedUnknown "u1" (escalatedReport.foldl (UnknownRun.step ["u1"])
      (reportedItem "RESOLVED")).store.db.state).map (·.get "status") = some (.str "ESCALATED") := by
  have open_ : ((dismissedReport.foldl (UnknownRun.step ["u1"]) (reportedItem "OPEN")).store.successes.map fun success =>
        ((storedUnknown "u1" success.built).map (·.get "status"),
          (storedUnknown "u1" success.committed).map (·.get "status"))) =
      [(some (.str "DISMISSED"), some (.str "OPEN"))] := by
    decide +kernel
  refine ⟨?_, open_, by decide +kernel⟩
  intro all
  have durable := (all ["u1"] (reportedItem "OPEN") (reportedItem "OPEN") _ (reportedItem_start "OPEN") .start
    (Reaches.foldl fun _ (move : Move UnknownCall) (_ : move ∈ dismissedReport) => trivial)).durable
  have same := List.map_congr_left fun success member =>
    congrArg (fun built => ((storedUnknown "u1" success.built).map (·.get "status"),
      (storedUnknown "u1" built).map (·.get "status"))) (durable success member)
  rw [open_] at same
  revert same
  decide +kernel

end StockVerification
