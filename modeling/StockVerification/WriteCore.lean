import StockVerification.Governance
import StockVerification.Lifecycle

/-!
# The count-line write core

Source: backend/services/count_lines/write_core.py:312-681,
backend/services/count_lines/validation.py:197-405 and
backend/services/count_lines/session_aggregator.py:244-451.

Every check, the stamping of hashes and governance fields and the capture of
session versions happen before the one write to `count_lines`
(`prepareWrite`); what follows it touches sessions and the dashboard only. The
repository object is taken to resolve the application's `count_lines`
collection.
-/
namespace StockVerification

open Foundation Foundation.Action

/-- The payload. Every supported operation, and the names that are not. -/
inductive WriteOp where
  | insertOne (document : Doc)
  | updateOne (filter : Filter) (update : Update)
  | findOneAndUpdate (filter : Filter) (update : Update)
  | updateMany (filter : Filter) (update : Update)
  | deleteOne (filter : Filter)
  | deleteMany (filter : Filter)
  | unsupported (operation : String)

/-- What the database answered: the first document before and after, and how many matched. -/
structure WriteResult where
  before : Option Doc := none
  after : Option Doc := none
  matched : Nat := 0

/-- The session ids a filter names, at its top or in the branches of its `$or`. -/
def filterSessionIds : Filter → List String
  | .eq "session_id" v => if v.truthy then [v.text] else []
  | .both a b => filterSessionIds a ++ filterSessionIds b
  | .either a b => filterSessionIds a ++ filterSessionIds b
  | _ => []

def WriteOp.filter? : WriteOp → Option Filter
  | .insertOne _ => none
  | .updateOne f _ => some f
  | .findOneAndUpdate f _ => some f
  | .updateMany f _ => some f
  | .deleteOne f => some f
  | .deleteMany f => some f
  | .unsupported _ => none

def sessionIdOf (d : Doc) : List String :=
  if (d.get "session_id").truthy then [(d.get "session_id").text] else []

/-- The session ids the context and the payload state. -/
def statedSessionIds (ctx : WriteContext) (op : WriteOp) : List String :=
  (if ctx.sessionId.truthy then [ctx.sessionId.text] else []) ++
  ctx.sessionIds.filter (· != "") ++
  (ctx.candidateLines.getD []).flatMap sessionIdOf ++
  (match op with | .insertOne document => sessionIdOf document | _ => []) ++
  (match op.filter? with | some f => filterSessionIds f | none => [])

/-- `_collect_session_ids_for_write`: the matched lines are looked at only when
nothing is stated. -/
def collectSessionIds (ctx : WriteContext) (op : WriteOp) (s : Store) : List String :=
  let stated := statedSessionIds ctx op
  if !stated.isEmpty then sortedTexts stated
  else
    match op with
    | .insertOne _ => []
    | .unsupported _ => []
    | .updateMany f _ => sortedTexts (((s.countLines.filter f.holds).take 5000).flatMap sessionIdOf)
    | .deleteMany f => sortedTexts (((s.countLines.filter f.holds).take 5000).flatMap sessionIdOf)
    | .updateOne f _ => sortedTexts ((s.countLines.find? f.holds).toList.flatMap sessionIdOf)
    | .findOneAndUpdate f _ => sortedTexts ((s.countLines.find? f.holds).toList.flatMap sessionIdOf)
    | .deleteOne f => sortedTexts ((s.countLines.find? f.holds).toList.flatMap sessionIdOf)

def intOrError (value : Value) (default : Int) : Except Error Int :=
  if value.truthy then
    match value.integer with
    | some n => .ok n
    | none => .error (.value "invalid literal for int()")
  else .ok default

/-- The fields the fingerprint covers, as it reads them. -/
def semanticPayload (d : Doc) : Except Error SemanticPayload := do
  let version ← intOrError (d.get "version") 1
  pure { sessionId := (d.get "session_id").textOrEmpty
         itemId := ((d.get "item_code").orElse (d.get "item_id")).textOrEmpty
         locationId := (d.get "location_id").textOrEmpty
         floorNo := ((d.get "floor_no").orElse (d.get "floor_id")).textOrEmpty
         rackNo := ((d.get "rack_no").orElse (d.get "rack_id")).textOrEmpty
         barcode := (d.get "barcode").textOrEmpty
         countedQty := asFloat (d.get "counted_qty")
         version := version }

variable (env : Env)

/-- `_build_semantic_hash` of the validation module. -/
def buildSemanticHash (d : Doc) : Except Error String := (semanticPayload d).map env.digest

/-- `assert_valid_write` on a session-scoped document. -/
def assertValidWrite (s : Store) (session : Option Doc) (sessionId : Value) (document : Doc)
    (mode : GovernanceMode) : Except Error Unit := do
  let session ← match session with
    | some given => pure given
    | none => do
      let id := (sessionId.orElse (document.get "session_id")).textOrEmpty
      require (id != "") (.governance "CRITICAL: Missing session_id for write")
      match s.findSession id with
      | some found => pure found
      | none => Except.error (.governance "CRITICAL: Session not found")
  require (!isSessionClosedToWrites session) (.governance finalizedMessage)
  require (!mode.requireActiveSession || normalizeSessionStatus (session.get "status") == "ACTIVE")
    (.governance ("CRITICAL: Session must be ACTIVE for count-line writes (found " ++
      normalizeSessionStatus (session.get "status") ++ ")"))
  let missing := ["location_id", "floor_id", "rack_id"].filter fun field =>
    Text.strip (document.get field).textOrEmpty == ""
  require (!mode.requireFullContext || missing.isEmpty)
    (.governance ("CRITICAL: Missing required context fields: " ++ String.intercalate ", " missing))

/-- `_apply_update_document_to_merged`, the update as the checks see it. -/
def applyUpdateToMerged (d : Doc) (u : Update) : Doc :=
  let incremented := u.inc.foldl (fun acc entry =>
    match acc.get entry.1 with
    | .num q => acc.set entry.1 (.num (q + entry.2))
    | .bool b => acc.set entry.1 (.num ((if b then 1 else 0) + entry.2))
    | _ => acc.set entry.1 (.num entry.2)) (d.update u.set)
  u.push.foldl (fun acc entry =>
    acc.set entry.1 ((entry.2.onto (acc.get entry.1)).getD entry.2.alone)) incremented

/-- The lookup of a previous version, by id or object id. -/
def versionLookup (id : String) : Filter :=
  if isObjectIdText id then .either (.eq "id" (.str id)) (.eq "_id" (.oid (Text.lower id)))
  else .eq "id" (.str id)

/-- The version check of a successor document. -/
def assertVersionProgression (s : Store) (document : Doc) : Except Error Unit :=
  if (document.get "previous_version_id").truthy then
    match s.countLines.find? (versionLookup (document.get "previous_version_id").text).holds with
    | none => .error (.governance "CRITICAL: previous_version_id references missing count line")
    | some previous => do
      let incoming ← intOrError (document.get "version") 0
      let expected ← intOrError (previous.get "version") 1
      require (incoming == expected + 1) (.governance "CRITICAL: Invalid version progression for recount write")
  else .ok ()

def duplicateHashMessage : String := "CRITICAL: Duplicate semantic hash for logical count write"

/-- A document that brings a fingerprint keeps it. -/
def insertHash (document : Doc) : Except Error Value :=
  if (document.get "semantic_hash").truthy then .ok (document.get "semantic_hash")
  else (buildSemanticHash env document).map .str

/-- The insert branch of `_assert_mandatory_write_invariants`; the answer carries
the fingerprint. -/
def assertInsertInvariants (ctx : WriteContext) (document : Doc) (s : Store) :
    Except Error Doc := do
  let sessionId := (document.get "session_id").orElse ctx.sessionId
  let key := document.get "idempotency_key"
  require (!(sessionId.truthy && key.truthy && s.countLines.any (Filter.both
    (.eq "session_id" sessionId) (.eq "idempotency_key" key)).holds))
    (.governance "CRITICAL: Duplicate idempotency_key for count-line write")
  assertVersionProgression s document
  let hash ← insertHash env document
  require (!s.countLines.any (Filter.eq "semantic_hash" hash).holds) (.governance duplicateHashMessage)
  assertValidWrite s ctx.session sessionId (document.set "semantic_hash" hash) ctx.governanceMode
  pure (document.set "semantic_hash" hash)

def lineIdText (d : Doc) : String := ((d.get "id").orElse (d.get "_id")).text

/-- The fingerprint of the merged document goes into `$set`; another line may not
carry it. -/
def stampUpdateHash (existing merged : Doc) (u : Update) (s : Store) :
    Except Error Update :=
  if merged.has "counted_qty" then do
    let hash ← buildSemanticHash env merged
    let other := (s.countLines.find? (Filter.eq "semantic_hash" (.str hash)).holds).map lineIdText
    require (other.all (· == lineIdText existing)) (.governance duplicateHashMessage)
    pure { u with set := u.set.set "semantic_hash" (.str hash) }
  else pure u

/-- The single-document update branch; the answer carries the new fingerprint. -/
def assertUpdateInvariants (ctx : WriteContext) (f : Filter) (u : Update) (s : Store) :
    Except Error Update :=
  match s.countLines.find? f.holds with
  | none => .error (.governance "CRITICAL: Count line not found for guarded mutation")
  | some existing => do
    let merged := applyUpdateToMerged existing u
    let stamped ← stampUpdateHash env existing merged u s
    assertValidWrite s ctx.session ((merged.get "session_id").orElse ctx.sessionId) merged ctx.governanceMode
    pure stamped

/-- The bulk branch: every candidate line is checked. -/
def assertBulkInvariants (ctx : WriteContext) (f : Filter) (s : Store) : Except Error Unit := do
  let candidates := ctx.candidateLines.getD ((s.countLines.filter f.holds).take 5000)
  require (!candidates.isEmpty) (.governance "CRITICAL: No candidate lines for guarded bulk mutation")
  candidates.forM fun line =>
    assertValidWrite s ctx.session ((line.get "session_id").orElse ctx.sessionId) line ctx.governanceMode

def assertMandatoryWriteInvariants (ctx : WriteContext) (op : WriteOp) (s : Store) :
    Except Error WriteOp :=
  match op with
  | .insertOne document => (assertInsertInvariants env ctx document s).map .insertOne
  | .updateOne f u => (assertUpdateInvariants env ctx f u s).map (.updateOne f)
  | .findOneAndUpdate f u => (assertUpdateInvariants env ctx f u s).map (.findOneAndUpdate f)
  | .deleteOne f =>
    match s.countLines.find? f.holds with
    | none => .error (.governance "CRITICAL: Count line not found for guarded mutation")
    | some existing => do
      assertValidWrite s ctx.session ((existing.get "session_id").orElse ctx.sessionId) existing ctx.governanceMode
      pure op
  | .updateMany f _ => do
    assertBulkInvariants ctx f s
    pure op
  | .deleteMany f => do
    assertBulkInvariants ctx f s
    pure op
  | .unsupported _ => .ok op

def actorOf (ctx : WriteContext) : String :=
  if Text.strip ctx.username = "" then "system" else Text.strip ctx.username

/-- The fields `_apply_state_transition_for_write` adds to `$set`. -/
def stateTransitionFields (ctx : WriteContext) : StateTransition → List (String × Value)
  | .verify => [("verified", .bool true), ("verified_by", .str (actorOf ctx)),
      ("verified_at", .date env.now)]
  | .unverify => [("verified", .bool false), ("verified_by", .null), ("verified_at", .null)]
  | .approve =>
    [("status", .str "approved"), ("approval_status", .str "APPROVED"),
      ("approved_by", .str (actorOf ctx)), ("approved_at", .date env.now),
      ("approval_note", normalizeReason ctx.approvalNote), ("rejected_by", .null),
      ("rejected_at", .null), ("rejection_reason", .null), ("assigned_to", .null),
      ("recount_requested_at", .null), ("recount_requested_by", .null)] ++
    if ctx.markVerifiedOnApproval then
      [("verified", .bool true), ("verified_by", .str (actorOf ctx)), ("verified_at", .date env.now)] else []
  | .reject =>
    [("status", .str "rejected"), ("approval_status", .str "REJECTED"), ("approved_by", .null),
      ("approved_at", .null), ("approval_note", .null), ("verified", .bool false),
      ("verified_by", .null), ("verified_at", .null), ("rejected_by", .str (actorOf ctx)),
      ("rejected_at", .date env.now),
      ("rejection_reason", normalizeReason
        (ctx.rejectionReason.orElse (ctx.approvalNote.orElse ctx.transitionNote)))] ++
    if ctx.markRecountRequested then
      [("recount_requested_at", .date env.now), ("recount_requested_by", .str (actorOf ctx)),
        ("assigned_to", normalizeReason ctx.assignedTo)]
    else [("recount_requested_at", .null), ("recount_requested_by", .null), ("assigned_to", .null)]

/-- `_apply_state_transition_for_write`. -/
def applyStateTransition (ctx : WriteContext) (op : WriteOp) : Except Error WriteOp :=
  match ctx.transition with
  | none => .ok op
  | some transition =>
    let fields := stateTransitionFields env ctx transition
    match op with
    | .updateOne f u => .ok (.updateOne f { u with set := u.set.setAll fields })
    | .updateMany f u => .ok (.updateMany f { u with set := u.set.setAll fields })
    | _ => .error (.value "State transition requires update_one or update_many")

def resolveSessionDocument (s : Store) (ctx : WriteContext) (document : Doc) : Option Doc :=
  match ctx.session with
  | some given => some given
  | none =>
    let id := governedSessionId document ctx
    if id = "" then none else s.findSession id

/-- The document that an evaluation leaves for storing. -/
def finalLine (ctx : WriteContext) (s : Store) (e : Evaluation) : Doc :=
  applyAuthoritativeFields env ctx (resolveSessionDocument s ctx e.document) e.document e.decision e.erpItem

/-- `_copy_authoritative_baseline_fields`. -/
def copyBaselineFields (source target : Doc) : Doc :=
  let copy (target : Doc) (field : String) : Doc :=
    match source field with
    | some v => target.setDefault field v
    | none => target
  copy (copy target "erp_qty") "baseline_hash"

/-- `_enforce_variance_for_write`. It acts on inserts and on `update_one` that set
the quantity; `find_one_and_update` passes through although
`_should_apply_governance` asks for it. -/
def enforceVariance (ctx : WriteContext) (op : WriteOp) (s : Store) :
    Except Error WriteOp :=
  match op with
  | .insertOne document =>
    if document.has "counted_qty" then do
      let e ← evaluateGovernanceForDocument s ctx document
      pure (.insertOne (applyAuthoritativeFields env ctx (resolveSessionDocument s ctx e.document)
        e.document e.decision e.erpItem))
    else .ok op
  | .updateOne f u =>
    if u.set.has "counted_qty" then do
      let merged := ((s.countLines.find? f.holds).getD Doc.empty).update u.set
      let e ← evaluateGovernanceForDocument s ctx merged
      let stamped := applyAuthoritativeFields env ctx (resolveSessionDocument s ctx e.document)
        (copyBaselineFields e.document u.set) e.decision e.erpItem
      pure (.updateOne f { u with set := stamped })
    else .ok op
  | _ => .ok op

/-- A payload that passed every check, with the sessions it will refresh. -/
structure Prepared where
  op : WriteOp
  versions : List (String × Nat)

def captureSessionVersions (ctx : WriteContext) (ids : List String) (s : Store) :
    Except Error (List (String × Nat)) :=
  ids.mapM fun id => do
    let session ← match s.findSession id with
      | some session => Except.ok session
      | none => Except.error (Error.governance ("CRITICAL: Session not found: " ++ id))
    let current := coerceVersion (session.get "version")
    require (ctx.expectedSessionVersion.all fun v => v == (current : Int))
      (.concurrency ("CRITICAL: Session version mismatch for " ++ id ++ ": expected " ++
        toString (ctx.expectedSessionVersion.getD (current : Int)) ++ ", current " ++ toString current))
    pure (id, current)

def assertSupported (op : WriteOp) : Except Error Unit :=
  match op with
  | .unsupported name => .error (.value ("Unsupported count-line write operation: " ++ name))
  | _ => .ok ()

/-- Everything `_process_write_core` does before it writes. -/
def prepareWrite (ctx : WriteContext) (op : WriteOp) (s : Store) :
    Except Error Prepared := do
  assertSupported op
  require (!ctx.enforceSnapshot || ctx.session.isSome || ctx.allowMissingSession ||
      !(collectSessionIds ctx op s).isEmpty)
    (.http 409 "Count line mutation requires session context")
  let op ← assertMandatoryWriteInvariants env ctx op s
  let op ← applyStateTransition env ctx op
  let op ← enforceVariance env ctx op s
  let versions ← captureSessionVersions ctx (collectSessionIds ctx op s) s
  pure { op := op, versions := versions }

/-- `CountLineRepository.save`: a document with an `_id` replaces the stored one. -/
def saveCountLine (document : Doc) (lines : List Doc) :
    Except WriteFault (Doc × List Doc) :=
  if document.has "_id" then
    let f := Filter.eq "_id" (document.get "_id")
    match Collection.collision countLineIndexes (lines.eraseP f.holds) document with
    | some index => .error (.duplicateKey index.field)
    | none => .ok (document, Collection.upsert f (fun _ => document) lines)
  else do
    let stored := document.set "_id" (.oid env.freshOid)
    let lines ← Collection.insertOne countLineIndexes stored lines
    pure (stored, lines)

def updateResult (answer : Option (Doc × Doc)) : WriteResult :=
  match answer with
  | some (old, new) => { before := some old, after := some new, matched := 1 }
  | none => {}

/-- `_execute_count_line_operation` on the lines. -/
def executeOnLines (op : WriteOp) (lines : List Doc) :
    Except WriteFault (WriteResult × List Doc) :=
  match op with
  | .insertOne document => do
    let (stored, lines) ← saveCountLine env document lines
    pure ({ after := some stored, matched := 1 }, lines)
  | .updateOne f u => do
    let (answer, lines) ← Collection.updateOne countLineIndexes f u lines
    pure (updateResult answer, lines)
  | .findOneAndUpdate f u => do
    let (answer, lines) ← Collection.updateOne countLineIndexes f u lines
    pure (updateResult answer, lines)
  | .updateMany f u => do
    let changed ← Collection.updateMany f u lines
    pure ({ matched := lines.countP f.holds }, changed)
  | .deleteOne f => .ok ({ matched := if lines.any f.holds then 1 else 0 },
      Collection.deleteOne f lines)
  | .deleteMany f => .ok ({ matched := lines.countP f.holds }, Collection.deleteMany f lines)
  | .unsupported _ => .ok ({}, lines)

def executeCountLineOperation (op : WriteOp) (s : Store) :
    Except Error (WriteResult × Store) := do
  let (result, lines) ← liftFault (executeOnLines env op s.countLines)
  pure (result, s.withLines lines)

/-- `_run_post_write_validation`. Reads without a session see the committed store
on a replica set and the written one on a standalone server. -/
def runPostWriteValidation (committed : Store) (ctx : WriteContext) (op : WriteOp)
    (result : WriteResult) (s : Store) : Except Error Unit :=
  if ctx.repairSkipValidation then .ok ()
  else
    let view := match env.deployment with
      | .transactional => committed
      | .standalone => s
    let lines := match op with
      | .insertOne _ => result.after.toList
      | .updateOne f _ => (s.countLines.find? f.holds).toList
      | .findOneAndUpdate f _ => (s.countLines.find? f.holds).toList
      | .updateMany f _ => (s.countLines.filter f.holds).take 5000
      | _ => []
    lines.forM fun line => do
      let errors ← validateCountLine view line
      require (!(env.strictValidation && !errors.isEmpty))
        (.governance ("Validation failed for count_line: " ++ String.intercalate "; " errors))

/-- One round of `_update_session_totals_for_sessions`. -/
def refreshSessionTotals (entry : String × Nat) : Request Unit := do
  let totals ← reads fun s => computeSessionTotals s entry.1
  updateSessionTotals env entry.1 totals true (some entry.2) false

/-- `_update_session_totals_for_sessions`, unless the context skips it. -/
def refreshTotals (ctx : WriteContext) (versions : List (String × Nat)) : Request Unit :=
  if ctx.skipSessionTotalsUpdate then pure () else versions.forM (refreshSessionTotals env)

/-- The projection sync, unless the context skips it. -/
def syncProjections (ctx : WriteContext) (versions : List (String × Nat)) :
    Request Unit :=
  if ctx.skipProjectionSync then pure ()
  else writes fun s => .ok (syncForSessions env (versions.map Prod.fst) s)

def processWriteCore (committed : Store) (ctx : WriteContext) (op : WriteOp) :
    Request WriteResult := do
  let p ← reads (prepareWrite env ctx op)
  let result ← transacts (executeCountLineOperation env p.op)
  reads (runPostWriteValidation env committed ctx p.op result)
  refreshTotals env ctx p.versions
  syncProjections env ctx p.versions
  pure result

/-- `process_write` called without a transaction of the caller's. -/
def processWrite (ctx : WriteContext) (op : WriteOp) : Request WriteResult :=
  withStore fun s => UnitOfWork.runCommitted env.deployment (processWriteCore env s ctx op)

end StockVerification
