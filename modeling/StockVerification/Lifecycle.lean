import StockVerification.Totals

/-!
# Session lifecycle service

Source: backend/services/session_lifecycle_service.py:27-921 and
backend/services/count_lines/session_aggregator.py:186-225 (the bulk line lock).

Each public operation is the transaction body of the source inside its own unit
of work, which it commits. Audit records are not modelled.
-/
namespace StockVerification

open Foundation Foundation.Action

def finalizedMessage : String := "Session is finalized. Mutation blocked."

def ensureSessionExists (sessionId : String) (s : Store) : Except Error Doc :=
  match s.findSession sessionId with
  | some session => .ok session
  | none => .error (.governance ("CRITICAL: Session not found: " ++ sessionId))

def ensureSessionNotFinalized (sessionId : String) (s : Store) : Except Error Doc := do
  let session ← ensureSessionExists sessionId s
  require (!isSessionClosedToWrites session) (.governance finalizedMessage)
  pure session

def ensureSessionActive (sessionId : String) (s : Store) : Except Error Doc := do
  let session ← ensureSessionNotFinalized sessionId s
  require (normalizeSessionStatus (session.get "status") == "ACTIVE")
    (.governance ("CRITICAL: Session must be ACTIVE for count-line writes (found " ++
      normalizeSessionStatus (session.get "status") ++ ")"))
  pure session

def assertValidTransition (fromState toState : String) : Except Error Unit :=
  require (isValidTransition fromState toState)
    (.governance ("CRITICAL: Invalid session transition " ++ fromState ++ " -> " ++ toState))

variable (env : Env)

/-- `validate_session`: the errors stop the request in strict mode only. -/
def validateSession (session : Doc) : Except Error Unit :=
  let missingId := !(session.get "session_id").truthy
  let missingStamp := Text.upper (Text.strip (session.get "status").textOrEmpty) == "FINALIZED" &&
    !(session.get "finalized_at").truthy
  require (!(env.strictValidation && (missingId || missingStamp))) (.governance "Validation failed for session")

def updateSessionWithOcc (sessionId : String) (fields : Doc) (expected : Int) (s : Store) :
    Except Error Store := do
  let (answer, sessions) ← liftFault (Collection.updateOne sessionIndexes
    (.both (sessionLookup sessionId) (buildVersionFilter expected))
    { set := fields, inc := [("version", 1)] } s.sessions)
  require answer.isSome (.concurrency ("CRITICAL: Session version mismatch for " ++ sessionId ++
    " (expected " ++ toString expected ++ ")"))
  pure { s with sessions := sessions }

/-- `verification_sessions.update_one`, the mirror of the session's status. -/
def updateMirror (sessionId : String) (fields : List (String × Value)) (s : Store) :
    Except Error Store := do
  let (_, mirrors) ← liftFault (Collection.updateOne mirrorIndexes (.eq "session_id" (.str sessionId))
    (.ofSet (Doc.ofList fields)) s.verificationSessions)
  pure { s with verificationSessions := mirrors }

def syncSessionProjection (sessionId : String) : Request Unit :=
  writes fun s => .ok (syncForSessions env [sessionId] s)

def withObjectId (d : Doc) : Doc := d.setDefault "_id" (.oid env.freshOid)

/-- The document `create_session` stores. -/
def createdSession (sessionDoc : Doc) : Doc :=
  let created := sessionDoc.set "status" (.str "CREATED")
  let created := created.setDefault "id" (created.get "session_id")
  let created := created.setDefault "started_at" (.date env.now)
  let created := created.setDefault "last_heartbeat" (.date env.now)
  let created := created.setDefault "session_id" (created.get "id")
  created.setDefault "version" (.num 0)

def createSession (sessionDoc : Doc) (username : String) : Request Doc :=
  let created := createdSession env sessionDoc
  let mirror := Doc.ofList [("_id", .oid env.freshOid), ("session_id", created.get "id"),
    ("user_id", .str username), ("status", .str "CREATED"), ("started_at", .date env.now),
    ("last_heartbeat", .date env.now), ("rack_id", created.get "rack_no"),
    ("floor", created.get "floor_id"), ("location_id", created.get "location_id")]
  UnitOfWork.runCommitted env.deployment do
    reads fun _ => require (created.get "id").truthy
      (.governance "Session document must include 'id' or 'session_id'")
    reads fun _ => validateSession env created
    writes fun s => do
      let sessions ← liftFault (Collection.insertOne sessionIndexes (withObjectId env created) s.sessions)
      pure { s with sessions := sessions }
    writes fun s => do
      let mirrors ← liftFault (Collection.insertOne mirrorIndexes mirror s.verificationSessions)
      pure { s with verificationSessions := mirrors }
    syncSessionProjection env (created.get "id").text
    pure created

/-- The body of `update_session_totals`; two of the three callers add a time stamp. -/
def updateSessionTotals (sessionId : String) (totals : SessionTotals) (stamped : Bool)
    (expectedVersion : Option Int) (syncProjection : Bool) : Request Unit := do
  let session ← reads (ensureSessionNotFinalized sessionId)
  let expected := expectedVersion.getD (coerceVersion (session.get "version"))
  let stamp := if stamped then [("updated_at", .date env.now)] else []
  writes (updateSessionWithOcc sessionId (Doc.ofList (totals.toFields ++ stamp)) expected)
  if syncProjection then syncSessionProjection env sessionId else pure ()

/-- `update_session_fields`: any fields may be set, the status among them. -/
def updateSessionFields (sessionId : String) (fields : List (String × Value))
    (expectedVersion : Option Int) : Request Unit :=
  if fields.isEmpty then pure ()
  else do
    let session ← reads (ensureSessionNotFinalized sessionId)
    let expected := expectedVersion.getD (coerceVersion (session.get "version"))
    writes (updateSessionWithOcc sessionId (Doc.ofList fields) expected)
    syncSessionProjection env sessionId

def persistLogicPin (sessionId : String) (logicVersion logicScopeSource : Value)
    (expectedVersion : Option Int) : Request Unit :=
  updateSessionFields env sessionId
    [("logic_version", logicVersion), ("logic_scope_source", logicScopeSource)] expectedVersion

/-- `apply_ownership_transition`: no state is checked here, callers do. -/
def applyOwnershipTransition (sessionId : String) (fields : List (String × Value))
    (ownershipEvent : List (String × Atom)) : Request Unit := do
  reads fun _ => require (!fields.isEmpty) (.governance "CRITICAL: ownership transition requires set_fields")
  writes fun s => do
    let (_, sessions) ← liftFault (Collection.updateOne sessionIndexes (sessionLookup sessionId)
      { set := Doc.ofList fields,
        push := if ownershipEvent.isEmpty then [] else [("ownership_events", .row ownershipEvent)] }
      s.sessions)
    pure { s with sessions := sessions }

/-- `record_session_snapshot`: a session's baseline is written once. -/
def recordSessionSnapshot (sessionId : String) (snapshot : Doc) : Request Unit := do
  reads fun s => require
    (!s.sessionSnapshots.any (Filter.eq "session_id" (.str sessionId)).holds)
    (.governance "CRITICAL: Baseline snapshot already exists and is immutable")
  reads fun s => match s.findSession sessionId with
    | some session => require (!isSessionClosedToWrites session) (.governance finalizedMessage)
    | none => pure ()
  writes fun s => .ok { s with sessionSnapshots :=
    s.sessionSnapshots ++ [withObjectId env (snapshot.set "session_id" (.str sessionId))] }

/-- The count-line condition of `_assert_session_ready_to_finalize`. -/
def needsReviewFilter (sessionId : String) : Filter :=
  Filter.all
    [.eq "session_id" (.str sessionId),
      .isIn "approval_status" [.str "NEEDS_REVIEW", .str "PENDING"],
      .notIn "status" [.str "SUPERSEDED", .str "superseded"]]

/-- `_assert_session_ready_to_finalize`: three counts over whole collections. -/
def assertSessionReadyToFinalize (sessionId : String) (s : Store) : Except Error Unit :=
  let unknown := s.unknownItems.countP (Filter.all
    [.eq "session_id" (.str sessionId), .notIn "status" [.str "RESOLVED", .str "DISMISSED"]]).holds
  let recounts := s.recountRequests.countP (Filter.all
    [.eq "session_id" (.str sessionId), .notIn "status" [.str "completed", .str "cancelled", .str "expired"]]).holds
  let needsReview := s.countLines.countP (needsReviewFilter sessionId).holds
  let blockers :=
    (if 0 < unknown then [toString unknown ++ " unresolved unknown item(s)"] else []) ++
    (if 0 < recounts then [toString recounts ++ " pending recount request(s)"] else []) ++
    (if 0 < needsReview then
      [toString needsReview ++ " unresolved count lines pending approval"] else [])
  require blockers.isEmpty (.governance
    ("CRITICAL: Session cannot be finalized — blockers: " ++ String.intercalate "; " blockers))

/-- The fields `transition_session` sets. -/
def transitionFields (target actor : String) (note : Option String) :
    List (String × Value) :=
  [("status", .str target), ("last_heartbeat", .date env.now), ("updated_at", .date env.now),
    ("updated_by", .str actor)] ++
  (if target = "REVIEW" then [("review_started_at", .date env.now)] else []) ++
  (if target = "FINALIZED" then
    [("finalized_at", .date env.now), ("finalized_by", .str actor)] else []) ++
  (match note with
    | some text => if text = "" then [] else [("lifecycle_note", .str text)]
    | none => [])

/-- The body of `transition_session`. A move to FINALIZED counts blockers but
neither inspects nor locks the lines. -/
def transitionSessionCore (sessionId targetStatus actor : String)
    (note : Option String) (expectedVersion : Option Int) : Request Doc := do
  let session ← reads (ensureSessionExists sessionId)
  let current := normalizeSessionStatus (session.get "status")
  let target := normalizeSessionStatus (.str targetStatus)
  reads fun _ => assertValidTransition current target
  reads fun _ => require (!isSessionClosedToWrites session) (.governance finalizedMessage)
  reads fun s => if target = "FINALIZED" then assertSessionReadyToFinalize sessionId s else pure ()
  let fields := Doc.ofList (transitionFields env target actor note)
  reads fun _ => validateSession env (session.update fields)
  let expected := expectedVersion.getD (coerceVersion (session.get "version"))
  writes (updateSessionWithOcc sessionId fields expected)
  writes (updateMirror sessionId [("status", .str target), ("last_heartbeat", .date env.now)])
  syncSessionProjection env sessionId
  reads (ensureSessionExists sessionId)

def transitionSession (sessionId targetStatus actor : String)
    (note : Option String) (expectedVersion : Option Int) : Request Doc :=
  UnitOfWork.runCommitted env.deployment (transitionSessionCore env sessionId targetStatus actor note expectedVersion)

/-- The case-exact selection of the bulk lock. -/
def finalizeFilter (sessionId : String) : Filter :=
  Filter.all
    [.eq "session_id" (.str sessionId),
      .notIn "status" [.str "locked", .str "SUPERSEDED", .str "superseded"],
      .notIn "approval_status" [.str "REJECTED", .str "NEEDS_REVIEW"]]

/-- The fields the bulk lock sets. -/
def lockedLineFields (actor : String) (finalizedAt : Int) (note : Option String) : Doc :=
  Doc.ofList
    ([("status", .str "locked"), ("approval_status", .str "APPROVED"), ("verified", .bool true),
      ("verified_by", .str actor), ("verified_at", .date finalizedAt), ("approved_by", .str actor),
      ("approved_at", .date finalizedAt), ("finalized_by", .str actor),
      ("finalized_at", .date finalizedAt), ("updated_at", .date finalizedAt),
      ("updated_by", .str actor)] ++
    (match note with
      | some text => if text = "" then [] else [("finalization_note", .str text)]
      | none => []))

/-- `finalize_session_count_lines`: one `update_many`, without a cap. -/
def finalizeSessionCountLines (sessionId actor : String) (finalizedAt : Int) (note : Option String)
    (s : Store) : Store :=
  s.withLines (Collection.setMany (finalizeFilter sessionId) (lockedLineFields actor finalizedAt note) s.countLines)

/-- The lines finalization looks at: the first 50000 of the session. -/
def fetchedLines (s : Store) (sessionId : String) : List Doc := (s.sessionLines sessionId).take 50000

/-- The selection that decides whether the bulk lock is called at all. -/
def isLineToFinalize (line : Doc) : Bool :=
  !(["locked", "SUPERSEDED", "superseded"].contains (line.get "status").textOrEmpty) &&
    !(["REJECTED", "NEEDS_REVIEW"].contains (line.get "approval_status").textOrEmpty)

/-- The session fields finalization sets, totals included. -/
def finalizedSessionFields (actor : String) (note : Option String)
    (totals : SessionTotals) : List (String × Value) :=
  [("status", .str "FINALIZED"), ("finalization_status", .str "FINALIZED"),
    ("completed_at", .date env.now), ("closed_at", .date env.now),
    ("last_heartbeat", .date env.now), ("finalized_at", .date env.now),
    ("finalized_by", .str actor), ("updated_at", .date env.now), ("updated_by", .str actor)] ++
  totals.toFields ++
  (match note with
    | some text => if text = "" then [] else [("finalization_note", .str text)]
    | none => [])

/-- What `_finalize_session_canonical_core` does between its read and its update: the checks, the
bulk lock and the totals. `hasFinalizer` says whether the service was built with a count-line
finalizer. -/
def prepareFinalization (hasFinalizer : Bool) (sessionId actor : String)
    (note : Option String) (session : Doc) : Request SessionTotals := do
  reads fun _ => require (!isSessionClosedToWrites session) (.governance finalizedMessage)
  reads fun _ => require (normalizeSessionStatus (session.get "status") == "REVIEW")
    (.governance "CRITICAL: Session must be in REVIEW before FINALIZED")
  reads (assertSessionReadyToFinalize sessionId)
  reads fun s => require (!(fetchedLines s sessionId).any isBlockingFinalization)
    (.governance "CRITICAL: Session has unresolved count lines and cannot be finalized")
  let called ← reads fun s => pure ((fetchedLines s sessionId).any isLineToFinalize)
  reads fun _ => require (!called || hasFinalizer)
    (.governance "CRITICAL: Session finalization requires configured count-line finalizer")
  writes fun s => .ok (if called then finalizeSessionCountLines sessionId actor env.now note s else s)
  reads fun s => computeSessionTotals s sessionId

/-- `_finalize_session_canonical_core`. -/
def finalizeSessionCanonicalCore (hasFinalizer : Bool) (sessionId actor : String)
    (note : Option String) : Request SessionTotals := do
  let session ← reads (ensureSessionExists sessionId)
  let totals ← prepareFinalization env hasFinalizer sessionId actor note session
  writes (updateSessionWithOcc sessionId
    (Doc.ofList (finalizedSessionFields env actor note totals))
    (coerceVersion (session.get "version")))
  writes (updateMirror sessionId
    [("status", .str "FINALIZED"), ("last_heartbeat", .date env.now),
      ("completed_at", .date env.now), ("updated_by", .str actor)])
  syncSessionProjection env sessionId
  let _ ← reads (ensureSessionExists sessionId)
  pure totals

def finalizeSessionCanonical (hasFinalizer : Bool) (sessionId actor : String)
    (note : Option String) : Request SessionTotals :=
  UnitOfWork.runCommitted env.deployment (finalizeSessionCanonicalCore env hasFinalizer sessionId actor note)

/-- `RECOUNT_ALLOWED_TRANSITIONS`; an unknown state has no entry. -/
def recountAllowedTransitions : String → Option (List String)
  | "pending" => some ["assigned", "in_progress", "completed", "cancelled", "expired"]
  | "assigned" => some ["in_progress", "completed", "cancelled", "expired"]
  | "in_progress" => some ["completed", "cancelled", "expired"]
  | "completed" => some []
  | "cancelled" => some []
  | "expired" => some []
  | _ => none

def normalizeRecountStatus (value : Value) : String :=
  match value with
  | .str s => if Text.strip s = "" then "pending" else Text.lower (Text.strip s)
  | _ => "pending"

def assertRecountTransition (current target : String) : Except Error Unit :=
  match recountAllowedTransitions current with
  | none => .error (.governance ("CRITICAL: Unknown recount status '" ++ current ++ "'"))
  | some allowed => require (allowed.contains target || target == current)
      (.governance ("CRITICAL: Invalid recount transition " ++ current ++ " -> " ++ target))

/-- A text that reads as an object id: 24 hexadecimal digits. -/
def isObjectIdText (text : String) : Bool :=
  text.toList.length == 24 && text.toList.all fun c => (Text.digit c).isSome || "abcdefABCDEF".toList.contains c

def recountLookup (recountId : String) : Filter :=
  if isObjectIdText recountId then .eq "_id" (.oid (Text.lower recountId))
  else .eq "id" (.str recountId)

def Store.findRecount (s : Store) (recountId : String) : Option Doc :=
  s.recountRequests.find? (recountLookup recountId).holds

/-- The guard both recount operations apply to the request's session. -/
def ensureRecountSessionOpen (recount : Doc) (s : Store) : Except Error Unit :=
  let sessionId := Text.strip (recount.get "session_id").textOrEmpty
  if sessionId = "" then pure ()
  else do
    let _ ← ensureSessionNotFinalized sessionId s
    pure ()

def createRecountRequest (recountDoc : Doc) : Request Doc :=
  let created := ((recountDoc.setDefault "status" (.str "pending")).setDefault "created_at"
    (.date env.now)).setDefault "updated_at" (.date env.now)
  UnitOfWork.runCommitted env.deployment do
    reads (ensureRecountSessionOpen recountDoc)
    writes fun s => do
      let recounts ← liftFault (Collection.insertOne recountIndexes (withObjectId env created) s.recountRequests)
      pure { s with recountRequests := recounts }
    pure (withObjectId env created)

/-- The body of `transition_recount_request`. -/
def transitionRecountRequestCore (recountId targetStatus : String)
    (fields : List (String × Value)) : Request Doc := do
  let recount ← reads fun s => match s.findRecount recountId with
    | some recount => .ok recount
    | none => .error (.governance ("CRITICAL: Recount request not found: " ++ recountId))
  let target := normalizeRecountStatus (.str targetStatus)
  reads fun _ => assertRecountTransition (normalizeRecountStatus (recount.get "status")) target
  reads (ensureRecountSessionOpen recount)
  let update := ((Doc.ofList fields).set "status" (.str target)).setDefault "updated_at" (.date env.now)
  let lookup := if recount.get "_id" = .null then recountLookup recountId else Filter.eq "_id" (recount.get "_id")
  writes fun s => do
    let (_, recounts) ← liftFault (Collection.updateOne recountIndexes lookup (.ofSet update) s.recountRequests)
    pure { s with recountRequests := recounts }
  reads fun s => pure ((s.findRecount recountId).getD (recount.update update))

def transitionRecountRequest (recountId targetStatus : String)
    (fields : List (String × Value)) : Request Doc :=
  UnitOfWork.runCommitted env.deployment (transitionRecountRequestCore env recountId targetStatus fields)

end StockVerification
