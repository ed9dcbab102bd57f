import StockVerification.LocalInventory

/-!
# The local session tables of the client

Source: frontend/src/data/repositories/sessionControlPlaneRepository.ts,
frontend/src/core/reducers/sessionProjectionReducer.ts and
frontend/src/core/events/sessionEvents.ts.

A session command is an event, and the event moves the snapshot of its session. The answer of the
server is written to the snapshot alone: with it the local session is bound to the session of the
server. `upper` stands for `toUpperCase` and `iso` for the ISO text of an event's time.
-/
namespace StockVerification

open Foundation

inductive SessionPayload where
  | started (warehouse type : String) (locationType locationName rackNo : Option String)
      (staffUser staffName status startedAt : String)
  | statusChanged (status changedAt : String) (note : Option String)
  | resumed (resumedAt : String)
  | heartbeat (heartbeatAt : String)
  | finalized (finalizedAt : String) (note : Option String)
  deriving DecidableEq

/-- `aggregateId` is the local session id of the payload in every event that is built. -/
structure SessionEvent where
  id : String
  aggregateId : String
  payload : SessionPayload
  syncStatus : EventStatus := .pending
  idempotencyKey : String
  ts : Int
  deriving DecidableEq

structure SessionEventRow where
  event : SessionEvent
  syncStatus : EventStatus
  lastError : Option String := none
  deriving DecidableEq

structure SessionSyncRow where
  eventId : String
  localSessionId : String
  syncStatus : EventStatus
  retryCount : Nat := 0
  lastError : Option String := none
  deriving DecidableEq

structure ProjectedSessionSnapshot where
  localSessionId : String
  serverSessionId : Option String
  warehouse : String
  locationType : Option String
  locationName : Option String
  rackNo : Option String
  locationKey : String
  status : String
  type : String
  staffUser : String
  staffName : String
  startedAt : String
  closedAt : Option String
  reconciledAt : Option String
  completedAt : Option String
  finalizedAt : Option String
  finalizationStatus : Option String
  notes : Option String
  lastHeartbeat : Option String
  updatedAt : String
  syncStatus : EventStatus
  deriving DecidableEq

structure SessionDb where
  sessionEvents : List SessionEventRow := []
  sessionSyncQueue : List SessionSyncRow := []
  eventApplied : List String := []
  snapshots : List ProjectedSessionSnapshot := []
  deriving DecidableEq

def normalizeSegment (upper : String → String) (value : Option String) (fallback : String) : String :=
  (firstFilled [value.map fun text => upper (trim text)]).getD fallback

def buildSessionLocationKey (upper : String → String)
    (warehouse locationType locationName rackNo : Option String) : String :=
  "::".intercalate
    [normalizeSegment upper warehouse "WAREHOUSE", normalizeSegment upper locationType "WAREHOUSE",
      normalizeSegment upper locationName "UNSCOPED", normalizeSegment upper rackNo "NO_RACK"]

def isProjectedSessionActive (upper : String → String) (snapshot : ProjectedSessionSnapshot) : Bool :=
  upper (snapshot.finalizationStatus.getD "") != "FINALIZED" &&
    !(["CLOSED", "COMPLETED", "CANCELLED", "ARCHIVED", "EXPORTED"].contains (upper snapshot.status))

section reducer

variable (upper : String → String) (iso : Int → String)

/-- The snapshot of a session whose start is not known. -/
def baseSnapshot (event : SessionEvent) : ProjectedSessionSnapshot where
  localSessionId := event.aggregateId
  serverSessionId := none
  warehouse := ""
  locationType := none
  locationName := none
  rackNo := none
  locationKey := buildSessionLocationKey upper none none none none
  status := "OPEN"
  type := "STANDARD"
  staffUser := "unknown"
  staffName := "Unknown"
  startedAt := iso event.ts
  closedAt := none
  reconciledAt := none
  completedAt := none
  finalizedAt := none
  finalizationStatus := none
  notes := none
  lastHeartbeat := none
  updatedAt := iso event.ts
  syncStatus := .pending

def applySessionEventToSnapshot (event : SessionEvent)
    (previous : Option ProjectedSessionSnapshot) : ProjectedSessionSnapshot :=
  let base := previous.getD (baseSnapshot upper iso event)
  match event.payload with
  | .started warehouse type locationType locationName rackNo staffUser staffName status startedAt =>
    { localSessionId := event.aggregateId
      serverSessionId := previous.bind (·.serverSessionId)
      warehouse := warehouse
      locationType := locationType
      locationName := locationName
      rackNo := rackNo
      locationKey := buildSessionLocationKey upper (some warehouse) locationType locationName rackNo
      status := status
      type := type
      staffUser := staffUser
      staffName := staffName
      startedAt := startedAt
      closedAt := previous.bind (·.closedAt)
      reconciledAt := previous.bind (·.reconciledAt)
      completedAt := previous.bind (·.completedAt)
      finalizedAt := previous.bind (·.finalizedAt)
      finalizationStatus := previous.bind (·.finalizationStatus)
      notes := previous.bind (·.notes)
      lastHeartbeat := previous.bind (·.lastHeartbeat)
      updatedAt := startedAt
      syncStatus := event.syncStatus }
  | .statusChanged status changedAt note =>
    { base with
      status := status
      notes := note.or base.notes
      updatedAt := changedAt
      syncStatus := event.syncStatus
      reconciledAt := if upper status = "RECONCILE" then some changedAt else base.reconciledAt
      completedAt := if upper status = "COMPLETED" then some changedAt else base.completedAt
      closedAt := if upper status = "CLOSED" then some changedAt else base.closedAt }
  | .resumed resumedAt => { base with status := "ACTIVE", updatedAt := resumedAt, syncStatus := event.syncStatus }
  | .heartbeat heartbeatAt =>
    { base with lastHeartbeat := some heartbeatAt, updatedAt := heartbeatAt, syncStatus := event.syncStatus }
  | .finalized finalizedAt note =>
    { base with
      status := "COMPLETED"
      finalizedAt := some finalizedAt
      completedAt := some finalizedAt
      finalizationStatus := some "FINALIZED"
      notes := note.or base.notes
      updatedAt := finalizedAt
      syncStatus := event.syncStatus }

def snapshotByLocalId (db : SessionDb) (localSessionId : String) : Option ProjectedSessionSnapshot :=
  Table.find ProjectedSessionSnapshot.localSessionId db.snapshots localSessionId

def upsertSessionSnapshot (snapshot : ProjectedSessionSnapshot) (db : SessionDb) : SessionDb :=
  { db with snapshots := Table.put ProjectedSessionSnapshot.localSessionId db.snapshots snapshot }

def applySessionEvent (event : SessionEvent) (db : SessionDb) : SessionDb :=
  if event.id ∈ db.eventApplied then db
  else upsertSessionSnapshot
    (applySessionEventToSnapshot upper iso event (snapshotByLocalId db event.aggregateId))
    { db with eventApplied := db.eventApplied ++ [event.id] }

def sessionRowId (row : SessionEventRow) : String := row.event.id

/-- Nothing changes where the event is known already. -/
def recordSessionEvent (event : SessionEvent) (db : SessionDb) : SessionDb :=
  if event.id ∈ db.sessionEvents.map sessionRowId then db
  else applySessionEvent upper iso event { db with
    sessionEvents := db.sessionEvents ++ [{ event := event, syncStatus := event.syncStatus }]
    sessionSyncQueue :=
      if event.id ∈ db.sessionSyncQueue.map (·.eventId) then db.sessionSyncQueue
      else db.sessionSyncQueue ++
        [{ eventId := event.id, localSessionId := event.aggregateId, syncStatus := event.syncStatus }] }

/-- The snapshot takes the status of the session's last event that was not rejected. -/
def refreshSnapshotSyncStatus (localSessionId : String) (db : SessionDb) : SessionDb :=
  let rows := db.sessionEvents.filter fun row =>
    row.event.aggregateId = localSessionId ∧ row.syncStatus ≠ .failed
  match (rows.mergeSort fun a b => b.event.ts ≤ a.event.ts).head? with
  | none => db
  | some latest => { db with
      snapshots := Table.modify ProjectedSessionSnapshot.localSessionId localSessionId
        (fun snapshot => { snapshot with syncStatus := latest.syncStatus }) db.snapshots }

/-- The marks of the sync on the event and its place in the queue. -/
def markSessionEvent (eventId : String) (status : EventStatus) (error : Option String)
    (retried : Bool) (db : SessionDb) : SessionDb :=
  { db with
    sessionEvents := Table.modify sessionRowId eventId
      (fun row => { row with syncStatus := status, lastError := error }) db.sessionEvents
    sessionSyncQueue := Table.modify SessionSyncRow.eventId eventId
      (fun row =>
        { row with
          syncStatus := status
          retryCount := if retried then row.retryCount + 1 else row.retryCount
          lastError := error })
      db.sessionSyncQueue }

/-- The refresh of the session that the event belongs to. -/
def refreshSessionOf (eventId : String) (db : SessionDb) : SessionDb :=
  match Table.find sessionRowId db.sessionEvents eventId with
  | none => db
  | some row =>
    if row.event.aggregateId = "" then db else refreshSnapshotSyncStatus row.event.aggregateId db

def markSessionEventSynced (eventId : String) (db : SessionDb) : SessionDb :=
  refreshSessionOf eventId (markSessionEvent eventId .synced none false db)

def markSessionEventRetry (eventId errorMessage : String) (db : SessionDb) : SessionDb :=
  refreshSessionOf eventId (markSessionEvent eventId .pendingRetry (some errorMessage) true db)

def markSessionEventFailed (eventId errorMessage : String) (db : SessionDb) : SessionDb :=
  markSessionEvent eventId .failed (some errorMessage) true db

def liveSessionEvents (db : SessionDb) : List SessionEvent :=
  ((db.sessionEvents.filter fun row => row.syncStatus != .failed).map (·.event)).mergeSort fun a b => a.ts ≤ b.ts

def rebuildSessionProjections (db : SessionDb) : SessionDb :=
  (liveSessionEvents db).foldl (fun db event => applySessionEvent upper iso event db)
    { db with eventApplied := [], snapshots := [] }

end reducer

/-- What an answer of the server says of a session. -/
structure ServerSession where
  id : Option String := none
  underscoreId : Option String := none
  sessionId : Option String := none
  warehouse : Option String := none
  status : Option String := none
  type : Option String := none
  staffUser : Option String := none
  staffName : Option String := none
  startedAt : Option String := none
  locationType : Option String := none
  locationName : Option String := none
  rackNo : Option String := none
  finalizationStatus : Option String := none
  finalizedAt : Option String := none
  notes : Option String := none
  lastHeartbeat : Option String := none
  deriving DecidableEq

def ServerSession.boundId (server : ServerSession) : Option String :=
  firstFilled [server.id, server.underscoreId, server.sessionId]

def boundSnapshot (upper : String → String) (server : ServerSession) (now : String)
    (snapshot : ProjectedSessionSnapshot) : ProjectedSessionSnapshot :=
  let warehouse := (firstFilled [server.warehouse]).getD snapshot.warehouse
  let locationType := server.locationType.or snapshot.locationType
  let locationName := server.locationName.or snapshot.locationName
  let rackNo := server.rackNo.or snapshot.rackNo
  { snapshot with
    serverSessionId := server.boundId.or snapshot.serverSessionId
    warehouse := warehouse
    status := (firstFilled [server.status]).getD snapshot.status
    type := (firstFilled [server.type]).getD snapshot.type
    staffUser := (firstFilled [server.staffUser]).getD snapshot.staffUser
    staffName := (firstFilled [server.staffName]).getD snapshot.staffName
    startedAt := (firstFilled [server.startedAt]).getD snapshot.startedAt
    locationType := locationType
    locationName := locationName
    rackNo := rackNo
    locationKey := buildSessionLocationKey upper (some warehouse) locationType locationName rackNo
    finalizationStatus := server.finalizationStatus.or snapshot.finalizationStatus
    finalizedAt := server.finalizedAt.or snapshot.finalizedAt
    notes := server.notes.or snapshot.notes
    lastHeartbeat := server.lastHeartbeat.or snapshot.lastHeartbeat
    updatedAt := now
    syncStatus := .synced }

def bindServerSessionId (upper : String → String) (localSessionId : String) (server : ServerSession)
    (now : String) (db : SessionDb) : SessionDb :=
  match snapshotByLocalId db localSessionId with
  | none => db
  | some snapshot => upsertSessionSnapshot (boundSnapshot upper server now snapshot) db

/-- The latest snapshot that an id names, as a local session or as one of the server. -/
def getSnapshotByAnyId (db : SessionDb) (sessionId : String) : Option ProjectedSessionSnapshot :=
  ((db.snapshots.filter fun snapshot =>
      snapshot.localSessionId = sessionId ∨ snapshot.serverSessionId = some sessionId).mergeSort
    fun a b => b.updatedAt ≤ a.updatedAt).head?

def isOfflineId (sessionId : String) : Bool := "offline_".toList.isPrefixOf sessionId.toList

/-- The id of the server that a snapshot gives for an id. -/
def serverIdOf (snapshot : ProjectedSessionSnapshot) (sessionId : String) : Option String :=
  (firstFilled [snapshot.serverSessionId]).or (if isOfflineId snapshot.localSessionId then none else some sessionId)

def resolveServerSessionId (db : SessionDb) (sessionId : String) : Option String :=
  match getSnapshotByAnyId db sessionId with
  | none => if isOfflineId sessionId then none else some sessionId
  | some snapshot => serverIdOf snapshot sessionId

end StockVerification
