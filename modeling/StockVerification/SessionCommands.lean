import StockVerification.SessionBindings

/-!
# Session commands and the sessions of the server

Source: frontend/src/services/control-plane/sessionControlPlane.ts:114-712.

A create command posts its session directly. If the request fails without an answer of the server,
the command records a start event, and a later pass posts the event under a key of its own. The
server creates at most one session for a key; it is seen only through these keys.
-/
namespace StockVerification

open Foundation

/-- What the client sees of a request: a session, an answer with a 4xx status, or any other
failure. -/
inductive PostAnswer where
  | session (server : ServerSession)
  | rejected (detail : String)
  | failed (message : String)
  deriving DecidableEq

/-- A request, lost before or after the server carries it out, or answered. -/
structure Exchange where
  executed : Bool
  answer : PostAnswer
  deriving DecidableEq

structure CreateSessionParams where
  warehouse : Option String := none
  type : Option String := none
  locationType : Option String := none
  locationName : Option String := none
  rackNo : Option String := none
  deriving DecidableEq

/-- A create command with the ids it generates and what its requests meet. -/
structure CreateCall where
  params : CreateSessionParams
  canAttemptApi : Bool
  directKey : String
  direct : Exchange
  localSessionId : String
  eventKey : String
  second : Exchange
  username : String := "offline_user"
  fullName : String := "Offline User"
  startedAt : String
  ts : Int
  deriving DecidableEq

/-- The local tables, the keys under which the server has created a session, and the create commands
that were issued. -/
structure SessionWorld where
  db : SessionDb := {}
  created : List String := []
  issued : List CreateCall := []
  deriving DecidableEq

/-- The server creates a session where it carries out a request with a new key. -/
def serve (key : String) (executed : Bool) (created : List String) : List String :=
  if executed ∧ key ∉ created then created ++ [key] else created

def postSessionToServer (key : String) (exchange : Exchange) (w : SessionWorld) : PostAnswer × SessionWorld :=
  (exchange.answer, { w with created := serve key exchange.executed w.created })

def SessionWorld.onDb (f : SessionDb → SessionDb) (w : SessionWorld) : SessionWorld := { w with db := f w.db }

section commands

variable (upper : String → String) (iso : Int → String)

def settleAnswer (event : SessionEvent) (now : String) (server : ServerSession) (db : SessionDb) : SessionDb :=
  markSessionEventSynced event.id (bindServerSessionId upper event.aggregateId server now db)

def createServerSession (event : SessionEvent) (exchange : Exchange) (now : String)
    (w : SessionWorld) : PostAnswer × SessionWorld :=
  match postSessionToServer event.idempotencyKey exchange w with
  | (.session server, posted) => (.session server, posted.onDb (settleAnswer upper event now server))
  | refused => refused

def isSessionStartedEvent (event : SessionEvent) : Bool :=
  match event.payload with
  | .started .. => true
  | _ => false

def syncSessionEvent (event : SessionEvent) (exchange : Exchange) (now : String)
    (w : SessionWorld) : PostAnswer × SessionWorld :=
  if isSessionStartedEvent event then createServerSession upper event exchange now w
  else match resolveServerSessionId w.db event.aggregateId with
    | none => (.failed "Pending session start must sync before dependent session events.", w)
    | some _ =>
      match event.payload with
      | .heartbeat _ => (.session {}, w.onDb (markSessionEventSynced event.id))
      | _ =>
        match exchange.answer with
        | .session server => (.session server, w.onDb (settleAnswer upper event now server))
        | refused => (refused, w)

/-- An event that the server rejects is dropped from the projections; any other failure is
retried. -/
def settleFailure (event : SessionEvent) (answer : PostAnswer) (db : SessionDb) : SessionDb :=
  match answer with
  | .session _ => db
  | .rejected detail => rebuildSessionProjections upper iso (markSessionEventFailed event.id detail db)
  | .failed message => markSessionEventRetry event.id message db

inductive CreateOutcome where
  | created (server : ServerSession)
  | rejected (detail : String)
  | alreadyActive
  | createdOffline
  | degraded
  deriving DecidableEq

def buildSessionStartEvent (call : CreateCall) : SessionEvent where
  id := call.eventKey
  aggregateId := call.localSessionId
  payload := .started (call.params.warehouse.getD "") ((firstFilled [call.params.type]).getD "STANDARD")
    call.params.locationType call.params.locationName call.params.rackNo call.username call.fullName "OPEN"
    call.startedAt
  idempotencyKey := call.eventKey
  ts := call.ts

def findActiveProjectedSessionForLocation (locationKey : String) (db : SessionDb) :
    Option ProjectedSessionSnapshot :=
  ((db.snapshots.filter (·.locationKey = locationKey)).mergeSort fun a b => b.updatedAt ≤ a.updatedAt).find?
    (isProjectedSessionActive upper)

/-- Whether a session of the command's location is active already. -/
def locationActive (call : CreateCall) (db : SessionDb) : Bool :=
  (findActiveProjectedSessionForLocation upper
    (buildSessionLocationKey upper call.params.warehouse call.params.locationType call.params.locationName
      call.params.rackNo) db).isSome

/-- The command once the direct request was not made or has failed. -/
def createSessionLocally (call : CreateCall) (directCreateError : Option String)
    (w : SessionWorld) : CreateOutcome × SessionWorld :=
  if locationActive upper call w.db then (.alreadyActive, w)
  else
    let event := buildSessionStartEvent call
    let recorded := w.onDb (recordSessionEvent upper iso event)
    if call.canAttemptApi then
      match directCreateError with
      | some message => (.degraded, recorded.onDb (markSessionEventRetry event.id message))
      | none =>
        match createServerSession upper event call.second call.startedAt recorded with
        | (.session server, posted) => (.created server, posted)
        | (.rejected detail, posted) =>
          (.rejected detail, posted.onDb fun db =>
            rebuildSessionProjections upper iso (markSessionEventFailed event.id "Session creation rejected" db))
        | (.failed message, posted) => (.degraded, posted.onDb (markSessionEventRetry event.id message))
    else (.createdOffline, recorded)

def createSessionCommand (call : CreateCall) (w : SessionWorld) : CreateOutcome × SessionWorld :=
  if call.canAttemptApi then
    match postSessionToServer call.directKey call.direct w with
    | (.session server, posted) => (.created server, posted)
    | (.rejected detail, posted) => (.rejected detail, posted)
    | (.failed message, posted) => createSessionLocally upper iso call (some message) posted
  else createSessionLocally upper iso call none w

inductive SessionChange where
  | status (status : String) (note : Option String)
  | finalize (note : Option String)
  | heartbeat
  deriving DecidableEq

def resolveLocalSessionId (db : SessionDb) (sessionId : String) : String :=
  (firstFilled [(getSnapshotByAnyId db sessionId).map (·.localSessionId)]).getD sessionId

structure ChangeCall where
  sessionId : String
  change : SessionChange
  key : String
  changedAt : String
  ts : Int
  online : Bool
  exchange : Exchange
  deriving DecidableEq

def changePayload (call : ChangeCall) : SessionPayload :=
  match call.change with
  | .status status note =>
    if upper status = "ACTIVE" then .resumed call.changedAt else .statusChanged (upper status) call.changedAt note
  | .finalize note => .finalized call.changedAt note
  | .heartbeat => .heartbeat call.changedAt

def buildChangeEvent (call : ChangeCall) (db : SessionDb) : SessionEvent where
  id := call.key
  aggregateId := resolveLocalSessionId db call.sessionId
  payload := changePayload upper call
  idempotencyKey := call.key
  ts := call.ts

/-- `updateSessionStatusCommand`, `finalizeSessionCommand` and `recordSessionHeartbeatCommand`. -/
def changeSessionCommand (call : ChangeCall) (w : SessionWorld) : SessionWorld :=
  let event := buildChangeEvent upper call w.db
  let recorded := w.onDb (recordSessionEvent upper iso event)
  if call.change = .heartbeat ∨ call.online = false then recorded
  else
    let synced := syncSessionEvent upper event call.exchange call.changedAt recorded
    synced.2.onDb (settleFailure upper iso event synced.1)

/-- The first fifty events that wait, by their time. -/
def getPendingSessionEvents (db : SessionDb) : List SessionEvent :=
  (((db.sessionEvents.filter fun row => row.syncStatus = .pending ∨ row.syncStatus = .pendingRetry).map
    (·.event)).mergeSort fun a b => a.ts ≤ b.ts).take 50

/-- The pass stops at the first event that fails. -/
def syncEvents (net : SessionEvent → Exchange) (now : String) : List SessionEvent → SessionWorld → SessionWorld
  | [], w => w
  | event :: rest, w =>
    match syncSessionEvent upper event (net event) now w with
    | (.session _, synced) => syncEvents net now rest synced
    | (refused, posted) => posted.onDb (settleFailure upper iso event refused)

def syncPendingSessionEvents (net : SessionEvent → Exchange) (now : String) (w : SessionWorld) : SessionWorld :=
  syncEvents upper iso net now (getPendingSessionEvents w.db) w

inductive SessionCommand where
  | create (call : CreateCall)
  | change (call : ChangeCall)
  | sync (net : SessionEvent → Exchange) (now : String)

def SessionWorld.step (w : SessionWorld) : SessionCommand → SessionWorld
  | .create call => { (createSessionCommand upper iso call w).2 with issued := w.issued ++ [call] }
  | .change call => changeSessionCommand upper iso call w
  | .sync net now => syncPendingSessionEvents upper iso net now w

end commands

/-- The sessions that the server has created for a create command. -/
def sessionsFor (call : CreateCall) (w : SessionWorld) : List String :=
  w.created.filter fun key => key = call.directKey ∨ key = call.eventKey

def loggedEvents (db : SessionDb) : List SessionEvent := db.sessionEvents.map (·.event)

def startKeys (db : SessionDb) : List String :=
  ((loggedEvents db).filter isSessionStartedEvent).map (·.idempotencyKey)

variable {key : String}

section log

variable {upper : String → String} {iso : Int → String}

theorem loggedEvents_mark (eventId : String) (status : EventStatus) (error : Option String) (retried : Bool)
    (db : SessionDb) : loggedEvents (markSessionEvent eventId status error retried db) = loggedEvents db := by
  apply Table.map_modify
  intro row
  rfl

theorem loggedEvents_refresh (eventId : String) (db : SessionDb) :
    loggedEvents (refreshSessionOf eventId db) = loggedEvents db := by
  unfold refreshSessionOf
  split
  · rfl
  · split
    · rfl
    · unfold refreshSnapshotSyncStatus
      dsimp only
      split
      · rfl
      · rfl

theorem loggedEvents_bind (session : String) (server : ServerSession) (now : String) (db : SessionDb) :
    loggedEvents (bindServerSessionId upper session server now db) = loggedEvents db := by
  unfold bindServerSessionId
  split
  · rfl
  · rfl

variable (event : SessionEvent)

theorem sessionEvents_apply (db : SessionDb) :
    (applySessionEvent upper iso event db).sessionEvents = db.sessionEvents := by
  unfold applySessionEvent
  split
  · rfl
  · rfl

theorem loggedEvents_rebuild (db : SessionDb) :
    loggedEvents (rebuildSessionProjections upper iso db) = loggedEvents db := by
  have replay : ∀ (events : List SessionEvent) (s : SessionDb),
      (events.foldl (fun db event => applySessionEvent upper iso event db) s).sessionEvents = s.sessionEvents := by
    intro events
    induction events with
    | nil =>
      intro s
      rfl
    | cons event rest ih =>
      intro s
      exact (ih (applySessionEvent upper iso event s)).trans (sessionEvents_apply event s)
  exact congrArg (List.map (·.event)) (replay _ _)

theorem loggedEvents_settleAnswer (now : String) (server : ServerSession) (db : SessionDb) :
    loggedEvents (settleAnswer upper event now server db) = loggedEvents db := by
  rw [settleAnswer, markSessionEventSynced, loggedEvents_refresh, loggedEvents_mark, loggedEvents_bind]

theorem loggedEvents_settleFailure (answer : PostAnswer) (db : SessionDb) :
    loggedEvents (settleFailure upper iso event answer db) = loggedEvents db := by
  cases answer with
  | session server => rfl
  | rejected detail =>
    rw [settleFailure, loggedEvents_rebuild, markSessionEventFailed, loggedEvents_mark]
  | failed message => rw [settleFailure, markSessionEventRetry, loggedEvents_refresh, loggedEvents_mark]

theorem loggedEvents_record (upper : String → String) (iso : Int → String) (event : SessionEvent) (db : SessionDb) :
    loggedEvents (recordSessionEvent upper iso event db) = loggedEvents db ∨
      loggedEvents (recordSessionEvent upper iso event db) = loggedEvents db ++ [event] := by
  unfold recordSessionEvent
  split
  · exact .inl rfl
  · right
    rw [loggedEvents, sessionEvents_apply, List.map_append]
    rfl

theorem startKeys_record {event : SessionEvent} {db : SessionDb}
    (stands : key ∈ startKeys (recordSessionEvent upper iso event db)) :
    key ∈ startKeys db ∨ isSessionStartedEvent event = true ∧ key = event.idempotencyKey := by
  unfold startKeys at stands ⊢
  rcases loggedEvents_record upper iso event db with same | appended
  · rw [same] at stands
    exact .inl stands
  · rw [appended, List.filter_append, List.map_append, List.mem_append] at stands
    rcases stands with older | newer
    · exact .inl older
    · obtain ⟨started, member, rfl⟩ := List.mem_map.mp newer
      rw [List.mem_filter, List.mem_singleton] at member
      obtain ⟨rfl, begins⟩ := member
      exact .inr ⟨begins, rfl⟩

/-- Requests under some keys: the log keeps its events, and the server creates sessions only under
these keys. -/
structure Posts (keys : List String) (w v : SessionWorld) : Prop where
  logged : loggedEvents v.db = loggedEvents w.db
  created : ∀ key ∈ v.created, key ∈ w.created ∨ key ∈ keys
  once : w.created.Nodup → v.created.Nodup
  issued : v.issued = w.issued

theorem Posts.none (w : SessionWorld) : Posts [] w w :=
  ⟨rfl, fun _ stands => .inl stands, id, rfl⟩

variable {keys : List String} {w v : SessionWorld}

theorem Posts.onDb {f : SessionDb → SessionDb} (posts : Posts keys w v)
    (keeps : ∀ db, loggedEvents (f db) = loggedEvents db) : Posts keys w (v.onDb f) :=
  { posts with logged := (keeps v.db).trans posts.logged }

theorem Posts.trans {more : List String} {u : SessionWorld} (first : Posts keys w v)
    (second : Posts more v u) : Posts (keys ++ more) w u := by
  refine ⟨second.logged.trans first.logged, ?_, fun once => second.once (first.once once),
    second.issued.trans first.issued⟩
  intro key stands
  rw [List.mem_append]
  rcases second.created key stands with earlier | now
  · rcases first.created key earlier with before | now
    · exact .inl before
    · exact .inr (.inl now)
  · exact .inr (.inr now)

theorem Posts.more {all : List String} (posts : Posts keys w v)
    (among : ∀ key ∈ keys, key ∈ all) : Posts all w v := by
  refine { posts with created := ?_ }
  intro key stands
  rcases posts.created key stands with before | now
  · exact .inl before
  · exact .inr (among key now)

theorem serve_nodup {executed : Bool} {created : List String} (once : created.Nodup) :
    (serve key executed created).Nodup := by
  unfold serve
  split
  · next new =>
    rw [← List.concat_eq_append]
    exact once.concat new.2
  · exact once

theorem mem_serve {other : String} {executed : Bool} {created : List String}
    (stands : other ∈ serve key executed created) : other ∈ created ∨ executed = true ∧ other = key := by
  unfold serve at stands
  split at stands
  · next new =>
    rcases List.mem_append.mp stands with before | now
    · exact .inl before
    · exact .inr ⟨new.1, List.mem_singleton.mp now⟩
  · exact .inl stands

theorem posts_postSession (key : String) (exchange : Exchange) (w : SessionWorld) :
    Posts [key] w (postSessionToServer key exchange w).2 := by
  refine ⟨rfl, ?_, serve_nodup, rfl⟩
  intro other stands
  rcases mem_serve stands with before | ⟨_, now⟩
  · exact .inl before
  · exact .inr (List.mem_singleton.mpr now)

theorem posts_createServerSession (exchange : Exchange) (now : String) (w : SessionWorld) :
    Posts [event.idempotencyKey] w (createServerSession upper event exchange now w).2 := by
  have posted := posts_postSession event.idempotencyKey exchange w
  unfold createServerSession
  split
  · next server v sent =>
    rw [sent] at posted
    exact posted.onDb (loggedEvents_settleAnswer event now server)
  · exact posted

def postKeys (event : SessionEvent) : List String :=
  if isSessionStartedEvent event then [event.idempotencyKey] else []

theorem posts_syncSessionEvent (upper : String → String) (event : SessionEvent) (exchange : Exchange) (now : String)
    (w : SessionWorld) : Posts (postKeys event) w (syncSessionEvent upper event exchange now w).2 := by
  unfold syncSessionEvent postKeys
  by_cases started : isSessionStartedEvent event = true
  · rw [if_pos started, if_pos started]
    exact posts_createServerSession event exchange now w
  · rw [if_neg started, if_neg started]
    have idle := Posts.none w
    split
    · exact idle
    · split
      · apply idle.onDb
        intro db
        rw [markSessionEventSynced, loggedEvents_refresh, loggedEvents_mark]
      · split
        · next server _ => exact idle.onDb (loggedEvents_settleAnswer event now server)
        · exact idle

theorem posts_syncEvents (net : SessionEvent → Exchange) (now : String) (events : List SessionEvent)
    (w : SessionWorld) : Posts (events.flatMap postKeys) w (syncEvents upper iso net now events w) := by
  induction events generalizing w with
  | nil => exact Posts.none w
  | cons event rest ih =>
    have first := posts_syncSessionEvent upper event (net event) now w
    rw [List.flatMap_cons, syncEvents]
    split
    · next server synced ran =>
      rw [ran] at first
      exact first.trans (ih synced)
    · next refused posted _ ran =>
      rw [ran] at first
      apply (first.onDb (loggedEvents_settleFailure event refused)).more
      intro key member
      exact List.mem_append_left _ member

/-- A pass creates sessions only under the keys of start events. -/
theorem posts_pass (net : SessionEvent → Exchange) (now : String) (w : SessionWorld) :
    Posts (startKeys w.db) w (syncPendingSessionEvents upper iso net now w) := by
  apply (posts_syncEvents net now (getPendingSessionEvents w.db) w).more
  intro key member
  obtain ⟨event, pending, posted⟩ := List.mem_flatMap.mp member
  unfold postKeys at posted
  split at posted
  · next started =>
    rw [List.mem_singleton] at posted
    have listed := List.mem_of_mem_take pending
    rw [List.mem_mergeSort] at listed
    obtain ⟨row, waits, rfl⟩ := List.mem_map.mp listed
    apply List.mem_map.mpr
    refine ⟨row.event, List.mem_filter.mpr ⟨?_, started⟩, posted.symm⟩
    exact List.mem_map_of_mem (List.mem_of_mem_filter waits)
  · cases posted

end log

def keysOf (call : CreateCall) : List String := [call.directKey, call.eventKey]

theorem directKey_mem (call : CreateCall) : call.directKey ∈ keysOf call := List.mem_cons_self ..

theorem eventKey_mem (call : CreateCall) : call.eventKey ∈ keysOf call :=
  List.mem_cons_of_mem _ (List.mem_singleton.mpr rfl)

def FreshKeys (call : CreateCall) (w : SessionWorld) : Prop :=
  call.directKey ≠ call.eventKey ∧ ∀ other ∈ w.issued, ∀ key ∈ keysOf call, key ∉ keysOf other

/-- The direct request is carried out but not answered, and the command goes on locally. -/
def DoubtfulCreate (upper : String → String) (call : CreateCall) (db : SessionDb) : Prop :=
  call.canAttemptApi = true ∧ call.direct.executed = true ∧
    (∃ message, call.direct.answer = .failed message) ∧ locationActive upper call db = false

structure OncePerCommand (w : SessionWorld) : Prop where
  once : w.created.Nodup
  events : ∀ key ∈ startKeys w.db, ∃ call ∈ w.issued, key = call.eventKey
  keys : ∀ key ∈ w.created, ∃ call ∈ w.issued, key ∈ keysOf call
  apart : ∀ call ∈ w.issued, ∀ other ∈ w.issued, call.directKey ≠ other.eventKey
  single : ∀ call ∈ w.issued, call.directKey ∈ w.created → call.eventKey ∉ startKeys w.db ∧ call.eventKey ∉ w.created

section once

variable {upper : String → String} {iso : Int → String} {w v : SessionWorld} {call : CreateCall}

section

variable (inv : OncePerCommand w)
include inv

/-- Start events are posted again under the keys that they have. -/
theorem OncePerCommand.posted (posts : Posts (startKeys w.db) w v) : OncePerCommand v := by
  have same : startKeys v.db = startKeys w.db := by rw [startKeys, posts.logged, startKeys]
  constructor
  · exact posts.once inv.once
  · rw [same, posts.issued]
    exact inv.events
  · intro key stands
    rw [posts.issued]
    rcases posts.created key stands with before | now
    · exact inv.keys key before
    · obtain ⟨call, issued, rfl⟩ := inv.events key now
      exact ⟨call, issued, eventKey_mem call⟩
  · rw [posts.issued]
    exact inv.apart
  · intro call issued direct
    rw [posts.issued] at issued
    rw [same]
    have before : call.directKey ∈ w.created := by
      rcases posts.created _ direct with before | now
      · exact before
      · obtain ⟨other, also, equal⟩ := inv.events _ now
        exact absurd equal (inv.apart call issued other also)
    obtain ⟨noEvent, notCreated⟩ := inv.single call issued before
    refine ⟨noEvent, ?_⟩
    intro created
    rcases posts.created _ created with earlier | now
    · exact notCreated earlier
    · exact noEvent now

theorem FreshKeys.unused (fresh : FreshKeys call w) (mine : key ∈ keysOf call) :
    key ∉ w.created ∧ key ∉ startKeys w.db := by
  constructor
  · intro created
    obtain ⟨other, issued, used⟩ := inv.keys key created
    exact fresh.2 other issued key mine used
  · intro logged
    obtain ⟨other, issued, rfl⟩ := inv.events key logged
    exact fresh.2 other issued _ mine (eventKey_mem other)

/-- A command that either creates under its direct key or logs under its event key. -/
theorem OncePerCommand.issue (fresh : FreshKeys call w)
    (logged : ∀ key ∈ startKeys v.db, key ∈ startKeys w.db ∨ key = call.eventKey)
    (created : ∀ key ∈ v.created, key ∈ w.created ∨ key = call.directKey) (once : v.created.Nodup)
    (either : call.directKey ∈ v.created → call.eventKey ∉ startKeys v.db) :
    OncePerCommand { v with issued := w.issued ++ [call] } := by
  have eventNew := fresh.unused inv (eventKey_mem call)
  have eventMissing : call.eventKey ∉ v.created := by
    intro stands
    rcases created _ stands with before | direct
    · exact eventNew.1 before
    · exact fresh.1 direct.symm
  constructor
  · exact once
  · intro key stands
    rcases logged key stands with before | rfl
    · obtain ⟨other, issued, rfl⟩ := inv.events key before
      exact ⟨other, List.mem_append_left _ issued, rfl⟩
    · exact ⟨call, List.mem_append_right _ (List.mem_singleton.mpr rfl), rfl⟩
  · intro key stands
    rcases created key stands with before | rfl
    · obtain ⟨other, issued, used⟩ := inv.keys key before
      exact ⟨other, List.mem_append_left _ issued, used⟩
    · exact ⟨call, List.mem_append_right _ (List.mem_singleton.mpr rfl), directKey_mem call⟩
  · intro one first two second
    rcases List.mem_append.mp first with first | first
    · rcases List.mem_append.mp second with second | second
      · exact inv.apart one first two second
      · rw [List.mem_singleton.mp second]
        intro equal
        exact fresh.2 one first _ (eventKey_mem call) (equal ▸ directKey_mem one)
    · rw [List.mem_singleton.mp first]
      rcases List.mem_append.mp second with second | second
      · intro equal
        exact fresh.2 two second _ (directKey_mem call) (equal ▸ eventKey_mem two)
      · rw [List.mem_singleton.mp second]
        exact fresh.1
  · intro one issued direct
    rcases List.mem_append.mp issued with issued | issued
    · have before : one.directKey ∈ w.created := by
        rcases created _ direct with before | equal
        · exact before
        · exact absurd (equal ▸ directKey_mem one) (fresh.2 one issued _ (directKey_mem call))
      obtain ⟨noEvent, notCreated⟩ := inv.single one issued before
      constructor
      · intro stands
        rcases logged _ stands with earlier | equal
        · exact noEvent earlier
        · exact fresh.2 one issued _ (eventKey_mem call) (equal ▸ eventKey_mem one)
      · intro stands
        rcases created _ stands with earlier | equal
        · exact notCreated earlier
        · exact fresh.2 one issued _ (directKey_mem call) (equal ▸ eventKey_mem one)
    · rw [List.mem_singleton.mp issued] at direct ⊢
      exact ⟨either direct, eventMissing⟩

theorem OncePerCommand.direct (fresh : FreshKeys call w) :
    OncePerCommand { (postSessionToServer call.directKey call.direct w).2 with issued := w.issued ++ [call] } := by
  apply inv.issue fresh
  · intro key stands
    exact .inl stands
  · intro key stands
    rcases mem_serve stands with before | ⟨_, now⟩
    · exact .inl before
    · exact .inr now
  · exact serve_nodup inv.once
  · intro _
    exact (fresh.unused inv (eventKey_mem call)).2

/-- A start event without a session of the direct request. -/
theorem OncePerCommand.logged {f : SessionDb → SessionDb} (fresh : FreshKeys call w)
    (keeps : ∀ db, loggedEvents (f db) = loggedEvents db) (created : v.created = w.created)
    (written : v.db = f (recordSessionEvent upper iso (buildSessionStartEvent call) w.db)) :
    OncePerCommand { v with issued := w.issued ++ [call] } := by
  apply inv.issue fresh
  · intro key stands
    rw [written, startKeys, keeps] at stands
    rcases startKeys_record stands with before | ⟨_, now⟩
    · exact .inl before
    · exact .inr now
  · intro key stands
    rw [created] at stands
    exact .inl stands
  · rw [created]
    exact inv.once
  · intro direct
    rw [created] at direct
    exact absurd direct (fresh.unused inv (directKey_mem call)).1

theorem OncePerCommand.create (fresh : FreshKeys call w)
    (certain : ¬ DoubtfulCreate upper call w.db) : OncePerCommand (w.step upper iso (.create call)) := by
  have direct := inv.direct fresh
  change OncePerCommand { (createSessionCommand upper iso call w).2 with issued := w.issued ++ [call] }
  unfold createSessionCommand
  by_cases attempts : call.canAttemptApi = true
  · rw [if_pos attempts]
    unfold postSessionToServer at direct ⊢
    cases answered : call.direct.answer with
    | session server => exact direct
    | rejected detail => exact direct
    | failed message =>
      dsimp only
      unfold createSessionLocally
      dsimp only
      by_cases active : locationActive upper call w.db = true
      · rw [if_pos active]
        exact direct
      · rw [if_neg active, if_pos attempts]
        have lost : call.direct.executed = false := by
          by_contra executed
          apply certain
          exact ⟨attempts, by simpa using executed, ⟨message, answered⟩, by simpa using active⟩
        apply inv.logged fresh (f := markSessionEventRetry call.eventKey message)
        · intro db
          rw [markSessionEventRetry, loggedEvents_refresh, loggedEvents_mark]
        · change serve _ call.direct.executed _ = _
          rw [lost]
          rfl
        · rfl
  · rw [if_neg attempts]
    unfold createSessionLocally
    dsimp only
    by_cases active : locationActive upper call w.db = true
    · rw [if_pos active]
      apply inv.issue fresh
      · intro key stands
        exact .inl stands
      · intro key stands
        exact .inl stands
      · exact inv.once
      · intro _
        exact (fresh.unused inv (eventKey_mem call)).2
    · rw [if_neg active, if_neg attempts]
      apply inv.logged fresh (f := id)
      · intro db
        rfl
      · rfl
      · rfl

end

theorem changePayload_started (call : ChangeCall) (db : SessionDb) :
    isSessionStartedEvent (buildChangeEvent upper call db) = false := by
  unfold isSessionStartedEvent buildChangeEvent changePayload
  cases call.change with
  | status status note =>
    dsimp only
    by_cases active : upper status = "ACTIVE"
    · rw [if_pos active]
    · rw [if_neg active]
  | finalize note => rfl
  | heartbeat => rfl

/-- A change logs no start event and posts none. -/
theorem OncePerCommand.change (call : ChangeCall) (inv : OncePerCommand w) :
    OncePerCommand (changeSessionCommand upper iso call w) := by
  let event := buildChangeEvent upper call w.db
  have other : isSessionStartedEvent event = false := changePayload_started call w.db
  have same : startKeys (recordSessionEvent upper iso event w.db) = startKeys w.db := by
    unfold startKeys
    rcases loggedEvents_record upper iso event w.db with same | appended
    · rw [same]
    · rw [appended, List.filter_append, List.map_append]
      simp [other]
  have recorded : OncePerCommand (w.onDb (recordSessionEvent upper iso event)) := by
    constructor
    · exact inv.once
    · change ∀ key ∈ startKeys (recordSessionEvent upper iso event w.db), _
      rw [same]
      exact inv.events
    · exact inv.keys
    · exact inv.apart
    · change ∀ call ∈ w.issued, _ → _ ∉ startKeys (recordSessionEvent upper iso event w.db) ∧ _
      rw [same]
      exact inv.single
  unfold changeSessionCommand
  dsimp only
  split
  · exact recorded
  · apply recorded.posted
    have synced := posts_syncSessionEvent upper event call.exchange call.changedAt
      (w.onDb (recordSessionEvent upper iso event))
    apply (synced.onDb (loggedEvents_settleFailure event _)).more
    intro key posted
    unfold postKeys at posted
    rw [other] at posted
    cases posted

/-- A create command generates new keys, and its direct request is not left in doubt. -/
def CertainCreate (upper : String → String) (w : SessionWorld) : SessionCommand → Prop
  | .create call => FreshKeys call w ∧ ¬ DoubtfulCreate upper call w.db
  | _ => True

theorem OncePerCommand.step {command : SessionCommand} (inv : OncePerCommand w)
    (certain : CertainCreate upper w command) : OncePerCommand (w.step upper iso command) := by
  cases command with
  | create call => exact inv.create certain.1 certain.2
  | change call => exact inv.change call
  | sync net now => exact inv.posted (posts_pass net now w)

theorem OncePerCommand.init : OncePerCommand {} := by
  constructor
  · exact List.nodup_nil
  all_goals
    intro key stands
    cases stands

theorem OncePerCommand.atMostOne (inv : OncePerCommand w) (issued : call ∈ w.issued) :
    (sessionsFor call w).length ≤ 1 := by
  have distinct : (sessionsFor call w).Nodup := inv.once.filter _
  have alike : ∃ only, ∀ key ∈ sessionsFor call w, key = only := by
    by_cases direct : call.directKey ∈ w.created
    · refine ⟨call.directKey, ?_⟩
      intro key stands
      rw [sessionsFor, List.mem_filter, decide_eq_true_eq] at stands
      rcases stands.2 with same | same
      · exact same
      · exact absurd (same ▸ stands.1) (inv.single call issued direct).2
    · refine ⟨call.eventKey, ?_⟩
      intro key stands
      rw [sessionsFor, List.mem_filter, decide_eq_true_eq] at stands
      rcases stands.2 with same | same
      · exact absurd (same ▸ stands.1) direct
      · exact same
  obtain ⟨only, all⟩ := alike
  rw [List.eq_replicate_of_mem all, List.nodup_replicate] at distinct
  exact distinct

end once

/-- In a run that leaves no direct request in doubt, the server creates at most one session for
every create command. -/
theorem sessions_per_command_le_one (upper : String → String) (iso : Int → String) (last : SessionWorld)
    (run : Reaches (SessionWorld.step upper iso) (CertainCreate upper) {} last) :
    ∀ call ∈ last.issued, (sessionsFor call last).length ≤ 1 := by
  have inv := run.invariant (P := OncePerCommand) OncePerCommand.init fun _ _ before certain => before.step certain
  intro call issued
  exact inv.atMostOne issued

/-- The direct request is carried out, and its answer is lost. -/
def doubtfulCall : CreateCall where
  params := { warehouse := some "W" }
  canAttemptApi := true
  directKey := "d"
  direct := { executed := true, answer := .failed "timeout" }
  localSessionId := "offline_1"
  eventKey := "e"
  second := { executed := false, answer := .failed "not sent" }
  startedAt := "t"
  ts := 0

def answering : SessionEvent → Exchange := fun _ => { executed := true, answer := .session { id := some "srv" } }

def doubtfulRun : SessionWorld :=
  [SessionCommand.create doubtfulCall, .sync answering "t"].foldl (SessionWorld.step id fun _ => "t") {}

theorem twoSessionsForCommand :
    (¬ ∀ last, Reaches (SessionWorld.step id fun _ => "t")
        (fun w command => ∀ call, command = .create call → FreshKeys call w) {} last →
        ∀ call ∈ last.issued, (sessionsFor call last).length ≤ 1) ∧
      doubtfulRun.created = ["d", "e"] := by
  have both : (sessionsFor doubtfulCall doubtfulRun).length = 2 := by decide +kernel
  refine ⟨?_, by decide +kernel⟩
  intro all
  have one : (sessionsFor doubtfulCall doubtfulRun).length ≤ 1 := by
    apply all doubtfulRun _ doubtfulCall (by decide +kernel)
    change Reaches _ _ _ (SessionWorld.step id (fun _ => "t")
      (SessionWorld.step id (fun _ => "t") {} (.create doubtfulCall)) (.sync answering "t"))
    apply Reaches.next
    · apply Reaches.next _ .start
      intro call same
      cases same
      exact ⟨by decide, fun other issued => nomatch issued⟩
    · intro call same
      cases same
  omega

/-- The request is lost on its way, and the pass creates the session. -/
def lostCall : CreateCall := { doubtfulCall with direct := { executed := false, answer := .failed "timeout" } }

theorem sessions_per_command_le_one_sample :
    (sessionsFor lostCall
      ([SessionCommand.create lostCall, .sync answering "t"].foldl (SessionWorld.step id fun _ => "t") {})).length ≤ 1 := by
  apply sessions_per_command_le_one id (fun _ => "t") _ _ lostCall (by decide +kernel)
  change Reaches _ _ _ (SessionWorld.step id (fun _ => "t")
    (SessionWorld.step id (fun _ => "t") {} (.create lostCall)) (.sync answering "t"))
  apply Reaches.next
  · apply Reaches.next _ .start
    refine ⟨⟨by decide, fun other issued => nomatch issued⟩, ?_⟩
    intro doubtful
    cases doubtful.2.1
  · trivial

end StockVerification
