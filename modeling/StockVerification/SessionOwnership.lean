import StockVerification.SessionOcc

/-!
# Session ownership

Source: backend/api/session_management_api.py:1968-2340,
backend/services/session_lifecycle_service.py:143-172,
backend/services/governance_guard.py:79-104, backend/services/canonical_inventory.py:33-44 and
backend/auth/dependencies.py:322-355.

Every endpoint reads the session by its id, checks its status and its owner, and
counts the claim version up from what it read. The update that follows is not
filtered by that version.
-/
namespace StockVerification

open Foundation Foundation.Action

structure SessionUser extends User where
  fullName : Option String := none

def SessionUser.staffName (user : SessionUser) : String := user.fullName.getD user.username

/-- `SessionClaimResponse` and `SessionTakeoverResponse`. -/
inductive OwnershipResponse where
  | claimed (sessionId claimedBy : String) (claimedAt : Int) (claimVersion : ℚ)
  | takenOver (sessionId claimedBy : String) (claimedAt : Int) (previousClaimVersion : ℚ)
      (takeoverReason : String)

def OwnershipResponse.sessionId : OwnershipResponse → String
  | .claimed sessionId .. | .takenOver sessionId .. => sessionId

/-- The claim version the answered request wrote. -/
def OwnershipResponse.claimVersion : OwnershipResponse → ℚ
  | .claimed _ _ _ version => version
  | .takenOver _ _ _ previous _ => previous + 1

/-- What an endpoint has decided on when it calls `apply_ownership_transition`. -/
structure OwnershipChange where
  fields : List (String × Value)
  event : List (String × Atom)
  response : OwnershipResponse

/-- `db.sessions.find_one({"id": session_id})`. -/
def Store.findSessionById (s : Store) (sessionId : String) : Option Doc :=
  s.sessions.find? (Filter.eq "id" (.str sessionId)).holds

def loadOwnedSession (sessionId : String) (s : Store) : Except Error Doc :=
  match s.findSessionById sessionId with
  | some session => .ok session
  | none => .error (.http 404 ("Session " ++ sessionId ++ " not found"))

def requireRole (roles : List String) (user : User) : Except Error Unit :=
  require (roles.contains user.role) (.http 403 ("Required role: " ++ String.intercalate " or " roles))

/-- `(session.get("claim_version", 0) or 0) + 1`. -/
def nextClaimVersion (session : Doc) : Except Error ℚ :=
  match (session.get "claim_version").orElse (.num 0) with
  | .num q => .ok (q + 1)
  | .bool _ => .ok 2
  | _ => .error (.http 500 "Internal Server Error")

/-- The previous owner as the event records it; owners are texts. -/
def ownerAtom : Value → Atom
  | .str owner => .str owner
  | _ => .null

/-- The statuses that count as active where the endpoints look for an employee's session. -/
def activeSessionStatuses : List Value := [.str "OPEN", .str "ACTIVE", .str "RECONCILE"]

def employeeSessionFilter (username : String) : Filter :=
  .both (.eq "staff_user" (.str username)) (.isIn "status" activeSessionStatuses)

def ensureNoActiveSession (username : String) (s : Store) : Except Error Unit :=
  require (!s.sessions.any (employeeSessionFilter username).holds)
    (.http 409 "Employee already has an active session. Pause or release it first.")

/-- `normalize_canonical_session_status(session.get("status", ""))`: the endpoints
read the status without the guard's table of aliases, so PAUSED and OPEN stay apart
from ACTIVE. -/
def ownershipStatus (session : Doc) : String :=
  canonicalSessionStatus (session.get "status") .null

/-- The checks of `claim_location_session` on its target. -/
def ensureClaimable (user : User) (target : Doc) : Except Error Unit := do
  let canonical := ownershipStatus target
  let owner := target.get "staff_user"
  require (["OPEN", "AVAILABLE", "RELEASED", "STALE"].contains canonical)
    (.http 409 ("Session is in " ++ (target.get "status").text ++ " state and cannot be claimed."))
  if owner = .str user.username ∧ (canonical = "RELEASED" ∨ canonical = "STALE") then pure ()
  else if owner = .str user.username ∧ canonical = "CLAIMED" then
    .error (.http 409 "Session already claimed by you.")
  else
    require (owner == .null || canonical == "STALE") (.http 409 "Session is already claimed by another employee.")

section

variable (env : Env) (user : SessionUser) (deviceId : String) (version : ℚ)

/-- The fields that a claim and a takeover set. -/
def claimedFields : List (String × Value) :=
  [("staff_user", .str user.username), ("staff_name", .str user.staffName), ("status", .str "CLAIMED"),
    ("last_heartbeat", .date env.now), ("claim_version", .num version), ("claimed_at", .date env.now),
    ("claimed_by", .str user.username), ("claimed_device_id", .str deviceId)]

def claimEvent (eventType : String) (session : Doc) : List (String × Atom) :=
  [("event_type", .str eventType), ("actor", .str user.username), ("role", .str user.role),
    ("device_id", .str deviceId), ("timestamp", .date env.now), ("claim_version", .num version),
    ("previous_owner", ownerAtom (session.get "staff_user"))]

end

/-- `claim_location_session` after its lookups. -/
def claimChange (env : Env) (user : SessionUser) (sessionId deviceId : String) (target : Doc) :
    Except Error OwnershipChange := do
  ensureClaimable user.toUser target
  let version ← nextClaimVersion target
  pure {
    fields := claimedFields env user deviceId version
    event := claimEvent env user deviceId version "CLAIM" target
    response := .claimed sessionId user.username env.now version }

/-- What pause, resume and release differ in. -/
structure OwnerAction where
  verb : String
  allowed : List String
  hint : String := ""
  status : String
  eventType : String
  stamps : Env → String → List (String × Value) := fun _ _ => []

/-- An owner's request on its own session; a supervisor or an admin may make it too. -/
def ownerChange (action : OwnerAction) (env : Env) (user : SessionUser) (sessionId : String)
    (session : Doc) : Except Error OwnershipChange := do
  require (action.allowed.contains (ownershipStatus session))
    (.http 409 ("Cannot " ++ action.verb ++ " a session in " ++ (session.get "status").text ++
      " state." ++ action.hint))
  require (session.get "staff_user" == .str user.username || user.isPrivileged)
    (.http 403 ("Not your session to " ++ action.verb))
  let version ← nextClaimVersion session
  pure {
    fields := [("status", .str action.status), ("last_heartbeat", .date env.now),
      ("claim_version", .num version)] ++ action.stamps env user.username
    event := [("event_type", .str action.eventType), ("actor", .str user.username),
      ("role", .str user.role), ("timestamp", .date env.now), ("claim_version", .num version)]
    response := .claimed sessionId user.username env.now version }

def pauseAction : OwnerAction where
  verb := "pause"
  allowed := ["ACTIVE", "CLAIMED"]
  status := "PAUSED"
  eventType := "PAUSE"
  stamps env username := [("paused_at", .date env.now), ("paused_by", .str username)]

def resumeAction : OwnerAction where
  verb := "resume"
  allowed := ["PAUSED"]
  hint := " Only PAUSED sessions can be resumed."
  status := "CLAIMED"
  eventType := "RESUME"

def releaseAction : OwnerAction where
  verb := "release"
  allowed := ["ACTIVE", "CLAIMED", "PAUSED"]
  status := "RELEASED"
  eventType := "RELEASE"
  stamps env username := [("released_at", .date env.now), ("released_by", .str username),
    ("release_reason", .str "manual")]

/-- `takeover_location_session` after its lookup. -/
def takeoverChange (env : Env) (user : SessionUser) (sessionId deviceId reason : String)
    (session : Doc) : Except Error OwnershipChange := do
  require (["STALE", "RELEASED"].contains (ownershipStatus session))
    (.http 409 ("Cannot take over a session in " ++ (session.get "status").text ++
      " state. Only STALE or RELEASED sessions can be taken over."))
  let version ← nextClaimVersion session
  pure {
    fields := claimedFields env user deviceId version ++
      [("takeover_reason", .str reason), ("previous_owner", session.get "staff_user")]
    event := claimEvent env user deviceId version "TAKEOVER" session ++ [("reason", .str reason)]
    response := .takenOver sessionId user.username env.now (version - 1) reason }

inductive OwnershipKind where
  | claim (deviceId : String)
  | pause
  | resume
  | release
  | takeover (deviceId reason : String)

structure OwnershipRequest where
  env : Env
  user : SessionUser
  sessionId : String
  kind : OwnershipKind

/-- The roles the endpoint asks for before anything else. -/
def OwnershipRequest.admitted (r : OwnershipRequest) : Except Error Unit :=
  match r.kind with
  | .pause => requireRole ["staff", "supervisor", "admin"] r.user.toUser
  | .takeover .. => requireRole ["supervisor", "admin"] r.user.toUser
  | _ => pure ()

/-- What the endpoint makes of the session it read. -/
def OwnershipRequest.change (r : OwnershipRequest) (session : Doc) : Except Error OwnershipChange :=
  match r.kind with
  | .claim deviceId => claimChange r.env r.user r.sessionId deviceId session
  | .pause => ownerChange pauseAction r.env r.user r.sessionId session
  | .resume => ownerChange resumeAction r.env r.user r.sessionId session
  | .release => ownerChange releaseAction r.env r.user r.sessionId session
  | .takeover deviceId reason => takeoverChange r.env r.user r.sessionId deviceId reason session

/-- The check a claim makes before it looks at its target. -/
def OwnershipRequest.employeeCheck (r : OwnershipRequest) (s : Store) : Except Error Unit :=
  match r.kind with
  | .claim _ => ensureNoActiveSession r.user.username s
  | _ => pure ()

/-- One endpoint from its first check to its answer, with nothing in between. -/
def OwnershipRequest.run (r : OwnershipRequest) : Request OwnershipResponse := do
  reads fun _ => r.admitted
  reads r.employeeCheck
  let session ← reads (loadOwnedSession r.sessionId)
  let change ← reads fun _ => r.change session
  applyOwnershipTransition r.sessionId change.fields change.event
  pure change.response

/-- The events a session document carries, as `$push` has appended them. -/
def ownershipEvents (session : Doc) : List (List (String × Atom)) :=
  match session "ownership_events" with
  | some (.rows rows) => rows
  | _ => []

/-- What every endpoint's change says about claim versions and names. -/
structure VersionedChange (sessionId : String) (version : ℚ) (change : OwnershipChange) : Prop where
  answered : change.response.sessionId = sessionId ∧ change.response.claimVersion = version
  stored : Doc.ofList change.fields "claim_version" = some (.num version)
  recorded : change.event.lookup "claim_version" = some (.num version)
  names : KeepsNames (Doc.ofList change.fields)

/-- The claim version is counted up from the session the endpoint read. -/
theorem OwnershipRequest.change_versioned {r : OwnershipRequest} {session : Doc}
    {change : OwnershipChange} (decided : r.change session = .ok change) :
    ∃ version, nextClaimVersion session = .ok version ∧ VersionedChange r.sessionId version change := by
  rcases r with ⟨env, user, sessionId, kind⟩
  cases kind with
  | claim deviceId =>
    simp only [OwnershipRequest.change, claimChange, bind_success, pure_success] at decided
    obtain ⟨_, _, version, counted, rfl⟩ := decided
    exact ⟨version, counted, ⟨rfl, rfl⟩, rfl, rfl, rfl, rfl⟩
  | pause | resume | release =>
    simp only [OwnershipRequest.change, ownerChange, bind_success, pure_success] at decided
    obtain ⟨_, _, _, _, version, counted, rfl⟩ := decided
    exact ⟨version, counted, ⟨rfl, rfl⟩, rfl, rfl, rfl, rfl⟩
  | takeover deviceId reason =>
    simp only [OwnershipRequest.change, takeoverChange, bind_success, pure_success] at decided
    obtain ⟨_, _, version, counted, rfl⟩ := decided
    exact ⟨version, counted, ⟨rfl, by simp [OwnershipResponse.claimVersion]⟩, rfl, rfl, rfl, rfl⟩

section

variable {sessionId : String} {fields : List (String × Value)} {event : List (String × Atom)} {s t : Store}

/-- The unconditional update: nothing is found, or the first document of that name
takes the fields and one more event. -/
theorem applyOwnershipTransition_effect {u : Unit} (recorded : event ≠ [])
    (success : applyOwnershipTransition sessionId fields event s = .ok u t) :
    (s.findSession sessionId = none ∧ t = s) ∨
    ∃ front old back new, s.findSession sessionId = some old ∧ s.sessions = front ++ old :: back ∧
      (sessionLookup sessionId).holds old = true ∧
      (∀ d ∈ front, (sessionLookup sessionId).holds d = false) ∧
      t = { s with sessions := front ++ new :: back } ∧
      (∀ field, field ≠ "ownership_events" → new field = (Doc.ofList fields field).or (old field)) ∧
      ownershipEvents new = ownershipEvents old ++ [event] := by
  have pushes : event.isEmpty = false := by simpa using recorded
  simp only [applyOwnershipTransition, bind_ok, reads_ok, writes_ok, bind_success, liftFault_ok,
    pushes, Bool.false_eq_true, if_false, pure_success] at success
  obtain ⟨_, _, ⟨_, rfl⟩, ⟨answer, sessions⟩, updated, rfl⟩ := success
  rcases Collection.updateOne_ok updated with ⟨nobody, _, same⟩ | ⟨old, new, found, applied, _, _, after⟩
  · subst same
    exact .inl ⟨nobody, rfl⟩
  · obtain ⟨front, back, split, matched, before⟩ := Collection.find_split found
    refine .inr ⟨front, old, back, new, found, split, matched, before, ?_, ?_, ?_⟩
    · rw [after, split, Collection.replaceFirst_split matched before]
    · intro field other
      exact Update.apply_field applied (by simp) (by simpa using Ne.symm other)
    · rcases Update.apply_push applied rfl (by simp) with
        ⟨absent, alone⟩ | ⟨stored, grown, present, appended, after⟩
      · simp only [ownershipEvents, absent, alone, Pushed.alone, List.nil_append]
      · simp only [ownershipEvents, present, after]
        rcases Pushed.onto_row appended with ⟨rfl, rfl⟩ | ⟨rows, rfl, rfl⟩
        · rfl
        · rfl

/-- Only an update that goes through changes the store. -/
theorem applyOwnershipTransition_error {e : Error}
    (failed : applyOwnershipTransition sessionId fields event s = .error e t) : t = s := by
  simp only [applyOwnershipTransition, bind, EStateM.bind, reads, writes] at failed
  split at failed
  · next ran =>
    split at ran
    · cases ran
      split at failed
      · cases failed
      · cases failed
        rfl
    · cases ran
  · next ran =>
    split at ran
    · cases ran
    · cases ran
      cases failed
      rfl

end

/-- The owner may write count lines: the guard of every count-line write lets the
session through. -/
def ownerMayWrite (s : Store) (sessionId owner : String) : Prop :=
  ∃ session, ensureSessionActive sessionId s = .ok session ∧ session.get "staff_user" = .str owner

def pauseRequest (env : Env) (user : SessionUser) (sessionId : String) : OwnershipRequest :=
  ⟨env, user, sessionId, .pause⟩

def resumeRequest (env : Env) (user : SessionUser) (sessionId : String) : OwnershipRequest :=
  ⟨env, user, sessionId, .resume⟩

def releaseRequest (env : Env) (user : SessionUser) (sessionId : String) : OwnershipRequest :=
  ⟨env, user, sessionId, .release⟩

def claimRequest (env : Env) (user : SessionUser) (sessionId deviceId : String) : OwnershipRequest :=
  ⟨env, user, sessionId, .claim deviceId⟩

/-- Pausing and resuming gives the owner the session back. -/
def ResumesWritable (s : Store) (sessionId : String) (owner : SessionUser) : Prop :=
  ∃ pauseEnv resumeEnv paused resumed t u,
    (pauseRequest pauseEnv owner sessionId).run s = .ok paused t ∧
    (resumeRequest resumeEnv owner sessionId).run t = .ok resumed u ∧
    ownerMayWrite u sessionId owner.username

/-- Releasing lets somebody else claim the session and count in it. -/
def ReleasesToOthers (s : Store) (sessionId : String) (owner : SessionUser) : Prop :=
  ∃ releaseEnv claimEnv other deviceId released claimed t u,
    other.username ≠ owner.username ∧
    (releaseRequest releaseEnv owner sessionId).run s = .ok released t ∧
    (claimRequest claimEnv other sessionId deviceId).run t = .ok claimed u ∧
    ownerMayWrite u sessionId other.username

theorem ensureClaimable_ok {user : User} {target : Doc} {u : Unit} (claimable : ensureClaimable user target = .ok u) :
    ownershipStatus target ∈ ["OPEN", "AVAILABLE", "RELEASED", "STALE"] ∧
      (target.get "staff_user" = .str user.username ∨ target.get "staff_user" = .null ∨
        ownershipStatus target = "STALE") := by
  simp only [ensureClaimable, bind_success, require_ok, List.contains_iff_mem] at claimable
  obtain ⟨_, free, rest⟩ := claimable
  refine ⟨free, ?_⟩
  split at rest
  · next own => exact .inl own.1
  · split at rest
    · cases rest
    · rw [require_ok, Bool.or_eq_true, beq_iff_eq, beq_iff_eq] at rest
      exact .inr rest

variable {s t : Store} {response : OwnershipResponse}

theorem OwnershipRequest.run_ok {r : OwnershipRequest}
    (ran : r.run s = .ok response t) :
    ∃ session change, r.employeeCheck s = .ok () ∧ loadOwnedSession r.sessionId s = .ok session ∧
      r.change session = .ok change ∧
      applyOwnershipTransition r.sessionId change.fields change.event s = .ok () t ∧
      change.response = response := by
  simp only [OwnershipRequest.run, bind_ok, reads_ok, pure_ok] at ran
  obtain ⟨_, _, ⟨_, rfl⟩, _, _, ⟨checked, rfl⟩, session, _, ⟨loaded, rfl⟩, change, _,
    ⟨decided, rfl⟩, _, _, applied, answered, rfl⟩ := ran
  exact ⟨session, change, checked, loaded, decided, applied, answered⟩

variable {sessionId : String}

/-- After a release the session reads as released under its old owner, or the update
went to another document of that name and it reads as before. -/
theorem release_leaves {env : Env} {user : SessionUser} {current target : Doc}
    (owned : s.findSession sessionId = some current)
    (released : (releaseRequest env user sessionId).run s = .ok response t)
    (read : t.findSessionById sessionId = some target) :
    (target.get "status" = .str "RELEASED" ∧ target.get "staff_user" = current.get "staff_user") ∨
      ownershipStatus target ∈ ["ACTIVE", "CLAIMED", "PAUSED"] := by
  obtain ⟨session, change, _, loaded, decided, applied, _⟩ := OwnershipRequest.run_ok released
  simp only [releaseRequest, OwnershipRequest.change, ownerChange, bind_success, require_ok,
    pure_success, List.contains_iff_mem] at decided
  obtain ⟨_, allowed, _, _, version, _, rfl⟩ := decided
  change applyOwnershipTransition sessionId _ _ s = _ at applied
  rcases applyOwnershipTransition_effect (by simp) applied with
    ⟨nobody, _⟩ | ⟨front, old, back, new, found, split, matched, before, rfl, fields, _⟩
  · rw [owned] at nobody
    cases nobody
  · rw [owned] at found
    obtain rfl : current = old := Option.some.inj found
    have noId : front.find? (Filter.eq "id" (.str sessionId)).holds = none := by
      rw [List.find?_eq_none]
      intro d member holds
      have unnamed := before d member
      simp only [Filter.holds] at holds
      simp [sessionLookup, Filter.holds, holds] at unnamed
    have sameId : (Filter.eq "id" (.str sessionId)).holds new = (Filter.eq "id" (.str sessionId)).holds current := by
      simp only [Filter.holds, Filter.fieldIs, fields "id" (by decide)]
      rfl
    change (front ++ new :: back).find? _ = _ at read
    rw [List.find?_append, noId, Option.none_or, List.find?_cons, sameId] at read
    split at read
    · cases read
      refine .inl ⟨Doc.get_of_some (fields "status" (by decide)), ?_⟩
      exact Doc.get_congr (fields "staff_user" (by decide))
    · next otherId =>
      refine .inr ?_
      have readBefore : s.findSessionById sessionId = some target := by
        rw [Store.findSessionById, split, List.find?_append, noId, Option.none_or, List.find?_cons, otherId]
        exact read
      have same : session = target := by
        simp only [releaseRequest, loadOwnedSession, readBefore] at loaded
        exact (Except.ok.inj loaded).symm
      rw [← same]
      exact allowed

theorem ownerMayWrite_active {owner : String} (writable : ownerMayWrite s sessionId owner) :
    ∃ session, s.findSession sessionId = some session ∧
      normalizeSessionStatus (session.get "status") = "ACTIVE" ∧ session.get "staff_user" = .str owner := by
  obtain ⟨session, active, owned⟩ := writable
  simp only [ensureSessionActive, ensureSessionNotFinalized, ensureSessionExists, bind_success,
    require_ok, pure_success] at active
  obtain ⟨_, ⟨_, found, _, _, rfl⟩, _, status, rfl⟩ := active
  split at found
  · next stored =>
    cases found
    exact ⟨_, stored, by simpa using status, owned⟩
  · cases found

/-- A resume stores CLAIMED, in the session that the guard of the writes reads, and the
guard wants an active one. -/
theorem resume_unwritable {env : Env} {user : SessionUser} {owner : String}
    (resumed : (resumeRequest env user sessionId).run s = .ok response t) :
    ¬ ownerMayWrite t sessionId owner := by
  intro writable
  obtain ⟨session, present, active, _⟩ := ownerMayWrite_active writable
  obtain ⟨read, change, _, _, decided, applied, _⟩ := OwnershipRequest.run_ok resumed
  simp only [resumeRequest, OwnershipRequest.change, ownerChange, bind_success, require_ok, pure_success] at decided
  obtain ⟨_, _, _, _, version, _, rfl⟩ := decided
  change applyOwnershipTransition sessionId _ _ s = _ at applied
  rcases applyOwnershipTransition_effect (by simp) applied with
    ⟨nobody, rfl⟩ | ⟨front, old, back, new, _, _, matched, before, rfl, fields, _⟩
  · rw [nobody] at present
    cases present
  · have named : (sessionLookup sessionId).holds new = true := by
      rw [← matched]
      exact lookup_congr (fields "id" (by decide)) (fields "session_id" (by decide)) sessionId
    have first : (front ++ new :: back).find? (sessionLookup sessionId).holds = some new := by
      have skipped : front.find? (sessionLookup sessionId).holds = none := by
        rw [List.find?_eq_none]
        intro d member
        simp [before d member]
      rw [List.find?_append, skipped, Option.none_or, List.find?_cons, named]
    change (front ++ new :: back).find? _ = _ at present
    rw [first] at present
    obtain rfl : new = session := Option.some.inj present
    have stored : new.get "status" = .str "CLAIMED" := Doc.get_of_some (fields "status" (by decide))
    rw [stored] at active
    exact absurd active (by decide)

/-- Whatever session an owner may write in, neither a pause with a resume nor a release
with a claim leaves it in a state in which count lines can be written. -/
theorem ownership_wedges (s : Store) (sessionId : String) (owner : SessionUser)
    (writable : ownerMayWrite s sessionId owner.username) :
    ¬ ResumesWritable s sessionId owner ∧ ¬ ReleasesToOthers s sessionId owner := by
  constructor
  · rintro ⟨_, _, _, _, t, u, _, resumed, writes⟩
    exact resume_unwritable resumed writes
  · rintro ⟨_, _, other, deviceId, _, _, t, u, different, released, claimed, _⟩
    obtain ⟨current, stored, _, owned⟩ := ownerMayWrite_active writable
    obtain ⟨target, change, _, loaded, decided, _⟩ := OwnershipRequest.run_ok claimed
    simp only [claimRequest, OwnershipRequest.change, claimChange, bind_success] at decided
    obtain ⟨_, claimable, _⟩ := decided
    obtain ⟨free, whose⟩ := ensureClaimable_ok claimable
    have read : t.findSessionById sessionId = some target := by
      simp only [claimRequest, loadOwnedSession] at loaded
      split at loaded
      · next found => rw [found, Except.ok.inj loaded]
      · cases loaded
    rcases release_leaves stored released read with ⟨status, kept⟩ | stillHeld
    · rw [ownershipStatus, status] at whose
      rw [kept, owned] at whose
      rcases whose with own | nobody | stale
      · exact different (Value.str.inj own).symm
      · cases nobody
      · exact absurd stale (by decide)
    · simp only [List.mem_cons, List.not_mem_nil, or_false] at free stillHeld
      rcases stillHeld with active | claimed | paused
      · rw [active] at free
        exact absurd free (by decide)
      · rw [claimed] at free
        exact absurd free (by decide)
      · rw [paused] at free
        exact absurd free (by decide)

/-- A session its owner is counting in. -/
def ownedStore : Store where
  sessions := [Doc.ofList [("_id", .oid "a1"), ("id", .str "s1"), ("session_id", .str "s1"),
    ("status", .str "ACTIVE"), ("staff_user", .str "asha")]]

def ownerOfSession : SessionUser := { username := "asha", role := "staff" }

def colleague : SessionUser := { username := "ravi", role := "staff" }

theorem ownedStore_writable : ownerMayWrite ownedStore "s1" "asha" := ⟨_, rfl, rfl⟩

theorem ownership_wedges_owned :
    ¬ ResumesWritable ownedStore "s1" ownerOfSession ∧ ¬ ReleasesToOthers ownedStore "s1" ownerOfSession :=
  ownership_wedges ownedStore "s1" ownerOfSession ownedStore_writable

/-- The owner may write, and pauses and resumes; the session is claimed then, and the
guard refuses its writes. A release goes through too, and the colleague is refused. -/
theorem paused_and_released_for_good :
    ¬ (∀ s sessionId owner, ownerMayWrite s sessionId (SessionUser.toUser owner).username →
        ResumesWritable s sessionId owner ∧ ReleasesToOthers s sessionId owner) ∧
      (let paused := (pauseRequest sampleEnv ownerOfSession "s1").run.final ownedStore
       (pauseRequest sampleEnv ownerOfSession "s1").run.succeeds ownedStore = true ∧
       (resumeRequest sampleEnv ownerOfSession "s1").run.succeeds paused = true ∧
       ¬ ownerMayWrite ((resumeRequest sampleEnv ownerOfSession "s1").run.final paused) "s1" "asha") ∧
      (releaseRequest sampleEnv ownerOfSession "s1").run.succeeds ownedStore = true ∧
      (claimRequest sampleEnv colleague "s1" "device").run.succeeds
        ((releaseRequest sampleEnv ownerOfSession "s1").run.final ownedStore) = false := by
  refine ⟨?_, ⟨by decide +kernel, by decide +kernel, ?_⟩, by decide +kernel, by decide +kernel⟩
  · intro always
    obtain ⟨_, _, _, _, t, u, _, resumed, writes⟩ :=
      (always ownedStore "s1" ownerOfSession ownedStore_writable).1
    exact resume_unwritable resumed writes
  · rintro ⟨session, active, _⟩
    have refused : (ensureSessionActive "s1" ((resumeRequest sampleEnv ownerOfSession "s1").run.final
        ((pauseRequest sampleEnv ownerOfSession "s1").run.final ownedStore))).toOption.isNone = true := by
      decide +kernel
    rw [active] at refused
    cases refused

end StockVerification
