import StockVerification.SessionOwnership
import StockVerification.FrozenSessions

/-!
# Sessions an employee holds

Source: backend/api/session_management_api.py:268-294, 790-952, 1298-1350 and
backend/api/schemas.py:315-392, with the endpoints of session ownership.

A creation hands the employee a new session. The stock snapshot behind it and the
latest configuration are part of what the request finds. Location names are
compared without regard to the case of ASCII letters.
-/
namespace StockVerification

open Foundation Foundation.Action

structure SessionCreate where
  warehouse : String
  type : Option String := some "STANDARD"
  locationType : Option String := none
  locationName : Option String := none
  rackNo : Option String := none

/-- What the creation finds outside the sessions. -/
structure SessionBaseline where
  configVersionId : String := "LEGACY_NO_VERSION"
  snapshotHash : String
  snapshotId : String
  snapshot : Doc

structure SessionPlace where
  warehouse : String
  locationType : Option String
  locationName : Option String
  rackNo : Option String

/-- `text.split(" - ")`. -/
def splitAtDashes : List Char → List Char → List (List Char)
  | ' ' :: '-' :: ' ' :: rest, part => part.reverse :: splitAtDashes rest []
  | c :: rest, part => splitAtDashes rest (c :: part)
  | [], part => [part.reverse]

/-- `_normalize_location_value`. -/
def normalizeLocationText : Option String → Option String
  | some t => if Text.strip t = "" then none else some (Text.strip t)
  | none => none

/-- `_parse_session_location_parts`: the parts of the warehouse's name fill what is not
given. -/
def parseSessionLocationParts (warehouse : String)
    (locationType locationName rackNo : Option String) : SessionPlace :=
  let parts := ((splitAtDashes warehouse.toList []).map fun part =>
    Text.strip (String.ofList part)).filter (· != "")
  let fill (given : Option String) (index : Nat) : Option String :=
    match normalizeLocationText given with
    | some t => some t
    | none => if 3 ≤ parts.length then parts[index]? else none
  { warehouse, locationType := fill locationType 0, locationName := fill locationName 1,
    rackNo := fill rackNo 2 }

def validateSessionCreateRequest (data : SessionCreate) : Except Error SessionPlace := do
  let warehouse := Text.strip data.warehouse
  require (warehouse != "") (.http 400 "Warehouse name cannot be empty")
  pure (parseSessionLocationParts warehouse data.locationType data.locationName data.rackNo)

/-- An anchored, escaped pattern without regard to case. -/
def matchesText (session : Doc) (field wanted : String) : Bool :=
  match session field with
  | some (.str stored) => Text.lower stored == Text.lower wanted
  | _ => false

/-- The query of `_find_existing_session_for_location`. -/
def sessionOccupies (place : SessionPlace) (session : Doc) : Bool :=
  let sameIfGiven (field : String) : Option String → Bool
    | some wanted => wanted == "" || matchesText session field wanted
    | none => true
  (Filter.isIn "status" activeSessionStatuses).holds session &&
    matchesText session "warehouse" place.warehouse &&
    sameIfGiven "location_type" place.locationType &&
    sameIfGiven "location_name" place.locationName && sameIfGiven "rack_no" place.rackNo

/-- `_build_new_session` with the snapshot's reference, as the document to store. -/
def newSessionFields (env : Env) (user : SessionUser) (data : SessionCreate) (place : SessionPlace)
    (baseline : SessionBaseline) : List (String × Value) :=
  [("id", .str env.freshId), ("warehouse", .str place.warehouse), ("location_id", .null),
    ("location_key", .null), ("location_type", optionalText place.locationType),
    ("location_name", optionalText place.locationName), ("rack_no", optionalText place.rackNo),
    ("staff_user", .str user.username), ("staff_name", .str user.staffName), ("status", .str "OPEN"),
    ("approval_status", .null), ("auto_release_reason", .null), ("approval_summary", .null),
    ("blocking_items", .null),
    ("type", .str (match data.type with
      | some t => if t = "" then "STANDARD" else t
      | none => "STANDARD")),
    ("started_at", .date env.now), ("last_heartbeat", .date env.now), ("closed_at", .null),
    ("completed_at", .null), ("reconciled_at", .null), ("finalized_at", .null), ("finalized_by", .null),
    ("finalization_status", .null), ("total_items", .num 0), ("total_variance", .num 0),
    ("verified_items", .num 0), ("pending_items", .num 0), ("damage_items", .num 0), ("notes", .null),
    ("barcode", .null), ("config_version_id", .str baseline.configVersionId),
    ("snapshot_hash", .str baseline.snapshotHash), ("snapshot_items_ref", .str baseline.snapshotId),
    ("session_id", .str env.freshId)]

def insertSessionDocuments (env : Env) (username : String) (session : Doc) : Request Unit := do
  let _ ← createSession env session username
  let _ ← transitionSession env env.freshId "ACTIVE" username (some "Session activated on creation") none
  pure ()

/-- The `create_session` endpoint: an employee with an active session gets that one back. -/
def createSessionEndpoint (env : Env) (user : SessionUser) (data : SessionCreate)
    (baseline : SessionBaseline) : Request Doc := do
  let place ← reads fun _ => validateSessionCreateRequest data
  let existing ← reads fun s => pure (s.sessions.find? (employeeSessionFilter user.username).holds)
  match existing with
  | some session => pure session
  | none => do
    reads fun s => require (!s.sessions.any (sessionOccupies place)) (.http 409
      "This location already has an active session. Claim it after release or pause.")
    let session := Doc.ofList (newSessionFields env user data place baseline)
    recordSessionSnapshot env env.freshId baseline.snapshot
    insertSessionDocuments env user.username session
    pure session

inductive HoldingOp where
  | create (env : Env) (user : SessionUser) (data : SessionCreate) (baseline : SessionBaseline)
  | ownership (request : OwnershipRequest)

def holdingStep (s : Store) : HoldingOp → Store
  | .create env user data baseline => (createSessionEndpoint env user data baseline).final s
  | .ownership request => request.run.final s

def activeSessionCount (s : Store) (username : String) : Nat :=
  s.sessions.countP (employeeSessionFilter username).holds

/-- Sessions are named by texts, as `Session` types them. -/
def NamedByText (s : Store) : Prop :=
  ∀ session ∈ s.sessions, ∀ field ∈ ["id", "session_id"], ∃ name, session field = some (.str name)

structure OneActiveSession (s : Store) : Prop where
  named : NamedByText s
  single : ∀ username, activeSessionCount s username ≤ 1

variable {r : OwnershipRequest} {session : Doc}

/-- No endpoint stores a status that counts as active. -/
theorem OwnershipRequest.change_status {change : OwnershipChange} (decided : r.change session = .ok change) :
    ∃ status ∈ ["CLAIMED", "PAUSED", "RELEASED"], Doc.ofList change.fields "status" = some (.str status) := by
  rcases r with ⟨env, user, sessionId, kind⟩
  cases kind with
  | claim deviceId =>
    simp only [OwnershipRequest.change, claimChange, bind_success, pure_success] at decided
    obtain ⟨_, _, version, _, rfl⟩ := decided
    exact ⟨"CLAIMED", by simp, rfl⟩
  | pause | resume | release =>
    simp only [OwnershipRequest.change, ownerChange, bind_success, pure_success] at decided
    obtain ⟨_, _, _, _, version, _, rfl⟩ := decided
    exact ⟨_, by decide, rfl⟩
  | takeover deviceId reason =>
    simp only [OwnershipRequest.change, takeoverChange, bind_success, pure_success] at decided
    obtain ⟨_, _, version, _, rfl⟩ := decided
    exact ⟨"CLAIMED", by simp, rfl⟩

theorem employeeSessionFilter_inactive {status : String} (stored : session "status" = some (.str status))
    (inactive : .str status ∉ activeSessionStatuses) (username : String) :
    (employeeSessionFilter username).holds session = false := by
  have none : (Filter.isIn "status" activeSessionStatuses).holds session = false := by
    simp only [Filter.holds, List.any_eq_false]
    intro value listed matched
    simp only [Filter.fieldIs, stored, beq_iff_eq] at matched
    rw [matched] at inactive
    exact inactive listed
  simp only [employeeSessionFilter, Filter.holds] at none ⊢
  rw [none, Bool.and_false]

variable {s : Store} {new : Doc}

theorem NamedByText.replace {front back : List Doc} {old : Doc} (named : NamedByText s)
    (split : s.sessions = front ++ old :: back) (names : ∀ field ∈ ["id", "session_id"], new field = old field) :
    NamedByText { s with sessions := front ++ new :: back } := by
  intro session member field listed
  change session ∈ front ++ new :: back at member
  simp only [List.mem_append, List.mem_cons] at member
  rcases member with inFront | rfl | inBack
  · exact named session (by rw [split]; simp [inFront]) field listed
  · rw [names field listed]
    exact named old (by rw [split]; simp) field listed
  · exact named session (by rw [split]; simp [inBack]) field listed

theorem OwnershipRequest.keeps_one (one : OneActiveSession s) : OneActiveSession (r.run.final s) := by
  refine final_reads_bind one fun _ _ => ?_
  refine final_reads_bind one fun _ _ => ?_
  refine final_reads_bind one fun session _ => ?_
  refine final_reads_bind one fun change decided => ?_
  obtain ⟨version, _, versioned⟩ := OwnershipRequest.change_versioned decided
  obtain ⟨status, listed, stored⟩ := OwnershipRequest.change_status decided
  have inactive : Value.str status ∉ activeSessionStatuses := by
    rcases mem_three.mp listed with rfl | rfl | rfl <;> decide
  have recorded : change.event ≠ [] := by
    intro nothing
    have shown := versioned.recorded
    rw [nothing] at shown
    cases shown
  cases ran : applyOwnershipTransition r.sessionId change.fields change.event s with
  | error e t =>
    have stopped : (applyOwnershipTransition r.sessionId change.fields change.event >>=
        fun _ => (pure change.response : Request _)).final s = t := by
      simp only [final, bind, EStateM.bind, ran]
    rw [stopped, applyOwnershipTransition_error ran]
    exact one
  | ok u t =>
    rw [final_bind_of_ok ran, final_pure]
    rcases applyOwnershipTransition_effect recorded ran with
      ⟨_, rfl⟩ | ⟨front, old, back, new, _, split, _, _, rfl, fields, _⟩
    · exact one
    · constructor
      · apply one.named.replace split
        intro field name
        rcases List.mem_pair.mp name with rfl | rfl
        · rw [fields "id" (by decide), versioned.names.1, Option.none_or]
        · rw [fields "session_id" (by decide), versioned.names.2, Option.none_or]
      · intro username
        have before := one.single username
        have now : (employeeSessionFilter username).holds new = false := by
          apply employeeSessionFilter_inactive _ inactive
          rw [fields "status" (by decide), stored]
          rfl
        rw [activeSessionCount, split, List.countP_append, List.countP_cons] at before
        change (front ++ new :: back).countP _ ≤ 1
        rw [List.countP_append, List.countP_cons, now]
        simp only [Bool.false_eq_true, if_false]
        omega

theorem newSession_stored (env : Env) (user : SessionUser) (data : SessionCreate) (place : SessionPlace)
    (baseline : SessionBaseline) : let new := withObjectId env (createdSession env
      (Doc.ofList (newSessionFields env user data place baseline)))
    new "id" = some (.str env.freshId) ∧ new "session_id" = some (.str env.freshId) ∧
      new "staff_user" = some (.str user.username) ∧ new "status" = some (.str "CREATED") := by
  refine ⟨?_, ?_, ?_, createdSession_status env _⟩
  · simp [withObjectId, createdSession, newSessionFields, Doc.setDefault, Doc.has, Doc.set]
  · simp [withObjectId, createdSession, newSessionFields, Doc.setDefault, Doc.has, Doc.set]
  · simp [withObjectId, createdSession, newSessionFields, Doc.setDefault, Doc.has, Doc.set]

variable {username : String} {t : Store} {env : Env}

theorem createSession_sessions {sessionDoc : Doc} {answer : Doc}
    (ran : createSession env sessionDoc username s = .ok answer t) :
    t.sessions = s.sessions ++ [withObjectId env (createdSession env sessionDoc)] ∧
      Collection.collision sessionIndexes s.sessions (withObjectId env (createdSession env sessionDoc)) = none := by
  simp only [createSession, UnitOfWork.runCommitted_ok, bind_ok, reads_ok, writes_ok,
    bind_success, liftFault_ok, syncSessionProjection, pure_success, Except.ok.injEq] at ran
  obtain ⟨_, _, ⟨_, rfl⟩, _, _, ⟨_, rfl⟩, _, u, ⟨sessions, inserted, rfl⟩, _, v, ⟨_, _, rfl⟩, _, w, rfl, ran⟩ := ran
  obtain ⟨free, rfl⟩ := Collection.insertOne_ok inserted
  cases ran
  exact ⟨syncForSessions_sessions _ _ _, free⟩

theorem OneActiveSession.congr (one : OneActiveSession s) (same : t.sessions = s.sessions) : OneActiveSession t := by
  constructor
  · intro session member
    rw [same] at member
    exact one.named session member
  · intro username
    rw [activeSessionCount, same]
    exact one.single username

variable {name : String}

/-- A created session is not active yet. -/
theorem OneActiveSession.addCreated (one : OneActiveSession s)
    (added : t.sessions = s.sessions ++ [new]) (id : new "id" = some (.str name))
    (sessionId : new "session_id" = some (.str name)) (status : new "status" = some (.str "CREATED")) :
    OneActiveSession t ∧ ∀ username, activeSessionCount t username = activeSessionCount s username := by
  have count : ∀ username, activeSessionCount t username = activeSessionCount s username := by
    intro username
    rw [activeSessionCount, added, List.countP_append, List.countP_cons, List.countP_nil,
      employeeSessionFilter_inactive status (by decide)]
    rfl
  refine ⟨⟨?_, fun username => by rw [count]; exact one.single username⟩, count⟩
  intro session member field listed
  rw [added, List.mem_append, List.mem_singleton] at member
  rcases member with old | rfl
  · exact one.named session old field listed
  · rcases List.mem_pair.mp listed with rfl | rfl
    · exact ⟨name, id⟩
    · exact ⟨name, sessionId⟩

/-- A name the unique indexes let in leads to no session that was there before. -/
theorem fresh_name (named : NamedByText s)
    (free : Collection.collision sessionIndexes s.sessions new = none)
    (id : new "id" = some (.str name)) (sessionId : new "session_id" = some (.str name)) :
    ∀ session ∈ s.sessions, (sessionLookup name).holds session = false := by
  intro session member
  simp only [Collection.collision, sessionIndexes, List.find?_eq_none, List.mem_cons,
    List.not_mem_nil, or_false, forall_eq_or_imp, forall_eq, List.any_eq_true, not_exists] at free
  obtain ⟨_, bySessionId, byId⟩ := free
  have notById := byId session
  have notBySessionId := bySessionId session
  obtain ⟨itsId, idEq⟩ := named session member "id" (by simp)
  obtain ⟨itsName, nameEq⟩ := named session member "session_id" (by simp)
  simp only [Collection.sameEntry, member, true_and, if_true, Doc.has, id, idEq, Option.isSome_some,
    Bool.true_and, beq_iff_eq, Option.some.injEq, Value.str.injEq] at notById
  simp only [Collection.sameEntry, member, true_and, Bool.false_eq_true, if_false,
    Doc.get_of_some sessionId, Doc.get_of_some nameEq, beq_iff_eq, Value.str.injEq] at notBySessionId
  simp only [sessionLookup, Filter.holds, Filter.fieldIs_str idEq, Filter.fieldIs_str nameEq,
    Bool.or_eq_false_iff, beq_eq_false_iff_ne]
  exact ⟨notById, notBySessionId⟩

theorem createSession_keeps_one {sessionDoc : Doc} (one : OneActiveSession s)
    (id : withObjectId env (createdSession env sessionDoc) "id" = some (.str name))
    (sessionId : withObjectId env (createdSession env sessionDoc) "session_id" = some (.str name)) :
    OneActiveSession ((createSession env sessionDoc username).final s) := by
  have status := createdSession_status env sessionDoc
  simp only [createSession]
  refine UnitOfWork.final_runCommitted one ?_
  refine final_reads_bind one fun _ _ => ?_
  refine final_reads_bind one fun _ _ => ?_
  refine final_writes_bind one fun t inserted => ?_
  have added : OneActiveSession t := by
    simp only [bind_success, liftFault_ok, pure_success] at inserted
    obtain ⟨sessions, inserted, rfl⟩ := inserted
    obtain ⟨_, rfl⟩ := Collection.insertOne_ok inserted
    exact (one.addCreated rfl id sessionId status).1
  refine final_writes_bind added fun u mirrored => ?_
  have kept : OneActiveSession u := by
    simp only [bind_success, pure_success] at mirrored
    obtain ⟨_, _, rfl⟩ := mirrored
    exact added.congr rfl
  refine final_sync_bind kept ?_
  rw [final_pure]
  exact kept.congr (syncForSessions_sessions _ _ _)

/-- The activation of a session its employee has just created. -/
theorem activation_keeps_one {sessionId actor : String} {note : Option String}
    (one : OneActiveSession s) (nothing : activeSessionCount s username = 0)
    (created : ∀ session ∈ s.sessions, (sessionLookup sessionId).holds session = true → session "staff_user" = some
      (.str username) ∧ session "status" = some (.str "CREATED")) :
    OneActiveSession ((transitionSession env sessionId "ACTIVE" actor note none).final s) := by
  refine UnitOfWork.final_runCommitted one ?_
  refine final_reads_bind one fun session _ => ?_
  iterate 4 refine final_reads_bind one fun _ _ => ?_
  refine final_writes_bind one fun t updated => ?_
  have moved : OneActiveSession t := by
    obtain ⟨front, back, old, new, split, rfl, matched, _, _, fields⟩ := updateSessionWithOcc_effect updated
    obtain ⟨owner, status⟩ := created old (by rw [split]; simp) matched
    have untouched : ∀ field ∈ ["id", "session_id", "staff_user"], new field = old field := by
      intro field listed
      have unset : Doc.ofList (transitionFields env (normalizeSessionStatus (.str "ACTIVE")) actor
          note) field = none := by
        simp only [List.mem_cons, List.not_mem_nil, or_false] at listed
        unfold transitionFields
        rcases listed with rfl | rfl | rfl <;> (split <;> split <;> split <;> (try split) <;> simp)
      rw [fields field (by rintro rfl; simp at listed), unset, Option.none_or]
    constructor
    · apply one.named.replace split
      intro field listed
      apply untouched field
      simp only [List.mem_cons, List.not_mem_nil, or_false] at listed ⊢
      rcases listed with rfl | rfl
      · exact .inl rfl
      · exact .inr (.inl rfl)
    · intro other
      have was := employeeSessionFilter_inactive status (by decide) other
      have total : activeSessionCount s other = front.countP (employeeSessionFilter other).holds +
          back.countP (employeeSessionFilter other).holds := by
        rw [activeSessionCount, split, List.countP_append, List.countP_cons, was]
        rfl
      change (front ++ new :: back).countP _ ≤ 1
      rw [List.countP_append, List.countP_cons]
      have bound := one.single other
      by_cases same : other = username
      · subst same
        split <;> omega
      · have notTheirs : (employeeSessionFilter other).holds new = false := by
          have owned : new "staff_user" = some (.str username) := by
            rw [untouched "staff_user" (by simp), owner]
          simp only [employeeSessionFilter, Filter.holds, Filter.fieldIs_str owned]
          rw [beq_eq_false_iff_ne.mpr (Ne.symm same), Bool.false_and]
        rw [notTheirs]
        simp only [Bool.false_eq_true, if_false]
        omega
  refine final_writes_bind moved fun u mirrored => ?_
  have kept := moved.congr (updateMirror_ok mirrored).2
  exact final_sync_bind kept (final_reads (kept.congr (syncForSessions_sessions _ _ _)))

theorem createSessionEndpoint_keeps_one {user : SessionUser} {data : SessionCreate} {baseline : SessionBaseline}
    (one : OneActiveSession s) : OneActiveSession ((createSessionEndpoint env user data baseline).final s) := by
  refine final_reads_bind one fun place _ => ?_
  refine final_reads_bind one fun existing searched => ?_
  have searched := Except.ok.inj searched
  subst searched
  split
  · exact one
  · next nobody =>
    have nothing : activeSessionCount s user.username = 0 := by
      rw [activeSessionCount, List.countP_eq_zero]
      intro session member
      exact List.find?_eq_none.mp nobody session member
    refine final_reads_bind one fun _ _ => ?_
    have stored := newSession_stored env user data place baseline
    have recorded : ∀ t, t.sessions = s.sessions → OneActiveSession ((insertSessionDocuments env user.username
          (Doc.ofList (newSessionFields env user data place baseline)) >>= fun _ =>
            (pure (Doc.ofList (newSessionFields env user data place baseline)) : Request Doc)).final t) := by
      intro t same
      have kept : OneActiveSession t := one.congr same
      refine final_bind_keep ?_ fun _ u _ inserted => inserted
      refine final_bind_keep (createSession_keeps_one kept stored.1 stored.2.1) fun _ u ran created => ?_
      refine final_bind_keep ?_ fun _ v _ activated => activated
      obtain ⟨added, free⟩ := createSession_sessions ran
      apply @activation_keeps_one _ user.username _ _ _ _ created
      · rw [(kept.addCreated added stored.1 stored.2.1 stored.2.2.2).2, activeSessionCount, same]
        exact nothing
      · intro session member matched
        rw [added, List.mem_append, List.mem_singleton] at member
        rcases member with old | rfl
        · rw [fresh_name kept.named free stored.1 stored.2.1 session old] at matched
          cases matched
        · exact ⟨stored.2.2.1, stored.2.2.2⟩
    refine final_bind_keep ?_ fun _ t ran kept => ?_
    · refine final_reads_bind one fun _ _ => ?_
      refine final_reads_bind one fun _ _ => ?_
      refine final_writes one fun t written => ?_
      rw [← Except.ok.inj written]
      exact one.congr rfl
    · apply recorded
      simp only [recordSessionSnapshot, bind_ok, reads_ok, writes_ok, Except.ok.injEq] at ran
      obtain ⟨_, _, ⟨_, rfl⟩, _, _, ⟨_, rfl⟩, rfl⟩ := ran
      rfl

/-- Whatever creations, claims, pauses, resumes, releases and takeovers come in, no
employee has two sessions that are open, active or in reconciliation. A paused one does
not count: the endpoints ask an employee to pause before taking another. -/
theorem one_active_session_per_employee {first last : Store} (start : OneActiveSession first)
    (run : Reaches holdingStep (fun _ _ => True) first last) (username : String) :
    activeSessionCount last username ≤ 1 := by
  have one : OneActiveSession last := by
    refine run.invariant start ?_
    intro s op held _
    cases op with
    | create env user data baseline => exact createSessionEndpoint_keeps_one held
    | ownership request => exact OwnershipRequest.keeps_one held
  exact one.single username

theorem noSessions_one : OneActiveSession {} := by
  constructor
  · nofun
  · intro username
    exact Nat.zero_le 1

/-- The stock as a creation of the concrete runs finds it. -/
def emptyBaseline : SessionBaseline where
  snapshotHash := "h"
  snapshotId := "snap"
  snapshot := Doc.empty

/-- The employee opens a session, pauses it and opens another one. -/
def pausedForAnother : List HoldingOp :=
  [.create { sampleEnv with freshId := "s1", freshOid := "a1" } ownerOfSession
      { warehouse := "Godown - North - R1" } emptyBaseline,
    .ownership (pauseRequest sampleEnv ownerOfSession "s1"),
    .create { sampleEnv with freshId := "s2", freshOid := "a2" } ownerOfSession
      { warehouse := "Godown - North - R2" } emptyBaseline]

theorem one_active_session_after_pause :
    activeSessionCount (pausedForAnother.foldl holdingStep {}) "asha" ≤ 1 :=
  one_active_session_per_employee noSessions_one (Reaches.foldl fun _ _ _ => trivial) "asha"

/-- A session is held while it is claimed, active or paused. -/
def heldSessionCount (s : Store) (username : String) : Nat :=
  s.sessions.countP fun session => session.get "staff_user" == .str username &&
    ["CLAIMED", "ACTIVE", "PAUSED"].contains (ownershipStatus session)

/-- Counting paused sessions as held, the employee of that run holds two. -/
theorem two_sessions_held :
    ¬ ∀ last, Reaches holdingStep (fun _ _ => True) {} last → ∀ username, heldSessionCount last username ≤ 1 := by
  intro always
  have reached : Reaches holdingStep (fun _ _ => True) {} (pausedForAnother.foldl holdingStep {}) :=
    Reaches.foldl fun _ _ _ => trivial
  exact absurd (always _ reached "asha") (by decide +kernel)

end StockVerification
