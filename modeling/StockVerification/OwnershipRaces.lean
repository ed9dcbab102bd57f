import StockVerification.SessionOwnership

/-!
# Concurrent ownership requests

Requests to claim, pause, resume, release and take over interleave on the stored
sessions. A claim makes two reads, the others one; then comes the update, and the
answer is sent when it returns.
-/
namespace StockVerification

open Foundation Foundation.Action

inductive OwnershipCall where
  | employee
  | read
  | write (session : Doc) (change : OwnershipChange)

structure OwnershipTask where
  request : OwnershipRequest
  call : OwnershipCall

structure OwnershipState where
  store : Store
  responses : List OwnershipResponse := []

/-- The role is checked before the endpoint runs. -/
def startOwnership (_ : OwnershipState) (r : OwnershipRequest) : Option OwnershipTask :=
  match r.admitted with
  | .ok _ => some ⟨r, .employee⟩
  | .error _ => none

/-- One call of an endpoint and what follows it. -/
def resumeOwnership (s : OwnershipState) (task : OwnershipTask) :
    OwnershipState × Option OwnershipTask :=
  match task.call with
  | .employee =>
    match task.request.employeeCheck s.store with
    | .ok _ => (s, some { task with call := .read })
    | .error _ => (s, none)
  | .read =>
    match loadOwnedSession task.request.sessionId s.store with
    | .error _ => (s, none)
    | .ok session =>
      match task.request.change session with
      | .ok change => (s, some { task with call := .write session change })
      | .error _ => (s, none)
  | .write _ change =>
    match applyOwnershipTransition task.request.sessionId change.fields change.event s.store with
    | .ok _ t => ({ store := t, responses := s.responses ++ [change.response] }, none)
    | .error _ t => ({ s with store := t }, none)

abbrev Owning := Concurrent OwnershipState OwnershipTask

def Owning.step : Owning → Move OwnershipRequest → Owning :=
  Concurrent.step startOwnership resumeOwnership

/-- The claim version as the next request will count from it. -/
def claimVersionOf (session : Doc) : ℚ :=
  match (session.get "claim_version").orElse (.num 0) with
  | .num q => q
  | .bool _ => 1
  | _ => 0

def eventVersions (session : Doc) : List (Option Atom) :=
  (ownershipEvents session).map (·.lookup "claim_version")

/-- The recorded versions grow, and none is beyond the stored one. -/
structure LinearEvents (session : Doc) (versions : List ℚ) : Prop where
  recorded : eventVersions session = versions.map fun version => some (.num version)
  increasing : versions.Pairwise (· < ·)
  bounded : ∀ version ∈ versions, version ≤ claimVersionOf session

variable {session : Doc} {version : ℚ}

theorem claimVersionOf_next
    (counted : nextClaimVersion session = .ok version) : version = claimVersionOf session + 1 := by
  unfold nextClaimVersion at counted
  unfold claimVersionOf
  cases stored : (session.get "claim_version").orElse (.num 0) with
  | num q =>
    rw [stored] at counted
    exact (Except.ok.inj counted).symm
  | bool b =>
    rw [stored] at counted
    have two : (2 : ℚ) = version := Except.ok.inj counted
    rw [← two]
    norm_num
  | null | str text | date instant | oid hex | list items | dict entries | rows items =>
      rw [stored] at counted; cases counted

theorem claimVersionOf_stored
    (stored : session "claim_version" = some (.num version)) : claimVersionOf session = version := by
  rw [claimVersionOf, Doc.get_of_some stored]
  by_cases zero : version = 0
  · subst zero
    rfl
  · simp [Value.orElse, Value.truthy, zero]

/-- A request that counted from the stored version appends the next one. -/
theorem LinearEvents.append {old new : Doc} {versions : List ℚ} {sessionId : String}
    {change : OwnershipChange} (linear : LinearEvents old versions)
    (versioned : VersionedChange sessionId version change) (next : version = claimVersionOf old + 1)
    (fields : ∀ field, field ≠ "ownership_events" → new field = (Doc.ofList change.fields field).or (old field))
    (events : ownershipEvents new = ownershipEvents old ++ [change.event]) :
    LinearEvents new (versions ++ [version]) := by
  have stored : claimVersionOf new = version := by
    apply claimVersionOf_stored
    rw [fields "claim_version" (by decide), versioned.stored]
    rfl
  constructor
  · have before := linear.recorded
    simp only [eventVersions] at before
    simp only [eventVersions, events, List.map_append, before, List.map_cons, List.map_nil, versioned.recorded]
  · rw [List.pairwise_append]
    refine ⟨linear.increasing, by simp, ?_⟩
    intro earlier member later isNew
    have bound := linear.bounded earlier member
    rw [List.mem_singleton.mp isNew, next]
    linarith
  · intro recorded member
    rw [stored]
    rcases List.mem_append.mp member with earlier | isNew
    · have bound := linear.bounded recorded earlier
      rw [next]
      linarith
    · rw [List.mem_singleton.mp isNew]

/-- The versions answered for one session, in the order of the answers. -/
def answeredVersions (s : OwnershipState) (sessionId : String) : List ℚ :=
  (s.responses.filter fun response => response.sessionId == sessionId).map (·.claimVersion)

/-- Every session's events grow, and so do the versions answered for it. -/
structure OwnershipLinear (s : OwnershipState) : Prop where
  identified : Identified s.store.sessions
  events : ∀ session ∈ s.store.sessions, ∃ versions, LinearEvents session versions
  answers : ∀ sessionId, (answeredVersions s sessionId).Pairwise (· < ·)
  answered : ∀ sessionId session, s.store.findSession sessionId = some session →
    ∀ version ∈ answeredVersions s sessionId, version ≤ claimVersionOf session

/-- Whether the session still has the claim version that the request about to write has
read. -/
def undisturbed (c : Owning) : Move OwnershipRequest → Bool
  | .resume slot =>
    match c.task slot with
    | some { request := r, call := .write session _ } =>
      (c.store.store.findSession r.sessionId).all fun current =>
        current.get "claim_version" == session.get "claim_version"
    | _ => true
  | _ => true

theorem answeredVersions_append (s : OwnershipState) (t : Store) (response : OwnershipResponse) (sessionId : String) :
    answeredVersions { store := t, responses := s.responses ++ [response] } sessionId =
      answeredVersions s sessionId ++ if response.sessionId = sessionId then [response.claimVersion] else [] := by
  unfold answeredVersions
  rw [List.filter_append, List.map_append]
  by_cases here : response.sessionId = sessionId
  · simp [here]
  · simp [here]

/-- Every name leads to the changed document, or past it as before. -/
theorem leads_replaced {s : Store} {front back : List Doc} {old new : Doc}
    (split : s.sessions = front ++ old :: back) (identified : Identified (front ++ old :: back))
    (names : ∀ name, (sessionLookup name).holds new = (sessionLookup name).holds old)
    (name : String) : (sessionLookup name).holds old = true ∧ s.findSession name = some old ∧
        (front ++ new :: back).find? (sessionLookup name).holds = some new ∨
      (front ++ new :: back).find? (sessionLookup name).holds = s.findSession name ∧
        (sessionLookup name).holds old = false := by
  have renamed : Identified (front ++ new :: back) := identified.replace names
  rw [Store.findSession, split]
  cases named : (sessionLookup name).holds old with
  | true =>
    exact .inl ⟨rfl, (find_identified identified name).1 named,
      (find_identified renamed name).1 (by rw [names, named])⟩
  | false =>
    refine .inr ⟨?_, rfl⟩
    rw [(find_identified identified name).2 named, (find_identified renamed name).2 (by rw [names, named])]

/-- The update of an undisturbed request. -/
theorem OwnershipLinear.write {s : OwnershipState} {t : Store} {r : OwnershipRequest} {u : Unit} {current : Doc}
    {change : OwnershipChange} (linear : OwnershipLinear s) (decided : r.change session = .ok change)
    (present : s.store.findSession r.sessionId = some current)
    (unchanged : current.get "claim_version" = session.get "claim_version")
    (success : applyOwnershipTransition r.sessionId change.fields change.event s.store = .ok u t) :
    OwnershipLinear { store := t, responses := s.responses ++ [change.response] } ∧
      ∀ name, (t.findSession name).isSome = (s.store.findSession name).isSome := by
  obtain ⟨version, counted, versioned⟩ := OwnershipRequest.change_versioned decided
  have recorded : change.event ≠ [] := by
    intro nothing
    have listed := versioned.recorded
    rw [nothing] at listed
    cases listed
  rcases applyOwnershipTransition_effect recorded success with
    ⟨nobody, _⟩ | ⟨front, old, back, new, found, split, matched, before, rfl, fields, events⟩
  · rw [nobody] at present
    cases present
  · have identified := linear.identified
    rw [split] at identified
    rw [present] at found
    obtain rfl : current = old := Option.some.inj found
    have names : ∀ name, (sessionLookup name).holds new = (sessionLookup name).holds current := by
      intro name
      apply lookup_congr
      · rw [fields "id" (by decide), versioned.names.1, Option.none_or]
      · rw [fields "session_id" (by decide), versioned.names.2, Option.none_or]
    have next : version = claimVersionOf current + 1 := by
      have read := claimVersionOf_next counted
      rw [read, claimVersionOf, claimVersionOf, unchanged]
    have grown : claimVersionOf new = version := by
      apply claimVersionOf_stored
      rw [fields "claim_version" (by decide), versioned.stored]
      rfl
    have leads := leads_replaced split identified names
    refine ⟨⟨identified.replace names, ?_, ?_, ?_⟩, ?_⟩
    · intro stored member
      simp only [List.mem_append, List.mem_cons] at member
      rcases member with inFront | rfl | inBack
      · exact linear.events stored (by rw [split]; simp [inFront])
      · obtain ⟨versions, listed⟩ := linear.events current (by rw [split]; simp)
        exact ⟨_, listed.append versioned next fields events⟩
      · exact linear.events stored (by rw [split]; simp [inBack])
    · intro name
      rw [answeredVersions_append, List.pairwise_append]
      refine ⟨linear.answers name, ?_, ?_⟩
      · split
        · exact List.pairwise_singleton _ _
        · exact List.Pairwise.nil
      · intro earlier member later isNew
        split at isNew
        · next here =>
          rw [versioned.answered.1] at here
          subst here
          rw [List.mem_singleton.mp isNew, versioned.answered.2, next]
          have bound := linear.answered _ _ present earlier member
          linarith
        · cases isNew
    · intro name found here answer member
      rw [answeredVersions_append, List.mem_append] at member
      change (front ++ new :: back).find? _ = _ at here
      rcases leads name with ⟨_, wasHere, nowHere⟩ | ⟨same, notNamed⟩
      · rw [nowHere] at here
        cases here
        rw [grown]
        rcases member with earlier | isNew
        · have bound := linear.answered name current wasHere answer earlier
          rw [next]
          linarith
        · split at isNew
          · rw [List.mem_singleton.mp isNew, versioned.answered.2]
          · cases isNew
      · rw [same] at here
        rcases member with earlier | isNew
        · exact linear.answered name found here answer earlier
        · split at isNew
          · next sameName =>
            rw [versioned.answered.1] at sameName
            rw [← sameName, matched] at notNamed
            cases notNamed
          · cases isNew
    · intro name
      change ((front ++ new :: back).find? _).isSome = _
      rcases leads name with ⟨_, wasHere, nowHere⟩ | ⟨same, _⟩
      · rw [nowHere, wasHere]
        rfl
      · rw [same]

/-- What a run keeps: the sessions are linear, and a request about to write has
decided on a session that is still stored. -/
structure OwningSound (c : Owning) : Prop where
  linear : OwnershipLinear c.store
  tasks : ∀ slot task session change, c.task slot = some task → task.call = .write session change →
    task.request.change session = .ok change ∧ (c.store.store.findSession task.request.sessionId).isSome = true

theorem findSession_of_load {s : Store} {sessionId : String}
    (loaded : loadOwnedSession sessionId s = .ok session) : (s.findSession sessionId).isSome = true := by
  unfold loadOwnedSession at loaded
  split at loaded
  · next found =>
    rw [Store.findSession, List.find?_isSome]
    refine ⟨_, List.mem_of_find?_eq_some found, ?_⟩
    have named := List.find?_some found
    simp only [Filter.holds] at named
    simp only [sessionLookup, Filter.holds, named, Bool.true_or]
  · cases loaded

theorem OwningSound.step {c : Owning} (sound : OwningSound c) {move : Move OwnershipRequest}
    (quiet : undisturbed c move = true) : OwningSound (c.step move) := by
  have each : Concurrent.Sound OwnershipLinear (fun s t => ∀ session change, t.call = .write session change →
      t.request.change session = .ok change ∧ (s.store.findSession t.request.sessionId).isSome = true) c :=
    ⟨sound.linear, fun n t holds session change => sound.tasks n t session change holds⟩
  have next := @Concurrent.Sound.step _ _ _ move _ _ startOwnership resumeOwnership c each (by
    intro slot request t _ begun session change writing
    unfold startOwnership at begun
    split at begun
    · cases begun
      cases writing
    · cases begun) (by
    rintro slot ⟨r, call⟩ rfl held own
    cases call with
    | employee =>
      simp only [resumeOwnership]
      split
      · refine ⟨sound.linear, fun next same => ?_, fun _ _ _ _ kept => kept⟩
        cases same
        exact fun session change writing => nomatch writing
      · exact ⟨sound.linear, fun next same => (nomatch same), fun _ _ _ _ kept => kept⟩
    | read =>
      simp only [resumeOwnership]
      split
      · exact ⟨sound.linear, fun next same => (nomatch same), fun _ _ _ _ kept => kept⟩
      · next session loaded =>
        split
        · next change decided =>
          refine ⟨sound.linear, fun next same => ?_, fun _ _ _ _ kept => kept⟩
          rintro read decision writing
          cases same
          cases writing
          exact ⟨decided, findSession_of_load loaded⟩
        · exact ⟨sound.linear, fun next same => (nomatch same), fun _ _ _ _ kept => kept⟩
    | write session change =>
      obtain ⟨decided, stored⟩ := own session change rfl
      obtain ⟨current, present⟩ := Option.isSome_iff_exists.mp stored
      have same : current.get "claim_version" = session.get "claim_version" := by
        simpa [undisturbed, held, present] using quiet
      simp only [resumeOwnership]
      cases ran : applyOwnershipTransition r.sessionId change.fields change.event c.store.store with
      | ok u t =>
        obtain ⟨linear, names⟩ := sound.linear.write decided present same ran
        refine ⟨linear, fun next same => (nomatch same), fun _ other _ _ kept read decision writing => ?_⟩
        rw [names]
        exact kept read decision writing
      | error e t =>
        rw [applyOwnershipTransition_error ran]
        exact ⟨sound.linear, fun next same => (nomatch same), fun _ _ _ _ kept => kept⟩)
  exact ⟨next.store, fun n t session change holds => next.tasks n t holds session change⟩

/-- The recorded events of every session carry growing claim versions, and no version
was answered twice for one session. -/
structure LinearOwnership (s : OwnershipState) : Prop where
  events : ∀ session ∈ s.store.sessions, ∃ versions : List ℚ,
    eventVersions session = versions.map (fun version => some (.num version)) ∧ versions.Pairwise (· < ·)
  answers : ∀ sessionId, (answeredVersions s sessionId).Nodup

/-- Before the requests: nothing is in flight or answered, and what is recorded is linear. -/
structure OwnershipStart (c : Owning) : Prop where
  identified : Identified c.store.store.sessions
  events : ∀ session ∈ c.store.store.sessions, ∃ versions, LinearEvents session versions
  unanswered : c.store.responses = []
  idle : ∀ slot, c.task slot = none

theorem OwnershipStart.sound {c : Owning} (start : OwnershipStart c) : OwningSound c := by
  have nothing : ∀ sessionId, answeredVersions c.store sessionId = [] := by
    intro sessionId
    rw [answeredVersions, start.unanswered]
    rfl
  refine ⟨⟨start.identified, start.events, ?_, ?_⟩, ?_⟩
  · intro sessionId
    rw [nothing]
    exact List.Pairwise.nil
  · intro sessionId session _ version member
    rw [nothing] at member
    cases member
  · intro slot task session change held
    rw [start.idle] at held
    cases held

/-- As long as no other request writes a session between a request's read and its
update, ownership is linear in every state of the run. -/
theorem ownership_linear {first last : Owning} (start : OwnershipStart first)
    (run : Reaches Owning.step (fun c move => undisturbed c move = true) first last) : LinearOwnership last.store := by
  have sound := run.invariant start.sound fun c move held meets => held.step meets
  constructor
  · intro session member
    obtain ⟨versions, linear⟩ := sound.linear.events session member
    exact ⟨versions, linear.recorded, linear.increasing⟩
  · intro sessionId
    exact (sound.linear.answers sessionId).imp fun less => ne_of_lt less

def ownerPauses : OwnershipRequest where
  env := sampleEnv
  user := { username := "asha", role := "staff" }
  sessionId := "s1"
  kind := .pause

def supervisorReleases : OwnershipRequest where
  env := sampleEnv
  user := { username := "sudha", role := "supervisor" }
  sessionId := "s1"
  kind := .release

theorem ownedStore_start : OwnershipStart { store := { store := ownedStore } } := by
  refine ⟨?_, ?_, rfl, fun _ => rfl⟩
  · intro name
    exact List.pairwise_singleton _ _
  · intro session member
    rw [List.mem_singleton.mp member]
    exact ⟨[], rfl, List.Pairwise.nil, by simp⟩

def inTurn : List (Move OwnershipRequest) :=
  [.start 0 ownerPauses, .resume 0, .resume 0, .resume 0, .start 1 supervisorReleases, .resume 1,
    .resume 1, .resume 1]

/-- The owner pauses, and then the supervisor releases. -/
theorem ownership_linear_in_turn :
    LinearOwnership (inTurn.foldl Owning.step { store := { store := ownedStore } }).store :=
  ownership_linear ownedStore_start (Reaches.of_admitted (by decide +kernel))

def atOnce : List (Move OwnershipRequest) :=
  [.start 0 ownerPauses, .start 1 supervisorReleases, .resume 0, .resume 1, .resume 0, .resume 1,
    .resume 0, .resume 1]

/-- Both read the session before either writes: both succeed with the same version, and
both events are recorded under it. -/
theorem owner_and_supervisor_at_once :
    ¬ ∀ first last : Owning, OwnershipStart first →
      Reaches Owning.step (fun _ _ => True) first last → LinearOwnership last.store := by
  intro always
  have reached : Reaches Owning.step (fun _ _ => True) { store := { store := ownedStore } }
      (atOnce.foldl Owning.step { store := { store := ownedStore } }) :=
    Reaches.foldl fun _ _ _ => trivial
  have linear := always _ _ ownedStore_start reached
  exact absurd (linear.answers "s1") (by decide +kernel)

end StockVerification
