import StockVerification.Foundation.Run
import StockVerification.RecountRoutes

/-!
# The recount service

Source: backend/services/recount_service.py:34-164, backend/api/schemas.py:504-516,
backend/services/governance_guard.py:222-236, 394-420, backend/db/runtime.py:20-64 and
backend/core/lifespan.py:228.

`RecountService` keeps its requests in the collection that the session lifecycle uses
too, and writes statuses of its own to it. It asks for no write authority, and every
database handed out carries the write guards, which refuse its writes to that collection.
Without the guards a matched request would count as pending for good: the gate and the
transition table know the lifecycle's statuses only. The answer's validation as a model
comes after the write and is left out.
-/
namespace StockVerification

open Foundation Foundation.Action

/-- The collections of the recount workflow, and whether the write guards are installed. -/
structure RecountDesk where
  store : Store
  countObservations : List Doc := []
  recountComparisons : List Doc := []
  guarded : Bool := false

abbrev DeskAction := Action RecountDesk Error

/-- A lifecycle operation; it has the write authority. -/
def onStore {α : Type} (x : Request α) : DeskAction α := fun d =>
  match x d.store with
  | .ok a t => .ok a { d with store := t }
  | .error e t => .error e { d with store := t }

/-- A write to `recount_requests` without write authority. -/
def unauthorizedWrite (operation : String)
    (write : List Doc → Except WriteFault (List Doc)) (d : RecountDesk) : Except Error RecountDesk := do
  require (!d.guarded)
    (.governance ("CRITICAL: Direct DB write forbidden (recount_requests." ++ operation ++ "). Use domain service."))
  let recounts ← liftFault (write d.store.recountRequests)
  pure { d with store := { d.store with recountRequests := recounts } }

/-- `find_one_and_update` with a `$set` on the request of that id. -/
def setRecountFields (requestId : String) (fields : List (String × Value)) : DeskAction Unit :=
  writes (unauthorizedWrite "find_one_and_update" fun docs =>
    (Collection.updateOne recountIndexes (.eq "id" (.str requestId)) (.ofSet (Doc.ofList fields)) docs).map Prod.snd)

structure RecountCreate where
  observationId : String
  sessionId : String
  itemCode : String
  requestedBy : String
  reason : String
  scope : String := "ITEM"
  batchOrSerialScope : Option String := none
  locationId : Option String := none
  requiredEvidence : List String := []
  priority : String := "NORMAL"
  isBlind : Bool := true
  assignedTo : Option String := none

/-- The document `create_request` stores. -/
def recountRequestFields (env : Env) (r : RecountCreate) : List (String × Value) :=
  [("id", .str env.freshId), ("observation_id", .str r.observationId), ("session_id", .str r.sessionId),
    ("item_code", .str r.itemCode), ("requested_by", .str r.requestedBy),
    ("request_reason", .str r.reason), ("scope", .str r.scope),
    ("batch_or_serial_scope", optionalText r.batchOrSerialScope),
    ("location_id", optionalText r.locationId),
    ("required_evidence", .list (r.requiredEvidence.map .str)), ("priority", .str r.priority),
    ("is_blind", .bool r.isBlind), ("status", .str "RECOUNT_REQUESTED"),
    ("assigned_to", optionalText r.assignedTo),
    ("assigned_at", match r.assignedTo with
      | some name => if name = "" then .null else .date env.now
      | none => .null),
    ("started_at", .null), ("submitted_at", .null), ("resolved_at", .null),
    ("created_at", .date env.now), ("updated_at", .date env.now),
    ("linked_recount_observation_id", .null)]

def createRequest (env : Env) (r : RecountCreate) : DeskAction Unit :=
  writes (unauthorizedWrite "insert_one" (Collection.insertOne recountIndexes
    (withObjectId env (Doc.ofList (recountRequestFields env r)))))

/-- `assign`. -/
def assignRequest (env : Env) (requestId assignedTo : String) : DeskAction Unit :=
  setRecountFields requestId
    [("assigned_to", .str assignedTo), ("assigned_at", .date env.now),
      ("status", .str "RECOUNT_ASSIGNED"), ("updated_at", .date env.now)]

/-- `start`. -/
def startRequest (env : Env) (requestId : String) : DeskAction Unit :=
  setRecountFields requestId
    [("started_at", .date env.now), ("status", .str "RECOUNT_IN_PROGRESS"), ("updated_at", .date env.now)]

def matchesSql (recountCount sqlAtRecount : ℚ) : Bool := decide (|recountCount - sqlAtRecount| ≤ 1 / 10000)

def recountDecision (recountCount sqlAtRecount : ℚ) : String :=
  if matchesSql recountCount sqlAtRecount then "RECOUNT_MATCHED" else "RECOUNT_DIFFERENCE"

/-- Unique indexes of `count_observations`. -/
def observationIndexes : List UniqueIndex :=
  [{ field := "_id" }, { field := "id", sparse := false }, { field := "semantic_hash" }]

/-- The recount's observation as `submit_recount` stores it. -/
def recountObservation (env : Env) (originalId : Value) (request payload : Doc) (sqlAtRecount : ℚ) : Doc :=
  let marked := payload.setAll [("is_recount", .bool true), ("recount_of_id", originalId),
    ("recount_is_blind", (request "is_blind").getD (.bool true)),
    ("sql_qty_at_recount", .num sqlAtRecount)]
  let named := if (marked.get "id").truthy then marked else marked.set "id" (.str env.freshId)
  withObjectId env (named.setAll [("created_at", .date env.now), ("updated_at", .date env.now)])

/-- The comparison `submit_recount` stores. -/
def recountComparison (env : Env) (originalId recountId : Value)
    (originalCount recountCount sqlAtRecount originalVariance : ℚ) : Doc :=
  withObjectId env (Doc.ofList
    [("id", .str env.freshId), ("original_observation_id", originalId),
      ("recount_observation_id", recountId), ("original_count", .num originalCount),
      ("recount_count", .num recountCount), ("sql_at_recount", .num sqlAtRecount),
      ("difference", .num (roundPlaces 4 (recountCount - originalCount))),
      ("matches_sql", .bool (matchesSql recountCount sqlAtRecount)),
      ("decision", .str (recountDecision recountCount sqlAtRecount)),
      ("original_variance", .num originalVariance),
      ("recount_variance", .num (roundPlaces 4 (recountCount - sqlAtRecount)))])

/-- `submit_recount`: the observation and the comparison are stored before the request is
updated. -/
def submitRecount (env : Env) (requestId : String) (payload : Doc) : DeskAction Unit := do
  let request ← reads fun d =>
    match d.store.recountRequests.find? (Filter.eq "id" (.str requestId)).holds with
    | some request => .ok request
    | none => .error (.value "Recount request not found")
  let originalId ← reads fun _ => requiredField request "observation_id"
  let original ← reads fun d =>
    match d.countObservations.find? (Filter.eq "id" originalId).holds with
    | some original => .ok original
    | none => .error (.value "Original observation not found")
  let originalCount ← reads fun _ => floatOrError (original.get "counted_qty")
  let recountCount ← reads fun _ => floatOrError (payload.get "counted_qty")
  let sqlAtRecount ← reads fun _ => floatOrError (payload.get "sql_qty_at_submission")
  let originalVariance ← reads fun _ => floatOrError (original.get "variance")
  let observation := recountObservation env originalId request payload sqlAtRecount
  writes fun d => do
    let observations ← liftFault (Collection.insertOne observationIndexes observation d.countObservations)
    pure { d with countObservations := observations }
  writes fun d => .ok { d with recountComparisons := d.recountComparisons ++
    [recountComparison env originalId (observation.get "id") originalCount recountCount sqlAtRecount
      originalVariance] }
  setRecountFields requestId
    [("status", .str (recountDecision recountCount sqlAtRecount)), ("submitted_at", .date env.now),
      ("linked_recount_observation_id", observation.get "id"), ("resolved_at", .date env.now),
      ("updated_at", .date env.now)]

/-- The operations of both services on `recount_requests`. The routes create requests as
pending, and their fields name no object id. -/
inductive DeskOp where
  | create (env : Env) (r : RecountCreate)
  | assign (env : Env) (requestId assignedTo : String)
  | start (env : Env) (requestId : String)
  | submit (env : Env) (requestId : String) (payload : Doc)
  | lifecycleCreate (env : Env) (recountDoc : Doc)
      (pending : recountDoc "status" = some (.str "pending")) (unnamed : recountDoc "_id" = none)
  | lifecycleTransition (env : Env) (recountId target : String) (fields : List (String × Value))
      (unnamed : "_id" ∉ fields.map Prod.fst)

def deskStep (d : RecountDesk) : DeskOp → RecountDesk
  | .create env r => (createRequest env r).final d
  | .assign env requestId assignedTo => (assignRequest env requestId assignedTo).final d
  | .start env requestId => (startRequest env requestId).final d
  | .submit env requestId payload => (submitRecount env requestId payload).final d
  | .lifecycleCreate env recountDoc _ _ => (onStore (createRecountRequest env recountDoc)).final d
  | .lifecycleTransition env recountId target fields _ =>
    (onStore (transitionRecountRequest env recountId target fields)).final d

/-- Matched, confirmed, completed, cancelled or expired, in either vocabulary. -/
def isResolvedRecount (recount : Doc) : Bool :=
  ["recount_matched", "recount_confirmed", "matched", "confirmed", "completed", "cancelled",
    "expired"].contains (normalizeRecountStatus (recount.get "status"))

/-- The gate's condition on a request. -/
def pendingRecountFilter (sessionId : String) : Filter :=
  Filter.all [.eq "session_id" (.str sessionId), .notIn "status" [.str "completed", .str "cancelled", .str "expired"]]

/-- The gate counts the request for no session, and the transition table knows its status. -/
def OutOfTheWay (recount : Doc) : Prop :=
  (∀ sessionId, (pendingRecountFilter sessionId).holds recount = false) ∧
    recountAllowedTransitions (normalizeRecountStatus (recount.get "status")) ≠ none

/-- Completed, cancelled or expired exactly as the lifecycle writes it. -/
def IsFinalRecount (recount : Doc) : Prop :=
  ∃ status ∈ ["completed", "cancelled", "expired"], recount "status" = some (.str status)

variable {recount : Doc}

theorem IsFinalRecount.outOfTheWay (final : IsFinalRecount recount) : OutOfTheWay recount := by
  obtain ⟨status, listed, stored⟩ := final
  simp only [List.mem_cons, List.not_mem_nil, or_false] at listed
  constructor
  · intro sessionId
    rcases listed with rfl | rfl | rfl <;>
      simp [pendingRecountFilter, Filter.all, Filter.holds, Filter.fieldIs, stored]
  · rw [Doc.get_of_some stored]
    rcases listed with rfl | rfl | rfl <;> decide

/-- A final request stays as it is, and no request is resolved any other way. -/
def Progresses (old new : Doc) : Prop :=
  (IsFinalRecount old → new "status" = old "status") ∧ (isResolvedRecount new = true → IsFinalRecount new)

structure DeskSound (requests : List Doc) : Prop where
  named : ∀ recount ∈ requests, ∃ hex, recount "_id" = some (.oid hex)
  apart : (requests.map fun recount => recount "_id").Nodup
  settled : ∀ recount ∈ requests, isResolvedRecount recount = true → IsFinalRecount recount

/-- What one operation may do to the requests. -/
inductive RecountStep (before : List Doc) : List Doc → Prop where
  | same : RecountStep before before
  | added (new : Doc) (hex : String) (named : new "_id" = some (.oid hex))
      (fresh : ∀ old ∈ before, old "_id" ≠ new "_id") (unresolved : isResolvedRecount new = false) :
      RecountStep before (before ++ [new])
  | changed (front back : List Doc) (old new : Doc) (split : before = front ++ old :: back)
      (named : new "_id" = old "_id") (progresses : Progresses old new) :
      RecountStep before (front ++ new :: back)

/-- The requests after an operation, as a property of the store it leaves. -/
def StepsFrom (before : List Doc) (t : Store) : Prop := RecountStep before t.recountRequests

variable {after : List Doc}

theorem RecountStep.sound {before : List Doc} (step : RecountStep before after)
    (sound : DeskSound before) : DeskSound after := by
  cases step with
  | same => exact sound
  | added new hex named fresh unresolved =>
    constructor
    · intro recount member
      rcases List.mem_append.mp member with old | isNew
      · exact sound.named recount old
      · rw [List.mem_singleton.mp isNew]
        exact ⟨hex, named⟩
    · rw [List.map_append, List.nodup_append]
      refine ⟨sound.apart, by simp, ?_⟩
      intro id member other isNew
      obtain ⟨old, stored, rfl⟩ := List.mem_map.mp member
      rw [List.mem_singleton.mp isNew]
      exact fresh old stored
    · intro recount member resolved
      rcases List.mem_append.mp member with old | isNew
      · exact sound.settled recount old resolved
      · rw [List.mem_singleton.mp isNew, unresolved] at resolved
        cases resolved
  | changed front back old new split named progresses =>
    subst split
    constructor
    · intro recount member
      simp only [List.mem_append, List.mem_cons] at member
      rcases member with inFront | rfl | inBack
      · exact sound.named recount (by simp [inFront])
      · rw [named]
        exact sound.named old (by simp)
      · exact sound.named recount (by simp [inBack])
    · have apart := sound.apart
      rw [List.map_append, List.map_cons] at apart ⊢
      rw [named]
      exact apart
    · intro recount member resolved
      simp only [List.mem_append, List.mem_cons] at member
      rcases member with inFront | rfl | inBack
      · exact sound.settled recount (by simp [inFront]) resolved
      · exact progresses.2 resolved
      · exact sound.settled recount (by simp [inBack]) resolved

/-- A final request is still there, in its place and with its status. -/
theorem RecountStep.keeps_final {before : List Doc} (step : RecountStep before after) {i : Nat}
    (here : before[i]? = some recount) (final : IsFinalRecount recount) :
    ∃ now, after[i]? = some now ∧ IsFinalRecount now := by
  cases step with
  | same => exact ⟨recount, here, final⟩
  | added new hex named fresh unresolved =>
    refine ⟨recount, ?_, final⟩
    rw [List.getElem?_append_left (List.getElem?_eq_some_iff.mp here).1]
    exact here
  | changed front back old new split named progresses =>
    subst split
    have replaced : front ++ new :: back = (front ++ old :: back).set front.length new := by simp
    rw [replaced]
    by_cases there : front.length = i
    · subst there
      have isOld : recount = old := by simpa using here.symm
      subst isOld
      refine ⟨new, by simp, ?_⟩
      obtain ⟨status, listed, stored⟩ := final
      exact ⟨status, listed, by rw [progresses.1 ⟨status, listed, stored⟩, stored]⟩
    · refine ⟨recount, ?_, final⟩
      rw [List.getElem?_set_ne there]
      exact here

theorem RecountStep.of_insert {docs : List Doc} {new : Doc} {hex : String}
    (inserted : Collection.insertOne recountIndexes new docs = .ok after) (named : new "_id" = some (.oid hex))
    (unresolved : isResolvedRecount new = false) : RecountStep docs after := by
  obtain ⟨free, rfl⟩ := Collection.insertOne_ok inserted
  refine .added new hex named ?_ unresolved
  intro old member same
  have clash := List.find?_eq_none.mp free { field := "_id" } (by simp [recountIndexes])
  apply clash
  rw [List.any_eq_true]
  exact ⟨old, member, by simp [Collection.sameEntry, Doc.has, named, same]⟩

theorem final_onStore {α : Type} (x : Request α) (d : RecountDesk) :
    (onStore x).final d = { d with store := x.final d.store } := by
  simp only [final, onStore]
  cases x d.store <;> rfl

variable {env : Env}

theorem createRecountRequest_step {recountDoc : Doc} {s : Store}
    (pending : recountDoc "status" = some (.str "pending")) (unnamed : recountDoc "_id" = none) :
    StepsFrom s.recountRequests ((createRecountRequest env recountDoc).final s) := by
  refine UnitOfWork.final_runCommitted RecountStep.same ?_
  refine final_reads_bind RecountStep.same fun _ _ => ?_
  refine final_writes_bind RecountStep.same fun t written => ?_
  rw [final_pure]
  simp only [bind_success, liftFault_ok, pure_success] at written
  obtain ⟨recounts, inserted, rfl⟩ := written
  have named : withObjectId env (((recountDoc.setDefault "status" (.str "pending")).setDefault
      "created_at" (.date env.now)).setDefault "updated_at" (.date env.now)) "_id" =
      some (.oid env.freshOid) := by
    have absent : (((recountDoc.setDefault "status" (.str "pending")).setDefault "created_at"
        (.date env.now)).setDefault "updated_at" (.date env.now)) "_id" = none := by
      repeat rw [Doc.setDefault_other _ _ (by decide)]
      exact unnamed
    simp [withObjectId, Doc.setDefault.eq_def _ "_id", Doc.has, absent]
  have status : withObjectId env (((recountDoc.setDefault "status" (.str "pending")).setDefault
      "created_at" (.date env.now)).setDefault "updated_at" (.date env.now)) "status" =
      some (.str "pending") := by
    rw [withObjectId]
    repeat rw [Doc.setDefault_other _ _ (by decide)]
    simp [Doc.setDefault, Doc.has, pending]
  apply RecountStep.of_insert inserted named
  rw [isResolvedRecount, Doc.get_of_some status]
  decide

def recountStatuses : List String :=
  ["pending", "assigned", "in_progress", "completed", "cancelled", "expired"]

theorem recountAllowedTransitions_known {current : String} {targets : List String}
    (known : recountAllowedTransitions current = some targets) :
    current ∈ recountStatuses ∧ (∀ target ∈ targets, target ∈ recountStatuses) ∧
      (current ∈ ["completed", "cancelled", "expired"] → targets = []) := by
  unfold recountAllowedTransitions at known
  split at known <;> cases known <;> decide

theorem assertRecountTransition_ok {current target : String} {u : Unit}
    (allowed : assertRecountTransition current target = .ok u) :
    target ∈ recountStatuses ∧ (current ∈ ["completed", "cancelled", "expired"] → target = current) := by
  unfold assertRecountTransition at allowed
  split at allowed
  · cases allowed
  · next targets known =>
    obtain ⟨itself, targetsKnown, last⟩ := recountAllowedTransitions_known known
    simp only [require_ok, Bool.or_eq_true, List.contains_iff_mem, beq_iff_eq] at allowed
    rcases allowed with listed | rfl
    · refine ⟨targetsKnown target listed, ?_⟩
      intro final
      rw [last final] at listed
      cases listed
    · exact ⟨itself, fun _ => rfl⟩

theorem IsFinalRecount.normalized (final : IsFinalRecount recount) :
    normalizeRecountStatus (recount.get "status") ∈ ["completed", "cancelled", "expired"] ∧
      recount "status" = some (.str (normalizeRecountStatus (recount.get "status"))) := by
  obtain ⟨status, listed, stored⟩ := final
  rw [Doc.get_of_some stored, stored]
  rcases mem_three.mp listed with rfl | rfl | rfl <;> decide

/-- The lifecycle moves a request within its own table. -/
theorem transitionRecountRequest_step {recountId target : String} {fields : List (String × Value)}
    {s : Store} (sound : DeskSound s.recountRequests) (unnamed : "_id" ∉ fields.map Prod.fst) :
    StepsFrom s.recountRequests ((transitionRecountRequest env recountId target fields).final s) := by
  refine UnitOfWork.final_runCommitted RecountStep.same ?_
  refine final_reads_bind RecountStep.same fun recount found => ?_
  refine final_reads_bind RecountStep.same fun _ allowed => ?_
  refine final_reads_bind RecountStep.same fun _ _ => ?_
  refine final_writes_bind RecountStep.same fun t written => ?_
  refine final_reads ?_
  have here : s.findRecount recountId = some recount := by
    split at found
    · next first => rw [first, Except.ok.inj found]
    · cases found
  have member : recount ∈ s.recountRequests := List.mem_of_find?_eq_some here
  obtain ⟨hex, named⟩ := sound.named recount member
  have lookup : recount.get "_id" ≠ .null := by
    rw [Doc.get_of_some named]
    exact Value.noConfusion
  simp only [bind_success, liftFault_ok, if_neg lookup, pure_success] at written
  obtain ⟨⟨answer, recounts⟩, updated, rfl⟩ := written
  rcases Collection.updateOne_ok updated with ⟨_, _, rfl⟩ | ⟨old, new, first, applied, _, _, rfl⟩
  · exact .same
  · obtain ⟨front, back, split, matched, before⟩ := Collection.find_split first
    change RecountStep _ (Collection.replaceFirst _ new s.recountRequests)
    rw [split, Collection.replaceFirst_split matched before]
    rw [Update.apply_ofSet] at applied
    cases applied
    -- the object id leads back to the request that was read
    have isRecount : old = recount := by
      have sameId : old "_id" = recount "_id" := by
        obtain ⟨oldHex, oldNamed⟩ := sound.named old (by rw [split]; simp)
        simp only [Filter.holds, Filter.fieldIs, oldNamed, Doc.get_of_some named, beq_iff_eq] at matched
        rw [oldNamed, named, matched]
      exact List.inj_on_of_nodup_map sound.apart (by rw [split]; simp) member sameId
    subst isRecount
    have status : (((Doc.ofList fields).set "status" (.str (normalizeRecountStatus (.str target)))).setDefault
        "updated_at" (.date env.now)) "status" = some (.str (normalizeRecountStatus (.str target))) := by
      rw [Doc.setDefault_other _ _ (by decide), Doc.set_same]
    obtain ⟨known, final⟩ := assertRecountTransition_ok allowed
    refine .changed front back old _ rfl ?_ ⟨?_, ?_⟩
    · rw [Doc.update_apply, Doc.setDefault_other _ _ (by decide), Doc.set_other _ _ (by decide),
        Doc.ofList_other unnamed, Option.none_or]
    · intro isFinal
      obtain ⟨listed, stored⟩ := isFinal.normalized
      rw [Doc.update_apply, status, Option.some_or, final listed, ← stored]
    · intro resolved
      refine ⟨normalizeRecountStatus (.str target), ?_, ?_⟩
      · rw [isResolvedRecount, Doc.get_eq, Doc.update_apply, status, Option.some_or, Option.getD_some] at resolved
        revert resolved
        generalize normalizeRecountStatus (.str target) = moved at known
        simp only [recountStatuses, List.mem_cons, List.not_mem_nil, or_false] at known
        rcases known with rfl | rfl | rfl | rfl | rfl | rfl <;> decide
      · rw [Doc.update_apply, status, Option.some_or]

/-- What an operation does on a guarded database. -/
structure GuardedStep (d after : RecountDesk) : Prop where
  guarded : after.guarded = true
  requests : RecountStep d.store.recountRequests after.store.recountRequests

/-- Every write of `RecountService` to the requests is refused, so only the lifecycle moves them. -/
theorem deskStep_guarded {d : RecountDesk} (guarded : d.guarded = true)
    (sound : DeskSound d.store.recountRequests) (op : DeskOp) : GuardedStep d (deskStep d op) := by
  have refused : ∀ {operation : String} {write : List Doc → Except WriteFault (List Doc)}
      {t u : RecountDesk}, t.guarded = true → unauthorizedWrite operation write t ≠ .ok u := by
    intro operation write t u held written
    simp [unauthorizedWrite, bind_success, require_ok, held] at written
  have same : GuardedStep d d := ⟨guarded, .same⟩
  cases op with
  | create env r | assign env requestId assignedTo | start env requestId =>
    exact final_writes same fun t written => absurd written (refused guarded)
  | submit env requestId payload =>
    unfold deskStep submitRecount
    iterate 7 refine final_reads_bind same fun _ _ => ?_
    refine final_writes_bind same fun t observed => ?_
    simp only [bind_success, liftFault_ok, pure_success] at observed
    obtain ⟨observations, _, rfl⟩ := observed
    refine final_writes_bind ⟨guarded, .same⟩ fun u compared => ?_
    cases compared
    exact final_writes ⟨guarded, .same⟩ fun v written => absurd written (refused guarded)
  | lifecycleCreate env recountDoc pending unnamed =>
    rw [deskStep, final_onStore]
    exact ⟨guarded, createRecountRequest_step pending unnamed⟩
  | lifecycleTransition env recountId target fields unnamed =>
    rw [deskStep, final_onStore]
    exact ⟨guarded, transitionRecountRequest_step sound unnamed⟩

/-- On the guarded database, whatever both services do, a request that was resolved at some
point of the run is out of the gate's way from then on. -/
theorem resolved_recount_out_of_the_way {first middle last : RecountDesk} {i : Nat} {recount : Doc}
    (guarded : first.guarded = true) (start : DeskSound first.store.recountRequests)
    (before : Reaches deskStep (fun _ _ => True) first middle)
    (after : Reaches deskStep (fun _ _ => True) middle last)
    (here : middle.store.recountRequests[i]? = some recount) (resolved : isResolvedRecount recount = true) :
    ∃ now, last.store.recountRequests[i]? = some now ∧ OutOfTheWay now := by
  have middleSound : middle.guarded = true ∧ DeskSound middle.store.recountRequests := by
    refine before.invariant (P := fun d => d.guarded = true ∧ DeskSound d.store.recountRequests) ⟨guarded, start⟩ ?_
    rintro d op ⟨held, sound⟩ _
    have step := deskStep_guarded held sound op
    exact ⟨step.guarded, step.requests.sound sound⟩
  have final := middleSound.2.settled recount (List.mem_of_getElem? here) resolved
  have kept : last.guarded = true ∧ DeskSound last.store.recountRequests ∧
      ∃ now, last.store.recountRequests[i]? = some now ∧ IsFinalRecount now := by
    refine after.invariant (P := fun d => d.guarded = true ∧ DeskSound d.store.recountRequests ∧
      ∃ now, d.store.recountRequests[i]? = some now ∧ IsFinalRecount now)
      ⟨middleSound.1, middleSound.2, recount, here, final⟩ ?_
    rintro d op ⟨held, sound, now, there, isFinal⟩ _
    have step := deskStep_guarded held sound op
    exact ⟨step.guarded, step.requests.sound sound, step.requests.keeps_final there isFinal⟩
  obtain ⟨_, _, now, there, isFinal⟩ := kept
  exact ⟨now, there, isFinal.outOfTheWay⟩

/-- A guarded desk with one counted observation. -/
def countedDesk : RecountDesk where
  store := { sessions := [Doc.ofList [("_id", .oid "a1"), ("id", .str "s1"), ("session_id", .str "s1"),
    ("status", .str "ACTIVE")]] }
  countObservations := [Doc.ofList [("_id", .oid "b1"), ("id", .str "o1"), ("counted_qty", .num 4),
    ("variance", .num (-1))]]
  guarded := true

def recountEnv : Env := { sampleEnv with freshId := "r1", freshOid := "0123456789abcdef01234567" }

theorem noRequests_sound : DeskSound [] := ⟨by simp, List.nodup_nil, by simp⟩

def varianceRecount : RecountCreate where
  observationId := "o1"
  sessionId := "s1"
  itemCode := "i1"
  requestedBy := "sudha"
  reason := "variance"

/-- The lifecycle opens a recount; the service's assignment and its matching submission are
refused, and the lifecycle completes the recount. -/
def completedRecount : List DeskOp :=
  [.lifecycleCreate recountEnv (Doc.ofList [("id", .str "r1"), ("session_id", .str "s1"),
      ("observation_id", .str "o1"), ("status", .str "pending")]) rfl rfl,
    .assign recountEnv "r1" "ravi",
    .submit { recountEnv with freshOid := "1123456789abcdef01234567" } "r1"
      (Doc.ofList [("id", .str "o2"), ("counted_qty", .num 5), ("sql_qty_at_submission", .num 5)]),
    .lifecycleTransition recountEnv "r1" "COMPLETED" [("completed_by", .str "ravi")] (by decide)]

/-- Afterwards the service opens one more request and starts the completed one, in vain. -/
def afterCompletion : List DeskOp :=
  [.create { recountEnv with freshId := "r2" } varianceRecount, .start recountEnv "r1"]

theorem completed_recount_out_of_the_way :
    let middle := completedRecount.foldl deskStep countedDesk
    let last := afterCompletion.foldl deskStep middle
    last.countObservations.length = 2 ∧ last.store.recountRequests.length = 1 ∧
      ∃ now, last.store.recountRequests[0]? = some now ∧ OutOfTheWay now := by
  refine ⟨by decide +kernel, by decide +kernel, ?_⟩
  have resolved : ((completedRecount.foldl deskStep countedDesk).store.recountRequests[0]?).any
      isResolvedRecount = true := by decide +kernel
  cases here : (completedRecount.foldl deskStep countedDesk).store.recountRequests[0]? with
  | none =>
    rw [here] at resolved
    cases resolved
  | some recount =>
    rw [here] at resolved
    exact resolved_recount_out_of_the_way rfl noRequests_sound (Reaches.foldl fun _ _ _ => trivial)
      (Reaches.foldl fun _ _ _ => trivial) here resolved

end StockVerification
