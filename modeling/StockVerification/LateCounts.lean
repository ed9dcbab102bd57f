import StockVerification.FinalizationGate
import StockVerification.Foundation.SnapshotRaces
import StockVerification.RecountCompletion
import StockVerification.SessionOcc
import StockVerification.UnknownItems

/-!
# Counts against a finalization

Source: backend/services/count_lines/write_core.py:455-555,
backend/services/count_lines/session_aggregator.py:273-367,
backend/services/session_lifecycle_service.py:494-548, 768-921 and backend/core/uow.py:57-130.

Transactions that create count lines of a session race with its finalization. A creation is checked
against a session that was read before its transaction began. The route, a repeated sync and the
completion of a recount leave their transactions without a commit, and the mapping of an unknown
item is refused. What commits is the sync of a new line. It refreshes the totals of the session, so
it writes the session document, and so does the finalization.
-/
namespace StockVerification

open Foundation Foundation.Action

def transactional (env : Env) : Env := { env with deployment := .transactional }

/-- The transactions that insert a count line, each with what was read before it began. `outside` is
what a read without the transaction's session sees. -/
inductive CountCreation (sessionId : String) where
  /-- `_persist_count_line_document`. -/
  | route (env : Env) (username : String) (session document : Doc) (target : Option Doc)
  /-- `_handle_duplicate_count_line`. -/
  | duplicate (env : Env) (username : String) (session line existing : Doc)
  /-- `complete_recount_request`. -/
  | recount (env : Env) (user : User) (recountId : String) (notes : Option String) (request : Doc) (resultQty : ℚ)
  /-- `resolve_to_known_item`. -/
  | mapping (env : Env) (outside : Store) (itemId itemCode actorId : String) (notes : Option String)
  /-- `create_manual_sku_and_resolve`. -/
  | manualSku (env : Env) (outside : Store) (itemId : String) (sku : ManualSku) (actorId : String)
      (notes : Option String)
  /-- The write of `sync_single_record`. -/
  | sync (env : Env) (outside : Store) (user : User) (session : Doc) (record : SyncRecord)
      (named : record.sessionId = sessionId) (floorId rackId locationId : String) (countedAt updatedAt : Int)

def syncedLine (env : Env) (outside : Store) (user : User) (session : Doc) (record : SyncRecord)
    (floorId rackId locationId : String) (countedAt updatedAt : Int) : Request WriteResult :=
  processWriteCore (transactional env) outside (sessionContext user.username session)
    (.insertOne (syncDocument env user record floorId rackId locationId countedAt updatedAt))

def CountCreation.run {sessionId : String} : CountCreation sessionId → Request Unit
  | .route env username session document target => do
    let _ ← persistCountLineDocument (transactional env) username session document target
  | .duplicate env username session line existing => do
    let _ ← handleDuplicateCountLine (transactional env) sessionId username session line existing
  | .recount env user recountId notes request resultQty => do
    let _ ← settleRecount (transactional env) user recountId notes request (some resultQty)
  | .mapping env outside itemId itemCode actorId notes => do
    let _ ← UnitOfWork.runCommitted .transactional
      (resolveToKnownItem (transactional env) outside itemId itemCode actorId notes)
  | .manualSku env outside itemId sku actorId notes => do
    let _ ← UnitOfWork.runCommitted .transactional
      (createManualSkuAndResolve (transactional env) outside itemId sku actorId notes)
  | .sync env outside user session record _ floorId rackId locationId countedAt updatedAt => do
    let _ ← UnitOfWork.runCommitted .transactional
      (syncedLine env outside user session record floorId rackId locationId countedAt updatedAt)

/-- A creation of count lines of the session, or its finalization. -/
inductive SessionTransaction (sessionId : String) where
  | creation (c : CountCreation sessionId)
  | finalization (env : Env) (hasFinalizer : Bool) (actor : String) (note : Option String)

def SessionTransaction.finalizes {sessionId : String} : SessionTransaction sessionId → Bool
  | .creation _ => false
  | .finalization .. => true

/-- What a transaction hands to the database, none where it fails. -/
def handedOver {α : Type} (x : Request α) (s : Store) : Option Store :=
  match x s with
  | .ok _ t => some t
  | .error _ _ => none

def SessionTransaction.body {sessionId : String} : SessionTransaction sessionId → Store → Option Store
  | .creation c => handedOver c.run
  | .finalization env hasFinalizer actor note =>
    handedOver (finalizeSessionCanonical (transactional env) hasFinalizer sessionId actor note)

variable {s t : Store} {α : Type} {x : Request α}

theorem handedOver_some : handedOver x s = some t ↔ ∃ a, x s = .ok a t := by
  unfold handedOver
  cases x s with
  | ok a u => simp
  | error e u => simp

/-- What a versioned update leaves of the document of a session. -/
structure SessionRewritten (sessionId : String) (fields : Doc) (s t : Store) (old new : Doc) : Prop where
  found : s.findSession sessionId = some old
  stored : t.findSession sessionId = some new
  grown : sessionVersion new = sessionVersion old + 1
  identified : Identified t.sessions
  fieldsEq : ∀ field, field ≠ "version" → new field = (fields field).or (old field)

variable {sessionId : String}

theorem updateSessionWithOcc_rewrites {fields : Doc} {expected : Int}
    (identified : Identified s.sessions) (plain : KeepsNames fields)
    (success : updateSessionWithOcc sessionId fields expected s = .ok t) :
    ∃ old new, SessionRewritten sessionId fields s t old new := by
  obtain ⟨old, new, effect, fieldsEq⟩ := updateSessionWithOcc_spec identified plain success
  exact ⟨old, new, effect.found, effect.stored, effect.grown, effect.identified, fieldsEq⟩

def documentVersion (session : Option Doc) : ℕ := (session.map sessionVersion).getD 0

theorem SessionRewritten.climbs {fields : Doc} {old new : Doc}
    (rewritten : SessionRewritten sessionId fields s t old new) :
    documentVersion (s.findSession sessionId) < documentVersion (t.findSession sessionId) := by
  rw [rewritten.found, rewritten.stored]
  have grown := rewritten.grown
  simp only [documentVersion, Option.map_some, Option.getD_some]
  omega

/-- A line of the session as the governance decided on it. -/
structure JudgedLine (sessionId : String) (line : Doc) : Prop where
  within : inSession sessionId line = true
  decided : ∃ d, Decided line d
  unassigned : line.get "assigned_to" = .null

structure AppendEffect (sessionId : String) (s t : Store) : Prop where
  isOpen : ∃ session, s.findSession sessionId = some session ∧ isSessionClosedToWrites session = false
  climbs : documentVersion (s.findSession sessionId) < documentVersion (t.findSession sessionId)
  identified : Identified t.sessions
  appended : ∃ line, t.countLines = s.countLines ++ [line] ∧ JudgedLine sessionId line

variable {ctx : WriteContext} {env : Env} {line : Doc}

theorem InsertedLine.unassigned {document : Doc} (inserted : InsertedLine env ctx s document line)
    (counted : document.has "counted_qty" = true) : line.get "assigned_to" = .null := by
  obtain ⟨hash, e, _, fields⟩ := inserted.governed counted
  have reset : applyAuthoritativeFields env ctx (resolveSessionDocument s ctx e.document) e.document e.decision
      e.erpItem "assigned_to" = some .null := by
    apply Doc.setAll_named
    rw [List.append_assoc, Doc.ofList_append, Doc.ofList_append]
    have undecided : Doc.ofList (decisionFields env ctx e.decision) "assigned_to" = none := by
      cases status : ctx.setStatusFromGovernance <;> simp [decisionFields, status]
    rw [undecided]
    rfl
  exact Doc.get_of_some ((fields _ (by decide)).trans reset)

theorem refreshTotals_one {version : Nat} (refreshes : ctx.skipSessionTotalsUpdate = false)
    (success : refreshTotals env ctx [(sessionId, version)] s = .ok () t) :
    ∃ (totals : SessionTotals) (session : Doc), s.findSession sessionId = some session ∧
      isSessionClosedToWrites session = false ∧ updateSessionWithOcc sessionId
        (Doc.ofList (totals.toFields ++ [("updated_at", .date env.now)])) version s = .ok t := by
  have single : refreshTotals env ctx [(sessionId, version)] = (do
      refreshSessionTotals env (sessionId, version)
      pure ()) := by
    rw [refreshTotals, refreshes]
    rfl
  simp only [single, refreshSessionTotals, updateSessionTotals, ensureSessionNotFinalized, bind_ok, reads_ok, writes_ok,
    bind_success, require_ok, ensureSessionExists_ok, pure, Except.pure, EStateM.pure, EStateM.Result.ok.injEq,
    Except.ok.injEq, Bool.false_eq_true, if_false, if_true, Option.getD_some, true_and] at success
  obtain ⟨_, _, ⟨totals, _, ⟨_, rfl⟩, _, _, ⟨⟨session, found, _, isOpen, rfl⟩, rfl⟩, _, w, updated, rfl⟩, rfl⟩ :=
    success
  exact ⟨totals, session, found, by simpa using isOpen, updated⟩

theorem captured_one {versions : List (String × Nat)}
    (captured : captureSessionVersions ctx [sessionId] s = .ok versions) : ∃ n, versions = [(sessionId, n)] := by
  cases found : s.findSession sessionId with
  | none =>
    simp only [captureSessionVersions, List.mapM_cons, found] at captured
    cases captured
  | some session =>
    simp only [captureSessionVersions, List.mapM_cons, List.mapM_nil, found, bind_success, pure_success] at captured
    obtain ⟨entry, ⟨_, _, _, _, rfl⟩, _, rfl, rfl⟩ := captured
    exact ⟨_, rfl⟩

theorem syncedLine_effect {outside : Store} {user : User} {session : Doc} {record : SyncRecord}
    {floorId rackId locationId : String} {countedAt updatedAt : Int} {result : WriteResult}
    (filled : record.sessionId ≠ "") (identified : Identified s.sessions)
    (success : syncedLine env outside user session record floorId rackId locationId countedAt updatedAt s = .ok result
      t) :
    AppendEffect record.sessionId s t := by
  rw [syncedLine, processWriteCore_iff rfl] at success
  obtain ⟨p, u, w, prepared, executed, _, refreshed, rfl⟩ := success
  obtain ⟨final, hash, opEq, left, _⟩ := prepareWrite_insert prepared
  obtain ⟨_, _, _, _, _, captured⟩ := prepareWrite_ok prepared
  obtain ⟨line, inserted, rfl, _, _, _⟩ := insertOne_effect rfl prepared executed
  have finalId : final "session_id" = some (.str record.sessionId) := by
    rw [left.other _ (by decide)]
    rfl
  have collected : collectSessionIds (sessionContext user.username session) (.insertOne final) s = [record.sessionId] :=
    @collected_insert s record.sessionId session user.username final finalId filled
  rw [opEq, collected] at captured
  obtain ⟨version, versions⟩ := captured_one captured
  rw [versions] at refreshed ⊢
  obtain ⟨totals, current, found, isOpen, updated⟩ := refreshTotals_one rfl refreshed
  have plain : KeepsNames (Doc.ofList (totals.toFields ++ [("updated_at", .date env.now)])) :=
    keepsNames_totals totals true env.now
  obtain ⟨old, new, rewritten⟩ := @updateSessionWithOcc_rewrites (s.withLines (s.countLines ++ [line])) w _ _ _
    identified plain updated
  have same : (syncForSessions (transactional env) [record.sessionId] w).findSession record.sessionId =
      w.findSession record.sessionId := by
    simp only [Store.findSession, syncForSessions_sessions]
  obtain ⟨_, e, _, decided⟩ := inserted.decided rfl rfl
  refine ⟨⟨current, found, isOpen⟩, ?_, ?_, line, ?_, ?_, ⟨e.decision, decided⟩, inserted.unassigned rfl⟩
  · have climbs := rewritten.climbs
    rw [List.map_cons, List.map_nil, same]
    exact climbs
  · rw [syncForSessions_sessions]
    exact rewritten.identified
  · rw [syncForSessions_countLines, updateSessionWithOcc_countLines updated]
    rfl
  · have stored : line "session_id" = some (.str record.sessionId) := by
      rw [inserted.other _ (by decide) (by decide)]
      rfl
    simp [inSession, Filter.holds, Filter.fieldIs, stored]

theorem uncommitted {a : α} {exit : UnitOfWork.Exit Store}
    (ran : UnitOfWork.runObserved .transactional (UnitOfWork.write x) s = .ok (a, exit) t) : t = s := by
  obtain ⟨_, _, _, same⟩ := UnitOfWork.runObserved_write_ok.mp ran
  exact same

theorem creation_body {c : CountCreation sessionId} (filled : sessionId ≠ "")
    (identified : Identified s.sessions) (made : (SessionTransaction.creation c).body s = some t) :
    t = s ∨ AppendEffect sessionId s t := by
  obtain ⟨_, ran⟩ := handedOver_some.mp made
  cases c with
  | route env username session document target =>
    simp only [CountCreation.run, persistCountLineDocument, bind_ok, pure_ok] at ran
    obtain ⟨⟨_, _⟩, _, unit, _, rfl⟩ := ran
    exact .inl (uncommitted unit)
  | duplicate env username session line existing =>
    simp only [CountCreation.run, handleDuplicateCountLine, bind_ok, reads_ok, pure_ok] at ran
    obtain ⟨_, _, ⟨_, _, ⟨_, rfl⟩, _, _, ⟨_, rfl⟩, ⟨_, _⟩, _, unit, _, rfl⟩, _, rfl⟩ := ran
    exact .inl (uncommitted unit)
  | recount env user recountId notes request resultQty =>
    simp only [CountCreation.run, settleRecount, bind_ok, pure_ok] at ran
    obtain ⟨_, _, ⟨⟨_, _⟩, _, unit, _, rfl⟩, _, rfl⟩ := ran
    exact .inl (uncommitted unit)
  | mapping env outside itemId itemCode actorId notes =>
    simp only [CountCreation.run, resolveToKnownItem, UnitOfWork.runCommitted_ok, bind_ok] at ran
    obtain ⟨_, _, ⟨_, _, _, _, _, _, mapped⟩, _⟩ := ran
    exact absurd mapped mapUnknownToKnownItem_refused
  | manualSku env outside itemId sku actorId notes =>
    simp only [CountCreation.run, createManualSkuAndResolve, UnitOfWork.runCommitted_ok, bind_ok] at ran
    obtain ⟨_, _, ⟨_, _, _, _, _, _, _, _, _, mapped⟩, _⟩ := ran
    exact absurd mapped mapUnknownToKnownItem_refused
  | sync env outside user session record named floorId rackId locationId countedAt updatedAt =>
    simp only [CountCreation.run, bind_ok, UnitOfWork.runCommitted_ok, pure_ok] at ran
    obtain ⟨_, _, written, _, rfl⟩ := ran
    clear made
    subst named
    exact .inr (syncedLine_effect filled identified written)

structure FinalizationEffect (sessionId : String) (s t : Store) : Prop where
  isOpen : ∃ session, s.findSession sessionId = some session ∧ isSessionClosedToWrites session = false
  ready : assertSessionReadyToFinalize sessionId s = .ok ()
  climbs : documentVersion (s.findSession sessionId) < documentVersion (t.findSession sessionId)
  identified : Identified t.sessions
  isClosed : ∃ session, t.findSession sessionId = some session ∧ isSessionClosedToWrites session = true

theorem finalizedSessionFields_status (env : Env) (actor : String) (note : Option String) (totals : SessionTotals) :
    Doc.ofList (finalizedSessionFields env actor note totals) "status" = some (.str "FINALIZED") := by
  unfold finalizedSessionFields
  split <;> (try split) <;> simp [SessionTotals.toFields]

theorem finalization_body {hasFinalizer : Bool} {actor : String} {note : Option String}
    (identified : Identified s.sessions)
    (made : (SessionTransaction.finalization env hasFinalizer actor note : SessionTransaction sessionId).body s = some
      t) :
    FinalizationEffect sessionId s t := by
  obtain ⟨totals, ran⟩ := handedOver_some.mp made
  obtain ⟨run⟩ := finalizeSessionCanonical_run ran
  obtain ⟨session, locked, updated, mirrored, found, isOpen, _, ready, _, lockedEq, _, stamped, mirroredEq, synced⟩ := run
  have lockedSessions : locked.sessions = s.sessions := by
    rw [lockedEq]
    split <;> rfl
  have identifiedLocked : Identified locked.sessions := by rwa [lockedSessions]
  obtain ⟨old, new, rewritten⟩ := updateSessionWithOcc_rewrites identifiedLocked
    (keepsNames_finalized _ actor note totals) stamped
  have sessions : t.sessions = updated.sessions := by
    rw [synced, syncForSessions_sessions, (updateMirror_ok mirroredEq).2]
  have after : t.findSession sessionId = updated.findSession sessionId := by
    simp only [Store.findSession, sessions]
  have before : s.findSession sessionId = locked.findSession sessionId := by
    simp only [Store.findSession, lockedSessions]
  refine ⟨⟨session, found, isOpen⟩, ready, ?_, ?_, new, ?_, ?_⟩
  · rw [before, after]
    exact rewritten.climbs
  · rw [sessions]
    exact rewritten.identified
  · rw [after]
    exact rewritten.stored
  · have status : new "status" = some (.str "FINALIZED") := by
      rw [rewritten.fieldsEq _ (by decide), finalizedSessionFields_status]
      rfl
    rw [isSessionClosedToWrites, Doc.get_of_some status, Bool.or_eq_true]
    exact .inr (by decide)

theorem uncounted_of_ready (ready : assertSessionReadyToFinalize sessionId s = .ok ())
    (member : line ∈ s.countLines) : (needsReviewFilter sessionId).holds line = false := by
  simp only [assertSessionReadyToFinalize, require_ok, List.isEmpty_iff, List.append_eq_nil_iff] at ready
  have uncounted : s.countLines.countP (needsReviewFilter sessionId).holds = 0 := by
    by_contra counted
    have positive : 0 < s.countLines.countP (needsReviewFilter sessionId).holds := by omega
    have blockers := ready.2
    rw [if_pos positive] at blockers
    cases blockers
  rw [List.countP_eq_zero] at uncounted
  simpa using uncounted line member

/-- A judged line that the counts let pass blocks nothing, wherever it stands among the lines. -/
theorem JudgedLine.passes (judged : JudgedLine sessionId line)
    (uncounted : (needsReviewFilter sessionId).holds line = false) : blocksFinalization sessionId line = false := by
  obtain ⟨d, status, approval⟩ := judged.decided
  have within := judged.within
  rw [inSession] at within
  cases required : d.requiresSupervisorApproval with
  | true =>
    rw [GovernanceDecision.approvalStatus, required] at approval
    rw [GovernanceDecision.status, required] at status
    simp [needsReviewFilter, Filter.all, Filter.holds, Filter.fieldIs, status, approval] at uncounted within
    simp [uncounted] at within
  | false =>
    rw [GovernanceDecision.approvalStatus, required] at approval
    rw [GovernanceDecision.status, required] at status
    have statusEq : normalizeCountLineStatus (line.get "status") = "approved" := by
      rw [Doc.get_of_some status]
      decide
    have approvalEq : normalizeApprovalStatus (line.get "approval_status") = "APPROVED" := by
      rw [Doc.get_of_some approval]
      decide
    rw [blocksFinalization, uncounted, Bool.false_or, isBlockingFinalization, isBlockingApproval,
      isAssignedForRecount, judged.unassigned, statusEq, approvalEq]
    simp [Value.truthy]

section

variable {ι : Type} {parties : ι → SessionTransaction sessionId}

def IsFinalized (parties : ι → SessionTransaction sessionId) (race : Race Store ι) : Prop :=
  ∃ f checked finalized, (parties f).finalizes = true ∧ race.phase f = .committed checked finalized

/-- What a creation that committed has appended, against the finalizations of the race. -/
def Accounted (parties : ι → SessionTransaction sessionId) (race : Race Store ι) (before after : Store) : Prop :=
  ∃ new, after.countLines = before.countLines ++ new ∧ ∀ line ∈ new, JudgedLine sessionId line ∧
    (IsFinalized parties race ∨ line ∈ race.store.countLines) ∧
    ∀ f checked finalized, (parties f).finalizes = true →
      race.phase f = .committed checked finalized → line ∈ checked.countLines

structure RaceSettled (parties : ι → SessionTransaction sessionId) (race : Race Store ι) : Prop where
  frozen : ∀ f checked finalized, (parties f).finalizes = true → race.phase f = .committed checked finalized →
    race.store.countLines = finalized.countLines ∧ assertSessionReadyToFinalize sessionId checked = .ok () ∧
      ∃ session, race.store.findSession sessionId = some session ∧ isSessionClosedToWrites session = true
  created : ∀ k before after, (parties k).finalizes = false →
    race.phase k = .committed before after → Accounted parties race before after

variable {race : Race Store ι}

theorem RaceSettled.unfinalized (settled : RaceSettled parties race)
    (isOpen : ∃ session, race.store.findSession sessionId = some session ∧ isSessionClosedToWrites session = false) :
    ¬ IsFinalized parties race := by
  rintro ⟨f, checked, finalized, finalizes, committed⟩
  obtain ⟨_, _, closed, found, isClosed⟩ := settled.frozen f checked finalized finalizes committed
  obtain ⟨session, foundOpen, isOpen⟩ := isOpen
  rw [found] at foundOpen
  cases foundOpen
  rw [isClosed] at isOpen
  cases isOpen

/-- Every transaction that writes something writes the session document. -/
theorem climbs_sessionTransactions (filled : sessionId ≠ "") (parties : ι → SessionTransaction sessionId) :
    Race.Climbs (fun s : Store => s.findSession sessionId) documentVersion (fun s => Identified s.sessions)
      fun k => (parties k).body := by
  have effects : ∀ k s t, Identified s.sessions → (parties k).body s = some t →
      t = s ∨ documentVersion (s.findSession sessionId) < documentVersion (t.findSession sessionId) ∧
        Identified t.sessions := by
    intro k s t identified made
    cases party : parties k with
    | creation c =>
      rw [party] at made
      obtain rfl | effect := creation_body filled identified made
      · exact .inl rfl
      · exact .inr ⟨effect.climbs, effect.identified⟩
    | finalization env hasFinalizer actor note =>
      rw [party] at made
      have effect := finalization_body identified made
      exact .inr ⟨effect.climbs, effect.identified⟩
  constructor
  · intro k s t identified made
    obtain same | ⟨higher, _⟩ := effects k s t identified made
    · exact .inl same
    · exact .inr higher
  · intro k s t identified made
    obtain rfl | ⟨_, later⟩ := effects k s t identified made
    · exact identified
    · exact later

variable [DecidableEq ι]

theorem Accounted.enter {party : ι} {phase : Phase Store} {before after : Store}
    (accounted : Accounted parties race before after)
    (uncommitted : ∀ checked finalized, race.phase party ≠ .committed checked finalized)
    (nothing : (parties party).finalizes = true → ∀ checked finalized, phase ≠ .committed checked finalized) :
    Accounted parties (race.enter party phase) before after := by
  obtain ⟨new, appended, lines⟩ := accounted
  refine ⟨new, appended, fun line member => ?_⟩
  obtain ⟨judged, stored, seen⟩ := lines line member
  refine ⟨judged, ?_, fun f checked finalized finalizes committed => ?_⟩
  · obtain ⟨f, checked, finalized, finalizes, committed⟩ | present := stored
    · have other : f ≠ party := by
        rintro rfl
        exact uncommitted checked finalized committed
      have kept : (race.enter party phase).phase f = race.phase f := by simp [Race.enter, other]
      exact .inl ⟨f, checked, finalized, finalizes, kept.trans committed⟩
    · exact .inr present
  · obtain ⟨rfl, now⟩ | ⟨_, earlier⟩ := Race.enter_phase committed
    · exact absurd now (nothing finalizes checked finalized)
    · exact seen f checked finalized finalizes earlier

section

variable (settled : RaceSettled parties race) {party : ι}
include settled

/-- A step that stores nothing and commits no finalization. -/
theorem RaceSettled.enter {phase : Phase Store}
    (uncommitted : ∀ checked finalized, race.phase party ≠ .committed checked finalized)
    (nothing : ∀ before after, phase = .committed before after → (parties party).finalizes = false ∧
      after.countLines = before.countLines) :
    RaceSettled parties (race.enter party phase) := by
  have unfinalizing : (parties party).finalizes = true →
      ∀ checked finalized, phase ≠ .committed checked finalized := by
    intro finalizes checked finalized committed
    rw [(nothing checked finalized committed).1] at finalizes
    cases finalizes
  constructor
  · intro f checked finalized finalizes committed
    obtain ⟨rfl, now⟩ | ⟨_, earlier⟩ := Race.enter_phase committed
    · exact absurd now (unfinalizing finalizes checked finalized)
    · exact settled.frozen f checked finalized finalizes earlier
  · intro k before after creates committed
    obtain ⟨rfl, now⟩ | ⟨_, earlier⟩ := Race.enter_phase committed
    · refine ⟨[], ?_, nofun⟩
      rw [(nothing before after now).2, List.append_nil]
    · exact (settled.created k before after creates earlier).enter uncommitted unfinalizing

variable {result : Store}

theorem RaceSettled.creates (creates : (parties party).finalizes = false)
    (effect : AppendEffect sessionId race.store result) :
    RaceSettled parties { race.enter party (.committed race.store result) with store := result } := by
  have unfinalized := settled.unfinalized effect.isOpen
  obtain ⟨line, appended, judged⟩ := effect.appended
  have nobody : ∀ f checked finalized, (parties f).finalizes = true →
      (race.enter party (.committed race.store result)).phase f ≠ .committed checked finalized := by
    intro f checked finalized finalizes committed
    obtain ⟨rfl, _⟩ | ⟨_, earlier⟩ := Race.enter_phase committed
    · rw [creates] at finalizes
      cases finalizes
    · exact unfinalized ⟨f, checked, finalized, finalizes, earlier⟩
  constructor
  · intro f checked finalized finalizes committed
    exact absurd committed (nobody f checked finalized finalizes)
  · intro k before after creation committed
    obtain ⟨rfl, now⟩ | ⟨_, earlier⟩ := Race.enter_phase committed
    · cases now
      refine ⟨[line], appended, fun inserted member => ?_⟩
      cases List.mem_singleton.mp member
      refine ⟨judged, .inr ?_, fun f checked finalized finalizes later => absurd later (nobody f _ _ finalizes)⟩
      simp [appended]
    · obtain ⟨new, earlierAppended, lines⟩ := settled.created k before after creation earlier
      refine ⟨new, earlierAppended, fun old member => ?_⟩
      obtain ⟨oldJudged, stored, _⟩ := lines old member
      refine ⟨oldJudged, .inr ?_, fun f checked finalized finalizes later => absurd later (nobody f _ _ finalizes)⟩
      obtain finalized | present := stored
      · exact absurd finalized unfinalized
      · simp [appended, present]

theorem RaceSettled.finalizes (finalizes : (parties party).finalizes = true)
    (effect : FinalizationEffect sessionId race.store result) :
    RaceSettled parties { race.enter party (.committed race.store result) with store := result } := by
  have unfinalized := settled.unfinalized effect.isOpen
  have own : (race.enter party (.committed race.store result)).phase party = .committed race.store result := by
    simp [Race.enter]
  -- the finalization that commits is the only one
  have sole : ∀ f checked finalized, (parties f).finalizes = true →
      (race.enter party (.committed race.store result)).phase f = .committed checked finalized →
      checked = race.store ∧ finalized = result := by
    intro f checked finalized other committed
    obtain ⟨rfl, now⟩ | ⟨_, earlier⟩ := Race.enter_phase committed
    · cases now
      exact ⟨rfl, rfl⟩
    · exact absurd ⟨f, checked, finalized, other, earlier⟩ unfinalized
  constructor
  · intro f checked finalized other committed
    obtain ⟨rfl, rfl⟩ := sole f checked finalized other committed
    exact ⟨rfl, effect.ready, effect.isClosed⟩
  · intro k before after creation committed
    obtain ⟨rfl, _⟩ | ⟨_, earlier⟩ := Race.enter_phase committed
    · rw [finalizes] at creation
      cases creation
    · obtain ⟨new, appended, lines⟩ := settled.created k before after creation earlier
      refine ⟨new, appended, fun line member => ?_⟩
      obtain ⟨judged, stored, _⟩ := lines line member
      have present : line ∈ race.store.countLines := by
        obtain finalized | present := stored
        · exact absurd finalized unfinalized
        · exact present
      refine ⟨judged, .inl ⟨party, race.store, result, finalizes, own⟩, ?_⟩
      intro f checked finalized other later
      obtain ⟨rfl, _⟩ := sole f checked finalized other later
      exact present

end

theorem RaceSettled.step {before after : Race Store ι} (filled : sessionId ≠ "")
    (ordered : Race.Ordered (fun s : Store => s.findSession sessionId) documentVersion (fun s => Identified s.sessions)
      before) (settled : RaceSettled parties before)
    (serial : Race.SerialStep (fun k => (parties k).body) before after) : RaceSettled parties after := by
  cases serial with
  | begin waits =>
    exact settled.enter (fun _ _ committed => by rw [waits] at committed; cases committed) nofun
  | abort runs =>
    exact settled.enter (fun _ _ committed => by rw [runs] at committed; cases committed) nofun
  | @idle party snapshot runs result =>
    refine settled.enter (fun _ _ committed => by rw [runs] at committed; cases committed) fun first last now => ?_
    cases now
    refine ⟨?_, rfl⟩
    cases kind : parties party with
    | creation c => rfl
    | finalization env hasFinalizer actor note =>
      rw [kind] at result
      have climbs := (finalization_body (ordered.running party snapshot runs).1 result).climbs
      omega
  | @commit party result runs made =>
    cases kind : parties party with
    | creation c =>
      have creates : (parties party).finalizes = false := by rw [kind]; rfl
      rw [kind] at made
      obtain rfl | effect := creation_body filled ordered.stored made
      · refine settled.enter (fun _ _ committed => by rw [runs] at committed; cases committed) fun first last now => ?_
        cases now
        exact ⟨creates, rfl⟩
      · exact settled.creates creates effect
    | finalization env hasFinalizer actor note =>
      have finalizes : (parties party).finalizes = true := by rw [kind]; rfl
      rw [kind] at made
      exact settled.finalizes finalizes (finalization_body ordered.stored made)

/-- In every state of a race of creations and finalizations of one session, the lines are those a
finalization that has committed left, and every line a creation has committed was among those it had
checked and blocks nothing. -/
theorem no_late_count (filled : sessionId ≠ "") {commit : CommitRule Store}
    (isolated : SnapshotIsolated (fun s : Store => s.findSession sessionId) commit) {start : Store}
    (identified : Identified start.sessions) {race : Race Store ι}
    (run : Reaches (Race.step commit fun k => (parties k).body) (fun _ _ => True) { store := start } race) {f : ι}
    (finalizes : (parties f).finalizes = true) {checked finalized : Store}
    (committed : race.phase f = .committed checked finalized) :
    race.store.countLines = finalized.countLines ∧
      ∀ k before after, (parties k).finalizes = false → race.phase k = .committed before after →
        ∃ new, after.countLines = before.countLines ++ new ∧
          ∀ line ∈ new, line ∈ checked.sessionLines sessionId ∧ blocksFinalization sessionId line = false := by
  have settled : RaceSettled parties race := by
    have init : RaceSettled parties { store := start } := by
      constructor
      · intro f checked finalized _ phase
        cases phase
      · intro k before after _ phase
        cases phase
    apply Race.serial_invariant isolated (climbs_sessionTransactions filled parties) identified run init
    intro before after ordered settled serial
    exact settled.step filled ordered serial
  obtain ⟨frozen, ready, _⟩ := settled.frozen f checked finalized finalizes committed
  refine ⟨frozen, fun k before after creates done => ?_⟩
  obtain ⟨new, appended, lines⟩ := settled.created k before after creates done
  refine ⟨new, appended, fun line member => ?_⟩
  obtain ⟨judged, _, seen⟩ := lines line member
  have present := seen f checked finalized finalizes committed
  refine ⟨List.mem_filter.mpr ⟨present, judged.within⟩, judged.passes (uncounted_of_ready ready present)⟩

end

/-- The session of `countingStore` in review. -/
def reviewingStore : Store :=
  { countingStore with sessions := countingStore.sessions.map fun session => session.set "status" (.str "REVIEW") }

def exactRecord : SyncRecord := { surplusRecord with verifiedQty := 10 }

/-- The sync of a count, checked while the session was active, and the finalization. -/
def syncAndFinalize : Bool → SessionTransaction "S1"
  | false => .creation (.sync sampleEnv countingStore counter (countingStore.sessions.headD Doc.empty) exactRecord rfl
      "F1" "R1" "W1" 0 0)
  | true => .finalization sampleEnv true "meera" none

theorem no_late_count_synced :
    ∃ (race : Race Store Bool) (checked finalized : Store),
      Reaches (Race.step strictCommit fun k => (syncAndFinalize k).body) (fun _ _ => True) { store := reviewingStore }
        race ∧ race.phase true = .committed checked finalized ∧ race.store.countLines = finalized.countLines ∧
      ∀ k before after, (syncAndFinalize k).finalizes = false → race.phase k = .committed before after →
        ∃ new, after.countLines = before.countLines ++ new ∧
          ∀ line ∈ new, line ∈ checked.sessionLines "S1" ∧ blocksFinalization "S1" line = false := by
  have isolated := strictCommit_isolated fun s : Store => s.findSession "S1"
  have both : ((((syncAndFinalize false).body reviewingStore).bind (syncAndFinalize true).body).isSome) = true := by
    decide +kernel
  obtain ⟨finalized, ends⟩ := Option.isSome_iff_exists.mp both
  obtain ⟨counted, synced, finalizes⟩ := Option.bind_eq_some_iff.mp ends
  obtain ⟨race, run, committed⟩ := @Race.runs_both Store (Option Doc) Bool _ strictCommit
    (fun k => (syncAndFinalize k).body) _ isolated reviewingStore counted finalized false true (by decide) synced
    finalizes
  have identified : Identified reviewingStore.sessions := by
    intro name
    exact List.pairwise_singleton _ _
  obtain ⟨frozen, seen⟩ := no_late_count (by decide) isolated identified run rfl committed
  exact ⟨race, _, _, run, committed, frozen, seen⟩

end StockVerification
