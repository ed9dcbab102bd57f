import StockVerification.Finalization
import StockVerification.Foundation.Run

/-!
# Finalized sessions over whole runs

Every operation of the lifecycle service is a step, and so is anything the
count-line services do to the lines of sessions that are not finalized. The
invariant is `FrozenComplete`; `MeetsGate` says which steps keep it. Requests
that fail part-way are steps too: on a standalone deployment their first writes
stay.
-/
namespace StockVerification

open Foundation Foundation.Action

/-- Every live line of the session is locked. -/
def AllLocked (s : Store) (sessionId : String) : Prop :=
  ∀ line ∈ s.sessionLines sessionId, isSupersededCountLine line = false → isCountLineLocked line = true

def hasFinalizedStatus (session : Doc) : Prop :=
  normalizeSessionStatus (session.get "status") = "FINALIZED"

instance (session : Doc) : Decidable (hasFinalizedStatus session) :=
  inferInstanceAs (Decidable (_ = _))

/-- A finalized session is frozen and complete. -/
def FrozenComplete (s : Store) : Prop :=
  ∀ session ∈ s.sessions, hasFinalizedStatus session →
    ∀ sessionId, session.get "session_id" = .str sessionId →
      ∀ line ∈ s.sessionLines sessionId, isSupersededCountLine line = false →
        isCountLineLocked line = true ∧ isBlockingFinalization line = false

inductive LifecycleOp where
  | create (sessionDoc : Doc) (username : String)
  | transition (sessionId targetStatus actor : String) (note : Option String)
      (expectedVersion : Option Int)
  | finalize (hasFinalizer : Bool) (sessionId actor : String) (note : Option String)
  | totals (sessionId : String) (figures : SessionTotals) (stamped : Bool)
      (expectedVersion : Option Int) (syncProjection : Bool)
  | fields (sessionId : String) (entries : List (String × Value)) (expectedVersion : Option Int)
  | ownership (sessionId : String) (entries : List (String × Value))
      (event : List (String × Atom))
  | snapshot (sessionId : String) (document : Doc)
  | createRecount (recountDoc : Doc)
  | transitionRecount (recountId targetStatus : String) (entries : List (String × Value))
  /-- The count-line services leave these lines behind. -/
  | countLineWrites (lines : List Doc)

/-- The store after one step, successful or not. -/
def LifecycleOp.step (s : Store) (op : Env × LifecycleOp) : Store :=
  let env := op.1
  match op.2 with
  | .create sessionDoc username => (createSession env sessionDoc username).final s
  | .transition sessionId target actor note expected =>
      (transitionSession env sessionId target actor note expected).final s
  | .finalize hasFinalizer sessionId actor note =>
      (finalizeSessionCanonical env hasFinalizer sessionId actor note).final s
  | .totals sessionId figures stamped expected sync =>
      (updateSessionTotals env sessionId figures stamped expected sync).final s
  | .fields sessionId entries expected =>
      (updateSessionFields env sessionId entries expected).final s
  | .ownership sessionId entries event => (applyOwnershipTransition sessionId entries event).final s
  | .snapshot sessionId document => (recordSessionSnapshot env sessionId document).final s
  | .createRecount recountDoc => (createRecountRequest env recountDoc).final s
  | .transitionRecount recountId target entries =>
      (transitionRecountRequest env recountId target entries).final s
  | .countLineWrites lines => s.withLines lines

/-- Whoever the id addresses carries it as its `session_id`. -/
def AddressedBySessionId (s : Store) (sessionId : String) : Prop :=
  ∀ session ∈ s.sessions, (sessionLookup sessionId).holds session = true → session.get "session_id" = .str sessionId

/-- A field that holds a text or nothing. -/
def isTextOrNull (v : Value) : Bool :=
  match v with
  | .str _ => true
  | .null => true
  | _ => false

/-- Finalization can see what it has to lock: statuses are texts, and every live
line after the first 50000 is locked already or selected by the bulk lock. -/
structure FinalizationCovers (s : Store) (sessionId : String) : Prop where
  texts : ∀ line ∈ s.sessionLines sessionId,
    isTextOrNull (line.get "status") = true ∧ isTextOrNull (line.get "approval_status") = true
  unseen : ∀ line ∈ (s.sessionLines sessionId).drop 50000, isSupersededCountLine line = false →
    isCountLineLocked line = true ∨ isTouched s sessionId line = true

/-- The fields move no session to a finalized status and keep its `session_id`. -/
def KeepsStatus (fields : Doc) : Prop :=
  (∀ v, fields "status" = some v → normalizeSessionStatus v ≠ "FINALIZED") ∧ fields "session_id" = none

/-- Which steps keep finalized sessions frozen and complete. -/
def MeetsGate (s : Store) (op : Env × LifecycleOp) : Prop :=
  match op.2 with
  | .transition sessionId target _ _ _ =>
      normalizeSessionStatus (.str target) = "FINALIZED" → AddressedBySessionId s sessionId ∧ AllLocked s sessionId
  | .finalize _ sessionId _ _ => AddressedBySessionId s sessionId ∧ FinalizationCovers s sessionId
  | .fields _ fields _ => KeepsStatus (Doc.ofList fields)
  | .ownership _ fields _ => KeepsStatus (Doc.ofList fields)
  | .countLineWrites lines =>
      ∀ session ∈ s.sessions, hasFinalizedStatus session →
        ∀ sessionId, session.get "session_id" = .str sessionId →
          ∀ line ∈ lines, inSession sessionId line = true → line ∈ s.countLines
  | _ => True

variable {line : Doc}

theorem not_blocking_of_locked (locked : isCountLineLocked line = true) :
    isBlockingFinalization line = false := by
  simp [isBlockingFinalization, locked]

variable {s : Store}

theorem FrozenComplete.congr {t : Store} (inv : FrozenComplete s) (sessions : t.sessions = s.sessions)
    (lines : t.countLines = s.countLines) : FrozenComplete t := by
  intro session member finalized sessionId carries line lineMember
  rw [Store.sessionLines, lines] at lineMember
  exact inv session (sessions ▸ member) finalized sessionId carries line lineMember

theorem FrozenComplete.replaceSession (inv : FrozenComplete s) {p : Doc → Bool} {new : Doc}
    (complete : hasFinalizedStatus new → ∀ sessionId, new.get "session_id" = .str sessionId → AllLocked s sessionId) :
    FrozenComplete { s with sessions := Collection.replaceFirst p new s.sessions } := by
  intro session member finalized sessionId carries line lineMember live
  obtain old | rfl := Collection.mem_replaceFirst member
  · exact inv session old finalized sessionId carries line lineMember live
  · have locked := complete finalized sessionId carries line lineMember live
    exact ⟨locked, not_blocking_of_locked locked⟩

/-- An update that keeps `session_id` and, if it finalizes, finds every live line
locked. -/
theorem FrozenComplete.updateSession (inv : FrozenComplete s) {f : Filter} {u : Update} {answer : Option (Doc × Doc)}
    {sessions : List Doc} (noInc : ∀ entry ∈ u.inc, entry.1 ≠ "status" ∧ entry.1 ≠ "session_id")
    (noPush : ∀ entry ∈ u.push, entry.1 ≠ "status" ∧ entry.1 ≠ "session_id") (keepsId : u.set "session_id" = none)
    (finalizes : ∀ v, u.set "status" = some v → normalizeSessionStatus v = "FINALIZED" → ∀ old ∈ s.sessions, f.holds old
      = true → ∀ sessionId, old.get "session_id" = .str sessionId → AllLocked s sessionId)
    (success : Collection.updateOne sessionIndexes f u s.sessions = .ok (answer, sessions)) :
    FrozenComplete { s with sessions := sessions } := by
  obtain ⟨_, _, rfl⟩ | ⟨old, new, found, applied, _, _, rfl⟩ := Collection.updateOne_ok success
  · exact inv
  · have oldMember := List.mem_of_find?_eq_some found
    have idEq : new "session_id" = old "session_id" := by
      rw [Update.apply_field applied (fun e m => (noInc e m).2) fun e m => (noPush e m).2, keepsId]
      rfl
    have statusEq : new "status" = (u.set "status").or (old "status") :=
      Update.apply_field applied (fun e m => (noInc e m).1) fun e m => (noPush e m).1
    refine inv.replaceSession ?_
    intro finalized sessionId carries
    rw [Doc.get_congr idEq] at carries
    cases status : u.set "status" with
    | some v =>
      have value : new.get "status" = v := by simp [Doc.get_eq, statusEq, status]
      rw [hasFinalizedStatus, value] at finalized
      exact finalizes v status finalized old oldMember (List.find?_some found) sessionId carries
    | none =>
      have same : new.get "status" = old.get "status" := by
        simp [Doc.get_eq, statusEq, status]
      rw [hasFinalizedStatus, same] at finalized
      intro line lineMember live
      exact (inv old oldMember finalized sessionId carries line lineMember live).1

variable {sessionId : String}

theorem FrozenComplete.updateSessionWithOcc {t : Store} (inv : FrozenComplete s) {fields : Doc}
    {expected : Int} (keepsId : fields "session_id" = none)
    (finalizes : ∀ v, fields "status" = some v → normalizeSessionStatus v = "FINALIZED" → AddressedBySessionId s
      sessionId ∧ AllLocked s sessionId)
    (success : updateSessionWithOcc sessionId fields expected s = .ok t) : FrozenComplete t := by
  simp only [StockVerification.updateSessionWithOcc, bind_success, liftFault_ok, pure_success] at success
  obtain ⟨⟨answer, sessions⟩, updated, _, _, rfl⟩ := success
  refine inv.updateSession (by simp) (by simp) keepsId ?_ updated
  intro v status finalized old oldMember matched other carries
  obtain ⟨addressed, locked⟩ := finalizes v status finalized
  have lookup : (sessionLookup sessionId).holds old = true := by
    simp only [Filter.holds, Bool.and_eq_true] at matched
    exact matched.1
  have same := addressed old oldMember lookup
  rw [carries] at same
  cases same
  exact locked

theorem FrozenComplete.syncForSessions (inv : FrozenComplete s) (env : Env) (ids : List String) :
    FrozenComplete (syncForSessions env ids s) :=
  inv.congr (syncForSessions_sessions env ids s) (syncForSessions_countLines env ids s)

theorem FrozenComplete.addSession (inv : FrozenComplete s) {new : Doc} (status : new "status" = some (.str "CREATED")) :
    FrozenComplete { s with sessions := s.sessions ++ [new] } := by
  intro session member finalized
  simp only [List.mem_append, List.mem_singleton] at member
  obtain old | rfl := member
  · exact inv session old finalized
  · rw [hasFinalizedStatus, Doc.get_of_some status] at finalized
    exact absurd finalized (by decide)

theorem final_sync_bind {P : Store → Prop} {α : Type} {env : Env} {next : Unit → Request α}
    (stop : P s) (go : P ((next ()).final (syncForSessions env [sessionId] s))) :
    P ((syncSessionProjection env sessionId >>= next).final s) := by
  refine final_writes_bind stop fun t synced => ?_
  rw [← Except.ok.inj synced]
  exact go

theorem final_sync {P : Store → Prop} {env : Env} (go : P (syncForSessions env [sessionId] s)) :
    P ((syncSessionProjection env sessionId).final s) := by
  have ran : syncSessionProjection env sessionId s = .ok () (syncForSessions env [sessionId] s) := writes_ok.mpr rfl
  rw [final_of_ok ran]
  exact go

theorem createdSession_status (env : Env) (sessionDoc : Doc) :
    withObjectId env (createdSession env sessionDoc) "status" = some (.str "CREATED") := by
  simp only [withObjectId, createdSession]
  repeat rw [Doc.setDefault_other _ _ (by decide)]
  exact Doc.set_same _ _ _

theorem createSession_frozen (inv : FrozenComplete s) (env : Env) (sessionDoc : Doc)
    (username : String) : FrozenComplete ((createSession env sessionDoc username).final s) := by
  have status := createdSession_status env sessionDoc
  simp only [createSession]
  refine UnitOfWork.final_runCommitted inv ?_
  refine final_reads_bind inv fun _ _ => ?_
  refine final_reads_bind inv fun _ _ => ?_
  refine final_writes_bind inv fun t inserted => ?_
  have added : FrozenComplete t := by
    simp only [bind_success, liftFault_ok, pure_success] at inserted
    obtain ⟨sessions, inserted, rfl⟩ := inserted
    obtain ⟨_, rfl⟩ := Collection.insertOne_ok inserted
    exact inv.addSession status
  refine final_writes_bind added fun u mirrored => ?_
  have kept : FrozenComplete u := by
    simp only [bind_success, pure_success] at mirrored
    obtain ⟨_, _, rfl⟩ := mirrored
    exact added.congr rfl rfl
  refine final_sync_bind kept ?_
  rw [final_pure]
  exact kept.syncForSessions env _

theorem normalizeSessionStatus_of_validTransition {current target : String}
    (valid : assertValidTransition current target = .ok ()) : normalizeSessionStatus (.str target) = target := by
  simp only [assertValidTransition, require_ok, isValidTransition, Bool.or_eq_true,
    Bool.and_eq_true, beq_iff_eq] at valid
  obtain (⟨_, rfl⟩ | ⟨_, rfl⟩) | ⟨_, rfl⟩ := valid <;> decide

theorem transitionFields_status (env : Env) (target actor : String) (note : Option String) :
    Doc.ofList (transitionFields env target actor note) "status" = some (.str target) := by
  simp [transitionFields]

theorem transitionFields_sessionId (env : Env) (target actor : String) (note : Option String) :
    Doc.ofList (transitionFields env target actor note) "session_id" = none := by
  unfold transitionFields
  split <;> split <;> split <;> (try split) <;> simp

section

variable (inv : FrozenComplete s)
include inv

theorem transitionSession_frozen (env : Env) (sessionId targetStatus actor : String)
    (note : Option String) (expected : Option Int)
    (gate : normalizeSessionStatus (.str targetStatus) = "FINALIZED" → AddressedBySessionId s sessionId ∧
      AllLocked s sessionId) :
    FrozenComplete ((transitionSession env sessionId targetStatus actor note expected).final s) := by
  refine UnitOfWork.final_runCommitted inv ?_
  refine final_reads_bind inv fun session _ => ?_
  refine final_reads_bind inv fun _ valid => ?_
  iterate 3 refine final_reads_bind inv fun _ _ => ?_
  refine final_writes_bind inv fun t updated => ?_
  have moved : FrozenComplete t := by
    refine inv.updateSessionWithOcc (transitionFields_sessionId env _ actor note) ?_ updated
    intro v status finalized
    rw [transitionFields_status, Option.some.injEq] at status
    subst status
    rw [normalizeSessionStatus_of_validTransition valid] at finalized
    exact gate finalized
  refine final_writes_bind moved fun u mirrored => ?_
  have kept := moved.congr (updateMirror_ok mirrored).2 (updateMirror_ok mirrored).1
  exact final_sync_bind kept (final_reads (kept.syncForSessions env _))

theorem updateSessionTotals_frozen (env : Env) (sessionId : String) (totals : SessionTotals)
    (stamped : Bool) (expected : Option Int) (sync : Bool) :
    FrozenComplete ((updateSessionTotals env sessionId totals stamped expected sync).final s) := by
  refine final_reads_bind inv fun session _ => ?_
  refine final_writes_bind inv fun t updated => ?_
  have moved : FrozenComplete t := by
    refine inv.updateSessionWithOcc ?_ ?_ updated
    · cases stamped <;> simp [SessionTotals.toFields]
    · intro v status
      cases stamped <;> simp [SessionTotals.toFields] at status
  cases sync with
  | false => exact moved
  | true => exact final_sync (moved.syncForSessions env _)

theorem updateSessionFields_frozen (env : Env) (sessionId : String) (entries : List (String × Value))
    (expected : Option Int) (keeps : KeepsStatus (Doc.ofList entries)) :
    FrozenComplete ((updateSessionFields env sessionId entries expected).final s) := by
  unfold updateSessionFields
  split
  · exact inv
  · refine final_reads_bind inv fun session _ => ?_
    refine final_writes_bind inv fun t updated => ?_
    have moved : FrozenComplete t := by
      refine inv.updateSessionWithOcc keeps.2 ?_ updated
      intro v status finalized
      exact absurd finalized (keeps.1 v status)
    exact final_sync (moved.syncForSessions env _)

theorem applyOwnershipTransition_frozen (sessionId : String) (entries : List (String × Value))
    (event : List (String × Atom)) (keeps : KeepsStatus (Doc.ofList entries)) :
    FrozenComplete ((applyOwnershipTransition sessionId entries event).final s) := by
  refine final_reads_bind inv fun _ _ => ?_
  refine final_writes inv fun t updated => ?_
  simp only [bind_success, liftFault_ok, pure_success] at updated
  obtain ⟨⟨answer, sessions⟩, updated, rfl⟩ := updated
  refine inv.updateSession (by simp) ?_ keeps.2 ?_ updated
  · intro entry member
    split at member
    · simp at member
    · simp only [List.mem_singleton] at member
      subst member
      exact ⟨by simp, by simp⟩
  · intro v status finalized
    exact absurd finalized (keeps.1 v status)

theorem recordSessionSnapshot_frozen (env : Env) (sessionId : String) (snapshot : Doc) :
    FrozenComplete ((recordSessionSnapshot env sessionId snapshot).final s) := by
  refine final_reads_bind inv fun _ _ => ?_
  refine final_reads_bind inv fun _ _ => ?_
  refine final_writes inv fun t recorded => ?_
  cases recorded
  exact inv.congr rfl rfl

theorem createRecountRequest_frozen (env : Env) (recountDoc : Doc) :
    FrozenComplete ((createRecountRequest env recountDoc).final s) := by
  refine UnitOfWork.final_runCommitted inv ?_
  refine final_reads_bind inv fun _ _ => ?_
  refine final_writes_bind inv fun t inserted => ?_
  simp only [bind_success, pure_success] at inserted
  obtain ⟨_, _, rfl⟩ := inserted
  exact inv.congr rfl rfl

theorem transitionRecountRequest_frozen (env : Env) (recountId targetStatus : String)
    (entries : List (String × Value)) :
    FrozenComplete ((transitionRecountRequest env recountId targetStatus entries).final s) := by
  refine UnitOfWork.final_runCommitted inv ?_
  refine final_reads_bind inv fun recount _ => ?_
  refine final_reads_bind inv fun _ _ => ?_
  refine final_reads_bind inv fun _ _ => ?_
  refine final_writes_bind inv fun t updated => ?_
  simp only [bind_success, pure_success] at updated
  obtain ⟨_, _, rfl⟩ := updated
  exact final_reads (inv.congr rfl rfl)

end

theorem fieldIs_of_textOrNull {d : Doc} {field text : String} (plain : isTextOrNull (d.get field) = true) :
    Filter.fieldIs d field (.str text) = true ↔ d.get field = .str text := by
  rw [Doc.get_eq] at plain ⊢
  unfold Filter.fieldIs
  cases stored : d field with
  | none => simp
  | some v =>
    rw [stored, Option.getD_some] at plain
    cases v <;> simp_all [isTextOrNull]

theorem textOrEmpty_of_textOrNull {v : Value} {text : String} (plain : isTextOrNull v = true)
    (nonempty : text ≠ "") : v.textOrEmpty = text ↔ v = .str text := by
  cases v with
  | str s =>
    by_cases blank : s = ""
    · simp [Value.textOrEmpty, blank, Ne.symm nonempty]
    · simp [Value.textOrEmpty, Value.text, blank]
  | null => simp [Value.textOrEmpty, Ne.symm nonempty]
  | _ => simp [isTextOrNull] at plain

/-- A live line that neither is locked nor blocks finalization is selected by the
bulk lock and by the test that decides whether to call it. -/
theorem selected_of_unblocked (member : inSession sessionId line = true)
    (status : isTextOrNull (line.get "status") = true) (approval : isTextOrNull (line.get "approval_status") = true)
    (live : isSupersededCountLine line = false) (unlocked : isCountLineLocked line = false)
    (unblocked : isBlockingFinalization line = false) :
    (finalizeFilter sessionId).holds line = true ∧ isLineToFinalize line = true := by
  have notLocked : line.get "status" ≠ .str "locked" := by
    intro eq
    rw [isCountLineLocked, eq] at unlocked
    simp [show normalizeCountLineStatus (.str "locked") = "locked" by decide] at unlocked
  have notUpper : line.get "status" ≠ .str "SUPERSEDED" := by
    intro eq
    rw [isSupersededCountLine, eq] at live
    simp [show normalizeCountLineStatus (.str "SUPERSEDED") = "superseded" by decide] at live
  have notLower : line.get "status" ≠ .str "superseded" := by
    intro eq
    rw [isSupersededCountLine, eq] at live
    simp [show normalizeCountLineStatus (.str "superseded") = "superseded" by decide] at live
  have unblockedApproval : isBlockingApproval line = false := by
    simp only [isBlockingFinalization, live, unlocked, Bool.false_eq_true, if_false] at unblocked
    split at unblocked
    · cases unblocked
    · split at unblocked
      · cases unblocked
      · split at unblocked
        · cases unblocked
        · next free => simpa using free
  have notRejected : line.get "approval_status" ≠ .str "REJECTED" := by
    intro eq
    rw [isBlockingApproval, eq] at unblockedApproval
    exact absurd unblockedApproval (by decide)
  have notReview : line.get "approval_status" ≠ .str "NEEDS_REVIEW" := by
    intro eq
    rw [isBlockingApproval, eq] at unblockedApproval
    exact absurd unblockedApproval (by decide)
  refine ⟨?_, ?_⟩
  · have inThis : Filter.fieldIs line "session_id" (.str sessionId) = true := member
    simp [finalizeFilter, Filter.all, Filter.holds, inThis, Bool.eq_false_iff, fieldIs_of_textOrNull status,
      fieldIs_of_textOrNull approval, notLocked, notUpper, notLower, notRejected, notReview]
  · simp [isLineToFinalize, textOrEmpty_of_textOrNull status, textOrEmpty_of_textOrNull approval,
      notLocked, notUpper, notLower, notRejected, notReview]

/-- Where no fetched line blocks, every live line is locked or gets locked. -/
theorem FinalizationCovers.lockedOrTouched (covers : FinalizationCovers s sessionId)
    (unblocked : (fetchedLines s sessionId).any isBlockingFinalization = false) :
    ∀ line ∈ s.sessionLines sessionId, isSupersededCountLine line = false →
      isCountLineLocked line = true ∨ isTouched s sessionId line = true := by
  intro line member live
  have split := member
  rw [← List.take_append_drop 50000 (s.sessionLines sessionId), List.mem_append] at split
  obtain fetched | unseen := split
  · by_cases locked : isCountLineLocked line = true
    · exact .inl locked
    · have free : isBlockingFinalization line = false := by
        simp only [List.any_eq_false] at unblocked
        simpa using unblocked line fetched
      obtain ⟨status, approval⟩ := covers.texts line member
      obtain ⟨selected, toFinalize⟩ := selected_of_unblocked (List.mem_filter.mp member).2
        status approval live (by simpa using locked) free
      have called : isBulkLockCalled s sessionId = true :=
        List.any_eq_true.mpr ⟨line, fetched, toFinalize⟩
      exact .inr (by simp [isTouched, called, selected])
  · exact covers.unseen line unseen live

theorem mem_finalizeSessionCountLines {actor : String} {now : Int} {note : Option String}
    (member : line ∈ (finalizeSessionCountLines sessionId actor now note s).countLines) :
    ∃ old ∈ s.countLines, line "session_id" = old "session_id" ∧
      ((line = old ∧ (finalizeFilter sessionId).holds old = false) ∨ isCountLineLocked line = true) := by
  simp only [finalizeSessionCountLines, Store.withLines, Collection.setMany, List.mem_map] at member
  obtain ⟨old, oldMember, rfl⟩ := member
  refine ⟨old, oldMember, ?_⟩
  split
  · refine ⟨?_, .inr (isSettled_locked actor now note old).1⟩
    unfold lockedLineFields
    split <;> (try split) <;> simp
  · next skipped => exact ⟨rfl, .inl ⟨rfl, by simpa using skipped⟩⟩

theorem FrozenComplete.finalizeSessionCountLines (inv : FrozenComplete s) (sessionId actor : String) (now : Int)
    (note : Option String) : FrozenComplete (finalizeSessionCountLines sessionId actor now note s) := by
  intro session member finalized id carries line lineMember live
  obtain ⟨lineStored, belongs⟩ := List.mem_filter.mp lineMember
  obtain ⟨old, oldMember, same, ⟨rfl, _⟩ | locked⟩ := mem_finalizeSessionCountLines lineStored
  · exact inv session member finalized id carries line (List.mem_filter.mpr ⟨oldMember, belongs⟩)
      live
  · exact ⟨locked, not_blocking_of_locked locked⟩

/-- After the lock step of a finalization that sees everything, all is locked. -/
theorem allLocked_after_lock {locked : Store} (actor : String) (now : Int) (note : Option String)
    (covers : FinalizationCovers s sessionId)
    (unblocked : (fetchedLines s sessionId).any isBlockingFinalization = false)
    (lockedEq : locked = if isBulkLockCalled s sessionId then finalizeSessionCountLines sessionId actor now note s else
      s) :
    AllLocked locked sessionId := by
  intro line member live
  obtain ⟨stored, belongs⟩ := List.mem_filter.mp member
  cases called : isBulkLockCalled s sessionId with
  | false =>
    rw [called] at lockedEq
    simp only [Bool.false_eq_true, if_false] at lockedEq
    subst lockedEq
    obtain done | touched := covers.lockedOrTouched unblocked line member live
    · exact done
    · simp [isTouched, called] at touched
  | true =>
    rw [called, if_pos rfl] at lockedEq
    subst lockedEq
    obtain ⟨old, oldMember, same, ⟨rfl, skipped⟩ | done⟩ := mem_finalizeSessionCountLines stored
    · have oldIn : line ∈ s.sessionLines sessionId := List.mem_filter.mpr ⟨oldMember, belongs⟩
      obtain done | touched := covers.lockedOrTouched unblocked line oldIn live
      · exact done
      · simp [isTouched, skipped] at touched
    · exact done

theorem finalizedSessionFields_sessionId (env : Env) (actor : String) (note : Option String) (totals : SessionTotals) :
    Doc.ofList (finalizedSessionFields env actor note totals) "session_id" = none := by
  unfold finalizedSessionFields
  split <;> (try split) <;> simp [SessionTotals.toFields]

theorem finalizeSessionCanonical_frozen (inv : FrozenComplete s) (env : Env) (hasFinalizer : Bool)
    (sessionId actor : String) (note : Option String) (addressed : AddressedBySessionId s sessionId)
    (covers : FinalizationCovers s sessionId) :
    FrozenComplete ((finalizeSessionCanonical env hasFinalizer sessionId actor note).final s) := by
  refine UnitOfWork.final_runCommitted inv ?_
  refine final_reads_bind inv fun session _ => ?_
  simp only [prepareFinalization, bind_assoc]
  iterate 3 refine final_reads_bind inv fun _ _ => ?_
  refine final_reads_bind inv fun _ unblocked => ?_
  refine final_reads_bind inv fun called calledEq => ?_
  refine final_reads_bind inv fun _ _ => ?_
  refine final_writes_bind inv fun locked lockedEq => ?_
  have calledIs : isBulkLockCalled s sessionId = called := Except.ok.inj calledEq
  have lockedIs := (Except.ok.inj lockedEq).symm
  have allLocked : AllLocked locked sessionId := by
    refine allLocked_after_lock actor env.now note covers ?_ ?_
    · simpa using unblocked
    · rw [calledIs]
      exact lockedIs
  have frozen : FrozenComplete locked := by
    rw [lockedIs]
    split
    · exact inv.finalizeSessionCountLines sessionId actor env.now note
    · exact inv
  have stillAddressed : AddressedBySessionId locked sessionId := by
    intro other member
    refine addressed other ?_
    rw [lockedIs] at member
    split at member <;> exact member
  refine final_reads_bind frozen fun totals _ => ?_
  refine final_writes_bind frozen fun t updated => ?_
  have moved : FrozenComplete t :=
    frozen.updateSessionWithOcc (finalizedSessionFields_sessionId env actor note totals)
      (fun _ _ _ => ⟨stillAddressed, allLocked⟩) updated
  refine final_writes_bind moved fun u mirrored => ?_
  have kept := moved.congr (updateMirror_ok mirrored).2 (updateMirror_ok mirrored).1
  refine final_sync_bind kept ?_
  refine final_reads_bind (kept.syncForSessions env _) fun _ _ => ?_
  rw [final_pure]
  exact kept.syncForSessions env _

/-- One step of the lifecycle service, or of the count-line services between two
of its steps, keeps finalized sessions frozen and complete. -/
theorem frozenComplete_step (op : Env × LifecycleOp) (inv : FrozenComplete s)
    (gate : MeetsGate s op) : FrozenComplete (LifecycleOp.step s op) := by
  obtain ⟨env, op⟩ := op
  cases op with
  | create sessionDoc username => exact createSession_frozen inv env sessionDoc username
  | transition sessionId target actor note expected =>
    exact transitionSession_frozen inv env sessionId target actor note expected gate
  | finalize hasFinalizer sessionId actor note =>
    exact finalizeSessionCanonical_frozen inv env hasFinalizer sessionId actor note gate.1 gate.2
  | totals sessionId figures stamped expected sync =>
    exact updateSessionTotals_frozen inv env sessionId figures stamped expected sync
  | fields sessionId entries expected =>
    exact updateSessionFields_frozen inv env sessionId entries expected gate
  | ownership sessionId entries event =>
    exact applyOwnershipTransition_frozen inv sessionId entries event gate
  | snapshot sessionId document => exact recordSessionSnapshot_frozen inv env sessionId document
  | createRecount recountDoc => exact createRecountRequest_frozen inv env recountDoc
  | transitionRecount recountId target entries =>
    exact transitionRecountRequest_frozen inv env recountId target entries
  | countLineWrites lines =>
    intro session member finalized sessionId carries line lineMember live
    obtain ⟨stored, belongs⟩ := List.mem_filter.mp lineMember
    have old := gate session member finalized sessionId carries line stored belongs
    exact inv session member finalized sessionId carries line (List.mem_filter.mpr ⟨old, belongs⟩) live

/-- On every run whose steps meet the gate, in every store reached, every session
whose status normalises to FINALIZED has all its live lines locked and none of
them blocking. -/
theorem frozenComplete_of_run {first last : Store} (init : FrozenComplete first)
    (run : Reaches LifecycleOp.step MeetsGate first last) : FrozenComplete last :=
  run.invariant init fun _ op inv gate => frozenComplete_step op inv gate

/-- A run that finalizes a session with one approved line. -/
theorem frozenComplete_after_finalize :
    ∃ last, Reaches LifecycleOp.step MeetsGate (reviewStore approvedLine) last ∧
      (∃ session ∈ last.sessions, hasFinalizedStatus session) ∧ FrozenComplete last := by
  have init : FrozenComplete (reviewStore approvedLine) := by
    intro session member finalized
    simp only [reviewStore, List.mem_singleton] at member
    subst member
    exact absurd finalized (by decide)
  have addressed : AddressedBySessionId (reviewStore approvedLine) "S1" := by
    intro session member _
    simp only [reviewStore, List.mem_singleton] at member
    subst member
    rfl
  have lines : (reviewStore approvedLine).sessionLines "S1" = [approvedLine] := rfl
  have covers : FinalizationCovers (reviewStore approvedLine) "S1" := by
    refine ⟨?_, ?_⟩
    · intro line member
      rw [lines, List.mem_singleton] at member
      subst member
      decide
    · intro line member
      rw [lines] at member
      simp at member
  have gate : MeetsGate (reviewStore approvedLine)
      (sampleEnv, .finalize true "S1" "supervisor" none) := ⟨addressed, covers⟩
  have run : Reaches LifecycleOp.step MeetsGate (reviewStore approvedLine) _ :=
    .next _ .start gate
  refine ⟨_, run, ?_, frozenComplete_of_run init run⟩
  exact ⟨_, List.mem_of_getElem? (i := 0) rfl, by decide⟩

/-- A session in review is closed through a status alias; its approved line is
left as it was, not locked. -/
theorem frozenComplete_fails_closed :
    FrozenComplete (reviewStore approvedLine) ∧
    ∃ last, Reaches LifecycleOp.step (fun _ _ => True) (reviewStore approvedLine) last ∧ ¬ FrozenComplete last := by
  refine ⟨?_, _, .next (sampleEnv, .transition "S1" "CLOSED" "supervisor" none none) .start trivial, ?_⟩
  · intro session member finalized
    simp only [reviewStore, List.mem_singleton] at member
    subst member
    exact absurd finalized (by decide)
  · intro frozen
    have locked := (frozen _ (List.mem_of_getElem? (i := 0) rfl) (by decide)
      "S1" rfl approvedLine (List.mem_of_getElem? (i := 0) rfl) (by decide)).1
    exact absurd locked (by decide)

end StockVerification
