import StockVerification.SyncRoutes

/-!
# What a governed write does

One lemma says what a write does to the lines and that everything after it
touches sessions and the dashboard only; the results about the routes are
derived from these and do not unfold the write core.
-/
namespace StockVerification

open Foundation Foundation.Action

/-- `u` differs from `t` in the sessions and the dashboard rows at most. -/
def OnlySessions (t u : Store) : Prop :=
  ∃ sessions rows, u = { t with sessions := sessions, sessionDashboard := rows }

namespace OnlySessions

instance : Std.Refl OnlySessions where
  refl t := ⟨t.sessions, t.sessionDashboard, rfl⟩

instance : IsTrans Store OnlySessions where
  trans := by
    rintro a b c ⟨_, _, rfl⟩ ⟨sessions, rows, rfl⟩
    exact ⟨sessions, rows, rfl⟩

variable {t u : Store}

theorem countLines (h : OnlySessions t u) : u.countLines = t.countLines := by
  obtain ⟨_, _, rfl⟩ := h
  rfl

end OnlySessions

variable {s t : Store}

theorem onlySessions_updateSessionWithOcc {sessionId : String} {fields : Doc} {expected : Int}
    (success : updateSessionWithOcc sessionId fields expected s = .ok t) : OnlySessions s t := by
  simp only [updateSessionWithOcc, bind_success, pure_success] at success
  obtain ⟨_, _, _, _, rfl⟩ := success
  exact ⟨_, _, rfl⟩

section

variable (env : Env)
include env

theorem onlySessions_syncForSessions (ids : List String) (s : Store) : OnlySessions s (syncForSessions env ids s) := by
  obtain ⟨rows, eq⟩ := syncForSessions_eq env ids s
  rw [eq]
  exact ⟨s.sessions, rows, rfl⟩

theorem moves_syncSessionProjection (sessionId : String) :
    Moves OnlySessions (syncSessionProjection env sessionId) := by
  refine Moves.writes fun s t synced => ?_
  rw [← Except.ok.inj synced]
  exact onlySessions_syncForSessions env _ s

theorem moves_updateSessionTotals (sessionId : String) (totals : SessionTotals) (stamped : Bool) (expected : Option Int)
    (sync : Bool) : Moves OnlySessions (updateSessionTotals env sessionId totals stamped expected sync) := by
  refine Moves.bind (Moves.reads _) fun session => ?_
  refine Moves.bind (Moves.writes fun s t => onlySessions_updateSessionWithOcc) fun _ => ?_
  cases sync with
  | true => exact moves_syncSessionProjection env sessionId
  | false => exact Moves.pure ()

theorem moves_updateSessionFields (sessionId : String) (fields : List (String × Value)) (expected : Option Int) :
    Moves OnlySessions (updateSessionFields env sessionId fields expected) := by
  unfold updateSessionFields
  split
  · exact Moves.pure ()
  · refine Moves.bind (Moves.reads _) fun session => ?_
    refine Moves.bind (Moves.writes fun s t => onlySessions_updateSessionWithOcc) fun _ => ?_
    exact moves_syncSessionProjection env sessionId

theorem moves_enforceSessionLogic (session : Doc) : Moves OnlySessions (enforceSessionLogic env session) := by
  unfold enforceSessionLogic
  split
  · exact Moves.throw _
  · refine Moves.bind (Moves.reads _) fun pinned => ?_
    split
    · exact Moves.pure ()
    · split
      · exact Moves.pure ()
      · exact Moves.mapError _ (moves_updateSessionFields env _ _ _)

theorem moves_enforceLogicFromLine (line : Doc) : Moves OnlySessions (enforceLogicFromLine env line) :=
  Moves.bind (Moves.reads _) fun _ => Moves.bind (Moves.reads _) fun session =>
    moves_enforceSessionLogic env session

theorem moves_recomputeSessionTotals (sessionId : String) :
    Moves OnlySessions (recomputeSessionTotals env sessionId) :=
  Moves.bind (Moves.reads _) fun totals => moves_updateSessionTotals env _ totals _ _ _

theorem moves_maybeUpdateSessionBarcode (line : CountLineCreate) :
    Moves OnlySessions (maybeUpdateSessionBarcode env line) := by
  unfold maybeUpdateSessionBarcode
  split
  · exact Moves.pure ()
  · refine Moves.bind (Moves.reads _) fun found => ?_
    split
    · exact Moves.pure ()
    · split
      · exact Moves.pure ()
      · exact moves_updateSessionFields env _ _ _

theorem moves_refreshSessionTotals (entry : String × Nat) : Moves OnlySessions (refreshSessionTotals env entry) :=
  Moves.bind (Moves.reads _) fun totals => moves_updateSessionTotals env _ totals _ _ _

theorem moves_refreshTotals (ctx : WriteContext) (versions : List (String × Nat)) :
    Moves OnlySessions (refreshTotals env ctx versions) := by
  unfold refreshTotals
  split
  · exact Moves.pure ()
  · exact Moves.forM fun entry _ => moves_refreshSessionTotals env entry

theorem moves_syncProjections (ctx : WriteContext) (versions : List (String × Nat)) :
    Moves OnlySessions (syncProjections env ctx versions) := by
  unfold syncProjections
  split
  · exact Moves.pure ()
  · refine Moves.writes fun s t synced => ?_
    rw [← Except.ok.inj synced]
    exact onlySessions_syncForSessions env _ s

end

variable {ctx : WriteContext} {env : Env} {op : WriteOp}

theorem final_processWriteCore {P : Store → Prop} {committed : Store} (stop : P s)
    (go : ∀ p result t u, prepareWrite env ctx op s = .ok p → executeCountLineOperation env p.op s = .ok (result, t) →
      OnlySessions t u → P u) :
    P ((processWriteCore env committed ctx op).final s) := by
  refine final_reads_bind stop fun p prepared => ?_
  refine final_transacts_bind stop fun result t executed => ?_
  refine go p result t _ prepared executed ?_
  have rest : Moves OnlySessions (do
      reads (runPostWriteValidation env committed ctx p.op result)
      refreshTotals env ctx p.versions
      syncProjections env ctx p.versions
      pure result) :=
    Moves.bind (Moves.reads _) fun _ => Moves.bind (moves_refreshTotals env ctx p.versions) fun _ =>
      Moves.bind (moves_syncProjections env ctx p.versions) fun _ => Moves.pure result
  exact rest t

variable {result : WriteResult}

theorem processWriteCore_ok {committed u : Store}
    (success : processWriteCore env committed ctx op s = .ok result u) :
    ∃ p t, prepareWrite env ctx op s = .ok p ∧
      executeCountLineOperation env p.op s = .ok (result, t) ∧ OnlySessions t u := by
  simp only [processWriteCore, bind_ok, reads_ok, transacts_ok, pure_ok] at success
  obtain ⟨p, _, ⟨prepared, rfl⟩, _, t, executed, _, _, ⟨_, rfl⟩, _, refreshed, totals, _, synced,
    rows, rfl, rfl⟩ := success
  refine ⟨p, t, prepared, executed, ?_⟩
  have first := moves_refreshTotals env ctx p.versions t
  rw [final_of_ok totals] at first
  have second := moves_syncProjections env ctx p.versions refreshed
  rw [final_of_ok rows] at second
  exact trans_of OnlySessions first second

theorem final_processWrite {P : Store → Prop} (stop : P s)
    (go : ∀ p result t u, prepareWrite env ctx op s = .ok p → executeCountLineOperation env p.op s = .ok (result, t) →
      OnlySessions t u → P u) :
    P ((processWrite env ctx op).final s) := by
  rw [processWrite, final_withStore]
  exact UnitOfWork.final_runCommitted stop (final_processWriteCore stop go)

theorem executeCountLineOperation_ok (success : executeCountLineOperation env op s = .ok (result, t)) :
    ∃ lines, executeOnLines env op s.countLines = .ok (result, lines) ∧ t = s.withLines lines := by
  simp only [executeCountLineOperation, bind_success, liftFault_ok, pure_success, Prod.mk.injEq] at success
  obtain ⟨⟨_, lines⟩, executed, rfl, rfl⟩ := success
  exact ⟨lines, executed, rfl⟩

variable {p : Prepared}

theorem prepareWrite_ok (success : prepareWrite env ctx op s = .ok p) :
    ∃ checked moved, assertMandatoryWriteInvariants env ctx op s = .ok checked ∧
      applyStateTransition env ctx checked = .ok moved ∧
      enforceVariance env ctx moved s = .ok p.op ∧
      captureSessionVersions ctx (collectSessionIds ctx p.op s) s = .ok p.versions := by
  simp only [prepareWrite, bind_success, pure_success] at success
  obtain ⟨_, _, _, _, checked, asserted, moved, transitioned, op, enforced, versions, captured, rfl⟩ :=
    success
  exact ⟨checked, moved, asserted, transitioned, enforced, captured⟩

variable {document : Doc}

theorem applyStateTransition_insert
    (success : applyStateTransition env ctx (.insertOne document) = .ok op) : op = .insertOne document := by
  unfold applyStateTransition at success
  split at success
  · exact (Except.ok.inj success).symm
  · cases success

variable {f : Filter} {u : Update}

theorem applyStateTransition_findOneAndUpdate
    (success : applyStateTransition env ctx (.findOneAndUpdate f u) = .ok op) : op = .findOneAndUpdate f u := by
  unfold applyStateTransition at success
  split at success
  · exact (Except.ok.inj success).symm
  · cases success

/-- The fields of the verdict and of the review. -/
def decisionNames : List String :=
  ["variance", "approval_status", "approved_at", "approved_by", "requires_supervisor_approval",
    "variance_data", "violated_thresholds", "status", "assigned_to", "recount_requested_at",
    "recount_requested_by", "rejected_at", "rejected_by", "rejection_reason", "verified",
    "verified_at", "verified_by", "approval_note"]

/-- The fields `_apply_authoritative_fields` may set. -/
def authoritativeNames : List String :=
  decisionNames ++ ["item_name", "current_sql_qty", "erp_drift", "final_gap", "mrp_erp", "mrp_counted",
    "financial_impact", "risk_flags", "barcode", "is_misplaced", "expected_location", "found_location",
    "relocation_status"]

def stampedFields : List String :=
  ["semantic_hash", "erp_qty", "baseline_hash"] ++ authoritativeNames

theorem decisionFields_names (env : Env) (ctx : WriteContext) (d : GovernanceDecision) :
    ∀ name ∈ (decisionFields env ctx d).map Prod.fst, name ∈ decisionNames := by
  unfold decisionFields
  cases ctx.setStatusFromGovernance <;>
    simp only [Bool.false_eq_true, if_true, if_false, List.append_nil, List.cons_append,
      List.nil_append, List.map_cons, List.map_nil] <;>
    decide

theorem reviewResetFields_names (target : Doc) :
    ∀ name ∈ (reviewResetFields target).map Prod.fst, name ∈ decisionNames := by
  unfold reviewResetFields
  cases target.has "approval_note" <;>
    simp only [Bool.false_eq_true, if_true, if_false, List.append_nil, List.cons_append,
      List.nil_append, List.map_cons, List.map_nil] <;>
    decide

theorem placementFields_names (document item : Doc) :
    ∀ name ∈ (placementFields document item).map Prod.fst, name ∈ authoritativeNames := by
  unfold placementFields
  split <;> simp only [List.map_cons, List.map_nil] <;> decide

theorem descriptiveFields_names (target item : Doc) (strict : Bool) (variance : ℚ) :
    ∀ name ∈ (descriptiveFields target item strict variance).map Prod.fst, name ∈ authoritativeNames := by
  intro name member
  simp only [descriptiveFields, List.map_append, List.mem_append] at member
  rcases member with (plain | barcode) | placed
  · simp only [List.map_cons, List.map_nil] at plain
    revert name
    decide
  · split at barcode
    · simp only [List.map_cons, List.map_nil, List.mem_singleton] at barcode
      subst barcode
      decide
    · simp at barcode
  · exact placementFields_names target item name placed

section

variable {session : Option Doc} {target item : Doc} {d : GovernanceDecision} {field : String}

theorem applyAuthoritativeFields_other (other : field ∉ authoritativeNames) :
    applyAuthoritativeFields env ctx session target d item field = target field := by
  refine Doc.setAll_other _ fun member => other ?_
  simp only [List.map_append, List.mem_append] at member
  rcases member with (decided | reset) | descriptive
  · exact List.mem_append_left _ (decisionFields_names env ctx d field decided)
  · exact List.mem_append_left _ (reviewResetFields_names target field reset)
  · exact descriptiveFields_names target item _ _ field descriptive

theorem applyAuthoritativeFields_decided {v : Value} (decided : Doc.ofList (decisionFields env ctx d) field = some v) :
    applyAuthoritativeFields env ctx session target d item field = some v := by
  refine Doc.setAll_named _ ?_
  rw [List.append_assoc, Doc.ofList_append, decided]
  rfl

end

section

variable {item stamped : Doc} {sessionId itemCode : String} {expected : ℚ}

theorem stampBaseline_other (success : stampBaseline s document item sessionId itemCode = .ok (expected, stamped))
    {field : String} (notQty : field ≠ "erp_qty") (notHash : field ≠ "baseline_hash") :
    stamped field = document field := by
  unfold stampBaseline at success
  split at success
  · simp only [bind_success, pure_success, Prod.mk.injEq] at success
    obtain ⟨⟨qty, hash⟩, _, _, rfl⟩ := success
    rw [Doc.set_other _ _ notHash, Doc.set_other _ _ notQty]
  · simp only [bind_success] at success
    obtain ⟨stated, _, success⟩ := success
    split at success
    · simp only [bind_success, pure_success, Prod.mk.injEq] at success
      obtain ⟨_, _, _, rfl⟩ := success
      exact Doc.setDefault_other _ _ notQty
    · simp only [pure_success, Prod.mk.injEq] at success
      rw [success.2]

theorem stampBaseline_session (inSession : sessionId ≠ "")
    (success : stampBaseline s document item sessionId itemCode = .ok (expected, stamped)) :
    frozenQty s sessionId itemCode = some expected ∧ stamped "erp_qty" = some (.num expected) := by
  unfold stampBaseline at success
  rw [if_pos (by simpa using inSession)] at success
  simp only [bind_success, pure_success, Prod.mk.injEq] at success
  obtain ⟨⟨qty, hash⟩, resolved, rfl, rfl⟩ := success
  refine ⟨?_, ?_⟩
  · simp only [frozenQty, resolved]
  · rw [Doc.set_other _ _ (by decide), Doc.set_same]

end

/-- What the evaluation of a document establishes. -/
theorem evaluateGovernanceForDocument_ok {e : Evaluation}
    (success : evaluateGovernanceForDocument s ctx document = .ok e) :
    ∃ counted expected, floatOrError (document.get "counted_qty") = .ok counted ∧
      e.erpItem = resolveErpItem s ctx.erpItem document (governedItemCode document ctx) ∧
      stampBaseline s document e.erpItem (governedSessionId document ctx)
        (governedItemCode document ctx) = .ok (expected, e.document) ∧
      evaluatePolicy s.varianceThresholdConfigs
        { countedQty := counted, expectedQty := expected, item := e.erpItem
          location := ctx.location.orElse (e.document.get "floor_no")
          varianceReason := ctx.varianceReason.orElse (e.document.get "variance_reason")
          correctionReason := ctx.correctionReason.getD (e.document.get "correction_reason")
          requireCorrectionReason := ctx.requireCorrectionReason } = .ok e.decision := by
  simp only [evaluateGovernanceForDocument, bind_success] at success
  obtain ⟨_, _, counted, countedEq, _, _, _, _, _, _, success⟩ := success
  have rest : ∃ expected stamped decision, stampBaseline s document
      (resolveErpItem s ctx.erpItem document (governedItemCode document ctx))
      (governedSessionId document ctx) (governedItemCode document ctx) = .ok (expected, stamped) ∧
      evaluatePolicy s.varianceThresholdConfigs
        { countedQty := counted, expectedQty := expected
          item := resolveErpItem s ctx.erpItem document (governedItemCode document ctx)
          location := ctx.location.orElse (stamped.get "floor_no")
          varianceReason := ctx.varianceReason.orElse (stamped.get "variance_reason")
          correctionReason := ctx.correctionReason.getD (stamped.get "correction_reason")
          requireCorrectionReason := ctx.requireCorrectionReason } = .ok decision ∧
      e = { decision := decision
            erpItem := resolveErpItem s ctx.erpItem document (governedItemCode document ctx)
            document := stamped } := by
    split at success
    · simp only [bind_success, pure_success] at success
      obtain ⟨_, _, ⟨expected, stamped⟩, stampedEq, decision, decided, rfl⟩ := success
      exact ⟨expected, stamped, decision, stampedEq, decided, rfl⟩
    · simp only [bind_success, pure_success] at success
      obtain ⟨⟨expected, stamped⟩, stampedEq, decision, decided, rfl⟩ := success
      exact ⟨expected, stamped, decision, stampedEq, decided, rfl⟩
  obtain ⟨expected, stamped, decision, stampedEq, decided, rfl⟩ := rest
  exact ⟨counted, expected, countedEq, rfl, stampedEq, decided⟩

/-- What is known of a line that a governed insert stored for `document`. -/
structure InsertedLine (env : Env) (ctx : WriteContext) (s : Store) (document line : Doc) : Prop where
  other : ∀ field, field ∉ stampedFields → field ≠ "_id" → line field = document field
  progression : assertVersionProgression s document = .ok ()
  freshKey : (s.countLines.any (Filter.both
    (.eq "session_id" ((document.get "session_id").orElse ctx.sessionId))
    (.eq "idempotency_key" (document.get "idempotency_key"))).holds &&
      ((document.get "session_id").orElse ctx.sessionId).truthy &&
      (document.get "idempotency_key").truthy) = false
  uncounted : document.has "counted_qty" = false → ∀ field, field ≠ "semantic_hash" →
    field ≠ "_id" → line field = document field
  hashed : ∃ hash, insertHash env document = .ok hash ∧
    s.countLines.any (Filter.eq "semantic_hash" hash).holds = false ∧
    line "semantic_hash" = some hash
  governed : document.has "counted_qty" = true → ∃ hash e,
    evaluateGovernanceForDocument s ctx (document.set "semantic_hash" hash) = .ok e ∧
    ∀ field, field ≠ "_id" → line field = applyAuthoritativeFields env ctx
      (resolveSessionDocument s ctx e.document) e.document e.decision e.erpItem field

theorem assertInsertInvariants_ok {checked : Doc}
    (success : assertInsertInvariants env ctx document s = .ok checked) :
    (∃ hash, insertHash env document = .ok hash ∧ s.countLines.any (Filter.eq "semantic_hash" hash).holds = false ∧
      checked = document.set "semantic_hash" hash) ∧
      assertVersionProgression s document = .ok () ∧
      (s.countLines.any (Filter.both
        (.eq "session_id" ((document.get "session_id").orElse ctx.sessionId))
        (.eq "idempotency_key" (document.get "idempotency_key"))).holds &&
          ((document.get "session_id").orElse ctx.sessionId).truthy &&
          (document.get "idempotency_key").truthy) = false := by
  simp only [assertInsertInvariants, bind_success, require_ok, pure_success] at success
  obtain ⟨_, fresh, _, progression, hash, hashEq, _, freshHash, _, _, rfl⟩ := success
  refine ⟨⟨hash, hashEq, by simpa using freshHash, rfl⟩, progression, ?_⟩
  revert fresh
  generalize (Value.orElse _ _).truthy = a
  generalize (document.get "idempotency_key").truthy = b
  generalize List.any _ _ = c
  revert a b c
  decide

theorem executeOnLines_insert {lines after : List Doc} (noId : document "_id" = none)
    (success : executeOnLines env (.insertOne document) lines = .ok (result, after)) :
    Collection.collision countLineIndexes lines (document.set "_id" (.oid env.freshOid)) = none ∧
      after = lines ++ [document.set "_id" (.oid env.freshOid)] ∧
      result.after = some (document.set "_id" (.oid env.freshOid)) := by
  have absent : document.has "_id" = false := by rw [Doc.has, noId, Option.isSome_none]
  simp only [executeOnLines, saveCountLine, absent, Bool.false_eq_true, if_false, bind_success,
    pure_success, Prod.mk.injEq] at success
  obtain ⟨⟨stored, saved⟩, ⟨_, insertedEq, rfl, rfl⟩, rfl, rfl⟩ := success
  obtain ⟨free, rfl⟩ := Collection.insertOne_ok insertedEq
  exact ⟨free, rfl, rfl⟩

/-- The document that the checks leave of an insert, before its object id. -/
structure PreparedInsert (env : Env) (ctx : WriteContext) (s : Store) (document final : Doc)
    (hash : Value) : Prop where
  other : ∀ field, field ∉ stampedFields → final field = document field
  plain : document.has "counted_qty" = false → final = document.set "semantic_hash" hash
  hashed : final "semantic_hash" = some hash
  governed : document.has "counted_qty" = true → ∃ e,
    evaluateGovernanceForDocument s ctx (document.set "semantic_hash" hash) = .ok e ∧
    final = applyAuthoritativeFields env ctx (resolveSessionDocument s ctx e.document) e.document e.decision e.erpItem

theorem enforceVariance_insert {hash : Value}
    (enforced : enforceVariance env ctx (.insertOne (document.set "semantic_hash" hash)) s = .ok op) :
    ∃ final, op = .insertOne final ∧ PreparedInsert env ctx s document final hash := by
  have hashOther : ∀ field, field ∉ stampedFields → document.set "semantic_hash" hash field = document field := by
    intro field other
    refine Doc.set_other _ _ fun same => other ?_
    subst same
    decide
  have sameQty : (document.set "semantic_hash" hash).has "counted_qty" = document.has "counted_qty" := by
    simp only [Doc.has, Doc.set_other document hash (show "counted_qty" ≠ "semantic_hash" by decide)]
  simp only [enforceVariance, sameQty] at enforced
  split at enforced
  · next counted =>
    simp only [bind_success, pure_success] at enforced
    obtain ⟨e, evaluated, opEq⟩ := enforced
    obtain ⟨_, _, _, _, stampedEq, _⟩ := evaluateGovernanceForDocument_ok evaluated
    refine ⟨_, opEq.symm, ?_, ?_, ?_, fun _ => ⟨e, evaluated, rfl⟩⟩
    · intro field other
      have notNamed : field ∉ authoritativeNames := fun member => other (by simp [stampedFields, member])
      have notQty : field ≠ "erp_qty" := by
        rintro rfl
        exact other (by decide)
      have notHash : field ≠ "baseline_hash" := by
        rintro rfl
        exact other (by decide)
      rw [applyAuthoritativeFields_other notNamed, stampBaseline_other stampedEq notQty notHash]
      exact hashOther field other
    · intro uncounted
      rw [counted] at uncounted
      cases uncounted
    · rw [applyAuthoritativeFields_other (by decide),
        stampBaseline_other stampedEq (by decide) (by decide), Doc.set_same]
  · next uncounted =>
    refine ⟨_, (Except.ok.inj enforced).symm, hashOther, fun _ => rfl, Doc.set_same _ _ _, ?_⟩
    intro counted
    exact absurd counted uncounted

theorem prepareWrite_insert (prepared : prepareWrite env ctx (.insertOne document) s = .ok p) :
    ∃ final hash, p.op = .insertOne final ∧ PreparedInsert env ctx s document final hash ∧
      assertInsertInvariants env ctx document s = .ok (document.set "semantic_hash" hash) := by
  obtain ⟨checked, moved, asserted, transitioned, enforced, _⟩ := prepareWrite_ok prepared
  simp only [assertMandatoryWriteInvariants, map_success] at asserted
  obtain ⟨stamped, inserted, rfl⟩ := asserted
  obtain ⟨⟨hash, _, _, rfl⟩, _, _⟩ := assertInsertInvariants_ok inserted
  rw [applyStateTransition_insert transitioned] at enforced
  obtain ⟨final, opEq, left⟩ := enforceVariance_insert enforced
  exact ⟨final, hash, opEq, left, inserted⟩

/-- A governed insert of a document without an object id appends one line. -/
theorem insertOne_effect (noId : document "_id" = none)
    (prepared : prepareWrite env ctx (.insertOne document) s = .ok p)
    (executed : executeCountLineOperation env p.op s = .ok (result, t)) :
    ∃ line, InsertedLine env ctx s document line ∧
      t = s.withLines (s.countLines ++ [line]) ∧ result.after = some line ∧
      line "_id" = some (.oid env.freshOid) ∧
      Collection.collision countLineIndexes s.countLines line = none := by
  obtain ⟨final, hash, opEq, left, inserted⟩ := prepareWrite_insert prepared
  obtain ⟨⟨hash', hashEq, freshHash, same⟩, progression, fresh⟩ := assertInsertInvariants_ok inserted
  have hashSame : hash' = hash := by
    have stored := congrFun same "semantic_hash"
    rw [Doc.set_same, Doc.set_same] at stored
    exact (Option.some.inj stored).symm
  subst hashSame
  rw [opEq] at executed
  obtain ⟨lines, onLines, rfl⟩ := executeCountLineOperation_ok executed
  have finalId : final "_id" = none := by rw [left.other "_id" (by decide), noId]
  obtain ⟨free, rfl, answered⟩ := executeOnLines_insert finalId onLines
  refine ⟨_, ⟨?_, progression, fresh, ?_, ⟨hash', hashEq, freshHash, ?_⟩, ?_⟩, rfl, answered,
    Doc.set_same _ _ _, free⟩
  · intro field other notId
    rw [Doc.set_other _ _ notId, left.other field other]
  · intro uncounted field notHash notId
    rw [Doc.set_other _ _ notId, left.plain uncounted, Doc.set_other _ _ notHash]
  · rw [Doc.set_other _ _ (by decide), left.hashed]
  · intro counted
    obtain ⟨e, evaluated, rfl⟩ := left.governed counted
    exact ⟨hash', e, evaluated, fun field notId => Doc.set_other _ _ notId⟩

/-- The update the checks leave: the same but for the fingerprint it sets, where the
updated line carries a quantity. -/
structure Fingerprinted (env : Env) (old : Doc) (u stamped : Update) : Prop where
  inc : stamped.inc = u.inc
  push : stamped.push = u.push
  set : ∀ field, field ≠ "semantic_hash" → stamped.set field = u.set field
  hashed : (applyUpdateToMerged old u).has "counted_qty" = true →
    ∃ payload, stamped.set "semantic_hash" = some (.str (env.digest payload))
  plain : (applyUpdateToMerged old u).has "counted_qty" = false → stamped = u
  exact : (applyUpdateToMerged old u).has "counted_qty" = true →
    ∃ hash, buildSemanticHash env (applyUpdateToMerged old u) = .ok hash ∧
      stamped.set "semantic_hash" = some (.str hash)

theorem buildSemanticHash_ok {d : Doc} {hash : String}
    (success : buildSemanticHash env d = .ok hash) : ∃ payload, hash = env.digest payload := by
  obtain ⟨payload, _, rfl⟩ := map_success.mp success
  exact ⟨payload, rfl⟩

theorem assertUpdateInvariants_ok {stamped : Update} (success : assertUpdateInvariants env ctx f u s = .ok stamped) :
    ∃ existing, s.countLines.find? f.holds = some existing ∧ Fingerprinted env existing u stamped := by
  unfold assertUpdateInvariants at success
  split at success
  · cases success
  · next existing found =>
    simp only [bind_success, pure_success] at success
    obtain ⟨_, hashed, _, _, rfl⟩ := success
    refine ⟨existing, found, ?_⟩
    unfold stampUpdateHash at hashed
    split at hashed
    · next counted =>
      simp only [bind_success, pure_success] at hashed
      obtain ⟨hash, hashEq, _, _, rfl⟩ := hashed
      obtain ⟨payload, digestEq⟩ := buildSemanticHash_ok hashEq
      refine ⟨rfl, rfl, fun field notHash => Doc.set_other _ _ notHash, fun _ => ⟨payload, ?_⟩, ?_,
        fun _ => ⟨hash, hashEq, Doc.set_same u.set "semantic_hash" _⟩⟩
      · rw [← digestEq]
        exact Doc.set_same u.set "semantic_hash" _
      · intro uncounted
        rw [counted] at uncounted
        cases uncounted
    · next uncounted =>
      rw [← Except.ok.inj hashed]
      exact ⟨rfl, rfl, fun _ _ => rfl, fun counted => absurd counted uncounted, fun _ => rfl,
        fun counted => absurd counted uncounted⟩

/-- One line was found and replaced by its updated form. -/
structure UpdatedLine (f : Filter) (u : Update) (s t : Store) (old new : Doc) : Prop where
  found : s.countLines.find? f.holds = some old
  applied : u.apply old = some new
  free : Collection.collision countLineIndexes (s.countLines.eraseP f.holds) new = none
  stored : t = s.withLines (Collection.replaceFirst f.holds new s.countLines)

theorem updateOnLines_effect {answer : Option (Doc × Doc)} {lines : List Doc} {existing : Doc}
    (found : s.countLines.find? f.holds = some existing)
    (updated : Collection.updateOne countLineIndexes f u s.countLines = .ok (answer, lines))
    (stored : t = s.withLines lines) : ∃ new, UpdatedLine f u s t existing new ∧ answer = some (existing, new) := by
  obtain ⟨absent, _, _⟩ | ⟨old, new, present, applied, free, rfl, rfl⟩ := Collection.updateOne_ok updated
  · rw [absent] at found
    cases found
  · rw [present] at found
    cases found
    exact ⟨new, ⟨present, applied, free, stored⟩, rfl⟩

theorem executeUpdate_effect {existing : Doc} (updates : op = .updateOne f u ∨ op = .findOneAndUpdate f u)
    (found : s.countLines.find? f.holds = some existing)
    (executed : executeCountLineOperation env op s = .ok (result, t)) :
    ∃ new, UpdatedLine f u s t existing new ∧ result.after = some new := by
  obtain ⟨lines, onLines, stored⟩ := executeCountLineOperation_ok executed
  rcases updates with rfl | rfl
  all_goals
    simp only [executeOnLines, bind_success, pure_success, Prod.mk.injEq] at onLines
    obtain ⟨⟨answer, after⟩, updated, rfl, rfl⟩ := onLines
    obtain ⟨new, line, rfl⟩ := updateOnLines_effect found updated stored
    exact ⟨new, line, rfl⟩

/-- `find_one_and_update` is not governed: only the fingerprint is added. -/
theorem findOneAndUpdate_effect (prepared : prepareWrite env ctx (.findOneAndUpdate f u) s = .ok p)
    (executed : executeCountLineOperation env p.op s = .ok (result, t)) :
    ∃ stamped old new, Fingerprinted env old u stamped ∧ UpdatedLine f stamped s t old new ∧
      result.after = some new := by
  obtain ⟨checked, moved, asserted, transitioned, enforced, _⟩ := prepareWrite_ok prepared
  simp only [assertMandatoryWriteInvariants, map_success] at asserted
  obtain ⟨stamped, checkedUpdate, rfl⟩ := asserted
  obtain ⟨existing, found, fingerprinted⟩ := assertUpdateInvariants_ok checkedUpdate
  rw [applyStateTransition_findOneAndUpdate transitioned] at enforced
  have opEq : p.op = .findOneAndUpdate f stamped := (Except.ok.inj enforced).symm
  obtain ⟨new, line, after⟩ := executeUpdate_effect (.inr opEq) found executed
  exact ⟨stamped, existing, new, fingerprinted, line, after⟩

/-- The `$set` document of a governed `update_one`. -/
structure GovernedSet (env : Env) (ctx : WriteContext) (s : Store) (old : Doc) (checked set : Doc) :
    Prop where
  evaluated : ∃ e, evaluateGovernanceForDocument s ctx (old.update checked) = .ok e ∧
    set = applyAuthoritativeFields env ctx (resolveSessionDocument s ctx e.document)
      (copyBaselineFields e.document checked) e.decision e.erpItem

/-- `update_one` without a state transition: governed where it sets the quantity. -/
theorem updateOne_effect (plain : ctx.transition = none) (prepared : prepareWrite env ctx (.updateOne f u) s = .ok p)
    (executed : executeCountLineOperation env p.op s = .ok (result, t)) :
    ∃ stamped final old new, Fingerprinted env old u stamped ∧ UpdatedLine f final s t old new ∧
      final.inc = u.inc ∧ final.push = u.push ∧
      (u.set.has "counted_qty" = false → final = stamped) ∧
      (u.set.has "counted_qty" = true → GovernedSet env ctx s old stamped.set final.set) := by
  obtain ⟨checked, moved, asserted, transitioned, enforced, _⟩ := prepareWrite_ok prepared
  simp only [assertMandatoryWriteInvariants, map_success] at asserted
  obtain ⟨stamped, checkedUpdate, rfl⟩ := asserted
  obtain ⟨existing, found, fingerprinted⟩ := assertUpdateInvariants_ok checkedUpdate
  simp only [applyStateTransition, plain, Except.ok.injEq] at transitioned
  subst transitioned
  have sameQty : stamped.set.has "counted_qty" = u.set.has "counted_qty" := by
    simp only [Doc.has, fingerprinted.set "counted_qty" (by decide)]
  simp only [enforceVariance, found, Option.getD_some, sameQty] at enforced
  split at enforced
  · next counted =>
    simp only [bind_success, pure_success] at enforced
    obtain ⟨e, evaluated, opEq⟩ := enforced
    obtain ⟨new, line, _⟩ := executeUpdate_effect (.inl opEq.symm) found executed
    refine ⟨stamped, _, existing, new, fingerprinted, line, fingerprinted.inc, fingerprinted.push,
      ?_, fun _ => ⟨e, evaluated, rfl⟩⟩
    intro uncounted
    rw [counted] at uncounted
    cases uncounted
  · next uncounted =>
    obtain ⟨new, line, _⟩ := executeUpdate_effect (.inl (Except.ok.inj enforced).symm) found executed
    refine ⟨stamped, stamped, existing, new, fingerprinted, line, fingerprinted.inc,
      fingerprinted.push, fun _ => rfl, ?_⟩
    intro counted
    exact absurd counted uncounted

end StockVerification
