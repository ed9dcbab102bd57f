import StockVerification.ApprovalInvariant
import StockVerification.Finalization

/-!
# Lines that block finalization

Finalization counts lines that wait for approval with a case-exact filter before it
looks at single lines. That count does not leave out locked lines: a supervisor's
batch sync stores a finished record with `finalized_at`, and the write core then asks
for a review of the same line. Such a line blocks its session and refuses the review.
-/
namespace StockVerification

open Foundation Foundation.Action

/-- Creations, batches of sync records and the decisions on stored lines. -/
inductive DecisionOp where
  | create (user : User) (body : CountLineCreate)
  | sync (rackOwner : String → Option String) (user : User) (records : List (Env × SyncRecord))
  | review (user : User) (lineId : String) (decision : ReviewDecision)

/-- The store after one operation, successful or not. -/
def DecisionOp.step (s : Store) (op : Env × DecisionOp) : Store :=
  match op.2 with
  | .create user body => (createCountLine op.1 user body).final s
  | .sync rackOwner user records => (syncBatch rackOwner user records).final s
  | .review user lineId decision => (reviewCountLine op.1 user lineId decision).final s

/-- The line keeps its session from being finalized: it is counted as waiting for
approval, or blocks by itself. -/
def blocksFinalization (sessionId : String) (line : Doc) : Bool :=
  (needsReviewFilter sessionId).holds line ||
    (inSession sessionId line && isBlockingFinalization line)

def lineImmutable : Error := .http 409 "Count line is finalized and cannot be modified"

/-- The part of the count that does not depend on the session. -/
def waitsForApproval (line : Doc) : Bool :=
  (Filter.isIn "approval_status" [.str "NEEDS_REVIEW", .str "PENDING"]).holds line &&
    (Filter.notIn "status" [.str "SUPERSEDED", .str "superseded"]).holds line

def GateOpen (s : Store) : Prop :=
  EachLine (fun line => isCountLineLocked line = true → waitsForApproval line = false) s

theorem ofLines_gateOpen : OfLines GateOpen := ofLines_eachLine _

variable {line : Doc}

theorem waitsForApproval_of_needsReview {sessionId : String}
    (counted : (needsReviewFilter sessionId).holds line = true) : waitsForApproval line = true := by
  simp only [needsReviewFilter, Filter.all, List.foldr_cons, List.foldr_nil, Filter.holds, Bool.and_eq_true] at counted
  obtain ⟨_, approval, status, _⟩ := counted
  simp only [waitsForApproval, Filter.holds, Bool.and_eq_true]
  exact ⟨approval, status⟩

theorem not_locked_of_blocking (blocking : isBlockingFinalization line = true) :
    isCountLineLocked line = false := by
  unfold isBlockingFinalization at blocking
  split at blocking
  · cases blocking
  · split at blocking
    · cases blocking
    · next unlocked => simpa using unlocked

variable {s : Store}

theorem GateOpen.unlocked (gate : GateOpen s) (member : line ∈ s.countLines) {sessionId : String}
    (blocks : blocksFinalization sessionId line = true) : isCountLineLocked line = false := by
  simp only [blocksFinalization, Bool.or_eq_true, Bool.and_eq_true] at blocks
  rcases blocks with counted | ⟨_, blocking⟩
  · rw [← Bool.not_eq_true]
    intro locked
    have waits := waitsForApproval_of_needsReview counted
    rw [gate line member locked] at waits
    cases waits
  · exact not_locked_of_blocking blocking

theorem ensureCountLineMutable_unlocked (s : Store) (unlocked : isCountLineLocked line = false) :
    ensureCountLineMutable line s ≠ .error lineImmutable := by
  intro refused
  unfold ensureCountLineMutable at refused
  rw [unlocked] at refused
  cases finalized : isSessionFinalized ((s.findSession (line.get "session_id").textOrEmpty).getD
      Doc.empty) with
  | false =>
    simp [require, finalized, bind, Except.bind, pure, Except.pure] at refused
  | true =>
    simp [require, finalized, bind, Except.bind, lineImmutable] at refused

theorem waitsForApproval_of_status {status : String}
    (approval : line "approval_status" = some (.str status))
    (settled : status ≠ "NEEDS_REVIEW" ∧ status ≠ "PENDING") : waitsForApproval line = false := by
  simp [waitsForApproval, Filter.holds, Filter.fieldIs, approval, settled.1, settled.2]

theorem waitsForApproval_of_superseded
    (status : line "status" = some (.str "SUPERSEDED")) : waitsForApproval line = false := by
  simp [waitsForApproval, Filter.holds, Filter.fieldIs, status]

theorem waitsForApproval_congr {a b : Doc} (approval : a "approval_status" = b "approval_status")
    (status : a "status" = b "status") : waitsForApproval a = waitsForApproval b := by
  simp [waitsForApproval, Filter.holds, Filter.fieldIs, approval, status]

theorem isCountLineLocked_congr {a b : Doc} (finalized : a "finalized_at" = b "finalized_at")
    (status : a "status" = b "status") : isCountLineLocked a = isCountLineLocked b := by
  simp only [isCountLineLocked, Doc.get_congr finalized, Doc.get_congr status]

variable {env : Env}

theorem GateOpen.supersede {ctx : WriteContext} {t : Store} {f : Filter} {username : String}
    {successor : Doc} (gate : GateOpen s) (plain : ctx.transition = none)
    (step : WriteStep env ctx (.updateOne f (.ofSet (supersededFields env username successor))) s t) : GateOpen t := by
  obtain ⟨stamped, old, new, line, fields, _, _⟩ := setOne_effect plain rfl step
  refine EachLine.updated gate line fun _ => waitsForApproval_of_superseded ?_
  rw [fields _ (by decide)]
  rfl

/-- The verdict of the write core on an inserted document. -/
structure Decided (line : Doc) (d : GovernanceDecision) : Prop where
  status : line "status" = some (.str d.status)
  approval : line "approval_status" = some (.str d.approvalStatus)

theorem InsertedLine.decided {ctx : WriteContext} {document : Doc}
    (inserted : InsertedLine env ctx s document line) (counted : document.has "counted_qty" = true)
    (status : ctx.setStatusFromGovernance = true) :
    ∃ hash e, evaluateGovernanceForDocument s ctx (document.set "semantic_hash" hash) = .ok e ∧
      Decided line e.decision := by
  obtain ⟨hash, e, evaluated, fields⟩ := inserted.governed counted
  refine ⟨hash, e, evaluated, ?_, ?_⟩
  · rw [fields _ (by decide)]
    exact applyAuthoritativeFields_decided (by simp [decisionFields, status])
  · rw [fields _ (by decide)]
    exact applyAuthoritativeFields_decided (by simp [decisionFields])

theorem Decided.not_locked {d : GovernanceDecision} (decided : Decided line d)
    (unfinished : (line.get "finalized_at").truthy = false) : isCountLineLocked line = false := by
  rw [isCountLineLocked, unfinished, Doc.get_of_some decided.status, GovernanceDecision.status]
  split <;> decide

variable {user : User}

theorem GateOpen.created {body : CountLineCreate} (gate : GateOpen s) :
    GateOpen ((createCountLine env user body).final s) := by
  refine final_createCountLine ofLines_gateOpen ?_ gate
  constructor
  · intro t t' session a target document _ _ _ _ built gateT step
    obtain ⟨p, result, prepared, executed⟩ := step
    have facts := buildCountLineDocument_ok built
    obtain ⟨line, inserted, rfl, _, _, _⟩ := insertOne_effect facts.noId prepared executed
    obtain ⟨_, e, _, decided⟩ := inserted.decided (by simp [Doc.has, facts.counted]) rfl
    refine EachLine.append gateT fun locked => ?_
    have unfinished : (line.get "finalized_at").truthy = false := by
      rw [Doc.get_congr (inserted.other _ (by decide) (by decide)), Doc.get_eq, built_other built _ (by decide)]
      rfl
    rw [decided.not_locked unfinished] at locked
    cases locked
  · intro t t' session document old _ gateT step
    exact gateT.supersede rfl step

theorem GateOpen.reviewed {lineId : String} {decision : ReviewDecision} (gate : GateOpen s) :
    GateOpen ((reviewCountLine env user lineId decision).final s) := by
  refine final_reviewCountLine ofLines_gateOpen gate fun t t' line _ _ gateT step => ?_
  have uncounted : Doc.ofList (decision.fields env user line) "counted_qty" = none := by
    cases decision <;> rfl
  obtain ⟨stamped, old, new, updated, fields, _, _⟩ := setOne_effect rfl uncounted step
  have approval := fields "approval_status" (by decide)
  have status := fields "status" (by decide)
  have finalized := fields "finalized_at" (by decide)
  refine EachLine.updated gateT updated fun locked => ?_
  cases decision with
  | verify | unverify =>
    rw [isCountLineLocked_congr finalized status] at locked
    rw [waitsForApproval_congr approval status]
    exact gateT old updated.mem locked
  | approve notes | reject notes assignTo => exact waitsForApproval_of_status approval (by decide)

def SyncRecord.isFinalized (record : SyncRecord) : Bool :=
  Text.lower (Text.strip record.status) == "finalized"

def recordItem (s : Store) (record : SyncRecord) : Doc :=
  (s.erpItems.find? (Filter.eq "item_code" (.str (Text.strip record.itemCode))).holds).getD Doc.empty

/-- The count of the record needs no approval. -/
def RecordWithin (s : Store) (record : SyncRecord) : Prop :=
  ∀ expected required violated,
    frozenQty s (Text.strip record.sessionId) (Text.strip record.itemCode) = some expected →
    checkThresholds s.varianceThresholdConfigs
      (calculateVariance record.countedQty expected (resolveUnitPrice (recordItem s record)))
      ((recordItem s record).get "category") (.str record.place.1) = .ok (required, violated) →
    required = false

/-- What the decision on a record reads from the store. -/
structure SameCatalog (s t : Store) : Prop where
  items : t.erpItems = s.erpItems
  configs : t.varianceThresholdConfigs = s.varianceThresholdConfigs
  snapshots : t.sessionSnapshots = s.sessionSnapshots
  stocks : t.stockSnapshots = s.stockSnapshots

theorem ofLines_sameCatalog (s : Store) : OfLines (SameCatalog s) := by
  rintro a b ⟨_, _, _, _, _, _, rfl⟩ same
  exact { same with }

theorem RecordWithin.store {t : Store} {record : SyncRecord} (within : RecordWithin s record)
    (same : SameCatalog s t) : RecordWithin t record := by
  intro expected required violated frozen checked
  have sameItem : recordItem t record = recordItem s record := by simp only [recordItem, same.items]
  rw [frozenQty_congr same.snapshots same.stocks] at frozen
  rw [sameItem, same.configs] at checked
  exact within expected required violated frozen checked

theorem truthy_of_strip {text : String} (named : Text.strip text ≠ "") : (Value.str text).truthy = true := by
  rw [Value.truthy_str, bne_iff_ne]
  rintro rfl
  exact named (by decide)

/-- The decision on the document of a record within the thresholds. -/
theorem syncDocument_within {record : SyncRecord} {rackId locationId : String}
    {countedAt updatedAt : Int} {session : Doc} {hash : Value} {e : Evaluation}
    (named : Text.strip record.sessionId ≠ "") (within : RecordWithin s record)
    (evaluated : evaluateGovernanceForDocument s (sessionContext user.username session) ((syncDocument env user record
      record.place.1 rackId locationId countedAt updatedAt).set "semantic_hash" hash) = .ok e) :
    e.decision.requiresSupervisorApproval = false := by
  obtain ⟨counted, expected, countedEq, itemEq, stamped, decided⟩ :=
    evaluateGovernanceForDocument_ok evaluated
  have sameField : ∀ field, field ≠ "semantic_hash" →
      ((syncDocument env user record record.place.1 rackId locationId countedAt updatedAt).set
        "semantic_hash" hash).get field =
      (syncDocument env user record record.place.1 rackId locationId countedAt updatedAt).get field :=
    fun field other => Doc.get_congr (Doc.set_other _ _ other)
  have sessionEq : governedSessionId ((syncDocument env user record record.place.1 rackId locationId
      countedAt updatedAt).set "semantic_hash" hash) (sessionContext user.username session) =
      Text.strip record.sessionId := by
    have read : (syncDocument env user record record.place.1 rackId locationId countedAt updatedAt).get
        "session_id" = .str record.sessionId := rfl
    have truthy := truthy_of_strip named
    rw [governedSessionId, sameField _ (by decide), read, Value.orElse, if_pos truthy, Value.textOrEmpty, if_pos truthy]
    rfl
  have codeEq : governedItemCode ((syncDocument env user record record.place.1 rackId locationId
      countedAt updatedAt).set "semantic_hash" hash) (sessionContext user.username session) =
      Text.strip record.itemCode := by
    rw [governedItemCode_plain rfl, sameField _ (by decide)]
    exact congrArg Text.strip (Value.textOrEmpty_str record.itemCode)
  rw [sessionEq, codeEq] at stamped
  rw [codeEq] at itemEq
  have item : e.erpItem = recordItem s record := by
    rw [itemEq]
    simp only [resolveErpItem, sessionContext, sameField "barcode" (by decide)]
    rfl
  have frozen := (stampBaseline_session named stamped).1
  have countedQty : counted = record.countedQty := by
    rw [sameField _ (by decide)] at countedEq
    have read : floatOrError (.num record.countedQty) = .ok counted := countedEq
    simpa [floatOrError] using read.symm
  have location : (sessionContext user.username session).location.orElse (e.document.get "floor_no") =
      .str record.place.1 := by
    rw [Doc.get_congr (stampBaseline_other stamped (by decide) (by decide)), sameField _ (by decide)]
    rfl
  obtain ⟨_, violated, checked⟩ := evaluatePolicy_ok decided
  rw [item, countedQty, location] at checked
  exact within expected _ violated frozen checked

theorem syncDocument_finalized (env : Env) (user : User) (record : SyncRecord)
    (floorId rackId locationId : String) (countedAt updatedAt : Int) :
    (syncDocument env user record floorId rackId locationId countedAt updatedAt).get "finalized_at" =
      if (record.isFinalized && user.hasAuthority) = true then .date updatedAt else .null := by
  simp [syncDocument, Doc.get_eq, SyncRecord.isFinalized]

/-- What a batch needs: the finished records of a supervisor need no approval. -/
def BatchWithin (s : Store) (user : User) (records : List (Env × SyncRecord)) : Prop :=
  user.hasAuthority = true → ∀ entry ∈ records, entry.2.isFinalized = true →
    Text.strip entry.2.sessionId ≠ "" ∧ RecordWithin s entry.2.normalized

theorem GateOpen.synced {rackOwner : String → Option String} {records : List (Env × SyncRecord)} (gate : GateOpen s)
    (within : BatchWithin s user records) : GateOpen ((syncBatch rackOwner user records).final s) := by
  have kept : GateOpen ((syncBatch rackOwner user records).final s) ∧
      SameCatalog s ((syncBatch rackOwner user records).final s) := by
    refine final_syncBatch (ofLines_gateOpen.and (ofLines_sameCatalog s)) ?_ ⟨gate, ⟨rfl, rfl, rfl, rfl⟩⟩
    intro entry member t t' session floorId rackId locationId countedAt updatedAt place active _ inv step
    obtain ⟨gateT, same⟩ := inv
    obtain ⟨p, result, prepared, executed⟩ := step
    obtain ⟨line, inserted, rfl, _, _, _⟩ := insertOne_effect rfl prepared executed
    refine ⟨EachLine.append gateT fun locked => ?_, { same with }⟩
    obtain ⟨hash, e, evaluated, decided⟩ := inserted.decided rfl rfl
    by_cases finished : (entry.2.isFinalized && user.hasAuthority) = true
    · -- the supervisor's record: approved, or the batch was not admitted
      rw [Bool.and_eq_true] at finished
      obtain ⟨named, withinS⟩ := within finished.2 entry member finished.1
      have floorEq : floorId = entry.2.normalized.place.1 := by rw [place]
      subst floorEq
      have namedRecord : Text.strip entry.2.normalized.sessionId ≠ "" := named
      have notRequired := syncDocument_within namedRecord (withinS.store same) evaluated
      refine waitsForApproval_of_status decided.approval ?_
      rw [GovernanceDecision.approvalStatus, notRequired]
      decide
    · have unfinished : (line.get "finalized_at").truthy = false := by
        rw [Doc.get_congr (inserted.other _ (by decide) (by decide))]
        rw [syncDocument_finalized]
        exact congrArg Value.truthy (if_neg finished)
      rw [decided.not_locked unfinished] at locked
      cases locked
  exact kept.1

/-- What an operation needs of the store it runs on. -/
def KeepsGateOpen (s : Store) (op : Env × DecisionOp) : Prop :=
  match op.2 with
  | .sync _ user records => BatchWithin s user records
  | _ => True

/-- Every line that blocks the finalization of its session accepts a decision. -/
theorem blocking_mutable_of_run {first last : Store} (gate : GateOpen first)
    (run : Reaches DecisionOp.step KeepsGateOpen first last) :
    ∀ line ∈ last.countLines, ∀ sessionId, blocksFinalization sessionId line = true →
      ensureCountLineMutable line last ≠ .error lineImmutable := by
  have gateLast : GateOpen last := by
    refine run.invariant gate fun s op gateS meets => ?_
    obtain ⟨env, op⟩ := op
    cases op with
    | create user body => exact gateS.created
    | sync rackOwner user records => exact gateS.synced meets
    | review user lineId decision => exact gateS.reviewed
  intro line member sessionId blocks
  exact ensureCountLineMutable_unlocked last (gateLast.unlocked member blocks)

/-- A finished count of 13 where the baseline has 10. -/
def surplusRecord : SyncRecord where
  clientRecordId := "R-1"
  sessionId := "S1"
  locationId := "W1"
  floorId := "F1"
  rackId := "R1"
  itemCode := "I1"
  verifiedQty := 13

def surplusBatch (user : User) : Env × DecisionOp :=
  (sampleEnv, .sync (fun _ => none) user [(sampleEnv, surplusRecord)])

def reviewer : User := { username := "meera", role := "supervisor" }

/-- Synced by a counter the line blocks its session and can be decided on. -/
theorem blocking_mutable_counter :
    (DecisionOp.step countingStore (surplusBatch counter)).countLines.map (blocksFinalization "S1") = [true] ∧
    ∀ line ∈ (DecisionOp.step countingStore (surplusBatch counter)).countLines, ∀ sessionId,
      blocksFinalization sessionId line = true →
      ensureCountLineMutable line (DecisionOp.step countingStore (surplusBatch counter)) ≠ .error lineImmutable := by
  have gate : GateOpen countingStore := by
    intro line member
    cases member
  refine ⟨by decide +kernel, blocking_mutable_of_run gate (.next _ .start ?_)⟩
  intro authority
  cases authority

/-- Synced by a supervisor it blocks its session and refuses every decision. -/
theorem blocking_locked_reviewer :
    Reaches DecisionOp.step (fun _ _ => True) countingStore
      (DecisionOp.step countingStore (surplusBatch reviewer)) ∧ GateOpen countingStore ∧
    ¬ ∀ line ∈ (DecisionOp.step countingStore (surplusBatch reviewer)).countLines, ∀ sessionId,
      blocksFinalization sessionId line = true →
      ensureCountLineMutable line (DecisionOp.step countingStore (surplusBatch reviewer)) ≠ .error lineImmutable := by
  refine ⟨.next _ .start trivial, ?_, ?_⟩
  · intro line member
    cases member
  · intro isMutable
    have stored : (DecisionOp.step countingStore (surplusBatch reviewer)).countLines.map
        (fun line => (blocksFinalization "S1" line, isCountLineLocked line)) = [(true, true)] := by
      decide +kernel
    obtain ⟨line, lines, fields⟩ := List.map_eq_singleton_iff.mp stored
    simp only [Prod.mk.injEq] at fields
    refine isMutable line (by rw [lines]; simp) "S1" fields.1 ?_
    simp [ensureCountLineMutable, fields.2, require, bind, Except.bind, lineImmutable]

end StockVerification
