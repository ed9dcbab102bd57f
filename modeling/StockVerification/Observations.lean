import StockVerification.Foundation.Collection
import StockVerification.Foundation.Interleaving

/-!
# Decisions on an observation

Source: backend/api/approval_api.py:93-116, 169-231 and 353-390,
backend/services/approval_engine.py:36-345.

Automatic evaluations, supervisor decisions and additional-location responses interleave on one
observation. An evaluation reads the document, evaluates it and writes all of it back. Which other
observations of the session it finds is part of the request. The texts of the exceptions and the
decision documents are left out.
-/
namespace StockVerification

open Foundation

inductive SqlAvailability where
  | availableAtSubmission
  | reconstructed
  | availableAtSync
  | unavailable
  deriving DecidableEq

variable (observation : Doc)

def determineSqlSource : SqlAvailability :=
  if observation.get "sql_qty_at_submission" ≠ .null then .availableAtSubmission
  else if observation.get "reconstructed_qty" ≠ .null then .reconstructed
  else if (observation.get "sql_qty_at_recount").orElse (observation.get "sql_quantity") ≠ .null then
    .availableAtSync
  else .unavailable

/-- An evaluation without a figure from the server leaves the observation as it is. -/
def hasSqlFigure : Bool :=
  (observation.get "sql_qty_at_submission").truthy || determineSqlSource observation = .availableAtSync

def rowField (row : List (String × Atom)) (field : String) : Value := ((row.lookup field).map Atom.toValue).getD .null

/-- The rows of a list of embedded documents, none where the iteration raises. -/
def embeddedRows (value : Value) : Option (List (List (String × Atom))) :=
  if !value.truthy then some []
  else match value with
    | .rows rows => some rows
    | _ => none

def checkBatchVariance : Option Bool := do
  let batches ← embeddedRows (observation.get "batches")
  let physical ← batches.mapM fun batch => (rowField batch "counted_qty").numberOrZero
  let sql ← batches.mapM fun batch => (rowField batch "sql_qty").numberOrZero
  some (batches.isEmpty || decide (|physical.sum - sql.sum| ≤ 1 / 10000))

def checkSerialIntegrity : Option Bool := do
  let entries ← embeddedRows (observation.get "serial_entries")
  some (decide ((entries.map (rowField · "serial_number")).filter Value.truthy).Nodup)

def checkAttributeMismatch : Bool :=
  let differ (counted stored : String) : Bool :=
    (observation.get counted).truthy && (observation.get stored).truthy &&
      observation.get counted != observation.get stored
  !(observation.get "mrp_counted" != .null && observation.get "mrp_sql" != .null &&
      observation.get "mrp_counted" != observation.get "mrp_sql" ||
    differ "manufacturing_date" "manufacturing_date_sql" || differ "expiry_date" "expiry_date_sql")

def checkLocationPolicy : Bool :=
  let expected := observation.get "expected_location"
  let actual := ((observation.get "location_id").orElse (observation.get "mark_location")).orElse
    (observation.get "rack_no")
  !(expected.truthy && actual.truthy && expected != actual)

def checkDamagedStock : Option Bool := do
  let damaged ← (observation.get "damaged_qty").numberOrZero
  let nonReturnable ← (observation.get "non_returnable_damaged_qty").numberOrZero
  some !(decide (0 < damaged) || decide (0 < nonReturnable) || (observation.get "item_condition").truthy)

def checkProvisional : Option Bool :=
  let provisional := ((observation.get "is_provisional_batch").orElse
    (observation.get "is_provisional_bundle")).orElse (observation.get "is_new_bundle")
  match (observation.get "barcode").orElse (.str "") with
  | .str barcode => some !(provisional.truthy || "500100".toList.isPrefixOf barcode.toList)
  | _ => if provisional.truthy then some false else none

/-- Whether the session and the item are named, which two of the checks ask for. -/
def namesPlace : Bool :=
  (observation.get "session_id").truthy && (observation.get "item_code").truthy

/-- `_check_additional_location_investigation`, with the responses recorded for the observation. -/
def checkAdditionalLocation (responses : List String) : Bool :=
  !(namesPlace observation && responses.contains "NOT_CHECKED")

def checkMandatoryRemark : Option Bool :=
  match (observation.get "remark").orElse (.str "") with
  | .str remark => some (Text.strip remark != "")
  | _ => none

def checkRequiredParameters : Option Bool :=
  if !(observation.get "parameter_checks").truthy then some true
  else match observation.get "parameter_checks" with
    | .dict checks => some (checks.all fun check => check.2.toValue.truthy)
    | _ => none

def checkAccessoryCompleteness : Bool :=
  match observation.get "accessory_checks" with
  | .dict checks => checks.all fun check => check.2.toValue.truthy
  | _ => true

def checkPhotoEvidence : Bool := (observation.get "photo_proofs").truthy

/-- `_check_concurrent_conflict`, with the observations of the session's item that are not
approved. -/
def checkConcurrentConflict (others : List Doc) : Bool :=
  !(namesPlace observation && (others.take 2).any fun other => (other.get "id").text != (observation.get "id").text)

def checkSyncConflict : Bool :=
  !(observation.get "sync_status" == .str "conflict" || observation.get "sync_status" == .str "failed")

def checkPolicyThresholds (variance counted : ℚ) : Bool :=
  !(decide (0 < counted) && decide (50 < |variance / counted| * 100))

/-- A rule that was checked, with the exception that it adds if it fails. -/
structure CheckedRule where
  ruleName : String
  exceptionType : String
  passed : Bool

/-- The rules that do not look at the variance, none where a check raises. -/
def fixedRules (responses : List String) (others : List Doc) : Option (List CheckedRule) := do
  let batch ← checkBatchVariance observation
  let serial ← checkSerialIntegrity observation
  let damage ← checkDamagedStock observation
  let provisional ← checkProvisional observation
  let remark ← checkMandatoryRemark observation
  let parameters ← checkRequiredParameters observation
  some [⟨"batch_variance", "BATCH_VARIANCE", batch⟩, ⟨"serial_integrity", "SERIAL_CONFLICT", serial⟩,
    ⟨"attribute_match", "ATTRIBUTE_MISMATCH", checkAttributeMismatch observation⟩,
    ⟨"location_policy", "LOCATION_MISMATCH", checkLocationPolicy observation⟩,
    ⟨"damaged_stock", "DAMAGED_STOCK", damage⟩, ⟨"provisional_items", "PROVISIONAL_BATCH", provisional⟩,
    ⟨"additional_location", "LOCATION_INVESTIGATION", checkAdditionalLocation observation responses⟩,
    ⟨"mandatory_remark", "INCOMPLETE_EVIDENCE", remark⟩, ⟨"required_parameters", "ATTRIBUTE_MISMATCH", parameters⟩,
    ⟨"accessory_checks", "INCOMPLETE_EVIDENCE", checkAccessoryCompleteness observation⟩,
    ⟨"photo_evidence", "INCOMPLETE_EVIDENCE", checkPhotoEvidence observation⟩,
    ⟨"concurrent_conflict", "CONCURRENT_OBSERVATION", checkConcurrentConflict observation others⟩,
    ⟨"sync_conflict", "SYNC_CONFLICT", checkSyncConflict observation⟩]

/-- The rules in their order; the last one looks at the variance that `evaluate` has stored. -/
def ruleResults (variance counted : ℚ) (responses : List String) (others : List Doc) :
    Option (List CheckedRule) :=
  (fixedRules observation responses others).map fun rules =>
    rules ++ [⟨"policy_thresholds", "POLICY_THRESHOLD", checkPolicyThresholds variance counted⟩]

def exceptionTypes (variance counted : ℚ) (responses : List String) (others : List Doc) :
    Option (List String) :=
  (ruleResults observation variance counted responses others).map fun rules =>
    (rules.filter (!·.passed)).map (·.exceptionType)

/-- The value that `evaluate` sets both fields to. -/
def evaluationStatus (approved : Bool) : Value := .str (if approved then "AUTO_APPROVED" else "SUPERVISOR_REVIEW")

/-- The fields that `evaluate` sets when it comes to a result. -/
def evaluationFields (variance : ℚ) (exceptions : List String) : List (String × Value) :=
  let approved := exceptions.isEmpty && decide (variance = 0)
  [("variance", .num variance), ("exception_types", .list (exceptions.map .str)),
    ("exception_details", .rows (exceptions.map fun exception =>
      [("exception_type", .str exception), ("is_blocking", .bool true)])),
    ("system_recommendation", .str (if determineSqlSource observation = .unavailable then "PENDING_SQL"
      else if approved then "AUTO_APPROVE" else "SUPERVISOR_REVIEW")),
    ("status", evaluationStatus approved), ("approval_status", evaluationStatus approved)]

/-- `sql_qty` in the comparison, none where the subtraction raises. -/
def sqlQuantity : Option ℚ :=
  match observation.get "sql_qty_at_submission" with
  | .null => some 0
  | .num q => some q
  | .bool b => some (if b then 1 else 0)
  | _ => none

/-- `ApprovalEngine.evaluate`: the observation as it leaves it, none where it raises. -/
def evaluate (responses : List String) (others : List Doc) : Option Doc :=
  if !((observation.get "id").orElse (observation.get "_id")).truthy then some observation
  else if !hasSqlFigure observation then some observation
  else do
    let sqlQty ← sqlQuantity observation
    let counted ← (observation.get "counted_qty").numberOrZero
    let variance := roundPlaces 4 (counted - sqlQty)
    let exceptions ← exceptionTypes observation variance counted responses others
    some (observation.setAll (evaluationFields observation variance exceptions))

/-- Approved, rejected, or neither. -/
inductive Verdict where
  | approved
  | rejected
  | underReview
  deriving DecidableEq

/-- What a value of `status` or `approval_status` says. -/
def verdict (value : Value) : Verdict :=
  if value = .str "APPROVED" ∨ value = .str "AUTO_APPROVED" ∨ value = .str "ADJUSTED" then .approved
  else if value = .str "REJECTED" then .rejected
  else .underReview

def statuses : Value × Value := (observation.get "status", observation.get "approval_status")

structure SupervisorDecision where
  action : String
  notes : Value := .null
  correctedClassification : String := ""
  decidedBy : Value
  decidedAt : Int

/-- The update of `supervisor_decide`. -/
def supervisorDecideFields (decision : SupervisorDecision) : List (String × Value) :=
  [("supervisor_decision", .str decision.action), ("supervisor_notes", decision.notes),
    ("decided_by", decision.decidedBy), ("decided_at", .date decision.decidedAt),
    ("updated_at", .date decision.decidedAt)] ++
  (if decision.correctedClassification = "" then [] else [("item_condition", .str decision.correctedClassification)]) ++
  if decision.action = "APPROVE" then [("approval_status", .str "APPROVED"), ("status", .str "APPROVED")]
  else if decision.action = "REJECT" then [("approval_status", .str "REJECTED"), ("status", .str "REJECTED")]
  else if decision.action = "REQUEST_RECOUNT" then
    [("status", .str "RECOUNT_REQUESTED"), ("approval_status", .str "RECOUNT_REQUESTED")]
  else if decision.action = "ADJUST_COUNT" then [("approval_status", .str "ADJUSTED"), ("status", .str "APPROVED")]
  else []

/-- The update of `create_additional_location_investigation`. -/
def locationFields (response taskId : String) : List (String × Value) :=
  if response = "NOT_CHECKED" then [("status", .str "SUPERVISOR_REVIEW"), ("additional_location_response", .str response)]
  else [("additional_location_response", .str response), ("linked_location_task_id", .str taskId),
    ("status", .str "DISTRIBUTED_STOCK_INVESTIGATION")]

/-- One write of the observation: whether a supervisor made it, whether it approved or rejected, and
the two fields before and after. -/
structure ObservationWrite where
  bySupervisor : Bool
  decides : Bool
  before : Value × Value
  after : Value × Value

structure ObservationState where
  observation : Doc
  responses : List String := []
  writes : List ObservationWrite := []

inductive ObservationRequest where
  | evaluate (others : List Doc)
  | decide (decision : SupervisorDecision)
  | additionalLocation (response taskId : String)

inductive ObservationTask where
  | find (request : ObservationRequest)
  | evaluate (observation : Doc) (others : List Doc)
  | writeBack (read evaluated : Doc)
  | decide (decision : SupervisorDecision)
  | investigate (response taskId : String)
  | respond (response taskId : String)

def ObservationState.write (s : ObservationState) (bySupervisor decides : Bool) (fields : Doc) : ObservationState :=
  { s with
    observation := s.observation.update fields
    writes := s.writes ++ [⟨bySupervisor, decides, statuses s.observation, statuses (s.observation.update fields)⟩] }

/-- Whether a decision approves or rejects; an adjusted count is approved. -/
def SupervisorDecision.decides (decision : SupervisorDecision) : Bool :=
  decision.action == "APPROVE" || decision.action == "REJECT" || decision.action == "ADJUST_COUNT"

/-- One database call of an endpoint and what follows it. The calls of a decision that create a
recount request and the decision document do not touch the observation. -/
def resumeObservation (s : ObservationState) : ObservationTask → ObservationState × Option ObservationTask
  | .find (.evaluate others) => (s, some (.evaluate s.observation others))
  | .find (.decide decision) => (s, some (.decide decision))
  | .find (.additionalLocation response taskId) => (s, some (.investigate response taskId))
  | .evaluate observation others =>
    match evaluate observation s.responses others with
    | some evaluated => (s, some (.writeBack observation evaluated))
    | none => (s, none)
  | .writeBack _ evaluated => (s.write false false evaluated, none)
  | .decide decision => (s.write true decision.decides (Doc.ofList (supervisorDecideFields decision)), none)
  | .investigate response taskId => ({ s with responses := s.responses ++ [response] }, some (.respond response taskId))
  | .respond response taskId => (s.write false false (Doc.ofList (locationFields response taskId)), none)

abbrev Observing := Concurrent ObservationState ObservationTask

def Observing.step : Observing → Move ObservationRequest → Observing :=
  Concurrent.step (fun _ request => some (.find request)) resumeObservation

/-- Whether a supervisor has approved or rejected the observation. -/
def ObservationState.decided (s : ObservationState) : Bool := s.writes.any (·.decides)

/-- An evaluation writes back over the two fields that it has read, and not after a supervisor has
decided unless it came to no result. A response is recorded while the observation is under review,
and after a decision only if the status is what it sets. -/
def observationUndisturbed (c : Observing) : Move ObservationRequest → Bool
  | .resume slot =>
    match c.task slot with
    | some (.writeBack read _) =>
      statuses c.store.observation == statuses read && (!c.store.decided || !hasSqlFigure read)
    | some (.respond response _) =>
      verdict (c.store.observation.get "approval_status") == .underReview &&
        (!c.store.decided || c.store.observation.get "status" ==
          .str (if response = "NOT_CHECKED" then "SUPERVISOR_REVIEW" else "DISTRIBUTED_STOCK_INVESTIGATION"))
    | _ => true
  | _ => true

theorem statuses_update (fields : Doc) : statuses (observation.update fields) =
      ((fields "status").getD (observation.get "status"),
        (fields "approval_status").getD (observation.get "approval_status")) := by
  simp only [statuses, Doc.get, Doc.update_apply]
  cases fields "status" <;> cases fields "approval_status" <;> rfl

def Agreeing (fields : Value × Value) : Prop := verdict fields.1 = verdict fields.2

instance (fields : Value × Value) : Decidable (Agreeing fields) :=
  inferInstanceAs (Decidable (verdict fields.1 = verdict fields.2))

/-- An evaluation leaves the two fields as they are, or sets both to one value. -/
theorem evaluate_statuses {observation evaluated : Doc} {responses : List String}
    {others : List Doc} (done : evaluate observation responses others = some evaluated) :
    evaluated = observation ∨ hasSqlFigure observation = true ∧
      ∃ value, evaluated "status" = some value ∧ evaluated "approval_status" = some value := by
  unfold evaluate at done
  split at done
  · exact .inl (Option.some.inj done).symm
  · split at done
    · exact .inl (Option.some.inj done).symm
    · next figure =>
      rw [Bool.not_eq_true, Bool.not_eq_false'] at figure
      obtain ⟨sqlQty, _, done⟩ := Option.bind_eq_some_iff.mp done
      obtain ⟨counted, _, done⟩ := Option.bind_eq_some_iff.mp done
      obtain ⟨exceptions, _, done⟩ := Option.bind_eq_some_iff.mp done
      rw [← Option.some.inj done]
      refine .inr ⟨figure,
        evaluationStatus (exceptions.isEmpty && decide (roundPlaces 4 (counted - sqlQty) = 0)), ?_, ?_⟩
      · apply Doc.setAll_named
        simp [evaluationFields]
      · apply Doc.setAll_named
        simp [evaluationFields]

/-- A decision leaves the two fields as they are, or sets both to fields that agree. -/
theorem supervisorDecideFields_statuses (decision : SupervisorDecision) :
    (Doc.ofList (supervisorDecideFields decision) "status" = none ∧
      Doc.ofList (supervisorDecideFields decision) "approval_status" = none) ∨
      ∃ status approval, Doc.ofList (supervisorDecideFields decision) "status" = some status ∧
        Doc.ofList (supervisorDecideFields decision) "approval_status" = some approval ∧
        Agreeing (status, approval) := by
  unfold supervisorDecideFields
  simp only [Doc.ofList_append]
  have silent : ∀ field, field = "status" ∨ field = "approval_status" →
      (Doc.ofList [("supervisor_decision", .str decision.action), ("supervisor_notes", decision.notes),
        ("decided_by", decision.decidedBy), ("decided_at", .date decision.decidedAt),
        ("updated_at", .date decision.decidedAt)] field).or
        (Doc.ofList (if decision.correctedClassification = "" then []
          else [("item_condition", .str decision.correctedClassification)]) field) = none := by
    rintro field (rfl | rfl) <;> split <;> simp
  rw [silent _ (.inl rfl), silent _ (.inr rfl), Option.none_or, Option.none_or]
  split
  · exact .inr ⟨_, _, rfl, rfl, rfl⟩
  · split
    · exact .inr ⟨_, _, rfl, rfl, rfl⟩
    · split
      · exact .inr ⟨_, _, rfl, rfl, rfl⟩
      · split
        · exact .inr ⟨_, _, rfl, rfl, rfl⟩
        · exact .inl ⟨rfl, rfl⟩

theorem locationFields_statuses (response taskId : String) : Doc.ofList (locationFields response taskId) "status" =
      some (.str (if response = "NOT_CHECKED" then "SUPERVISOR_REVIEW" else "DISTRIBUTED_STOCK_INVESTIGATION")) ∧
    Doc.ofList (locationFields response taskId) "approval_status" = none := by
  unfold locationFields
  split
  · simp
  · simp

/-- After a write that approved or rejected, the two fields change only by a supervisor's write. -/
def DecisionsFinal (writes : List ObservationWrite) : Prop :=
  writes.Pairwise fun earlier later => earlier.decides = true → later.bySupervisor = true ∨ later.after = later.before

structure ObservationFollows (s : ObservationState) : Prop where
  final : DecisionsFinal s.writes
  agreeing : Agreeing (statuses s.observation)

/-- A task that writes an evaluation back got it from what it has read. -/
def ObservationTask.Evaluated (_ : ObservationState) : ObservationTask → Prop
  | .writeBack read evaluated => evaluated = read ∨ hasSqlFigure read = true ∧
      ∃ value, evaluated "status" = some value ∧ evaluated "approval_status" = some value
  | _ => True

theorem ObservationFollows.write {s : ObservationState} (follows : ObservationFollows s) {bySupervisor decides : Bool}
    {fields : Doc} (agreeing : Agreeing (statuses (s.observation.update fields)))
    (final : s.decided = true → bySupervisor = true ∨
      statuses (s.observation.update fields) = statuses s.observation) :
    ObservationFollows (s.write bySupervisor decides fields) := by
  refine ⟨?_, agreeing⟩
  apply List.pairwise_append.mpr
  refine ⟨follows.final, List.pairwise_singleton .., fun earlier member later isLater decided => ?_⟩
  rw [List.mem_singleton] at isLater
  subst isLater
  exact final (List.any_eq_true.mpr ⟨earlier, member, decided⟩)

theorem statuses_update_read {observation read : Doc} (current : statuses observation = statuses read) :
    statuses (observation.update read) = statuses observation := by
  have kept : ∀ field, observation.get field = read.get field →
      (read field).getD (observation.get field) = observation.get field := by
    intro field same
    cases present : read field with
    | none => rfl
    | some value =>
      rw [same]
      simp [Doc.get, present]
  rw [statuses_update, kept "status" (congrArg Prod.fst current), kept "approval_status" (congrArg Prod.snd current)]
  rfl

theorem verdict_locationStatus (response : String) :
    verdict (.str (if response = "NOT_CHECKED" then "SUPERVISOR_REVIEW" else "DISTRIBUTED_STOCK_INVESTIGATION")) =
      .underReview := by
  split
  · decide
  · decide

variable {c : Observing}

/-- What a task leaves when its step is not disturbed. -/
theorem ObservationFollows.resumed (follows : ObservationFollows c.store) {slot : Nat}
    {task : ObservationTask} (evaluated : task.Evaluated c.store)
    (quiet : observationUndisturbed c (.resume slot) = true) (held : c.task slot = some task) :
    ObservationFollows (resumeObservation c.store task).1 := by
  cases task with
  | find request => cases request <;> exact follows
  | evaluate observation others =>
    simp only [resumeObservation]
    split <;> exact follows
  | writeBack read result =>
    simp only [observationUndisturbed, held, Bool.and_eq_true, beq_iff_eq, Bool.or_eq_true, Bool.not_eq_true'] at quiet
    obtain ⟨current, open_⟩ := quiet
    rcases evaluated with unchanged | ⟨figure, value, status, approval⟩
    · subst unchanged
      have same := statuses_update_read current
      apply follows.write
      · rw [same]
        exact follows.agreeing
      · exact fun _ => .inr same
    · apply follows.write
      · rw [statuses_update, status, approval]
        rfl
      · intro decided
        rcases open_ with undecided | noFigure
        · rw [decided] at undecided
          cases undecided
        · rw [figure] at noFigure
          cases noFigure
  | decide decision =>
    apply follows.write
    · rw [statuses_update]
      rcases supervisorDecideFields_statuses decision with ⟨status, approval⟩ | ⟨_, _, status, approval, agree⟩
      · rw [status, approval]
        exact follows.agreeing
      · rw [status, approval]
        exact agree
    · exact fun _ => .inl rfl
  | investigate response taskId => exact ⟨follows.final, follows.agreeing⟩
  | respond response taskId =>
    simp only [observationUndisturbed, held, Bool.and_eq_true, beq_iff_eq, Bool.or_eq_true, Bool.not_eq_true'] at quiet
    obtain ⟨review, open_⟩ := quiet
    have after := statuses_update c.store.observation (Doc.ofList (locationFields response taskId))
    rw [(locationFields_statuses response taskId).1, (locationFields_statuses response taskId).2] at after
    apply follows.write
    · rw [after, Agreeing]
      exact (verdict_locationStatus response).trans review.symm
    · intro decided
      rcases open_ with undecided | same
      · rw [decided] at undecided
        cases undecided
      · right
        rw [after, statuses, same]
        rfl

theorem ObservationTask.evaluated_next {s after : ObservationState} {task next : ObservationTask}
    (goesOn : (resumeObservation s task).2 = some next) : next.Evaluated after := by
  cases task with
  | find request => cases request <;> cases goesOn <;> trivial
  | evaluate observation others =>
    simp only [resumeObservation] at goesOn
    split at goesOn
    · next result done =>
      cases goesOn
      exact evaluate_statuses done
    · cases goesOn
  | writeBack read result | decide decision | respond response taskId => cases goesOn
  | investigate response taskId =>
    cases goesOn
    trivial

abbrev ObservationSound : Observing → Prop := Concurrent.Sound ObservationFollows ObservationTask.Evaluated

theorem ObservationSound.step {move : Move ObservationRequest} (sound : ObservationSound c)
    (quiet : observationUndisturbed c move = true) : ObservationSound (Observing.step c move) := by
  apply Concurrent.Sound.step sound
  · intro slot request task _ begun
    cases begun
    trivial
  · intro slot task isResume held evaluated
    subst isResume
    refine ⟨sound.store.resumed evaluated quiet held, ?_, ?_⟩
    · intro next goesOn
      exact ObservationTask.evaluated_next goesOn
    · exact fun _ _ _ _ same => same

/-- Nothing has been written or is in flight, and the two fields of the observation agree. -/
structure ObservationStart (c : Observing) : Prop where
  unwritten : c.store.writes = []
  agreeing : Agreeing (statuses c.store.observation)
  idle : ∀ slot, c.task slot = none

theorem ObservationStart.sound (start : ObservationStart c) : ObservationSound c := by
  refine ⟨⟨?_, start.agreeing⟩, ?_⟩
  · rw [start.unwritten]
    exact List.Pairwise.nil
  · intro slot task held
    rw [start.idle] at held
    cases held

/-- When no evaluation or response is written over what it has not seen, a supervisor's decision is
final and the two fields agree. -/
theorem decisions_final {first last : Observing} (start : ObservationStart first)
    (run : Reaches Observing.step (fun c move => observationUndisturbed c move = true) first last) :
    DecisionsFinal last.store.writes ∧ Agreeing (statuses last.store.observation) := by
  have sound : ObservationSound last := run.invariant start.sound fun c move sound quiet => sound.step quiet
  exact ⟨sound.store.final, sound.store.agreeing⟩

/-- An observation whose count differs from the server's figure, under review. -/
def reviewedObservation : Observing where
  store := { observation := Doc.ofList [("id", .str "o1"), ("status", .str "SUPERVISOR_REVIEW"),
    ("approval_status", .str "SUPERVISOR_REVIEW"), ("sql_qty_at_submission", .num 10), ("counted_qty", .num 8)] }

theorem reviewedObservation_start : ObservationStart reviewedObservation :=
  ⟨rfl, by decide +kernel, fun _ => rfl⟩

def observationCall (request : ObservationRequest) (steps : Nat) : List (Move ObservationRequest) :=
  .start 0 request :: List.replicate steps (.resume 0)

def supervisorApproves : SupervisorDecision := { action := "APPROVE", decidedBy := .str "supervisor1", decidedAt := 1000 }

def supervisorRejects : SupervisorDecision := { action := "REJECT", decidedBy := .str "supervisor1", decidedAt := 2000 }

def decisionInTurn : List (Move ObservationRequest) :=
  observationCall (.evaluate []) 3 ++ observationCall (.additionalLocation "NOT_CHECKED" "t1") 3 ++
    observationCall (.decide supervisorApproves) 2 ++ observationCall (.decide supervisorRejects) 2

theorem decisions_final_in_turn :
    (DecisionsFinal (decisionInTurn.foldl Observing.step reviewedObservation).store.writes ∧
      Agreeing (statuses (decisionInTurn.foldl Observing.step reviewedObservation).store.observation)) ∧
    statuses (decisionInTurn.foldl Observing.step reviewedObservation).store.observation =
      (.str "REJECTED", .str "REJECTED") := by
  constructor
  · apply decisions_final reviewedObservation_start
    apply Reaches.of_admitted
    decide +kernel
  · decide +kernel

def responseAfterApproval : List (Move ObservationRequest) :=
  observationCall (.decide supervisorApproves) 2 ++ observationCall (.additionalLocation "YES" "t1") 3

/-- An evaluation that has read the observation before the approval writes it back afterwards. -/
def evaluationAcrossApproval : List (Move ObservationRequest) :=
  [.start 1 (.evaluate []), .resume 1, .resume 1] ++ observationCall (.decide supervisorApproves) 2 ++ [.resume 1]

/-- A response leaves the two fields apart, and an evaluation takes an approval back. -/
theorem decisions_undone :
    ¬ (∀ first last : Observing, ObservationStart first → Reaches Observing.step (fun _ _ => True) first last →
      DecisionsFinal last.store.writes ∧ Agreeing (statuses last.store.observation)) ∧
    statuses (responseAfterApproval.foldl Observing.step reviewedObservation).store.observation =
      (.str "DISTRIBUTED_STOCK_INVESTIGATION", .str "APPROVED") ∧
    (evaluationAcrossApproval.foldl Observing.step reviewedObservation).store.writes.map (·.after) =
      [(.str "APPROVED", .str "APPROVED"), (.str "SUPERVISOR_REVIEW", .str "SUPERVISOR_REVIEW")] := by
  have apart : statuses (responseAfterApproval.foldl Observing.step reviewedObservation).store.observation =
      (.str "DISTRIBUTED_STOCK_INVESTIGATION", .str "APPROVED") := by
    decide +kernel
  refine ⟨?_, apart, by decide +kernel⟩
  intro always
  have agrees := (always reviewedObservation _ reviewedObservation_start
    (Reaches.foldl fun _ (move : Move ObservationRequest) (_ : move ∈ responseAfterApproval) => trivial)).2
  rw [apart] at agrees
  exact absurd agrees (by decide)

end StockVerification
