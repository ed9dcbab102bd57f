import StockVerification.Foundation.Run
import StockVerification.LineEffects

/-!
# Count-line states

Source: backend/services/count_state_machine.py:29-119, 217-300,
backend/services/count_lines/governance.py:273-330 and
backend/services/count_lines/write_core.py:589-679.

Three writers set `status` and `approval_status`: the state machine, which knows six
states and writes the status alone, the governance of a counted line, and the approval
and rejection of a reviewed one. The log of transitions is left out.
-/
namespace StockVerification

open Foundation Foundation.Action

inductive CountLineState where
  | draft
  | submitted
  | pendingApproval
  | approved
  | rejected
  | locked
  deriving DecidableEq, Repr

namespace CountLineState

def value : CountLineState → String
  | .draft => "draft"
  | .submitted => "submitted"
  | .pendingApproval => "pending_approval"
  | .approved => "approved"
  | .rejected => "rejected"
  | .locked => "locked"

def ofValue (text : String) : Option CountLineState :=
  [draft, submitted, pendingApproval, approved, rejected, locked].find? fun state => state.value == text

/-- `StateTransition.TRANSITIONS`: the roles a transition asks for. -/
def requiredRoles : CountLineState → CountLineState → List String
  | .draft, .submitted => ["staff", "supervisor", "admin"]
  | .submitted, .pendingApproval => ["system"]
  | .submitted, .draft => ["supervisor", "admin"]
  | .pendingApproval, .approved => ["supervisor", "admin"]
  | .pendingApproval, .rejected => ["supervisor", "admin"]
  | .approved, .locked => ["admin"]
  | .approved, .draft => ["admin"]
  | .rejected, .draft => ["staff", "supervisor", "admin"]
  | _, _ => []

/-- `CountLineState(value)`, `none` where the conversion raises. -/
def ofStored : Value → Option CountLineState
  | .str text => ofValue text
  | _ => none

theorem ofStored_some {stored : Value} {state : CountLineState}
    (known : ofStored stored = some state) : stored = .str state.value := by
  unfold ofStored at known
  split at known
  · next text =>
    have matched := List.find?_some known
    rw [beq_iff_eq.mp matched]
  · cases known

end CountLineState

def canTransition (current : Value) (next role : String) : Bool :=
  match CountLineState.ofStored current, CountLineState.ofValue next with
  | some c, some n => (c.requiredRoles n).contains "system" || (c.requiredRoles n).contains role
  | _, _ => false

/-- `count_line.get("status", "draft")`. -/
def machineStatus (line : Doc) : Value := (line "status").getD (.str "draft")

structure MachineRequest where
  countLineId : String
  nextState : String
  userId : String
  userRole : String
  reason : Option String := none
  metadata : List (String × Atom) := []

/-- The fields a transition sets; it sets no approval status. -/
def machineFields (env : Env) (r : MachineRequest) : List (String × Value) :=
  [("status", .str r.nextState), ("updated_at", .date env.now), ("updated_by", .str r.userId)] ++
  (if r.nextState = "submitted" then
    [("submitted_at", .date env.now), ("submitted_by", .str r.userId)]
  else if r.nextState = "approved" then
    [("approved_at", .date env.now), ("approved_by", .str r.userId), ("approval_reason", optionalText r.reason)]
  else if r.nextState = "rejected" then
    [("rejected_at", .date env.now), ("rejected_by", .str r.userId), ("rejection_reason", optionalText r.reason)]
  else if r.nextState = "locked" then [("locked_at", .date env.now), ("locked_by", .str r.userId)]
  else []) ++
  (if r.metadata.isEmpty then [] else [("state_metadata", .dict r.metadata)]) ++
  (match r.metadata.lookup "assigned_to" with
    | some assigned => [("assigned_to", assigned.toValue)]
    | none => [])

/-- The context of a transition: the default mode, on the line's own session. -/
def machineContext (r : MachineRequest) (line : Doc) : WriteContext :=
  { sessionId := .str (line.get "session_id").textOrEmpty, username := r.userId }

/-- `CountLineStateMachine.transition`. -/
def machineTransition (env : Env) (r : MachineRequest) : Request Unit := do
  let line ← reads fun s => match s.countLines.find? (Filter.eq "id" (.str r.countLineId)).holds with
    | some line => .ok line
    | none => .error (.value ("Count line " ++ r.countLineId ++ " not found"))
  reads fun _ => require (canTransition (machineStatus line) r.nextState r.userRole)
    (.value ("Transition from " ++ (machineStatus line).text ++ " to " ++ r.nextState ++
      " not allowed for role " ++ r.userRole))
  let _ ← processWrite env (machineContext r line)
    (.updateOne (.eq "id" (.str r.countLineId)) (.ofSet (Doc.ofList (machineFields env r))))
  pure ()

/-- A write the governance decides on: it counts a line, and its context leaves the status
to the decision. -/
inductive GovernedWrite where
  | insert (document : Doc) (noId : document "_id" = none) (counted : document.has "counted_qty" = true)
  | update (f : Filter) (fields : Doc) (counted : fields.has "counted_qty" = true)

def GovernedWrite.op : GovernedWrite → WriteOp
  | .insert document .. => .insertOne document
  | .update f fields _ => .updateOne f (.ofSet fields)

inductive StatusOp where
  | machine (r : MachineRequest)
  | govern (ctx : WriteContext) (write : GovernedWrite) (plain : ctx.transition = none)
      (status : ctx.setStatusFromGovernance = true)
  | decide (ctx : WriteContext) (transition : StateTransition) (f : Filter) (fields : Doc)
      (asked : ctx.transition = some transition)
      (unnamed : ∀ field ∈ ["status", "approval_status", "counted_qty"], fields field = none)
  | review (user : User) (lineId : String) (decision : ReviewDecision)

def statusStep (s : Store) (op : Env × StatusOp) : Store :=
  match op.2 with
  | .machine r => (machineTransition op.1 r).final s
  | .govern ctx write _ _ => (processWrite op.1 ctx write.op).final s
  | .decide ctx _ f fields _ _ => (processWrite op.1 ctx (.updateOne f (.ofSet fields))).final s
  | .review user lineId decision => (reviewCountLine op.1 user lineId decision).final s

/-- Approved or locked exactly when the approval says so, and rejected likewise. -/
def StatusCoupled (line : Doc) : Prop :=
  ((line.get "status" = .str "approved" ∨ line.get "status" = .str "locked") ↔
    line.get "approval_status" = .str "APPROVED") ∧
  (line.get "status" = .str "rejected" ↔ line.get "approval_status" = .str "REJECTED")

instance : DecidablePred StatusCoupled := fun _ => inferInstanceAs (Decidable (_ ∧ _))

theorem StatusCoupled.congr {old new : Doc} (coupled : StatusCoupled old) (status : new "status" = old "status")
    (approval : new "approval_status" = old "approval_status") : StatusCoupled new := by
  unfold StatusCoupled
  rw [Doc.get_congr status, Doc.get_congr approval]
  exact coupled

variable {line : Doc}

theorem StatusCoupled.approved (status : line "status" = some (.str "approved"))
    (approval : line "approval_status" = some (.str "APPROVED")) : StatusCoupled line := by
  unfold StatusCoupled
  rw [Doc.get_of_some status, Doc.get_of_some approval]
  decide

theorem StatusCoupled.rejected (status : line "status" = some (.str "rejected"))
    (approval : line "approval_status" = some (.str "REJECTED")) : StatusCoupled line := by
  unfold StatusCoupled
  rw [Doc.get_of_some status, Doc.get_of_some approval]
  decide

theorem StatusCoupled.pending (status : line "status" = some (.str "pending"))
    (approval : line "approval_status" = some (.str "NEEDS_REVIEW")) : StatusCoupled line := by
  unfold StatusCoupled
  rw [Doc.get_of_some status, Doc.get_of_some approval]
  decide

variable {ctx : WriteContext} {env : Env}

/-- The governance writes both fields from one verdict. -/
theorem StatusCoupled.governed {session : Option Doc} {target item : Doc} {d : GovernanceDecision}
    (set : ctx.setStatusFromGovernance = true)
    (stamped : ∀ field ∈ ["status", "approval_status"], ∀ v, applyAuthoritativeFields env ctx session target d item
      field = some v → line field = some v) :
    StatusCoupled line := by
  have status : line "status" = some (.str d.status) := by
    apply stamped "status" (by simp)
    apply applyAuthoritativeFields_decided
    simp [decisionFields, set]
  have approval : line "approval_status" = some (.str d.approvalStatus) := by
    apply stamped "approval_status" (by simp)
    apply applyAuthoritativeFields_decided
    simp [decisionFields]
  cases verdict : d.requiresSupervisorApproval with
  | true =>
    rw [GovernanceDecision.status, verdict] at status
    rw [GovernanceDecision.approvalStatus, verdict] at approval
    exact .pending status approval
  | false =>
    rw [GovernanceDecision.status, verdict] at status
    rw [GovernanceDecision.approvalStatus, verdict] at approval
    exact .approved status approval

variable {s t : Store}

theorem govern_coupled {write : GovernedWrite} (plain : ctx.transition = none)
    (set : ctx.setStatusFromGovernance = true) (coupled : EachLine StatusCoupled s)
    (step : WriteStep env ctx write.op s t) : EachLine StatusCoupled t := by
  cases write with
  | insert document noId counted =>
    obtain ⟨p, result, prepared, executed⟩ := step
    obtain ⟨line, inserted, rfl, _⟩ := insertOne_effect noId prepared executed
    obtain ⟨hash, e, _, stamped⟩ := inserted.governed counted
    apply coupled.append
    apply StatusCoupled.governed set
    intro field listed v decided
    rw [stamped field (by rintro rfl; simp at listed)]
    exact decided
  | update f fields counted =>
    obtain ⟨final, checked, old, new, line, _, ⟨e, _, setEq⟩, fieldsEq⟩ := setOne_governed plain counted step
    apply coupled.updated line
    apply StatusCoupled.governed set
    intro field listed v decided
    rw [fieldsEq field, setEq, decided]
    rfl

theorem stateTransition_coupled {transition : StateTransition} {old new : Doc} (coupled : StatusCoupled old)
    (set : ∀ field ∈ ["status", "approval_status"], new field = (Doc.ofList (stateTransitionFields env ctx transition)
      field).or (old field)) :
    StatusCoupled new := by
  have status := set "status" (by simp)
  have approval := set "approval_status" (by simp)
  cases transition with
  | verify | unverify => exact coupled.congr status approval
  | approve => exact .approved status approval
  | reject => exact .rejected status approval

section

variable {transition : StateTransition} {f : Filter} {fields : Doc} (asked : ctx.transition = some transition)
include asked

/-- An `update_one` with a state transition, where it sets no quantity. -/
theorem transition_effect (uncounted : fields "counted_qty" = none)
    (step : WriteStep env ctx (.updateOne f (.ofSet fields)) s t) :
    ∃ u old new, UpdatedLine f u s t old new ∧ ∀ field, field ≠ "semantic_hash" →
      new field = ((Doc.ofList (stateTransitionFields env ctx transition) field).or
        (fields field)).or (old field) := by
  obtain ⟨p, result, prepared, executed⟩ := step
  obtain ⟨checked, moved, asserted, transitioned, enforced, _⟩ := prepareWrite_ok prepared
  simp only [assertMandatoryWriteInvariants, map_success] at asserted
  obtain ⟨stamped, checkedUpdate, rfl⟩ := asserted
  obtain ⟨existing, found, fingerprinted⟩ := assertUpdateInvariants_ok checkedUpdate
  simp only [applyStateTransition, asked, Except.ok.injEq] at transitioned
  subst transitioned
  have noQty : (stamped.set.setAll (stateTransitionFields env ctx transition)).has "counted_qty" =
      false := by
    have unset : Doc.ofList (stateTransitionFields env ctx transition) "counted_qty" = none := by
      cases transition with
      | verify => rfl
      | unverify => rfl
      | approve | reject =>
        simp only [stateTransitionFields]
        split <;> rfl
    simp [Doc.has, Doc.setAll, unset, fingerprinted.set "counted_qty" (by decide), Update.ofSet, uncounted]
  simp only [enforceVariance, noQty, Bool.false_eq_true, if_false, Except.ok.injEq] at enforced
  obtain ⟨new, line, _⟩ := executeUpdate_effect (.inl enforced.symm) found executed
  refine ⟨_, existing, new, line, ?_⟩
  intro field notHash
  have applied : new field = ((Doc.ofList (stateTransitionFields env ctx transition) field).or
      (stamped.set field)).or (existing field) := Update.apply_field line.applied
    (by simp [fingerprinted.inc, Update.ofSet]) (by simp [fingerprinted.push, Update.ofSet])
  rw [applied, fingerprinted.set field notHash]
  rfl

theorem decide_coupled (unnamed : ∀ field ∈ ["status", "approval_status", "counted_qty"], fields field = none)
    (coupled : EachLine StatusCoupled s)
    (step : WriteStep env ctx (.updateOne f (.ofSet fields)) s t) : EachLine StatusCoupled t := by
  obtain ⟨u, old, new, line, set⟩ := transition_effect asked (unnamed "counted_qty" (by simp)) step
  apply coupled.updated line
  apply stateTransition_coupled (coupled old line.mem)
  intro field listed
  have unset : fields field = none := by
    apply unnamed field
    simp only [List.mem_cons, List.not_mem_nil, or_false] at listed ⊢
    rcases listed with rfl | rfl
    · exact .inl rfl
    · exact .inr (.inl rfl)
  rw [set field (by rintro rfl; simp at listed), unset, Option.or_none]

end

theorem review_coupled {user : User} {decision : ReviewDecision} (coupled : EachLine StatusCoupled s)
    (step : WriteStep env (reviewContext line) (.updateOne (.eq "_id" (line.get "_id")) (.ofSet (Doc.ofList
      (decision.fields env user line)))) s t) :
    EachLine StatusCoupled t := by
  have uncounted : Doc.ofList (decision.fields env user line) "counted_qty" = none := by
    cases decision <;> rfl
  obtain ⟨stamped, old, new, updated, set, _⟩ := setOne_effect rfl uncounted step
  apply coupled.updated updated
  have status := set "status" (by decide)
  have approval := set "approval_status" (by decide)
  cases decision with
  | verify | unverify => exact (coupled old updated.mem).congr status approval
  | approve notes => exact .approved status approval
  | reject notes assignTo => exact .rejected status approval

/-- What a state says about the approval. -/
inductive StatusClass where
  | open
  | approved
  | rejected
  deriving DecidableEq

def CountLineState.statusClass : CountLineState → StatusClass
  | .approved | .locked => .approved
  | .rejected => .rejected
  | _ => .open

/-- Whether a transition of the state machine stays within what the approval status says:
among draft, submitted and pending approval, or from approved to locked. -/
def keepsClass (s : Store) (op : Env × StatusOp) : Bool :=
  match op.2 with
  | .machine r =>
    (s.countLines.find? (Filter.eq "id" (.str r.countLineId)).holds).all fun line =>
      (CountLineState.ofStored (machineStatus line)).map CountLineState.statusClass ==
        (CountLineState.ofValue r.nextState).map CountLineState.statusClass
  | _ => true

theorem statusClass_status {state : CountLineState}
    (known : CountLineState.ofStored (machineStatus line) = some state) :
    ((line.get "status" = .str "approved" ∨ line.get "status" = .str "locked") ↔ state.statusClass = .approved) ∧
    (line.get "status" = .str "rejected" ↔ state.statusClass = .rejected) := by
  cases stored : line "status" with
  | none =>
    rw [machineStatus, stored] at known
    cases known
    rw [Doc.get_eq, stored]
    decide
  | some value =>
    rw [machineStatus, stored, Option.getD_some] at known
    rw [Doc.get_of_some stored, CountLineState.ofStored_some known]
    cases state <;> decide

theorem machine_coupled {r : MachineRequest} (keeps : keepsClass s (env, .machine r) = true)
    (coupled : EachLine StatusCoupled s) : EachLine StatusCoupled ((machineTransition env r).final s) := by
  refine final_reads_bind coupled fun line found => ?_
  refine final_reads_bind coupled fun _ allowed => ?_
  refine final_bind_keep ?_ fun _ t _ kept => kept
  have here : s.countLines.find? (Filter.eq "id" (.str r.countLineId)).holds = some line := by
    split at found
    · next first => rw [first, Except.ok.inj found]
    · cases found
  refine final_governed (ofLines_eachLine StatusCoupled) coupled fun t step => ?_
  have uncounted : Doc.ofList (machineFields env r) "counted_qty" = none := by
    unfold machineFields
    split_ifs <;> cases r.metadata.lookup "assigned_to" <;> rfl
  have unapproved : Doc.ofList (machineFields env r) "approval_status" = none := by
    unfold machineFields
    split_ifs <;> cases r.metadata.lookup "assigned_to" <;> rfl
  obtain ⟨stamped, old, new, updated, set, _⟩ := setOne_effect rfl uncounted step
  apply coupled.updated updated
  have isLine : old = line := by
    have first := updated.found
    rw [here] at first
    exact (Option.some.inj first).symm
  subst isLine
  have status : new "status" = some (.str r.nextState) := set "status" (by decide)
  have approval : new "approval_status" = old "approval_status" := by
    rw [set "approval_status" (by decide), unapproved, Option.none_or]
  -- both states are known, and of one class
  rw [require_ok, canTransition] at allowed
  split at allowed
  · next current next currentKnown nextKnown =>
    have sameClass : current.statusClass = next.statusClass := by
      simpa [keepsClass, here, currentKnown, nextKnown] using keeps
    have nextStatus : CountLineState.ofStored (machineStatus new) = some next := by
      rw [machineStatus, status]
      exact nextKnown
    obtain ⟨wasApproved, wasRejected⟩ := statusClass_status currentKnown
    obtain ⟨nowApproved, nowRejected⟩ := statusClass_status nextStatus
    have before := coupled old updated.mem
    unfold StatusCoupled at before ⊢
    rw [Doc.get_congr approval, nowApproved, nowRejected, ← sameClass, ← wasApproved, ← wasRejected]
    exact before
  · cases allowed

theorem statusStep_coupled {op : Env × StatusOp} (keeps : keepsClass s op = true)
    (coupled : EachLine StatusCoupled s) : EachLine StatusCoupled (statusStep s op) := by
  obtain ⟨env, op⟩ := op
  cases op with
  | machine r => exact machine_coupled keeps coupled
  | govern ctx write plain status =>
    refine final_governed (ofLines_eachLine StatusCoupled) coupled fun t step => ?_
    exact govern_coupled plain status coupled step
  | decide ctx transition f fields asked unnamed =>
    refine final_governed (ofLines_eachLine StatusCoupled) coupled fun t step => ?_
    exact decide_coupled asked unnamed coupled step
  | review user lineId decision =>
    refine final_reviewCountLine (ofLines_eachLine StatusCoupled) coupled ?_
    intro t t' line _ _ inv step
    exact review_coupled inv step

/-- A state the machine stores is one it knows, and only a locked line cannot leave it. -/
theorem machineTransition_known {r : MachineRequest} {u : Unit} (ran : machineTransition env r s = .ok u t) :
    ∃ state : CountLineState, r.nextState = state.value ∧
      (state = .locked ∨ ∃ next role, canTransition (.str state.value) next role = true) := by
  simp only [machineTransition, bind_ok, reads_ok, require_ok] at ran
  obtain ⟨line, _, _, _, _, ⟨allowed, _⟩, _⟩ := ran
  rw [canTransition] at allowed
  split at allowed
  · next current next _ nextKnown =>
    refine ⟨next, Value.str.inj (CountLineState.ofStored_some nextKnown), ?_⟩
    cases next with
    | draft => exact .inr ⟨"submitted", "staff", by decide⟩
    | submitted => exact .inr ⟨"draft", "admin", by decide⟩
    | pendingApproval => exact .inr ⟨"approved", "admin", by decide⟩
    | approved => exact .inr ⟨"locked", "admin", by decide⟩
    | rejected => exact .inr ⟨"draft", "staff", by decide⟩
    | locked => exact .inl rfl
  · cases allowed

/-- Over governance decisions, reviews and the transitions that stay within one class, the
two fields stay in step. Every state the machine itself stores is one it knows and, unless
the line is locked for good, can leave. -/
theorem status_in_step {first last : Store} (start : EachLine StatusCoupled first)
    (run : Reaches statusStep (fun s op => keepsClass s op = true) first last) :
    EachLine StatusCoupled last ∧
      ∀ env r t u, machineTransition env r last = .ok u t →
        ∃ state : CountLineState, r.nextState = state.value ∧
          (state = .locked ∨ ∃ next role, canTransition (.str state.value) next role = true) := by
  constructor
  · exact run.invariant start fun s op coupled keeps => statusStep_coupled keeps coupled
  · intro env r t u ran
    exact machineTransition_known ran

/-- An approved line of an active session. -/
def deskApprovedLine : Doc := Doc.ofList
  [("_id", .oid "c1"), ("id", .str "line-1"), ("session_id", .str "s1"), ("item_code", .str "i1"),
    ("location_id", .str "l"), ("floor_id", .str "f"), ("rack_id", .str "r"),
    ("status", .str "approved"), ("approval_status", .str "APPROVED")]

/-- A line the governance sent to review, submitted by its counter since. -/
def submittedLine : Doc := Doc.ofList
  [("_id", .oid "c2"), ("id", .str "line-2"), ("session_id", .str "s1"), ("item_code", .str "i2"),
    ("location_id", .str "l"), ("floor_id", .str "f"), ("rack_id", .str "r"),
    ("status", .str "pending_approval"), ("approval_status", .str "NEEDS_REVIEW")]

def reviewedStore : Store where
  sessions := [Doc.ofList [("_id", .oid "a1"), ("id", .str "s1"), ("session_id", .str "s1"),
    ("status", .str "ACTIVE")]]
  countLines := [deskApprovedLine, submittedLine]

theorem reviewedStore_coupled : EachLine StatusCoupled reviewedStore := by
  intro line member
  rcases List.mem_pair.mp member with rfl | rfl
  · exact .approved rfl rfl
  · unfold StatusCoupled
    decide

def lockRequest : MachineRequest where
  countLineId := "line-1"
  nextState := "locked"
  userId := "root"
  userRole := "admin"

def approveRequest : MachineRequest where
  countLineId := "line-2"
  nextState := "approved"
  userId := "sudha"
  userRole := "supervisor"

theorem status_in_step_locked :
    EachLine StatusCoupled ([(sampleEnv, .machine lockRequest)].foldl statusStep reviewedStore) :=
  (status_in_step reviewedStore_coupled (Reaches.of_admitted (by decide +kernel))).1

theorem canTransition_locked (next role : String) : canTransition (.str "locked") next role = false := by
  unfold canTransition
  have known : CountLineState.ofStored (.str "locked") = some .locked := by decide
  rw [known]
  cases CountLineState.ofValue next with
  | none => rfl
  | some state => cases state <;> rfl

/-- A line the machine approves keeps the approval status it had, and a locked line can
leave its state by no transition. -/
theorem status_out_of_step :
    ¬ (∀ first last : Store, EachLine StatusCoupled first →
        Reaches statusStep (fun _ _ => True) first last → EachLine StatusCoupled last) ∧
    ¬ (∀ first last : Store, EachLine StatusCoupled first →
        Reaches statusStep (fun _ _ => True) first last → ∀ line ∈ last.countLines,
          ∃ next role, canTransition (machineStatus line) next role = true) := by
  constructor
  · intro always
    have reached : Reaches statusStep (fun _ _ => True) reviewedStore
        ([(sampleEnv, .machine approveRequest)].foldl statusStep reviewedStore) :=
      Reaches.foldl fun _ _ _ => trivial
    have coupled : ∀ line ∈ ([(sampleEnv, .machine approveRequest)].foldl statusStep
        reviewedStore).countLines, StatusCoupled line := always _ _ reviewedStore_coupled reached
    exact absurd coupled (by decide +kernel)
  · intro always
    have reached : Reaches statusStep (fun _ _ => True) reviewedStore
        ([(sampleEnv, .machine lockRequest)].foldl statusStep reviewedStore) :=
      Reaches.foldl fun _ _ _ => trivial
    have locked : ∃ line ∈ ([(sampleEnv, .machine lockRequest)].foldl statusStep
        reviewedStore).countLines, machineStatus line = .str "locked" := by decide +kernel
    obtain ⟨line, member, status⟩ := locked
    obtain ⟨next, role, allowed⟩ := always _ _ reviewedStore_coupled reached line member
    rw [status, canTransition_locked] at allowed
    cases allowed

end StockVerification
