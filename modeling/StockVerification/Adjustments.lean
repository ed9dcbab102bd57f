import StockVerification.Foundation.Interleaving
import StockVerification.Store

/-!
# Inventory adjustments

An adjustment is posted by inserting a ledger entry and moving its state afterwards, and
rolled back in the same way. The state is read, the entry inserted, the state read again
and written in separate calls, and the write is not conditional on the state that was
read. Two posts that have both seen `AUTHORIZED` both insert an entry.
-/
namespace StockVerification

open Foundation

inductive AdjustmentState where
  | draft
  | proposed
  | pendingAuthorization
  | authorized
  | posted
  | finalized
  | voided
  | rolledBack
  deriving DecidableEq, Repr

def AdjustmentState.transitions : AdjustmentState → List AdjustmentState
  | .draft => [.pendingAuthorization]
  | .proposed => [.pendingAuthorization, .voided]
  | .pendingAuthorization => [.authorized, .voided]
  | .authorized => [.posted, .voided]
  | .posted => [.finalized, .rolledBack]
  | .finalized => []
  | .voided => []
  | .rolledBack => []

structure Actor where
  username : Option String := none
  userId : Option String := none

structure Adjustment where
  sessionId : String
  itemCode : String
  locationId : String
  countedQty : ℚ
  expectedQty : ℚ
  variance : ℚ
  varianceReason : String
  state : AdjustmentState

/-- What the fields of an entry say about its kind. -/
inductive LedgerMovement where
  | posting (postedBy : Option String)
  | reversal (reason : String) (reversedBy : Option String)

structure LedgerEntry where
  adjustmentId : String
  sessionId : String
  itemCode : String
  locationId : String
  variance : ℚ
  movement : LedgerMovement

def LedgerEntry.isReversal (entry : LedgerEntry) : Bool :=
  match entry.movement with
  | .posting _ => false
  | .reversal _ _ => true

structure AdjustmentStore where
  adjustments : String → Option Adjustment := fun _ => none
  ledger : List LedgerEntry := []

variable (s : AdjustmentStore)

def AdjustmentStore.put (adjustmentId : String) (stored : Option Adjustment) :
    AdjustmentStore :=
  { s with adjustments := Function.update s.adjustments adjustmentId stored }

def AdjustmentStore.record (entry : LedgerEntry) : AdjustmentStore :=
  { s with ledger := s.ledger ++ [entry] }

inductive AdjustmentError where
  | notRealActor
  | tokenRefused
  | notFound (adjustmentId : String)
  | wrongState (adjustmentId : String) (current expected : AdjustmentState)
  | invalidTransition (source target : AdjustmentState)
  deriving DecidableEq, Repr

def requireRealActor (actor : Actor) : Except AdjustmentError Unit :=
  let given := fun text : Option String => (text.getD "" != "")
  let name := if given actor.username then actor.username.getD "" else actor.userId.getD ""
  let username := Text.strip name
  if username == "" || username == "system" || username == "conflict_resolver" then
    .error .notRealActor
  else .ok ()

def loadAndAssertState (adjustmentId : String) (expected : AdjustmentState) :
    Except AdjustmentError Adjustment :=
  match s.adjustments adjustmentId with
  | none => .error (.notFound adjustmentId)
  | some a => if a.state = expected then .ok a else .error (.wrongState adjustmentId a.state expected)

def assertTransition (source target : AdjustmentState) : Except AdjustmentError Unit :=
  if target ∈ source.transitions then .ok () else .error (.invalidTransition source target)

structure Proposal where
  sessionId : String
  itemCode : String
  locationId : String
  countedQty : ℚ
  expectedQty : ℚ
  varianceReason : String

def Proposal.draft (p : Proposal) : Adjustment where
  sessionId := p.sessionId
  itemCode := p.itemCode
  locationId := p.locationId
  countedQty := p.countedQty
  expectedQty := p.expectedQty
  variance := p.countedQty - p.expectedQty
  varianceReason := p.varianceReason
  state := .draft

/-- The operations of the service. A proposal comes with its new id, an authorization
with the verdict on its override token. -/
inductive AdjustmentOp where
  | createProposal (proposal : Proposal)
  | submitForReview
  | authorize (tokenValid : Bool)
  | postToLedger
  | finalize
  | void (reason : String)
  | rollback (reason : String)

structure AdjustmentRequest where
  adjustmentId : String
  actor : Actor
  op : AdjustmentOp

/-- What an operation in flight does next. -/
inductive AdjustmentCall where
  | insertProposal (adjustment : Adjustment)
  | insertPosting (adjustment : Adjustment)
  | insertReversal (adjustment : Adjustment) (reason : String)
  | readState (target : AdjustmentState)
  | writeState (target : AdjustmentState)

structure AdjustmentTask where
  adjustmentId : String
  actor : Actor
  call : AdjustmentCall

/-- The first step of an operation, up to its first read. -/
def beginAdjustment (r : AdjustmentRequest) :
    Except AdjustmentError AdjustmentCall :=
  match r.op with
  | .createProposal proposal => do
    requireRealActor r.actor
    pure (.insertProposal proposal.draft)
  | .submitForReview => pure (.readState .pendingAuthorization)
  | .authorize tokenValid => if tokenValid then pure (.readState .authorized) else .error .tokenRefused
  | .postToLedger => do
    requireRealActor r.actor
    let adjustment ← loadAndAssertState s r.adjustmentId .authorized
    pure (.insertPosting adjustment)
  | .finalize => pure (.readState .finalized)
  | .void _ => pure (.readState .voided)
  | .rollback reason => do
    requireRealActor r.actor
    let adjustment ← loadAndAssertState s r.adjustmentId .posted
    pure (.insertReversal adjustment reason)

variable (t : AdjustmentTask)

def postingEntry (a : Adjustment) : LedgerEntry where
  adjustmentId := t.adjustmentId
  sessionId := a.sessionId
  itemCode := a.itemCode
  locationId := a.locationId
  variance := a.variance
  movement := .posting t.actor.username

def reversalEntry (a : Adjustment) (reason : String) : LedgerEntry where
  adjustmentId := t.adjustmentId
  sessionId := a.sessionId
  itemCode := a.itemCode
  locationId := a.locationId
  variance := -a.variance
  movement := .reversal reason t.actor.username

/-- The checks of `_transition` on the document it reads. -/
def checkTransition (target : AdjustmentState) :
    Except AdjustmentError Unit := do
  requireRealActor t.actor
  match s.adjustments t.adjustmentId with
  | none => .error (.notFound t.adjustmentId)
  | some a => assertTransition a.state target

/-- One call to the database and what follows it. -/
def resumeAdjustment :
    AdjustmentStore × Option AdjustmentTask :=
  match t.call with
  | .insertProposal adjustment =>
    (s.put t.adjustmentId (some adjustment), none)
  | .insertPosting adjustment =>
    (s.record (postingEntry t adjustment), some { t with call := .readState .posted })
  | .insertReversal adjustment reason =>
    (s.record (reversalEntry t adjustment reason), some { t with call := .readState .rolledBack })
  | .readState target =>
    match checkTransition s t target with
    | .ok _ => (s, some { t with call := .writeState target })
    | .error _ => (s, none)
  | .writeState target =>
    (s.put t.adjustmentId ((s.adjustments t.adjustmentId).map fun a => { a with state := target }), none)

def startAdjustment (r : AdjustmentRequest) : Option AdjustmentTask :=
  (beginAdjustment s r).toOption.map fun call =>
    { adjustmentId := r.adjustmentId, actor := r.actor, call := call }

abbrev Adjusting := Concurrent AdjustmentStore AdjustmentTask

def Adjusting.step : Adjusting → Move AdjustmentRequest → Adjusting :=
  Concurrent.step startAdjustment resumeAdjustment

/-- The entries of an adjustment: whether each is a reversal, and its quantity. -/
def AdjustmentStore.movements (adjustmentId : String) : List (Bool × ℚ) :=
  (s.ledger.filter (·.adjustmentId == adjustmentId)).map fun entry => (entry.isReversal, entry.variance)

@[simp] theorem movements_put (id other : String) (stored : Option Adjustment) :
    (s.put id stored).movements other = s.movements other := rfl

variable {entry : LedgerEntry} {id : String}

theorem movements_record_self
    (same : entry.adjustmentId = id) :
    (s.record entry).movements id = s.movements id ++ [(entry.isReversal, entry.variance)] := by
  simp [AdjustmentStore.movements, AdjustmentStore.record, List.filter_append, same]

theorem movements_record_other
    (other : entry.adjustmentId ≠ id) : (s.record entry).movements id = s.movements id := by
  simp [AdjustmentStore.movements, AdjustmentStore.record, List.filter_append, other]

/-- What the ledger should hold for an adjustment in a state. -/
def AdjustmentState.expected (state : AdjustmentState) (variance : ℚ) : List (Bool × ℚ) :=
  match state with
  | .posted | .finalized => [(false, variance)]
  | .rolledBack => [(false, variance), (true, -variance)]
  | _ => []

def Balanced (id : String) : Prop :=
  s.movements id = ((s.adjustments id).map fun a => a.state.expected a.variance).getD []

/-- The states whose ledger entry is inserted before the state is written. -/
def AdjustmentState.recorded (target : AdjustmentState) : Bool :=
  target == .posted || target == .rolledBack

/-- The ledger entry was inserted and the state not yet written. -/
def AdjustmentTask.recorded : Bool :=
  match t.call with
  | .readState target | .writeState target => target.recorded
  | _ => false

/-- The adjustment is as it was before the operation; the ledger is as it should be
afterwards. -/
def Recorded (id : String) (target : AdjustmentState) : Prop :=
  ∃ a, s.adjustments id = some a ∧ target ∈ a.state.transitions ∧ s.movements id = target.expected a.variance

/-- What holds of a task while no other works on its adjustment. -/
def TaskSound : Prop :=
  match t.call with
  | .insertProposal adjustment =>
      Balanced s t.adjustmentId ∧ s.adjustments t.adjustmentId = none ∧ adjustment.state = .draft
  | .insertPosting adjustment =>
      Balanced s t.adjustmentId ∧ s.adjustments t.adjustmentId = some adjustment ∧
        adjustment.state = .authorized ∧ requireRealActor t.actor = .ok ()
  | .insertReversal adjustment _ =>
      Balanced s t.adjustmentId ∧ s.adjustments t.adjustmentId = some adjustment ∧
        adjustment.state = .posted ∧ requireRealActor t.actor = .ok ()
  | .readState target =>
      if target.recorded then Recorded s t.adjustmentId target ∧ requireRealActor t.actor = .ok ()
      else Balanced s t.adjustmentId
  | .writeState target =>
      if target.recorded then Recorded s t.adjustmentId target
      else Balanced s t.adjustmentId ∧
        ∃ a, s.adjustments t.adjustmentId = some a ∧ target ∈ a.state.transitions

variable {s : AdjustmentStore} {t : AdjustmentTask}

theorem TaskSound.balanced (sound : TaskSound s t) (unrecorded : t.recorded = false) : Balanced s t.adjustmentId := by
  unfold TaskSound at sound
  unfold AdjustmentTask.recorded at unrecorded
  split at sound
  · exact sound.1
  · exact sound.1
  · exact sound.1
  · next target read =>
    rw [read] at unrecorded
    rwa [if_neg (by simp [unrecorded])] at sound
  · next target read =>
    rw [read] at unrecorded
    rw [if_neg (by simp [unrecorded])] at sound
    exact sound.1

/-- Everything above looks at one adjustment only. -/
structure SameAt (id : String) (s t : AdjustmentStore) : Prop where
  adjustment : t.adjustments id = s.adjustments id
  movements : t.movements id = s.movements id

theorem SameAt.balanced {t : AdjustmentStore} (same : SameAt id s t) (balanced : Balanced s id) :
    Balanced t id := by
  rw [Balanced, same.adjustment, same.movements]
  exact balanced

theorem SameAt.taskSound {t : AdjustmentStore} {task : AdjustmentTask}
    (same : SameAt task.adjustmentId s t) (sound : TaskSound s task) : TaskSound t task := by
  have recorded : ∀ target, Recorded t task.adjustmentId target = Recorded s task.adjustmentId target := by
    intro target
    simp only [Recorded, same.adjustment, same.movements]
  have balanced : Balanced t task.adjustmentId = Balanced s task.adjustmentId := by
    simp only [Balanced, same.adjustment, same.movements]
  unfold TaskSound at sound ⊢
  simpa only [recorded, balanced, same.adjustment] using sound

theorem resumeAdjustment_frame (s : AdjustmentStore) (t : AdjustmentTask)
    (other : t.adjustmentId ≠ id) : SameAt id s (resumeAdjustment s t).1 := by
  unfold resumeAdjustment
  split
  · exact ⟨Function.update_of_ne (Ne.symm other) .., rfl⟩
  · exact ⟨rfl, movements_record_other s other⟩
  · exact ⟨rfl, movements_record_other s other⟩
  · split <;> exact ⟨rfl, rfl⟩
  · exact ⟨Function.update_of_ne (Ne.symm other) .., rfl⟩

variable {target : AdjustmentState}

theorem expected_of_transition {source : AdjustmentState} (allowed : target ∈ source.transitions)
    (unrecorded : target.recorded = false) (variance : ℚ) : target.expected variance = source.expected variance := by
  cases source <;> cases target <;>
    first | rfl | exact absurd allowed (by decide) | exact absurd unrecorded (by decide)

theorem checkTransition_ok (checked : checkTransition s t target = .ok ()) :
    ∃ a, s.adjustments t.adjustmentId = some a ∧ target ∈ a.state.transitions := by
  simp only [checkTransition, bind_success] at checked
  obtain ⟨_, _, allowed⟩ := checked
  split at allowed
  · cases allowed
  · next a stored =>
    refine ⟨a, stored, ?_⟩
    unfold assertTransition at allowed
    split at allowed
    · assumption
    · cases allowed

theorem checkTransition_of_recorded (recorded : Recorded s t.adjustmentId target)
    (real : requireRealActor t.actor = .ok ()) : checkTransition s t target = .ok () := by
  obtain ⟨a, stored, allowed, _⟩ := recorded
  simp [checkTransition, real, stored, assertTransition, allowed, bind, Except.bind]

variable {a : Adjustment}

theorem recorded_of_record (balanced : Balanced s id)
    (stored : s.adjustments id = some a) (own : entry.adjustmentId = id) (allowed : target ∈ a.state.transitions)
    (grown : target.expected a.variance = a.state.expected a.variance ++ [(entry.isReversal, entry.variance)]) :
    Recorded (s.record entry) id target := by
  refine ⟨a, stored, allowed, ?_⟩
  rw [movements_record_self s own, grown, balanced, stored]
  rfl

/-- Every call of an operation that is alone on its adjustment. -/
theorem resumeAdjustment_sound (sound : TaskSound s t) :
    match (resumeAdjustment s t).2 with
    | some next => TaskSound (resumeAdjustment s t).1 next ∧ next.adjustmentId = t.adjustmentId
    | none => Balanced (resumeAdjustment s t).1 t.adjustmentId := by
  obtain ⟨id, actor, call⟩ := t
  cases call with
  | insertProposal a =>
    obtain ⟨balanced, absent, draft⟩ := sound
    rw [Balanced, absent] at balanced
    change (s.put id (some a)).movements id = _
    rw [movements_put, balanced]
    simp [AdjustmentStore.put, resumeAdjustment, AdjustmentState.expected, draft]
  | insertPosting a =>
    obtain ⟨balanced, stored, authorized, real⟩ := sound
    have recorded : Recorded (s.record (postingEntry ⟨id, actor, .insertPosting a⟩ a)) id .posted := by
      refine recorded_of_record balanced stored rfl ?_ ?_
      · rw [authorized]
        decide
      · rw [authorized]
        rfl
    exact ⟨⟨recorded, real⟩, rfl⟩
  | insertReversal a reason =>
    obtain ⟨balanced, stored, posted, real⟩ := sound
    have recorded : Recorded (s.record (reversalEntry ⟨id, actor, .insertReversal a reason⟩ a reason)) id
        .rolledBack := by
      refine recorded_of_record balanced stored rfl ?_ ?_
      · rw [posted]
        decide
      · rw [posted]
        rfl
    exact ⟨⟨recorded, real⟩, rfl⟩
  | readState target =>
    cases recordedEq : target.recorded with
    | true =>
      simp only [TaskSound, recordedEq, if_true] at sound
      have checked : checkTransition s ⟨id, actor, .readState target⟩ target = .ok () :=
        checkTransition_of_recorded sound.1 sound.2
      simp only [resumeAdjustment, checked, TaskSound, recordedEq, if_true, and_true]
      exact sound.1
    | false =>
      simp only [TaskSound, recordedEq, Bool.false_eq_true, if_false] at sound
      simp only [resumeAdjustment]
      cases checked : checkTransition s ⟨id, actor, .readState target⟩ target with
      | ok _ =>
        simp only [TaskSound, recordedEq, Bool.false_eq_true, if_false, and_true]
        exact ⟨sound, checkTransition_ok checked⟩
      | error e => exact sound
  | writeState target =>
    have finished : ∃ a, s.adjustments id = some a ∧ s.movements id = target.expected a.variance := by
      cases recordedEq : target.recorded with
      | true =>
        simp only [TaskSound, recordedEq, if_true] at sound
        obtain ⟨a, stored, _, moved⟩ := sound
        exact ⟨a, stored, moved⟩
      | false =>
        simp only [TaskSound, recordedEq, Bool.false_eq_true, if_false] at sound
        obtain ⟨balanced, a, stored, allowed⟩ := sound
        refine ⟨a, stored, ?_⟩
        rw [expected_of_transition allowed recordedEq, balanced, stored]
        rfl
    obtain ⟨a, stored, moved⟩ := finished
    change (s.put id ((s.adjustments id).map fun a => { a with state := target })).movements id = _
    rw [movements_put, moved]
    simp [AdjustmentStore.put, resumeAdjustment, stored]

theorem loadAndAssertState_ok {expected : AdjustmentState}
    (loaded : loadAndAssertState s id expected = .ok a) : s.adjustments id = some a ∧ a.state = expected := by
  unfold loadAndAssertState at loaded
  split at loaded
  · cases loaded
  · next stored =>
    split at loaded
    · next state =>
      cases loaded
      exact ⟨stored, state⟩
    · cases loaded

/-- The first step of an operation that is alone on its adjustment. -/
theorem startAdjustment_sound {r : AdjustmentRequest} (started : startAdjustment s r = some t)
    (balanced : Balanced s r.adjustmentId)
    (fresh : ∀ proposal, r.op = .createProposal proposal → s.adjustments r.adjustmentId = none) :
    TaskSound s t ∧ t.adjustmentId = r.adjustmentId := by
  obtain ⟨id, actor, op⟩ := r
  obtain ⟨call, begun, rfl⟩ := Option.map_eq_some_iff.mp started
  have begun : beginAdjustment s { adjustmentId := id, actor := actor, op := op } = .ok call := by
    cases begunEq : beginAdjustment s { adjustmentId := id, actor := actor, op := op } with
    | error e => rw [begunEq] at begun; cases begun
    | ok c => rw [begunEq] at begun; cases begun; rfl
  refine ⟨?_, rfl⟩
  cases op with
  | createProposal proposal =>
    simp only [beginAdjustment, bind_success, pure_success] at begun
    obtain ⟨_, _, rfl⟩ := begun
    exact ⟨balanced, fresh proposal rfl, rfl⟩
  | submitForReview | finalize | void reason =>
    cases begun
    exact balanced
  | authorize tokenValid =>
    simp only [beginAdjustment] at begun
    split at begun
    · cases begun
      exact balanced
    · cases begun
  | postToLedger | rollback reason =>
    simp only [beginAdjustment, bind_success, pure_success] at begun
    obtain ⟨_, real, a, loaded, rfl⟩ := begun
    obtain ⟨stored, state⟩ := loadAndAssertState_ok loaded
    exact ⟨balanced, stored, state, real⟩

/-- One operation at a time on each adjustment: it starts when none is in flight, with a
new id for a proposal, and is not abandoned between its ledger entry and its state. -/
def OneAtATime (c : Adjusting) : Move AdjustmentRequest → Prop
  | .start _ r => (∀ n t, c.task n = some t → t.adjustmentId ≠ r.adjustmentId) ∧
      ∀ proposal, r.op = .createProposal proposal → c.store.adjustments r.adjustmentId = none
  | .resume _ => True
  | .abandon slot => ∀ t, c.task slot = some t → t.recorded = false

structure AdjustingSound (c : Adjusting) : Prop where
  single : ∀ m n t u, c.task m = some t → c.task n = some u → t.adjustmentId = u.adjustmentId → m = n
  tasks : ∀ n t, c.task n = some t → TaskSound c.store t
  idle : ∀ id, (∀ n t, c.task n = some t → t.adjustmentId ≠ id) → Balanced c.store id

variable {c : Adjusting}

section

variable (sound : AdjustingSound c) {slot : ℕ}
include sound

theorem AdjustingSound.started {r : AdjustmentRequest} (free : c.task slot = none)
    (alone : OneAtATime c (.start slot r)) :
    AdjustingSound { c with task := Function.update c.task slot (startAdjustment c.store r) } := by
  have balanced := sound.idle r.adjustmentId alone.1
  have begun : ∀ t, startAdjustment c.store r = some t → TaskSound c.store t ∧ t.adjustmentId = r.adjustmentId :=
    fun t started => startAdjustment_sound started balanced alone.2
  refine ⟨?_, ?_, ?_⟩
  · intro m n t u heldM heldN same
    rcases Concurrent.update_task heldM with ⟨rfl, started⟩ | ⟨_, oldM⟩
    · rcases Concurrent.update_task heldN with ⟨rfl, _⟩ | ⟨_, oldN⟩
      · rfl
      · exact absurd (same.symm.trans (begun t started).2) (alone.1 n u oldN)
    · rcases Concurrent.update_task heldN with ⟨rfl, started⟩ | ⟨_, oldN⟩
      · exact absurd (same.trans (begun u started).2) (alone.1 m t oldM)
      · exact sound.single m n t u oldM oldN same
  · intro n t held
    rcases Concurrent.update_task held with ⟨_, started⟩ | ⟨_, old⟩
    · exact (begun t started).1
    · exact sound.tasks n t old
  · intro id nobody
    refine sound.idle id fun n t held => nobody n t ?_
    have other : n ≠ slot := by
      rintro rfl
      rw [free] at held
      cases held
    exact (Function.update_of_ne other ..).trans held

theorem AdjustingSound.resumed (held : c.task slot = some t) :
    AdjustingSound { store := (resumeAdjustment c.store t).1
                     task := Function.update c.task slot (resumeAdjustment c.store t).2 } := by
  have continued := resumeAdjustment_sound (sound.tasks slot t held)
  have others : ∀ n u, n ≠ slot → c.task n = some u → t.adjustmentId ≠ u.adjustmentId :=
    fun n u differ heldN same => differ (sound.single slot n t u held heldN same).symm
  have sameId : ∀ next, (resumeAdjustment c.store t).2 = some next →
      TaskSound (resumeAdjustment c.store t).1 next ∧ next.adjustmentId = t.adjustmentId := by
    intro next more
    rwa [more] at continued
  refine ⟨?_, ?_, ?_⟩
  · intro m n u v heldM heldN same
    rcases Concurrent.update_task heldM with ⟨rfl, more⟩ | ⟨differM, oldM⟩
    · rcases Concurrent.update_task heldN with ⟨rfl, _⟩ | ⟨differN, oldN⟩
      · rfl
      · exact absurd ((sameId u more).2.symm.trans same) (others n v differN oldN)
    · rcases Concurrent.update_task heldN with ⟨rfl, more⟩ | ⟨_, oldN⟩
      · exact absurd ((sameId v more).2.symm.trans same.symm) (others m u differM oldM)
      · exact sound.single m n u v oldM oldN same
  · intro n u heldN
    rcases Concurrent.update_task heldN with ⟨_, more⟩ | ⟨differ, old⟩
    · exact (sameId u more).1
    · exact (resumeAdjustment_frame c.store t (others n u differ old)).taskSound (sound.tasks n u old)
  · intro id nobody
    by_cases own : t.adjustmentId = id
    · subst own
      cases ended : (resumeAdjustment c.store t).2 with
      | none => rwa [ended] at continued
      | some next =>
        have heldNext : Function.update c.task slot (resumeAdjustment c.store t).2 slot = some next := by
          rw [Function.update_self, ended]
        exact absurd (sameId next ended).2 (nobody slot next heldNext)
    · refine (resumeAdjustment_frame c.store t own).balanced (sound.idle id fun n u heldN => ?_)
      by_cases here : n = slot
      · subst here
        rw [held] at heldN
        cases heldN
        exact own
      · exact nobody n u ((Function.update_of_ne here ..).trans heldN)

theorem AdjustingSound.abandoned (unrecorded : OneAtATime c (.abandon slot)) :
    AdjustingSound { c with task := Function.update c.task slot none } := by
  have remaining : ∀ n t, Function.update c.task slot none n = some t → c.task n = some t := by
    intro n t held
    rcases Concurrent.update_task held with ⟨_, dropped⟩ | ⟨_, old⟩
    · cases dropped
    · exact old
  refine ⟨?_, ?_, ?_⟩
  · intro m n t u heldM heldN
    exact sound.single m n t u (remaining m t heldM) (remaining n u heldN)
  · intro n t held
    exact sound.tasks n t (remaining n t held)
  · intro id nobody
    by_cases own : ∃ t, c.task slot = some t ∧ t.adjustmentId = id
    · obtain ⟨t, held, rfl⟩ := own
      exact (sound.tasks slot t held).balanced (unrecorded t held)
    · refine sound.idle id fun n t held same => ?_
      by_cases here : n = slot
      · subst here
        exact own ⟨t, held, same⟩
      · exact nobody n t ((Function.update_of_ne here ..).trans held) same

end

theorem AdjustingSound.step {move : Move AdjustmentRequest} (sound : AdjustingSound c)
    (alone : OneAtATime c move) : AdjustingSound (Adjusting.step c move) := by
  rcases Concurrent.step_cases startAdjustment resumeAdjustment c move with
    nothing | ⟨slot, r, rfl, free, after⟩ | ⟨slot, t, rfl, held, after⟩ | ⟨slot, rfl, after⟩
  · rw [Adjusting.step, nothing]
    exact sound
  · rw [Adjusting.step, after]
    exact sound.started free alone
  · rw [Adjusting.step, after]
    exact sound.resumed held
  · rw [Adjusting.step, after]
    exact sound.abandoned alone

/-- The quantities the ledger records for an adjustment, added up. -/
def AdjustmentStore.ledgerQty (s : AdjustmentStore) (adjustmentId : String) : ℚ :=
  ((s.ledger.filter (·.adjustmentId == adjustmentId)).map (·.variance)).sum

def AdjustmentStore.postings (s : AdjustmentStore) (adjustmentId : String) : ℕ :=
  (s.ledger.filter (·.adjustmentId == adjustmentId)).countP (!·.isReversal)

def AdjustmentStore.reversals (s : AdjustmentStore) (adjustmentId : String) : ℕ :=
  (s.ledger.filter (·.adjustmentId == adjustmentId)).countP (·.isReversal)

theorem ledgerQty_movements (s : AdjustmentStore) (id : String) :
    s.ledgerQty id = ((s.movements id).map Prod.snd).sum := by
  rw [AdjustmentStore.ledgerQty, AdjustmentStore.movements, List.map_map]
  rfl

theorem postings_movements (s : AdjustmentStore) (id : String) : s.postings id = (s.movements id).countP (!·.1) := by
  rw [AdjustmentStore.postings, AdjustmentStore.movements, List.countP_map]
  rfl

theorem reversals_movements (s : AdjustmentStore) (id : String) : s.reversals id = (s.movements id).countP (·.1) := by
  rw [AdjustmentStore.reversals, AdjustmentStore.movements, List.countP_map]
  rfl

theorem expected_sum (state : AdjustmentState) (variance : ℚ) :
    ((state.expected variance).map Prod.snd).sum = if state = .posted ∨ state = .finalized then variance else 0 := by
  cases state <;> simp [AdjustmentState.expected]

theorem expected_counts (state : AdjustmentState) (variance : ℚ) :
    (state.expected variance).countP (!·.1) ≤ 1 ∧ (state.expected variance).countP (·.1) ≤ 1 := by
  cases state <;> simp [AdjustmentState.expected]

/-- In every state the ledger of an adjustment is that of one of its states. -/
theorem AdjustingSound.movements (sound : AdjustingSound c) (stored : c.store.adjustments id = some a) :
    ∃ state : AdjustmentState, c.store.movements id = state.expected a.variance := by
  have balancedCase : Balanced c.store id →
      ∃ state : AdjustmentState, c.store.movements id = state.expected a.variance := by
    intro balanced
    rw [Balanced, stored] at balanced
    exact ⟨a.state, balanced⟩
  by_cases busy : ∃ n t, c.task n = some t ∧ t.adjustmentId = id
  · obtain ⟨n, t, held, rfl⟩ := busy
    have taskSound := sound.tasks n t held
    cases recordedEq : t.recorded with
    | false => exact balancedCase (taskSound.balanced recordedEq)
    | true =>
      have recordedCase : ∀ target, Recorded c.store t.adjustmentId target →
          ∃ state : AdjustmentState, c.store.movements t.adjustmentId = state.expected a.variance := by
        rintro target ⟨b, same, _, moved⟩
        rw [stored] at same
        cases same
        exact ⟨target, moved⟩
      unfold AdjustmentTask.recorded at recordedEq
      unfold TaskSound at taskSound
      split at recordedEq
      · next target read =>
        rw [read] at taskSound
        simp only [recordedEq, if_true] at taskSound
        exact recordedCase target taskSound.1
      · next target written =>
        rw [written] at taskSound
        simp only [recordedEq, if_true] at taskSound
        exact recordedCase target taskSound
      · cases recordedEq
  · exact balancedCase (sound.idle id fun n t held same => busy ⟨n, t, held, same⟩)

/-- Along every run with one operation at a time on each adjustment: while no operation
stands between its ledger entry and its state, the ledger adds up to the variance of a
posted or finalized adjustment and to 0 for any other; and there is never a second
posting or a second reversal. -/
theorem ledger_balanced_of_run {first last : Adjusting} (init : AdjustingSound first)
    (run : Reaches Adjusting.step OneAtATime first last) {id : String} {a : Adjustment}
    (stored : last.store.adjustments id = some a) :
    ((∀ n t, last.task n = some t → t.adjustmentId = id → t.recorded = false) →
      last.store.ledgerQty id = if a.state = .posted ∨ a.state = .finalized then a.variance else 0) ∧
    last.store.postings id ≤ 1 ∧ last.store.reversals id ≤ 1 := by
  have sound : AdjustingSound last := run.invariant init fun _ _ inv alone => inv.step alone
  refine ⟨fun settled => ?_, ?_⟩
  · have balanced : Balanced last.store id := by
      by_cases busy : ∃ n t, last.task n = some t ∧ t.adjustmentId = id
      · obtain ⟨n, t, held, rfl⟩ := busy
        exact (sound.tasks n t held).balanced (settled n t held rfl)
      · exact sound.idle id fun n t held same => busy ⟨n, t, held, same⟩
    rw [Balanced, stored] at balanced
    rw [ledgerQty_movements, balanced]
    exact expected_sum a.state a.variance
  · obtain ⟨state, moved⟩ := sound.movements stored
    rw [postings_movements, reversals_movements, moved]
    exact expected_counts state a.variance

/-- Three pieces more than expected, authorized. -/
def surplusAdjustment : Adjustment where
  sessionId := "S1"
  itemCode := "I1"
  locationId := "W1"
  countedQty := 15
  expectedQty := 12
  variance := 3
  varianceReason := "Found extra units on shelf"
  state := .authorized

def authorizedStore : Adjusting where
  store := { adjustments := fun id => if id = "A1" then some surplusAdjustment else none }

def poster : Actor := { username := some "supervisor1" }

def postA1 (slot : ℕ) : Move AdjustmentRequest :=
  .start slot { adjustmentId := "A1", actor := poster, op := .postToLedger }

def runAdjusting (moves : List (Move AdjustmentRequest)) : Adjusting :=
  moves.foldl Adjusting.step authorizedStore

theorem adjustingSound_authorizedStore : AdjustingSound authorizedStore := by
  refine ⟨fun m n t u held => (by cases held), fun n t held => (by cases held), fun id _ => ?_⟩
  simp only [Balanced, authorizedStore]
  by_cases here : id = "A1"
  · simp [here, AdjustmentStore.movements, surplusAdjustment, AdjustmentState.expected]
  · simp [here, AdjustmentStore.movements]

def postedOnce : Adjusting := runAdjusting [postA1 0, .resume 0, .resume 0, .resume 0]

theorem ledger_balanced_postedOnce :
    (postedOnce.store.adjustments "A1").map (·.state) = some .posted ∧
    postedOnce.store.ledgerQty "A1" = 3 ∧
    postedOnce.store.postings "A1" ≤ 1 ∧ postedOnce.store.reversals "A1" ≤ 1 := by
  have run : Reaches Adjusting.step OneAtATime authorizedStore postedOnce := by
    refine Reaches.head (postA1 0) ⟨fun n t held => (by cases held), ?_⟩ (Reaches.foldl ?_)
    · intro proposal created
      cases created
    · intro c move member
      simp only [List.mem_cons, List.not_mem_nil, or_false, or_self] at member
      subst member
      trivial
  have stored : postedOnce.store.adjustments "A1" = some { surplusAdjustment with state := .posted } := rfl
  have result := ledger_balanced_of_run adjustingSound_authorizedStore run stored
  refine ⟨by rw [stored]; rfl, ?_, result.2⟩
  refine (result.1 fun n t held _ => ?_).trans (if_pos (.inl rfl))
  have idle : postedOnce.task n = none := by
    by_cases here : n = 0
    · subst here
      rfl
    · refine Concurrent.foldl_task_other startAdjustment resumeAdjustment ?_ authorizedStore
      intro move member
      simp only [List.mem_cons, List.not_mem_nil, or_false, or_self] at member
      rcases member with rfl | rfl <;> exact here
  rw [idle] at held
  cases held

/-- Two posts that both read `AUTHORIZED` before either inserts. -/
def postedTwice : Adjusting :=
  runAdjusting [postA1 0, postA1 1, .resume 0, .resume 1, .resume 0, .resume 0, .resume 1]

theorem ledger_unbalanced_postedTwice :
    Reaches Adjusting.step (fun _ _ => True) authorizedStore postedTwice ∧
    AdjustingSound authorizedStore ∧ postedTwice.task 0 = none ∧ postedTwice.task 1 = none ∧
    (postedTwice.store.adjustments "A1").map (fun a => (a.state, a.variance)) = some (.posted, 3) ∧
    postedTwice.store.ledgerQty "A1" = 6 ∧ postedTwice.store.postings "A1" = 2 := by
  refine ⟨?_, adjustingSound_authorizedStore, by decide +kernel, by decide +kernel, by decide +kernel,
    by decide +kernel, by decide +kernel⟩
  exact Reaches.foldl fun _ _ _ => trivial

end StockVerification
