import StockVerification.Foundation.Interleaving
import StockVerification.Foundation.Snapshots
import StockVerification.ResolutionGovernance

/-!
# Concurrent resolutions of one conflict

Source: backend/services/sync_conflicts_service.py:228-343.

A call reads the conflict and checks that it is pending. Then it either updates the conflict
alone, or begins a transaction whose first statement updates the conflict by its id, whatever its
status is by then, and which goes on to change or fork the entity. Calls for one conflict, manual
and automatic ones, interleave between these steps. Every transaction writes the conflict, so two
that overlap cannot both commit.
-/
namespace StockVerification

open Foundation Foundation.Action

structure ResolveCall where
  env : Env
  resolution : ConflictResolution
  resolvedBy : String
  merged : List (String × Value) := []

/-- What a call does next. -/
inductive ResolvePhase where
  | check
  | mark
  | begin (conflict : SyncConflictRow) (data : List (String × Value))
  | commit (conflict : SyncConflictRow) (data : List (String × Value)) (seen : Snapshot Store)

structure ResolveTask where
  call : ResolveCall
  phase : ResolvePhase

/-- The database, and the calls whose changes were committed, the last one first. -/
structure ResolvingState where
  db : Versioned Store
  applied : List ResolveCall := []

variable (conflictId : String)

def storedConflict (s : Store) : Option SyncConflictRow :=
  s.syncConflicts.find? (·.id == Text.lower conflictId)

def isPending (s : Store) : Bool :=
  (storedConflict conflictId s).any (·.status == "pending")

/-- The read, the check and the choice of the data. -/
def checkedPhase (call : ResolveCall) (s : Store) : Option ResolvePhase :=
  match storedConflict conflictId s with
  | none => none
  | some conflict =>
    if conflict.status != "pending" then none
    else match resolvedData conflict call.merged call.resolution with
      | .error _ => none
      | .ok data =>
        if call.resolution == .ignore || data.isEmpty then some .mark else some (.begin conflict data)

theorem checkedPhase_cases (call : ResolveCall) (s : Store) :
    checkedPhase conflictId call s = none ∨ checkedPhase conflictId call s = some .mark ∨
      ∃ conflict data, checkedPhase conflictId call s = some (.begin conflict data) := by
  unfold checkedPhase
  split
  · exact .inl rfl
  · split
    · exact .inl rfl
    · split
      · exact .inl rfl
      · split
        · exact .inr (.inl rfl)
        · exact .inr (.inr ⟨_, _, rfl⟩)

/-- The block of a call on what its transaction sees. -/
def ResolveCall.block (call : ResolveCall) (conflict : SyncConflictRow)
    (data : List (String × Value)) (seen : Snapshot Store) : EStateM.Result Error Store Unit :=
  resolutionBlock call.env seen.state conflictId call.resolvedBy call.resolution conflict data seen.state

/-- One step of a call. A call that is refused, fails or is aborted leaves nothing. -/
def resumeResolve (s : ResolvingState) (task : ResolveTask) :
    ResolvingState × Option ResolveTask :=
  match task.phase with
  | .check => (s, (checkedPhase conflictId task.call s.db.state).map fun phase => { task with phase := phase })
  | .mark =>
    ({ s with db := s.db.write (markedStore conflictId task.call.resolvedBy task.call.resolution s.db.state) }, none)
  | .begin conflict data => (s, some { task with phase := .commit conflict data s.db.snapshot })
  | .commit conflict data seen =>
    match task.call.block conflictId conflict data seen with
    | .error _ _ => (s, none)
    | .ok _ next =>
      match s.db.commit seen next with
      | none => (s, none)
      | some db => ({ db := db, applied := task.call :: s.applied }, none)

def startResolve (_ : ResolvingState) (call : ResolveCall) : Option ResolveTask := some ⟨call, .check⟩

abbrev Resolving := Concurrent ResolvingState ResolveTask

def Resolving.step : Resolving → Move ResolveCall → Resolving :=
  Concurrent.step startResolve (resumeResolve conflictId)

variable {data : List (String × Value)} {conflictId resolvedBy : String}
  {resolution : ConflictResolution} {conflict : SyncConflictRow} {s : Store} {call : ResolveCall}

/-- `t` holds the same conflicts as `s`. -/
def SameConflicts (s t : Store) : Prop := t.syncConflicts = s.syncConflicts

instance : Std.Refl SameConflicts where
  refl _ := rfl

instance : IsTrans Store SameConflicts where
  trans _ _ _ first second := second.trans first

variable {t : Store}

theorem OnlySessions.sameConflicts (only : OnlySessions s t) : SameConflicts s t := by
  obtain ⟨_, _, rfl⟩ := only
  rfl

variable (env : Env)

theorem moves_processWriteCore_conflicts (committed : Store) (ctx : WriteContext) (op : WriteOp) :
    Moves SameConflicts (processWriteCore env committed ctx op) := by
  intro s
  refine final_processWriteCore (P := SameConflicts s) rfl ?_
  intro p result t u _ executed later
  obtain ⟨lines, _, rfl⟩ := executeCountLineOperation_ok executed
  exact later.sameConflicts

/-- Applying data touches no conflict. -/
theorem moves_applyResolvedData_conflicts (committed : Store) (entityType entityId : String)
    (data : List (String × Value)) :
    Moves SameConflicts (applyResolvedData env committed entityType entityId data) := by
  unfold applyResolvedData
  split
  · refine Moves.bind (Moves.reads _) fun found => ?_
    cases found with
    | none => exact Moves.pure ()
    | some session => exact moves_applyResolvedSession (fun _ _ _ _ => rfl) env entityId session data
  · split
    · refine Moves.bind (Moves.reads _) fun found => ?_
      cases found with
      | none => exact Moves.pure ()
      | some line =>
        refine Moves.bind (Moves.reads _) fun fields => ?_
        exact Moves.bind (moves_processWriteCore_conflicts env committed _ _) fun _ => Moves.pure ()
    · split
      · refine Moves.writes fun s t written => ?_
        simp only [bind_success, pure_success] at written
        obtain ⟨_, _, rfl⟩ := written
        rfl
      · exact Moves.pure ()

theorem block_conflicts {seen : Snapshot Store} {answer : Unit} {next : Store}
    (ran : call.block conflictId conflict data seen = .ok answer next) :
    next.syncConflicts = (markedStore conflictId call.resolvedBy call.resolution seen.state).syncConflicts := by
  simp only [ResolveCall.block, resolutionBlock, bind_ok, reads_ok, markConflict_ok] at ran
  obtain ⟨_, _, rfl, forked, _, ⟨_, rfl⟩, ran⟩ := ran
  split at ran
  · obtain ⟨_, rfl⟩ := pure_ok.mp ran
    rfl
  · have kept := moves_applyResolvedData_conflicts call.env seen.state conflict.entityType conflict.entityId data
      (markedStore conflictId call.resolvedBy call.resolution seen.state)
    rw [final_of_ok ran] at kept
    exact kept

theorem storedConflict_marked
    (marked : t.syncConflicts = (markedStore conflictId resolvedBy resolution s).syncConflicts) :
    storedConflict conflictId t = (storedConflict conflictId s).map (settledConflict resolvedBy resolution) := by
  rw [storedConflict, storedConflict, marked, markedStore]
  induction s.syncConflicts with
  | nil => rfl
  | cons row rest ih =>
    by_cases named : row.id = Text.lower conflictId
    · have keeps : (settledConflict resolvedBy resolution row).id = Text.lower conflictId := named
      simp [named, keeps]
    · simpa [named] using ih

theorem settledConflict_status (resolvedBy : String) (resolution : ConflictResolution)
    (row : SyncConflictRow) : (settledConflict resolvedBy resolution row).status ≠ "pending" := by
  unfold settledConflict
  split
  · exact of_decide_eq_true rfl
  · exact of_decide_eq_true rfl

theorem isPending_marked (marked : t.syncConflicts = (markedStore conflictId resolvedBy resolution s).syncConflicts) :
    isPending conflictId t = false := by
  rw [isPending, storedConflict_marked marked]
  cases storedConflict conflictId s with
  | none => rfl
  | some row => simpa using settledConflict_status resolvedBy resolution row

/-- The stored conflict is settled, and names this call's resolution and caller. -/
def SettledBy (conflictId : String) (call : ResolveCall) (s : Store) : Prop :=
  ∃ row, storedConflict conflictId s = some row ∧ row.status ≠ "pending" ∧
    row.resolution = call.resolution.name ∧ row.resolvedBy = call.resolvedBy

/-- At most one call was applied, and the conflict tells of that one. -/
structure AppliedOnce (conflictId : String) (s : ResolvingState) : Prop where
  once : s.applied.length ≤ 1
  settled : ∀ call ∈ s.applied, SettledBy conflictId call s.db.state

/-- Whether the conflict is still pending where a call is about to update it, or to begin the
transaction that does. -/
def stillPending (conflictId : String) (c : Resolving) : Move ResolveCall → Bool
  | .resume slot =>
    match c.task slot with
    | some { call := _, phase := .mark } | some { call := _, phase := .begin _ _ } =>
      isPending conflictId c.store.db.state
    | _ => true
  | _ => true

/-- What a run keeps: a pending conflict was never applied, and every transaction in flight
began on a pending conflict. -/
structure ResolvingSound (conflictId : String) (c : Resolving) : Prop where
  once : AppliedOnce conflictId c.store
  untouched : isPending conflictId c.store.db.state = true → c.store.applied = []
  begun : ∀ slot task conflict data seen, c.task slot = some task →
    task.phase = .commit conflict data seen → seen.Of c.store.db ∧ isPending conflictId seen.state = true

theorem settledBy_marked (pending : isPending conflictId s = true)
    (marked : t.syncConflicts = (markedStore conflictId call.resolvedBy call.resolution s).syncConflicts) :
    SettledBy conflictId call t := by
  unfold isPending at pending
  cases stored : storedConflict conflictId s with
  | none =>
    rw [stored] at pending
    cases pending
  | some row =>
    refine ⟨settledConflict call.resolvedBy call.resolution row, ?_, settledConflict_status _ _ row, rfl, rfl⟩
    rw [storedConflict_marked marked, stored]
    rfl

variable {c : Resolving}

section

variable (sound : ResolvingSound conflictId c)
include sound

/-- The commit of a transaction is the first one. -/
theorem ResolvingSound.commit {seen : Snapshot Store} {answer : Unit} {next : Store} {db : Versioned Store}
    (of : seen.Of c.store.db) (pending : isPending conflictId seen.state = true)
    (ran : call.block conflictId conflict data seen = .ok answer next)
    (committed : c.store.db.commit seen next = some db) :
    AppliedOnce conflictId { db := db, applied := call :: c.store.applied } ∧
      db = c.store.db.write next ∧ isPending conflictId next = false := by
  obtain ⟨same, rfl⟩ := of.commit committed
  have marked := block_conflicts ran
  have unapplied : c.store.applied = [] := sound.untouched (by rw [← same]; exact pending)
  refine ⟨⟨?_, ?_⟩, rfl, isPending_marked marked⟩
  · rw [unapplied]
    exact Nat.le_refl 1
  · intro other member
    rw [unapplied, List.mem_singleton] at member
    subst member
    exact settledBy_marked pending marked

theorem ResolvingSound.step {move : Move ResolveCall} (still : stillPending conflictId c move = true) :
    ResolvingSound conflictId (c.step conflictId move) := by
  have each : Concurrent.Sound (fun s => AppliedOnce conflictId s ∧
    (isPending conflictId s.db.state = true → s.applied = []))
      (fun s t => ∀ conflict data seen, t.phase = .commit conflict data seen →
        seen.Of s.db ∧ isPending conflictId seen.state = true) c :=
    ⟨⟨sound.once, sound.untouched⟩, fun n t holds conflict data seen => sound.begun n t conflict data seen holds⟩
  have next := @Concurrent.Sound.step _ _ _ move _ _ startResolve (resumeResolve conflictId) c each (by
    intro slot call t _ started conflict data seen running
    cases started
    cases running) (by
    rintro slot ⟨call, phase⟩ rfl held own
    cases phase with
    | check =>
      refine ⟨each.store, fun next resumed conflict data seen running => ?_, fun _ _ _ _ kept => kept⟩
      simp only [resumeResolve, Option.map_eq_some_iff] at resumed
      obtain ⟨phase, checked, rfl⟩ := resumed
      simp only at running
      subst running
      rcases checkedPhase_cases conflictId call c.store.db.state with refused | marks | ⟨_, _, begins⟩
      · rw [refused] at checked
        cases checked
      · rw [marks] at checked
        cases checked
      · rw [begins] at checked
        cases checked
    | mark =>
      have pending : isPending conflictId c.store.db.state = true := by
        simpa [stillPending, held] using still
      have unapplied := sound.untouched pending
      refine ⟨⟨⟨?_, ?_⟩, ?_⟩, fun next resumed => (nomatch resumed), fun _ u _ _ kept conflict data seen running => ?_⟩
      · simp [resumeResolve, unapplied]
      · simp [resumeResolve, unapplied]
      · simp [resumeResolve, unapplied]
      · obtain ⟨of, began⟩ := kept conflict data seen running
        exact ⟨of.write _, began⟩
    | begin read chosen =>
      have pending : isPending conflictId c.store.db.state = true := by
        simpa [stillPending, held] using still
      refine ⟨each.store, fun next resumed conflict data seen running => ?_, fun _ _ _ _ kept => kept⟩
      cases resumed
      cases running
      exact ⟨.snapshot _, pending⟩
    | commit read chosen seen =>
      obtain ⟨of, began⟩ := own read chosen seen rfl
      simp only [resumeResolve]
      split
      · exact ⟨each.store, fun next resumed => (nomatch resumed), fun _ _ _ _ kept => kept⟩
      · next answer next ran =>
        split
        · exact ⟨each.store, fun next resumed => (nomatch resumed), fun _ _ _ _ kept => kept⟩
        · next db committed =>
          obtain ⟨once, rfl, settled⟩ := sound.commit of began ran committed
          refine ⟨⟨once, fun pending => ?_⟩, fun next resumed => (nomatch resumed),
            fun _ u _ _ kept conflict data seen running => ?_⟩
          · rw [Versioned.write, settled] at pending
            cases pending
          · obtain ⟨of, began⟩ := kept conflict data seen running
            exact ⟨of.write _, began⟩)
  exact ⟨next.store.1, next.store.2, fun n t conflict data seen holds => next.tasks n t holds conflict data seen⟩

end

/-- Before the calls: the conflict is pending, and nothing was applied or is in flight. -/
structure ResolvingStart (conflictId : String) (c : Resolving) : Prop where
  pending : isPending conflictId c.store.db.state = true
  unapplied : c.store.applied = []
  idle : ∀ slot, c.task slot = none

theorem ResolvingStart.sound (start : ResolvingStart conflictId c) : ResolvingSound conflictId c := by
  refine ⟨⟨?_, ?_⟩, fun _ => start.unapplied, ?_⟩
  · rw [start.unapplied]
    exact Nat.zero_le 1
  · intro call member
    rw [start.unapplied] at member
    cases member
  · intro slot task conflict data seen held
    rw [start.idle] at held
    cases held

/-- As long as nobody settles the conflict between a call's check and the start of its update, the
conflict is applied at most once. -/
theorem conflict_applied_once {conflictId : String} {first last : Resolving} (start : ResolvingStart conflictId first)
    (run : Reaches (Resolving.step conflictId) (fun c move => stillPending conflictId c move = true) first last) :
    AppliedOnce conflictId last.store :=
  (run.invariant start.sound fun _ _ sound meets => sound.step meets).once

def keepsLocal : ResolveCall where
  env := sampleEnv
  resolution := .acceptLocal
  resolvedBy := "desk"

def mergesRemark : ResolveCall where
  env := sampleEnv
  resolution := .merge
  resolvedBy := "sudha"
  merged := [("counted_qty", .num 4), ("remark", .str "checked")]

def pendingRemark : Resolving where
  store := { db := { state := conflictStore harmlessNote } }

theorem pendingRemark_start : ResolvingStart "c1" pendingRemark := by
  refine ⟨?_, rfl, fun _ => rfl⟩
  decide +kernel

def resolvedInTurn : List (Move ResolveCall) :=
  [.start 0 keepsLocal, .resume 0, .resume 0, .resume 0, .start 1 mergesRemark, .resume 1]

theorem conflict_applied_once_in_turn :
    AppliedOnce "c1" (resolvedInTurn.foldl (Resolving.step "c1") pendingRemark).store ∧
      (resolvedInTurn.foldl (Resolving.step "c1") pendingRemark).store.applied.length = 1 := by
  refine ⟨conflict_applied_once pendingRemark_start (Reaches.of_admitted ?_), ?_⟩
  · decide +kernel
  · decide +kernel

def resolvedAtOnce : List (Move ResolveCall) :=
  [.start 0 keepsLocal, .start 1 mergesRemark, .resume 0, .resume 1, .resume 0, .resume 0, .resume 1, .resume 1]

def remarks (c : Resolving) : List (Option Value) := c.store.db.state.countLines.map fun line => line "remark"

/-- The second call checks before the first one commits and begins after it: it changes the line
and the stored resolution once more. -/
theorem conflict_applied_twice :
    (remarks ((resolvedAtOnce.take 6).foldl (Resolving.step "c1") pendingRemark) = [some (.str "seen")] ∧
      remarks (resolvedAtOnce.foldl (Resolving.step "c1") pendingRemark) = [some (.str "checked")]) ∧
    ¬ ∀ (conflictId : String) (first last : Resolving), ResolvingStart conflictId first →
      Reaches (Resolving.step conflictId) (fun _ _ => True) first last → AppliedOnce conflictId last.store := by
  constructor
  · decide +kernel
  · intro always
    have reached : Reaches (Resolving.step "c1") (fun _ _ => True) pendingRemark
        (resolvedAtOnce.foldl (Resolving.step "c1") pendingRemark) := Reaches.foldl fun _ _ _ => trivial
    have once := (always "c1" pendingRemark _ pendingRemark_start reached).once
    revert once
    decide +kernel

end StockVerification
