import StockVerification.ConflictRaces
import StockVerification.Foundation.Attempts

/-!
# Automatic conflict resolution

Source: backend/services/sync_conflicts_service.py:120-137, 185-214 and 561-619.

The pending conflicts are read newest first, up to a limit, and resolved one after the other. A
database error and a ValueError leave the conflict to the next run; any other exception ends this
one. A comparison of dates raises a TypeError where only one of them has a zone, which no other part
of a request does.
-/
namespace StockVerification

open Foundation Foundation.Action

inductive AutoFailure where
  | raised (error : Error)
  | typeError

/-- `except (PyMongoError, ValueError)`. -/
def AutoFailure.caught : AutoFailure → Bool
  | .raised (.value _) => true
  | .raised (.database _) => true
  | _ => false

/-- A date, with or without a zone. -/
inductive IsoDate where
  | naive (instant : Int)
  | aware (instant : Int)

/-- What is compared: a date, or a value that is neither a date nor a text. -/
inductive ConflictStamp where
  | date (date : IsoDate)
  | other (v : Value)

/-- The time stamp of one side, as `detect_conflict` stores it. -/
def stampOf (data : List (String × Value)) : Value :=
  ((data.lookup "updated_at").getD .null).orElse ((data.lookup "created_at").getD .null)

/-- `replace("Z", "+00:00")`. -/
def zoneWritten (text : String) : String :=
  String.ofList (text.toList.flatMap fun c => if c = 'Z' then ['+', '0', '0', ':', '0', '0'] else [c])

variable (fromisoformat : String → Option IsoDate)

/-- Texts are read as dates; the dates of the database have no zone. -/
def readStamp : Value → Except AutoFailure ConflictStamp
  | .str text =>
    match fromisoformat (zoneWritten text) with
    | some date => .ok (.date date)
    | none => .error (.raised (.value "Invalid isoformat string"))
  | .date instant => .ok (.date (.naive instant))
  | v => .ok (.other v)

/-- `local_ts > server_ts`. -/
def laterStamp : ConflictStamp → ConflictStamp → Except AutoFailure Bool
  | .date (.naive a), .date (.naive b) => .ok (decide (b < a))
  | .date (.aware a), .date (.aware b) => .ok (decide (b < a))
  | .other v, .other w =>
    match v.number, w.number with
    | some p, some q => .ok (decide (q < p))
    | _, _ => .error .typeError
  | _, _ => .error .typeError

def determineNewestWinsResolution (row : SyncConflictRow) :
    Except AutoFailure ConflictResolution :=
  let localTs := stampOf row.localData
  let serverTs := stampOf row.serverData
  if localTs.truthy && serverTs.truthy then do
    let localTs ← readStamp fromisoformat localTs
    let serverTs ← readStamp fromisoformat serverTs
    let newer ← laterStamp localTs serverTs
    pure (if newer then .acceptLocal else .acceptServer)
  else pure .acceptServer

/-- The resolution of a strategy; an unknown one has none. -/
def strategyResolution (strategy : String) (row : SyncConflictRow) :
    Except AutoFailure (Option ConflictResolution) :=
  if strategy = "server_wins" then pure (some .acceptServer)
  else if strategy = "local_wins" then pure (some .acceptLocal)
  else if strategy = "newest_wins" then (determineNewestWinsResolution fromisoformat row).map some
  else pure none

/-- A request among those that may also raise a TypeError. -/
def raising {α : Type} (x : Request α) : Action Store AutoFailure α := fun s =>
  match x s with
  | .ok a t => .ok a t
  | .error e t => .error (.raised e) t

def resolveSingleConflict (strategy : String) (env : Env)
    (row : SyncConflictRow) : Action Store AutoFailure Bool := do
  let resolution ← reads fun _ => strategyResolution fromisoformat strategy row
  match resolution with
  | none => pure false
  | some resolution => do
    raising (resolveConflict env row.id "system_auto_resolve" resolution [])
    pure true

/-- What a run takes from its surroundings: the creation times of the conflicts and the surroundings
of each call, both by the conflict's id, and the reader of dates. -/
structure AutoEnv where
  createdAt : String → Int
  call : String → Env
  fromisoformat : String → Option IsoDate

variable (env : AutoEnv)

def AutoEnv.backlog (status : String) (s : Store) : List SyncConflictRow :=
  (s.syncConflicts.filter (·.status == status)).insertionSort fun a b => env.createdAt b.id ≤ env.createdAt a.id

/-- `get_conflicts` with a status. -/
def getConflicts (status : String) (limit offset : Nat) (s : Store) : List SyncConflictRow :=
  ((env.backlog status s).drop offset).take limit

def AutoEnv.attempt (strategy : String) (row : SyncConflictRow) : Action Store AutoFailure Bool :=
  resolveSingleConflict env.fromisoformat strategy (env.call row.id) row

def autoResolveSimpleConflicts (strategy : String) : Action Store AutoFailure Nat :=
  withStore fun s => attemptAll AutoFailure.caught (env.attempt strategy) (getConflicts env "pending" 100 0 s)

/-- The turns of all pending conflicts where no failure touches the others. -/
def isolatedTurns (strategy : String) (s : Store) : List (SyncConflictRow × Store) :=
  turns (env.attempt strategy) (env.backlog "pending" s) s

def resolvedAtTurn (strategy : String) (turn : SyncConflictRow × Store) : Bool :=
  completes (env.attempt strategy turn.1) turn.2

def SettledIn (s : Store) (conflictId : String) : Prop :=
  ∃ row ∈ s.syncConflicts, row.id = Text.lower conflictId ∧ row.status ≠ "pending"

/-- The run resolves every conflict that is resolved where no failure touches the others, and
answers their number. -/
def ResolvesBacklog (strategy : String) (s : Store) : Prop :=
  ∃ n t, autoResolveSimpleConflicts env strategy s = .ok n t ∧
    n = (isolatedTurns env strategy s).countP (resolvedAtTurn env strategy) ∧
    ∀ turn ∈ isolatedTurns env strategy s, resolvedAtTurn env strategy turn = true → SettledIn t turn.1.id

/-- The failures among the hundred newest conflicts are those that the loop catches, and no older
conflict can be resolved. -/
def BacklogFits (strategy : String) (s : Store) : Prop :=
  (∀ turn ∈ (isolatedTurns env strategy s).take 100,
    quiet AutoFailure.caught (env.attempt strategy turn.1) turn.2 = true) ∧
  ∀ turn ∈ (isolatedTurns env strategy s).drop 100, resolvedAtTurn env strategy turn = false

def StaySettled (s t : Store) : Prop := ∀ conflictId, SettledIn s conflictId → SettledIn t conflictId

instance : Std.Refl StaySettled where
  refl _ _ settled := settled

instance : IsTrans Store StaySettled where
  trans _ _ _ first second conflictId settled := second conflictId (first conflictId settled)

variable {s t : Store}

theorem SameConflicts.staySettled (same : SameConflicts s t) : StaySettled s t := by
  rintro conflictId ⟨row, member, named, settled⟩
  exact ⟨row, same ▸ member, named, settled⟩

theorem staySettled_marked (conflictId resolvedBy : String) (resolution : ConflictResolution)
    (s : Store) : StaySettled s (markedStore conflictId resolvedBy resolution s) := by
  rintro other ⟨row, member, named, settled⟩
  by_cases marked : row.id = Text.lower conflictId
  · refine ⟨settledConflict resolvedBy resolution row, ?_, named, settledConflict_status resolvedBy resolution row⟩
    exact List.mem_map.mpr ⟨row, member, if_pos marked⟩
  · exact ⟨row, List.mem_map.mpr ⟨row, member, if_neg marked⟩, named, settled⟩

theorem moves_markConflict (conflictId resolvedBy : String) (resolution : ConflictResolution) :
    Moves StaySettled (markConflict conflictId resolvedBy resolution) := by
  apply Moves.writes
  intro s t marked
  cases marked
  exact staySettled_marked conflictId resolvedBy resolution s

variable (env : Env)

theorem moves_resolutionBlock (committed : Store) (conflictId resolvedBy : String)
    (resolution : ConflictResolution) (conflict : SyncConflictRow) (data : List (String × Value)) :
    Moves StaySettled (resolutionBlock env committed conflictId resolvedBy resolution conflict data) := by
  refine Moves.bind (moves_markConflict conflictId resolvedBy resolution) fun _ => ?_
  refine Moves.bind (Moves.reads _) fun forked => ?_
  split
  · exact Moves.pure ()
  · intro s
    exact (moves_applyResolvedData_conflicts env committed conflict.entityType conflict.entityId data s).staySettled

theorem moves_settleConflict (conflictId resolvedBy : String) (resolution : ConflictResolution)
    (conflict : SyncConflictRow) (data : List (String × Value)) :
    Moves StaySettled (settleConflict env conflictId resolvedBy resolution conflict data) := by
  unfold settleConflict
  split
  · exact moves_markConflict conflictId resolvedBy resolution
  · intro s
    rw [final_withStore]
    exact UnitOfWork.moves_runCommitted env.deployment
      (moves_resolutionBlock env s conflictId resolvedBy resolution conflict data) s

theorem moves_resolveConflict (conflictId resolvedBy : String) (resolution : ConflictResolution)
    (merged : List (String × Value)) : Moves StaySettled (resolveConflict env conflictId resolvedBy resolution merged) := by
  refine Moves.bind (Moves.reads _) fun conflict => ?_
  refine Moves.bind (Moves.reads _) fun _ => ?_
  refine Moves.bind (Moves.reads _) fun data => ?_
  exact moves_settleConflict env conflictId resolvedBy resolution conflict data

variable {α : Type}

theorem final_raising (x : Request α) (s : Store) : (raising x).final s = x.final s := by
  simp only [raising, final]
  cases x s with
  | ok a t => rfl
  | error e t => rfl

theorem raising_ok {x : Request α} {a : α} : raising x s = .ok a t ↔ x s = .ok a t := by
  unfold raising
  cases x s with
  | ok b u => simp
  | error e u => simp

theorem moves_attempt (env : AutoEnv) (strategy : String) (row : SyncConflictRow) :
    Moves StaySettled (env.attempt strategy row) := by
  refine Moves.bind (Moves.reads _) fun resolution => ?_
  cases resolution with
  | none => exact Moves.pure _
  | some resolution =>
    refine Moves.bind (fun s => ?_) fun _ => Moves.pure _
    rw [final_raising]
    exact moves_resolveConflict (env.call row.id) row.id "system_auto_resolve" resolution [] s

variable {resolution : ConflictResolution} {conflictId resolvedBy : String}

theorem settledIn_marked {row : SyncConflictRow}
    (stored : s.syncConflicts.find? (·.id == Text.lower conflictId) = some row)
    (kept : t.syncConflicts = (markedStore conflictId resolvedBy resolution s).syncConflicts) :
    SettledIn t conflictId := by
  have named : row.id = Text.lower conflictId := by simpa using List.find?_some stored
  refine ⟨settledConflict resolvedBy resolution row, ?_, named, settledConflict_status resolvedBy resolution row⟩
  rw [kept]
  exact List.mem_map.mpr ⟨row, List.mem_of_find?_eq_some stored, if_pos named⟩

theorem settledIn_resolveConflict {env : Env} {merged : List (String × Value)}
    (success : resolveConflict env conflictId resolvedBy resolution merged s = .ok () t) : SettledIn t conflictId := by
  simp only [resolveConflict, bind_ok, reads_ok] at success
  obtain ⟨conflict, _, ⟨looked, rfl⟩, _, _, ⟨_, rfl⟩, data, _, ⟨_, rfl⟩, success⟩ := success
  have stored : s.syncConflicts.find? (·.id == Text.lower conflictId) = some conflict := by
    split at looked
    · next row found =>
      cases looked
      exact found
    · cases looked
  unfold settleConflict at success
  split at success
  · rw [markConflict_ok] at success
    exact settledIn_marked stored (by rw [success])
  · rw [withStore_ok, UnitOfWork.runCommitted_ok] at success
    have ran : (ResolveCall.mk env resolution resolvedBy merged).block conflictId conflict data ⟨s, 0⟩ = .ok () t := success
    exact settledIn_marked stored (block_conflicts ran)

theorem settledIn_attempt {env : AutoEnv} {strategy : String} {turn : SyncConflictRow × Store}
    (resolved : resolvedAtTurn env strategy turn = true) :
    SettledIn ((env.attempt strategy turn.1).final turn.2) turn.1.id := by
  unfold resolvedAtTurn completes at resolved
  split at resolved
  · next done t ran =>
    rw [final_of_ok ran]
    simp only [AutoEnv.attempt, resolveSingleConflict, bind_ok, reads_ok] at ran
    obtain ⟨resolution, _, ⟨_, rfl⟩, ran⟩ := ran
    cases resolution with
    | none =>
      obtain ⟨undone, _⟩ := pure_ok.mp ran
      rw [← undone] at resolved
      cases resolved
    | some resolution =>
      simp only [bind_ok, pure_ok, raising_ok] at ran
      obtain ⟨_, _, success, _, rfl⟩ := ran
      exact settledIn_resolveConflict success
  · cases resolved

theorem getConflicts_first (env : AutoEnv) (s : Store) :
    getConflicts env "pending" 100 0 s = (env.backlog "pending" s).take 100 := by
  rw [getConflicts, List.drop_zero]

/-- The run resolves the backlog exactly when its page holds all that can be resolved and its
failures are caught. -/
theorem auto_resolution_complete_iff (env : AutoEnv) (strategy : String) (s : Store) :
    ResolvesBacklog env strategy s ↔ BacklogFits env strategy s := by
  have split : (isolatedTurns env strategy s).countP (resolvedAtTurn env strategy) =
      ((isolatedTurns env strategy s).take 100).countP (resolvedAtTurn env strategy) +
        ((isolatedTurns env strategy s).drop 100).countP (resolvedAtTurn env strategy) := by
    rw [← List.countP_append, List.take_append_drop]
  have page : turns (env.attempt strategy) (getConflicts env "pending" 100 0 s) s =
      (isolatedTurns env strategy s).take 100 := by
    rw [getConflicts_first, turns_take, isolatedTurns]
  constructor
  · rintro ⟨n, t, answered, count, _⟩
    rw [autoResolveSimpleConflicts, withStore_ok, attemptAll_ok, page] at answered
    obtain ⟨caught, number, _⟩ := answered
    refine ⟨caught, fun turn member => ?_⟩
    have none : ((isolatedTurns env strategy s).drop 100).countP (resolvedAtTurn env strategy) = 0 := by
      have same : n = ((isolatedTurns env strategy s).take 100).countP (resolvedAtTurn env strategy) := number
      omega
    simpa using List.countP_eq_zero.mp none turn member
  · rintro ⟨caught, nothing⟩
    have none : ((isolatedTurns env strategy s).drop 100).countP (resolvedAtTurn env strategy) = 0 := by
      apply List.countP_eq_zero.mpr
      intro turn member
      rw [nothing turn member]
      exact Bool.false_ne_true
    refine ⟨_, afterTurns (env.attempt strategy) (getConflicts env "pending" 100 0 s) s, ?_, rfl, ?_⟩
    · rw [autoResolveSimpleConflicts, withStore_ok, attemptAll_ok, page]
      refine ⟨caught, ?_, rfl⟩
      rw [split, none, Nat.add_zero]
      rfl
    · intro turn member resolved
      have onPage : turn ∈ turns (env.attempt strategy) (getConflicts env "pending" 100 0 s) s := by
        rw [page]
        rw [← List.take_append_drop 100 (isolatedTurns env strategy s)] at member
        rcases List.mem_append.mp member with here | later
        · exact here
        · rw [nothing turn later] at resolved
          cases resolved
      exact moves_turn (moves_attempt env strategy) onPage _ (settledIn_attempt resolved)

/-- A client's date in UTC beside a date of the database, and below it a conflict without dates. -/
def datedConflict : SyncConflictRow where
  id := "c2"
  entityType := "count_line"
  entityId := "L1"
  localData := [("remark", .str "mine"), ("updated_at", .str "2026-01-02T09:00:00Z")]
  serverData := [("remark", .str "theirs"), ("updated_at", .date 1767344400000)]

def undatedConflict : SyncConflictRow where
  id := "c1"
  entityType := "count_line"
  entityId := "L1"
  localData := [("remark", .str "mine")]
  serverData := [("remark", .str "theirs")]

/-- The second conflict was detected after the first. -/
def autoEnv : AutoEnv where
  createdAt := fun conflictId => if conflictId = "c2" then 2 else 1
  call := fun _ => sampleEnv
  fromisoformat := fun text => if text = "2026-01-02T09:00:00+00:00" then some (.aware 1767344400000) else none

def backlogStore : Store :=
  { countingStore with
    countLines := [shortLine]
    syncConflicts := [undatedConflict, datedConflict] }

/-- The comparison of the dates ends the run before the other conflict, which can be resolved. -/
theorem auto_resolution_stopped : ¬ ResolvesBacklog autoEnv "newest_wins" backlogStore ∧
    resolvedAtTurn autoEnv "newest_wins" (undatedConflict, backlogStore) = true ∧
    (autoEnv.attempt "newest_wins" datedConflict).succeeds backlogStore = false := by
  refine ⟨?_, by decide +kernel, by decide +kernel⟩
  rintro ⟨n, t, answered, _⟩
  have fails : (autoResolveSimpleConflicts autoEnv "newest_wins").succeeds backlogStore = false := by decide +kernel
  rw [succeeds_of_ok answered] at fails
  cases fails

end StockVerification
