import StockVerification.Foundation.Interleaving

/-!
# Rack locks

Source: backend/services/locking/redis_manager.py:27-138 and 263-326.

Users acquire, renew and release the locks of racks, and release all locks of a user by force. Each
command and each script is one step, and the clock goes on between them. Times are in milliseconds.
The log of what was done is kept with the latest event first.
-/
namespace StockVerification

open Foundation

/-- The value of a lock's key and the time up to which the key is kept. -/
structure RackLock where
  user : String
  expiresAt : Int
  deriving DecidableEq

/-- What a call has done to a rack's lock. A renewal that gives no time removes the lock, and a
forced release names the user that it is for. -/
inductive LockEvent where
  | acquired (rack user : String) (expiresAt : Int)
  | renewed (rack user : String) (expiresAt : Option Int)
  | released (rack user : String)
  | forced (rack user : String)
  deriving DecidableEq

structure LockState where
  clock : Int
  lock : String → Option RackLock := fun _ => none
  events : List LockEvent := []

inductive LockRequest where
  | acquire (rack user : String) (ttl : Int)
  | rackLock (rack user : String) (ttl : Int)
  | renew (rack user : String) (ttl : Int)
  | release (rack user : String)
  /-- `force_release_all_user_locks` with the keys that its scans return. -/
  | forceRelease (user : String) (racks : List String)
  | wait (time : Nat)

inductive LockTask where
  | acquire (rack user : String) (ttl : Int) (thenRelease : Bool)
  | renew (rack user : String) (ttl : Int)
  | release (rack user : String)
  | forceRead (user : String) (racks : List String)
  | forceDelete (user rack : String) (racks : List String)
  | wait (time : Nat)

def startLock (_ : LockState) : LockRequest → Option LockTask
  | .acquire rack user ttl => some (.acquire rack user ttl false)
  | .rackLock rack user ttl => some (.acquire rack user ttl true)
  | .renew rack user ttl => some (.renew rack user ttl)
  | .release rack user => some (.release rack user)
  | .forceRelease user racks => some (.forceRead user racks)
  | .wait time => some (.wait time)

namespace LockState

/-- `GET`: a key is read up to the time it is kept. -/
def get (s : LockState) (rack : String) : Option RackLock :=
  (s.lock rack).filter fun lock => s.clock ≤ lock.expiresAt

def put (s : LockState) (rack : String) (lock : Option RackLock) (event : LockEvent) : LockState :=
  { s with lock := Function.update s.lock rack lock, events := event :: s.events }

def owned (s : LockState) (rack user : String) : Bool :=
  match s.get rack with
  | some lock => lock.user == user
  | none => false

def expiry (s : LockState) (ttl : Int) : Option Int :=
  if -2 ^ 63 ≤ s.clock + ttl * 1000 ∧ s.clock + ttl * 1000 < 2 ^ 63 then some (s.clock + ttl * 1000) else none

/-- `SET key user EX ttl NX`, which is an error unless the time to live is positive. -/
def acquire (s : LockState) (rack user : String) (ttl : Int) : Option LockState :=
  if ttl ≤ 0 ∨ (s.get rack).isSome then none
  else (s.expiry ttl).map fun expiresAt =>
    s.put rack (some { user := user, expiresAt := expiresAt }) (.acquired rack user expiresAt)

/-- `_RENEW_SCRIPT`: an expiry that is not in the future removes the key. -/
def renew (s : LockState) (rack user : String) (ttl : Int) : LockState :=
  if s.owned rack user then
    match s.expiry ttl with
    | none => s
    | some expiresAt =>
      if expiresAt ≤ s.clock then s.put rack none (.renewed rack user none)
      else s.put rack (some { user := user, expiresAt := expiresAt }) (.renewed rack user (some expiresAt))
  else s

/-- `_RELEASE_SCRIPT`. -/
def release (s : LockState) (rack user : String) : LockState :=
  if s.owned rack user then s.put rack none (.released rack user) else s

end LockState

/-- One call goes on. -/
def resumeLock (s : LockState) : LockTask → LockState × Option LockTask
  | .acquire rack user ttl thenRelease =>
    match s.acquire rack user ttl with
    | none => (s, none)
    | some after => (after, if thenRelease then some (.release rack user) else none)
  | .renew rack user ttl => (s.renew rack user ttl, none)
  | .release rack user => (s.release rack user, none)
  | .forceRead _ [] => (s, none)
  | .forceRead user (rack :: racks) =>
    (s, some (if s.owned rack user then .forceDelete user rack racks else .forceRead user racks))
  | .forceDelete user rack racks => (s.put rack none (.forced rack user), some (.forceRead user racks))
  | .wait time => ({ s with clock := s.clock + time }, none)

abbrev LockCalls := Concurrent LockState LockTask

abbrev LockCalls.step : LockCalls → Move LockRequest → LockCalls := Concurrent.step startLock resumeLock

/-- Until when a user has a rack's lock by what was done for this user: its acquisitions, renewals
and releases, and the forced releases that name it. -/
def heldUntil (rack user : String) : List LockEvent → Option Int
  | [] => none
  | .acquired r u expiresAt :: past => if r = rack ∧ u = user then some expiresAt else heldUntil rack user past
  | .renewed r u expiresAt :: past => if r = rack ∧ u = user then expiresAt else heldUntil rack user past
  | .released r u :: past | .forced r u :: past => if r = rack ∧ u = user then none else heldUntil rack user past

/-- The rack and the user that an event is about, and the time that it leaves the user. -/
def LockEvent.about : LockEvent → (String × String) × Option Int
  | .acquired rack user expiresAt => ((rack, user), some expiresAt)
  | .renewed rack user expiresAt => ((rack, user), expiresAt)
  | .released rack user | .forced rack user => ((rack, user), none)

theorem heldUntil_cons (rack user : String) (event : LockEvent) (past : List LockEvent) :
    heldUntil rack user (event :: past) =
      if event.about.1 = (rack, user) then event.about.2 else heldUntil rack user past := by
  cases event <;> simp [heldUntil, LockEvent.about]

/-- A user holds a lock for as long as it has it by what was done for it. -/
def LockState.Holds (s : LockState) (rack user : String) : Prop :=
  ∃ expiresAt, heldUntil rack user s.events = some expiresAt ∧ s.clock ≤ expiresAt

/-- A rack's lock is held by one user at most, and it is in the store with the expiry that its user
has given it, until it expires. -/
structure LocksKept (s : LockState) : Prop where
  exclusive : ∀ rack a b, s.Holds rack a → s.Holds rack b → a = b
  stored : ∀ rack user expiresAt, s.get rack = some { user := user, expiresAt := expiresAt } ↔
    heldUntil rack user s.events = some expiresAt ∧ s.clock ≤ expiresAt

/-- A forced release deletes a lock only while it is free or that of the user it names. -/
def forceUndisturbed (c : LockCalls) : Move LockRequest → Bool
  | .resume slot =>
    match c.task slot with
    | some (.forceDelete user rack _) => (c.store.get rack).all (·.user == user)
    | _ => true
  | _ => true

def LocksStored (s : LockState) : Prop :=
  ∀ rack user expiresAt, s.get rack = some { user := user, expiresAt := expiresAt } ↔
    heldUntil rack user s.events = some expiresAt ∧ s.clock ≤ expiresAt

variable {s : LockState}

theorem LocksStored.kept (stored : LocksStored s) : LocksKept s where
  exclusive rack a b holdsA holdsB := by
    obtain ⟨untilA, hasA⟩ := holdsA
    obtain ⟨untilB, hasB⟩ := holdsB
    have isA := (stored rack a untilA).mpr hasA
    have isB := (stored rack b untilB).mpr hasB
    rw [isA] at isB
    cases isB
    rfl
  stored := stored

variable {rack : String}

theorem LockState.get_some {lock : RackLock} :
    s.get rack = some lock ↔ s.lock rack = some lock ∧ s.clock ≤ lock.expiresAt := by
  rw [LockState.get, Option.filter_eq_some_iff, decide_eq_true_eq]

theorem LockState.owned_iff {user : String} :
    s.owned rack user = true ↔ ∃ lock, s.get rack = some lock ∧ lock.user = user := by
  unfold LockState.owned
  cases s.get rack with
  | none => simp
  | some lock => simp

theorem LockState.get_put_other (s : LockState) {other : String} (lock : Option RackLock) (event : LockEvent)
    (different : other ≠ rack) : (s.put rack lock event).get other = s.get other := by
  have same : (s.put rack lock event).lock other = s.lock other := Function.update_of_ne different ..
  rw [LockState.get, same]
  rfl

theorem LockState.get_put_same {lock : Option RackLock} {event : LockEvent} {found : RackLock} :
    (s.put rack lock event).get rack = some found ↔ lock = some found ∧ s.clock ≤ found.expiresAt := by
  have written : (s.put rack lock event).lock rack = lock := Function.update_self ..
  rw [LockState.get_some, written]
  rfl

section

variable (stored : LocksStored s)
include stored

/-- What is written for a user that has the lock, or while nobody has it, agrees with what the user
knows. -/
theorem LocksStored.put (user : String) (expiresAt : Option Int) {event : LockEvent}
    (about : event.about = ((rack, user), expiresAt)) (free : ∀ lock, s.get rack = some lock → lock.user = user) :
    LocksStored (s.put rack (expiresAt.map fun time => { user := user, expiresAt := time }) event) := by
  intro r u time
  change _ ↔ heldUntil r u (event :: s.events) = some time ∧ s.clock ≤ time
  rw [heldUntil_cons, about]
  dsimp only
  by_cases here : r = rack
  · subst here
    rw [LockState.get_put_same]
    by_cases same : user = u
    · subst same
      rw [if_pos rfl]
      cases expiresAt with
      | none => simp
      | some written => simp
    · rw [if_neg (by simp [same])]
      constructor
      · rintro ⟨written, _⟩
        obtain ⟨_, _, isLock⟩ := Option.map_eq_some_iff.mp written
        exact absurd (congrArg RackLock.user isLock) same
      · intro has
        exact absurd (free _ ((stored r u time).mpr has)).symm same
  · have different : ¬ (rack, user) = (r, u) := by
      intro same
      exact here (congrArg Prod.fst same).symm
    rw [s.get_put_other _ _ here, if_neg different]
    exact stored r u time

theorem LocksStored.acquire {after : LockState} {user : String} {ttl : Int}
    (done : s.acquire rack user ttl = some after) : LocksStored after := by
  unfold LockState.acquire at done
  split at done
  · cases done
  · next free =>
    rw [not_or] at free
    obtain ⟨expiresAt, _, rfl⟩ := Option.map_eq_some_iff.mp done
    apply stored.put user (some expiresAt) rfl
    intro lock isLocked
    rw [isLocked] at free
    exact absurd rfl free.2

theorem LocksStored.renew (rack user : String) (ttl : Int) :
    LocksStored (s.renew rack user ttl) := by
  unfold LockState.renew
  split
  · next own =>
    have only : ∀ lock, s.get rack = some lock → lock.user = user := by
      intro lock isLocked
      obtain ⟨other, found, isUser⟩ := LockState.owned_iff.mp own
      rw [isLocked] at found
      cases found
      exact isUser
    cases s.expiry ttl with
    | none => exact stored
    | some expiresAt =>
      dsimp only
      split
      · exact stored.put user none rfl only
      · exact stored.put user (some expiresAt) rfl only
  · exact stored

theorem LocksStored.release (rack user : String) : LocksStored (s.release rack user) := by
  unfold LockState.release
  split
  · next own =>
    apply stored.put user none rfl
    intro lock isLocked
    obtain ⟨other, found, isUser⟩ := LockState.owned_iff.mp own
    rw [isLocked] at found
    cases found
    exact isUser
  · exact stored

theorem LocksStored.wait (time : Nat) : LocksStored { s with clock := s.clock + time } := by
  intro rack user expiresAt
  rw [LockState.get_some]
  have before := stored rack user expiresAt
  rw [LockState.get_some] at before
  dsimp only at before ⊢
  constructor
  · rintro ⟨isStored, later⟩
    exact ⟨(before.mp ⟨isStored, by omega⟩).1, later⟩
  · rintro ⟨held, later⟩
    exact ⟨(before.mpr ⟨held, by omega⟩).1, later⟩

end

theorem LocksStored.resume {c : LockCalls} (stored : LocksStored c.store) {slot : Nat}
    {task : LockTask} (quiet : forceUndisturbed c (.resume slot) = true)
    (held : c.task slot = some task) : LocksStored (resumeLock c.store task).1 := by
  cases task with
  | acquire rack user ttl thenRelease =>
    rw [resumeLock]
    cases done : c.store.acquire rack user ttl with
    | none => exact stored
    | some after => exact stored.acquire done
  | renew rack user ttl => exact stored.renew rack user ttl
  | release rack user => exact stored.release rack user
  | forceRead user racks =>
    cases racks with
    | nil => exact stored
    | cons rack racks => exact stored
  | forceDelete user rack racks =>
    simp only [forceUndisturbed, held] at quiet
    apply stored.put user none rfl
    intro lock isLocked
    rw [isLocked] at quiet
    simpa using quiet
  | wait time => exact stored.wait time

theorem LocksStored.step {c : LockCalls} {move : Move LockRequest} (stored : LocksStored c.store)
    (quiet : forceUndisturbed c move = true) : LocksStored (LockCalls.step c move).store := by
  rcases Concurrent.step_cases startLock resumeLock c move with
    nothing | ⟨slot, request, _, _, after⟩ | ⟨slot, task, rfl, held, after⟩ | ⟨slot, _, after⟩
  · rw [LockCalls.step, nothing]
    exact stored
  · rw [LockCalls.step, after]
    exact stored
  · rw [LockCalls.step, after]
    exact stored.resume quiet held
  · rw [LockCalls.step, after]
    exact stored

structure LockStart (c : LockCalls) : Prop where
  free : ∀ rack, c.store.lock rack = none
  unlogged : c.store.events = []

/-- In every run whose forced releases are not disturbed, each lock is held by one user at most, and
nobody but its user, a forced release that names the user, and its expiry takes it or moves its
expiry. -/
theorem rack_locks_kept {first last : LockCalls} (start : LockStart first)
    (run : Reaches LockCalls.step (fun c move => forceUndisturbed c move = true) first last) :
    LocksKept last.store := by
  have stored : LocksStored first.store := by
    intro rack user expiresAt
    rw [LockState.get_some, start.free, start.unlogged, heldUntil]
    simp
  have atLast : LocksStored last.store :=
    run.invariant (P := fun c => LocksStored c.store) stored fun c move before quiet => before.step quiet
  exact atLast.kept

def lockCalls : LockCalls where
  store := { clock := 0 }

theorem lockCalls_start : LockStart lockCalls := ⟨fun _ => rfl, rfl⟩

def rackCall (request : LockRequest) (steps : Nat) : List (Move LockRequest) :=
  .start 0 request :: List.replicate steps (.resume 0)

/-- Anna counts a rack, Ben waits for it, and Ben's locks are released by force. -/
def locksInTurn : List (Move LockRequest) :=
  rackCall (.acquire "R1" "anna" 60) 1 ++ rackCall (.acquire "R1" "ben" 60) 1 ++ rackCall (.renew "R1" "anna" 120) 1 ++
    rackCall (.wait 121000) 1 ++ rackCall (.acquire "R1" "ben" 60) 1 ++ rackCall (.forceRelease "ben" ["R1"]) 3 ++
    rackCall (.acquire "R1" "cleo" 60) 1

theorem rack_locks_kept_in_turn :
    LocksKept (locksInTurn.foldl LockCalls.step lockCalls).store ∧
      (locksInTurn.foldl LockCalls.step lockCalls).store.get "R1" = some { user := "cleo", expiresAt := 181000 } := by
  have run : Reaches LockCalls.step (fun c move => forceUndisturbed c move = true) lockCalls
      (locksInTurn.foldl LockCalls.step lockCalls) := Reaches.of_admitted (by decide +kernel)
  exact ⟨rack_locks_kept lockCalls_start run, by decide +kernel⟩

/-- Anna's lock is read for a forced release, expires, and Ben acquires the rack before the
delete. -/
def locksCrossing : List (Move LockRequest) :=
  rackCall (.acquire "R1" "anna" 1) 1 ++ [.start 1 (.forceRelease "anna" ["R1"]), .resume 1] ++
    rackCall (.wait 1001) 1 ++ rackCall (.acquire "R1" "ben" 60) 1 ++ [.resume 1] ++ rackCall (.acquire "R1" "cleo" 60) 1

/-- A forced release for Anna deletes Ben's lock, and Ben and Cleo hold the rack. -/
theorem rack_locks_lost :
    ¬ (∀ first last : LockCalls, LockStart first →
      Reaches LockCalls.step (fun _ _ => True) first last → LocksKept last.store) ∧
    heldUntil "R1" "ben" (locksCrossing.foldl LockCalls.step lockCalls).store.events = some 61001 ∧
    heldUntil "R1" "cleo" (locksCrossing.foldl LockCalls.step lockCalls).store.events = some 61001 ∧
    (locksCrossing.foldl LockCalls.step lockCalls).store.clock = 1001 := by
  have ben : heldUntil "R1" "ben" (locksCrossing.foldl LockCalls.step lockCalls).store.events = some 61001 := by
    decide +kernel
  have cleo : heldUntil "R1" "cleo" (locksCrossing.foldl LockCalls.step lockCalls).store.events = some 61001 := by
    decide +kernel
  have clock : (locksCrossing.foldl LockCalls.step lockCalls).store.clock = 1001 := by decide +kernel
  refine ⟨?_, ben, cleo, clock⟩
  intro always
  have kept := always lockCalls _ lockCalls_start
    (Reaches.foldl fun _ (move : Move LockRequest) (_ : move ∈ locksCrossing) => trivial)
  have same := kept.exclusive "R1" "ben" "cleo" ⟨61001, ben, by rw [clock]; omega⟩ ⟨61001, cleo, by rw [clock]; omega⟩
  exact absurd same (by decide)

end StockVerification
