import StockVerification.Foundation.Interleaving

/-!
# Document locks

Source: backend/services/locking/mongo_service.py:37-105.

Each call to the collection is one step, the clock is set between steps, and the index on the expiry
removes documents. A stored lock carries the request that inserted it, which the service does not
know. The log of what was granted and released has the latest entry first.
-/
namespace StockVerification

open Foundation

/-- A document of the collection under its key. The request is for the statements only. -/
structure DocumentLock where
  owner : String
  expiresAt : Int
  request : Option Nat := none
  deriving DecidableEq

structure DocumentLocks where
  clock : Int
  lock : String → Option DocumentLock := fun _ => none

variable (locks : DocumentLocks)

def DocumentLocks.put (key : String) (lock : Option DocumentLock) : DocumentLocks :=
  { locks with lock := Function.update locks.lock key lock }

/-- A call of `acquire_lock`; the expiry is computed before the insertion. -/
structure AcquireCall where
  request : Nat
  key : String
  owner : String
  expiresAt : Int

/-- The call's next use of the collection. -/
inductive AcquireStage where
  | insert
  | find
  | dropStale (existing : DocumentLock)

/-- How a call goes on: it returns True for a lock up to an expiry, raises, or has another stage. -/
inductive AcquireOutcome where
  | granted (expiresAt : Int)
  | refused
  | goesOn (stage : AcquireStage)

def AcquireCall.ownerOutcome (call : AcquireCall) (existing : DocumentLock) : AcquireOutcome :=
  if existing.owner = call.owner then .granted existing.expiresAt else .refused

/-- A stage of `acquire_lock`. A stale lock is deleted, and its owner is compared all the same. -/
def acquireStep (call : AcquireCall) : AcquireStage → DocumentLocks × AcquireOutcome
  | .insert =>
    match locks.lock call.key with
    | none =>
      (locks.put call.key (some { owner := call.owner, expiresAt := call.expiresAt, request := some call.request }),
        .granted call.expiresAt)
    | some _ => (locks, .goesOn .find)
  | .find =>
    match locks.lock call.key with
    | none => (locks, .refused)
    | some existing =>
      (locks, if existing.expiresAt < locks.clock then .goesOn (.dropStale existing) else call.ownerOutcome existing)
  | .dropStale existing =>
    (if (locks.lock call.key).any (·.expiresAt == existing.expiresAt) then locks.put call.key none else locks,
      call.ownerOutcome existing)

/-- `release_lock`. -/
def releaseStep (key owner : String) : DocumentLocks :=
  if (locks.lock key).any (·.owner == owner) then locks.put key none else locks

/-- The index on `expires_at`. -/
def expireStep (key : String) : DocumentLocks :=
  if (locks.lock key).any (fun lock => decide (lock.expiresAt ≤ locks.clock)) then locks.put key none else locks

/-- A call that returned: with the document under the key at that time, or as a release. -/
inductive LockNote where
  | granted (call : AcquireCall) (expiresAt : Int) (document : Option DocumentLock) (clock : Int)
  | released (request : Nat) (key : String)

structure LockDesk where
  locks : DocumentLocks
  notes : List LockNote := []

inductive DocumentLockRequest where
  | acquire (request : Nat) (key owner : String) (ttl : Int)
  | release (request : Nat) (key owner : String)
  | setClock (time : Int)
  | expire (key : String)

inductive DocumentLockTask where
  | acquire (call : AcquireCall) (stage : AcquireStage)
  | release (request : Nat) (key owner : String)
  | setClock (time : Int)
  | expire (key : String)

def startDocumentLock (s : LockDesk) : DocumentLockRequest → Option DocumentLockTask
  | .acquire request key owner ttl =>
    some (.acquire { request := request, key := key, owner := owner, expiresAt := s.locks.clock + ttl } .insert)
  | .release request key owner => some (.release request key owner)
  | .setClock time => some (.setClock time)
  | .expire key => some (.expire key)

/-- A stage of an acquisition, and what follows it. -/
def LockDesk.acquire (s : LockDesk) (call : AcquireCall) (stage : AcquireStage) : LockDesk × Option DocumentLockTask :=
  let after := acquireStep s.locks call stage
  match after.2 with
  | .granted expiresAt =>
    ({ locks := after.1, notes := .granted call expiresAt (after.1.lock call.key) s.locks.clock :: s.notes }, none)
  | .refused => ({ s with locks := after.1 }, none)
  | .goesOn next => ({ s with locks := after.1 }, some (.acquire call next))

def resumeDocumentLock (s : LockDesk) : DocumentLockTask → LockDesk × Option DocumentLockTask
  | .acquire call stage => s.acquire call stage
  | .release request key owner =>
    ({ locks := releaseStep s.locks key owner, notes := .released request key :: s.notes }, none)
  | .setClock time => ({ s with locks := { s.locks with clock := time } }, none)
  | .expire key => ({ s with locks := expireStep s.locks key }, none)

abbrev DocumentLockCalls := Concurrent LockDesk DocumentLockTask

abbrev DocumentLockCalls.step : DocumentLockCalls → Move DocumentLockRequest → DocumentLockCalls :=
  Concurrent.step startDocumentLock resumeDocumentLock

/-- The request and the key that a note is about, and the expiry that it leaves. -/
def LockNote.about : LockNote → (Nat × String) × Option Int
  | .granted call expiresAt _ _ => ((call.request, call.key), some expiresAt)
  | .released request key => ((request, key), none)

/-- The expiry of the lock that a request was granted and has not released. -/
def grantedUntil (request : Nat) (key : String) : List LockNote → Option Int
  | [] => none
  | note :: past => if note.about.1 = (request, key) then note.about.2 else grantedUntil request key past

/-- A request holds a key until it releases the key or the lock expires. -/
def HoldsAt (clock : Int) (request : Nat) (key : String) (past : List LockNote) : Prop :=
  ∃ expiresAt, grantedUntil request key past = some expiresAt ∧ clock < expiresAt

/-- A lock is granted with an unexpired document of the caller, and while no other request holds the
key. -/
def GrantRight (past : List LockNote) : LockNote → Prop
  | .granted call _ document clock =>
    (∃ lock, document = some lock ∧ lock.owner = call.owner ∧ clock ≤ lock.expiresAt) ∧
      ∀ other, other ≠ call.request → ¬ HoldsAt clock other call.key past
  | .released _ _ => True

def GrantsRight : List LockNote → Prop
  | [] => True
  | note :: past => GrantRight past note ∧ GrantsRight past

/-- An insertion comes before its own expiry. A lock that is found with the caller as its owner is
the request's own and has not expired, as is one that a release finds unexpired with the caller as
its owner. The clock does not go back. -/
def lockUndisturbed (c : DocumentLockCalls) : Move DocumentLockRequest → Bool
  | .resume slot =>
    match c.task slot with
    | some (.acquire call .insert) =>
      (c.store.locks.lock call.key).isSome || decide (c.store.locks.clock ≤ call.expiresAt)
    | some (.acquire call .find) =>
      (c.store.locks.lock call.key).all fun existing => existing.owner != call.owner ||
        existing.request == some call.request && decide (c.store.locks.clock ≤ existing.expiresAt)
    | some (.release request key owner) =>
      (c.store.locks.lock key).all fun lock => lock.owner != owner || lock.request == some request ||
        decide (lock.expiresAt ≤ c.store.locks.clock)
    | some (.setClock time) => decide (c.store.locks.clock ≤ time)
    | _ => true
  | _ => true

/-- A request that holds a key has its lock in the collection. -/
def HoldersStored (s : LockDesk) : Prop :=
  ∀ request key expiresAt, grantedUntil request key s.notes = some expiresAt → s.locks.clock < expiresAt →
    ∃ lock, s.locks.lock key = some lock ∧ lock.request = some request ∧ lock.expiresAt = expiresAt

structure DeskLocked (s : LockDesk) : Prop where
  holders : HoldersStored s
  grants : GrantsRight s.notes

/-- A stale lock that a call has found was not the caller's, and stays expired. -/
def StaleFound (s : LockDesk) : DocumentLockTask → Prop
  | .acquire call (.dropStale existing) => existing.owner ≠ call.owner ∧ existing.expiresAt < s.locks.clock
  | _ => True

variable {lock : DocumentLock}

section

variable {s : LockDesk} {call : AcquireCall}

theorem grantedUntil_cons (request : Nat) (key : String) (note : LockNote) (past : List LockNote) :
    grantedUntil request key (note :: past) =
      if note.about.1 = (request, key) then note.about.2 else grantedUntil request key past := rfl

section

variable (stored : HoldersStored s) {key : String}
include stored

theorem HoldersStored.free (free : s.locks.lock key = none) (request : Nat) :
    ¬ HoldsAt s.locks.clock request key s.notes := by
  rintro ⟨expiresAt, granted, unexpired⟩
  obtain ⟨lock, isLock, _⟩ := stored request key expiresAt granted unexpired
  rw [free] at isLock
  cases isLock

theorem HoldersStored.other {request other : Nat} (isLock : s.locks.lock key = some lock)
    (owns : lock.request = some request) (different : other ≠ request) : ¬ HoldsAt s.locks.clock other key s.notes := by
  rintro ⟨expiresAt, granted, unexpired⟩
  obtain ⟨found, isFound, itsRequest, _⟩ := stored other key expiresAt granted unexpired
  cases isLock.symm.trans isFound
  exact different (Option.some.inj (itsRequest.symm.trans owns))

theorem HoldersStored.remove (unheld : ∀ request, ¬ HoldsAt s.locks.clock request key s.notes) :
    HoldersStored { s with locks := s.locks.put key none } := by
  intro request other expiresAt granted unexpired
  by_cases here : other = key
  · subst here
    exact absurd ⟨expiresAt, granted, unexpired⟩ (unheld request)
  · obtain ⟨lock, isLock, owns⟩ := stored request other expiresAt granted unexpired
    exact ⟨lock, (Function.update_of_ne here ..).trans isLock, owns⟩

end

/-- A grant of the lock that stands under the key keeps the invariant. -/
theorem DeskLocked.grant (locked : DeskLocked s) (locks : DocumentLocks) (lock : DocumentLock)
    (clock : locks.clock = s.locks.clock) (others : ∀ key, key ≠ call.key → locks.lock key = s.locks.lock key)
    (isLock : locks.lock call.key = some lock) (owner : lock.owner = call.owner)
    (owns : lock.request = some call.request) (unexpired : s.locks.clock ≤ lock.expiresAt)
    (alone : ∀ other, other ≠ call.request → ¬ HoldsAt s.locks.clock other call.key s.notes) :
    DeskLocked { locks := locks, notes := .granted call lock.expiresAt (some lock) s.locks.clock :: s.notes } := by
  constructor
  · intro request key expiresAt granted before
    rw [clock] at before
    rw [grantedUntil_cons] at granted
    by_cases same : (call.request, call.key) = (request, key)
    · cases same
      rw [LockNote.about, if_pos rfl] at granted
      exact ⟨lock, isLock, owns, Option.some.inj granted⟩
    · rw [LockNote.about, if_neg same] at granted
      by_cases here : key = call.key
      · subst here
        have different : request ≠ call.request := fun equal => same (by rw [equal])
        exact absurd ⟨expiresAt, granted, before⟩ (alone request different)
      · obtain ⟨found, isFound, itsRequest⟩ := locked.holders request key expiresAt granted before
        exact ⟨found, (others key here).trans isFound, itsRequest⟩
  · exact ⟨⟨⟨lock, rfl, owner, unexpired⟩, alone⟩, locked.grants⟩

variable {key : String}

theorem DeskLocked.remove (locked : DeskLocked s)
    (unheld : ∀ request, ¬ HoldsAt s.locks.clock request key s.notes) :
    DeskLocked { s with locks := s.locks.put key none } :=
  ⟨locked.holders.remove unheld, locked.grants⟩

theorem HoldersStored.expired (stored : HoldersStored s)
    (isLock : s.locks.lock key = some lock) (expired : lock.expiresAt ≤ s.locks.clock)
    (request : Nat) : ¬ HoldsAt s.locks.clock request key s.notes := by
  rintro ⟨expiresAt, granted, unexpired⟩
  obtain ⟨found, isFound, _, until_⟩ := stored request key expiresAt granted unexpired
  cases isLock.symm.trans isFound
  omega

section

variable (locked : DeskLocked s)
include locked

theorem DeskLocked.insert (free : s.locks.lock call.key = none)
    (early : s.locks.clock ≤ call.expiresAt) : DeskLocked (s.acquire call .insert).1 := by
  have after : (s.acquire call .insert).1 =
      { locks := s.locks.put call.key (some ⟨call.owner, call.expiresAt, some call.request⟩)
        notes := .granted call call.expiresAt (some ⟨call.owner, call.expiresAt, some call.request⟩)
          s.locks.clock :: s.notes } := by
    simp [LockDesk.acquire, acquireStep, free, DocumentLocks.put]
  rw [after]
  apply locked.grant (s.locks.put call.key (some ⟨call.owner, call.expiresAt, some call.request⟩))
    ⟨call.owner, call.expiresAt, some call.request⟩
  · rfl
  · exact fun key different => Function.update_of_ne different ..
  · exact Function.update_self ..
  · rfl
  · rfl
  · exact early
  · exact fun other _ => locked.holders.free free other

theorem DeskLocked.find
    (quiet : ∀ existing, s.locks.lock call.key = some existing → existing.owner = call.owner → existing.request =
      some call.request ∧ s.locks.clock ≤ existing.expiresAt) :
    DeskLocked (s.acquire call .find).1 ∧ ∀ next, (s.acquire call .find).2 = some next → StaleFound s next := by
  cases found : s.locks.lock call.key with
  | none => simpa [LockDesk.acquire, acquireStep, found] using locked
  | some existing =>
    by_cases owner : existing.owner = call.owner
    · obtain ⟨owns, unexpired⟩ := quiet existing found owner
      have fresh : ¬ existing.expiresAt < s.locks.clock := by omega
      have after : s.acquire call .find =
          ({ s with notes := .granted call existing.expiresAt (some existing) s.locks.clock :: s.notes }, none) := by
        simp [LockDesk.acquire, acquireStep, found, fresh, AcquireCall.ownerOutcome, owner]
      rw [after]
      constructor
      · exact locked.grant s.locks existing rfl (fun _ _ => rfl) found owner owns unexpired
          fun other different => locked.holders.other found owns different
      · nofun
    · by_cases stale : existing.expiresAt < s.locks.clock
      · have after : s.acquire call .find = (s, some (.acquire call (.dropStale existing))) := by
          simp [LockDesk.acquire, acquireStep, found, stale]
        rw [after]
        constructor
        · exact locked
        · intro next goesOn
          cases goesOn
          exact ⟨owner, stale⟩
      · have after : s.acquire call .find = (s, none) := by
          simp [LockDesk.acquire, acquireStep, found, stale, AcquireCall.ownerOutcome, owner]
        rw [after]
        constructor
        · exact locked
        · nofun

theorem DeskLocked.dropStale {existing : DocumentLock} (owner : existing.owner ≠ call.owner)
    (stale : existing.expiresAt < s.locks.clock) :
    DeskLocked (s.acquire call (.dropStale existing)).1 ∧ (s.acquire call (.dropStale existing)).2 = none := by
  by_cases same : (s.locks.lock call.key).any (·.expiresAt == existing.expiresAt) = true
  · have after : s.acquire call (.dropStale existing) = ({ s with locks := s.locks.put call.key none }, none) := by
      simp [LockDesk.acquire, acquireStep, same, AcquireCall.ownerOutcome, owner]
    rw [after]
    obtain ⟨lock, isLock, expiry⟩ := (Option.any_eq_true _ _).mp same
    constructor
    · apply locked.remove
      apply locked.holders.expired isLock
      rw [beq_iff_eq.mp expiry]
      omega
    · rfl
  · have after : s.acquire call (.dropStale existing) = (s, none) := by
      simp [LockDesk.acquire, acquireStep, same, AcquireCall.ownerOutcome, owner]
    rw [after]
    exact ⟨locked, rfl⟩

theorem DeskLocked.release {request : Nat} {owner : String}
    (quiet : ∀ lock, s.locks.lock key = some lock → lock.owner = owner → lock.request = some request ∨
      lock.expiresAt ≤ s.locks.clock) :
    DeskLocked { locks := releaseStep s.locks key owner, notes := .released request key :: s.notes } := by
  -- the request has no lock any more, and the locks of the others stay
  have kept : ∀ other name expiresAt, grantedUntil other name (.released request key :: s.notes) = some expiresAt →
      s.locks.clock < expiresAt → ∃ lock, (releaseStep s.locks key owner).lock name = some lock ∧
        lock.request = some other ∧ lock.expiresAt = expiresAt := by
    intro other name expiresAt granted unexpired
    rw [grantedUntil_cons, LockNote.about] at granted
    split at granted
    · cases granted
    · next different =>
      obtain ⟨lock, isLock, owns, until_⟩ := locked.holders other name expiresAt granted unexpired
      refine ⟨lock, ?_, owns, until_⟩
      unfold releaseStep
      split
      · next mine =>
        by_cases here : name = key
        · subst here
          obtain ⟨found, isFound, isOwner⟩ := (Option.any_eq_true _ _).mp mine
          cases isLock.symm.trans isFound
          rcases quiet lock isLock (beq_iff_eq.mp isOwner) with own | expired
          · exact absurd (by rw [Option.some.inj (own.symm.trans owns)]) different
          · omega
        · exact (Function.update_of_ne here ..).trans isLock
      · exact isLock
  constructor
  · intro other name expiresAt granted unexpired
    have clock : (releaseStep s.locks key owner).clock = s.locks.clock := by
      unfold releaseStep
      split
      · rfl
      · rfl
    rw [clock] at unexpired
    exact kept other name expiresAt granted unexpired
  · exact ⟨trivial, locked.grants⟩

theorem DeskLocked.expire (key : String) : DeskLocked { s with locks := expireStep s.locks key } := by
  unfold expireStep
  split
  · next gone =>
    obtain ⟨lock, isLock, expired⟩ := (Option.any_eq_true _ _).mp gone
    exact locked.remove (locked.holders.expired isLock (by simpa using expired))
  · exact locked

theorem DeskLocked.setClock {time : Int} (later : s.locks.clock ≤ time) :
    DeskLocked { s with locks := { s.locks with clock := time } } := by
  constructor
  · intro request key expiresAt granted unexpired
    exact locked.holders request key expiresAt granted (Int.lt_of_le_of_lt later unexpired)
  · exact locked.grants

end

end

abbrev LocksSound : DocumentLockCalls → Prop := Concurrent.Sound DeskLocked StaleFound

section

variable {s : LockDesk}

theorem StaleFound.later {after : LockDesk} {task : DocumentLockTask} (found : StaleFound s task)
    (clock : s.locks.clock ≤ after.locks.clock) : StaleFound after task := by
  cases task with
  | acquire call stage =>
    cases stage with
    | dropStale existing => exact ⟨found.1, Int.lt_of_lt_of_le found.2 clock⟩
    | insert => trivial
    | find => trivial
  | release request key owner => trivial
  | setClock time => trivial
  | expire key => trivial

theorem releaseStep_clock (key owner : String) :
    (releaseStep locks key owner).clock = locks.clock := by
  unfold releaseStep
  split
  · rfl
  · rfl

theorem expireStep_clock (key : String) : (expireStep locks key).clock = locks.clock := by
  unfold expireStep
  split
  · rfl
  · rfl

theorem LockDesk.acquire_clock (s : LockDesk) (call : AcquireCall) (stage : AcquireStage) :
    (s.acquire call stage).1.locks.clock = s.locks.clock := by
  have kept : (acquireStep s.locks call stage).1.clock = s.locks.clock := by
    unfold acquireStep
    split
    · split
      · rfl
      · rfl
    · split
      · rfl
      · rfl
    · split
      · rfl
      · rfl
  simp only [LockDesk.acquire]
  split
  · exact kept
  · exact kept
  · exact kept

theorem LockDesk.acquire_held {call : AcquireCall} (held : s.locks.lock call.key = some lock) :
    s.acquire call .insert = (s, some (.acquire call .find)) := by
  simp [LockDesk.acquire, acquireStep, held]

end

/-- One case for each stage. -/
theorem DeskLocked.resume {c : DocumentLockCalls} (locked : DeskLocked c.store) {slot : Nat}
    {task : DocumentLockTask} (quiet : lockUndisturbed c (.resume slot) = true)
    (held : c.task slot = some task) (found : StaleFound c.store task) :
    DeskLocked (resumeDocumentLock c.store task).1 ∧ (∀ next, (resumeDocumentLock c.store task).2 = some next →
        StaleFound (resumeDocumentLock c.store task).1 next) ∧
      c.store.locks.clock ≤ (resumeDocumentLock c.store task).1.locks.clock := by
  cases task with
  | acquire call stage =>
    simp only [resumeDocumentLock, LockDesk.acquire_clock, le_refl, and_true]
    cases stage with
    | insert =>
      simp only [lockUndisturbed, held, Bool.or_eq_true, decide_eq_true_eq] at quiet
      cases free : c.store.locks.lock call.key with
      | none =>
        have early : c.store.locks.clock ≤ call.expiresAt := by simpa [free] using quiet
        constructor
        · exact locked.insert free early
        · intro next goesOn
          simp [LockDesk.acquire, acquireStep, free] at goesOn
      | some lock =>
        rw [LockDesk.acquire_held free]
        constructor
        · exact locked
        · intro next goesOn
          cases goesOn
          trivial
    | find =>
      simp only [lockUndisturbed, held] at quiet
      have own : ∀ existing, c.store.locks.lock call.key = some existing → existing.owner = call.owner →
          existing.request = some call.request ∧ c.store.locks.clock ≤ existing.expiresAt := by
        intro existing isLock owner
        simpa [isLock, owner] using quiet
      obtain ⟨kept, stale⟩ := locked.find own
      constructor
      · exact kept
      · intro next goesOn
        exact (stale next goesOn).later (LockDesk.acquire_clock ..).ge
    | dropStale existing =>
      obtain ⟨kept, ends⟩ := locked.dropStale found.1 found.2
      constructor
      · exact kept
      · intro next goesOn
        rw [ends] at goesOn
        cases goesOn
  | release request key owner =>
    simp only [lockUndisturbed, held] at quiet
    have own : ∀ lock, c.store.locks.lock key = some lock → lock.owner = owner →
        lock.request = some request ∨ lock.expiresAt ≤ c.store.locks.clock := by
      intro lock isLock isOwner
      simpa [isLock, isOwner] using quiet
    refine ⟨locked.release own, fun next goesOn => ?_, (releaseStep_clock ..).ge⟩
    cases goesOn
  | setClock time =>
    simp only [lockUndisturbed, held, decide_eq_true_eq] at quiet
    refine ⟨locked.setClock quiet, fun next goesOn => ?_, quiet⟩
    cases goesOn
  | expire key =>
    refine ⟨locked.expire key, fun next goesOn => ?_, (expireStep_clock ..).ge⟩
    cases goesOn

theorem LocksSound.step {c : DocumentLockCalls} {move : Move DocumentLockRequest} (sound : LocksSound c)
    (quiet : lockUndisturbed c move = true) : LocksSound (DocumentLockCalls.step c move) := by
  apply Concurrent.Sound.step sound
  · intro slot request task _ begun
    cases request with
    | acquire request key owner ttl | release request key owner | setClock time | expire key =>
      cases begun
      trivial
  · rintro slot task rfl held found
    obtain ⟨kept, own, clock⟩ := sound.store.resume quiet held found
    exact ⟨kept, own, fun other task' _ _ itsFound => itsFound.later clock⟩

structure LockDeskStart (c : DocumentLockCalls) : Prop where
  unlogged : c.store.notes = []
  idle : ∀ slot, c.task slot = none

/-- In every undisturbed run each lock is granted with an unexpired document of the caller, and
while no other request holds the key. -/
theorem locks_exclude {first last : DocumentLockCalls} (start : LockDeskStart first)
    (run : Reaches DocumentLockCalls.step (fun c move => lockUndisturbed c move = true) first last) :
    GrantsRight last.store.notes := by
  have sound : LocksSound first := by
    constructor
    · constructor
      · intro request key expiresAt granted
        rw [start.unlogged, grantedUntil] at granted
        cases granted
      · rw [start.unlogged]
        trivial
    · intro slot task held
      rw [start.idle] at held
      cases held
  have atLast : LocksSound last := run.invariant sound fun c move before quiet => before.step quiet
  exact atLast.store.grants

def documentLockCalls : DocumentLockCalls where
  store := { locks := { clock := 0 } }

theorem documentLockCalls_start : LockDeskStart documentLockCalls := ⟨rfl, fun _ => rfl⟩

def documentLockCall (request : DocumentLockRequest) (steps : Nat) : List (Move DocumentLockRequest) :=
  .start 0 request :: List.replicate steps (.resume 0)

/-- Anna counts an item while Ben is refused, Ben finds her lock expired and drops it, and then gets
his own. -/
def documentLocksInTurn : List (Move DocumentLockRequest) :=
  documentLockCall (.acquire 1 "S1:SKU-1::" "anna" 60) 1 ++ documentLockCall (.acquire 2 "S1:SKU-1::" "ben" 60) 2 ++
    documentLockCall (.setClock 61) 1 ++ documentLockCall (.acquire 3 "S1:SKU-1::" "ben" 60) 3 ++
    documentLockCall (.acquire 4 "S1:SKU-1::" "ben" 60) 1 ++ documentLockCall (.release 4 "S1:SKU-1::" "ben") 1

theorem locks_exclude_in_turn :
    GrantsRight (documentLocksInTurn.foldl DocumentLockCalls.step documentLockCalls).store.notes ∧
      ((documentLocksInTurn.foldl DocumentLockCalls.step documentLockCalls).store.notes.map (·.about.1.1)) =
        [4, 4, 1] := by
  have run : Reaches DocumentLockCalls.step (fun c move => lockUndisturbed c move = true) documentLockCalls
      (documentLocksInTurn.foldl DocumentLockCalls.step documentLockCalls) := Reaches.of_admitted (by decide +kernel)
  exact ⟨locks_exclude documentLockCalls_start run, by decide +kernel⟩

def lockedTwice : List (Move DocumentLockRequest) :=
  documentLockCall (.acquire 1 "S1:SKU-1::" "anna" 60) 1 ++ documentLockCall (.acquire 2 "S1:SKU-1::" "anna" 60) 2

/-- Anna counts the item again after her lock has expired. -/
def lockedStale : List (Move DocumentLockRequest) :=
  documentLockCall (.acquire 1 "S1:SKU-1::" "anna" 60) 1 ++ documentLockCall (.setClock 61) 1 ++
    documentLockCall (.acquire 2 "S1:SKU-1::" "anna" 60) 3

/-- Two requests of one user hold the lock together, and one returns with no lock at all. -/
theorem locks_shared :
    ¬ (∀ first last : DocumentLockCalls, LockDeskStart first →
      Reaches DocumentLockCalls.step (fun _ _ => True) first last → GrantsRight last.store.notes) ∧
    (lockedTwice.foldl DocumentLockCalls.step documentLockCalls).store.notes.map (·.about) =
      [((2, "S1:SKU-1::"), some 60), ((1, "S1:SKU-1::"), some 60)] ∧
    (lockedStale.foldl DocumentLockCalls.step documentLockCalls).store.notes.map (·.about) =
      [((2, "S1:SKU-1::"), some 60), ((1, "S1:SKU-1::"), some 60)] ∧
    (lockedStale.foldl DocumentLockCalls.step documentLockCalls).store.locks.lock "S1:SKU-1::" = none := by
  refine ⟨?_, by decide +kernel, by decide +kernel, by decide +kernel⟩
  intro always
  have right := always documentLockCalls _ documentLockCalls_start
    (Reaches.foldl fun _ (move : Move DocumentLockRequest) (_ : move ∈ lockedTwice) => trivial)
  exact right.1.2 1 (by decide) ⟨60, rfl, by decide⟩

end StockVerification
