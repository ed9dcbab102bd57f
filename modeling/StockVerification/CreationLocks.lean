import StockVerification.PlaceInvariant

/-!
# The locks of a creation

Source: backend/api/count_lines_routes.py:553-594 and 1224-1259,
backend/services/locking/mongo_service.py:44-113.

A creation takes up to two locks before the block whose `finally` releases them. A watch over the
run knows for each stored lock the slot of the request that inserted it. A slot holds one request at
a time, so a lock that is left behind is seen in the state in which the slot has become free.
-/
namespace StockVerification

open Foundation

/-- A call of the creation raises: inside the `try` block the locks are released. -/
def CreationCall.failed : CreationCall → Option CreationCall
  | .lookup _ held => releaseCall held false
  | .prepare w | .execute w _ | .settle w _ _ => releaseCall w.held false
  | _ => none

/-- The call is made inside the `try` block. -/
def CreationCall.guarded : CreationCall → Bool
  | .lookup .. | .prepare .. | .execute .. | .settle .. => true
  | _ => false

def CountingTask.failed : CountingTask → Option CountingTask
  | .create r call => call.failed.map (.create r)
  | _ => none

/-- A move of the run, or the failure of the call that a request waits for. -/
inductive CountingMove where
  | call (move : Move CountingRequest)
  | fail (slot : Nat)

def CountingMove.slot : CountingMove → Nat
  | .call move => move.slot
  | .fail slot => slot

def CountingMove.apply (setup : LockSetup) (c : Counting) : CountingMove → Counting
  | .call move => Counting.step setup c move
  | .fail slot => { c with task := Function.update c.task slot ((c.task slot).bind CountingTask.failed) }

/-- For each key the slot of the request that inserted the stored lock. -/
structure LockWatch where
  calls : Counting
  inserter : String → Option Nat := fun _ => none

namespace LockWatch

def locks (w : LockWatch) : List Lock := w.calls.store.locks

def step (setup : LockSetup) (w : LockWatch) (move : CountingMove) : LockWatch where
  calls := move.apply setup w.calls
  inserter := fun key =>
    if (move.apply setup w.calls).store.locks.any (·.key == key) then
      if w.locks.any (·.key == key) then w.inserter key else some move.slot
    else none

def nothingFrom (w : LockWatch) (slot : Nat) : Bool :=
  w.locks.all fun lock => w.inserter lock.key != some slot

end LockWatch

/-- Every stored lock that a request inserted is that of a request that has not ended. -/
def LocksReturned (w : LockWatch) : Prop :=
  ∀ key slot, w.inserter key = some slot → ∃ task, w.calls.task slot = some task

/-- A request that is refused its second lock has inserted none, as has one that stops or whose call
fails outside the `try` block. -/
def locksHandedOn (w : LockWatch) : CountingMove → Bool
  | .call (.resume slot) =>
    match w.calls.task slot with
    | some (.create r (.inspectPlace ..)) =>
      (w.locks.find? (·.key == r.line.lockKey)).any (·.owner == r.user.username) || w.nothingFrom slot
    | _ => true
  | .call (.abandon slot) => w.nothingFrom slot
  | .call (.start ..) => true
  | .fail slot =>
    match w.calls.task slot with
    | some (.create _ call) => call.guarded || w.nothingFrom slot
    | _ => true

def HeldLocks.keys (r : Creation) (held : HeldLocks) : List String :=
  (if held.place then [r.line.lockKey] else []) ++ held.variant.toList

def CreationCall.heldKeys (r : Creation) : CreationCall → List String
  | .lockPlace _ variant | .inspectPlace _ variant => variant.toList
  | .lookup _ held | .releasePlace held _ => held.keys r
  | .prepare w | .execute w _ | .settle w _ _ => w.held.keys r
  | .releaseVariant key _ => [key]
  | _ => []

def keysNext (r : Creation) (next : Option CreationCall) : List String :=
  (next.map (CreationCall.heldKeys r)).getD []

/-- What a call of a creation does: a lock that it adds is the request's and is kept for the
release, as are the locks that the request held. -/
structure LocksEffect (r : Creation) (held : List String) (before after : List Lock)
    (next : List String) : Prop where
  keys : (after.map Lock.key).Nodup
  known : ∀ lock ∈ after, (∃ old ∈ before, old.key = lock.key ∧ old.owner = lock.owner) ∨
    (∀ old ∈ before, old.key ≠ lock.key) ∧ lock.key ∈ next ∧ lock.owner = r.user.username
  carried : ∀ lock ∈ after, lock.key ∈ held → lock.owner = r.user.username → lock.key ∈ next

section Locks

variable {r : Creation} {key owner : String} {locks after : List Lock} {held next : List String}

/-- With one lock for each key a release leaves no lock of the owner under the key. -/
theorem releaseLock_gone (distinct : (locks.map Lock.key).Nodup) {lock : Lock}
    (member : lock ∈ releaseLock key owner locks) : ¬ (lock.key = key ∧ lock.owner = owner) := by
  induction locks with
  | nil => cases member
  | cons first rest ih =>
    obtain ⟨fresh, distinctRest⟩ := List.nodup_cons.mp distinct
    unfold releaseLock at member
    cases here : first.key == key && first.owner == owner with
    | true =>
      rw [List.eraseP_cons, here] at member
      rintro ⟨sameKey, _⟩
      rw [Bool.and_eq_true, beq_iff_eq] at here
      apply fresh
      rw [here.1, ← sameKey]
      exact List.mem_map_of_mem member
    | false =>
      rw [List.eraseP_cons, here] at member
      rcases List.mem_cons.mp member with isFirst | inRest
      · subst isFirst
        simpa using here
      · exact ih distinctRest inRest

theorem insertLock_free (inserted : insertLock key owner locks = some after) : ∀ old ∈ locks, old.key ≠ key := by
  unfold insertLock at inserted
  split at inserted
  · cases inserted
  · next free =>
    intro old member same
    exact free (List.any_eq_true.mpr ⟨old, member, beq_iff_eq.mpr same⟩)

section

variable (distinct : (locks.map Lock.key).Nodup)
include distinct

theorem LocksEffect.same (kept : ∀ key ∈ held, key ∈ next) :
    LocksEffect r held locks locks next where
  keys := distinct
  known := fun lock member => .inl ⟨lock, member, rfl, rfl⟩
  carried := fun lock _ isHeld _ => kept lock.key isHeld

theorem LocksEffect.insert (inserted : insertLock key r.user.username locks = some after) (isNext : key ∈ next)
    (kept : ∀ key ∈ held, key ∈ next) : LocksEffect r held locks after next where
  keys := insertLock_keys inserted distinct
  known := by
    intro lock member
    rw [insertLock_mem inserted, List.mem_append, List.mem_singleton] at member
    rcases member with old | new
    · exact .inl ⟨lock, old, rfl, rfl⟩
    · subst new
      exact .inr ⟨insertLock_free inserted, isNext, rfl⟩
  carried := fun lock _ isHeld _ => kept lock.key isHeld

theorem LocksEffect.sublist (fewer : after.Sublist locks)
    (carried : ∀ lock ∈ after, lock.key ∈ held → lock.owner = r.user.username → lock.key ∈ next) :
    LocksEffect r held locks after next where
  keys := distinct.sublist (fewer.map _)
  known := fun lock member => .inl ⟨lock, fewer.subset member, rfl, rfl⟩
  carried := carried

end

theorem inspectLock_sublist (key owner : String) (locks : List Lock) :
    (inspectLock key owner locks).2.Sublist locks := by
  unfold inspectLock
  split
  · exact List.Sublist.refl _
  · simp only
    split
    · exact List.eraseP_sublist
    · exact List.Sublist.refl _

theorem inspectLock_refused :
    (inspectLock key owner locks).1 = ((locks.find? (·.key == key)).any (·.owner == owner)) := by
  unfold inspectLock
  split
  · next missing => rw [missing, Option.any_none]
  · next lock found => rw [found, Option.any_some]

end Locks

theorem keysNext_releaseCall (r : Creation) (held : HeldLocks) (stored : Bool) :
    keysNext r (releaseCall held stored) = held.keys r := by
  unfold releaseCall HeldLocks.keys
  split
  · next place => simp [keysNext, CreationCall.heldKeys, HeldLocks.keys, place]
  · next noPlace =>
    split
    · next key isVariant => simp [keysNext, CreationCall.heldKeys, isVariant]
    · next noVariant =>
      unfold afterRelease
      split
      · simp [keysNext, CreationCall.heldKeys, noVariant]
      · simp [keysNext, noVariant]

theorem keysNext_failed {r : Creation} {call : CreationCall} (guarded : call.guarded = true) :
    keysNext r call.failed = call.heldKeys r := by
  cases call with
  | lookup a held => exact keysNext_releaseCall r held false
  | prepare w | execute w p | settle w p result => exact keysNext_releaseCall r w.held false
  | _ => cases guarded

section Calls

variable {setup : LockSetup} {s : CountingState} {r : Creation}

theorem goOn_locks {α : Type} (answer : Except Error α) (next : α → CreationCall) :
    (goOn s answer next).1.locks = s.locks := by
  cases answer with
  | ok a => rfl
  | error e => rfl

theorem lookup_locks (a : Admission) (held : HeldLocks) :
    (resumeCreation setup s r (.lookup a held)).1.locks = s.locks ∧
      keysNext r (resumeCreation setup s r (.lookup a held)).2 = held.keys r := by
  simp only [resumeCreation]
  split
  · exact ⟨rfl, keysNext_releaseCall ..⟩
  · split
    · exact ⟨rfl, keysNext_releaseCall ..⟩
    · split
      · exact ⟨rfl, keysNext_releaseCall ..⟩
      · exact ⟨rfl, rfl⟩

theorem prepare_locks (w : Persisting) :
    (resumeCreation setup s r (.prepare w)).1.locks = s.locks ∧
      keysNext r (resumeCreation setup s r (.prepare w)).2 = w.held.keys r := by
  simp only [resumeCreation]
  split
  · exact ⟨rfl, rfl⟩
  · exact ⟨rfl, keysNext_releaseCall ..⟩

theorem execute_locks (w : Persisting) (p : Prepared) :
    (resumeCreation setup s r (.execute w p)).1.locks = s.locks ∧
      keysNext r (resumeCreation setup s r (.execute w p)).2 = w.held.keys r := by
  simp only [resumeCreation]
  split
  · exact ⟨rfl, rfl⟩
  · exact ⟨rfl, keysNext_releaseCall ..⟩

theorem settle_locks (w : Persisting) (p : Prepared) (result : WriteResult) :
    (resumeCreation setup s r (.settle w p result)).1.locks = s.locks ∧
      keysNext r (resumeCreation setup s r (.settle w p result)).2 = w.held.keys r := by
  constructor
  · rfl
  · simp only [resumeCreation]
    split
    · rfl
    · exact keysNext_releaseCall ..

/-- One case for each call. A refusal of the second lock apart, what is held is carried on. -/
theorem resumeCreation_locks {call : CreationCall} (distinct : (s.locks.map Lock.key).Nodup)
    (granted : ∀ a variant, call = .inspectPlace a variant →
      (s.locks.find? (·.key == r.line.lockKey)).any (·.owner == r.user.username) = true) :
    LocksEffect r (call.heldKeys r) s.locks (resumeCreation setup s r call).1.locks
      (keysNext r (resumeCreation setup s r call).2) := by
  -- the calls that leave the locks alone
  have rests : (resumeCreation setup s r call).1.locks = s.locks →
      (∀ key ∈ call.heldKeys r, key ∈ keysNext r (resumeCreation setup s r call).2) →
      LocksEffect r (call.heldKeys r) s.locks (resumeCreation setup s r call).1.locks
        (keysNext r (resumeCreation setup s r call).2) := by
    intro unchanged kept
    rw [unchanged]
    exact LocksEffect.same distinct kept
  have carried (kept : (resumeCreation setup s r call).1.locks = s.locks ∧
      keysNext r (resumeCreation setup s r call).2 = call.heldKeys r) :=
    rests kept.1 fun _ member => kept.2 ▸ member
  cases call with
  | load => exact rests (goOn_locks ..) (List.nil_subset _)
  | pin session =>
    apply rests
    · simp only [resumeCreation]
      split
      · rfl
      · rfl
    · exact List.nil_subset _
  | accept session =>
    apply rests
    · simp only [resumeCreation]
      split
      · exact goOn_locks ..
      · rfl
    · exact List.nil_subset _
  | lockVariant a key =>
    simp only [resumeCreation]
    split
    · next locks inserted =>
      exact LocksEffect.insert distinct inserted (List.mem_singleton.mpr rfl) (List.nil_subset _)
    · exact LocksEffect.same distinct (List.nil_subset _)
  | inspectVariant a key =>
    simp only [resumeCreation]
    exact LocksEffect.sublist distinct (inspectLock_sublist ..) fun _ _ held => by cases held
  | lockPlace a variant =>
    simp only [resumeCreation]
    split
    · next locks inserted =>
      apply LocksEffect.insert distinct inserted
      · simp [keysNext, CreationCall.heldKeys, HeldLocks.keys]
      · exact fun key member => List.mem_append_right _ member
    · exact LocksEffect.same distinct fun _ member => member
  | inspectPlace a variant =>
    have answer : (inspectLock r.line.lockKey r.user.username s.locks).1 = true :=
      inspectLock_refused.trans (granted a variant rfl)
    simp only [resumeCreation, answer, if_true]
    apply LocksEffect.sublist distinct (inspectLock_sublist ..)
    exact fun lock _ member _ => List.mem_append_right _ member
  | lookup a held => exact carried (lookup_locks a held)
  | prepare w => exact carried (prepare_locks w)
  | execute w p => exact carried (execute_locks w p)
  | settle w p result => exact carried (settle_locks w p result)
  | releasePlace held stored =>
    simp only [resumeCreation, keysNext_releaseCall]
    apply LocksEffect.sublist distinct List.eraseP_sublist
    intro lock member isHeld owner
    have gone := releaseLock_gone distinct member
    simp only [CreationCall.heldKeys, HeldLocks.keys, List.mem_append] at isHeld ⊢
    rcases isHeld with place | variant
    · split at place
      · exact absurd ⟨List.mem_singleton.mp place, owner⟩ gone
      · cases place
    · exact .inr variant
  | releaseVariant key stored =>
    simp only [resumeCreation]
    apply LocksEffect.sublist distinct List.eraseP_sublist
    intro lock member isHeld owner
    exact absurd ⟨List.mem_singleton.mp isHeld, owner⟩ (releaseLock_gone distinct member)
  | finish => exact rests rfl (List.nil_subset _)

end Calls

/-- The stored lock is that of a request in the slot, and the request is to release it. -/
def HeldBy (c : Counting) (slot : Nat) (lock : Lock) : Prop :=
  ∃ r call, c.task slot = some (.create r call) ∧ lock.key ∈ call.heldKeys r ∧ lock.owner = r.user.username

structure WatchSound (w : LockWatch) : Prop where
  keys : (w.locks.map Lock.key).Nodup
  inserted : ∀ lock ∈ w.locks, ∀ slot, w.inserter lock.key = some slot → HeldBy w.calls slot lock
  stored : ∀ key slot, w.inserter key = some slot → ∃ lock ∈ w.locks, lock.key = key

section Watch

variable {setup : LockSetup} {w : LockWatch} {move : CountingMove}

theorem LockWatch.stored_iff {key : String} {locks : List Lock} :
    locks.any (·.key == key) = true ↔ ∃ lock ∈ locks, lock.key = key := by
  simp

theorem LockWatch.step_inserter {key : String} {slot : Nat} (watched : (w.step setup move).inserter key = some slot) :
    (∃ lock ∈ (w.step setup move).locks, lock.key = key) ∧
      ((∃ old ∈ w.locks, old.key = key) ∧ w.inserter key = some slot ∨
        (∀ old ∈ w.locks, old.key ≠ key) ∧ move.slot = slot) := by
  simp only [LockWatch.step] at watched
  split at watched
  · next present =>
    refine ⟨LockWatch.stored_iff.mp present, ?_⟩
    split at watched
    · next before => exact .inl ⟨LockWatch.stored_iff.mp before, watched⟩
    · next absent =>
      refine .inr ⟨fun old member same => ?_, Option.some.inj watched⟩
      exact absent (LockWatch.stored_iff.mpr ⟨old, member, same⟩)
  · cases watched

/-- A step is sound where a lock that it adds is that of its slot's request, and one that the
request held stays with it. -/
theorem WatchSound.carry (sound : WatchSound w) (setup : LockSetup) (move : CountingMove)
    (others : ∀ n, n ≠ move.slot → (w.step setup move).calls.task n = w.calls.task n)
    (distinct : ((w.step setup move).locks.map Lock.key).Nodup)
    (known : ∀ lock ∈ (w.step setup move).locks, (∃ old ∈ w.locks, old.key = lock.key ∧ old.owner = lock.owner) ∨
      (∀ old ∈ w.locks, old.key ≠ lock.key) ∧ HeldBy (w.step setup move).calls move.slot lock)
    (own : ∀ lock ∈ (w.step setup move).locks, HeldBy w.calls move.slot lock →
      w.inserter lock.key = some move.slot → HeldBy (w.step setup move).calls move.slot lock) :
    WatchSound (w.step setup move) := by
  constructor
  · exact distinct
  · intro lock member slot watched
    obtain ⟨_, ⟨⟨old, inBefore, sameKey⟩, inserter⟩ | ⟨absent, here⟩⟩ := LockWatch.step_inserter watched
    · rcases known lock member with ⟨source, inSource, itsKey, itsOwner⟩ | ⟨absent, _⟩
      · obtain ⟨r, call, held, isHeld, owner⟩ := sound.inserted source inSource slot (by rw [itsKey, inserter])
        rw [itsKey] at isHeld
        rw [itsOwner] at owner
        by_cases here : slot = move.slot
        · subst here
          exact own lock member ⟨r, call, held, isHeld, owner⟩ inserter
        · exact ⟨r, call, (others slot here).trans held, isHeld, owner⟩
      · exact absurd sameKey (absent old inBefore)
    · rcases known lock member with ⟨source, inSource, itsKey, _⟩ | ⟨_, holds⟩
      · exact absurd itsKey (absent source inSource)
      · exact here ▸ holds
  · intro key slot watched
    exact (LockWatch.step_inserter watched).1

theorem LockWatch.nothingFrom_inserter {slot : Nat} (nothing : w.nothingFrom slot = true)
    {lock : Lock} (member : lock ∈ w.locks) : w.inserter lock.key ≠ some slot := by
  unfold LockWatch.nothingFrom at nothing
  simpa using List.all_eq_true.mp nothing lock member

theorem WatchSound.rest (sound : WatchSound w) (setup : LockSetup) (move : CountingMove)
    (unchanged : (w.step setup move).locks = w.locks)
    (others : ∀ n, n ≠ move.slot → (w.step setup move).calls.task n = w.calls.task n)
    (own : ∀ lock ∈ w.locks, HeldBy w.calls move.slot lock → w.inserter lock.key = some move.slot →
      HeldBy (w.step setup move).calls move.slot lock) : WatchSound (w.step setup move) := by
  apply sound.carry setup move others
  · rw [unchanged]
    exact sound.keys
  · intro lock member
    rw [unchanged] at member
    exact .inl ⟨lock, member, rfl, rfl⟩
  · intro lock member
    rw [unchanged] at member
    exact own lock member

end Watch

section Steps

variable {setup : LockSetup} {w : LockWatch}

theorem LockWatch.step_create {slot : Nat} {r : Creation} {call : CreationCall}
    (held : w.calls.task slot = some (.create r call)) :
    (w.step setup (.call (.resume slot))).calls =
      { store := (resumeCreation setup w.calls.store r call).1
        task := Function.update w.calls.task slot
          ((resumeCreation setup w.calls.store r call).2.map (.create r)) } := by
  simp [LockWatch.step, CountingMove.apply, Counting.step, Concurrent.step, held, resumeCounting]

theorem heldBy_next {slot : Nat} {r : Creation} {next : Option CreationCall} {store : CountingState}
    {task : Nat → Option CountingTask} {lock : Lock} (isNext : lock.key ∈ keysNext r next)
    (owner : lock.owner = r.user.username) :
    HeldBy { store := store, task := Function.update task slot (next.map (.create r)) } slot lock := by
  cases next with
  | none => cases isNext
  | some call => exact ⟨r, call, Function.update_self .., isNext, owner⟩

theorem WatchSound.create (sound : WatchSound w) {slot : Nat} {r : Creation} {call : CreationCall}
    (held : w.calls.task slot = some (.create r call)) (quiet : locksHandedOn w (.call (.resume slot)) = true) :
    WatchSound (w.step setup (.call (.resume slot))) := by
  have after := @LockWatch.step_create setup w slot r call held
  have others : ∀ n, n ≠ slot → (w.step setup (.call (.resume slot))).calls.task n = w.calls.task n := by
    intro n different
    rw [after]
    exact Function.update_of_ne different ..
  -- what the call does with the keys that it carries on
  have carry : ∀ carried, LocksEffect r carried w.locks (resumeCreation setup w.calls.store r call).1.locks
        (keysNext r (resumeCreation setup w.calls.store r call).2) →
      (∀ lock : Lock, w.inserter lock.key = some slot → lock.key ∈ call.heldKeys r →
        (∃ old ∈ w.locks, old.key = lock.key) → lock.key ∈ carried) →
      WatchSound (w.step setup (.call (.resume slot))) := by
    intro carried effect covers
    apply sound.carry setup (.call (.resume slot)) others
    · rw [LockWatch.locks, after]
      exact effect.keys
    · intro lock member
      rw [LockWatch.locks, after] at member
      rcases effect.known lock member with old | ⟨absent, isNext, owner⟩
      · exact .inl old
      · rw [after]
        exact .inr ⟨absent, heldBy_next isNext owner⟩
    · rintro lock member ⟨r', call', held', isHeld, owner⟩ inserter
      cases held.symm.trans held'
      rw [LockWatch.locks, after] at member
      rw [after]
      exact heldBy_next (effect.carried lock member (covers lock inserter isHeld (sound.stored _ _ inserter)) owner)
        owner
  by_cases granted : ∀ a variant, call = .inspectPlace a variant →
      (w.locks.find? (·.key == r.line.lockKey)).any (·.owner == r.user.username) = true
  · exact carry _ (resumeCreation_locks sound.keys granted) fun lock _ isHeld _ => isHeld
  · push Not at granted
    obtain ⟨a, variant, rfl, refused⟩ := granted
    -- the second lock is refused to a request that has inserted none
    have nothing : w.nothingFrom slot = true := by
      simp only [locksHandedOn, held, Bool.or_eq_true] at quiet
      exact quiet.resolve_left refused
    apply carry []
    · exact LocksEffect.sublist sound.keys (inspectLock_sublist ..) nofun
    · rintro lock inserter _ ⟨old, member, sameKey⟩
      rw [← sameKey] at inserter
      exact absurd inserter (LockWatch.nothingFrom_inserter nothing member)

theorem expireLock_known {key : String} {locks : List Lock} {lock : Lock} (member : lock ∈ expireLock key locks) :
    ∃ old ∈ locks, old.key = lock.key ∧ old.owner = lock.owner := by
  obtain ⟨old, inLocks, rfl⟩ := List.mem_map.mp member
  refine ⟨old, inLocks, ?_⟩
  split
  · exact ⟨rfl, rfl⟩
  · exact ⟨rfl, rfl⟩

theorem WatchSound.time (sound : WatchSound w) {slot : Nat} {task : CountingTask} (locks : List Lock)
    (held : w.calls.task slot = some task) (isTime : ∀ r call, task ≠ .create r call)
    (after : (w.step setup (.call (.resume slot))).locks = locks) (distinct : (locks.map Lock.key).Nodup)
    (known : ∀ lock ∈ locks, ∃ old ∈ w.locks, old.key = lock.key ∧ old.owner = lock.owner) :
    WatchSound (w.step setup (.call (.resume slot))) := by
  apply sound.carry setup
  · intro n different
    exact Concurrent.step_task_other startCounting (resumeCounting setup) w.calls different
  · rw [after]
    exact distinct
  · intro lock member
    rw [after] at member
    exact .inl (known lock member)
  · rintro lock _ ⟨r, call, isCreate, _⟩
    exact absurd (Option.some.inj (held.symm.trans isCreate)) (isTime r call)

theorem WatchSound.unmoved (sound : WatchSound w) {move : CountingMove}
    (same : (w.step setup move).calls = w.calls) : WatchSound (w.step setup move) := by
  apply sound.rest setup
  · rw [LockWatch.locks, same, LockWatch.locks]
  · rw [same]
    exact fun n _ => rfl
  · rw [same]
    exact fun lock _ holds _ => holds

/-- One case for each kind of move. -/
theorem WatchSound.step (sound : WatchSound w) {move : CountingMove}
    (quiet : locksHandedOn w move = true) : WatchSound (w.step setup move) := by
  cases move with
  | fail slot =>
    apply sound.rest setup (.fail slot) rfl fun n different => Function.update_of_ne different ..
    rintro lock member ⟨r, call, held, isHeld, owner⟩ inserter
    rw [CountingMove.slot] at held inserter
    simp only [locksHandedOn, held, Bool.or_eq_true] at quiet
    rcases quiet with guarded | nothing
    · have isNext : lock.key ∈ keysNext r call.failed := by
        rw [keysNext_failed guarded]
        exact isHeld
      have after : (w.step setup (.fail slot)).calls =
          { store := w.calls.store
            task := Function.update w.calls.task slot (call.failed.map (.create r)) } := by
        simp [LockWatch.step, CountingMove.apply, held, CountingTask.failed]
      rw [after]
      exact heldBy_next isNext owner
    · exact absurd inserter (LockWatch.nothingFrom_inserter nothing member)
  | call move =>
    cases move with
    | start slot request =>
      cases held : w.calls.task slot with
      | some task =>
        exact sound.unmoved (by simp [LockWatch.step, CountingMove.apply, Counting.step, Concurrent.step, held])
      | none =>
        have begun : (w.step setup (.call (.start slot request))).calls =
            { w.calls with task := Function.update w.calls.task slot (startCounting w.calls.store request) } := by
          simp [LockWatch.step, CountingMove.apply, Counting.step, Concurrent.step, held]
        apply sound.rest setup
        · rw [LockWatch.locks, begun, LockWatch.locks]
        · rw [begun]
          exact fun n different => Function.update_of_ne different ..
        · rintro lock _ ⟨r, call, isTask, _⟩
          rw [CountingMove.slot, Move.slot, held] at isTask
          cases isTask
    | abandon slot =>
      apply sound.rest setup (.call (.abandon slot)) rfl fun n different => Function.update_of_ne different ..
      intro lock member _ inserter
      exact absurd inserter (LockWatch.nothingFrom_inserter quiet member)
    | resume slot =>
      cases held : w.calls.task slot with
      | none =>
        exact sound.unmoved (by simp [LockWatch.step, CountingMove.apply, Counting.step, Concurrent.step, held])
      | some task =>
        cases task with
        | create r call => exact sound.create held quiet
        | expire key =>
          apply sound.time (expireLock key w.locks) held (fun _ _ isCreate => by cases isCreate)
          · simp [LockWatch.locks, LockWatch.step, CountingMove.apply, Counting.step,
              Concurrent.step, held, resumeCounting]
          · rw [expireLock_keys]
            exact sound.keys
          · exact fun lock member => expireLock_known member
        | sweep =>
          apply sound.time (sweepLocks w.locks) held (fun _ _ isCreate => by cases isCreate)
          · simp [LockWatch.locks, LockWatch.step, CountingMove.apply, Counting.step,
              Concurrent.step, held, resumeCounting]
          · exact sound.keys.sublist (List.filter_sublist.map _)
          · exact fun lock member => ⟨lock, List.mem_of_mem_filter member, rfl, rfl⟩

end Steps

/-- No request is in flight, and the stored locks have one document for each key. -/
structure WatchStart (w : LockWatch) : Prop where
  idle : ∀ slot, w.calls.task slot = none
  unwatched : ∀ key, w.inserter key = none
  keys : (w.locks.map Lock.key).Nodup

theorem WatchSound.returned {w : LockWatch} (sound : WatchSound w) : LocksReturned w := by
  intro key slot inserter
  obtain ⟨lock, member, same⟩ := sound.stored key slot inserter
  obtain ⟨r, call, held, _⟩ := sound.inserted lock member slot (by rw [same, inserter])
  exact ⟨_, held⟩

/-- In every interleaving in which no request stops, fails outside the `try` block or is refused its
second lock while a lock is stored that it inserted, every lock that a request inserted is gone when
it ends. -/
theorem creation_locks_returned {setup : LockSetup} {first last : LockWatch} (start : WatchStart first)
    (run : Reaches (LockWatch.step setup) (fun w move => locksHandedOn w move = true) first last) :
    LocksReturned last := by
  have sound : WatchSound first := by
    constructor
    · exact start.keys
    · intro lock _ slot inserter
      rw [start.unwatched] at inserter
      cases inserter
    · intro key slot inserter
      rw [start.unwatched] at inserter
      cases inserter
  have atLast : WatchSound last := run.invariant sound fun w move before quiet => before.step quiet
  exact atLast.returned

def variantStore : Store :=
  { countingStore with erpItems := countingStore.erpItems.map fun item => item.set "item_id" (.str "P1") }

def lockWatch : LockWatch where
  calls := { store := { store := variantStore } }

theorem lockWatch_start : WatchStart lockWatch := ⟨fun _ => rfl, fun _ => rfl, List.nodup_nil⟩

def benCreation : Creation :=
  { shelfCreation true "line-2" "000000000000000000000002" 11 with user := { username := "ben", role := "staff" } }

def creationMoves (slot : Nat) (r : Creation) (steps : Nat) : List CountingMove :=
  .call (.start slot (.create r)) :: List.replicate steps (.call (.resume slot))

/-- Asha counts the shelf while Ben is refused, and then a call of Ben's fails after he has both
locks. -/
def locksPassedOn : List CountingMove :=
  creationMoves 0 (shelfCreation true "line-1" "000000000000000000000001" 10) 5 ++ creationMoves 1 benCreation 5 ++
    List.replicate 8 (.call (.resume 0)) ++ creationMoves 1 benCreation 5 ++ [.fail 1, .call (.resume 1)]

theorem creation_locks_returned_in_turn :
    LocksReturned (locksPassedOn.foldl (LockWatch.step {}) lockWatch) ∧
      (locksPassedOn.foldl (LockWatch.step {}) lockWatch).inserter "session:S1:product:P1" = some 1 := by
  have run : Reaches (LockWatch.step {}) (fun w move => locksHandedOn w move = true) lockWatch
      (locksPassedOn.foldl (LockWatch.step {}) lockWatch) := Reaches.of_admitted (by decide +kernel)
  exact ⟨creation_locks_returned lockWatch_start run, by decide +kernel⟩

/-- The lock on the product expires before the one on the shelf, and Ben is refused the shelf. -/
def locksLeftBehind : List CountingMove :=
  creationMoves 0 (shelfCreation true "line-1" "000000000000000000000001" 10) 5 ++
    [.call (.start 2 (.expire "session:S1:product:P1")), .call (.resume 2), .call (.start 2 .sweep), .call (.resume 2)] ++
    creationMoves 1 benCreation 6

/-- Ben's request ends with its lock on the product stored. -/
theorem creation_lock_leaked :
    ¬ (∀ (setup : LockSetup) (first last : LockWatch), WatchStart first →
      Reaches (LockWatch.step setup) (fun _ _ => True) first last → LocksReturned last) ∧
    (locksLeftBehind.foldl (LockWatch.step {}) lockWatch).locks.map (fun lock => (lock.key, lock.owner)) =
      [("S1:I1:F1:R1", "asha"), ("session:S1:product:P1", "ben")] ∧
    (locksLeftBehind.foldl (LockWatch.step {}) lockWatch).inserter "session:S1:product:P1" = some 1 ∧
    ((locksLeftBehind.foldl (LockWatch.step {}) lockWatch).calls.task 1).isNone = true := by
  have inserter : (locksLeftBehind.foldl (LockWatch.step {}) lockWatch).inserter "session:S1:product:P1" = some 1 := by
    decide +kernel
  have ended : ((locksLeftBehind.foldl (LockWatch.step {}) lockWatch).calls.task 1).isNone = true := by
    decide +kernel
  refine ⟨?_, by decide +kernel, inserter, ended⟩
  intro always
  obtain ⟨task, held⟩ := always {} lockWatch _ lockWatch_start
    (Reaches.foldl fun _ (move : CountingMove) (_ : move ∈ locksLeftBehind) => trivial) _ _ inserter
  rw [held] at ended
  cases ended

end StockVerification
