import StockVerification.Foundation.Interleaving

/-!
# Guessing a PIN

Source: backend/services/pin_auth_service.py:57-182.

Calls of `verify_pin` for one user interleave. A call reads the record, looks at the lock,
compares the PIN and writes the count, and in between other calls may do the same. The log
of what happened is kept with the latest event first.
-/
namespace StockVerification

open Foundation

def maxAttempts : Nat := 3

/-- `self.lockout_duration`, in milliseconds. -/
def lockoutDuration : Int := 15 * 60 * 1000

/-- A document of `pin_authentication`, without the hash and the stamps. -/
structure PinRecord where
  enabled : Bool
  failedAttempts : Nat
  lockedUntil : Option Int
  deriving DecidableEq

/-- `set_pin`, which leaves a lock as it is. -/
def setPin (record : Option PinRecord) : PinRecord :=
  { enabled := true, failedAttempts := 0, lockedUntil := record.bind (·.lockedUntil) }

inductive PinEvent where
  | compared (correct : Bool) (locked : Bool)
  | locked
  | expired
  deriving DecidableEq

/-- The record, the clock, whether some call has compared a PIN and not yet written the
outcome, and the log. -/
structure PinState where
  record : Option PinRecord
  clock : Int
  unwritten : Bool := false
  events : List PinEvent := []

/-- The last `update_one` of a call. -/
inductive PinOutcome where
  | succeeded
  | failed (attempts : Nat) (lock : Option Int)

inductive PinRequest where
  | verifyPin (pin : String)
  | wait (time : Nat)

inductive PinTask where
  | find (pin : String)
  | examine (pin : String) (seen : Option PinRecord)
  | unlock (pin : String) (seen : PinRecord)
  | compare (pin : String) (seen : PinRecord)
  | store (outcome : PinOutcome)
  | wait (time : Nat)

def startPin (_ : PinState) : PinRequest → Option PinTask
  | .verifyPin pin => some (.find pin)
  | .wait time => some (.wait time)

namespace PinState

/-- Whether the stored record is locked. -/
def isLocked (s : PinState) : Bool :=
  match s.record.bind (·.lockedUntil) with
  | some lock => s.clock < lock
  | none => false

/-- The clock goes on, and a lock may run out. -/
def wait (s : PinState) (time : Nat) : PinState :=
  let later := { s with clock := s.clock + time }
  if s.isLocked && !later.isLocked then { later with events := .expired :: s.events } else later

/-- The unlocking `update_one`. -/
def unlock (s : PinState) : PinState :=
  { s with record := s.record.map fun record => { record with lockedUntil := none, failedAttempts := 0 } }

/-- The last `update_one` of a call. A lock that comes too late has run out at once. -/
def store (s : PinState) : PinOutcome → PinState
  | .succeeded =>
    { s with record := s.record.map fun record => { record with failedAttempts := 0 }, unwritten := false }
  | .failed attempts none =>
    { s with record := s.record.map fun record => { record with failedAttempts := attempts }, unwritten := false }
  | .failed attempts (some lock) =>
    { s with
      record := s.record.map fun record => { record with failedAttempts := attempts, lockedUntil := some lock }
      unwritten := false
      events := if lock ≤ s.clock then .expired :: .locked :: s.events else .locked :: s.events }

end PinState

section

variable (verify : String → Bool)

/-- The comparison with the stored hash, and the write that it leads to. The count goes on from
the record that the call has read. -/
def comparePin (s : PinState) (pin : String) (seen : PinRecord) : PinState × Option PinTask :=
  let compared := { s with unwritten := true, events := .compared (verify pin) s.isLocked :: s.events }
  if verify pin then (compared, some (.store .succeeded))
  else
    let failedAttempts := seen.failedAttempts + 1
    (compared, some (.store (.failed failedAttempts
      (if maxAttempts ≤ failedAttempts then some (s.clock + lockoutDuration) else none))))

/-- One call of `verify_pin` goes on. -/
def resumePin (s : PinState) : PinTask → PinState × Option PinTask
  | .find pin => (s, some (.examine pin s.record))
  | .examine _ none => (s, none)
  | .examine pin (some seen) =>
    if !seen.enabled then (s, none)
    else match seen.lockedUntil with
      | some lock => if s.clock < lock then (s, none) else (s, some (.unlock pin seen))
      | none => comparePin verify s pin seen
  | .unlock pin seen => (s.unlock, some (.compare pin seen))
  | .compare pin seen => comparePin verify s pin seen
  | .store outcome => (s.store outcome, none)
  | .wait time => (s.wait time, none)

abbrev PinCalls := Concurrent PinState PinTask

def PinCalls.step : PinCalls → Move PinRequest → PinCalls := Concurrent.step startPin (resumePin verify)

/-- A PIN is compared only while no other comparison waits for its write, and against a record
that is still as the call goes by: as it was read, or as the call itself has unlocked it, and
then with the correct PIN. A lock is lifted only if it is the one that the call has read. -/
def pinUndisturbed (c : PinCalls) : Move PinRequest → Bool
  | .resume slot =>
    match c.task slot with
    | some (.examine _ (some seen)) =>
      !seen.enabled || seen.lockedUntil.isSome || !c.store.unwritten && c.store.record == some seen
    | some (.unlock _ seen) => c.store.record.map (·.lockedUntil) == some seen.lockedUntil
    | some (.compare pin _) =>
      !c.store.unwritten && c.store.record.any (fun record => record.lockedUntil == none) && verify pin
    | _ => true
  | _ => true

end

def PinEvent.isWrong : PinEvent → Bool
  | .compared correct _ => !correct
  | _ => false

/-- A correct PIN was entered, or a lock expired. -/
def PinEvent.isReset : PinEvent → Bool
  | .compared correct _ => correct
  | .locked => false
  | .expired => true

def wrongSince (ends : PinEvent → Bool) (events : List PinEvent) : Nat :=
  (events.takeWhile fun event => !ends event).countP PinEvent.isWrong

/-- At every moment at most `maxAttempts` wrong PINs were compared since the last correct PIN or
expiry, nothing was compared under a lock, and between an expiry and the next lock
`maxAttempts` wrong PINs were compared. -/
structure GuessesBounded (events : List PinEvent) : Prop where
  guesses : ∀ past, past <:+ events → wrongSince PinEvent.isReset past ≤ maxAttempts
  locked : ∀ correct, PinEvent.compared correct true ∉ events
  allowed : ∀ past, (PinEvent.locked :: past) <:+ events → PinEvent.expired ∈ past →
    maxAttempts ≤ wrongSince (· == .expired) past

theorem wrongSince_cons (ends : PinEvent → Bool) (event : PinEvent) (events : List PinEvent) :
    wrongSince ends (event :: events) =
      if ends event then 0 else wrongSince ends events + if event.isWrong then 1 else 0 := by
  unfold wrongSince
  cases stops : ends event with
  | true => simp [stops]
  | false =>
    rw [List.takeWhile_cons, stops]
    simp [List.countP_cons]

theorem wrongSince_reset_le (events : List PinEvent) :
    wrongSince PinEvent.isReset events ≤ wrongSince (· == .expired) events := by
  induction events with
  | nil => exact Nat.le_refl _
  | cons event rest ih =>
    rw [wrongSince_cons, wrongSince_cons]
    cases event with
    | compared correct locked =>
      cases correct with
      | true => simp [PinEvent.isReset]
      | false => simpa [PinEvent.isReset, PinEvent.isWrong] using ih
    | locked => simpa [PinEvent.isReset, PinEvent.isWrong] using ih
    | expired => simp [PinEvent.isReset]

/-- One more event. -/
theorem GuessesBounded.cons {events : List PinEvent} (bounded : GuessesBounded events)
    {event : PinEvent} (guesses : wrongSince PinEvent.isReset (event :: events) ≤ maxAttempts)
    (unlocked : ∀ correct, event ≠ .compared correct true)
    (allowed : event = .locked → maxAttempts ≤ wrongSince PinEvent.isReset events) :
    GuessesBounded (event :: events) := by
  constructor
  · intro past earlier
    rcases List.suffix_cons_iff.mp earlier with rfl | before
    · exact guesses
    · exact bounded.guesses past before
  · intro correct member
    rcases List.mem_cons.mp member with same | before
    · exact unlocked correct same.symm
    · exact bounded.locked correct before
  · intro past earlier expired
    rcases List.suffix_cons_iff.mp earlier with same | before
    · obtain ⟨isLock, rfl⟩ := List.cons.inj same
      exact (allowed isLock.symm).trans (wrongSince_reset_le past)
    · exact bounded.allowed past before expired

theorem GuessesBounded.expired {events : List PinEvent} (bounded : GuessesBounded events) :
    GuessesBounded (.expired :: events) := by
  apply bounded.cons
  · rw [wrongSince_cons]
    exact Nat.zero_le _
  · nofun
  · nofun

/-- Without a lock the record counts the wrong PINs, unless a comparison waits for its write. An
expired lock leaves no wrong PIN to count. -/
structure PinCounted (s : PinState) : Prop where
  bounded : GuessesBounded s.events
  counted : ∀ record, s.record = some record → record.lockedUntil = none → s.unwritten = false →
    record.failedAttempts = wrongSince PinEvent.isReset s.events ∧ record.failedAttempts < maxAttempts
  written : ∀ record lock, s.record = some record → record.lockedUntil = some lock → s.unwritten = false
  expired : ∀ record lock, s.record = some record → record.lockedUntil = some lock →
    lock ≤ s.clock → wrongSince PinEvent.isReset s.events = 0

/-- What a call relies on: the lock it is about to lift has expired, and the outcome it is about
to write counts its own comparison. -/
def PinTask.Fits (s : PinState) : PinTask → Prop
  | .unlock _ seen => ∃ lock, seen.lockedUntil = some lock ∧ lock ≤ s.clock
  | .store .succeeded => s.unwritten = true ∧ wrongSince PinEvent.isReset s.events = 0
  | .store (.failed attempts lock) => s.unwritten = true ∧
      attempts = wrongSince PinEvent.isReset s.events ∧ (lock = none ↔ attempts < maxAttempts)
  | _ => True

def PinTask.IsStore : PinTask → Prop
  | .store _ => True
  | _ => False

structure PinSound (c : PinCalls) : Prop where
  sound : Concurrent.Sound PinCounted PinTask.Fits c
  single : Concurrent.Exclusive PinTask.IsStore c.task

variable {s : PinState} {task : PinTask}

theorem PinTask.Fits.unwritten (fits : task.Fits s) (isStore : task.IsStore) : s.unwritten = true := by
  cases task with
  | store outcome =>
    cases outcome with
    | succeeded => exact fits.1
    | failed attempts lock => exact fits.1
  | find pin | examine pin seen | unlock pin seen | compare pin seen | wait time => cases isStore

/-- A task's fact survives where the clock does not go back, and, for a pending write, where
neither the log nor the flag changes. -/
theorem PinTask.Fits.mono {t : PinState} (fits : task.Fits s) (later : s.clock ≤ t.clock)
    (pending : task.IsStore → t.unwritten = s.unwritten ∧ wrongSince PinEvent.isReset t.events = wrongSince
      PinEvent.isReset s.events) :
    task.Fits t := by
  cases task with
  | store outcome =>
    obtain ⟨flag, count⟩ := pending trivial
    cases outcome with
    | succeeded => exact ⟨flag.trans fits.1, count.trans fits.2⟩
    | failed attempts lock => exact ⟨flag.trans fits.1, fits.2.1.trans count.symm, fits.2.2⟩
  | unlock pin seen =>
    obtain ⟨lock, stored, past⟩ := fits
    exact ⟨lock, stored, past.trans later⟩
  | find pin | examine pin seen | compare pin seen | wait time => trivial

variable {record : PinRecord}

theorem PinState.isLocked_none (stored : s.record = some record)
    (unlocked : record.lockedUntil = none) : s.isLocked = false := by
  simp [isLocked, stored, unlocked]

theorem PinState.isLocked_some {lock : Int} (stored : s.record = some record)
    (locked : record.lockedUntil = some lock) : s.isLocked = decide (s.clock < lock) := by
  simp [isLocked, stored, locked]

/-- The clock goes on: a lock that runs out leaves an expiry in the log. -/
theorem PinCounted.wait (counted : PinCounted s) (time : Nat) : PinCounted (s.wait time) := by
  unfold PinState.wait
  dsimp only
  split
  · next runsOut =>
    rw [Bool.and_eq_true, Bool.not_eq_true'] at runsOut
    constructor
    · exact counted.bounded.expired
    · intro record stored unlocked
      rw [PinState.isLocked_none (s := s) stored unlocked] at runsOut
      cases runsOut.1
    · exact counted.written
    · intro record lock stored locked past
      rw [wrongSince_cons]
      rfl
  · next stays =>
    refine { counted with expired := ?_ }
    intro record lock stored locked past
    apply counted.expired record lock stored locked
    rw [PinState.isLocked_some (s := s) stored locked,
      PinState.isLocked_some (s := { s with clock := s.clock + time }) stored locked] at stays
    dsimp only at past
    simp only [Bool.and_eq_true, decide_eq_true_eq, Bool.not_eq_true', decide_eq_false_iff_not,
      not_and, not_not] at stays
    by_cases active : s.clock < lock
    · have := stays active
      omega
    · omega

/-- Lifting the lock that is stored, once it has expired. -/
theorem PinCounted.unlock (counted : PinCounted s) {lock : Int} (past : lock ≤ s.clock)
    (same : s.record.map (·.lockedUntil) = some (some lock)) : PinCounted s.unlock := by
  obtain ⟨old, stored, locked⟩ := Option.map_eq_some_iff.mp same
  have nothing := counted.expired old lock stored locked past
  unfold PinState.unlock
  rw [stored]
  constructor
  · exact counted.bounded
  · intro record now _ _
    cases now
    exact ⟨nothing.symm, Nat.zero_lt_succ _⟩
  · intro record other now isLocked
    cases now
    cases isLocked
  · intro record other now isLocked
    cases now
    cases isLocked

section

variable {verify : String → Bool}

/-- A comparison that no other call disturbs: nothing else waits for its write, the record is not
locked, and a wrong PIN is counted from the record as it stands. -/
theorem PinCounted.compare (counted : PinCounted s) {pin : String} {seen : PinRecord}
    (written : s.unwritten = false) (stored : s.record = some record)
    (unlocked : record.lockedUntil = none) (current : verify pin = false → seen = record) :
    PinCounted (comparePin verify s pin seen).1 ∧
      ∀ next, (comparePin verify s pin seen).2 = some next → next.Fits (comparePin verify s pin seen).1 := by
  obtain ⟨count, below⟩ := counted.counted record stored unlocked written
  have flag := PinState.isLocked_none stored unlocked
  have noLock : ∀ other lock, s.record = some other → other.lockedUntil = some lock → False := by
    intro other lock now isLocked
    rw [stored] at now
    cases now
    rw [unlocked] at isLocked
    cases isLocked
  unfold comparePin
  dsimp only
  rw [flag]
  cases verified : verify pin with
  | true =>
    refine ⟨⟨?_, ?_, ?_, ?_⟩, ?_⟩
    · apply counted.bounded.cons
      · rw [wrongSince_cons]
        exact Nat.zero_le _
      · nofun
      · nofun
    · nofun
    · exact fun other lock now isLocked => (noLock other lock now isLocked).elim
    · exact fun other lock now isLocked => (noLock other lock now isLocked).elim
    · intro next goesOn
      cases goesOn
      exact ⟨rfl, wrongSince_cons _ _ _⟩
  | false =>
    have grown : wrongSince PinEvent.isReset (.compared false false :: s.events) = record.failedAttempts + 1 := by
      rw [wrongSince_cons, count]
      rfl
    refine ⟨⟨?_, ?_, ?_, ?_⟩, ?_⟩
    · apply counted.bounded.cons
      · rw [grown]
        exact below
      · nofun
      · nofun
    · nofun
    · exact fun other lock now isLocked => (noLock other lock now isLocked).elim
    · exact fun other lock now isLocked => (noLock other lock now isLocked).elim
    · intro next goesOn
      cases goesOn
      rw [current verified]
      refine ⟨rfl, grown.symm, ?_⟩
      by_cases most : maxAttempts ≤ record.failedAttempts + 1
      · rw [if_pos most]
        constructor
        · nofun
        · intro less
          omega
      · rw [if_neg most]
        constructor
        · intro _
          omega
        · intro _
          rfl

/-- The write of an outcome. -/
theorem PinCounted.store (counted : PinCounted s) {outcome : PinOutcome}
    (fits : (PinTask.store outcome).Fits s) : PinCounted (s.store outcome) := by
  have noLock : ∀ record lock, s.record = some record → record.lockedUntil = some lock → False := by
    intro record lock stored locked
    have flag := fits.unwritten trivial
    rw [counted.written record lock stored locked] at flag
    cases flag
  cases outcome with
  | succeeded =>
    refine ⟨counted.bounded, ?_, fun _ _ _ _ => rfl, ?_⟩
    · intro record stored _ _
      obtain ⟨old, _, rfl⟩ := Option.map_eq_some_iff.mp stored
      exact ⟨fits.2.symm, Nat.zero_lt_succ _⟩
    · intro record lock stored locked
      obtain ⟨old, before, rfl⟩ := Option.map_eq_some_iff.mp stored
      exact (noLock old lock before locked).elim
  | failed attempts lock =>
    obtain ⟨_, count, limit⟩ := fits
    cases lock with
    | none =>
      refine ⟨counted.bounded, ?_, fun _ _ _ _ => rfl, ?_⟩
      · intro record stored _ _
        obtain ⟨old, _, rfl⟩ := Option.map_eq_some_iff.mp stored
        exact ⟨count, limit.mp rfl⟩
      · intro record other stored locked
        obtain ⟨old, before, rfl⟩ := Option.map_eq_some_iff.mp stored
        exact (noLock old other before locked).elim
    | some lock =>
      have most : maxAttempts ≤ wrongSince PinEvent.isReset s.events := by
        by_contra less
        have := limit.mpr (by omega)
        cases this
      have bounded : GuessesBounded (.locked :: s.events) := by
        apply counted.bounded.cons
        · rw [wrongSince_cons]
          exact counted.bounded.guesses s.events (List.suffix_refl _)
        · nofun
        · intro _
          exact most
      unfold PinState.store
      dsimp only
      refine ⟨?_, ?_, fun _ _ _ _ => rfl, ?_⟩
      · dsimp only
        split
        · exact bounded.expired
        · exact bounded
      · intro record stored unlocked
        obtain ⟨old, _, rfl⟩ := Option.map_eq_some_iff.mp stored
        cases unlocked
      · intro record other stored locked past
        obtain ⟨old, _, rfl⟩ := Option.map_eq_some_iff.mp stored
        cases locked
        dsimp only at past ⊢
        rw [if_pos past, wrongSince_cons]
        rfl

structure PinGoesOn (c : PinCalls) (slot : Nat) (after : PinState × Option PinTask) : Prop where
  counted : PinCounted after.1
  own : ∀ next, after.2 = some next → next.Fits after.1
  later : c.store.clock ≤ after.1.clock
  pending : ∀ other u, other ≠ slot → c.task other = some u → u.IsStore →
    after.1.unwritten = c.store.unwritten ∧
      wrongSince PinEvent.isReset after.1.events = wrongSince PinEvent.isReset c.store.events
  alone : ∀ next, after.2 = some next → next.IsStore → c.store.unwritten = false

variable {c : PinCalls}

theorem PinSound.rests (kept : PinSound c) (slot : Nat) {next : Option PinTask}
    (fine : ∀ t, next = some t → t.Fits c.store ∧ ¬ t.IsStore) : PinGoesOn c slot (c.store, next) where
  counted := kept.sound.store
  own t goesOn := (fine t goesOn).1
  later := le_refl _
  pending _ _ _ _ _ := ⟨rfl, rfl⟩
  alone t goesOn isStore := absurd isStore (fine t goesOn).2

theorem PinSound.compares (kept : PinSound c) (slot : Nat) {pin : String} {seen : PinRecord}
    (written : c.store.unwritten = false) (stored : c.store.record = some record) (unlocked : record.lockedUntil = none)
    (current : verify pin = false → seen = record) : PinGoesOn c slot (comparePin verify c.store pin seen) := by
  obtain ⟨after, own⟩ := kept.sound.store.compare written stored unlocked current
  refine ⟨after, own, ?_, ?_, fun _ _ _ => written⟩
  · unfold comparePin
    dsimp only
    split
    · exact le_refl _
    · exact le_refl _
  · intro other u _ before isStore
    have flag := (kept.sound.tasks other u before).unwritten isStore
    rw [written] at flag
    cases flag

/-- The clock goes on. A lock that runs out is stored, so no comparison waits for its write. -/
theorem PinSound.waits (kept : PinSound c) (slot time : Nat) : PinGoesOn c slot (c.store.wait time, none) := by
  refine ⟨kept.sound.store.wait time, ?_, ?_, ?_, ?_⟩
  · nofun
  · unfold PinState.wait
    dsimp only
    split
    · dsimp only
      omega
    · dsimp only
      omega
  · intro other u _ before isStore
    have flag := (kept.sound.tasks other u before).unwritten isStore
    unfold PinState.wait
    dsimp only
    split
    · next runsOut =>
      rw [Bool.and_eq_true] at runsOut
      cases stored : c.store.record with
      | none =>
        rw [PinState.isLocked, stored] at runsOut
        cases runsOut.1
      | some record =>
        cases locked : record.lockedUntil with
        | none =>
          rw [PinState.isLocked_none stored locked] at runsOut
          cases runsOut.1
        | some lock =>
          rw [kept.sound.store.written record lock stored locked] at flag
          cases flag
    · exact ⟨rfl, rfl⟩
  · nofun

/-- A call that is not disturbed goes on. -/
theorem PinSound.resumed (kept : PinSound c) {slot : Nat}
    (quiet : pinUndisturbed verify c (.resume slot) = true) (held : c.task slot = some task) :
    PinGoesOn c slot (resumePin verify c.store task) := by
  have fits := kept.sound.tasks slot task held
  cases task with
  | find pin =>
    apply kept.rests
    intro t goesOn
    cases goesOn
    exact ⟨trivial, id⟩
  | examine pin seen =>
    cases seen with
    | none =>
      apply kept.rests
      nofun
    | some seen =>
      simp only [pinUndisturbed, held] at quiet
      simp only [resumePin]
      cases enabled : seen.enabled with
      | false =>
        apply kept.rests
        nofun
      | true =>
        cases lock : seen.lockedUntil with
        | none =>
          have current : c.store.unwritten = false ∧ c.store.record = some seen := by
            simpa [enabled, lock] using quiet
          exact kept.compares slot current.1 current.2 lock fun _ => rfl
        | some until_ =>
          by_cases active : c.store.clock < until_
          · simp only [active, if_true]
            apply kept.rests
            nofun
          · simp only [active, if_false]
            apply kept.rests
            intro t goesOn
            cases goesOn
            exact ⟨⟨until_, lock, by omega⟩, id⟩
  | unlock pin seen =>
    obtain ⟨lock, stored, past⟩ := fits
    simp only [pinUndisturbed, held, stored, beq_iff_eq] at quiet
    refine ⟨kept.sound.store.unlock past quiet, ?_, le_refl _, fun _ _ _ _ _ => ⟨rfl, rfl⟩, ?_⟩
    · intro next goesOn
      cases goesOn
      trivial
    · intro next goesOn isStore
      cases goesOn
      cases isStore
  | compare pin seen =>
    simp only [pinUndisturbed, held, Bool.and_eq_true, Bool.not_eq_true'] at quiet
    obtain ⟨⟨written, present⟩, verified⟩ := quiet
    cases stored : c.store.record with
    | none =>
      rw [stored] at present
      cases present
    | some record =>
      rw [stored] at present
      apply kept.compares slot written stored (beq_iff_eq.mp present)
      intro wrong
      rw [verified] at wrong
      cases wrong
  | store outcome =>
    refine ⟨kept.sound.store.store fits, ?_, ?_, ?_, ?_⟩
    · nofun
    · cases outcome with
      | succeeded => exact le_refl _
      | failed attempts lock => cases lock <;> exact le_refl _
    · intro other u different before isStore
      exact absurd (kept.single other slot u _ before held isStore trivial) different
    · nofun
  | wait time => exact kept.waits slot time

theorem PinSound.step {move : Move PinRequest} (kept : PinSound c)
    (quiet : pinUndisturbed verify c move = true) : PinSound (PinCalls.step verify c move) := by
  constructor
  · apply kept.sound.step
    · intro slot request t _ begun
      cases request with
      | verifyPin pin | wait time =>
        cases begun
        trivial
    · intro slot t isResume held _
      subst isResume
      have on := kept.resumed quiet held
      exact ⟨on.counted, on.own, fun other u different before itsFact =>
        itsFact.mono on.later (on.pending other u different before)⟩
  · apply kept.single.step
    · intro request t begun isStore
      cases request with
      | verifyPin pin | wait time =>
        cases begun
        cases isStore
    · intro slot t next isResume held goesOn isStore
      subst isResume
      refine .inr fun other u before itsStore => ?_
      have flag := (kept.sound.tasks other u before).unwritten itsStore
      rw [(kept.resumed quiet held).alone next goesOn isStore] at flag
      cases flag

end

structure PinStart (c : PinCalls) : Prop where
  set : ∃ before, c.store.record = some (setPin before)
  written : c.store.unwritten = false
  unlogged : c.store.events = []
  idle : ∀ slot, c.task slot = none

theorem PinStart.sound {c : PinCalls} (start : PinStart c) : PinSound c := by
  obtain ⟨before, set⟩ := start.set
  refine ⟨⟨⟨⟨?_, ?_, ?_⟩, ?_, ?_, ?_⟩, ?_⟩, ?_⟩
  · intro past earlier
    rw [start.unlogged, List.suffix_nil] at earlier
    subst earlier
    exact Nat.zero_le _
  · intro correct member
    rw [start.unlogged] at member
    cases member
  · intro past earlier
    rw [start.unlogged, List.suffix_nil] at earlier
    cases earlier
  · intro record stored _ _
    rw [set] at stored
    cases stored
    rw [start.unlogged]
    exact ⟨rfl, Nat.zero_lt_succ _⟩
  · intro record lock _ _
    exact start.written
  · intro record lock _ _ _
    rw [start.unlogged]
    rfl
  · intro slot task held
    rw [start.idle] at held
    cases held
  · intro n m t u held
    rw [start.idle] at held
    cases held

/-- In every run in which no comparison is disturbed, and no wrong PIN comes with the call that
finds the lock expired, guessing is bounded. -/
theorem pin_guessing_bounded {verify : String → Bool} {first last : PinCalls} (start : PinStart first)
    (run : Reaches (PinCalls.step verify) (fun c move => pinUndisturbed verify c move = true) first last) :
    GuessesBounded last.store.events := by
  have kept : PinSound last := run.invariant start.sound fun c move sound quiet => sound.step quiet
  exact kept.sound.store.bounded

def pinCalls : PinCalls where
  store := { record := some (setPin none), clock := 0 }

def isPin (pin : String) : Bool := pin == "1234"

theorem pinCalls_start : PinStart pinCalls := ⟨⟨none, rfl⟩, rfl, rfl, fun _ => rfl⟩

def wholeCall (slot : Nat) (pin : String) (steps : Nat) : List (Move PinRequest) :=
  .start slot (.verifyPin pin) :: List.replicate steps (.resume slot)

def passTime (time : Nat) : List (Move PinRequest) := [.start 9 (.wait time), .resume 9]

/-- Three wrong PINs, a call under the lock, the correct PIN after the lock, and three wrong PINs
again. -/
def guessesInTurn : List (Move PinRequest) :=
  wholeCall 0 "0000" 3 ++ wholeCall 0 "0001" 3 ++ wholeCall 0 "0002" 3 ++ wholeCall 0 "0003" 3 ++ passTime 900000 ++
    wholeCall 0 "1234" 5 ++ wholeCall 0 "0004" 3 ++ wholeCall 0 "0005" 3 ++ wholeCall 0 "0006" 3

theorem pin_guessing_bounded_in_turn :
    GuessesBounded (guessesInTurn.foldl (PinCalls.step isPin) pinCalls).store.events ∧
      (guessesInTurn.foldl (PinCalls.step isPin) pinCalls).store.events.countP PinEvent.isWrong = 6 := by
  refine ⟨pin_guessing_bounded pinCalls_start (Reaches.of_admitted ?_), ?_⟩
  · decide +kernel
  · decide +kernel

/-- Four calls read the record before any of them writes it. -/
def guessesAtOnce : List (Move PinRequest) :=
  (List.range 4).flatMap (fun slot => [.start slot (.verifyPin "0000"), .resume slot]) ++
    (List.range 4).flatMap fun slot => [.resume slot, .resume slot]

def guessAfterLock : List (Move PinRequest) :=
  wholeCall 0 "0000" 3 ++ wholeCall 0 "0001" 3 ++ wholeCall 0 "0002" 3 ++ passTime 900000 ++ wholeCall 0 "0003" 5

/-- Calls at once compare a fourth wrong PIN, and after the lock has expired one wrong PIN brings
the next lock. -/
theorem pin_guessing_unbounded :
    ¬ (∀ (verify : String → Bool) (first last : PinCalls), PinStart first →
      Reaches (PinCalls.step verify) (fun _ _ => True) first last → GuessesBounded last.store.events) ∧
    wrongSince PinEvent.isReset (guessesAtOnce.foldl (PinCalls.step isPin) pinCalls).store.events = 4 ∧
    (guessAfterLock.foldl (PinCalls.step isPin) pinCalls).store.events.take 3 =
      [.locked, .compared false false, .expired] := by
  have four : wrongSince PinEvent.isReset (guessesAtOnce.foldl (PinCalls.step isPin) pinCalls).store.events = 4 := by
    decide +kernel
  refine ⟨?_, four, by decide +kernel⟩
  intro always
  have bounded := always isPin pinCalls _ pinCalls_start
    (Reaches.foldl fun _ (move : Move PinRequest) (_ : move ∈ guessesAtOnce) => trivial)
  have most := bounded.guesses _ (List.suffix_refl _)
  rw [four] at most
  exact absurd most (by decide)

end StockVerification
