import Mathlib.Algebra.Order.Ring.Rat
import Mathlib.Tactic.Linarith
import StockVerification.Foundation.Run

/-!
# Circuit breaker

Source: backend/services/circuit_breaker.py:24-168.

Each operation runs under the breaker's lock, so it is one step. A report can come in any state,
also from a call that was admitted in an earlier one. The history has the latest entry first.
-/
namespace StockVerification

open Foundation

inductive CircuitState where
  | closed
  | opened
  | halfOpen
  deriving DecidableEq

structure CircuitBreakerConfig where
  failureThreshold : Int := 5
  successThreshold : Int := 3
  timeoutSeconds : ℚ := 30
  halfOpenMaxCalls : Int := 3

structure CircuitBreaker where
  state : CircuitState := .closed
  failureCount : Nat := 0
  successCount : Nat := 0
  lastFailureTime : Option ℚ := none
  halfOpenCalls : Nat := 0

namespace CircuitBreaker

def resetCounts (breaker : CircuitBreaker) : CircuitBreaker :=
  { breaker with failureCount := 0, successCount := 0, halfOpenCalls := 0 }

def transitionTo (breaker : CircuitBreaker) (state : CircuitState) : CircuitBreaker := { breaker with state := state }

def recordSuccess (config : CircuitBreakerConfig) (breaker : CircuitBreaker) : CircuitBreaker :=
  match breaker.state with
  | .halfOpen =>
    let counted := { breaker with
      successCount := breaker.successCount + 1
      halfOpenCalls := breaker.halfOpenCalls - 1 }
    if config.successThreshold ≤ counted.successCount then (counted.transitionTo .closed).resetCounts else counted
  | .closed => { breaker with failureCount := 0 }
  | .opened => breaker

def recordFailure (config : CircuitBreakerConfig) (time : ℚ) (breaker : CircuitBreaker) : CircuitBreaker :=
  let counted := { breaker with failureCount := breaker.failureCount + 1 }
  match breaker.state with
  | .halfOpen => ({ counted with lastFailureTime := some time }.transitionTo .opened).resetCounts
  | .closed =>
    let failed := { counted with lastFailureTime := some time }
    if config.failureThreshold ≤ failed.failureCount then failed.transitionTo .opened else failed
  | .opened => counted

/-- The time since the failure that opened the breaker has passed. A time of zero counts as none. -/
def timeoutPassed (config : CircuitBreakerConfig) (time : ℚ) (breaker : CircuitBreaker) : Bool :=
  match breaker.lastFailureTime with
  | some failed => failed != 0 && decide (config.timeoutSeconds ≤ time - failed)
  | none => false

/-- The breaker afterwards, and whether the call is permitted. -/
def acquire (config : CircuitBreakerConfig) (time : ℚ) (breaker : CircuitBreaker) : CircuitBreaker × Bool :=
  match breaker.state with
  | .closed => (breaker, true)
  | .opened =>
    if breaker.timeoutPassed config time then
      ({ (breaker.transitionTo .halfOpen).resetCounts with halfOpenCalls := 1 }, true)
    else (breaker, false)
  | .halfOpen =>
    if breaker.halfOpenCalls < config.halfOpenMaxCalls then
      ({ breaker with halfOpenCalls := breaker.halfOpenCalls + 1 }, true)
    else (breaker, false)

end CircuitBreaker

inductive BreakerCall where
  | success
  | failure
  | acquire
  deriving DecidableEq

/-- A call with its time, the state before and after it, and whether it was permitted. -/
structure BreakerEntry where
  call : BreakerCall
  time : ℚ
  before : CircuitState
  after : CircuitState
  admitted : Bool := false

structure BreakerRun where
  breaker : CircuitBreaker := {}
  history : List BreakerEntry := []

/-- The breaker after a call, and whether the call was permitted. -/
def CircuitBreaker.apply (config : CircuitBreakerConfig) (breaker : CircuitBreaker) (time : ℚ) :
    BreakerCall → CircuitBreaker × Bool
  | .success => (breaker.recordSuccess config, false)
  | .failure => (breaker.recordFailure config time, false)
  | .acquire => breaker.acquire config time

def BreakerRun.step (config : CircuitBreakerConfig) (run : BreakerRun) (move : BreakerCall × ℚ) : BreakerRun :=
  let applied := run.breaker.apply config move.2 move.1
  { breaker := applied.1
    history := { call := move.1, time := move.2, before := run.breaker.state, after := applied.1.state,
                 admitted := applied.2 } :: run.history }

/-- The failures reported since the last success that was reported in the closed state. -/
def failuresReported : List BreakerEntry → Nat
  | [] => 0
  | entry :: past =>
    if entry.call = .success ∧ entry.before = .closed then 0
    else failuresReported past + if entry.call = .failure then 1 else 0

/-- The time of the call that last opened the breaker. -/
def openedAt : List BreakerEntry → Option ℚ
  | [] => none
  | entry :: past => if entry.after = .opened ∧ entry.before ≠ .opened then some entry.time else openedAt past

/-- The calls since the breaker last became half open. -/
def sinceHalfOpen : List BreakerEntry → List BreakerEntry
  | [] => []
  | entry :: past => if entry.after = .halfOpen ∧ entry.before ≠ .halfOpen then [] else entry :: sinceHalfOpen past

def successesIn (entries : List BreakerEntry) : Nat := entries.countP fun entry => entry.call == .success

/-- What a transition or an admission needs of what was reported before. -/
structure EntryJustified (config : CircuitBreakerConfig) (entry : BreakerEntry) (past : List BreakerEntry) : Prop where
  opens : entry.before = .closed → entry.after = .opened → config.failureThreshold ≤ failuresReported (entry :: past)
  waits : entry.before = .opened → entry.admitted = true →
    ∃ failed, openedAt past = some failed ∧ failed + config.timeoutSeconds ≤ entry.time
  closes : entry.before = .halfOpen → entry.after = .closed →
    config.successThreshold ≤ successesIn (sinceHalfOpen (entry :: past)) ∧
      ∀ other ∈ sinceHalfOpen (entry :: past), other.call ≠ .failure

/-- Every entry of a history is justified by what came before it. -/
def Justified (config : CircuitBreakerConfig) : List BreakerEntry → Prop
  | [] => True
  | entry :: past => EntryJustified config entry past ∧ Justified config past

/-- The counters count no more than the history has. -/
structure CountersFollow (run : BreakerRun) : Prop where
  failures : run.breaker.failureCount ≤ failuresReported run.history
  opened : run.breaker.state = .opened → openedAt run.history = run.breaker.lastFailureTime
  successes : run.breaker.state = .halfOpen →
    run.breaker.successCount ≤ successesIn (sinceHalfOpen run.history) ∧
      ∀ entry ∈ sinceHalfOpen run.history, entry.call ≠ .failure

section

variable {config : CircuitBreakerConfig} {run : BreakerRun} {time : ℚ}

theorem failuresReported_cons (entry : BreakerEntry) (past : List BreakerEntry) :
    failuresReported (entry :: past) = if entry.call = .success ∧ entry.before = .closed then 0
      else failuresReported past + if entry.call = .failure then 1 else 0 := rfl

variable {entry : BreakerEntry}

theorem openedAt_unopened (unopened : entry.after = .opened → entry.before = .opened)
    (past : List BreakerEntry) : openedAt (entry :: past) = openedAt past := by
  rw [openedAt, if_neg]
  rintro ⟨after, before⟩
  exact before (unopened after)

theorem sinceHalfOpen_within (within : entry.after = .halfOpen → entry.before = .halfOpen)
    (past : List BreakerEntry) : sinceHalfOpen (entry :: past) = entry :: sinceHalfOpen past := by
  rw [sinceHalfOpen, if_neg]
  rintro ⟨after, before⟩
  exact before (within after)

theorem successesIn_cons (entry : BreakerEntry) (entries : List BreakerEntry) :
    successesIn (entry :: entries) = successesIn entries + if entry.call = .success then 1 else 0 := by
  rw [successesIn, List.countP_cons]
  simp [successesIn]

/-- What one call keeps, and what justifies its entry. -/
def StepJustified (config : CircuitBreakerConfig) (run : BreakerRun) (move : BreakerCall × ℚ) : Prop :=
  CountersFollow (run.step config move) ∧ ∃ entry,
    (run.step config move).history = entry :: run.history ∧ EntryJustified config entry run.history

theorem EntryJustified.stays {past : List BreakerEntry} (same : entry.after = entry.before)
    (refused : entry.before = .opened → entry.admitted = false) : EntryJustified config entry past where
  opens := by
    intro before after
    rw [same, before] at after
    cases after
  waits := by
    intro before admitted
    rw [refused before] at admitted
    cases admitted
  closes := by
    intro before after
    rw [same, before] at after
    cases after

/-- A call that leaves the state as it is. -/
theorem CountersFollow.stays (follows : CountersFollow run) {call : BreakerCall} {breaker : CircuitBreaker}
    {admitted : Bool} (applied : run.breaker.apply config time call = (breaker, admitted))
    (same : breaker.state = run.breaker.state)
    (waits : run.breaker.state = .opened → breaker.lastFailureTime = run.breaker.lastFailureTime ∧ admitted = false)
    (failures : breaker.failureCount ≤ if call = .success ∧ run.breaker.state = .closed then 0
      else run.breaker.failureCount + if call = .failure then 1 else 0)
    (successes : run.breaker.state = .halfOpen → call ≠ .failure ∧
      breaker.successCount ≤ run.breaker.successCount + if call = .success then 1 else 0) :
    StepJustified config run (call, time) := by
  unfold StepJustified BreakerRun.step
  simp only [applied]
  constructor
  · constructor
    · rw [failuresReported_cons]
      split at failures
      · next answered => rwa [if_pos answered]
      · next counted =>
        rw [if_neg counted]
        exact failures.trans (Nat.add_le_add_right follows.failures _)
    · intro opened
      rw [openedAt_unopened fun after => same ▸ after]
      exact (follows.opened (same ▸ opened)).trans (waits (same ▸ opened)).1.symm
    · intro halfOpen
      obtain ⟨counted, unfailed⟩ := follows.successes (same ▸ halfOpen)
      obtain ⟨notFailure, successes⟩ := successes (same ▸ halfOpen)
      rw [sinceHalfOpen_within fun after => same ▸ after, successesIn_cons, List.forall_mem_cons]
      exact ⟨successes.trans (Nat.add_le_add_right counted _), notFailure, unfailed⟩
  · exact ⟨_, rfl, .stays same fun opened => (waits opened).2⟩

theorem CountersFollow.success (follows : CountersFollow run) (time : ℚ) : StepJustified config run (.success, time) := by
  cases state : run.breaker.state with
  | closed =>
    have after : run.breaker.apply config time .success = ({ run.breaker with failureCount := 0 }, false) := by
      simp [CircuitBreaker.apply, CircuitBreaker.recordSuccess, state]
    exact follows.stays after rfl (by simp [state]) (by simp) (by simp [state])
  | opened =>
    have after : run.breaker.apply config time .success = (run.breaker, false) := by
      simp [CircuitBreaker.apply, CircuitBreaker.recordSuccess, state]
    exact follows.stays after rfl (by simp) (by simp [state]) (by simp)
  | halfOpen =>
    by_cases enough : config.successThreshold ≤ (run.breaker.successCount + 1 : Nat)
    · obtain ⟨counted, unfailed⟩ := follows.successes state
      have after : run.breaker.apply config time .success =
          ({ state := .closed, lastFailureTime := run.breaker.lastFailureTime }, false) := by
        simp only [CircuitBreaker.apply, CircuitBreaker.recordSuccess, state]
        rw [if_pos enough]
        rfl
      constructor
      · constructor
        · simp [BreakerRun.step, after]
        · simp [BreakerRun.step, after]
        · simp [BreakerRun.step, after]
      · refine ⟨_, rfl, by simp [state], by simp [state], ?_⟩
        intro _ _
        rw [after, sinceHalfOpen_within (by simp), successesIn_cons]
        constructor
        · rw [if_pos rfl]
          omega
        · simpa [List.forall_mem_cons] using unfailed
    · have after : run.breaker.apply config time .success = ({ run.breaker with
          successCount := run.breaker.successCount + 1
          halfOpenCalls := run.breaker.halfOpenCalls - 1 }, false) := by
        simp only [CircuitBreaker.apply, CircuitBreaker.recordSuccess, state]
        rw [if_neg enough]
      exact follows.stays after rfl (by simp) (by simp [state]) (by simp)

theorem CountersFollow.failure (follows : CountersFollow run) (time : ℚ) : StepJustified config run (.failure, time) := by
  cases state : run.breaker.state with
  | closed =>
    by_cases enough : config.failureThreshold ≤ (run.breaker.failureCount + 1 : Nat)
    · have more := Nat.succ_le_succ follows.failures
      have after : run.breaker.apply config time .failure = ({ run.breaker with
          state := .opened
          failureCount := run.breaker.failureCount + 1
          lastFailureTime := some time }, false) := by
        simp only [CircuitBreaker.apply, CircuitBreaker.recordFailure, state]
        rw [if_pos enough]
        rfl
      constructor
      · constructor
        · simpa [BreakerRun.step, after, failuresReported_cons] using more
        · simp [BreakerRun.step, after, openedAt, state]
        · simp [BreakerRun.step, after]
      · refine ⟨_, rfl, ?_, by simp [after], by simp [state]⟩
        intro _ _
        rw [failuresReported_cons, if_neg (by simp), if_pos rfl]
        omega
    · have after : run.breaker.apply config time .failure = ({ run.breaker with
          failureCount := run.breaker.failureCount + 1
          lastFailureTime := some time }, false) := by
        simp only [CircuitBreaker.apply, CircuitBreaker.recordFailure, state]
        rw [if_neg enough]
      exact follows.stays after rfl (by simp [state]) (by simp) (by simp [state])
  | opened =>
    have after : run.breaker.apply config time .failure =
        ({ run.breaker with failureCount := run.breaker.failureCount + 1 }, false) := by
      simp [CircuitBreaker.apply, CircuitBreaker.recordFailure, state]
    exact follows.stays after rfl (by simp) (by simp) (by simp [state])
  | halfOpen =>
    have after : run.breaker.apply config time .failure = ({ state := .opened, lastFailureTime := some time }, false) := by
      simp [CircuitBreaker.apply, CircuitBreaker.recordFailure, state, CircuitBreaker.transitionTo,
        CircuitBreaker.resetCounts]
    constructor
    · constructor
      · simp [BreakerRun.step, after]
      · simp [BreakerRun.step, after, openedAt, state]
      · simp [BreakerRun.step, after]
    · exact ⟨_, rfl, by simp [state], by simp [state], by simp [after]⟩

theorem timeoutPassed_iff {breaker : CircuitBreaker} : breaker.timeoutPassed config time = true ↔
    ∃ failed, breaker.lastFailureTime = some failed ∧ failed ≠ 0 ∧ config.timeoutSeconds ≤ time - failed := by
  unfold CircuitBreaker.timeoutPassed
  cases breaker.lastFailureTime with
  | none => simp
  | some failed => simp

theorem CountersFollow.acquire (follows : CountersFollow run) (time : ℚ) : StepJustified config run (.acquire, time) := by
  cases state : run.breaker.state with
  | closed =>
    have after : run.breaker.apply config time .acquire = (run.breaker, true) := by
      simp [CircuitBreaker.apply, CircuitBreaker.acquire, state]
    exact follows.stays after rfl (by simp [state]) (by simp) (by simp)
  | opened =>
    by_cases passed : run.breaker.timeoutPassed config time = true
    · have after : run.breaker.apply config time .acquire =
          ({ state := .halfOpen, lastFailureTime := run.breaker.lastFailureTime, halfOpenCalls := 1 }, true) := by
        simp [CircuitBreaker.apply, CircuitBreaker.acquire, state, passed,
          CircuitBreaker.transitionTo, CircuitBreaker.resetCounts]
      constructor
      · constructor
        · simp [BreakerRun.step, after]
        · simp [BreakerRun.step, after]
        · simp [BreakerRun.step, after, state, sinceHalfOpen]
      · refine ⟨_, rfl, by simp [state], ?_, by simp [state]⟩
        intro _ _
        obtain ⟨failed, last, _, waited⟩ := timeoutPassed_iff.mp passed
        refine ⟨failed, (follows.opened state).trans last, ?_⟩
        dsimp only
        linarith
    · have after : run.breaker.apply config time .acquire = (run.breaker, false) := by
        simp [CircuitBreaker.apply, CircuitBreaker.acquire, state, passed]
      exact follows.stays after rfl (by simp) (by simp) (by simp)
  | halfOpen =>
    obtain ⟨calls, admitted, after⟩ : ∃ calls admitted,
        run.breaker.apply config time .acquire = ({ run.breaker with halfOpenCalls := calls }, admitted) := by
      by_cases room : run.breaker.halfOpenCalls < config.halfOpenMaxCalls
      · exact ⟨run.breaker.halfOpenCalls + 1, true, by
          simp [CircuitBreaker.apply, CircuitBreaker.acquire, state, room]⟩
      · have refused : run.breaker.apply config time .acquire = (run.breaker, false) := by
          simp [CircuitBreaker.apply, CircuitBreaker.acquire, state, room]
        exact ⟨run.breaker.halfOpenCalls, false, refused⟩
    exact follows.stays after rfl (by simp [state]) (by simp) (by simp)

theorem CountersFollow.step (follows : CountersFollow run) (move : BreakerCall × ℚ) : StepJustified config run move := by
  obtain ⟨call, time⟩ := move
  cases call with
  | success => exact follows.success time
  | failure => exact follows.failure time
  | acquire => exact follows.acquire time

end

/-- In every run from a new breaker, each transition and each admission is justified by what was
reported before. -/
theorem breaker_transitions_justified (config : CircuitBreakerConfig) (moves : List (BreakerCall × ℚ)) :
    Justified config (moves.foldl (BreakerRun.step config) {}).history := by
  have run : Reaches (BreakerRun.step config) (fun _ _ => True) {} (moves.foldl (BreakerRun.step config) {}) :=
    Reaches.foldl fun _ _ _ => trivial
  have sound := run.invariant (P := fun run => CountersFollow run ∧ Justified config run.history)
    ⟨⟨Nat.le_refl 0, nofun, nofun⟩, trivial⟩ (by
      intro s move before _
      have step : StepJustified config s move := before.1.step move
      obtain ⟨follows, entry, added, justified⟩ := step
      exact ⟨follows, by rw [added]; exact ⟨justified, before.2⟩⟩)
  exact sound.2

end StockVerification
