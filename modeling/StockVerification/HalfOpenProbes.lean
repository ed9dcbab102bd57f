import StockVerification.CircuitBreaker

/-!
# Probes of the half-open breaker

Source: backend/services/circuit_breaker.py:101-175.

Every admitted call reports once, at any later time. A call that was admitted since the breaker
became half open is a probe until it reports or the breaker becomes half open again.
-/
namespace StockVerification

open Foundation

/-- A call that was permitted and has not reported. -/
structure AdmittedCall where
  call : Nat
  probe : Bool
  deriving DecidableEq

structure ProbedBreaker where
  breaker : CircuitBreaker := {}
  pending : List AdmittedCall := []

inductive ProbeMove where
  | acquire (call : Nat) (time : ℚ)
  | success (call : Nat) (time : ℚ)
  | failure (call : Nat) (time : ℚ)

namespace ProbedBreaker

/-- When the breaker becomes half open no call is a probe any more. -/
def aged (s : ProbedBreaker) (state : CircuitState) : List AdmittedCall :=
  if state = .halfOpen ∧ s.breaker.state ≠ .halfOpen then s.pending.map fun admitted => { admitted with probe := false }
  else s.pending

def acquire (config : CircuitBreakerConfig) (s : ProbedBreaker) (call : Nat) (time : ℚ) : ProbedBreaker :=
  let acquired := s.breaker.acquire config time
  { breaker := acquired.1
    pending := (if acquired.2 then [{ call, probe := acquired.1.state = .halfOpen }] else []) ++ s.aged acquired.1.state }

def settle (s : ProbedBreaker) (call : Nat) : List AdmittedCall := s.pending.eraseP (·.call == call)

def step (config : CircuitBreakerConfig) (s : ProbedBreaker) : ProbeMove → ProbedBreaker
  | .acquire call time => s.acquire config call time
  | .success call _ => { breaker := s.breaker.recordSuccess config, pending := s.settle call }
  | .failure call time => { breaker := s.breaker.recordFailure config time, pending := s.settle call }

/-- Only calls that are admitted report, and each of them once. -/
def reports (s : ProbedBreaker) : ProbeMove → Bool
  | .acquire call _ => s.pending.all (·.call != call)
  | .success call _ | .failure call _ => s.pending.any (·.call == call)

/-- In the half-open state successes are reported by probes. -/
def probesSucceed (s : ProbedBreaker) : ProbeMove → Bool
  | .success call _ =>
    s.breaker.state != .halfOpen || s.pending.all fun admitted => admitted.call != call || admitted.probe
  | .acquire _ _ | .failure _ _ => true

def probes (s : ProbedBreaker) : Nat := s.pending.countP AdmittedCall.probe

structure ProbesCounted (config : CircuitBreakerConfig) (s : ProbedBreaker) : Prop where
  counted : s.breaker.state = .halfOpen → s.breaker.halfOpenCalls = s.probes
  bounded : s.breaker.state = .halfOpen → (s.breaker.halfOpenCalls : Int) ≤ config.halfOpenMaxCalls

section

variable {config : CircuitBreakerConfig} {s : ProbedBreaker}

theorem probes_settle {call : Nat} (reports : ∃ admitted ∈ s.pending, admitted.call = call)
    (own : ∀ admitted ∈ s.pending, admitted.call = call → admitted.probe = true) :
    (s.settle call).countP AdmittedCall.probe + 1 = s.probes := by
  obtain ⟨admitted, member, same⟩ := reports
  have matched : (fun a : AdmittedCall => a.call == call) admitted = true := by simpa using same
  obtain ⟨first, before, after, _, here, pending, erased⟩ :=
    List.exists_of_eraseP (p := fun a : AdmittedCall => a.call == call) member matched
  have probe : first.probe = true := by
    apply own first
    · rw [pending]
      simp
    · simpa using here
  rw [settle, erased, probes, pending, List.countP_append, List.countP_append, List.countP_cons_of_pos probe]
  omega

theorem ProbesCounted.acquire (sound : ProbesCounted config s) (some : 1 ≤ config.halfOpenMaxCalls)
    (call : Nat) (time : ℚ) : ProbesCounted config (s.acquire config call time) := by
  cases state : s.breaker.state with
  | closed =>
    have after : s.breaker.acquire config time = (s.breaker, true) := by simp [CircuitBreaker.acquire, state]
    constructor
    · simp [ProbedBreaker.acquire, after, state]
    · simp [ProbedBreaker.acquire, after, state]
  | opened =>
    by_cases passed : s.breaker.timeoutPassed config time = true
    · have after : s.breaker.acquire config time =
          ({ (s.breaker.transitionTo .halfOpen).resetCounts with halfOpenCalls := 1 }, true) := by
        simp [CircuitBreaker.acquire, state, passed]
      have entered : (s.breaker.transitionTo .halfOpen).resetCounts.state = .halfOpen := rfl
      have none : (s.aged .halfOpen).countP AdmittedCall.probe = 0 := by
        rw [aged, if_pos ⟨rfl, by simp [state]⟩, List.countP_eq_zero]
        simp
      constructor
      · intro _
        rw [probes, ProbedBreaker.acquire, after]
        simp only [if_true, entered, List.singleton_append]
        rw [List.countP_cons_of_pos (by simp), none]
      · intro _
        simp only [ProbedBreaker.acquire, after]
        exact some
    · have after : s.breaker.acquire config time = (s.breaker, false) := by
        simp [CircuitBreaker.acquire, state, passed]
      constructor
      · simp [ProbedBreaker.acquire, after, state]
      · simp [ProbedBreaker.acquire, after, state]
  | halfOpen =>
    have counted := sound.counted state
    have bounded := sound.bounded state
    have kept : s.aged .halfOpen = s.pending := by rw [aged, if_neg (by simp [state])]
    by_cases free : (s.breaker.halfOpenCalls : Int) < config.halfOpenMaxCalls
    · have after : s.breaker.acquire config time =
          ({ s.breaker with halfOpenCalls := s.breaker.halfOpenCalls + 1 }, true) := by
        simp [CircuitBreaker.acquire, state, free]
      constructor
      · intro _
        rw [probes, ProbedBreaker.acquire, after]
        simp only [if_true, state, List.singleton_append]
        rw [kept, List.countP_cons_of_pos (by simp), counted, probes]
      · intro _
        simp only [ProbedBreaker.acquire, after]
        omega
    · have after : s.breaker.acquire config time = (s.breaker, false) := by
        simp [CircuitBreaker.acquire, state, free]
      have same : s.acquire config call time = s := by
        simp only [ProbedBreaker.acquire, after, state, kept]
        rfl
      rw [same]
      exact sound

theorem ProbesCounted.success (sound : ProbesCounted config s) {call : Nat} {time : ℚ}
    (reports : s.reports (.success call time) = true) (own : s.probesSucceed (.success call time) = true) :
    ProbesCounted config (s.step config (.success call time)) := by
  cases state : s.breaker.state with
  | closed | opened =>
    have after : (s.breaker.recordSuccess config).state ≠ .halfOpen := by simp [CircuitBreaker.recordSuccess, state]
    constructor
    · simp [ProbedBreaker.step, after]
    · simp [ProbedBreaker.step, after]
  | halfOpen =>
    have counted := sound.counted state
    have bounded := sound.bounded state
    have reported : ∃ admitted ∈ s.pending, admitted.call = call := by
      simpa [ProbedBreaker.reports] using reports
    have settled := probes_settle reported fun admitted member same => by
      have one := own
      rw [probesSucceed, state, bne_self_eq_false, Bool.false_or, List.all_eq_true] at one
      simpa [same] using one admitted member
    by_cases enough : config.successThreshold ≤ (s.breaker.successCount + 1 : Nat)
    · have after : (s.breaker.recordSuccess config).state = .closed := by
        simp only [CircuitBreaker.recordSuccess, state]
        rw [if_pos enough]
        rfl
      constructor
      · simp [ProbedBreaker.step, after]
      · simp [ProbedBreaker.step, after]
    · have after : s.breaker.recordSuccess config = { s.breaker with
          successCount := s.breaker.successCount + 1
          halfOpenCalls := s.breaker.halfOpenCalls - 1 } := by
        simp only [CircuitBreaker.recordSuccess, state]
        rw [if_neg enough]
      constructor
      · intro _
        simp only [ProbedBreaker.step, after, probes]
        omega
      · intro _
        simp only [ProbedBreaker.step, after]
        omega

theorem ProbesCounted.failure (call : Nat) (time : ℚ) : ProbesCounted config (s.step config (.failure call time)) := by
  have after : (s.breaker.recordFailure config time).state ≠ .halfOpen := by
    cases state : s.breaker.state with
    | closed =>
      simp only [CircuitBreaker.recordFailure, state]
      split
      · simp [CircuitBreaker.transitionTo]
      · simp
    | opened => simp [CircuitBreaker.recordFailure, state]
    | halfOpen => simp [CircuitBreaker.recordFailure, state, CircuitBreaker.resetCounts, CircuitBreaker.transitionTo]
  exact ⟨fun halfOpen => absurd halfOpen after, fun halfOpen => absurd halfOpen after⟩

end

end ProbedBreaker

open ProbedBreaker in
/-- Where only probes report success in the half-open state, there are never more of them than
allowed. -/
theorem probes_bounded (config : CircuitBreakerConfig) (some : 1 ≤ config.halfOpenMaxCalls) {s : ProbedBreaker}
    (run : Reaches (ProbedBreaker.step config) (fun s move => (s.reports move && s.probesSucceed move) = true) {} s)
    (halfOpen : s.breaker.state = .halfOpen) : (s.probes : Int) ≤ config.halfOpenMaxCalls := by
  have sound : ProbesCounted config s := by
    apply run.invariant
    · exact ⟨nofun, nofun⟩
    · intro before move counted meets
      cases move with
      | acquire call time => exact counted.acquire some call time
      | success call time =>
        rw [Bool.and_eq_true] at meets
        exact counted.success meets.1 meets.2
      | failure call time => exact .failure call time
  rw [← sound.counted halfOpen]
  exact sound.bounded halfOpen

def singleFailure : CircuitBreakerConfig := { failureThreshold := 1, successThreshold := 2, halfOpenMaxCalls := 1 }

/-- The failure opens the breaker, and after the timeout the third call is the only probe. -/
def probedOnce : List ProbeMove := [.acquire 1 1, .acquire 2 1, .failure 2 1, .acquire 3 31]

theorem probes_bounded_once : ((probedOnce.foldl (ProbedBreaker.step singleFailure) {}).probes : Int) ≤ 1 :=
  probes_bounded singleFailure (by decide) (.of_admitted (by decide +kernel)) (by decide +kernel)

/-- The first call was admitted before the breaker opened. Its success makes room for a second
probe. -/
def probedTwice : List ProbeMove := probedOnce ++ [.success 1 32, .acquire 4 32]

theorem probes_exceed :
    Reaches (ProbedBreaker.step singleFailure) (fun s move => s.reports move = true) {}
        (probedTwice.foldl (ProbedBreaker.step singleFailure) {}) ∧
      (probedTwice.foldl (ProbedBreaker.step singleFailure) {}).breaker.state = .halfOpen ∧
      singleFailure.halfOpenMaxCalls < (probedTwice.foldl (ProbedBreaker.step singleFailure) {}).probes :=
  ⟨.of_admitted (by decide +kernel), by decide +kernel, by decide +kernel⟩

end StockVerification
