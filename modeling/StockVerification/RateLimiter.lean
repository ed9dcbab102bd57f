import Mathlib.Data.Rat.Floor
import StockVerification.Foundation.Text
import StockVerification.Foundation.TokenBucket

/-!
# The rate limiter

Source: backend/services/rate_limiting/limiter.py:16-147.

`is_allowed` runs under the limiter's lock, so a call is one step; it reads the clock up to five
times. A bucket that nobody used for an hour may be removed by a later call for any bucket. Rates
and bursts are counts; zero stands for the default.
-/
namespace StockVerification

open Foundation

structure RateLimiter where
  defaultRate : Nat := 100
  defaultBurst : Nat := 20
  perUser : Bool := true
  perEndpoint : Bool := false
  buckets : String → Option (TokenBucket ℚ) := fun _ => none
  requestCounts : String → Nat := fun _ => 0
  windowStart : ℚ := 0
  windowSize : ℚ := 60

structure RateRequest where
  userId : Option String := none
  endpoint : Option String := none
  rate : Option Nat := none
  burst : Option Nat := none

/-- The clock at the refill, at the consumption, at the check of the window, in the cleanup and
after it. -/
structure ClockReadings where
  refilled : ℚ
  consumed : ℚ
  checked : ℚ
  cleaned : ℚ
  restarted : ℚ

structure RateInfo where
  allowed : Bool
  remaining : Int
  limit : Nat
  resetIn : Int
  retryAfter : Option Int := none
  deriving DecidableEq

inductive RateError where
  | zeroDivision
  deriving DecidableEq

/-- A missing or empty text is no part of the key. -/
def keyPart (wanted : Bool) (label : String) (text : Option String) : List String :=
  match text with
  | some text => if wanted ∧ text ≠ "" then [label ++ text] else []
  | none => []

/-- `rate or self.default_rate`. -/
def orDefault (value : Option Nat) (fallback : Nat) : Nat :=
  match value with
  | some n => if n = 0 then fallback else n
  | none => fallback

namespace RateLimiter

def getBucketKey (limiter : RateLimiter) (request : RateRequest) : String :=
  match keyPart limiter.perUser "user:" request.userId ++ keyPart limiter.perEndpoint "endpoint:" request.endpoint with
  | [] => "default"
  | parts => String.intercalate "|" parts

def rateLimit (limiter : RateLimiter) (request : RateRequest) : Nat := orDefault request.rate limiter.defaultRate

def burstLimit (limiter : RateLimiter) (request : RateRequest) : Nat := orDefault request.burst limiter.defaultBurst

def setBucket (limiter : RateLimiter) (key : String) (bucket : TokenBucket ℚ) : RateLimiter :=
  { limiter with buckets := fun other => if other = key then some bucket else limiter.buckets other }

/-- What the bucket holds after `_refill_tokens`. -/
def refilled (limiter : RateLimiter) (key : String) (rate burst : Nat) (now : ℚ) : TokenBucket ℚ :=
  match limiter.buckets key with
  | none => .full burst now
  | some bucket => bucket.refill (rate / 60 : ℚ) burst now

def cleanupOldBuckets (limiter : RateLimiter) (now : ℚ) : RateLimiter :=
  { limiter with buckets := fun key => (limiter.buckets key).filter fun bucket => decide (now - 3600 ≤ bucket.lastRefill) }

/-- Every minute, buckets are cleaned up and the counts start again. -/
def restartWindow (limiter : RateLimiter) (clock : ClockReadings) : RateLimiter :=
  if limiter.windowSize < clock.checked - limiter.windowStart then
    { limiter.cleanupOldBuckets clock.cleaned with requestCounts := fun _ => 0, windowStart := clock.restarted }
  else limiter

def isAllowed (limiter : RateLimiter) (request : RateRequest) (clock : ClockReadings) :
    RateLimiter × Except RateError RateInfo :=
  let key := limiter.getBucketKey request
  let rate := limiter.rateLimit request
  let burst := limiter.burstLimit request
  let bucket := limiter.refilled key rate burst clock.refilled
  if 1 ≤ bucket.tokens then
    let taken := bucket.take clock.consumed
    let counted := { limiter.setBucket key taken with
      requestCounts := fun other => limiter.requestCounts other + if other = key then 1 else 0 }
    (counted.restartWindow clock,
      if rate = 0 then .error .zeroDivision
      else .ok {
        allowed := true
        remaining := truncate taken.tokens
        limit := rate
        resetIn := truncate ((60 / rate) * (burst - taken.tokens)) })
  else
    (limiter.setBucket key bucket,
      if rate = 0 then .error .zeroDivision
      else .ok {
        allowed := false
        remaining := 0
        limit := rate
        resetIn := truncate ((60 / rate) * (burst - bucket.tokens))
        retryAfter := some (truncate (max 1 ((1 - bucket.tokens) * (60 / rate)))) })

end RateLimiter

structure RateEntry where
  key : String
  clock : ClockReadings
  allowed : Bool

structure RateRun where
  limiter : RateLimiter
  log : List RateEntry := []

def isAdmitted : Except RateError RateInfo → Bool
  | .ok info => info.allowed
  | .error _ => false

def RateRun.step (run : RateRun) (call : RateRequest × ClockReadings) : RateRun :=
  let answered := run.limiter.isAllowed call.1 call.2
  { limiter := answered.1
    log := { key := run.limiter.getBucketKey call.1, clock := call.2, allowed := isAdmitted answered.2 } :: run.log }

def ClockReadings.Ordered (clock : ClockReadings) : Prop :=
  clock.refilled ≤ clock.consumed ∧ clock.consumed ≤ clock.checked ∧ clock.checked ≤ clock.cleaned ∧
    clock.cleaned ≤ clock.restarted

/-- The clock does not go back, within the calls and between them. -/
def CallsAscend (now : ℚ) : List (RateRequest × ClockReadings) → Prop
  | [] => True
  | call :: rest => now ≤ call.2.refilled ∧ call.2.Ordered ∧ CallsAscend call.2.restarted rest

/-- The calls of a bucket that were allowed and took their token at the start or later. -/
def takenSince (key : String) (start : ℚ) (log : List RateEntry) : Nat :=
  log.countP fun entry => entry.allowed && entry.key == key && decide (start ≤ entry.clock.consumed)

/-- The allowed calls of a bucket that were under way at some time between the start and the
finish. -/
def allowedWithin (key : String) (start finish : ℚ) (log : List RateEntry) : Nat :=
  log.countP fun entry => entry.allowed && entry.key == key && decide (start ≤ entry.clock.consumed) &&
    decide (entry.clock.refilled ≤ finish)

namespace RateLimiter

variable {limiter : RateLimiter} {key : String} {rate burst : Nat} {start now : ℚ} {taken : Nat}

/-- What decides which bucket a call is for, and its rate and burst. -/
structure SameSetup (a b : RateLimiter) : Prop where
  rate : a.defaultRate = b.defaultRate
  burst : a.defaultBurst = b.defaultBurst
  user : a.perUser = b.perUser
  endpoint : a.perEndpoint = b.perEndpoint

theorem restartWindow_setup (limiter : RateLimiter) (clock : ClockReadings) :
    SameSetup (limiter.restartWindow clock) limiter := by
  unfold restartWindow
  split <;> exact ⟨rfl, rfl, rfl, rfl⟩

theorem isAllowed_setup (limiter : RateLimiter) (request : RateRequest) (clock : ClockReadings) :
    SameSetup (limiter.isAllowed request clock).1 limiter := by
  unfold isAllowed
  simp only
  split
  · have restarted := fun counted : RateLimiter => restartWindow_setup counted clock
    exact ⟨(restarted _).rate, (restarted _).burst, (restarted _).user, (restarted _).endpoint⟩
  · exact ⟨rfl, rfl, rfl, rfl⟩

variable {a b : RateLimiter}

section

variable (same : SameSetup a b) (request : RateRequest)
include same request

theorem SameSetup.getBucketKey : a.getBucketKey request = b.getBucketKey request := by
  rw [RateLimiter.getBucketKey, RateLimiter.getBucketKey, same.user, same.endpoint]

theorem SameSetup.rateLimit : a.rateLimit request = b.rateLimit request := by
  rw [RateLimiter.rateLimit, RateLimiter.rateLimit, same.rate]

theorem SameSetup.burstLimit : a.burstLimit request = b.burstLimit request := by
  rw [RateLimiter.burstLimit, RateLimiter.burstLimit, same.burst]

end

/-- The bucket of a key, or the full one it will be made as. -/
def Held (limiter : RateLimiter) (key : String) (rate burst : Nat) (start : ℚ) (taken : Nat) (now : ℚ) : Prop :=
  match limiter.buckets key with
  | some bucket => bucket.Covers (rate / 60 : ℚ) burst start taken ∧ bucket.lastRefill ≤ now
  | none => ∃ time ≤ now, (TokenBucket.full (burst : ℚ) time).Covers (rate / 60 : ℚ) burst start taken

theorem Held.later {later : ℚ} (held : limiter.Held key rate burst start taken now)
    (after : now ≤ later) : limiter.Held key rate burst start taken later := by
  unfold Held at held ⊢
  cases stored : limiter.buckets key with
  | some bucket =>
    rw [stored] at held
    exact ⟨held.1, held.2.trans after⟩
  | none =>
    rw [stored] at held
    obtain ⟨time, before, covers⟩ := held
    exact ⟨time, before.trans after, covers⟩

/-- The cleanup may remove a bucket that was not used for an hour, and nothing else. -/
theorem restartWindow_buckets (limiter : RateLimiter) (clock : ClockReadings) (key : String) :
    (limiter.restartWindow clock).buckets key = limiter.buckets key ∨
      ((limiter.restartWindow clock).buckets key = none ∧
        ∃ bucket, limiter.buckets key = some bucket ∧ bucket.lastRefill + 3600 ≤ clock.cleaned) := by
  unfold restartWindow
  by_cases expired : limiter.windowSize < clock.checked - limiter.windowStart
  · rw [if_pos expired]
    cases stored : limiter.buckets key with
    | none =>
      apply Or.inl
      simp only [cleanupOldBuckets, stored, Option.filter_none]
    | some bucket =>
      by_cases recent : clock.cleaned - 3600 ≤ bucket.lastRefill
      · apply Or.inl
        simp only [cleanupOldBuckets, stored]
        rw [Option.filter_some_pos (by simpa using recent)]
      · apply Or.inr
        constructor
        · simp only [cleanupOldBuckets, stored]
          rw [Option.filter_some_neg (by simpa using recent)]
        · exact ⟨bucket, rfl, by linarith⟩
  · rw [if_neg expired]
    exact .inl rfl

theorem setBucket_own (limiter : RateLimiter) (key : String) (bucket : TokenBucket ℚ) :
    (limiter.setBucket key bucket).buckets key = some bucket := if_pos rfl

theorem setBucket_other (limiter : RateLimiter) {other : String} (different : other ≠ key)
    (bucket : TokenBucket ℚ) : (limiter.setBucket key bucket).buckets other = limiter.buckets other :=
  if_neg different

/-- The bucket a call decides by. -/
def decided (limiter : RateLimiter) (request : RateRequest) (clock : ClockReadings) : TokenBucket ℚ :=
  limiter.refilled (limiter.getBucketKey request) (limiter.rateLimit request)
    (limiter.burstLimit request) clock.refilled

variable {request : RateRequest}

section

variable {clock : ClockReadings}

theorem isAllowed_denied (short : ¬ 1 ≤ (limiter.decided request clock).tokens) :
    (limiter.isAllowed request clock).1 =
      limiter.setBucket (limiter.getBucketKey request) (limiter.decided request clock) ∧
      isAdmitted (limiter.isAllowed request clock).2 = false := by
  unfold isAllowed
  simp only
  rw [decided] at short
  rw [if_neg short]
  refine ⟨rfl, ?_⟩
  split <;> rfl

theorem isAllowed_admitted (enough : 1 ≤ (limiter.decided request clock).tokens)
    (some : limiter.rateLimit request ≠ 0) : isAdmitted (limiter.isAllowed request clock).2 = true := by
  unfold isAllowed
  simp only
  rw [decided] at enough
  rw [if_pos enough, if_neg some]
  rfl

theorem isAllowed_taken (enough : 1 ≤ (limiter.decided request clock).tokens) (key : String) :
    let after := (limiter.isAllowed request clock).1.buckets key
    let taken := (limiter.setBucket (limiter.getBucketKey request)
      ((limiter.decided request clock).take clock.consumed)).buckets key
    after = taken ∨ (after = none ∧ ∃ bucket, taken = some bucket ∧ bucket.lastRefill + 3600 ≤ clock.cleaned) := by
  unfold isAllowed
  simp only
  rw [decided] at enough
  rw [if_pos enough]
  exact restartWindow_buckets _ clock key

theorem isAllowed_other (different : key ≠ limiter.getBucketKey request) :
    (limiter.isAllowed request clock).1.buckets key = limiter.buckets key ∨
      ((limiter.isAllowed request clock).1.buckets key = none ∧
        ∃ bucket, limiter.buckets key = some bucket ∧ bucket.lastRefill + 3600 ≤ clock.cleaned) := by
  by_cases enough : 1 ≤ (limiter.decided request clock).tokens
  · have after := isAllowed_taken enough key
    rwa [setBucket_other _ different] at after
  · rw [(isAllowed_denied enough).1, setBucket_other _ different]
    exact .inl rfl

end

section Bound

variable {clock : ClockReadings}

theorem filled_within_hour (fills : burst ≤ 60 * rate) : (burst : ℚ) ≤ rate / 60 * 3600 := by
  have cast : (burst : ℚ) ≤ 60 * rate := by exact_mod_cast fills
  linarith

section

variable (held : limiter.Held key rate burst start taken now)
include held

theorem Held.removed (fills : burst ≤ 60 * rate) {bucket : TokenBucket ℚ} (stored : limiter.buckets key = some bucket)
    {time : ℚ} (idle : bucket.lastRefill + 3600 ≤ time) :
    (TokenBucket.full (burst : ℚ) time).Covers (rate / 60 : ℚ) burst start taken := by
  unfold Held at held
  rw [stored] at held
  exact held.1.forget (by positivity) (filled_within_hour fills) idle

theorem Held.other (fills : burst ≤ 60 * rate) (ordered : clock.Ordered)
    (after : now ≤ clock.refilled) (different : key ≠ limiter.getBucketKey request) :
    (limiter.isAllowed request clock).1.Held key rate burst start taken clock.restarted := by
  obtain ⟨consumed, checked, cleaned, restarted⟩ := ordered
  obtain same | ⟨removed, bucket, stored, idle⟩ := @isAllowed_other limiter key request clock different
  · have later := held.later (after.trans (consumed.trans (checked.trans (cleaned.trans restarted))))
    unfold Held at later ⊢
    rwa [same]
  · have covers := held.removed fills stored idle
    unfold Held
    rw [removed]
    exact ⟨clock.cleaned, restarted, covers⟩

/-- The bucket as it is refilled covers what was taken. -/
theorem Held.decided (after : now ≤ clock.refilled) (own : limiter.getBucketKey request = key)
    (sameRate : limiter.rateLimit request = rate) (sameBurst : limiter.burstLimit request = burst) :
    (limiter.decided request clock).Covers (rate / 60 : ℚ) burst start taken ∧
      (limiter.decided request clock).lastRefill = clock.refilled := by
  unfold RateLimiter.decided refilled
  rw [own, sameRate, sameBurst]
  unfold Held at held
  cases stored : limiter.buckets key with
  | some bucket =>
    rw [stored] at held
    exact ⟨held.1.refill (by positivity) (by positivity) (held.2.trans after), rfl⟩
  | none =>
    rw [stored] at held
    obtain ⟨time, before, covers⟩ := held
    refine ⟨?_, rfl⟩
    have gained : (0 : ℚ) ≤ rate / 60 * (clock.refilled - time) :=
      mul_nonneg (by positivity) (sub_nonneg.mpr (before.trans after))
    have same : (TokenBucket.full (burst : ℚ) time).refill (rate / 60 : ℚ) burst clock.refilled =
        TokenBucket.full (burst : ℚ) clock.refilled := by
      simp only [TokenBucket.refill, TokenBucket.full]
      rw [min_eq_left (by linarith)]
    rw [← same]
    exact covers.refill (by positivity) (by positivity) (before.trans after)

/-- One call for the bucket: what is taken since the start, and the bucket it leaves. -/
theorem Held.own (fills : burst ≤ 60 * rate) (ordered : clock.Ordered) (after : now ≤ clock.refilled)
    (own : limiter.getBucketKey request = key) (sameRate : limiter.rateLimit request = rate)
    (sameBurst : limiter.burstLimit request = burst) (enough : 1 ≤ (limiter.decided request clock).tokens) :
    (limiter.isAllowed request clock).1.Held key rate burst start
      (taken + if start ≤ clock.consumed then 1 else 0) clock.restarted := by
  obtain ⟨consumed, checked, cleaned, restarted⟩ := ordered
  obtain ⟨covers, last⟩ := held.decided after own sameRate sameBurst
  have left : ((limiter.decided request clock).take clock.consumed).Covers (rate / 60 : ℚ) burst start
      (taken + if start ≤ clock.consumed then 1 else 0) :=
    covers.take (by positivity) enough (by rw [last]; exact consumed)
  obtain same | ⟨removed, bucket, stored, idle⟩ := isAllowed_taken enough key
  · rw [own, setBucket_own] at same
    unfold Held
    rw [same]
    exact ⟨left, checked.trans (cleaned.trans restarted)⟩
  · rw [own, setBucket_own, Option.some.injEq] at stored
    subst stored
    unfold Held
    rw [removed]
    exact ⟨clock.cleaned, restarted, left.forget (by positivity) (filled_within_hour fills) idle⟩

end

end Bound

end RateLimiter

open RateLimiter

/-- What a run keeps for one bucket and one window. -/
structure WindowBounded (key : String) (rate burst : Nat) (start finish now : ℚ) (run : RateRun) : Prop where
  held : run.limiter.Held key rate burst start (takenSince key start run.log) now
  within : (allowedWithin key start finish run.log : ℚ) ≤ burst + rate / 60 * (finish - start)

section Runs

variable {key : String} {rate burst : Nat} {start finish now : ℚ} {run : RateRun}

theorem allowedWithin_le (key : String) (start finish : ℚ) (log : List RateEntry) :
    allowedWithin key start finish log ≤ takenSince key start log := by
  apply List.countP_mono_left
  intro entry _ inside
  rw [Bool.and_eq_true] at inside
  exact inside.1

section

variable (bounded : WindowBounded key rate burst start finish now run) (window : start ≤ finish)
  (fills : burst ≤ 60 * rate)
include bounded window fills

theorem WindowBounded.step {call : RateRequest × ClockReadings} (after : now ≤ call.2.refilled)
    (ordered : call.2.Ordered)
    (fixed : run.limiter.getBucketKey call.1 = key → run.limiter.rateLimit call.1 = rate ∧
      run.limiter.burstLimit call.1 = burst) :
    WindowBounded key rate burst start finish call.2.restarted (run.step call) := by
  by_cases own : run.limiter.getBucketKey call.1 = key
  · obtain ⟨sameRate, sameBurst⟩ := fixed own
    obtain ⟨covers, last⟩ := bounded.held.decided after own sameRate sameBurst
    by_cases enough : 1 ≤ (run.limiter.decided call.1 call.2).tokens
    · have some : rate ≠ 0 := by
        intro zero
        have none : (burst : ℚ) ≤ 0 := by exact_mod_cast (by omega : burst ≤ 0)
        have atMost := covers.atMost
        linarith
      have allowed : isAdmitted (run.limiter.isAllowed call.1 call.2).2 = true :=
        isAllowed_admitted enough (sameRate.trans_ne some)
      have left := bounded.held.own fills ordered after own sameRate sameBurst enough
      have counted : takenSince key start (run.step call).log =
          takenSince key start run.log + if start ≤ call.2.consumed then 1 else 0 := by
        simp [takenSince, RateRun.step, List.countP_cons, allowed, own]
      constructor
      · rw [counted]
        exact left
      · by_cases inside : start ≤ call.2.consumed ∧ call.2.refilled ≤ finish
        · have one : allowedWithin key start finish (run.step call).log =
              allowedWithin key start finish run.log + 1 := by
            simp [allowedWithin, RateRun.step, allowed, own, inside]
          have bound : ((takenSince key start run.log + 1 : Nat) : ℚ) ≤ burst + rate / 60 * (finish - start) :=
            covers.bound (by positivity) enough (by rw [last]; exact inside.2) window
          have fewer : (allowedWithin key start finish run.log : ℚ) ≤ takenSince key start run.log := by
            exact_mod_cast allowedWithin_le key start finish run.log
          rw [one]
          push_cast at bound ⊢
          linarith
        · have none : allowedWithin key start finish (run.step call).log =
              allowedWithin key start finish run.log := by
            simp only [allowedWithin, RateRun.step]
            rw [List.countP_cons_of_neg]
            simpa [allowed, own] using inside
          rw [none]
          exact bounded.within
    · obtain ⟨left, denied⟩ := isAllowed_denied enough
      constructor
      · have counted : takenSince key start (run.step call).log = takenSince key start run.log := by
          simp [takenSince, RateRun.step, denied]
        rw [counted]
        unfold Held
        simp only [RateRun.step]
        rw [left, own, setBucket_own]
        refine ⟨covers, ?_⟩
        rw [last]
        obtain ⟨consumed, checked, cleaned, restarted⟩ := ordered
        exact consumed.trans (checked.trans (cleaned.trans restarted))
      · have counted : allowedWithin key start finish (run.step call).log =
            allowedWithin key start finish run.log := by
          simp [allowedWithin, RateRun.step, denied]
        rw [counted]
        exact bounded.within
  · have different : key ≠ run.limiter.getBucketKey call.1 := fun same => own same.symm
    have unlike : (run.limiter.getBucketKey call.1 == key) = false := by simpa using own
    constructor
    · have counted : takenSince key start (run.step call).log = takenSince key start run.log := by
        simp [takenSince, RateRun.step, unlike]
      rw [counted]
      exact bounded.held.other fills ordered after different
    · have counted : allowedWithin key start finish (run.step call).log = allowedWithin key start finish run.log := by
        simp [allowedWithin, RateRun.step, unlike]
      rw [counted]
      exact bounded.within

theorem WindowBounded.calls {calls : List (RateRequest × ClockReadings)} (ordered : CallsAscend now calls)
    (fixed : ∀ call ∈ calls, run.limiter.getBucketKey call.1 = key → run.limiter.rateLimit call.1 = rate ∧
      run.limiter.burstLimit call.1 = burst) :
    (allowedWithin key start finish (calls.foldl RateRun.step run).log : ℚ) ≤
      burst + rate / 60 * (finish - start) := by
  induction calls generalizing run now with
  | nil => exact bounded.within
  | cons call rest ih =>
    obtain ⟨after, own, later⟩ := ordered
    have setup := isAllowed_setup run.limiter call.1 call.2
    refine ih (bounded.step window fills after own (fixed call List.mem_cons_self)) later ?_
    intro other member
    have given := fixed other (List.mem_cons_of_mem _ member)
    simp only [RateRun.step]
    rwa [setup.getBucketKey, setup.rateLimit, setup.burstLimit]

end

end Runs

/-- In every run, and in every window of it, no more calls of a bucket are allowed than its burst
and its rate give. -/
theorem token_bucket_bound (limiter : RateLimiter) (fresh : ∀ key, limiter.buckets key = none)
    (key : String) (rate burst : Nat) (fills : burst ≤ 60 * rate) {now : ℚ}
    {calls : List (RateRequest × ClockReadings)} (ordered : CallsAscend now calls)
    (fixed : ∀ call ∈ calls, limiter.getBucketKey call.1 = key →
      limiter.rateLimit call.1 = rate ∧ limiter.burstLimit call.1 = burst)
    (start T : ℚ) (window : 0 ≤ T) :
    (allowedWithin key start (start + T) (calls.foldl RateRun.step { limiter }).log : ℚ) ≤ burst + rate * T / 60 := by
  have first : WindowBounded key rate burst start (start + T) now { limiter } := by
    constructor
    · unfold Held
      rw [fresh key]
      exact ⟨now, le_refl now, .full (by positivity)⟩
    · have since : (0 : ℚ) ≤ rate / 60 * (start + T - start) := mul_nonneg (by positivity) (by linarith)
      have none : allowedWithin key start (start + T) [] = 0 := rfl
      rw [none]
      push_cast
      have positive : (0 : ℚ) ≤ burst := by positivity
      linarith
  have bound := first.calls (by linarith) fills ordered fixed
  have same : (rate : ℚ) / 60 * (start + T - start) = rate * T / 60 := by ring
  rwa [same] at bound


/-- A call right after the second: the third finds no token. -/
def threeCalls : List (RateRequest × ClockReadings) :=
  List.replicate 3 ({ userId := some "a", rate := some 60, burst := some 2 },
    { refilled := 5, consumed := 5, checked := 5, cleaned := 5, restarted := 5 })

theorem token_bucket_bound_three :
    (allowedWithin "user:a" 5 (5 + 0) (threeCalls.foldl RateRun.step { limiter := {} }).log : ℚ) ≤ (2 : Nat) +
    (60 : Nat) * 0 / 60 := by
  have ordered : CallsAscend 0 threeCalls := by
    simp [threeCalls, List.replicate, CallsAscend, ClockReadings.Ordered]
  refine token_bucket_bound {} (fun _ => rfl) "user:a" 60 2 (by decide) ordered ?_ 5 0 (le_refl 0)
  intro call member _
  rw [List.eq_of_mem_replicate member]
  exact ⟨rfl, rfl⟩

section Waiting

variable {limiter : RateLimiter} {request : RateRequest} {clock : ClockReadings} {info : RateInfo}

def waitFor (rate : Nat) (tokens : ℚ) : ℚ := (1 - tokens) * (60 / rate)

theorem denied_answer (positive : 0 < limiter.rateLimit request)
    (answered : (limiter.isAllowed request clock).2 = .ok info) (denied : info.allowed = false) :
    ¬ 1 ≤ (limiter.decided request clock).tokens ∧
      info.retryAfter = some
        (truncate (max 1 (waitFor (limiter.rateLimit request) (limiter.decided request clock).tokens))) := by
  unfold isAllowed at answered
  simp only at answered
  rw [decided, waitFor]
  by_cases enough : 1 ≤ (limiter.refilled (limiter.getBucketKey request) (limiter.rateLimit request)
      (limiter.burstLimit request) clock.refilled).tokens
  · rw [if_pos enough, if_neg (by omega)] at answered
    cases answered
    cases denied
  · rw [if_neg enough, if_neg (by omega)] at answered
    cases answered
    exact ⟨enough, rfl⟩

def othersLater (limiter : RateLimiter) (others : List (RateRequest × ClockReadings)) : RateLimiter :=
  others.foldl (fun limiter call => (limiter.isAllowed call.1 call.2).1) limiter

theorem othersLater_setup (limiter : RateLimiter) (others : List (RateRequest × ClockReadings)) :
    SameSetup (othersLater limiter others) limiter := by
  induction others generalizing limiter with
  | nil => exact ⟨rfl, rfl, rfl, rfl⟩
  | cons call rest ih =>
    have first := isAllowed_setup limiter call.1 call.2
    have later := ih (limiter.isAllowed call.1 call.2).1
    exact ⟨later.rate.trans first.rate, later.burst.trans first.burst, later.user.trans first.user,
      later.endpoint.trans first.endpoint⟩

theorem othersLater_buckets (limiter : RateLimiter) {key : String} {others : List (RateRequest × ClockReadings)}
    (different : ∀ call ∈ others, limiter.getBucketKey call.1 ≠ key) :
    (othersLater limiter others).buckets key = limiter.buckets key ∨ (othersLater limiter others).buckets key = none := by
  induction others generalizing limiter with
  | nil => exact .inl rfl
  | cons call rest ih =>
    have setup := isAllowed_setup limiter call.1 call.2
    have later := ih (limiter.isAllowed call.1 call.2).1 fun other member => by
      rw [setup.getBucketKey]
      exact different other (List.mem_cons_of_mem _ member)
    have own : key ≠ limiter.getBucketKey call.1 := (different call List.mem_cons_self).symm
    obtain same | ⟨removed, _⟩ := @isAllowed_other limiter key call.1 call.2 own
    · rwa [same] at later
    · rw [removed] at later
      exact .inr (later.elim id id)

theorem decided_lastRefill (limiter : RateLimiter) (request : RateRequest) (clock : ClockReadings) :
    (limiter.decided request clock).lastRefill = clock.refilled := by
  unfold decided refilled
  split <;> rfl

theorem admitted_iff (positive : 0 < limiter.rateLimit request) :
    isAdmitted (limiter.isAllowed request clock).2 = true ↔ 1 ≤ (limiter.decided request clock).tokens := by
  constructor
  · intro admitted
    by_contra short
    rw [(isAllowed_denied short).2] at admitted
    cases admitted
  · intro enough
    exact isAllowed_admitted enough (by omega)

theorem waitFor_le_iff {rate : Nat} (positive : 0 < rate) (tokens : ℚ) (seconds : ℚ) :
    1 ≤ tokens + rate / 60 * seconds ↔ waitFor rate tokens ≤ seconds := by
  have cast : (0 : ℚ) < rate := by exact_mod_cast positive
  rw [waitFor, ← mul_div_assoc, div_le_iff₀ cast]
  constructor
  · intro enough
    linarith
  · intro enough
    linarith

theorem le_truncate_iff {wait : ℚ} : wait ≤ truncate (max 1 wait) ↔ wait ≤ 1 ∨ wait = ⌊wait⌋ := by
  have positive : (0 : ℚ) ≤ max 1 wait := le_trans zero_le_one (le_max_left _ _)
  rw [truncate, if_pos positive]
  by_cases short : wait ≤ 1
  · rw [max_eq_left short]
    simp [short]
  · have long : 1 ≤ wait := le_of_lt (not_le.mp short)
    rw [max_eq_right long]
    constructor
    · intro enough
      exact .inr (le_antisymm enough (Int.floor_le wait))
    · intro whole
      exact le_of_eq (whole.resolve_left short)

/-- The waiting time that a denied call is told suffices, whatever calls of other buckets come in
between, exactly when it did not have to be rounded. -/
theorem retry_after_suffices_iff (limiter : RateLimiter) (request : RateRequest) (clock : ClockReadings) (info : RateInfo)
    (rate : 0 < limiter.rateLimit request) (burst : 0 < limiter.burstLimit request)
    (answered : (limiter.isAllowed request clock).2 = .ok info) (denied : info.allowed = false) :
    (∃ seconds, info.retryAfter = some seconds ∧ ∀ others later,
      (∀ call ∈ others, limiter.getBucketKey call.1 ≠ limiter.getBucketKey request) →
      later.refilled = clock.refilled + seconds →
      isAdmitted ((othersLater (limiter.isAllowed request clock).1 others).isAllowed request later).2 = true) ↔
    (waitFor (limiter.rateLimit request) (limiter.decided request clock).tokens ≤ 1 ∨
      waitFor (limiter.rateLimit request) (limiter.decided request clock).tokens =
        ⌊waitFor (limiter.rateLimit request) (limiter.decided request clock).tokens⌋) := by
  obtain ⟨short, told⟩ := denied_answer rate answered denied
  rw [← le_truncate_iff]
  have setup := isAllowed_setup limiter request clock
  have left : (limiter.isAllowed request clock).1.buckets (limiter.getBucketKey request) =
      some (limiter.decided request clock) := by
    rw [(isAllowed_denied short).1, setBucket_own]
  have whole : (1 : ℚ) ≤ limiter.burstLimit request := by exact_mod_cast burst
  constructor
  · intro ⟨seconds, same, later⟩
    rw [told, Option.some.injEq] at same
    subst same
    have again := later [] { clock with refilled := clock.refilled + _ } (by simp) rfl
    have positive : 0 < (limiter.isAllowed request clock).1.rateLimit request := by rwa [setup.rateLimit]
    rw [othersLater, List.foldl_nil, admitted_iff positive, decided, setup.getBucketKey,
      setup.rateLimit, setup.burstLimit, refilled, left] at again
    have gained := (le_min_iff.mp again).2
    rwa [decided_lastRefill, add_sub_cancel_left, waitFor_le_iff rate] at gained
  · intro enough
    refine ⟨_, told, ?_⟩
    intro others later different after
    have same := (othersLater_setup (limiter.isAllowed request clock).1 others)
    have positive : 0 < (othersLater (limiter.isAllowed request clock).1 others).rateLimit request := by
      rwa [same.rateLimit, setup.rateLimit]
    have apart : ∀ call ∈ others, (limiter.isAllowed request clock).1.getBucketKey call.1 ≠
        limiter.getBucketKey request := by
      intro call member
      rw [setup.getBucketKey]
      exact different call member
    rw [admitted_iff positive, decided, same.getBucketKey, same.rateLimit, same.burstLimit,
      setup.getBucketKey, setup.rateLimit, setup.burstLimit, refilled]
    obtain kept | removed := othersLater_buckets _ apart
    · rw [kept, left]
      apply le_min whole
      rw [decided_lastRefill, after, add_sub_cancel_left, waitFor_le_iff rate]
      exact enough
    · rw [removed]
      exact whole

end Waiting

def readAt (time : ℚ) : ClockReadings where
  refilled := time
  consumed := time
  checked := time
  cleaned := time
  restarted := time

def oneToken (rate : Nat) : RateRequest := { userId := some "a", rate := some rate, burst := some 1 }

def emptied (rate : Nat) : RateLimiter := (({} : RateLimiter).isAllowed (oneToken rate) (readAt 0)).1

def deniedInfo (limit : Nat) (seconds : Int) : RateInfo where
  allowed := false
  remaining := 0
  limit := limit
  resetIn := seconds
  retryAfter := some seconds

theorem retry_after_suffices_second :
    ∃ seconds, (deniedInfo 60 1).retryAfter = some seconds ∧ ∀ others later,
      (∀ call ∈ others, (emptied 60).getBucketKey call.1 ≠ (emptied 60).getBucketKey (oneToken 60)) →
      later.refilled = (readAt 0).refilled + seconds →
      isAdmitted ((othersLater ((emptied 60).isAllowed (oneToken 60) (readAt 0)).1 others).isAllowed
        (oneToken 60) later).2 = true :=
  (retry_after_suffices_iff (emptied 60) (oneToken 60) (readAt 0) (deniedInfo 60 1) (by decide) (by decide)
    (by decide +kernel) rfl).mpr (.inl (by decide +kernel))

/-- A token takes a second and a third; the caller is told to wait for one second and is denied
again. -/
theorem retry_after_too_short :
    ((emptied 45).isAllowed (oneToken 45) (readAt 0)).2 = .ok (deniedInfo 45 1) ∧
      isAdmitted (((emptied 45).isAllowed (oneToken 45) (readAt 0)).1.isAllowed (oneToken 45) (readAt 1)).2 = false :=
  ⟨by decide +kernel, by decide +kernel⟩

end StockVerification
