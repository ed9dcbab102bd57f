import Mathlib.Data.List.Nodup
import StockVerification.Foundation.Run
import StockVerification.OfflineQueue

/-!
# The queue of failed mutations

Source: frontend/src/services/offline/offlineQueue.ts:15-176, 233-296.

A mutating request that fails is appended to a stored array: the array is read, and later written
back whole. A flush reads the array once, sends its head, and writes back what it holds after each
request. Its own requests pass the same interceptor. The code between two awaits is one step, and
a write takes effect in the step that starts it.
-/
namespace StockVerification

open Foundation

/-- The configuration of a request. `origin` tells which request of the user it is, and a request
that the flush repeats has the origin of the first one. -/
structure MutationRequest where
  origin : Nat
  method : String
  url : String
  data : Option String := none
  params : Option String := none
  headers : Option String := none
  deriving DecidableEq

structure QueuedMutation where
  id : String
  request : MutationRequest
  createdAt : Int
  retries : Nat := 0
  deriving DecidableEq

/-- A request that failed, with the status and the error code of the response if there was one. -/
structure RequestError where
  status : Option Nat := none
  code : Option String := none
  deriving DecidableEq

def isMutatingMethod (method : String) : Bool := ["post", "put", "patch", "delete"].contains (Text.lower method)

def isAuthUrl (url : String) : Bool := includes url "/auth/"

/-- Whether the response interceptor queues the request. -/
def interceptsMutation (request : MutationRequest) (error : RequestError) (online : Bool) : Bool :=
  isMutatingMethod request.method && !isAuthUrl request.url &&
    (error.status == some 403 && error.code == some "NETWORK_NOT_ALLOWED" || !online || error.status.isNone)

/-- The item that `enqueueMutation` appends. -/
def queuedMutation (request : MutationRequest) (id : String) (now : Int) : QueuedMutation where
  id := id
  request :=
    { request with
      method := if request.method = "" then "post" else Text.lower request.method
      url := if request.url = "" then "/" else request.url }
  createdAt := now

structure EnqueueCall where
  item : QueuedMutation
  seen : Option (List QueuedMutation) := none
  deriving DecidableEq

/-- Where `_doFlush` waits. The queue is the slice it holds. -/
inductive FlushPhase where
  | idle
  | loading
  | sending (queue : List QueuedMutation)
  | enqueuing (queue : List QueuedMutation) (error : RequestError) (call : EnqueueCall)
  | conflictReading (queue : List QueuedMutation) (item : QueuedMutation)
  | conflictWriting (queue : List QueuedMutation) (item : QueuedMutation) (seen : List QueuedMutation)
  | conflictStored (queue : List QueuedMutation)
  | saving (queue : List QueuedMutation)
  | stopping
  deriving DecidableEq

/-- The stored arrays, what is in flight, and what has happened: the origins of the requests that
were answered and of those that were queued. -/
structure MutationSystem where
  stored : List QueuedMutation := []
  conflicts : List QueuedMutation := []
  calls : List EnqueueCall := []
  flush : FlushPhase := .idle
  delivered : List Nat := []
  enqueued : List Nat := []
  next : Nat := 0
  deriving DecidableEq

variable (s : MutationSystem)

/-- The head of the loop. Queued auth requests are dropped. -/
def MutationSystem.loop : List QueuedMutation → MutationSystem
  | [] => { s with flush := .idle }
  | item :: rest =>
    if isAuthUrl item.request.url then { s with stored := rest, flush := .saving rest }
    else { s with flush := .sending (item :: rest) }

def MutationSystem.dropHead (queue : List QueuedMutation) : MutationSystem :=
  { s with stored := queue.tail, flush := .saving queue.tail }

def maxRetries : Nat := 5

/-- What a flush does with a request that failed. -/
def MutationSystem.refused (error : RequestError) : List QueuedMutation → MutationSystem
  | [] => s
  | item :: rest =>
    match error.status with
    | none => { s with flush := .idle }
    | some status =>
      if status = 401 then { s with flush := .idle }
      else if status = 409 ∨ status = 422 ∨ status = 400 ∨ status = 403 then
        { s with flush := .conflictReading (item :: rest) item }
      else
        let retried := { item with retries := item.retries + 1 }
        if maxRetries ≤ retried.retries then { s with flush := .conflictReading (item :: rest) retried }
        else { s with stored := retried :: rest, flush := .stopping }

/-- The write of `enqueueMutation`. -/
def MutationSystem.append (seen : List QueuedMutation) (item : QueuedMutation) :
    MutationSystem :=
  { s with stored := seen ++ [item], enqueued := s.enqueued.insert item.request.origin }

inductive MutationMove where
  | fail (request : MutationRequest) (error : RequestError) (online : Bool) (id : String) (now : Int)
  | read (n : Nat)
  | write (n : Nat)
  | startFlush
  | load
  | succeed
  | refuse (error : RequestError) (online : Bool) (id : String) (now : Int)
  | readOwn
  | writeOwn
  | readConflicts
  | writeConflicts
  | resume
  deriving DecidableEq

def MutationSystem.step : MutationMove → MutationSystem
  | .fail request error online id now =>
    if interceptsMutation request error online then
      { s with
        calls := s.calls ++ [{ item := queuedMutation { request with origin := s.next } id now }]
        next := s.next + 1 }
    else s
  | .read n => { s with calls := s.calls.modify n fun call => { call with seen := some s.stored } }
  | .write n =>
    match s.calls[n]? with
    | some { item := item, seen := some seen } => { s.append seen item with calls := s.calls.eraseIdx n }
    | _ => s
  | .startFlush => if s.flush = .idle then { s with flush := .loading } else s
  | .load => if s.flush = .loading then s.loop s.stored else s
  | .succeed =>
    match s.flush with
    | .sending (item :: rest) =>
      { s.dropHead (item :: rest) with delivered := s.delivered ++ [item.request.origin] }
    | _ => s
  | .refuse error online id now =>
    match s.flush with
    | .sending (item :: rest) =>
      -- the interceptor finishes its own enqueue before the flush sees the error
      if interceptsMutation item.request error online then
        { s with flush := .enqueuing (item :: rest) error { item := queuedMutation item.request id now } }
      else s.refused error (item :: rest)
    | _ => s
  | .readOwn =>
    match s.flush with
    | .enqueuing queue error call =>
      { s with flush := .enqueuing queue error { call with seen := some s.stored } }
    | _ => s
  | .writeOwn =>
    match s.flush with
    | .enqueuing queue error { item := item, seen := some seen } => (s.append seen item).refused error queue
    | _ => s
  | .readConflicts =>
    match s.flush with
    | .conflictReading queue item => { s with flush := .conflictWriting queue item s.conflicts }
    | _ => s
  | .writeConflicts =>
    match s.flush with
    | .conflictWriting queue item seen => { s with conflicts := seen ++ [item], flush := .conflictStored queue }
    | _ => s
  | .resume =>
    match s.flush with
    | .conflictStored queue => s.dropHead queue
    | .saving queue => s.loop queue
    | .stopping => { s with flush := .idle }
    | _ => s

def origins (queue : List QueuedMutation) : List Nat := queue.map (·.request.origin)

/-- How often a mutation stands in the queue, among the answered ones and among the conflicts. -/
def MutationSystem.places (origin : Nat) : Nat :=
  (origins s.stored).count origin + s.delivered.count origin + (origins s.conflicts).count origin

/-- The flush has recorded a conflict for the mutation and not yet written the queue. -/
def FlushPhase.Recording (origin : Nat) : FlushPhase → Prop
  | .conflictStored (item :: _) => item.request.origin = origin
  | _ => False

/-- Whether the flush keeps a request that failed with one retry more. -/
def isRetried (error : RequestError) (item : QueuedMutation) : Bool :=
  match error.status with
  | none => false
  | some status => !(List.contains [401, 409, 422, 400, 403] status) && decide (item.retries + 1 < maxRetries)

/-- A write finds the queue as it was read or last written by the same call, and no request of the
flush is queued anew. -/
def MutationSystem.isQuiet : MutationMove → Bool
  | .write n =>
    match s.calls[n]? with
    | some { item := _, seen := some seen } => decide (s.stored = seen)
    | _ => true
  | .succeed =>
    match s.flush with
    | .sending queue => decide (s.stored = queue)
    | _ => true
  | .refuse error online _ _ =>
    match s.flush with
    | .sending (item :: rest) =>
      !interceptsMutation item.request error online && (!isRetried error item || decide (s.stored = item :: rest))
    | _ => true
  | .resume =>
    match s.flush with
    | .conflictStored queue => decide (s.stored = queue)
    | _ => true
  | _ => true

/-- A slice of the flush: a first part of the stored queue, without auth requests. -/
structure Slice (stored queue : List QueuedMutation) : Prop where
  starts : origins queue <+: origins stored
  plain : ∀ item ∈ queue, isAuthUrl item.request.url = false

/-- What the flush relies on where it waits. -/
def FlushPhase.Sound (stored conflicts : List QueuedMutation) : FlushPhase → Prop
  | .sending queue => Slice stored queue
  | .enqueuing _ _ _ => False
  | .conflictReading queue item => Slice stored queue ∧ (origins queue).head? = some item.request.origin
  | .conflictWriting queue item seen =>
    Slice stored queue ∧ (origins queue).head? = some item.request.origin ∧ seen = conflicts
  | .conflictStored queue => Slice stored queue ∧ queue ≠ []
  | .saving queue => Slice stored queue
  | _ => True

def FlushPhase.recorded (origin : Nat) : FlushPhase → Nat
  | .conflictStored queue => ((origins queue).take 1).count origin
  | _ => 0

structure MutationsKept (s : MutationSystem) : Prop where
  counts : ∀ origin, s.places origin = (if origin ∈ s.enqueued then 1 else 0) + s.flush.recorded origin
  plain : ∀ item ∈ s.stored, isAuthUrl item.request.url = false
  flush : s.flush.Sound s.stored s.conflicts
  fresh : ∀ call ∈ s.calls, call.item.request.origin ∉ s.enqueued ∧ isAuthUrl call.item.request.url = false
  apart : (s.calls.map (·.item.request.origin)).Nodup
  callsBelow : ∀ call ∈ s.calls, call.item.request.origin < s.next
  below : ∀ origin ∈ s.enqueued, origin < s.next

theorem MutationsKept.init : MutationsKept {} := by
  constructor
  · intro origin
    rfl
  · nofun
  · trivial
  · nofun
  · exact List.nodup_nil
  · nofun
  · nofun

theorem queuedMutation_plain {request : MutationRequest} {id : String} {now : Int}
    (plain : isAuthUrl request.url = false) : isAuthUrl (queuedMutation request id now).request.url = false := by
  change isAuthUrl (if request.url = "" then "/" else request.url) = false
  by_cases empty : request.url = ""
  · rw [if_pos empty]
    decide +kernel
  · rw [if_neg empty]
    exact plain

variable {error : RequestError}

theorem intercepts_plain {request : MutationRequest} {online : Bool}
    (intercepted : interceptsMutation request error online = true) : isAuthUrl request.url = false := by
  unfold interceptsMutation at intercepted
  simp only [Bool.and_eq_true, Bool.not_eq_true'] at intercepted
  exact intercepted.1.2

theorem Slice.grow {stored queue more : List QueuedMutation} (slice : Slice stored queue) :
    Slice (stored ++ more) queue := by
  refine ⟨?_, slice.plain⟩
  have longer : origins (stored ++ more) = origins stored ++ origins more := List.map_append
  rw [longer]
  exact slice.starts.trans (List.prefix_append ..)

theorem FlushPhase.Sound.grow {stored conflicts more : List QueuedMutation} {flush : FlushPhase}
    (sound : flush.Sound stored conflicts) : flush.Sound (stored ++ more) conflicts := by
  cases flush with
  | sending queue => exact Slice.grow sound
  | conflictReading queue item | conflictWriting queue item seen | conflictStored queue => exact ⟨sound.1.grow, sound.2⟩
  | saving queue => exact Slice.grow sound
  | enqueuing queue error call => exact sound
  | idle => trivial
  | loading => trivial
  | stopping => trivial

variable {item : QueuedMutation} {rest : List QueuedMutation}

theorem Slice.tail (slice : Slice (item :: rest) (item :: rest)) :
    Slice rest rest :=
  ⟨List.prefix_rfl, fun other member => slice.plain other (List.mem_cons_of_mem _ member)⟩

variable {s : MutationSystem}

theorem MutationsKept.withFlush (kept : MutationsKept s) (flush : FlushPhase) (sound : flush.Sound s.stored s.conflicts)
    (same : ∀ origin, flush.recorded origin = s.flush.recorded origin) : MutationsKept { s with flush := flush } := by
  refine { kept with counts := ?_, flush := sound }
  intro origin
  change s.places origin = _
  rw [kept.counts]
  change _ = _ + flush.recorded origin
  rw [same]

theorem MutationsKept.fail (kept : MutationsKept s) (request : MutationRequest) (error : RequestError) (online : Bool)
    (id : String) (now : Int) : MutationsKept (s.step (.fail request error online id now)) := by
  unfold MutationSystem.step
  dsimp only
  split
  · next intercepted =>
    have plain := intercepts_plain intercepted
    refine ⟨kept.counts, kept.plain, kept.flush, ?_, ?_, ?_, ?_⟩
    · intro call member
      rcases List.mem_append.mp member with older | newer
      · exact kept.fresh call older
      · rw [List.mem_singleton.mp newer]
        refine ⟨?_, queuedMutation_plain plain⟩
        intro known
        exact absurd (kept.below _ known) (Nat.lt_irrefl s.next)
    · rw [List.map_append, List.map_singleton, ← List.concat_eq_append]
      apply kept.apart.concat
      intro known
      obtain ⟨call, member, same⟩ := List.mem_map.mp known
      have less := kept.callsBelow call member
      rw [same] at less
      exact absurd less (Nat.lt_irrefl s.next)
    · intro call member
      rcases List.mem_append.mp member with older | newer
      · exact Nat.lt_succ_of_lt (kept.callsBelow call older)
      · rw [List.mem_singleton.mp newer]
        exact Nat.lt_succ_self s.next
    · intro origin known
      exact Nat.lt_succ_of_lt (kept.below origin known)
  · exact kept

theorem map_item_read (calls : List EnqueueCall) (stored : List QueuedMutation) (n : Nat) :
    (calls.modify n fun call => { call with seen := some stored }).map (·.item) = calls.map (·.item) := by
  induction calls generalizing n with
  | nil => rw [List.modify_nil]
  | cons call rest ih =>
    cases n with
    | zero => rfl
    | succ n => rw [List.modify_succ_cons, List.map_cons, List.map_cons, ih]

section

variable (kept : MutationsKept s)
include kept

/-- The calls matter through their items only. -/
theorem MutationsKept.withCalls {calls : List EnqueueCall}
    (same : calls.map (·.item) = s.calls.map (·.item)) : MutationsKept { s with calls := calls } := by
  have each : ∀ call ∈ calls, ∃ old ∈ s.calls, old.item = call.item := by
    intro call member
    have stands : call.item ∈ s.calls.map (·.item) := by
      rw [← same]
      exact List.mem_map_of_mem member
    exact List.mem_map.mp stands
  refine { kept with fresh := ?_, apart := ?_, callsBelow := ?_ }
  · intro call member
    obtain ⟨old, stood, item⟩ := each call member
    rw [← item]
    exact kept.fresh old stood
  · have sameOrigins : calls.map (·.item.request.origin) = s.calls.map (·.item.request.origin) := by
      have mapped := congrArg (List.map (·.request.origin)) same
      rw [List.map_map, List.map_map] at mapped
      exact mapped
    rw [sameOrigins]
    exact kept.apart
  · intro call member
    obtain ⟨old, stood, item⟩ := each call member
    rw [← item]
    exact kept.callsBelow old stood

/-- A write of a call that has read the queue as it stands. -/
theorem MutationsKept.write {n : Nat} (quiet : s.isQuiet (.write n) = true) :
    MutationsKept (s.step (.write n)) := by
  unfold MutationSystem.step
  dsimp only
  split
  · next item seen found =>
    have current : s.stored = seen := by
      rw [MutationSystem.isQuiet, found] at quiet
      exact of_decide_eq_true quiet
    have member := List.mem_of_getElem? found
    obtain ⟨new, plain⟩ := kept.fresh _ member
    have remaining : ∀ call ∈ s.calls.eraseIdx n, call ∈ s.calls ∧ call.item.request.origin ≠ item.request.origin := by
      intro call stays
      refine ⟨List.mem_of_mem_eraseIdx stays, ?_⟩
      intro same
      obtain ⟨m, other, position⟩ := List.mem_eraseIdx_iff_getElem?.mp stays
      have first : (s.calls.map (·.item.request.origin))[n]? = some item.request.origin := by
        rw [List.getElem?_map, found]
        rfl
      have second : (s.calls.map (·.item.request.origin))[m]? = some item.request.origin := by
        rw [List.getElem?_map, position, ← same]
        rfl
      have inside := (List.getElem?_eq_some_iff.mp second).1
      exact other ((List.getElem?_inj inside kept.apart).mp (second.trans first.symm))
    rw [← current]
    refine ⟨?_, ?_, kept.flush.grow, ?_, ?_, ?_, ?_⟩
    · intro origin
      have before := kept.counts origin
      change (origins (s.stored ++ [item])).count origin + s.delivered.count origin +
        (origins s.conflicts).count origin =
          (if origin ∈ s.enqueued.insert item.request.origin then 1 else 0) + s.flush.recorded origin
      rw [origins, List.map_append, List.count_append]
      change (origins s.stored).count origin + s.delivered.count origin + (origins s.conflicts).count origin = _ at before
      change (origins s.stored).count origin + [item.request.origin].count origin + _ + _ = _
      by_cases mine : origin = item.request.origin
      · subst mine
        rw [if_neg new] at before
        rw [if_pos (List.mem_insert_self)]
        have one : [item.request.origin].count item.request.origin = 1 := by simp
        omega
      · have none : [item.request.origin].count origin = 0 := by
          rw [List.count_eq_zero, List.mem_singleton]
          exact mine
        have same : (origin ∈ s.enqueued.insert item.request.origin) ↔ origin ∈ s.enqueued := by
          rw [List.mem_insert_iff]
          exact or_iff_right mine
        simp only [same]
        omega
    · intro other stands
      rcases List.mem_append.mp stands with older | newer
      · exact kept.plain other older
      · rw [List.mem_singleton.mp newer]
        exact plain
    · intro call stays
      obtain ⟨before, differs⟩ := remaining call stays
      obtain ⟨unknown, callPlain⟩ := kept.fresh call before
      refine ⟨?_, callPlain⟩
      intro known
      rcases List.mem_insert_iff.mp known with same | known
      · exact differs same
      · exact unknown known
    · exact kept.apart.sublist (List.Sublist.map _ (List.eraseIdx_sublist ..))
    · intro call stays
      exact kept.callsBelow call (remaining call stays).1
    · intro origin known
      rcases List.mem_insert_iff.mp known with same | known
      · rw [same]
        exact kept.callsBelow _ member
      · exact kept.below origin known
  · exact kept

/-- The head of the loop finds no auth request. -/
theorem MutationsKept.loop {queue : List QueuedMutation} (slice : Slice s.stored queue)
    (unrecorded : ∀ origin, s.flush.recorded origin = 0) : MutationsKept (s.loop queue) := by
  cases queue with
  | nil =>
    apply kept.withFlush .idle
    · trivial
    · intro origin
      exact (unrecorded origin).symm
  | cons item rest =>
    unfold MutationSystem.loop
    dsimp only
    rw [slice.plain item (List.mem_cons_self ..), if_neg Bool.false_ne_true]
    apply kept.withFlush (.sending (item :: rest))
    · exact slice
    · intro origin
      exact (unrecorded origin).symm

/-- The head leaves the queue and stands among the answered ones or, until now, also among the
conflicts. -/
theorem MutationsKept.dropHead
    (delivered : List Nat) (slice : Slice s.stored (item :: rest)) (current : s.stored = item :: rest)
    (moved : ∀ origin, delivered.count origin + s.flush.recorded origin = s.delivered.count origin +
      [item.request.origin].count origin) :
    MutationsKept { s.dropHead (item :: rest) with delivered := delivered } := by
  rw [current] at slice
  refine { kept with counts := ?_, plain := ?_, flush := slice.tail }
  · intro origin
    have before := kept.counts origin
    have shift := moved origin
    change (origins s.stored).count origin + s.delivered.count origin + (origins s.conflicts).count origin = _ at before
    rw [current] at before
    have head : (origins (item :: rest)).count origin = [item.request.origin].count origin + (origins rest).count
      origin := by
      rw [← List.count_append]
      rfl
    change (origins rest).count origin + delivered.count origin + (origins s.conflicts).count origin =
      (if origin ∈ s.enqueued then 1 else 0) + 0
    omega
  · intro other stands
    apply kept.plain
    rw [current]
    exact List.mem_cons_of_mem _ stands

theorem MutationsKept.succeed (quiet : s.isQuiet .succeed = true) :
    MutationsKept (s.step .succeed) := by
  unfold MutationSystem.step
  dsimp only
  split
  · next item rest phase =>
    have slice := kept.flush
    rw [phase] at slice
    rw [MutationSystem.isQuiet, phase] at quiet
    apply kept.dropHead (s.delivered ++ [item.request.origin]) slice (of_decide_eq_true quiet)
    intro origin
    rw [phase, List.count_append]
    rfl
  · exact kept

/-- A request of the flush that is not queued anew. -/
theorem MutationsKept.refused
    (phase : s.flush = .sending (item :: rest))
    (current : isRetried error item = true → s.stored = item :: rest) :
    MutationsKept (s.refused error (item :: rest)) := by
  have slice := kept.flush
  rw [phase] at slice
  have unrecorded : ∀ origin, 0 = s.flush.recorded origin := by
    intro origin
    rw [phase]
    rfl
  unfold MutationSystem.refused
  cases answered : error.status with
  | none => exact kept.withFlush .idle trivial unrecorded
  | some status =>
    dsimp only
    split
    · exact kept.withFlush .idle trivial unrecorded
    · next notAuth =>
      split
      · exact kept.withFlush (.conflictReading (item :: rest) item) ⟨slice, rfl⟩ unrecorded
      · next notConflict =>
        split
        · exact kept.withFlush (.conflictReading (item :: rest) { item with retries := item.retries + 1 })
            ⟨slice, rfl⟩ unrecorded
        · next few =>
          have retried : isRetried error item = true := by
            unfold isRetried
            rw [answered]
            simp only [not_or] at notConflict
            simp [notAuth, notConflict]
            omega
          have stored := current retried
          refine { kept with counts := ?_, plain := ?_, flush := trivial }
          · intro origin
            have before := kept.counts origin
            rw [← unrecorded origin] at before
            change (origins s.stored).count origin + s.delivered.count origin + (origins s.conflicts).count
              origin = _ at before
            rw [stored] at before
            exact before
          · intro other stands
            rcases List.mem_cons.mp stands with rfl | later
            · exact slice.plain item (List.mem_cons_self ..)
            · exact slice.plain other (List.mem_cons_of_mem _ later)

theorem MutationsKept.refuse {online : Bool} {id : String} {now : Int}
    (quiet : s.isQuiet (.refuse error online id now) = true) :
    MutationsKept (s.step (.refuse error online id now)) := by
  unfold MutationSystem.step
  dsimp only
  split
  · next item rest phase =>
    rw [MutationSystem.isQuiet, phase] at quiet
    simp only [Bool.and_eq_true, Bool.not_eq_true', Bool.or_eq_true, decide_eq_true_eq] at quiet
    obtain ⟨passed, current⟩ := quiet
    rw [passed, if_neg Bool.false_ne_true]
    apply kept.refused phase
    intro retried
    rcases current with notRetried | current
    · rw [retried] at notRetried
      cases notRetried
    · exact current
  · exact kept

theorem MutationsKept.writeConflicts : MutationsKept (s.step .writeConflicts) := by
  unfold MutationSystem.step
  dsimp only
  split
  · next queue item seen phase =>
    have sound := kept.flush
    rw [phase] at sound
    obtain ⟨slice, head, rfl⟩ := sound
    cases queue with
    | nil => cases head
    | cons first rest =>
      have same : first.request.origin = item.request.origin := Option.some.inj head
      refine { kept with counts := ?_, flush := ⟨slice, List.cons_ne_nil _ _⟩ }
      intro origin
      have before := kept.counts origin
      rw [phase] at before
      change (origins s.stored).count origin + s.delivered.count origin + (origins s.conflicts).count origin =
        (if origin ∈ s.enqueued then 1 else 0) + 0 at before
      have longer : (origins (s.conflicts ++ [item])).count origin =
          (origins s.conflicts).count origin + [item.request.origin].count origin := by
        rw [← List.count_append, origins, List.map_append]
        rfl
      change (origins s.stored).count origin + s.delivered.count origin + (origins (s.conflicts ++ [item])).count origin =
        (if origin ∈ s.enqueued then 1 else 0) + [first.request.origin].count origin
      rw [same]
      omega
  · exact kept

theorem MutationsKept.resume (quiet : s.isQuiet .resume = true) :
    MutationsKept (s.step .resume) := by
  unfold MutationSystem.step
  dsimp only
  have sound := kept.flush
  split
  · next queue phase =>
    rw [phase] at sound
    obtain ⟨slice, filled⟩ := sound
    cases queue with
    | nil => exact absurd rfl filled
    | cons item rest =>
      rw [MutationSystem.isQuiet, phase] at quiet
      apply kept.dropHead s.delivered slice (of_decide_eq_true quiet)
      intro origin
      rw [phase]
      rfl
  · next queue phase =>
    rw [phase] at sound
    apply kept.loop sound
    intro origin
    rw [phase]
    rfl
  · next phase =>
    apply kept.withFlush .idle
    · trivial
    · intro origin
      rw [phase]
      rfl
  · exact kept

theorem MutationsKept.step {move : MutationMove} (quiet : s.isQuiet move = true) :
    MutationsKept (s.step move) := by
  cases move with
  | fail request error online id now => exact kept.fail request error online id now
  | read n => exact kept.withCalls (map_item_read s.calls s.stored n)
  | write n => exact kept.write quiet
  | startFlush =>
    unfold MutationSystem.step
    dsimp only
    split
    · next phase =>
      apply kept.withFlush .loading
      · trivial
      · intro origin
        rw [phase]
        rfl
    · exact kept
  | load =>
    unfold MutationSystem.step
    dsimp only
    split
    · next phase =>
      apply kept.loop ⟨List.prefix_rfl, kept.plain⟩
      intro origin
      rw [phase]
      rfl
    · exact kept
  | succeed => exact kept.succeed quiet
  | refuse error online id now => exact kept.refuse quiet
  | readOwn | writeOwn =>
    unfold MutationSystem.step
    dsimp only
    split
    · next phase =>
      have never := kept.flush
      rw [phase] at never
      exact never.elim
    · exact kept
  | readConflicts =>
    unfold MutationSystem.step
    dsimp only
    split
    · next queue item phase =>
      have sound := kept.flush
      rw [phase] at sound
      apply kept.withFlush (.conflictWriting queue item s.conflicts)
      · exact ⟨sound.1, sound.2, rfl⟩
      · intro origin
        rw [phase]
        rfl
    · exact kept
  | writeConflicts => exact kept.writeConflicts
  | resume => exact kept.resume quiet

end

theorem recorded_eq_zero {flush : FlushPhase} {origin : Nat} : flush.recorded origin = 0 ↔ ¬ flush.Recording origin := by
  unfold FlushPhase.recorded FlushPhase.Recording
  cases flush with
  | conflictStored queue =>
    cases queue with
    | nil => simp [origins]
    | cons item rest =>
      change [item.request.origin].count origin = 0 ↔ ¬ item.request.origin = origin
      rw [List.count_eq_zero, List.mem_singleton, eq_comm]
  | _ => simp

/-- In a run whose writes do not overlap and whose flushes queue none of their own requests, every
mutation that was queued stands in one place, except while the flush has recorded its conflict and
not yet written the queue. -/
theorem mutation_conserved {last : MutationSystem}
    (run : Reaches MutationSystem.step (fun s move => s.isQuiet move = true) {} last) :
    ∀ origin ∈ last.enqueued, last.places origin = 1 ↔ ¬ last.flush.Recording origin := by
  have kept := run.invariant MutationsKept.init fun _ _ before quiet => before.step quiet
  intro origin known
  rw [← recorded_eq_zero, kept.counts origin, if_pos known]
  omega

def sampleMutation : MutationRequest := { origin := 0, method := "POST", url := "/api/count-lines" }

def queuesSample : List MutationMove := [.fail sampleMutation {} false "a" 0, .read 0, .write 0]

/-- A second request is queued between the read of the flush and its write. -/
def queuedInFlush : List MutationMove :=
  queuesSample ++ [.startFlush, .load] ++ queuesSample ++ [.succeed]

def flushFails : List MutationMove :=
  queuesSample ++ [.startFlush, .load, .refuse {} false "b" 1, .readOwn, .writeOwn]

/-- One mutation is lost, and another stands in the queue twice. -/
theorem mutation_lost_or_doubled :
    (¬ ∀ last, Reaches MutationSystem.step (fun _ _ => True) {} last →
        ∀ origin ∈ last.enqueued, last.places origin = 1) ∧
      1 ∈ (queuedInFlush.foldl MutationSystem.step {}).enqueued ∧
      (queuedInFlush.foldl MutationSystem.step {}).places 1 = 0 ∧
      (flushFails.foldl MutationSystem.step {}).places 0 = 2 := by
  have lost : (queuedInFlush.foldl MutationSystem.step {}).places 1 = 0 := by decide +kernel
  have known : 1 ∈ (queuedInFlush.foldl MutationSystem.step {}).enqueued := by decide +kernel
  refine ⟨?_, known, lost, by decide +kernel⟩
  intro all
  have once := all _ (Reaches.foldl fun _ _ _ => trivial) 1 known
  rw [lost] at once
  cases once

/-- A mutation is queued, answered with a conflict and recorded, and a second one is delivered. -/
def quietFlush : List MutationMove :=
  queuesSample ++ queuesSample ++
    [.startFlush, .load, .refuse { status := some 409 } true "b" 1, .readConflicts, .writeConflicts,
      .resume, .resume, .succeed, .resume]

theorem mutation_conserved_in_turn :
    (quietFlush.foldl MutationSystem.step {}).places 0 = 1 ∧ (quietFlush.foldl MutationSystem.step {}).places 1 = 1 := by
  have run : Reaches MutationSystem.step (fun s move => s.isQuiet move = true) {}
      (quietFlush.foldl MutationSystem.step {}) := Reaches.of_admitted (by decide +kernel)
  have idle : (quietFlush.foldl MutationSystem.step {}).flush = .idle := by decide +kernel
  constructor
  · apply (mutation_conserved run 0 (by decide +kernel)).mpr
    rw [idle]
    exact id
  · apply (mutation_conserved run 1 (by decide +kernel)).mpr
    rw [idle]
    exact id

end StockVerification
