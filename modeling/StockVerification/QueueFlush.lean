import Mathlib.Data.List.Infix
import StockVerification.MutationQueue

/-!
# One flush of the mutation queue

Source: frontend/src/services/offline/offlineQueue.ts:34-51, 95-176.

A flush with nothing enqueued meanwhile, so that what it read is what is stored until it writes. The
answers of the server are a sequence; the request number `n` of the flush gets the answer number
`n`.
-/
namespace StockVerification

open Foundation

structure ErrorResponse where
  status : Nat
  data : Option String := none
  deriving DecidableEq

/-- A failure comes with the moment at which it is handled. -/
inductive RequestOutcome where
  | success
  | failure (response : Option ErrorResponse) (now : Int)
  deriving DecidableEq

/-- `detail` of a conflict. -/
inductive ConflictDetail where
  | responseData (data : Option String)
  | maxRetriesExceeded (lastStatus : Nat) (lastResponse : Option String)
  deriving DecidableEq

structure ConflictRecord where
  item : QueuedMutation
  detail : ConflictDetail
  resolved : Bool := false
  timestamp : Int
  deriving DecidableEq

structure FlushStorage where
  queue : List QueuedMutation := []
  conflicts : List ConflictRecord := []
  deriving DecidableEq

def FlushStorage.saveQueue (storage : FlushStorage) (queue : List QueuedMutation) : FlushStorage :=
  { storage with queue := queue }

def FlushStorage.addConflict (storage : FlushStorage) (record : ConflictRecord) : FlushStorage :=
  { storage with conflicts := storage.conflicts ++ [record] }

/-- Storage, the result of `_doFlush` and the requests it has sent. -/
structure FlushRun where
  storage : FlushStorage
  processed : Nat := 0
  remaining : Nat := 0
  sent : List MutationRequest := []
  deriving DecidableEq

variable (item : QueuedMutation)

/-- `item.retries = (item.retries || 0) + 1`. -/
def QueuedMutation.retried : QueuedMutation := { item with retries := item.retries + 1 }

def isFinalStatus (status : Nat) : Bool := status == 409 || status == 422 || status == 400 || status == 403

/-- The loop of `_doFlush`, on the queue it holds. -/
def doFlushLoop (outcomes : Nat → RequestOutcome) : List QueuedMutation → FlushRun → FlushRun
  | [], run => { run with remaining := 0 }
  | item :: rest, run =>
    if isAuthUrl item.request.url then
      doFlushLoop outcomes rest { run with storage := run.storage.saveQueue rest }
    else
      let answer := outcomes run.sent.length
      let run := { run with sent := run.sent ++ [item.request] }
      match answer with
      | .success =>
        doFlushLoop outcomes rest { run with processed := run.processed + 1, storage := run.storage.saveQueue rest }
      | .failure none _ => { run with remaining := (item :: rest).length }
      | .failure (some response) now =>
        if response.status = 401 then { run with remaining := (item :: rest).length }
        else if isFinalStatus response.status then
          let storage := run.storage.addConflict
            { item := item, detail := .responseData response.data, timestamp := now }
          doFlushLoop outcomes rest { run with processed := run.processed + 1, storage := storage.saveQueue rest }
        else if maxRetries ≤ item.retried.retries then
          let storage := run.storage.addConflict
            { item := item.retried, detail := .maxRetriesExceeded response.status response.data, timestamp := now }
          doFlushLoop outcomes rest { run with processed := run.processed + 1, storage := storage.saveQueue rest }
        else
          { run with
            remaining := (item.retried :: rest).length
            storage := run.storage.saveQueue (item.retried :: rest) }

variable (outcomes : Nat → RequestOutcome)

def doFlush (storage : FlushStorage) : FlushRun :=
  doFlushLoop outcomes storage.queue { storage := storage }

def isSent : Bool := !isAuthUrl item.request.url

/-- The conflict that an item and its answer amount to: the item is refused, or its retries are used
up. -/
def conflictOf : RequestOutcome → Option ConflictRecord
  | .failure (some response) now =>
    if isFinalStatus response.status then
      some { item := item, detail := .responseData response.data, timestamp := now }
    else if response.status ≠ 401 ∧ maxRetries ≤ item.retries + 1 then
      some { item := item.retried, detail := .maxRetriesExceeded response.status response.data, timestamp := now }
    else none
  | _ => none

/-- The answers at which a flush stops: none at all, an expired login, and a failure that may be
retried. -/
def stopsAt : RequestOutcome → Bool
  | .success => false
  | .failure none _ => true
  | .failure (some response) _ =>
    response.status == 401 || !isFinalStatus response.status && decide (item.retries + 1 < maxRetries)

/-- The conflicts of a list of items whose requests are numbered from `n` on. -/
def recordedConflicts (items : List QueuedMutation) (n : Nat) : List ConflictRecord :=
  (items.zipIdx n).filterMap fun sent => conflictOf sent.1 (outcomes sent.2)

def HeadRetried (kept left : List QueuedMutation) : Prop :=
  left = kept ∨ ∃ item rest, kept = item :: rest ∧ left = item.retried :: rest

/-- The account of a loop over `queue`: what it removed and what it kept. -/
structure FlushAccount (outcomes : Nat → RequestOutcome) (queue : List QueuedMutation)
    (start final : FlushRun) (removed kept : List QueuedMutation) : Prop where
  split : queue = removed ++ kept
  left : HeadRetried kept final.storage.queue
  sent : final.sent = start.sent ++ ((removed.filter isSent) ++ kept.take 1).map QueuedMutation.request
  answered : ∀ sent ∈ (removed.filter isSent).zipIdx start.sent.length, stopsAt sent.1 (outcomes sent.2) = false
  stopped : ∀ item ∈ kept.head?, isSent item = true ∧
    stopsAt item (outcomes (start.sent.length + (removed.filter isSent).length)) = true
  conflicts : final.storage.conflicts =
    start.storage.conflicts ++ recordedConflicts outcomes (removed.filter isSent) start.sent.length
  processed : final.processed = start.processed + (removed.filter isSent).length
  remaining : final.remaining = kept.length

theorem recordedConflicts_cons (items : List QueuedMutation)
    (n : Nat) :
    recordedConflicts outcomes (item :: items) n =
      (conflictOf item (outcomes n)).toList ++ recordedConflicts outcomes items (n + 1) := by
  rw [recordedConflicts, List.zipIdx_cons, List.filterMap_cons]
  cases conflictOf item (outcomes n) with
  | none => rfl
  | some record => rfl

/-- The run after a request of the head that does not stop the flush. -/
def FlushRun.past (run : FlushRun) (item : QueuedMutation) (rest : List QueuedMutation)
    (outcome : RequestOutcome) : FlushRun where
  storage := { queue := rest, conflicts := run.storage.conflicts ++ (conflictOf item outcome).toList }
  processed := run.processed + 1
  remaining := run.remaining
  sent := run.sent ++ [item.request]

section

variable {outcomes : Nat → RequestOutcome} {item : QueuedMutation} {rest : List QueuedMutation} {run : FlushRun}

theorem doFlushLoop_past (sent : isSent item = true) (goesOn : stopsAt item (outcomes run.sent.length) = false) :
    doFlushLoop outcomes (item :: rest) run =
      doFlushLoop outcomes rest (run.past item rest (outcomes run.sent.length)) := by
  have noAuth : isAuthUrl item.request.url = false := by simpa [isSent] using sent
  rw [doFlushLoop, noAuth]
  unfold FlushRun.past
  cases answer : outcomes run.sent.length with
  | success => simp [conflictOf, FlushStorage.saveQueue]
  | failure response now =>
    cases response with
    | none =>
      rw [answer] at goesOn
      cases goesOn
    | some response =>
      rw [answer] at goesOn
      simp only [stopsAt, Bool.or_eq_false_iff, beq_eq_false_iff_ne, Bool.and_eq_false_imp] at goesOn
      obtain ⟨login, used⟩ := goesOn
      by_cases final : isFinalStatus response.status = true
      · simp [conflictOf, login, final, FlushStorage.saveQueue, FlushStorage.addConflict]
      · have exhausted : maxRetries ≤ item.retries + 1 := by simpa [final] using used
        simp [conflictOf, login, final, exhausted, QueuedMutation.retried, FlushStorage.saveQueue,
          FlushStorage.addConflict]

theorem doFlushLoop_stops (stored : run.storage.queue = item :: rest) (sent : isSent item = true)
    (stops : stopsAt item (outcomes run.sent.length) = true) :
    ∃ left, HeadRetried (item :: rest) left ∧ doFlushLoop outcomes (item :: rest) run =
        { run with
          storage := run.storage.saveQueue left
          sent := run.sent ++ [item.request]
          remaining := rest.length + 1 } := by
  have noAuth : isAuthUrl item.request.url = false := by simpa [isSent] using sent
  have unchanged : run.storage.saveQueue (item :: rest) = run.storage := by rw [← stored]; rfl
  rw [doFlushLoop, noAuth]
  cases answer : outcomes run.sent.length with
  | success =>
    rw [answer] at stops
    cases stops
  | failure response now =>
    cases response with
    | none => exact ⟨item :: rest, .inl rfl, by simp [unchanged]⟩
    | some response =>
      rw [answer] at stops
      simp only [stopsAt, Bool.or_eq_true, beq_iff_eq, Bool.and_eq_true, decide_eq_true_eq] at stops
      by_cases login : response.status = 401
      · exact ⟨item :: rest, .inl rfl, by simp [login, unchanged]⟩
      · obtain ⟨final, again⟩ := stops.resolve_left login
        have left : ¬ maxRetries ≤ item.retried.retries := by
          simp only [QueuedMutation.retried]
          omega
        refine ⟨item.retried :: rest, .inr ⟨item, rest, rfl, rfl⟩, ?_⟩
        have final : isFinalStatus response.status = false := by simpa using final
        simp [login, final, left]

end

/-- Every loop has an account, by induction on the queue it holds. -/
theorem doFlushLoop_account (queue : List QueuedMutation) (start : FlushRun)
    (stored : start.storage.queue = queue) :
    ∃ removed kept, FlushAccount outcomes queue start (doFlushLoop outcomes queue start) removed kept := by
  induction queue generalizing start with
  | nil =>
    refine ⟨[], [], ?_⟩
    constructor <;> simp [doFlushLoop, HeadRetried, recordedConflicts, stored]
  | cons item rest ih =>
    cases sent : isSent item with
    | false =>
      have auth : isAuthUrl item.request.url = true := by simpa [isSent] using sent
      rw [doFlushLoop, if_pos auth]
      obtain ⟨removed, kept, account⟩ := ih { start with storage := start.storage.saveQueue rest } rfl
      refine ⟨item :: removed, kept, ?_⟩
      have dropped : (item :: removed).filter isSent = removed.filter isSent := by simp [sent]
      constructor
      · rw [account.split, List.cons_append]
      · exact account.left
      · rw [dropped]
        exact account.sent
      · rw [dropped]
        exact account.answered
      · rw [dropped]
        exact account.stopped
      · rw [dropped]
        exact account.conflicts
      · rw [dropped]
        exact account.processed
      · exact account.remaining
    | true =>
      cases stops : stopsAt item (outcomes start.sent.length) with
      | true =>
        obtain ⟨left, retried, ended⟩ := doFlushLoop_stops stored sent stops
        rw [ended]
        refine ⟨[], item :: rest, ?_⟩
        constructor <;> simp [retried, recordedConflicts, FlushStorage.saveQueue, sent, stops]
      | false =>
        rw [doFlushLoop_past sent stops]
        obtain ⟨removed, kept, account⟩ := ih (start.past item rest (outcomes start.sent.length)) rfl
        refine ⟨item :: removed, kept, ?_⟩
        have counted : (item :: removed).filter isSent = item :: removed.filter isSent := by simp [sent]
        have longer : (start.past item rest (outcomes start.sent.length)).sent.length = start.sent.length + 1 := by
          simp [FlushRun.past]
        constructor
        · rw [account.split, List.cons_append]
        · exact account.left
        · rw [account.sent, counted]
          simp [FlushRun.past]
        · rw [counted, List.zipIdx_cons]
          intro request member
          rcases List.mem_cons.mp member with rfl | member
          · exact stops
          · rw [← longer] at member
            exact account.answered request member
        · intro last member
          have stopped := account.stopped last member
          rw [longer] at stopped
          rw [counted, List.length_cons, Nat.add_comm _ 1, ← Nat.add_assoc]
          exact stopped
        · rw [account.conflicts, longer, counted, recordedConflicts_cons, ← List.append_assoc]
          rfl
        · rw [account.processed, counted, List.length_cons]
          simp only [FlushRun.past]
          omega
        · exact account.remaining

/-- A flush sends the requests of a prefix of the queue's items in order, each once; it leaves a
suffix of the queue whose head has at most one more retry; and the conflicts grow by those of the
removed items, in order. -/
theorem do_flush_accounts (storage : FlushStorage) :
    ∃ removed kept, storage.queue = removed ++ kept ∧
      (doFlush outcomes storage).sent <+: (storage.queue.filter isSent).map QueuedMutation.request ∧
      HeadRetried kept (doFlush outcomes storage).storage.queue ∧
      (doFlush outcomes storage).storage.conflicts =
        storage.conflicts ++ recordedConflicts outcomes (removed.filter isSent) 0 ∧
      FlushAccount outcomes storage.queue { storage := storage } (doFlush outcomes storage) removed kept := by
  obtain ⟨removed, kept, account⟩ := doFlushLoop_account outcomes storage.queue { storage := storage } rfl
  refine ⟨removed, kept, account.split, ?_, account.left, account.conflicts, account⟩
  have sent : (doFlush outcomes storage).sent =
      ((removed.filter isSent) ++ kept.take 1).map QueuedMutation.request := account.sent
  rw [sent, account.split, List.filter_append]
  apply List.IsPrefix.map
  apply List.prefix_append_right_inj _ |>.mpr
  cases kept with
  | nil => exact List.nil_prefix
  | cons item rest =>
    have first := (account.stopped item rfl).1
    rw [List.filter_cons_of_pos first, List.take_succ_cons, List.take_zero]
    exact List.prefix_append [item] _

/-- The second item meets an expired login and stays. -/
example :
    let item : Nat → QueuedMutation := fun n => ⟨"q", { origin := n, method := "post", url := "/api/lines" }, 0, 0⟩
    let run := doFlush (fun n => if n = 0 then .failure (some ⟨409, none⟩) 7 else .failure (some ⟨401, none⟩) 8)
      { queue := [item 0, item 1] }
    run.sent.map MutationRequest.origin = [0, 1] ∧ run.storage.queue = [item 1] ∧
      run.storage.conflicts = [{ item := item 0, detail := .responseData none, timestamp := 7 }] := by
  decide +kernel

end StockVerification
