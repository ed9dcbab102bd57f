import Mathlib.Data.List.Pairwise
import StockVerification.CountLineRoutes
import StockVerification.Foundation.Run

/-!
# Offline commands

`sync_commands` takes a batch of commands of one device. It reads the last sequence of
the device once, before the loop, and refuses every command at or below it. Commands
the same batch stores do not move that bound, and a command whose write failed is
bound by everything stored after it when it is sent again.
-/
namespace StockVerification

open Foundation

inductive CommandState where
  | pending
  | inFlight
  | acknowledged
  | conflict
  | rejected
  | blockedAuth
  | blockedPolicy
  | manualReview
  deriving DecidableEq, Repr

structure Command where
  commandId : String
  clientSequence : Int
  payload : List (String × Value) := []
  payloadHash : String
  state : CommandState := .pending
  deriving DecidableEq

structure JournalEntry where
  commandId : String
  deviceId : String
  clientSequence : Int
  payload : List (String × Value)
  payloadHash : String
  state : CommandState
  deriving DecidableEq

structure Ack where
  commandId : String
  state : CommandState
  lastError : Option String
  deriving DecidableEq, Repr

def ackDoc (commandId : String) (state : CommandState) (lastError : Option String := none) : Ack :=
  { commandId := commandId, state := state, lastError := lastError }

inductive RejectReason where
  | securityConflict
  | sequenceTooLow
  | blockedPolicy
  | internalError
  deriving DecidableEq, Repr

structure Reject where
  commandId : String
  reason : RejectReason
  lastError : String
  deriving DecidableEq, Repr

def rejectDoc (commandId : String) (reason : RejectReason) (lastError : String) : Reject :=
  { commandId := commandId, reason := reason, lastError := lastError }

structure CommandSyncResponse where
  accepted : List Ack := []
  rejected : List Reject := []
  acks : String → Option Ack := fun _ => none

/-- A call to the database that fails, with its text; nothing is stored. -/
inductive Fault where
  | lookup (message : String)
  | insert (message : String)
  deriving DecidableEq, Repr

structure Incoming where
  command : Command
  fault : Option Fault := none

def hasApprovalFields (payload : List (String × Value)) : Bool :=
  ["approved_by", "approved_at", "locked", "locked_by"].any fun key =>
    payload.any fun entry => entry.1 == key

def lastProcessedSeq (journal : List JournalEntry) (deviceId : String) : Int :=
  ((journal.filter (·.deviceId == deviceId)).map (·.clientSequence)).max?.getD (-1)

/-- How the loop leaves a command. -/
inductive Outcome where
  | known (state : CommandState)
  | conflict
  | sequenceTooLow
  | blockedPolicy
  | failed (message : String)
  | stored
  deriving DecidableEq, Repr

def permitted (user : User) (command : Command) : Bool :=
  !(user.role == "staff" && hasApprovalFields command.payload)

def findCommand (journal : List JournalEntry) (commandId : String) : Option JournalEntry :=
  journal.find? (·.commandId == commandId)

/-- The checks on a command, in the order of the loop. -/
def commandOutcome (user : User) (lastProcessed : Int) (journal : List JournalEntry)
    (c : Incoming) : Outcome :=
  match c.fault with
  | some (.lookup message) => .failed message
  | fault =>
    match findCommand journal c.command.commandId with
    | some existing =>
      if existing.payloadHash == c.command.payloadHash then .known existing.state else .conflict
    | none =>
      if c.command.clientSequence ≤ lastProcessed then .sequenceTooLow
      else if permitted user c.command = false then .blockedPolicy
      else match fault with
        | some (.insert message) => .failed message
        | _ => .stored

structure SyncState where
  journal : List JournalEntry
  response : CommandSyncResponse := {}

/-- `acks[command_id] = ack`. -/
def CommandSyncResponse.acknowledge (r : CommandSyncResponse) (ack : Ack) : CommandSyncResponse :=
  { r with acks := Function.update r.acks ack.commandId (some ack) }

def CommandSyncResponse.accept (r : CommandSyncResponse) (ack : Ack) : CommandSyncResponse :=
  { r.acknowledge ack with accepted := r.accepted ++ [ack] }

def CommandSyncResponse.reject (r : CommandSyncResponse) (reject : Reject) : CommandSyncResponse :=
  { r with rejected := r.rejected ++ [reject] }

section sync

variable (sha256 : List (String × Value) → String)

/-- The hash that is stored: the client's, or one of the payload where it sent none. -/
def finalHash (command : Command) : String :=
  if command.payloadHash = "" then sha256 command.payload else command.payloadHash

def journalEntry (deviceId : String) (command : Command) : JournalEntry where
  commandId := command.commandId
  deviceId := deviceId
  clientSequence := command.clientSequence
  payload := command.payload
  payloadHash := finalHash sha256 command
  state := command.state

/-- One round of the loop. -/
def syncCommand (user : User) (deviceId : String) (lastProcessed : Int) (st : SyncState)
    (c : Incoming) : SyncState :=
  let id := c.command.commandId
  match commandOutcome user lastProcessed st.journal c with
  | .known state => { st with response := st.response.accept (ackDoc id state) }
  | .conflict => { st with
      response := (st.response.acknowledge (ackDoc id .conflict (some "payload_hash_mismatch"))).reject
        (rejectDoc id .securityConflict "payload_hash_mismatch") }
  | .sequenceTooLow => { st with
      response := st.response.reject (rejectDoc id .sequenceTooLow
        ("client_sequence " ++ toString c.command.clientSequence ++ " <= last_processed " ++
          toString lastProcessed)) }
  | .blockedPolicy => { st with
      response := st.response.reject (rejectDoc id .blockedPolicy "staff_payload_contains_approval_fields") }
  | .failed message => { st with response := st.response.reject (rejectDoc id .internalError message) }
  | .stored =>
    { journal := st.journal ++ [journalEntry sha256 deviceId c.command]
      response := st.response.accept (ackDoc id c.command.state) }

structure Batch where
  user : User
  deviceId : String
  commands : List Incoming

def syncCommands (batch : Batch) (journal : List JournalEntry) : SyncState :=
  batch.commands.foldl
    (syncCommand sha256 batch.user batch.deviceId (lastProcessedSeq journal batch.deviceId))
    { journal := journal }

/-- A command that was refused for a failure of the database and nothing else. -/
structure Refusal where
  user : User
  deviceId : String
  command : Command
  deriving DecidableEq

structure History where
  journal : List JournalEntry
  refused : List Refusal := []
  deriving DecidableEq

/-- Refused, and accepted had no call failed. -/
def onlyFailed (user : User) (lastProcessed : Int) (journal : List JournalEntry) (c : Incoming) : Bool :=
  match commandOutcome user lastProcessed journal c,
      commandOutcome user lastProcessed journal { c with fault := none } with
  | .failed _, .known _ => true
  | .failed _, .stored => true
  | _, _ => false

/-- The refusals of a loop from a state. -/
def refusals (user : User) (deviceId : String) (lastProcessed : Int) :
    List Incoming → SyncState → List Refusal
  | [], _ => []
  | c :: rest, st =>
    (if onlyFailed user lastProcessed st.journal c then
      [{ user := user, deviceId := deviceId, command := c.command }] else []) ++
    refusals user deviceId lastProcessed rest (syncCommand sha256 user deviceId lastProcessed st c)

def History.step (h : History) (batch : Batch) : History where
  journal := (syncCommands sha256 batch h.journal).journal
  refused := h.refused ++ refusals sha256 batch.user batch.deviceId
    (lastProcessedSeq h.journal batch.deviceId) batch.commands { journal := h.journal }

/-- The commands of every device were stored in increasing order. -/
def InOrder (journal : List JournalEntry) : Prop :=
  ∀ deviceId, ((journal.filter (·.deviceId == deviceId)).map (·.clientSequence)).Pairwise (· < ·)

/-- The refused command is in the journal by now. -/
def Journaled (journal : List JournalEntry) (r : Refusal) : Prop :=
  ∃ entry ∈ journal, entry.commandId = r.command.commandId ∧ entry.payloadHash = finalHash sha256 r.command

/-- Sent again by itself the command is accepted. -/
def AcceptedAgain (journal : List JournalEntry) (r : Refusal) : Prop :=
  ∃ ack ∈ (syncCommands sha256 { user := r.user, deviceId := r.deviceId
                                 commands := [{ command := r.command }] } journal).response.accepted,
    ack.commandId = r.command.commandId

/-- The command is new, above the bound and permitted. -/
structure Due (journal : List JournalEntry) (user : User) (lastProcessed : Int)
    (command : Command) : Prop where
  unknown : findCommand journal command.commandId = none
  above : lastProcessed < command.clientSequence
  allowed : permitted user command = true

variable {sha256} {user : User} {deviceId : String} {lastProcessed : Int}
  {journal : List JournalEntry}

theorem findCommand_none {commandId : String} :
    findCommand journal commandId = none ↔ ∀ entry ∈ journal, entry.commandId ≠ commandId := by
  simp [findCommand]

theorem Due.of_append {added : List JournalEntry} {command : Command}
    (due : Due (journal ++ added) user lastProcessed command) : Due journal user lastProcessed command := by
  refine ⟨?_, due.above, due.allowed⟩
  rw [findCommand_none]
  intro entry member
  exact findCommand_none.mp due.unknown entry (List.mem_append_left _ member)

theorem commandOutcome_stored {c : Incoming} : commandOutcome user lastProcessed journal c = .stored ↔
      Due journal user lastProcessed c.command ∧ c.fault = none := by
  constructor
  · intro stored
    unfold commandOutcome at stored
    split at stored
    · cases stored
    · next noLookup =>
      split at stored
      · split at stored <;> cases stored
      · next unknown =>
        split at stored
        · cases stored
        · next above =>
          split at stored
          · cases stored
          · next allowed =>
            refine ⟨⟨unknown, Int.not_le.mp above, by simpa using allowed⟩, ?_⟩
            split at stored
            · cases stored
            · next noInsert =>
              cases given : c.fault with
              | none => rfl
              | some fault =>
                cases fault with
                | lookup message => exact absurd given (noLookup message)
                | insert message => exact absurd given (noInsert message)
  · rintro ⟨due, plain⟩
    simp [commandOutcome, plain, due.unknown, due.allowed, Int.not_le.mpr due.above]

theorem syncCommand_journal (sha256 : List (String × Value) → String) (user : User)
    (deviceId : String) (lastProcessed : Int) (st : SyncState) (c : Incoming) :
    (syncCommand sha256 user deviceId lastProcessed st c).journal =
      st.journal ++ if commandOutcome user lastProcessed st.journal c = .stored then
        [journalEntry sha256 deviceId c.command] else [] := by
  unfold syncCommand
  cases commandOutcome user lastProcessed st.journal c <;> simp

/-- The loop appends the commands it stores: due at the start, no two under one id. -/
theorem syncLoop_journal (sha256 : List (String × Value) → String) (user : User) (deviceId : String)
    (lastProcessed : Int) (commands : List Incoming) (st : SyncState) :
    ∃ added : List Incoming, added.Sublist commands ∧
      (∀ c ∈ added, Due st.journal user lastProcessed c.command ∧ c.fault = none) ∧
      added.Pairwise (fun a b => a.command.commandId ≠ b.command.commandId) ∧
      (commands.foldl (syncCommand sha256 user deviceId lastProcessed) st).journal =
        st.journal ++ added.map fun c => journalEntry sha256 deviceId c.command := by
  induction commands generalizing st with
  | nil => exact ⟨[], List.Sublist.refl _, by simp, List.Pairwise.nil, by simp⟩
  | cons c rest ih =>
    obtain ⟨added, sub, due, distinct, journal⟩ := ih (syncCommand sha256 user deviceId lastProcessed st c)
    have step := syncCommand_journal sha256 user deviceId lastProcessed st c
    by_cases stored : commandOutcome user lastProcessed st.journal c = .stored
    · rw [if_pos stored] at step
      rw [step] at due journal
      refine ⟨c :: added, sub.cons_cons c, ?_, ?_, ?_⟩
      · intro d member
        rcases List.mem_cons.mp member with rfl | later
        · exact commandOutcome_stored.mp stored
        · exact ⟨(due d later).1.of_append, (due d later).2⟩
      · refine List.Pairwise.cons (fun d later => ?_) distinct
        exact findCommand_none.mp (due d later).1.unknown _ (List.mem_append_right _ (List.mem_singleton.mpr rfl))
      · rw [List.foldl_cons, journal, List.append_assoc]
        rfl
    · rw [if_neg stored, List.append_nil] at step
      rw [step] at due journal
      refine ⟨added, sub.cons c, due, distinct, ?_⟩
      rw [List.foldl_cons, journal]

/-- The command is in the journal under the hash it was sent with. -/
def Known (journal : List JournalEntry) (command : Command) : Prop :=
  ∃ entry, findCommand journal command.commandId = some entry ∧ entry.payloadHash = command.payloadHash

theorem Known.append {command : Command} (known : Known journal command)
    (added : List JournalEntry) : Known (journal ++ added) command := by
  obtain ⟨entry, found, same⟩ := known
  refine ⟨entry, ?_, same⟩
  rw [findCommand, List.find?_append]
  exact Option.or_eq_some_iff.mpr (.inl found)

theorem onlyFailed_cases {c : Incoming} (refused : onlyFailed user lastProcessed journal c = true) :
    c.fault ≠ none ∧ (Known journal c.command ∨ Due journal user lastProcessed c.command) := by
  unfold onlyFailed at refused
  constructor
  · intro plain
    have same : { c with fault := none } = c := by rw [← plain]
    rw [same] at refused
    split at refused
    · next failed known => rw [known] at failed; cases failed
    · next failed stored => rw [stored] at failed; cases failed
    · cases refused
  · split at refused
    · next _ known =>
      refine .inl ?_
      simp only [commandOutcome] at known
      split at known
      · next existing found =>
        split at known
        · next same => exact ⟨existing, found, by simpa using same⟩
        · cases known
      · split at known
        · cases known
        · split at known <;> cases known
    · next _ stored => exact .inr (commandOutcome_stored.mp stored).1
    · cases refused

variable {r : Refusal}

/-- Every refusal of a loop: its command was known by the end, or due at the start. -/
theorem refusals_cases {commands : List Incoming} {st : SyncState}
    (member : r ∈ refusals sha256 user deviceId lastProcessed commands st) :
    ∃ c ∈ commands, r = { user := user, deviceId := deviceId, command := c.command } ∧ c.fault ≠ none ∧
      (Known (commands.foldl (syncCommand sha256 user deviceId lastProcessed) st).journal c.command ∨
        Due st.journal user lastProcessed c.command) := by
  induction commands generalizing st with
  | nil => cases member
  | cons c rest ih =>
    have step := syncCommand_journal sha256 user deviceId lastProcessed st c
    rw [refusals, List.mem_append] at member
    rcases member with here | later
    · split at here
      · next refused =>
        obtain ⟨faulty, known | due⟩ := onlyFailed_cases refused
        · refine ⟨c, List.mem_cons_self, List.mem_singleton.mp here, faulty, .inl ?_⟩
          obtain ⟨added, _, _, _, journal⟩ :=
            syncLoop_journal sha256 user deviceId lastProcessed (c :: rest) st
          rw [journal]
          exact known.append _
        · exact ⟨c, List.mem_cons_self, List.mem_singleton.mp here, faulty, .inr due⟩
      · cases here
    · obtain ⟨d, dMember, equal, faulty, known | due⟩ := ih later
      · exact ⟨d, List.mem_cons_of_mem _ dMember, equal, faulty, .inl known⟩
      · rw [step] at due
        exact ⟨d, List.mem_cons_of_mem _ dMember, equal, faulty, .inr due.of_append⟩

theorem acceptedAgain_of_known (known : Known journal r.command) : AcceptedAgain sha256 journal r := by
  obtain ⟨entry, found, same⟩ := known
  refine ⟨ackDoc r.command.commandId entry.state, ?_, rfl⟩
  simp [syncCommands, syncCommand, commandOutcome, found, same, CommandSyncResponse.accept]

theorem acceptedAgain_of_due (due : Due journal r.user (lastProcessedSeq journal r.deviceId) r.command) :
    AcceptedAgain sha256 journal r := by
  have stored := commandOutcome_stored (c := { command := r.command }).mpr ⟨due, rfl⟩
  refine ⟨ackDoc r.command.commandId r.command.state, ?_, rfl⟩
  simp [syncCommands, syncCommand, stored, CommandSyncResponse.accept]

theorem le_lastProcessedSeq {entry : JournalEntry} (member : entry ∈ journal) :
    entry.clientSequence ≤ lastProcessedSeq journal entry.deviceId := by
  have listed : entry.clientSequence ∈ (journal.filter (·.deviceId == entry.deviceId)).map (·.clientSequence) :=
    List.mem_map.mpr ⟨entry, List.mem_filter.mpr ⟨member, by simp⟩, rfl⟩
  rw [lastProcessedSeq]
  cases greatest : ((journal.filter (·.deviceId == entry.deviceId)).map (·.clientSequence)).max? with
  | none =>
    rw [List.max?_eq_none_iff] at greatest
    rw [greatest] at listed
    cases listed
  | some n => exact (List.max?_eq_some_iff.mp greatest).2 _ listed

/-- What was above the bound and is above everything added stays above it. -/
theorem lastProcessedSeq_append {added : List JournalEntry} {n : Int} (above : lastProcessedSeq journal deviceId < n)
    (below : ∀ entry ∈ added, entry.deviceId = deviceId → entry.clientSequence < n) :
    lastProcessedSeq (journal ++ added) deviceId < n := by
  cases greatest : (((journal ++ added).filter (·.deviceId == deviceId)).map (·.clientSequence)).max? with
  | none =>
    rw [List.max?_eq_none_iff, List.filter_append, List.map_append, List.append_eq_nil_iff] at greatest
    rw [lastProcessedSeq, greatest.1] at above
    rw [lastProcessedSeq, List.filter_append, List.map_append, greatest.1, greatest.2]
    exact above
  | some m =>
    rw [lastProcessedSeq, greatest, Option.getD_some]
    obtain ⟨entry, member, rfl⟩ := List.mem_map.mp (List.max?_eq_some_iff.mp greatest).1
    obtain ⟨member, device⟩ := List.mem_filter.mp member
    have device : entry.deviceId = deviceId := by simpa using device
    rcases List.mem_append.mp member with old | new
    · have bound := le_lastProcessedSeq old
      rw [device] at bound
      omega
    · exact below entry new device

variable (sha256) in

/-- What a batch needs of the history it is sent on. Of the commands that are due, each
has a greater sequence than those before it, and none is stored after one that failed.
While a refused command is not in the journal, the device stores only commands below
it. A command id stands for one content. -/
structure SentInOrder (h : History) (batch : Batch) : Prop where
  ordered : batch.commands.Pairwise fun a b =>
    Due h.journal batch.user (lastProcessedSeq h.journal batch.deviceId) a.command →
    Due h.journal batch.user (lastProcessedSeq h.journal batch.deviceId) b.command →
    a.command.commandId ≠ b.command.commandId →
    a.command.clientSequence < b.command.clientSequence ∧ (a.fault ≠ none → b.fault ≠ none)
  outstanding : ∀ r ∈ h.refused, ¬ Journaled sha256 h.journal r → r.deviceId = batch.deviceId →
    ∀ c ∈ batch.commands,
      Due h.journal batch.user (lastProcessedSeq h.journal batch.deviceId) c.command → c.fault = none →
      c.command.commandId ≠ r.command.commandId → c.command.clientSequence < r.command.clientSequence
  identified : ∀ c ∈ batch.commands,
    (∀ d ∈ batch.commands, d.command.commandId = c.command.commandId →
      finalHash sha256 d.command = finalHash sha256 c.command) ∧
    ∀ r ∈ h.refused, r.command.commandId = c.command.commandId →
      finalHash sha256 r.command = finalHash sha256 c.command

/-- A refused command that was stored since, is known, or is still due. -/
def Recoverable (sha256 : List (String × Value) → String) (journal : List JournalEntry)
    (r : Refusal) : Prop :=
  Journaled sha256 journal r ∨ Known journal r.command ∨
    Due journal r.user (lastProcessedSeq journal r.deviceId) r.command

theorem Journaled.append (stored : Journaled sha256 journal r) (added : List JournalEntry) :
    Journaled sha256 (journal ++ added) r := by
  obtain ⟨entry, member, same⟩ := stored
  exact ⟨entry, List.mem_append_left _ member, same⟩

/-- A due command after a batch: stored by it, or above all it stored. -/
theorem recoverable_append {added : List Incoming} {device : String}
    (due : Due journal r.user (lastProcessedSeq journal r.deviceId) r.command)
    (same : ∀ c ∈ added, c.command.commandId = r.command.commandId → finalHash sha256 c.command = finalHash sha256
      r.command)
    (below : ∀ c ∈ added, device = r.deviceId → c.command.commandId ≠ r.command.commandId → c.command.clientSequence <
      r.command.clientSequence) :
    Recoverable sha256 (journal ++ added.map fun c => journalEntry sha256 device c.command) r := by
  by_cases stored : ∃ c ∈ added, c.command.commandId = r.command.commandId
  · obtain ⟨c, member, sameId⟩ := stored
    refine .inl ⟨journalEntry sha256 device c.command, ?_, sameId, same c member sameId⟩
    exact List.mem_append_right _ (List.mem_map.mpr ⟨c, member, rfl⟩)
  · have other : ∀ c ∈ added, c.command.commandId ≠ r.command.commandId :=
      fun c member sameId => stored ⟨c, member, sameId⟩
    refine .inr (.inr ⟨?_, lastProcessedSeq_append due.above ?_, due.allowed⟩)
    · rw [findCommand_none]
      intro entry member
      rcases List.mem_append.mp member with old | new
      · exact findCommand_none.mp due.unknown entry old
      · obtain ⟨c, cMember, rfl⟩ := List.mem_map.mp new
        exact other c cMember
    · intro entry member sameDevice
      obtain ⟨c, cMember, rfl⟩ := List.mem_map.mp member
      exact below c cMember sameDevice (other c cMember)

theorem InOrder.append {added : List Incoming} {device : String} (inOrder : InOrder journal)
    (above : ∀ c ∈ added, lastProcessedSeq journal device < c.command.clientSequence)
    (ordered : added.Pairwise fun a b => a.command.clientSequence < b.command.clientSequence) :
    InOrder (journal ++ added.map fun c => journalEntry sha256 device c.command) := by
  intro other
  rw [List.filter_append, List.map_append, List.pairwise_append]
  refine ⟨inOrder other, ?_, ?_⟩
  · refine List.Pairwise.map _ (fun a b less => less) (List.Pairwise.filter _ ?_)
    exact List.Pairwise.map _ (fun a b less => less) ordered
  · intro m old n new
    obtain ⟨entry, member, rfl⟩ := List.mem_map.mp old
    obtain ⟨added', member', rfl⟩ := List.mem_map.mp new
    obtain ⟨stored, sameDevice⟩ := List.mem_filter.mp member
    obtain ⟨fresh, freshDevice⟩ := List.mem_filter.mp member'
    obtain ⟨c, cMember, rfl⟩ := List.mem_map.mp fresh
    have here : device = other := eq_of_beq freshDevice
    have there : entry.deviceId = other := eq_of_beq sameDevice
    have bound := le_lastProcessedSeq stored
    rw [there, ← here] at bound
    exact lt_of_le_of_lt bound (above c cMember)

theorem pairwise_either {α : Type} {R : α → α → Prop} {xs : List α} (ordered : xs.Pairwise R)
    {a b : α} (aMember : a ∈ xs) (bMember : b ∈ xs) (differ : a ≠ b) : R a b ∨ R b a := by
  have symmetric : Std.Symm fun x y => R x y ∨ R y x := ⟨fun _ _ => Or.symm⟩
  exact (ordered.imp Or.inl : xs.Pairwise fun x y => R x y ∨ R y x).forall aMember bMember differ

structure CommandsSound (sha256 : List (String × Value) → String) (h : History) : Prop where
  inOrder : InOrder h.journal
  refused : ∀ r ∈ h.refused, Recoverable sha256 h.journal r

theorem CommandsSound.step {h : History} {batch : Batch} (sound : CommandsSound sha256 h)
    (sent : SentInOrder sha256 h batch) : CommandsSound sha256 (h.step sha256 batch) := by
  obtain ⟨added, sub, due, distinct, journal⟩ := syncLoop_journal sha256 batch.user batch.deviceId
    (lastProcessedSeq h.journal batch.deviceId) batch.commands { journal := h.journal }
  have journalEq : (h.step sha256 batch).journal =
      h.journal ++ added.map fun c => journalEntry sha256 batch.deviceId c.command := journal
  refine ⟨?_, fun r member => ?_⟩
  · rw [journalEq]
    refine sound.inOrder.append (fun c member => (due c member).1.above) ?_
    refine List.Pairwise.imp_of_mem ?_ ((sent.ordered.sublist sub).and distinct)
    intro a b aMember bMember both
    exact (both.1 (due a aMember).1 (due b bMember).1 both.2).1
  · rw [journalEq]
    rcases List.mem_append.mp member with old | new
    · rcases sound.refused r old with stored | known | stillDue
      · exact .inl (stored.append _)
      · exact .inr (.inl (known.append _))
      · by_cases stored : Journaled sha256 h.journal r
        · exact .inl (stored.append _)
        · refine recoverable_append stillDue (fun c cMember sameId => ?_) ?_
          · exact ((sent.identified c (sub.subset cMember)).2 r old sameId.symm).symm
          · intro c cMember sameDevice
            exact sent.outstanding r old stored sameDevice.symm c (sub.subset cMember)
              (due c cMember).1 (due c cMember).2
    · obtain ⟨c, cMember, rfl, faulty, known | stillDue⟩ := refusals_cases new
      · exact .inr (.inl (by rwa [← journal]))
      · refine recoverable_append stillDue (fun d dMember sameId => ?_) ?_
        · exact (sent.identified c cMember).1 d (sub.subset dMember) sameId
        · -- one of the two was sent first
          intro d dMember _ otherId
          have differ : c ≠ d := by
            rintro rfl
            exact faulty (due c dMember).2
          rcases pairwise_either sent.ordered cMember (sub.subset dMember) differ with before | after
          · have fails := (before stillDue (due d dMember).1 (Ne.symm otherId)).2 faulty
            exact absurd (due d dMember).2 fails
          · exact (after (due d dMember).1 stillDue otherId).1

/-- Along every run of batches that are sent in order, the commands of a device are
stored in increasing order of their sequences, and every command that was refused only
for a failure has been stored since or is accepted when it is sent again. -/
theorem commands_ordered_of_run {first last : History} (init : CommandsSound sha256 first)
    (run : Reaches (History.step sha256) (SentInOrder sha256) first last) :
    (∀ deviceId, ((last.journal.filter (·.deviceId == deviceId)).map (·.clientSequence)).Pairwise (· < ·)) ∧
    ∀ r ∈ last.refused, Journaled sha256 last.journal r ∨ AcceptedAgain sha256 last.journal r := by
  have sound : CommandsSound sha256 last := run.invariant init fun _ _ inv sent => inv.step sent
  refine ⟨sound.inOrder, fun r member => ?_⟩
  rcases sound.refused r member with stored | known | due
  · exact .inl stored
  · exact .inr (acceptedAgain_of_known known)
  · exact .inr (acceptedAgain_of_due due)

end sync

def observation (commandId : String) (clientSequence : Int) : Command where
  commandId := commandId
  clientSequence := clientSequence
  payloadHash := "h-" ++ commandId

def deviceBatch (commands : List Incoming) : Batch where
  user := counter
  deviceId := "D1"
  commands := commands

/-- The hash function of the samples, whose commands all come with a hash. -/
def unusedHash (_ : List (String × Value)) : String := "unused"

/-- The second of two commands fails. -/
def secondFails : Batch :=
  deviceBatch [{ command := observation "A" 3 }, { command := observation "B" 5, fault := some (.insert "timeout") }]

def bothAgain : Batch :=
  deviceBatch [{ command := observation "A" 3 }, { command := observation "B" 5 }]

def afterFailure : History := History.step unusedHash { journal := [] } secondFails

theorem commandsSound_empty (sha256 : List (String × Value) → String) : CommandsSound sha256 { journal := [] } := by
  refine ⟨fun deviceId => List.Pairwise.nil, ?_⟩
  nofun

theorem commands_ordered_retried :
    (History.step unusedHash afterFailure bothAgain).refused.map (·.command.clientSequence) = [5] ∧
    (∀ deviceId, (((History.step unusedHash afterFailure bothAgain).journal.filter
      (·.deviceId == deviceId)).map (·.clientSequence)).Pairwise (· < ·)) ∧
    ∀ r ∈ (History.step unusedHash afterFailure bothAgain).refused,
      Journaled unusedHash (History.step unusedHash afterFailure bothAgain).journal r ∨
        AcceptedAgain unusedHash (History.step unusedHash afterFailure bothAgain).journal r := by
  have failed : afterFailure = { journal := [journalEntry unusedHash "D1" (observation "A" 3)]
                                 refused := [{ user := counter, deviceId := "D1"
                                               command := observation "B" 5 }] } := by
    decide +kernel
  have firstSent : SentInOrder unusedHash { journal := [] } secondFails := by
    refine ⟨?_, fun r member => (by cases member), ?_⟩
    · simp [secondFails, deviceBatch, observation]
    · intro c member
      refine ⟨?_, fun r refused => (by cases refused)⟩
      simp only [secondFails, deviceBatch, List.mem_cons, List.not_mem_nil, or_false] at member ⊢
      rcases member with rfl | rfl <;> simp [observation]
  have secondSent : SentInOrder unusedHash afterFailure bothAgain := by
    rw [failed]
    refine ⟨?_, ?_, ?_⟩
    · simp [bothAgain, deviceBatch, observation]
    · intro r member _ _ c sent due _ otherId
      rw [List.mem_singleton] at member
      subst member
      simp only [bothAgain, deviceBatch, List.mem_cons, List.not_mem_nil, or_false] at sent
      rcases sent with rfl | rfl
      · simp [observation]
      · exact absurd rfl otherId
    · intro c member
      simp only [bothAgain, deviceBatch, List.mem_cons, List.not_mem_nil, or_false] at member ⊢
      rcases member with rfl | rfl <;> simp [observation]
  refine ⟨by decide +kernel, ?_⟩
  exact commands_ordered_of_run (commandsSound_empty unusedHash)
    (.next bothAgain (.next secondFails .start firstSent) secondSent)

/-- Two commands in the wrong order in one batch are both stored. Where the first of two
fails and the second is stored, the first is too low from then on. -/
theorem commands_disordered :
    ¬ (∀ deviceId, (((History.step unusedHash { journal := [] } (deviceBatch
        [{ command := observation "A" 5 }, { command := observation "B" 3 }])).journal.filter
        (·.deviceId == deviceId)).map (·.clientSequence)).Pairwise (· < ·)) ∧
    ¬ ∀ r ∈ (History.step unusedHash { journal := [] } (deviceBatch
        [{ command := observation "A" 3, fault := some (.insert "timeout") },
          { command := observation "B" 4 }])).refused,
      Journaled unusedHash (History.step unusedHash { journal := [] } (deviceBatch
        [{ command := observation "A" 3, fault := some (.insert "timeout") },
          { command := observation "B" 4 }])).journal r ∨
      AcceptedAgain unusedHash (History.step unusedHash { journal := [] } (deviceBatch
        [{ command := observation "A" 3, fault := some (.insert "timeout") },
          { command := observation "B" 4 }])).journal r := by
  constructor
  · intro ordered
    have onDevice := ordered "D1"
    revert onDevice
    decide +kernel
  · intro again
    have after : History.step unusedHash { journal := [] } (deviceBatch
        [{ command := observation "A" 3, fault := some (.insert "timeout") }, { command := observation "B" 4 }]) =
        { journal := [journalEntry unusedHash "D1" (observation "B" 4)]
          refused := [{ user := counter, deviceId := "D1", command := observation "A" 3 }] } := by
      decide +kernel
    rw [after] at again
    rcases again _ (List.mem_singleton.mpr rfl) with ⟨entry, member, same, _⟩ | ⟨ack, accepted, _⟩
    · rw [List.mem_singleton.mp member] at same
      exact absurd same (by decide)
    · have nothing : (syncCommands unusedHash (deviceBatch [{ command := observation "A" 3 }])
          [journalEntry unusedHash "D1" (observation "B" 4)]).response.accepted = [] := by
        decide +kernel
      have accepted : ack ∈ (syncCommands unusedHash (deviceBatch [{ command := observation "A" 3 }])
          [journalEntry unusedHash "D1" (observation "B" 4)]).response.accepted := accepted
      rw [nothing] at accepted
      cases accepted

end StockVerification
