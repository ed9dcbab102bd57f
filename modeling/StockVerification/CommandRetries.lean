import StockVerification.OfflineCommands

/-!
# Retried offline commands

Source: backend/api/offline_sync_api.py:42-61 and 99-208.

A round of the loop can also fail after its entry is committed: when the session of the transaction
is closed, or, the command already being acknowledged, when the activity service is made. Both end
in the handler that rejects. The log of what was sent has the latest command first.
-/
namespace StockVerification

open Foundation

/-- A failure after the commit, with its text. -/
inductive LateFault where
  | unwinding (message : String)
  | activity (message : String)
  deriving DecidableEq, Repr

/-- A command with what happens to it on the way, also once it is stored. -/
structure Sent extends Incoming where
  late : Option LateFault := none

structure SentBatch where
  user : User
  deviceId : String
  commands : List Sent

/-- What one command brought about. -/
structure Sending where
  command : Command
  accepted : List Ack
  rejected : List Reject
  inserted : List JournalEntry

/-- The journal, and everything sent so far. -/
structure CommandDesk where
  journal : List JournalEntry
  log : List Sending := []

section

variable (sha256 : List (String × Value) → String) (user : User) (deviceId : String) (lastProcessed : Int)

/-- One round of the loop of `sync_commands`, with the handler of all other exceptions. -/
def syncRound (st : SyncState) (c : Sent) : SyncState :=
  let after := syncCommand sha256 user deviceId lastProcessed st c.toIncoming
  match commandOutcome user lastProcessed st.journal c.toIncoming, c.late with
  | .stored, some (.unwinding message) =>
    { journal := after.journal
      response := st.response.reject (rejectDoc c.command.commandId .internalError message) }
  | .stored, some (.activity message) =>
    { after with response := after.response.reject (rejectDoc c.command.commandId .internalError message) }
  | _, _ => after

/-- What a round adds to an empty response and to the journal. -/
def roundSending (journal : List JournalEntry) (c : Sent) : Sending :=
  let after := syncRound sha256 user deviceId lastProcessed { journal := journal } c
  { command := c.command
    accepted := after.response.accepted
    rejected := after.response.rejected
    inserted := after.journal.drop journal.length }

def CommandDesk.round (desk : CommandDesk) (c : Sent) : CommandDesk where
  journal := (syncRound sha256 user deviceId lastProcessed { journal := desk.journal } c).journal
  log := roundSending sha256 user deviceId lastProcessed desk.journal c :: desk.log

end

/-- The rounds of a batch, each with its own entry in the log. -/
def CommandDesk.step (sha256 : List (String × Value) → String) (desk : CommandDesk) (batch : SentBatch) : CommandDesk :=
  batch.commands.foldl
    (CommandDesk.round sha256 batch.user batch.deviceId (lastProcessedSeq desk.journal batch.deviceId)) desk

structure SendingRight (past : List Sending) (sending : Sending) : Prop where
  oneVerdict : sending.accepted.length + sending.rejected.length = 1
  again : ∀ earlier ∈ past, earlier.command.commandId = sending.command.commandId → earlier.accepted ≠ [] →
    earlier.command.payload.Perm sending.command.payload → sending.accepted = earlier.accepted ∧ sending.inserted = []
  differing : ∀ earlier ∈ past, earlier.command.commandId = sending.command.commandId → earlier.accepted ≠ [] →
    ¬ earlier.command.payload.Perm sending.command.payload → sending.accepted = []

/-- Every command came to what it must. -/
def AllRight : List Sending → Prop
  | [] => True
  | sending :: past => SendingRight past sending ∧ AllRight past

/-- The lookup of the command fails. -/
def Sent.unread (c : Sent) : Bool :=
  match c.fault with
  | some (.lookup _) => true
  | _ => false

/-- The activity service cannot be made once the command is acknowledged. -/
def Sent.unlogged (c : Sent) : Bool :=
  match c.late with
  | some (.activity _) => true
  | _ => false

/-- The hash that was sent tells exactly whether the payload is the recorded one. A known command
is also read, and nothing fails after the acknowledgement of a new one. -/
def roundUndisturbed (journal : List JournalEntry) (c : Sent) : Bool :=
  match findCommand journal c.command.commandId with
  | some existing =>
    if existing.payload.Perm c.command.payload then
      !c.unread && existing.payloadHash == c.command.payloadHash
    else c.unread || existing.payloadHash != c.command.payloadHash
  | none => !c.unlogged

/-- Every round of a batch is undisturbed, the journal being as the earlier rounds left it. -/
def batchUndisturbed (sha256 : List (String × Value) → String) (user : User) (deviceId : String) (lastProcessed : Int) :
    List Sent → CommandDesk → Bool
  | [], _ => true
  | c :: rest, desk => roundUndisturbed desk.journal c &&
      batchUndisturbed sha256 user deviceId lastProcessed rest (desk.round sha256 user deviceId lastProcessed c)

def CommandDesk.undisturbed (sha256 : List (String × Value) → String) (desk : CommandDesk) (batch : SentBatch) : Bool :=
  batchUndisturbed sha256 batch.user batch.deviceId (lastProcessedSeq desk.journal batch.deviceId) batch.commands desk

section

variable {sha256 : List (String × Value) → String} {user : User} {deviceId : String} {lastProcessed : Int}

/-- Each accepted command is in the journal, with its payload and the state it was accepted with. -/
def SendingRecorded (journal : List JournalEntry) (sending : Sending) : Prop :=
  sending.accepted ≠ [] → ∃ entry, findCommand journal sending.command.commandId = some entry ∧
    entry.payload.Perm sending.command.payload ∧ sending.accepted = [ackDoc sending.command.commandId entry.state]

variable {journal : List JournalEntry}

theorem findCommand_append {added : List JournalEntry} {commandId : String} {entry : JournalEntry}
    (found : findCommand journal commandId = some entry) : findCommand (journal ++ added) commandId = some entry := by
  rw [findCommand, List.find?_append]
  exact Option.or_eq_some_iff.mpr (.inl found)

theorem SendingRecorded.append {sending : Sending} (recorded : SendingRecorded journal sending)
    (added : List JournalEntry) : SendingRecorded (journal ++ added) sending := by
  intro accepted
  obtain ⟨entry, found, same, ack⟩ := recorded accepted
  exact ⟨entry, findCommand_append found, same, ack⟩

/-- A round appends to the journal. -/
theorem round_journal (desk : CommandDesk) (c : Sent) : (desk.round sha256 user deviceId lastProcessed c).journal =
      desk.journal ++ (roundSending sha256 user deviceId lastProcessed desk.journal c).inserted := by
  have appended : ∃ added, (desk.round sha256 user deviceId lastProcessed c).journal = desk.journal ++ added := by
    unfold CommandDesk.round syncRound syncCommand
    cases commandOutcome user lastProcessed desk.journal c.toIncoming with
    | stored =>
      cases c.late with
      | none => exact ⟨_, rfl⟩
      | some late =>
        cases late with
        | unwinding _ | activity _ => exact ⟨_, rfl⟩
    | _ => exact ⟨[], (List.append_nil _).symm⟩
  obtain ⟨added, journal⟩ := appended
  have inserted : (roundSending sha256 user deviceId lastProcessed desk.journal c).inserted = added := by
    rw [roundSending]
    change List.drop desk.journal.length (desk.round sha256 user deviceId lastProcessed c).journal = added
    rw [journal, List.drop_left]
  rw [journal, inserted]

variable {existing : JournalEntry} {c : Sent}

theorem roundSending_known (found : findCommand journal c.command.commandId = some existing)
    (read : c.unread = false) (same : existing.payloadHash = c.command.payloadHash) :
    roundSending sha256 user deviceId lastProcessed journal c =
      ⟨c.command, [ackDoc c.command.commandId existing.state], [], []⟩ := by
  have outcome : commandOutcome user lastProcessed journal c.toIncoming = .known existing.state := by
    unfold commandOutcome
    split
    · next failed =>
      simp [Sent.unread, failed] at read
    · rw [found]
      simp [same]
  simp [roundSending, syncRound, syncCommand, outcome, CommandSyncResponse.accept, CommandSyncResponse.acknowledge]

theorem roundSending_rejected (unknown : ∀ state, commandOutcome user lastProcessed journal c.toIncoming ≠ .known state)
    (unstored : commandOutcome user lastProcessed journal c.toIncoming ≠ .stored) :
    ∃ reject, roundSending sha256 user deviceId lastProcessed journal c = ⟨c.command, [], [reject], []⟩ := by
  unfold roundSending syncRound syncCommand
  cases outcome : commandOutcome user lastProcessed journal c.toIncoming with
  | known state => exact absurd outcome (unknown state)
  | stored => exact absurd outcome unstored
  | _ => exact ⟨_, by simp [CommandSyncResponse.reject, CommandSyncResponse.acknowledge]; rfl⟩

theorem roundSending_refused (found : findCommand journal c.command.commandId = some existing)
    (refused : c.unread = true ∨ existing.payloadHash ≠ c.command.payloadHash) :
    ∃ reject, roundSending sha256 user deviceId lastProcessed journal c = ⟨c.command, [], [reject], []⟩ := by
  have outcome : (∃ message, commandOutcome user lastProcessed journal c.toIncoming = .failed message) ∨
      commandOutcome user lastProcessed journal c.toIncoming = .conflict := by
    unfold commandOutcome
    split
    · exact .inl ⟨_, rfl⟩
    · next readable =>
      have differs : existing.payloadHash ≠ c.command.payloadHash := by
        rcases refused with unread | differs
        · unfold Sent.unread at unread
          split at unread
          · next message failed => exact absurd failed (readable message)
          · cases unread
        · exact differs
      rw [found]
      simp [differs]
  apply roundSending_rejected
  · intro state known
    rcases outcome with ⟨message, failed⟩ | conflict
    · rw [known] at failed
      cases failed
    · rw [known] at conflict
      cases conflict
  · intro stored
    rcases outcome with ⟨message, failed⟩ | conflict
    · rw [stored] at failed
      cases failed
    · rw [stored] at conflict
      cases conflict

theorem roundSending_new (unknown : findCommand journal c.command.commandId = none) (logged : c.unlogged = false) :
    (∃ reject, (roundSending sha256 user deviceId lastProcessed journal c).accepted = [] ∧
        (roundSending sha256 user deviceId lastProcessed journal c).rejected = [reject]) ∨
      roundSending sha256 user deviceId lastProcessed journal c = ⟨c.command,
        [ackDoc c.command.commandId c.command.state], [], [journalEntry sha256 deviceId c.command]⟩ := by
  by_cases stored : commandOutcome user lastProcessed journal c.toIncoming = .stored
  · cases late : c.late with
    | none =>
      right
      simp [roundSending, syncRound, syncCommand, stored, late, CommandSyncResponse.accept,
        CommandSyncResponse.acknowledge]
    | some fault =>
      cases fault with
      | unwinding message =>
        left
        simp [roundSending, syncRound, stored, late, CommandSyncResponse.reject]
      | activity message => simp [Sent.unlogged, late] at logged
  · left
    have unlisted : ∀ state, commandOutcome user lastProcessed journal c.toIncoming ≠ .known state := by
      intro state known
      unfold commandOutcome at known
      rw [unknown] at known
      split at known
      · cases known
      · dsimp only at known
        split at known
        · cases known
        · split at known
          · cases known
          · split at known
            · cases known
            · cases known
    obtain ⟨reject, rejected⟩ : ∃ reject, roundSending sha256 user deviceId lastProcessed journal c =
        ⟨c.command, [], [reject], []⟩ := roundSending_rejected unlisted stored
    exact ⟨reject, by rw [rejected], by rw [rejected]⟩

structure CommandsKept (desk : CommandDesk) : Prop where
  recorded : ∀ sending ∈ desk.log, SendingRecorded desk.journal sending
  right : AllRight desk.log

variable {desk : CommandDesk}

theorem CommandsKept.added (sound : CommandsKept desk)
    (recorded : SendingRecorded (desk.round sha256 user deviceId lastProcessed c).journal (roundSending sha256 user
      deviceId lastProcessed desk.journal c))
    (right : SendingRight desk.log (roundSending sha256 user deviceId lastProcessed desk.journal c)) :
    CommandsKept (desk.round sha256 user deviceId lastProcessed c) := by
  constructor
  · intro sending member
    rcases List.mem_cons.mp member with rfl | before
    · exact recorded
    · rw [round_journal]
      exact (sound.recorded sending before).append _
  · exact ⟨right, sound.right⟩

theorem CommandsKept.listed {commandId : String} (sound : CommandsKept desk)
    (found : findCommand desk.journal commandId = some existing) {earlier : Sending} (member : earlier ∈ desk.log)
    (sameId : earlier.command.commandId = commandId) (accepted : earlier.accepted ≠ []) :
    existing.payload.Perm earlier.command.payload ∧ earlier.accepted = [ackDoc commandId existing.state] := by
  obtain ⟨entry, isEntry, same, ack⟩ := sound.recorded earlier member accepted
  rw [sameId] at isEntry ack
  cases found.symm.trans isEntry
  exact ⟨same, ack⟩

section

variable (sound : CommandsKept desk) (found : findCommand desk.journal c.command.commandId = some existing)
include sound found

theorem CommandsKept.known (same : existing.payload.Perm c.command.payload)
    (read : c.unread = false) (hash : existing.payloadHash = c.command.payloadHash) :
    CommandsKept (desk.round sha256 user deviceId lastProcessed c) := by
  have sending : roundSending sha256 user deviceId lastProcessed desk.journal c =
      ⟨c.command, [ackDoc c.command.commandId existing.state], [], []⟩ := roundSending_known found read hash
  apply sound.added
  · rw [round_journal, sending]
    intro _
    exact ⟨existing, findCommand_append found, same, rfl⟩
  · rw [sending]
    constructor
    · rfl
    · intro earlier member sameId accepted _
      exact ⟨(sound.listed found member sameId accepted).2.symm, rfl⟩
    · intro earlier member sameId accepted differs
      exact absurd ((sound.listed found member sameId accepted).1.symm.trans same) differs

theorem CommandsKept.refused (differs : ¬ existing.payload.Perm c.command.payload)
    (refused : c.unread = true ∨ existing.payloadHash ≠ c.command.payloadHash) :
    CommandsKept (desk.round sha256 user deviceId lastProcessed c) := by
  obtain ⟨reject, sending⟩ : ∃ reject, roundSending sha256 user deviceId lastProcessed desk.journal c =
      ⟨c.command, [], [reject], []⟩ := roundSending_refused found refused
  apply sound.added
  · rw [sending]
    intro accepted
    exact absurd rfl accepted
  · rw [sending]
    constructor
    · rfl
    · intro earlier member sameId accepted same
      exact absurd ((sound.listed found member sameId accepted).1.trans same) differs
    · intro _ _ _ _ _
      rfl

end

theorem CommandsKept.new (sound : CommandsKept desk) (unknown : findCommand desk.journal c.command.commandId = none)
    (logged : c.unlogged = false) : CommandsKept (desk.round sha256 user deviceId lastProcessed c) := by
  have none_earlier : ∀ earlier ∈ desk.log, earlier.command.commandId = c.command.commandId →
      earlier.accepted ≠ [] → False := by
    intro earlier member sameId accepted
    obtain ⟨entry, isEntry, _⟩ := sound.recorded earlier member accepted
    rw [sameId, unknown] at isEntry
    cases isEntry
  have command : (roundSending sha256 user deviceId lastProcessed desk.journal c).command = c.command := rfl
  rcases @roundSending_new sha256 user deviceId lastProcessed _ _ unknown logged with ⟨reject, accepted, rejected⟩ | sending
  · apply sound.added
    · intro some_
      exact absurd accepted some_
    · constructor
      · rw [accepted, rejected]
        rfl
      · intro earlier member sameId earlierAccepted _
        exact (none_earlier earlier member sameId earlierAccepted).elim
      · intro _ _ _ _ _
        exact accepted
  · apply sound.added
    · rw [round_journal, sending]
      intro _
      refine ⟨journalEntry sha256 deviceId c.command, ?_, List.Perm.refl _, rfl⟩
      rw [findCommand, List.find?_append, ← findCommand, unknown]
      simp [journalEntry]
    · rw [sending]
      constructor
      · rfl
      · intro earlier member sameId earlierAccepted _
        exact (none_earlier earlier member sameId earlierAccepted).elim
      · intro earlier member sameId earlierAccepted _
        exact (none_earlier earlier member sameId earlierAccepted).elim

theorem CommandsKept.round (sound : CommandsKept desk) (undisturbed : roundUndisturbed desk.journal c = true) :
    CommandsKept (desk.round sha256 user deviceId lastProcessed c) := by
  unfold roundUndisturbed at undisturbed
  cases found : findCommand desk.journal c.command.commandId with
  | some existing =>
    rw [found] at undisturbed
    by_cases same : existing.payload.Perm c.command.payload
    · simp only [same, if_true, Bool.and_eq_true, Bool.not_eq_true', beq_iff_eq] at undisturbed
      exact sound.known found same undisturbed.1 undisturbed.2
    · simp only [same, if_false, Bool.or_eq_true, bne_iff_ne, ne_eq] at undisturbed
      exact sound.refused found same undisturbed
  | none =>
    rw [found] at undisturbed
    exact sound.new found (by simpa using undisturbed)

end

theorem CommandsKept.step {sha256 : List (String × Value) → String} {desk : CommandDesk} {batch : SentBatch}
    (sound : CommandsKept desk) (undisturbed : desk.undisturbed sha256 batch = true) :
    CommandsKept (desk.step sha256 batch) := by
  unfold CommandDesk.undisturbed at undisturbed
  unfold CommandDesk.step
  generalize lastProcessedSeq desk.journal batch.deviceId = lastProcessed at undisturbed
  generalize batch.commands = commands at undisturbed
  induction commands generalizing desk with
  | nil => exact sound
  | cons c rest ih =>
    rw [batchUndisturbed, Bool.and_eq_true] at undisturbed
    rw [List.foldl_cons]
    exact ih (sound.round undisturbed.1) undisturbed.2

/-- Every command has one verdict, a command that was accepted is accepted again as it was, and its
id is not accepted with another payload, in every run of batches with undisturbed rounds. -/
theorem retries_idempotent {sha256 : List (String × Value) → String} {journal : List JournalEntry} {last : CommandDesk}
    (run : Reaches (CommandDesk.step sha256) (fun desk batch => desk.undisturbed sha256 batch = true)
      { journal := journal } last) : AllRight last.log := by
  have start : CommandsKept { journal := journal } := by
    constructor
    · intro sending member
      cases member
    · trivial
  exact (run.invariant start fun _ _ sound undisturbed => sound.step undisturbed).right

def sampleHash (_ : List (String × Value)) : String := "e3b0c442"

/-- A command of a device, with the hash that the device made. -/
def hashedCommand (commandId hash : String) (counted : ℚ) : Sent :=
  { command := { commandId := commandId, clientSequence := 1, payload := [("counted_qty", .num counted)],
                 payloadHash := hash } }

def sentBatch (commands : List Sent) : SentBatch where
  user := counter
  deviceId := "D1"
  commands := commands

/-- A command is sent, sent again, and sent with another payload. -/
def sentThrice : List SentBatch :=
  [sentBatch [hashedCommand "A" "h-4" 4], sentBatch [hashedCommand "A" "h-4" 4], sentBatch [hashedCommand "A" "h-5" 5]]

/-- The verdicts of a log and what was stored, the earliest first. -/
def verdicts (desk : CommandDesk) : List (Nat × Nat × Nat) :=
  desk.log.reverse.map fun sending => (sending.accepted.length, sending.rejected.length, sending.inserted.length)

theorem retries_idempotent_in_turn :
    verdicts (sentThrice.foldl (CommandDesk.step sampleHash) { journal := [] }) = [(1, 0, 1), (1, 0, 0), (0, 1, 0)] ∧
      AllRight (sentThrice.foldl (CommandDesk.step sampleHash) { journal := [] }).log :=
  ⟨by decide +kernel, retries_idempotent (Reaches.of_admitted (by decide +kernel))⟩

/-- The command comes without a hash, so that the one of its payload is stored, and is sent again as
it was. -/
def sentUnhashed : List SentBatch := [sentBatch [hashedCommand "A" "" 4], sentBatch [hashedCommand "A" "" 4]]

/-- The command is sent again with another payload under its old hash. -/
def sentChanged : List SentBatch := [sentBatch [hashedCommand "A" "h-4" 4], sentBatch [hashedCommand "A" "h-4" 5]]

/-- A command without a hash is rejected when it is sent again, another payload under an old hash is
accepted, and a command whose activity cannot be logged is both accepted and rejected. -/
theorem retries_mistaken :
    verdicts (sentUnhashed.foldl (CommandDesk.step sampleHash) { journal := [] }) = [(1, 0, 1), (0, 1, 0)] ∧
      verdicts (sentChanged.foldl (CommandDesk.step sampleHash) { journal := [] }) = [(1, 0, 1), (1, 0, 0)] ∧
      verdicts (CommandDesk.step sampleHash { journal := [] }
        (sentBatch [{ hashedCommand "A" "h-4" 4 with late := some (.activity "no database") }])) = [(1, 1, 1)] ∧
      ¬ ∀ last, Reaches (CommandDesk.step sampleHash) (fun _ _ => True) { journal := [] } last → AllRight last.log := by
  constructor
  · decide +kernel
  constructor
  · decide +kernel
  constructor
  · decide +kernel
  · intro every
    have run : Reaches (CommandDesk.step sampleHash) (fun _ _ => True) { journal := [] }
        (sentUnhashed.foldl (CommandDesk.step sampleHash) { journal := [] }) := Reaches.foldl fun _ _ _ => trivial
    obtain ⟨second, _⟩ := every _ run
    have again := (second.again _ (List.mem_singleton.mpr rfl) rfl (by decide +kernel) (List.Perm.refl _)).1
    exact absurd again (by decide +kernel)

end StockVerification
