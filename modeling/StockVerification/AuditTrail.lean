import Mathlib.Data.List.Sort
import StockVerification.Foundation.Datetimes
import StockVerification.Foundation.Interleaving
import StockVerification.Foundation.JsonText

/-!
# The audit trail

Source: backend/services/enterprise_audit.py:122-287, 326-378 and 448-463.

Each entry carries a hash of some of its fields and of the entry before it. Log calls, restarts of
the service and the retention policy interleave; an insertion may fail. The store keeps dates in
milliseconds. The hash chain is enabled, and verification is over the whole trail. The hash of a
text is a parameter.
-/
namespace StockVerification

open Foundation

/-- What an event is about, and who brought it about. -/
structure AuditSubject where
  eventType : String
  action : String
  actorId : Option String := none
  actorUsername : Option String := none
  actorRole : Option String := none
  actorIp : Option String := none
  actorUserAgent : Option String := none
  resourceType : Option String := none
  resourceId : Option String := none
  resourceName : Option String := none
  outcome : String := "success"
  severity : String := "info"
  oldValue : Option (List (String × Json)) := none
  newValue : Option (List (String × Json)) := none
  correlationId : Option String := none
  sessionId : Option String := none
  requestId : Option String := none

structure AuditEntry extends AuditSubject where
  timestamp : DateTime
  details : List (String × Json) := []
  previousHash : Option String := none
  entryHash : Option String := none

structure StoredEntry where
  id : Nat
  entry : AuditEntry

/-- The data that `_compute_hash` dumps. -/
def hashedData (entry : AuditEntry) (details : List Char) (previousHash : Option String) : Json :=
  .obj [("timestamp", .str (String.ofList entry.timestamp.text)), ("event_type", .str entry.eventType),
    ("actor_id", .ofText entry.actorId), ("action", .str entry.action), ("resource_id", .ofText entry.resourceId),
    ("details", .str (String.ofList details)), ("previous_hash", .str (previousHash.getD ""))]

variable (digest : String → String)

/-- `_compute_hash`, none where the details cannot be dumped. -/
def computeHash (entry : AuditEntry) (previousHash : Option String) : Option String := do
  let details ← (Json.obj entry.details).dumps
  let content ← (hashedData entry details previousHash).dumps
  some (digest (String.ofList content))

/-- The order of time and id. -/
def StoredEntry.notAfter (a b : StoredEntry) : Bool :=
  a.entry.timestamp.rank < b.entry.timestamp.rank ||
    a.entry.timestamp.rank == b.entry.timestamp.rank && a.id ≤ b.id

def inOrder (entries : List StoredEntry) : List StoredEntry :=
  entries.insertionSort fun a b => a.notAfter b = true

structure InvalidEntry where
  id : Nat
  timestamp : DateTime
  reason : String
  deriving DecidableEq

structure IntegrityReport where
  status : String
  totalVerified : Nat
  validEntries : Nat
  invalidEntries : List InvalidEntry
  deriving DecidableEq

/-- What the loop of `verify_integrity` finds wrong with an entry. -/
def entryFaults (expectedHash : String) (previousHash : Option String) (stored : StoredEntry) : List InvalidEntry :=
  if some expectedHash ≠ stored.entry.entryHash then [⟨stored.id, stored.entry.timestamp, "hash_mismatch"⟩]
  else if stored.entry.previousHash ≠ previousHash ∧ previousHash ≠ none then
    [⟨stored.id, stored.entry.timestamp, "chain_broken"⟩]
  else []

/-- The loop of `verify_integrity`, with the hash of the entry before. -/
def verifyEntries (digest : String → String) : Option String → List StoredEntry → Option (List InvalidEntry)
  | _, [] => some []
  | previousHash, stored :: rest => do
    let expectedHash ← computeHash digest stored.entry stored.entry.previousHash
    let later ← verifyEntries digest stored.entry.entryHash rest
    some (entryFaults expectedHash previousHash stored ++ later)

/-- `verify_integrity`, none where it raises. -/
def verifyIntegrity (entries : List StoredEntry) : Option IntegrityReport :=
  (verifyEntries digest none (inOrder entries)).map fun invalid =>
    ⟨if invalid.isEmpty then "valid" else "tampered", entries.length, entries.length - invalid.length, invalid⟩

structure LogCall extends AuditSubject where
  details : Option (List (String × Json)) := none

/-- The entry that `log` builds, without its hash. -/
def LogCall.entry (call : LogCall) (timestamp : DateTime) (lastHash : Option String) : AuditEntry :=
  { call.toAuditSubject with timestamp, details := call.details.getD [], previousHash := lastHash }

/-- The collection, the pointer in memory and the clock; the insertions are counted. -/
structure AuditState where
  entries : List StoredEntry := []
  lastHash : Option String := none
  clock : DateTime
  inserts : Nat := 0

inductive AuditRequest where
  /-- A log call, with the id that the driver will give its entry. -/
  | log (call : LogCall) (id : Nat)
  | restart
  | applyRetentionPolicy (cutoffDate : DateTime)
  | wait (time : DateTime)

/-- An entry on its way knows how many insertions there had been when it was built. -/
inductive AuditTask where
  | log (call : LogCall) (id : Nat)
  | insert (stored : StoredEntry) (built : Nat)
  | restart
  | applyRetentionPolicy (cutoffDate : DateTime)
  | wait (time : DateTime)

def startAudit : AuditRequest → AuditTask
  | .log call id => .log call id
  | .restart => .restart
  | .applyRetentionPolicy cutoffDate => .applyRetentionPolicy cutoffDate
  | .wait time => .wait time

def newestEntry (entries : List StoredEntry) : Option StoredEntry := (inOrder entries).getLast?

def StoredEntry.kept (stored : StoredEntry) : StoredEntry :=
  { stored with entry := { stored.entry with timestamp := stored.entry.timestamp.inMilliseconds } }

/-- One atomic step. A log call builds its entry and moves the pointer before it inserts. -/
def resumeAudit (s : AuditState) : AuditTask → AuditState × Option AuditTask
  | .log call id =>
    match computeHash digest (call.entry s.clock s.lastHash) s.lastHash with
    | none => (s, none)
    | some hash =>
      ({ s with lastHash := some hash },
        some (.insert ⟨id, { call.entry s.clock s.lastHash with entryHash := some hash }⟩ s.inserts))
  | .insert stored _ =>
    if stored.id ∈ s.entries.map StoredEntry.id then (s, none)
    else ({ s with entries := s.entries ++ [stored.kept], inserts := s.inserts + 1 }, none)
  | .restart => ({ s with lastHash := (newestEntry s.entries).bind fun stored => stored.entry.entryHash }, none)
  | .applyRetentionPolicy cutoffDate =>
    ({ s with entries := s.entries.filter fun stored => cutoffDate.rank ≤ stored.entry.timestamp.rank }, none)
  | .wait time => ({ s with clock := if s.clock.rank ≤ time.rank then time else s.clock }, none)

abbrev Auditing := Concurrent AuditState AuditTask

def Auditing.step : Auditing → Move AuditRequest → Auditing :=
  Concurrent.step (fun _ request => some (startAudit request)) (resumeAudit digest)

/-- An entry is built at a whole millisecond, from the hash of the newest entry, if there is one; no
other entry is inserted before it is, and it comes after all others. -/
def auditUndisturbed (c : Auditing) : Move AuditRequest → Bool
  | .resume slot =>
    match c.task slot with
    | some (.log _ _) => c.store.clock.microsecond.val % 1000 == 0 &&
        (newestEntry c.store.entries).all fun stored => c.store.lastHash == stored.entry.entryHash
    | some (.insert stored built) => built == c.store.inserts && c.store.entries.all (·.notAfter stored.kept)
    | _ => true
  | _ => true

def Hashed (stored : StoredEntry) : Prop :=
  ∃ hash, computeHash digest stored.entry stored.entry.previousHash = some hash ∧ stored.entry.entryHash = some hash

def LinkedTo (earlier later : StoredEntry) : Prop := later.entry.previousHash = earlier.entry.entryHash

def Verifies (entries : List StoredEntry) : Prop :=
  ∃ report, verifyIntegrity digest entries = some report ∧ report.status = "valid"

variable {stored : StoredEntry}

section

variable {digest : String → String}

theorem entryFaults_nil {hash : String} {previousHash : Option String} :
    entryFaults hash previousHash stored = [] ↔ stored.entry.entryHash = some hash ∧
      ∀ before ∈ previousHash, stored.entry.previousHash = some before := by
  unfold entryFaults
  cases previousHash with
  | none | some before =>
    by_cases own : some hash = stored.entry.entryHash
    · simp [own]
    · simp [own, Ne.symm own]

theorem verifyEntries_nil (previousHash : Option String) (entries : List StoredEntry) :
    verifyEntries digest previousHash entries = some [] ↔ (∀ stored ∈ entries, Hashed digest stored) ∧
      entries.IsChain LinkedTo ∧ ∀ before ∈ previousHash, ∀ first ∈ entries.head?,
        first.entry.previousHash = some before := by
  induction entries generalizing previousHash with
  | nil => simp [verifyEntries]
  | cons stored rest ih =>
    rw [verifyEntries, List.isChain_cons]
    cases computed : computeHash digest stored.entry stored.entry.previousHash with
    | none =>
      constructor
      · nofun
      · intro holds
        obtain ⟨hash, made, _⟩ := holds.1 stored (List.mem_cons_self ..)
        rw [computed] at made
        cases made
    | some hash =>
      have own : Hashed digest stored ↔ stored.entry.entryHash = some hash := by
        simp [Hashed, computed]
      have loop : (do
          let later ← verifyEntries digest stored.entry.entryHash rest
          some (entryFaults hash previousHash stored ++ later)) = some [] ↔
          verifyEntries digest stored.entry.entryHash rest = some [] ∧ entryFaults hash previousHash stored = [] := by
        cases verifyEntries digest stored.entry.entryHash rest with
        | none => simp
        | some later =>
          simp only [Option.bind_eq_bind, Option.bind_some, Option.some.injEq, List.append_eq_nil_iff]
          exact and_comm
      change (do
          let later ← verifyEntries digest stored.entry.entryHash rest
          some (entryFaults hash previousHash stored ++ later)) = some [] ↔ _
      rw [loop, ih, entryFaults_nil, List.forall_mem_cons, own]
      constructor
      · rintro ⟨⟨hashed, chain, next⟩, isOwn, before⟩
        refine ⟨⟨isOwn, hashed⟩, ⟨?_, chain⟩, ?_⟩
        · intro later isNext
          exact (next hash isOwn later isNext).trans isOwn.symm
        · intro hash isBefore first isFirst
          cases isFirst
          exact before hash isBefore
      · rintro ⟨⟨isOwn, hashed⟩, ⟨next, chain⟩, before⟩
        refine ⟨⟨hashed, chain, ?_⟩, isOwn, ?_⟩
        · intro hash isBefore later isNext
          exact (next later isNext).trans isBefore
        · intro hash isBefore
          exact before hash isBefore stored rfl

theorem verifies_iff (entries : List StoredEntry) : Verifies digest entries ↔
    (∀ stored ∈ entries, Hashed digest stored) ∧ (inOrder entries).IsChain LinkedTo := by
  have hashed : (∀ stored ∈ inOrder entries, Hashed digest stored) ↔ ∀ stored ∈ entries, Hashed digest stored := by
    simp only [inOrder, List.mem_insertionSort]
  have nothing : verifyEntries digest none (inOrder entries) = some [] ↔
      (∀ stored ∈ entries, Hashed digest stored) ∧ (inOrder entries).IsChain LinkedTo := by
    rw [verifyEntries_nil, hashed]
    simp
  rw [← nothing, Verifies, verifyIntegrity]
  cases verifyEntries digest none (inOrder entries) with
  | none => simp
  | some invalid =>
    cases invalid with
    | nil => simp
    | cons fault rest => simp

end

/-- The trail stands in the order of time and id, each entry carries its own hash, and each is
linked to the one before. -/
structure TrailSound (digest : String → String) (s : AuditState) : Prop where
  ordered : s.entries.Pairwise fun a b => a.notAfter b = true
  hashed : ∀ stored ∈ s.entries, Hashed digest stored
  linked : s.entries.IsChain LinkedTo

/-- An entry on its way carries its own hash, and as long as nothing is inserted it is linked to the
newest entry. -/
def AuditTask.Linking (s : AuditState) : AuditTask → Prop
  | .insert stored built => stored.entry.timestamp.microsecond.val % 1000 = 0 ∧ Hashed digest stored ∧
      built ≤ s.inserts ∧ (built = s.inserts → ∀ newest ∈ s.entries.getLast?, LinkedTo newest stored)
  | _ => True

section

variable {digest : String → String} {s : AuditState}

theorem TrailSound.inOrder_eq (sound : TrailSound digest s) : inOrder s.entries = s.entries :=
  List.Pairwise.insertionSort_eq sound.ordered

theorem TrailSound.newestEntry_eq (sound : TrailSound digest s) : newestEntry s.entries = s.entries.getLast? := by
  rw [newestEntry, sound.inOrder_eq]

theorem StoredEntry.kept_whole (whole : stored.entry.timestamp.microsecond.val % 1000 = 0) :
    stored.kept = stored := by
  unfold StoredEntry.kept
  rw [DateTime.inMilliseconds_whole whole]

theorem computeHash_entryHash (entry : AuditEntry) (hash previousHash : Option String) :
    computeHash digest { entry with entryHash := hash } previousHash = computeHash digest entry previousHash := rfl

section

variable (sound : TrailSound digest s)
include sound

/-- The insertion of a linked entry that comes last. -/
theorem TrailSound.append (hashed : Hashed digest stored)
    (last : ∀ old ∈ s.entries, old.notAfter stored = true)
    (linked : ∀ newest ∈ s.entries.getLast?, LinkedTo newest stored) {lastHash : Option String}
    {inserts : Nat} : TrailSound digest ⟨s.entries ++ [stored], lastHash, s.clock, inserts⟩ := by
  refine ⟨?_, ?_, ?_⟩
  · apply List.pairwise_append.mpr
    refine ⟨sound.ordered, List.pairwise_singleton .., ?_⟩
    intro old member new isNew
    rw [List.mem_singleton.mp isNew]
    exact last old member
  · intro entry member
    rcases List.mem_append.mp member with old | new
    · exact sound.hashed entry old
    · rw [List.mem_singleton.mp new]
      exact hashed
  · apply List.isChain_append.mpr
    refine ⟨sound.linked, List.isChain_singleton _, ?_⟩
    intro newest isNewest first isFirst
    cases isFirst
    exact linked newest isNewest

/-- What the retention policy leaves of an ordered trail is the end of it. -/
theorem TrailSound.retained (cutoff : Nat) :
    ∃ front, s.entries = front ++ s.entries.filter fun stored => cutoff ≤ stored.entry.timestamp.rank := by
  have ordered := sound.ordered
  generalize s.entries = entries at ordered
  induction entries with
  | nil => exact ⟨[], rfl⟩
  | cons stored rest ih =>
    rw [List.pairwise_cons] at ordered
    by_cases old : cutoff ≤ stored.entry.timestamp.rank
    · have all : ∀ later ∈ stored :: rest, decide (cutoff ≤ later.entry.timestamp.rank) = true := by
        intro later member
        rw [decide_eq_true_eq]
        rcases List.mem_cons.mp member with isFirst | isLater
        · rw [isFirst]
          exact old
        · have follows := ordered.1 later isLater
          simp only [StoredEntry.notAfter, Bool.or_eq_true, decide_eq_true_eq, Bool.and_eq_true, beq_iff_eq] at follows
          omega
      exact ⟨[], (List.filter_eq_self.mpr all).symm⟩
    · obtain ⟨front, shape⟩ := ih ordered.2
      refine ⟨stored :: front, ?_⟩
      rw [List.filter_cons_of_neg (by simpa using old), List.cons_append, ← shape]

theorem TrailSound.retain (cutoff : Nat) :
    TrailSound digest { s with entries := s.entries.filter fun stored => cutoff ≤ stored.entry.timestamp.rank } := by
  obtain ⟨front, shape⟩ := sound.retained cutoff
  refine ⟨sound.ordered.filter _, ?_, ?_⟩
  · exact fun stored member => sound.hashed stored (List.mem_of_mem_filter member)
  · have linked := sound.linked
    rw [shape] at linked
    exact linked.right_of_append

theorem TrailSound.newest_retained {cutoff : Nat} {newest : StoredEntry}
    (isNewest : newest ∈ (s.entries.filter fun stored => cutoff ≤ stored.entry.timestamp.rank).getLast?) :
    newest ∈ s.entries.getLast? := by
  obtain ⟨front, shape⟩ := sound.retained cutoff
  rw [shape, List.getLast?_append, Option.mem_def.mp isNewest]
  rfl

end

/-- A resumed step keeps the trail, links its own entry, and leaves the other entries on their
way. -/
structure AuditGoesOn (digest : String → String) (s : AuditState) (result : AuditState × Option AuditTask) : Prop where
  trail : TrailSound digest result.1
  own : ∀ next, result.2 = some next → next.Linking digest result.1
  others : ∀ task : AuditTask, task.Linking digest s → task.Linking digest result.1

theorem AuditTask.Linking.grown {after : AuditState} (entries : after.entries = s.entries)
    (inserts : after.inserts = s.inserts) {task : AuditTask} (linking : task.Linking digest s) :
    task.Linking digest after := by
  cases task with
  | insert stored built =>
    obtain ⟨whole, hashed, before, linked⟩ := linking
    refine ⟨whole, hashed, ?_, ?_⟩
    · rw [inserts]
      exact before
    · rw [inserts, entries]
      exact linked
  | log call id | restart | applyRetentionPolicy cutoffDate | wait time => trivial

theorem TrailSound.untouched (sound : TrailSound digest s) (lastHash : Option String) (clock : DateTime) :
    AuditGoesOn digest s ({ s with lastHash := lastHash, clock := clock }, none) := by
  refine ⟨{ sound with }, ?_, fun _ same => same.grown rfl rfl⟩
  intro next ended
  cases ended

variable {c : Auditing}

theorem TrailSound.resumed (sound : TrailSound digest c.store) {slot : Nat} {task : AuditTask}
    (linking : task.Linking digest c.store) (quiet : auditUndisturbed c (.resume slot) = true)
    (held : c.task slot = some task) : AuditGoesOn digest c.store (resumeAudit digest c.store task) := by
  cases task with
  | log call id =>
    simp only [auditUndisturbed, held, Bool.and_eq_true, beq_iff_eq, sound.newestEntry_eq, Option.all_eq_true] at quiet
    obtain ⟨whole, newest⟩ := quiet
    simp only [resumeAudit]
    cases computed : computeHash digest (call.entry c.store.clock c.store.lastHash) c.store.lastHash with
    | none =>
      refine ⟨sound, ?_, fun _ same => same⟩
      intro next ended
      cases ended
    | some hash =>
      refine ⟨{ sound with }, ?_, fun _ same => same.grown rfl rfl⟩
      intro next goesOn
      cases goesOn
      refine ⟨whole, ⟨hash, ?_, rfl⟩, Nat.le_refl _, ?_⟩
      · exact (computeHash_entryHash _ _ _).trans computed
      · exact fun _ entry isNewest => newest entry isNewest
  | insert stored built =>
    simp only [auditUndisturbed, held, Bool.and_eq_true, beq_iff_eq, List.all_eq_true] at quiet
    obtain ⟨whole, hashed, _, linked⟩ := linking
    rw [StoredEntry.kept_whole whole] at quiet
    simp only [resumeAudit]
    split
    · refine ⟨sound, ?_, fun _ same => same⟩
      intro next ended
      cases ended
    · rw [StoredEntry.kept_whole whole]
      refine ⟨sound.append hashed quiet.2 (linked quiet.1), ?_, ?_⟩
      · intro next ended
        cases ended
      · intro other waits
        cases other with
        | insert entry earlier =>
          obtain ⟨itsWhole, itsHash, before, _⟩ := waits
          refine ⟨itsWhole, itsHash, Nat.le_succ_of_le before, ?_⟩
          intro same
          have now : earlier = c.store.inserts + 1 := same
          omega
        | log call id | restart | applyRetentionPolicy cutoffDate | wait time => trivial
  | restart | wait time => exact sound.untouched _ _
  | applyRetentionPolicy cutoffDate =>
    refine ⟨sound.retain cutoffDate.rank, ?_, ?_⟩
    · intro next ended
      cases ended
    · intro other waits
      cases other with
      | insert entry built =>
        obtain ⟨itsWhole, itsHash, before, linked⟩ := waits
        refine ⟨itsWhole, itsHash, before, ?_⟩
        exact fun same newest isNewest => linked same newest (sound.newest_retained isNewest)
      | log call id | restart | applyRetentionPolicy cutoffDate | wait time => trivial

abbrev AuditSound (digest : String → String) : Auditing → Prop :=
  Concurrent.Sound (TrailSound digest) (AuditTask.Linking digest)

theorem AuditSound.step {move : Move AuditRequest} (sound : AuditSound digest c)
    (quiet : auditUndisturbed c move = true) : AuditSound digest (Auditing.step digest c move) := by
  apply Concurrent.Sound.step sound
  · intro slot request task _ begun
    cases begun
    cases request <;> trivial
  · intro slot task isResume held linking
    subst isResume
    have on := sound.store.resumed linking quiet held
    exact ⟨on.trail, on.own, fun _ other _ _ waits => on.others other waits⟩

structure AuditStart (c : Auditing) : Prop where
  unlogged : c.store.entries = []
  idle : ∀ slot, c.task slot = none

theorem AuditStart.sound (start : AuditStart c) : AuditSound digest c := by
  refine ⟨⟨?_, ?_, ?_⟩, ?_⟩
  · rw [start.unlogged]
    exact List.Pairwise.nil
  · rw [start.unlogged]
    exact fun stored member => absurd member List.not_mem_nil
  · rw [start.unlogged]
    exact List.IsChain.nil
  · intro slot task held
    rw [start.idle] at held
    cases held

end

/-- Where every entry is built at a whole millisecond from the newest entry's hash and inserted next
and last, the trail verifies. -/
theorem untouched_trail_verifies {digest : String → String} {first last : Auditing} (start : AuditStart first)
    (run : Reaches (Auditing.step digest) (fun c move => auditUndisturbed c move = true) first last) :
    Verifies digest last.store.entries := by
  have sound : AuditSound digest last := run.invariant start.sound fun c move kept quiet => AuditSound.step kept quiet
  rw [verifies_iff, sound.store.inOrder_eq]
  exact ⟨sound.store.hashed, sound.store.linked⟩

def wholeMillisecond : DateTime := { year := 2024, month := 1, day := 31, hour := 8, microsecond := ⟨123000, by decide⟩ }

def oddMicrosecond : DateTime := { year := 2024, month := 1, day := 31, hour := 8, microsecond := ⟨123456, by decide⟩ }

def newAuditService (time : DateTime) : Auditing where
  store := { clock := time }

theorem newAuditService_start (time : DateTime) : AuditStart (newAuditService time) := ⟨rfl, fun _ => rfl⟩

def auditCall (request : AuditRequest) (steps : Nat) : List (Move AuditRequest) :=
  .start 0 request :: List.replicate steps (.resume 0)

def loginLogged (id : Nat) : AuditRequest :=
  .log { eventType := "auth.login", action := "login", actorId := some "u1" } id

def checksum (text : String) : String :=
  (text.toUTF8.data.toList.foldl (fun (sum : Nat) (byte : UInt8) => (31 * sum + byte.toNat) % 65537) 7).repr

/-- An entry, a failed insertion that a restart makes up for, another entry, and a retention that
deletes the first. -/
def auditedInTurn : List (Move AuditRequest) :=
  auditCall (loginLogged 1) 2 ++ auditCall (loginLogged 2) 1 ++ [.abandon 0] ++ auditCall .restart 1 ++
    auditCall (.wait { wholeMillisecond with day := 5, month := 2 }) 1 ++ auditCall (loginLogged 3) 2 ++
    auditCall (.applyRetentionPolicy { year := 2024, month := 2, day := 1, microsecond := ⟨0, by decide⟩ }) 1

theorem untouched_trail_verifies_in_turn :
    Verifies checksum (auditedInTurn.foldl (Auditing.step checksum) (newAuditService wholeMillisecond)).store.entries ∧
      (auditedInTurn.foldl (Auditing.step checksum) (newAuditService wholeMillisecond)).store.entries.map (·.id) =
        [3] := by
  have run : Reaches (Auditing.step checksum) (fun c move => auditUndisturbed c move = true)
      (newAuditService wholeMillisecond)
      (auditedInTurn.foldl (Auditing.step checksum) (newAuditService wholeMillisecond)) :=
    Reaches.of_admitted (by decide +kernel)
  constructor
  · exact untouched_trail_verifies (newAuditService_start wholeMillisecond) run
  · decide +kernel

/-- Two log calls at once; the first is inserted after the second. -/
def auditedAtOnce : List (Move AuditRequest) :=
  [.start 0 (loginLogged 2), .start 1 (loginLogged 1), .resume 0, .resume 1, .resume 1, .resume 0]

def auditedAcrossFailure : List (Move AuditRequest) :=
  auditCall (loginLogged 1) 2 ++ auditCall (loginLogged 2) 1 ++ [.abandon 0] ++ auditCall (loginLogged 3) 2

/-- The reasons in the report on the trail after a run. -/
def reasonsReported (time : DateTime) (moves : List (Move AuditRequest)) : Option (List String) :=
  (verifyIntegrity checksum (moves.foldl (Auditing.step checksum) (newAuditService time)).store.entries).map
    fun report => report.invalidEntries.map (·.reason)

theorem invalidEntries_of_valid {digest : String → String} {entries : List StoredEntry}
    {report : IntegrityReport} (made : verifyIntegrity digest entries = some report)
    (valid : report.status = "valid") : report.invalidEntries = [] := by
  obtain ⟨invalid, _, rfl⟩ := Option.map_eq_some_iff.mp made
  cases invalid with
  | nil => rfl
  | cons entry rest =>
    have tampered : ¬ "tampered" = "valid" := by decide
    exact absurd valid tampered

/-- One entry with microseconds is reported, and so are an entry after a failed insertion and one of
two calls at once. -/
theorem untouched_trail_reported :
    ¬ (∀ (digest : String → String) (first last : Auditing), AuditStart first →
      Reaches (Auditing.step digest) (fun _ _ => True) first last → Verifies digest last.store.entries) ∧
    reasonsReported oddMicrosecond (auditCall (loginLogged 1) 2) = some ["hash_mismatch"] ∧
    reasonsReported wholeMillisecond auditedAcrossFailure = some ["chain_broken"] ∧
    reasonsReported wholeMillisecond auditedAtOnce = some ["chain_broken"] := by
  have odd : reasonsReported oddMicrosecond (auditCall (loginLogged 1) 2) = some ["hash_mismatch"] := by
    decide +kernel
  refine ⟨?_, odd, by decide +kernel, by decide +kernel⟩
  intro always
  obtain ⟨report, made, valid⟩ := always checksum _ _ (newAuditService_start oddMicrosecond)
    (Reaches.foldl fun _ (move : Move AuditRequest) (_ : move ∈ auditCall (loginLogged 1) 2) => trivial)
  rw [reasonsReported, made, Option.map_some, invalidEntries_of_valid made valid] at odd
  exact absurd odd (by decide)

end StockVerification
