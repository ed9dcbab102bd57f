import Mathlib.Data.List.Forall2
import StockVerification.RouteEffects
import StockVerification.SessionOcc

/-!
# Repeated batch syncs

Source: backend/api/sync_batch_api.py:158-376, 460-555, 831-841,
backend/services/validation_service.py:161-287 and backend/db/indexes.py:14-19.

A client sends its records until they are answered ok. A record that was accepted is known by its
operation record, which a TTL index removes after thirty days and which is missing when the process
ended before it was written. Then the record meets its own line. The search for the line's key
answers ok, but the serial check comes before it and does not know the line as the record's own,
since what it finds has no `client_record_id`. The operation ids are fetched before the loop, so a
record that comes twice in one batch is not known the second time either.
-/
namespace StockVerification

open Foundation Foundation.Action

def RecordAnswer.clientRecordId : RecordAnswer → String
  | .ok id => id
  | .conflict c => c.clientRecordId
  | .error id _ => id

/-- The record a line was synced from. -/
def clientRecordOf (line : Doc) : Option String :=
  match line.get "client_record_id" with
  | .str id => some id
  | _ => none

def isRecorded (s : Store) (clientRecordId : String) : Bool :=
  s.idempotencyOperations.any (Filter.eq "operation_id" (.str clientRecordId)).holds

structure BatchReport where
  ids : List String
  /-- Accepted before the batch: answered ok, or with a stored line. -/
  accepted : List String
  answer : Except Error (List RecordAnswer)
  /-- The store after the batch. -/
  left : Store

/-- Every record of the batch that had been accepted is answered ok, and so is one accepted earlier
in it. A batch that fails as a whole holds no such record. -/
def BatchReport.Faithful (report : BatchReport) : Prop :=
  match report.answer with
  | .ok answers =>
    List.Forall₂ (fun id answer => id ∈ report.accepted → answer = .ok id) report.ids answers ∧
      answers.Pairwise fun a b => ∀ id, a = .ok id → b.clientRecordId = id → b = .ok id
  | .error _ => ∀ id ∈ report.ids, id ∉ report.accepted ∧
      (2 ≤ report.ids.count id → isRecorded report.left id = false)

structure SyncHistory where
  store : Store
  /-- The ids that were answered ok. -/
  answered : List String := []
  reports : List BatchReport := []

def SyncHistory.accepted (h : SyncHistory) : List String :=
  h.answered ++ h.store.countLines.filterMap clientRecordOf

inductive SyncEvent where
  | batch (rackOwner : String → Option String) (user : User) (records : List (Env × SyncRecord))
  /-- The process ends within a batch: `handled` is done, and of `current` all but the operation record. -/
  | interrupted (rackOwner : String → Option String) (user : User)
      (handled : List (Env × SyncRecord)) (current : Env × SyncRecord)
  /-- The TTL index removes operation records. -/
  | expired (kept : Doc → Bool)
  /-- Anything that leaves the lines and the operation records alone. -/
  | elsewhere (others : Store)

/-- The part of a batch that is done when its process ends. -/
def syncBatchCut (rackOwner : String → Option String) (user : User)
    (handled : List (Env × SyncRecord)) (current : Env × SyncRecord) : Request Unit := do
  let known ← reads fun s => pure (knownOperations s ((handled ++ [current]).map fun entry => entry.2.clientRecordId))
  let _ ← handled.mapM fun entry => syncBatchRecord rackOwner user known entry.1 entry.2.normalized
  if known.contains current.2.clientRecordId then pure ()
  else do
    let conflict ← validateRecord current.1 rackOwner user.username current.2.normalized
    match conflict with
    | some _ => pure ()
    | none => do
      let _ ← syncSingleRecord current.1 user current.2.normalized
      pure ()

def answerOf {α : Type} (x : Request α) (s : Store) : Except Error α :=
  match x s with
  | .ok a _ => .ok a
  | .error e _ => .error e

def okIds (answer : Except Error (List RecordAnswer)) : List String :=
  match answer with
  | .ok answers => answers.filterMap fun a => match a with | .ok id => some id | _ => none
  | .error _ => []

def SyncHistory.step (h : SyncHistory) : SyncEvent → SyncHistory
  | .batch rackOwner user records =>
    let request := syncBatch rackOwner user records
    { store := request.final h.store
      answered := h.answered ++ okIds (answerOf request h.store)
      reports := h.reports ++
        [{ ids := records.map fun entry => entry.2.clientRecordId, accepted := h.accepted
           answer := answerOf request h.store, left := request.final h.store }] }
  | .interrupted rackOwner user handled current =>
    { h with store := (syncBatchCut rackOwner user handled current).final h.store }
  | .expired kept =>
    { h with store := { h.store with idempotencyOperations := h.store.idempotencyOperations.filter kept } }
  | .elsewhere others =>
    { h with store := { others with countLines := h.store.countLines
                                    idempotencyOperations := h.store.idempotencyOperations } }

/-- At most one line for a client record, and every batch answered as it should be. -/
structure ExactlyOnce (h : SyncHistory) : Prop where
  single : h.store.countLines.Pairwise fun a b =>
    ∀ id, clientRecordOf a = some id → clientRecordOf b ≠ some id
  faithful : ∀ report ∈ h.reports, report.Faithful

/-- The checks that come before the search for the record's own line let it pass, and the search
finds the line. -/
structure Replayable (s : Store) (rackOwner : String → Option String) (user : User) (record : SyncRecord) : Prop where
  keyed : record.clientRecordId ≠ ""
  stored : s.countLines.any (Filter.both (.eq "session_id" (.str record.sessionId))
    (.eq "idempotency_key" (.str record.clientRecordId))).holds = true
  serialless : record.serialNumbers = []
  quantity : record.damagedQty ≤ record.verifiedQty
  rack : ¬ (record.rackId ≠ "" ∧ (rackOwner record.rackId).any (fun owner =>
    owner != "" && owner != user.username) = true)
  session : ∃ session, ensureSessionActive record.sessionId s = .ok session ∧
    (user.hasAuthority || Text.strip (session.get "staff_user").textOrEmpty == "" ||
      Text.strip (session.get "staff_user").textOrEmpty == user.username) = true
  placed : record.place.1 ≠ "" ∧ record.place.2.1 ≠ "" ∧ record.place.2.2 ≠ ""
  dated : record.createdAt.isSome = true ∧ record.updatedAt.isSome = true

/-- A batch that the server answers as it should. -/
structure BatchFits (h : SyncHistory) (rackOwner : String → Option String) (user : User)
    (records : List (Env × SyncRecord)) : Prop where
  /-- No record comes twice, unless its operation is recorded. -/
  apart : ((records.map fun entry => entry.2.clientRecordId).filter fun id => !isRecorded h.store id).Nodup
  /-- An accepted record has its operation recorded, or else nothing stops it before its own line is found. -/
  replays : ∀ entry ∈ records, entry.2.clientRecordId ∈ h.accepted →
    isRecorded h.store entry.2.clientRecordId = true ∨ Replayable h.store rackOwner user entry.2.normalized
  /-- The database's object ids are new. -/
  fresh : (records.map fun entry => entry.1.freshOid).Nodup ∧ ∀ entry ∈ records,
    ∀ op ∈ h.store.idempotencyOperations, op "_id" ≠ some (.oid entry.1.freshOid)

def SyncMeets (h : SyncHistory) : SyncEvent → Prop
  | .batch rackOwner user records => BatchFits h rackOwner user records
  | _ => True

/-- A synced line carries the record's id as its key, and no two lines have the same key. -/
structure KeyedLines (s : Store) : Prop where
  keyed : ∀ line ∈ s.countLines, ∀ id, clientRecordOf line = some id → line "idempotency_key" = some (.str id)
  unique : s.countLines.Pairwise fun a b =>
    ∀ key, a "idempotency_key" = some (.str key) → b "idempotency_key" ≠ some (.str key)

variable {s : Store}

theorem KeyedLines.single (lines : KeyedLines s) : s.countLines.Pairwise fun a b =>
    ∀ id, clientRecordOf a = some id → clientRecordOf b ≠ some id := by
  refine lines.unique.imp_of_mem ?_
  intro a b memberA memberB apart id first second
  exact apart id (lines.keyed a memberA id first) (lines.keyed b memberB id second)

variable {t : Store}

theorem KeyedLines.congr (lines : KeyedLines s) (same : t.countLines = s.countLines) : KeyedLines t := by
  constructor
  · rw [same]
    exact lines.keyed
  · rw [same]
    exact lines.unique

theorem ofLines_keyedLines : OfLines KeyedLines := by
  rintro s _ ⟨_, _, _, _, _, _, rfl⟩ lines
  exact lines.congr rfl

variable {id : String}

theorem clientRecordOf_some {line : Doc} (named : line "client_record_id" = some (.str id)) :
    clientRecordOf line = some id := by
  rw [clientRecordOf, Doc.get_of_some named]

/-- The line of a record has a key that no other line has. -/
theorem KeyedLines.appended {line : Doc} (lines : KeyedLines s)
    (named : line "client_record_id" = some (.str id)) (keyed : line "idempotency_key" = some (.str id))
    (free : Collection.collision countLineIndexes s.countLines line = none) :
    KeyedLines (s.withLines (s.countLines ++ [line])) := by
  constructor
  · intro other member other_id record
    rcases List.mem_append.mp member with old | new
    · exact lines.keyed other old other_id record
    · cases List.mem_singleton.mp new
      rw [clientRecordOf_some named] at record
      cases record
      exact keyed
  · refine List.pairwise_append.mpr ⟨lines.unique, List.pairwise_singleton _ _, ?_⟩
    intro other member new isNew key first second
    cases List.mem_singleton.mp isNew
    rw [Collection.collision, List.find?_eq_none] at free
    have apart := free { field := "idempotency_key" } (by decide)
    rw [Bool.not_eq_true, List.any_eq_false] at apart
    have differs := apart other member
    simp [Collection.sameEntry, Doc.has, first, second] at differs

theorem KeyedLines.recordKeeps (env : Env) (user : User) (record : SyncRecord) :
    RecordKeeps KeyedLines env user record := by
  intro t t' session floorId rackId locationId countedAt updatedAt _ _ _ lines step
  obtain ⟨p, result, prepared, executed⟩ := step
  obtain ⟨line, inserted, rfl, _, _, free⟩ := insertOne_effect rfl prepared executed
  refine @KeyedLines.appended _ record.clientRecordId _ lines ?_ ?_ free
  · rw [inserted.other _ (by decide) (by decide)]
    rfl
  · rw [inserted.other _ (by decide) (by decide)]
    rfl

/-- The fields that a session is found by, and that admit a write to it. -/
def admittingFields : List String := ["id", "session_id", "status", "finalized_at", "staff_user"]

def admitting (session : Doc) : List (Option Value) := admittingFields.map session

theorem admitting_get {a b : Doc} (same : admitting a = admitting b) {field : String}
    (listed : field ∈ admittingFields) : a field = b field :=
  List.map_inj_left.mp same field listed

/-- Lines are added, and sessions are found and admit writes as before. -/
structure Grows (s t : Store) : Prop where
  lines : s.countLines <+: t.countLines
  sessions : t.sessions.map admitting = s.sessions.map admitting

/-- A step that records no operation. -/
structure Handles (s t : Store) : Prop extends Grows s t where
  operations : t.idempotencyOperations = s.idempotencyOperations

instance : Std.Refl Grows where
  refl _ := ⟨List.prefix_rfl, rfl⟩

instance : IsTrans Store Grows where
  trans _ _ _ first second := ⟨first.lines.trans second.lines, second.sessions.trans first.sessions⟩

instance : Std.Refl Handles where
  refl s := ⟨refl_of Grows s, rfl⟩

instance : IsTrans Store Handles where
  trans _ _ _ first second :=
    ⟨trans_of Grows first.toGrows second.toGrows, second.operations.trans first.operations⟩

variable {α β : Type} {a : α} {xs : List α}

theorem find_of_map_eq {f : α → β} {p : α → Bool} (sees : ∀ a b, f a = f b → p a = p b) {ys : List α}
    (same : ys.map f = xs.map f) (found : xs.find? p = some a) : ∃ b, ys.find? p = some b ∧ f b = f a := by
  induction xs generalizing ys with
  | nil => cases found
  | cons x rest ih =>
    rw [List.map_cons, List.map_eq_cons_iff] at same
    obtain ⟨y, others, rfl, alike, same⟩ := same
    rw [List.find?_cons] at found ⊢
    rw [sees y x alike]
    split at found
    · cases found
      exact ⟨y, rfl, alike⟩
    · exact ih same found

variable {session : Doc} {sessionId : String}

theorem Grows.findSession (grows : Grows s t) (found : s.findSession sessionId = some session) :
    ∃ later, t.findSession sessionId = some later ∧ admitting later = admitting session := by
  refine find_of_map_eq ?_ grows.sessions found
  intro a b same
  exact lookup_congr (admitting_get same (by decide)) (admitting_get same (by decide)) sessionId

theorem Grows.active (grows : Grows s t) (active : ensureSessionActive sessionId s = .ok session) :
    ∃ later, ensureSessionActive sessionId t = .ok later ∧ later.get "staff_user" = session.get "staff_user" := by
  simp only [ensureSessionActive, ensureSessionNotFinalized, bind_success, require_ok,
    ensureSessionExists_ok, pure_success] at active ⊢
  obtain ⟨_, ⟨_, found, _, isOpen, rfl⟩, _, isActive, rfl⟩ := active
  obtain ⟨later, stored, same⟩ := grows.findSession found
  have get : ∀ field ∈ admittingFields, later.get field = _ := fun field listed => by
    rw [Doc.get_eq, admitting_get same listed, ← Doc.get_eq]
  refine ⟨later, ⟨_, ⟨later, stored, (), ?_, rfl⟩, (), ?_, rfl⟩, get _ (by decide)⟩
  · rw [isSessionClosedToWrites, get "finalized_at" (by decide), get "status" (by decide)]
    exact isOpen
  · rw [get "status" (by decide)]
    exact isActive

theorem handles_updateSessionWithOcc {fields : Doc} {expected : Int}
    (plain : ∀ field ∈ admittingFields, fields field = none)
    (updated : updateSessionWithOcc sessionId fields expected s = .ok t) : Handles s t := by
  obtain ⟨front, back, old, new, split, rfl, _, _, _, fieldsEq⟩ := updateSessionWithOcc_effect updated
  have same : admitting new = admitting old := by
    refine List.map_inj_left.mpr fun field listed => ?_
    have unversioned : field ≠ "version" := by
      rintro rfl
      revert listed
      decide
    rw [fieldsEq field unversioned, plain field listed]
    rfl
  refine ⟨⟨List.prefix_rfl, ?_⟩, rfl⟩
  rw [split, List.map_append, List.map_append, List.map_cons, List.map_cons, same]

theorem handles_refreshSessionTotals (env : Env) (entry : String × Nat) :
    Moves Handles (refreshSessionTotals env entry) := by
  refine Moves.bind (Moves.reads _) fun totals => ?_
  refine Moves.bind (Moves.reads _) fun session => ?_
  refine Moves.bind (Moves.writes fun s t => handles_updateSessionWithOcc ?_) fun _ => Moves.pure ()
  intro field listed
  apply Doc.ofList_other
  revert field
  simp only [← List.forall_iff_forall_mem, admittingFields]
  simp [SessionTotals.toFields]

theorem handles_syncForSessions (env : Env) (ids : List String) (s : Store) : Handles s (syncForSessions env ids s) := by
  obtain ⟨rows, eq⟩ := syncForSessions_eq env ids s
  rw [eq]
  exact ⟨⟨List.prefix_rfl, rfl⟩, rfl⟩

variable {env : Env} {ctx : WriteContext}

/-- The governed insert of a new line. -/
theorem handles_insert {committed : Store} {document : Doc} (noId : document "_id" = none) :
    Moves Handles (processWriteCore env committed ctx (.insertOne document)) := by
  intro s
  refine final_reads_bind (refl_of Handles s) fun p prepared => ?_
  refine final_transacts_bind (refl_of Handles s) fun result t executed => ?_
  obtain ⟨line, _, rfl, _, _, _⟩ := insertOne_effect noId prepared executed
  have inserted : Handles s (s.withLines (s.countLines ++ [line])) := ⟨⟨List.prefix_append _ _, rfl⟩, rfl⟩
  refine trans_of Handles inserted ?_
  refine Moves.bind (Moves.reads _) (fun _ => Moves.bind ?_ fun _ => Moves.bind ?_ fun _ => Moves.pure result) _
  · unfold refreshTotals
    split
    · exact Moves.pure ()
    · exact Moves.forM fun entry _ => handles_refreshSessionTotals env entry
  · unfold syncProjections
    split
    · exact Moves.pure ()
    · refine Moves.writes fun u v synced => ?_
      rw [← Except.ok.inj synced]
      exact handles_syncForSessions env _ u

theorem handles_processWrite {document : Doc} (noId : document "_id" = none) :
    Moves Handles (processWrite env ctx (.insertOne document)) := by
  intro s
  rw [processWrite, final_withStore]
  exact UnitOfWork.moves_runCommitted env.deployment (handles_insert noId) s

theorem handles_syncRecordBody (env : Env) (user : User) (record : SyncRecord) :
    Moves Handles (syncRecordBody env user record) := by
  unfold syncRecordBody
  refine Moves.bind (Moves.reads _) fun session => ?_
  refine Moves.bind (Moves.reads _) fun _ => ?_
  refine Moves.bind (Moves.reads _) fun _ => ?_
  refine Moves.bind (Moves.reads _) fun times => ?_
  refine Moves.bind (Moves.reads _) fun _ => ?_
  refine Moves.bind (Moves.reads _) fun replay => ?_
  split
  · exact Moves.pure ()
  · refine Moves.bind (Moves.reads _) fun duplicate => ?_
    cases duplicate with
    | some existing =>
      refine Moves.bind (fun s => ?_) fun _ => Moves.pure ()
      -- the document of a record is never an explicit recount, so the duplicate is refused
      refine final_reads_bind (refl_of Handles s) fun _ reused => ?_
      rw [require_ok, syncDocument_not_recount] at reused
      cases reused
    | none =>
      exact Moves.bind (handles_processWrite rfl) fun _ => Moves.pure ()

theorem handles_validateRecord (env : Env) (rackOwner : String → Option String) (userId : String)
    (record : SyncRecord) : Moves Handles (validateRecord env rackOwner userId record) := by
  refine Moves.bind (Moves.reads _) fun conflicting => ?_
  cases conflicting with
  | some existing =>
    refine Moves.bind (Moves.writes fun s t detected => ?_) fun _ => Moves.pure _
    rw [← Except.ok.inj detected]
    split
    · exact ⟨⟨List.prefix_rfl, rfl⟩, rfl⟩
    · exact refl_of Handles s
  | none =>
    change Moves Handles (if record.verifiedQty < record.damagedQty then _ else _)
    split
    · exact Moves.pure _
    · split
      · exact Moves.pure _
      · exact Moves.pure _

variable {next : α → Request β}

theorem bind_then {x : Request α} (ran : x s = .ok a t) : (x >>= next) s = next a t := by
  simp only [bind, EStateM.bind, ran]

theorem reads_then {f : Store → Except Error α} (read : f s = .ok a) :
    (reads f >>= next) s = next a s :=
  bind_then (reads_ok.mpr ⟨read, rfl⟩)

theorem reads_pure_then (f : Store → α) :
    (reads (fun t => (pure (f t) : Except Error α)) >>= next) s = next (f s) s :=
  reads_then rfl

def operationOf (env : Env) (clientRecordId : String) : Doc :=
  Doc.ofList [("_id", .oid env.freshOid), ("operation_id", .str clientRecordId), ("created_at", .date env.now)]

variable {clientRecordId : String}

theorem isRecorded_of_mem {op : Doc} (member : op ∈ s.idempotencyOperations)
    (named : op.get "operation_id" = .str clientRecordId) : isRecorded s clientRecordId = true := by
  refine List.any_eq_true.mpr ⟨op, member, ?_⟩
  cases stored : op "operation_id" with
  | none => simp [Doc.get_eq, stored] at named
  | some v =>
    rw [Doc.get_of_some stored] at named
    simp [Filter.holds, Filter.fieldIs, stored, named]

theorem recordOperation_ok (unrecorded : isRecorded s clientRecordId = false)
    (fresh : ∀ op ∈ s.idempotencyOperations, op "_id" ≠ some (.oid env.freshOid)) :
    recordOperation env clientRecordId s = .ok () { s with
      idempotencyOperations := s.idempotencyOperations ++ [operationOf env clientRecordId] } := by
  have free : Collection.collision operationIndexes s.idempotencyOperations (operationOf env clientRecordId) = none := by
    rw [Collection.collision, List.find?_eq_none]
    intro index listed taken
    obtain ⟨op, member, same⟩ := List.any_eq_true.mp taken
    rcases List.mem_pair.mp listed with rfl | rfl
    · apply fresh op member
      simpa [Collection.sameEntry, operationOf, Doc.has] using same
    · have named : op.get "operation_id" = .str clientRecordId := by
        simpa [Collection.sameEntry, operationOf, Doc.get_eq] using same
      rw [isRecorded_of_mem member named] at unrecorded
      cases unrecorded
  have inserted : Collection.insertOne operationIndexes (operationOf env clientRecordId) s.idempotencyOperations =
      .ok (s.idempotencyOperations ++ [operationOf env clientRecordId]) := by
    rw [Collection.insertOne, free]
  rw [recordOperation, writes_ok]
  exact bind_success.mpr ⟨_, liftFault_ok.mpr inserted, rfl⟩

/-- Validation names a conflict of its own record or none. -/
theorem validateRecord_answers (env : Env) (rackOwner : String → Option String) (userId : String)
    (record : SyncRecord) (s : Store) : ∃ conflict t, validateRecord env rackOwner userId record s = .ok conflict t ∧
      ∀ c, conflict = some c → c.clientRecordId = record.clientRecordId := by
  rw [validateRecord, reads_pure_then]
  cases conflictingSerial s record with
  | some existing =>
    refine ⟨_, _, bind_then (@writes_ok _ _ _ _ _ ()|>.mpr rfl), ?_⟩
    rintro c same
    cases same
    rfl
  | none =>
    dsimp only
    split
    · refine ⟨_, s, rfl, ?_⟩
      rintro c same
      cases same
      rfl
    · split
      · refine ⟨_, s, rfl, ?_⟩
        rintro c same
        cases same
        rfl
      · refine ⟨none, s, rfl, ?_⟩
        rintro c same
        cases same

section Replayable

variable {rackOwner : String → Option String} {user : User} {record : SyncRecord}

section

variable (replayable : Replayable s rackOwner user record)
include replayable

theorem Replayable.grows (grows : Grows s t) :
    Replayable t rackOwner user record := by
  obtain ⟨session, active, owned⟩ := replayable.session
  obtain ⟨later, stillActive, sameOwner⟩ := grows.active active
  obtain ⟨line, member, own⟩ := List.any_eq_true.mp replayable.stored
  refine { replayable with stored := ?_, session := ⟨later, stillActive, ?_⟩ }
  · exact List.any_eq_true.mpr ⟨line, grows.lines.subset member, own⟩
  · rw [sameOwner]
    exact owned

theorem Replayable.validates (env : Env) :
    validateRecord env rackOwner user.username record s = .ok none s := by
  have unserialled : conflictingSerial s record = none := by
    rw [conflictingSerial, replayable.serialless]
    rfl
  rw [validateRecord, reads_pure_then, unserialled]
  dsimp only
  rw [if_neg (not_lt.mpr replayable.quantity), if_neg replayable.rack]
  rfl

theorem Replayable.idempotent (env : Env)
    (floorId rackId locationId : String) (countedAt updatedAt : Int) : countLineIsIdempotent s record.sessionId
      (syncDocument env user record floorId rackId locationId countedAt updatedAt) = true := by
  have key : (syncDocument env user record floorId rackId locationId countedAt updatedAt).get "idempotency_key" =
      .str record.clientRecordId := rfl
  rw [countLineIsIdempotent, key, replayable.stored]
  simpa [Value.truthy] using replayable.keyed

/-- A record that has arrived is synced again without a write. -/
theorem Replayable.syncs (env : Env) :
    syncSingleRecord env user record s = .ok (.ok ()) s := by
  obtain ⟨session, active, owned⟩ := replayable.session
  obtain ⟨floor, rack, location⟩ := replayable.placed
  obtain ⟨countedAt, counted⟩ := Option.isSome_iff_exists.mp replayable.dated.1
  obtain ⟨updatedAt, updated⟩ := Option.isSome_iff_exists.mp replayable.dated.2
  have quantity : record.damagedQty ≤ record.countedQty := by
    rw [SyncRecord.countedQty, replayable.serialless]
    exact replayable.quantity
  have placed : (record.place.2.2 != "" && record.place.1 != "" && record.place.2.1 != "") = true := by
    simpa [and_assoc] using ⟨location, floor, rack⟩
  have done : syncRecordBody env user record s = .ok () s := by
    unfold syncRecordBody
    refine bind_ok.mpr ⟨session, s, reads_ok.mpr ⟨active, rfl⟩, ?_⟩
    refine bind_ok.mpr ⟨(), s, reads_ok.mpr ⟨require_ok.mpr owned, rfl⟩, ?_⟩
    refine bind_ok.mpr ⟨(), s, reads_ok.mpr ⟨require_ok.mpr placed, rfl⟩, ?_⟩
    rw [counted, updated]
    refine bind_ok.mpr ⟨(countedAt, updatedAt), s, reads_ok.mpr ⟨rfl, rfl⟩, ?_⟩
    refine bind_ok.mpr ⟨(), s, reads_ok.mpr ⟨require_ok.mpr (decide_eq_true quantity), rfl⟩, ?_⟩
    refine bind_ok.mpr ⟨true, s, reads_ok.mpr ⟨?_, rfl⟩, rfl⟩
    rw [replayable.idempotent]
    rfl
  rw [syncSingleRecord, bind_then (attempt_ok.mpr (.inl ⟨(), done, rfl⟩))]
  rfl

end

end Replayable

theorem isRecorded_append {other : String} (apart : other ≠ clientRecordId)
    (unrecorded : isRecorded s other = false) : isRecorded { s with
      idempotencyOperations := s.idempotencyOperations ++ [operationOf env clientRecordId] } other = false := by
  rw [isRecorded] at unrecorded ⊢
  rw [List.any_append, unrecorded, List.any_cons, List.any_nil]
  have named : operationOf env clientRecordId "operation_id" = some (.str clientRecordId) := rfl
  simpa [Filter.holds, Filter.fieldIs_str named] using Ne.symm apart

/-- What the handling of one record leaves. -/
structure Answers (s : Store) (known : List String) (env : Env) (record : SyncRecord)
    (answer : RecordAnswer) (t : Store) : Prop where
  own : answer.clientRecordId = record.clientRecordId
  grows : Grows s t
  operations : t.idempotencyOperations = s.idempotencyOperations ∨ known.contains record.clientRecordId = false ∧
    t.idempotencyOperations = s.idempotencyOperations ++ [operationOf env record.clientRecordId]

section batch

variable {rackOwner : String → Option String} {user : User} {known : List String}

/-- A record is answered even where its write raises. -/
theorem syncSingleRecord_answers (env : Env) (user : User) (record : SyncRecord) (s : Store) :
    ∃ outcome t, syncSingleRecord env user record s = .ok outcome t ∧ Handles s t := by
  have kept := handles_syncRecordBody env user record s
  cases ran : syncRecordBody env user record s with
  | ok a t =>
    rw [final_of_ok ran] at kept
    exact ⟨_, t, bind_then (attempt_ok.mpr (.inl ⟨a, ran, rfl⟩)), kept⟩
  | error e t =>
    have final : (syncRecordBody env user record).final s = t := by
      rw [Action.final, ran]
    rw [final] at kept
    exact ⟨_, t, bind_then (attempt_ok.mpr (.inr ⟨e, ran, rfl⟩)), kept⟩

variable {record : SyncRecord}

theorem syncBatchRecord_known (recorded : known.contains record.clientRecordId = true) :
    syncBatchRecord rackOwner user known env record s = .ok (.ok record.clientRecordId) s := by
  rw [syncBatchRecord, if_pos recorded]
  rfl

/-- A record is always answered, and its own operation is all that is recorded. -/
theorem syncBatchRecord_answers
    (unrecorded : known.contains record.clientRecordId = false → isRecorded s record.clientRecordId = false)
    (fresh : ∀ op ∈ s.idempotencyOperations, op "_id" ≠ some (.oid env.freshOid)) :
    ∃ answer t, syncBatchRecord rackOwner user known env record s = .ok answer t ∧
      Answers s known env record answer t := by
  cases isKnown : known.contains record.clientRecordId with
  | true => exact ⟨_, s, syncBatchRecord_known isKnown, rfl, refl_of Grows s, .inl rfl⟩
  | false =>
    obtain ⟨conflict, t, validated, named⟩ := validateRecord_answers env rackOwner user.username record s
    have first := handles_validateRecord env rackOwner user.username record s
    rw [final_of_ok validated] at first
    rw [syncBatchRecord, isKnown, if_neg Bool.false_ne_true, bind_then validated]
    cases conflict with
    | some c => exact ⟨_, t, rfl, named c rfl, first.toGrows, .inl first.operations⟩
    | none =>
      obtain ⟨outcome, u, synced, second⟩ := syncSingleRecord_answers env user record t
      have kept := trans_of Handles first second
      dsimp only
      rw [bind_then synced]
      cases outcome with
      | error message => exact ⟨_, u, rfl, rfl, kept.toGrows, .inl kept.operations⟩
      | ok done =>
        have stillUnrecorded : isRecorded u record.clientRecordId = false := by
          rw [isRecorded, kept.operations]
          exact unrecorded isKnown
        rw [← kept.operations] at fresh
        refine ⟨_, _, bind_then (recordOperation_ok stillUnrecorded fresh), rfl, ?_, .inr ⟨isKnown, ?_⟩⟩
        · exact ⟨kept.lines, kept.sessions⟩
        · rw [kept.operations]

/-- A record that has arrived is accepted again. -/
theorem Replayable.answered {answer : RecordAnswer}
    (replayable : Replayable s rackOwner user record)
    (ran : syncBatchRecord rackOwner user known env record s = .ok answer t) : answer = .ok record.clientRecordId := by
  cases isKnown : known.contains record.clientRecordId with
  | true =>
    rw [syncBatchRecord_known isKnown] at ran
    cases ran
    rfl
  | false =>
    rw [syncBatchRecord, isKnown, if_neg Bool.false_ne_true, bind_then (replayable.validates env)] at ran
    dsimp only at ran
    rw [bind_then (replayable.syncs env)] at ran
    obtain ⟨_, _, _, answered⟩ := bind_ok.mp ran
    exact (pure_ok.mp answered).1.symm

end batch

/-- The operations of the records that are not known can be recorded. -/
structure Recordable (known : List String) (records : List (Env × SyncRecord)) (s : Store) : Prop where
  unrecorded : ∀ entry ∈ records, known.contains entry.2.clientRecordId = false →
    isRecorded s entry.2.clientRecordId = false
  apart : ((records.map fun entry => entry.2.clientRecordId).filter fun id => !known.contains id).Nodup
  oids : (records.map fun entry => entry.1.freshOid).Nodup
  fresh : ∀ entry ∈ records, ∀ op ∈ s.idempotencyOperations, op "_id" ≠ some (.oid entry.1.freshOid)

variable {known : List String}

/-- The records after the first can still be recorded. -/
theorem Recordable.rest {entry : Env × SyncRecord} {others : List (Env × SyncRecord)}
    {answer : RecordAnswer} (recordable : Recordable known (entry :: others) s)
    (answers : Answers s known entry.1 entry.2.normalized answer t) : Recordable known others t := by
  have apart := recordable.apart
  have oids := recordable.oids
  rw [List.map_cons, List.filter_cons] at apart
  rw [List.map_cons, List.nodup_cons] at oids
  have tail : ((others.map fun other => other.2.clientRecordId).filter fun id => !known.contains id).Nodup := by
    split at apart
    · exact (List.nodup_cons.mp apart).2
    · exact apart
  have unrecorded := fun other member => recordable.unrecorded other (List.mem_cons_of_mem _ member)
  have fresh := fun other member => recordable.fresh other (List.mem_cons_of_mem _ member)
  rcases answers.operations with same | ⟨isNew, grown⟩
  · refine ⟨fun other member isUnknown => ?_, tail, oids.2, ?_⟩
    · rw [isRecorded, same]
      exact unrecorded other member isUnknown
    · rw [same]
      exact fresh
  · change known.contains entry.2.clientRecordId = false at isNew
    rw [isNew] at apart
    have unseen := (List.nodup_cons.mp apart).1
    refine ⟨fun other member isUnknown => ?_, tail, oids.2, fun other member op listed => ?_⟩
    · rw [isRecorded, grown]
      refine @isRecorded_append s _ _ _ ?_ (unrecorded other member isUnknown)
      intro same
      apply unseen
      rw [← show other.2.clientRecordId = entry.2.clientRecordId from same]
      exact List.mem_filter.mpr ⟨List.mem_map.mpr ⟨other, member, rfl⟩, by rw [isUnknown]; rfl⟩
    · rw [grown] at listed
      rcases List.mem_append.mp listed with old | new
      · exact fresh other member op old
      · rw [List.mem_singleton.mp new]
        intro same
        apply oids.1
        have oid : entry.1.freshOid = other.1.freshOid := by
          simpa [operationOf] using same
        rw [oid]
        exact List.mem_map.mpr ⟨other, member, rfl⟩

/-- The answer to a record of a batch that began on `first`. -/
structure SyncAnswered (first : Store) (known : List String) (rackOwner : String → Option String)
    (user : User) (entry : Env × SyncRecord) (answer : RecordAnswer) : Prop where
  own : answer.clientRecordId = entry.2.clientRecordId
  recorded : known.contains entry.2.clientRecordId = true → answer = .ok entry.2.clientRecordId
  replayed : Replayable first rackOwner user entry.2.normalized → answer = .ok entry.2.clientRecordId

variable {rackOwner : String → Option String} {records : List (Env × SyncRecord)} {first : Store} {user : User}

/-- Every record of a batch gets its answer. -/
theorem syncRecords_answers (grown : Grows first s) (recordable : Recordable known records s) :
    ∃ answers t, (records.mapM fun entry => syncBatchRecord rackOwner user known entry.1 entry.2.normalized) s =
      .ok answers t ∧ List.Forall₂ (SyncAnswered first known rackOwner user) records answers := by
  induction records generalizing s with
  | nil => exact ⟨[], s, rfl, .nil⟩
  | cons entry others ih =>
    have unrecorded := recordable.unrecorded entry List.mem_cons_self
    obtain ⟨answer, t, ran, answers⟩ := @syncBatchRecord_answers s entry.1 rackOwner user known entry.2.normalized
      unrecorded (recordable.fresh entry List.mem_cons_self)
    obtain ⟨later, u, rest, each⟩ := ih (trans_of Grows grown answers.grows) (recordable.rest answers)
    refine ⟨answer :: later, u, ?_, .cons ⟨answers.own, fun isKnown => ?_, fun replayable => ?_⟩ each⟩
    · rw [List.mapM_cons, bind_then ran, bind_then rest]
      rfl
    · have known := @syncBatchRecord_known s entry.1 rackOwner user known entry.2.normalized isKnown
      rw [ran] at known
      cases known
      rfl
    · exact (replayable.grows grown).answered ran

theorem exists_of_forall₂ {R : α → β → Prop} {ys : List β} (each : List.Forall₂ R xs ys) {b : β}
    (member : b ∈ ys) : ∃ a ∈ xs, R a b := by
  induction each with
  | nil => cases member
  | @cons a _ _ _ related _ ih =>
    rcases List.mem_cons.mp member with rfl | behind
    · exact ⟨a, List.mem_cons_self, related⟩
    · obtain ⟨other, listed, relatedOther⟩ := ih behind
      exact ⟨other, List.mem_cons_of_mem _ listed, relatedOther⟩

/-- No two answers of a batch differ about a record that one of them accepts. -/
theorem SyncAnswered.agree {answers : List RecordAnswer}
    (apart : ((records.map fun entry => entry.2.clientRecordId).filter fun id => !known.contains id).Nodup)
    (each : List.Forall₂ (SyncAnswered first known rackOwner user) records answers) :
    answers.Pairwise fun a b => ∀ id, a = .ok id → b.clientRecordId = id → b = .ok id := by
  induction each with
  | nil => exact .nil
  | @cons entry answer others later answered rest ih =>
    rw [List.map_cons, List.filter_cons] at apart
    refine List.pairwise_cons.mpr ⟨fun other member id isOk sameId => ?_, ih ?_⟩
    · obtain ⟨entry', listed, answered'⟩ := exists_of_forall₂ rest member
      have sameRecord : entry'.2.clientRecordId = entry.2.clientRecordId := by
        rw [← answered'.own, sameId, ← answered.own, isOk]
        rfl
      cases isKnown : known.contains entry'.2.clientRecordId with
      | true => rw [answered'.recorded isKnown, ← answered'.own, sameId]
      | false =>
        rw [sameRecord] at isKnown
        rw [isKnown] at apart
        exact absurd (List.mem_filter.mpr ⟨List.mem_map.mpr ⟨entry', listed, sameRecord⟩, by rw [isKnown]; rfl⟩)
          (List.nodup_cons.mp apart).1
    · split at apart
      · exact (List.nodup_cons.mp apart).2
      · exact apart

theorem known_contains {ids : List String} (listed : id ∈ ids) :
    (knownOperations s ids).contains id = isRecorded s id := by
  rw [Bool.eq_iff_iff, List.contains_iff_mem, knownOperations, List.mem_filter, isRecorded]
  simp [listed]

section history

variable {h : SyncHistory}

theorem BatchFits.recordable (fits : BatchFits h rackOwner user records) :
    Recordable (knownOperations h.store (records.map fun entry => entry.2.clientRecordId)) records h.store := by
  have listed : ∀ entry ∈ records, entry.2.clientRecordId ∈ records.map fun entry => entry.2.clientRecordId :=
    fun entry member => List.mem_map.mpr ⟨entry, member, rfl⟩
  constructor
  · intro entry member isUnknown
    rw [← isUnknown, known_contains (listed entry member)]
  · have same : ∀ id ∈ records.map fun entry => entry.2.clientRecordId,
        (!(knownOperations h.store (records.map fun entry => entry.2.clientRecordId)).contains id) =
          !isRecorded h.store id := by
      intro id member
      rw [known_contains member]
    rw [List.filter_congr same]
    exact fits.apart
  · exact fits.fresh.1
  · exact fits.fresh.2

/-- A batch that fits tells its client the truth. -/
theorem BatchFits.faithful (fits : BatchFits h rackOwner user records) (left : Store) :
    BatchReport.Faithful { ids := records.map fun entry => entry.2.clientRecordId, accepted := h.accepted
                           answer := answerOf (syncBatch rackOwner user records) h.store, left := left } := by
  cases empty : records with
  | nil =>
    nofun
  | cons entry others =>
    rw [← empty]
    have recordable := fits.recordable
    obtain ⟨answers, t, ran, each⟩ :=
      syncRecords_answers (refl_of Grows h.store) recordable
    have whole : syncBatch rackOwner user records h.store = .ok answers t := by
      rw [syncBatch, bind_ok]
      refine ⟨(), h.store, reads_ok.mpr ⟨?_, rfl⟩, mapError_ok.mpr ?_⟩
      · rw [empty]
        rfl
      · rw [reads_pure_then]
        exact ran
    rw [answerOf, whole]
    refine ⟨?_, SyncAnswered.agree recordable.apart each⟩
    rw [List.forall₂_map_left_iff]
    refine ((List.forall₂_and_left records answers).mpr ⟨fun _ member => member, each⟩).imp ?_
    rintro entry answer ⟨member, answered⟩ accepted
    rcases fits.replays entry member accepted with recorded | replayable
    · apply answered.recorded
      rw [known_contains (List.mem_map.mpr ⟨entry, member, rfl⟩)]
      exact recorded
    · exact answered.replayed replayable

/-- A batch cut short keeps the keys too. -/
theorem keyedLines_syncBatchCut (lines : KeyedLines h.store) (current : Env × SyncRecord) :
    KeyedLines ((syncBatchCut rackOwner user records current).final h.store) := by
  unfold syncBatchCut
  refine final_reads_bind lines fun known _ => ?_
  refine final_bind_keep (final_syncRecords ofLines_keyedLines
    (fun entry _ => KeyedLines.recordKeeps entry.1 user entry.2.normalized) lines) fun _ s _ keyed => ?_
  split
  · exact keyed
  · refine final_bind_keep (final_validateRecord ofLines_keyedLines keyed) fun conflict t _ validated => ?_
    cases conflict with
    | some c => exact validated
    | none =>
      refine final_bind_keep (final_bind_keep ?_ fun _ _ _ kept => kept) fun _ _ _ kept => kept
      rw [final_attempt]
      exact final_syncRecordBody ofLines_keyedLines
        (KeyedLines.recordKeeps current.1 user current.2.normalized) validated

end history

/-- The lines stay apart, and every batch so far was answered as it should be. -/
structure Served (h : SyncHistory) : Prop where
  lines : KeyedLines h.store
  faithful : ∀ report ∈ h.reports, report.Faithful

/-- One event of the history; only a batch makes a report. -/
theorem Served.step {h : SyncHistory} (served : Served h) (event : SyncEvent)
    (meets : SyncMeets h event) : Served (h.step event) := by
  cases event with
  | batch rackOwner user records =>
    constructor
    · exact final_syncBatch ofLines_keyedLines
        (fun entry _ => KeyedLines.recordKeeps entry.1 user entry.2.normalized) served.lines
    · intro report member
      rcases List.mem_append.mp member with earlier | new
      · exact served.faithful report earlier
      · cases List.mem_singleton.mp new
        exact meets.faithful _
  | interrupted rackOwner user handled current =>
    exact ⟨keyedLines_syncBatchCut served.lines current, served.faithful⟩
  | expired kept | elsewhere others => exact ⟨served.lines.congr rfl, served.faithful⟩

/-- However often its records come again, a run of batches keeps one line for a record and answers
every record that was accepted before with ok, as long as an accepted record has its operation
recorded or reaches its own line. -/
theorem sync_exactly_once {s : Store} {last : SyncHistory} (keyed : KeyedLines s)
    (run : Reaches SyncHistory.step SyncMeets { store := s } last) : ExactlyOnce last := by
  have served : Served last := by
    refine run.invariant ⟨keyed, ?_⟩ fun h event served meets => served.step event meets
    intro report member
    cases member
  exact ⟨served.lines.single, served.faithful⟩

def offlineRecord : SyncRecord where
  clientRecordId := "R-1"
  sessionId := "S1"
  locationId := "W1"
  floorId := "F1"
  rackId := "R1"
  itemCode := "I1"
  verifiedQty := 10

def laterEnv : Env :=
  { sampleEnv with now := 2000, freshOid := "0123456789abcdef01234568", freshId := "line-later" }

/-- A line that was stored before the process ended. -/
def interruptedStore : Store :=
  { countingStore with countLines := [Doc.ofList [("_id", .oid "b1"), ("id", .str "line-1"),
      ("client_record_id", .str "R-1"), ("idempotency_key", .str "R-1"), ("session_id", .str "S1")]] }

def replayOf (env : Env) : SyncEvent := .batch (fun _ => none) counter [(env, offlineRecord)]

theorem sync_exactly_once_replayed :
    ExactlyOnce ([replayOf sampleEnv, replayOf laterEnv].foldl SyncHistory.step { store := interruptedStore }) := by
  have keyed : KeyedLines interruptedStore := by
    constructor
    · intro line member id record
      cases List.mem_singleton.mp member
      cases record
      rfl
    · exact List.pairwise_singleton _ _
  have first : SyncMeets { store := interruptedStore } (replayOf sampleEnv) := by
    refine ⟨by decide +kernel, ?_, ?_, ?_⟩
    · intro entry member _
      cases List.mem_singleton.mp member
      exact .inr ⟨by decide, by decide +kernel, rfl, by decide +kernel, by decide,
        ⟨_, rfl, by decide +kernel⟩, by decide +kernel, by decide⟩
    · exact List.nodup_singleton _
    · intro entry _ op member
      cases member
  have second : SyncMeets (SyncHistory.step { store := interruptedStore } (replayOf sampleEnv)) (replayOf laterEnv) := by
    have recorded :
        isRecorded (SyncHistory.step { store := interruptedStore } (replayOf sampleEnv)).store "R-1" = true := by
      decide +kernel
    refine ⟨by decide +kernel, ?_, List.nodup_singleton _, ?_⟩
    · intro entry member _
      cases List.mem_singleton.mp member
      exact .inl recorded
    · intro entry member
      cases List.mem_singleton.mp member
      decide +kernel
  exact sync_exactly_once keyed (.next _ (.next _ .start first) second)

/-- An accepted record that is not answered ok. -/
def BatchReport.refuses (report : BatchReport) : Bool :=
  match report.answer with
  | .ok answers => (report.ids.zip answers).any fun pair => report.accepted.contains pair.1 && pair.2 != .ok pair.1
  | .error _ => report.ids.any fun id => decide (2 ≤ report.ids.count id) && isRecorded report.left id

theorem BatchReport.refuses_faithful {report : BatchReport} (refused : report.refuses = true) : ¬ report.Faithful := by
  intro faithful
  unfold refuses at refused
  unfold Faithful at faithful
  cases answered : report.answer with
  | ok answers =>
    simp only [answered] at refused faithful
    obtain ⟨⟨id, answer⟩, member, differs⟩ := List.any_eq_true.mp refused
    rw [Bool.and_eq_true, List.contains_iff_mem] at differs
    have fine := List.forall₂_zip faithful.1 member differs.1
    simp [fine] at differs
  | error e =>
    simp only [answered] at refused faithful
    obtain ⟨id, member, recorded⟩ := List.any_eq_true.mp refused
    rw [Bool.and_eq_true, decide_eq_true_eq] at recorded
    rw [(faithful id member).2 recorded.1] at recorded
    cases recorded.2

def serialRecord : SyncRecord := { offlineRecord with verifiedQty := 1, serialNumbers := ["SN-1"] }

def twiceInOne : List SyncEvent :=
  [.batch (fun _ => none) counter [(sampleEnv, offlineRecord), (laterEnv, offlineRecord)]]

/-- A record with a serial comes again after its operation record expired. -/
def afterExpiry : List SyncEvent :=
  [.batch (fun _ => none) counter [(sampleEnv, serialRecord)], .expired fun _ => false,
    .batch (fun _ => none) counter [(laterEnv, serialRecord)]]

theorem sync_refuses_again : ¬ ExactlyOnce (twiceInOne.foldl SyncHistory.step { store := countingStore }) ∧
    ¬ ExactlyOnce (afterExpiry.foldl SyncHistory.step { store := countingStore }) := by
  have refused_unfaithful : ∀ h : SyncHistory, h.reports.any BatchReport.refuses = true → ¬ ExactlyOnce h := by
    intro h refuses once
    obtain ⟨report, member, refused⟩ := List.any_eq_true.mp refuses
    exact report.refuses_faithful refused (once.faithful report member)
  exact ⟨refused_unfaithful _ (by decide +kernel), refused_unfaithful _ (by decide +kernel)⟩

end StockVerification
