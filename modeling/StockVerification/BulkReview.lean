import StockVerification.CountStates

/-!
# Reviewing several lines at once

Source: backend/api/count_lines_routes.py:2274-2357 and 2444-2525, and
backend/services/count_lines/write_core.py:343-471.

The bulk routes check each line, store the logic pin of its session where there is none, and hand
the write core a `bulk_write`. The core carries such a write out, but first it asks whether it
supports the operation, and `bulk_write` is not among the operations it names there.
-/
namespace StockVerification

open Foundation Foundation.Action

inductive BulkDecision where
  | approve
  | reject

namespace BulkDecision

/-- The fields that the bulk routes set. -/
def fields (env : Env) (user : User) (notes : Option String) : BulkDecision → List (String × Value)
  | .approve => [("status", .str "approved"), ("approval_status", .str "APPROVED"),
      ("approved_by", .str user.username), ("approved_at", .date env.now), ("verified", .bool true),
      ("verified_by", .str user.username), ("verified_at", .date env.now), ("approval_note", optionalText notes)]
  | .reject => [("status", .str "rejected"), ("approval_status", .str "REJECTED"),
      ("rejected_by", .str user.username), ("rejected_at", .date env.now), ("verified", .bool false),
      ("rejection_reason", optionalText notes)]

/-- The text of every failure. -/
def failure : BulkDecision → String
  | .approve => "Failed to bulk approve count lines"
  | .reject => "Failed to bulk reject count lines"

/-- The decision on a single line. -/
def single (notes : Option String) : BulkDecision → ReviewDecision
  | .approve => .approve notes
  | .reject => .reject notes none

end BulkDecision

/-- The lines of a list of ids, at most as many as there are ids. -/
def bulkCandidates (s : Store) (ids : List String) : List Doc :=
  let objectIds := (ids.filter isObjectIdText).map fun id => Value.oid (Text.lower id)
  (s.countLines.filter (Filter.either (.isIn "id" (ids.map .str)) (.isIn "_id" objectIds)).holds).take
    (max ids.length 1)

variable (env : Env)

/-- The checks of every candidate, each of which may store the logic pin of a session. -/
def bulkGuards (ids : List String) : Request (List Doc) := do
  let candidates ← reads fun s => .ok (bulkCandidates s ids)
  candidates.forM fun line => do
    let _ ← reads (ensureCountLineMutable line)
    enforceLogicFromLine env line
  pure candidates

/-- The update of one candidate, for the version that was read. -/
def bulkUpdate (user : User) (notes : Option String) (decision : BulkDecision) (line : Doc) :
    Filter × Update :=
  (.both (.eq "_id" (line.get "_id")) (.eq "version" (line.get "version")),
    { set := Doc.ofList (decision.fields env user notes), inc := [("version", 1)] })

/-- The operations that `_process_write_core` names. -/
def supportedOperations : List String :=
  ["insert_one", "update_one", "update_many", "find_one_and_update", "delete_one", "delete_many"]

/-- One update of a `bulk_write`: whether a line was modified. -/
def executeBulkUpdate (update : Filter × Update) (s : Store) : Except Error (Nat × Store) := do
  let (touched, lines) ← liftFault (Collection.updateOne countLineIndexes update.1 update.2 s.countLines)
  pure (if touched.isSome then 1 else 0, s.withLines lines)

/-- `process_write` of a `bulk_write`, with its `modified_count`. -/
def processBulkWrite (updates : List (Filter × Update)) : Request Nat := do
  reads fun _ => require (supportedOperations.contains "bulk_write")
    (.value ("Unsupported count-line write operation: " ++ "bulk_write"))
  updates.foldlM (fun modified update => do
    let one ← transacts (executeBulkUpdate update)
    pure (modified + one)) 0

def bulkSessions (candidates : List Doc) : List String :=
  ((candidates.map fun line => (line.get "session_id").textOrEmpty).filter (· != "")).dedup

/-- `bulk_approve_count_lines` and `bulk_reject_count_lines`: how many lines were modified. -/
def bulkReview (user : User) (ids : List String) (notes : Option String) (decision : BulkDecision) :
    Request Nat := do
  reads fun _ => require user.isPrivileged (.http 403 "Insufficient permissions")
  mapError (fun _ => .http 500 decision.failure) do
    let candidates ← bulkGuards env ids
    let modified ← processBulkWrite (candidates.map (bulkUpdate env user notes decision))
    (bulkSessions candidates).forM (recomputeSessionTotals env)
    pure modified

/-- The lines that single operations approve or reject, one after another. -/
def reviewedInTurn (env : Env) (user : User) (notes : Option String) (decision : BulkDecision) :
    List String → Store → List String × Store
  | [], s => ([], s)
  | id :: rest, s =>
    match reviewCountLine env user id (decision.single notes) s with
    | .ok _ t => let (done, last) := reviewedInTurn env user notes decision rest t; (id :: done, last)
    | .error _ t => reviewedInTurn env user notes decision rest t

/-- How many lines an answer reports as done. -/
def reportedLines : EStateM.Result Error Store Nat → Nat
  | .ok modified _ => modified
  | .error _ _ => 0

/-- The bulk route leaves the store as the single operations do, and reports the lines for which
they succeed. -/
structure BulkEqualsOneByOne (env : Env) (user : User) (ids : List String) (notes : Option String)
    (decision : BulkDecision) (s : Store) : Prop where
  store : (bulkReview env user ids notes decision).final s = (reviewedInTurn env user notes decision ids s).2
  reports : reportedLines (bulkReview env user ids notes decision s) =
    (reviewedInTurn env user notes decision ids s).1.length

/-- What the bulk route does to the store before it writes: nothing for other users, and else its
guards. -/
def bulkPrepared (user : User) (ids : List String) (s : Store) : Store :=
  if user.isPrivileged then (bulkGuards env ids).final s else s

theorem processBulkWrite_refused (updates : List (Filter × Update)) (s : Store) :
    processBulkWrite updates s = .error (.value "Unsupported count-line write operation: bulk_write") s := by
  have unsupported : supportedOperations.contains "bulk_write" = false := by decide
  simp only [processBulkWrite, unsupported]
  rfl

/-- The bulk route is always refused, and writes no line. -/
theorem bulkReview_refused (user : User) (ids : List String) (notes : Option String)
    (decision : BulkDecision) (s : Store) :
    ∃ error, bulkReview env user ids notes decision s = .error error (bulkPrepared env user ids s) := by
  unfold bulkReview bulkPrepared
  cases privileged : user.isPrivileged with
  | false => exact ⟨_, rfl⟩
  | true =>
    refine ⟨.http 500 decision.failure, ?_⟩
    change mapError _ _ s = _
    unfold mapError
    simp only [bind, EStateM.bind, final, if_true]
    cases bulkGuards env ids s with
    | error error t => rfl
    | ok candidates t =>
      dsimp only
      rw [processBulkWrite_refused]

/-- The line's session has no pin yet and would be given one. -/
def storesPin (line : Doc) (s : Store) : Bool :=
  match env.logicPin, getMutableSession (line.get "session_id").textOrEmpty s with
  | .ok _, .ok session => (match extractStoredPin session with | .ok pinned => !pinned | .error _ => false) &&
      (sessionIdentifier session).isSome
  | _, _ => false

/-- The line or its session may not be changed, or the logic that the session asks for is
refused. -/
def guardsRefuse (line : Doc) (s : Store) : Bool :=
  !(ensureCountLineMutable line s).toBool || (line.get "session_id").textOrEmpty == "" || !env.logicPin.toBool ||
    match getMutableSession (line.get "session_id").textOrEmpty s with
    | .ok session => !(extractStoredPin session).toBool
    | .error _ => true

/-- The write core refuses the decided line: for its session, its place, or its fingerprint. -/
def checksRefuse (user : User) (notes : Option String) (decision : BulkDecision) (line : Doc)
    (s : Store) : Bool :=
  !(assertUpdateInvariants env (reviewContext line) (.eq "_id" (line.get "_id"))
    (.ofSet (Doc.ofList ((decision.single notes).fields env user line))) s).toBool

/-- No line that the ids name can be reviewed, and no session of theirs is given a pin. -/
structure NothingToReview (env : Env) (user : User) (ids : List String) (notes : Option String)
    (decision : BulkDecision) (s : Store) : Prop where
  pinned : ∀ line ∈ bulkCandidates s ids, storesPin env line s = false
  refused : ∀ id ∈ ids, ∀ line, findCountLine s id = some line →
    storesPin env line s = false ∧ (guardsRefuse env line s = true ∨ checksRefuse env user notes decision line s = true)

section

variable {env : Env} {user : User} {ids : List String} {notes : Option String}
  {decision : BulkDecision} {s : Store} {line : Doc}

/-- The request stops with an error and leaves the store as it was. -/
def Stops {α : Type} (x : Request α) (s : Store) : Prop := ∃ error, x s = .error error s

theorem Stops.bind {α β : Type} {x : Request α} {f : α → Request β} (same : x.final s = s)
    (rest : ∀ a, x s = .ok a s → Stops (f a) s) : Stops (x >>= f) s := by
  unfold final at same
  cases ran : x s with
  | ok a t =>
    rw [ran] at same
    subst same
    obtain ⟨error, stopped⟩ := rest a ran
    exact ⟨error, by simp only [Bind.bind, EStateM.bind, ran, stopped]⟩
  | error error t =>
    rw [ran] at same
    subst same
    exact ⟨error, by simp only [Bind.bind, EStateM.bind, ran]⟩

theorem enforceLogicFromLine_pinned (pinned : storesPin env line s = false) :
    (enforceLogicFromLine env line).final s = s := by
  refine final_reads_bind (P := fun t => t = s) rfl fun _ _ => ?_
  refine final_reads_bind (P := fun t => t = s) rfl fun session found => ?_
  unfold enforceSessionLogic
  cases logic : env.logicPin with
  | error refusal => rfl
  | ok pin =>
    refine final_reads_bind (P := fun t => t = s) rfl fun stored read => ?_
    cases stored with
    | true => rfl
    | false =>
      cases named : sessionIdentifier session with
      | none => rfl
      | some id => simp [storesPin, logic, found, read, named] at pinned

theorem bulkGuards_pinned (pinned : ∀ line ∈ bulkCandidates s ids, storesPin env line s = false) :
    (bulkGuards env ids).final s = s := by
  have each : ∀ lines : List Doc, (∀ line ∈ lines, storesPin env line s = false) →
      (lines.forM fun line => do
        let _ ← reads (ensureCountLineMutable line)
        enforceLogicFromLine env line).final s = s := by
    intro lines
    induction lines with
    | nil => exact fun _ => rfl
    | cons line rest ih =>
      intro kept
      refine final_bind_keep (P := fun t => t = s) ?_ fun _ t _ same => ?_
      · exact final_reads_bind (P := fun t => t = s) rfl fun _ _ => enforceLogicFromLine_pinned (kept line (by simp))
      · rw [same]
        exact ih fun line member => kept line (by simp [member])
  refine final_reads_bind (P := fun t => t = s) rfl fun candidates read => ?_
  cases read
  exact final_bind_keep (P := fun t => t = s) (each _ pinned) fun _ _ _ same => same

theorem openLineForReview_passes {id : String} {t : Store} (opened : openLineForReview env id s = .ok line t) :
    findCountLine s id = some line ∧ guardsRefuse env line s = false := by
  refine ⟨(openLineForReview_ok opened).1, ?_⟩
  simp only [openLineForReview, enforceLogicFromLine, bind_ok, reads_ok, pure_ok] at opened
  obtain ⟨_, _, ⟨_, rfl⟩, _, _, ⟨mutableLine, rfl⟩, _, _,
    ⟨_, _, ⟨named, rfl⟩, session, _, ⟨found, rfl⟩, enforced⟩, rfl, rfl⟩ := opened
  unfold enforceSessionLogic at enforced
  cases logic : env.logicPin with
  | error refusal =>
    rw [logic] at enforced
    cases enforced
  | ok pin =>
    rw [logic] at enforced
    obtain ⟨pinned, _, read, _⟩ := bind_ok.mp enforced
    have filled := require_ok.mp named
    simp only [guardsRefuse, mutableLine, logic, found, (reads_ok.mp read).1]
    simpa [Except.toBool] using filled

theorem processWrite_stops {ctx : WriteContext} {op : WriteOp}
    (refused : ∀ p, prepareWrite env ctx op s ≠ .ok p) : Stops (processWrite env ctx op) s := by
  cases prepared : prepareWrite env ctx op s with
  | ok p => exact absurd prepared (refused p)
  | error error =>
    have core : processWriteCore env s ctx op s = .error error s := by
      simp only [processWriteCore, reads, bind, EStateM.bind, prepared]
    refine ⟨error, ?_⟩
    simp only [processWrite, withStore, UnitOfWork.runCommitted, UnitOfWork.run, UnitOfWork.write,
      bind, EStateM.bind, core, UnitOfWork.settle]
    cases env.deployment <;> rfl

/-- The decision on a line that is refused stores nothing. -/
theorem reviewCountLine_stops {id : String} (refused : ∀ line, findCountLine s id = some line →
    storesPin env line s = false ∧
      (guardsRefuse env line s = true ∨ checksRefuse env user notes decision line s = true)) :
    Stops (reviewCountLine env user id (decision.single notes)) s := by
  have inner : ∀ (f : Error → Error) (x : Request Unit), Stops x s → Stops (x.mapError f) s := by
    rintro f x ⟨error, stopped⟩
    exact ⟨f error, by simp only [mapError, stopped]⟩
  have looks : ∀ {α : Type} (f : Store → Except Error α), (reads f).final s = s :=
    fun f => final_reads (P := fun t => t = s) rfl
  refine inner _ _ (Stops.bind (looks _) fun _ _ => Stops.bind ?_ fun line opened => ?_)
  · refine final_reads_bind (P := fun t => t = s) rfl fun line looked => ?_
    have found : findCountLine s id = some line := by
      revert looked
      cases findCountLine s id with
      | none => rintro ⟨⟩
      | some other => exact fun same => congrArg some (Except.ok.inj same)
    refine final_reads_bind (P := fun t => t = s) rfl fun _ _ => ?_
    exact final_bind_keep (P := fun t => t = s) (enforceLogicFromLine_pinned (refused line found).1) fun _ _ _ same => same
  · obtain ⟨found, passed⟩ := openLineForReview_passes opened
    have checked : checksRefuse env user notes decision line s = true :=
      (refused line found).2.resolve_left (by simp [passed])
    refine Stops.bind (looks _) fun _ _ => ?_
    have unprepared : ∀ p, prepareWrite env (reviewContext line) (.updateOne (.eq "_id" (line.get "_id"))
        (.ofSet (Doc.ofList ((decision.single notes).fields env user line)))) s ≠ .ok p := by
      intro p prepared
      obtain ⟨_, _, asserted, _⟩ := prepareWrite_ok prepared
      simp only [assertMandatoryWriteInvariants, map_success] at asserted
      obtain ⟨_, asserted, _⟩ := asserted
      simp [checksRefuse, asserted, Except.toBool] at checked
    obtain ⟨error, stopped⟩ := processWrite_stops unprepared
    exact ⟨error, by simp only [Bind.bind, EStateM.bind, stopped]⟩

theorem reviewedInTurn_stops (stops : ∀ id ∈ ids, Stops (reviewCountLine env user id (decision.single notes)) s) :
    reviewedInTurn env user notes decision ids s = ([], s) := by
  induction ids with
  | nil => rfl
  | cons id rest ih =>
    obtain ⟨error, stopped⟩ := stops id (by simp)
    rw [reviewedInTurn, stopped]
    exact ih fun other member => stops other (by simp [member])

end

/-- Whether an id is that of a line that may still be changed. -/
def isMutableId (s : Store) (id : String) : Bool :=
  match findCountLine s id with
  | some line => (ensureCountLineMutable line s).toBool
  | none => false

/-- Two records of one count, and a line whose session has a pin that cannot be read. -/
def unreviewableStore : Store where
  sessions := [session "a1" "s1" "v1", session "a2" "s2" "v9"]
  countLines := [line "c1" "line-1" "s1" [("semantic_hash", .str "s1|i1|f|r|5|1")],
    line "c2" "line-2" "s1" [], line "c3" "line-3" "s2" []]
where
  session (oid id version : String) : Doc := Doc.ofList [("_id", .oid oid), ("id", .str id), ("session_id", .str id),
    ("status", .str "ACTIVE"), ("logic_version", .str version), ("logic_scope_source", .str "global")]
  line (oid id sessionId : String) (more : List (String × Value)) : Doc := Doc.ofList (
    [("_id", .oid oid), ("id", .str id), ("session_id", .str sessionId), ("item_code", .str "i1"),
      ("location_id", .str "l"), ("floor_id", .str "f"), ("floor_no", .str "f"), ("rack_id", .str "r"),
      ("rack_no", .str "r"), ("counted_qty", .num 5), ("version", .num 1), ("status", .str "pending_approval"),
      ("approval_status", .str "NEEDS_REVIEW")] ++ more)

end StockVerification
