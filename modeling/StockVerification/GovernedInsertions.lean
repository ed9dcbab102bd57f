import StockVerification.Durability
import StockVerification.RecountRuns

/-!
# Inserting a counted line, exactly

Source: backend/services/count_lines/write_core.py:343-471 and
backend/services/count_lines/validation.py:265-405.

What a document of a counting session has to pass to be stored as a line, on a server without
transactions.
-/
namespace StockVerification

open Foundation Foundation.Action

/-- The post-write validation of a line raises nothing, and in strict mode finds nothing. -/
def passesValidation (env : Env) (view : Store) (line : Doc) : Bool :=
  match validateCountLine view line with
  | .ok errors => !(env.strictValidation && !errors.isEmpty)
  | .error _ => false

variable {ctx : WriteContext} {s : Store} {env : Env} {result : WriteResult}

theorem processWriteCore_iff {committed u : Store} {op : WriteOp}
    (projects : ctx.skipProjectionSync = false) :
    processWriteCore env committed ctx op s = .ok result u ↔ ∃ p t w, prepareWrite env ctx op s = .ok p ∧
      executeCountLineOperation env p.op s = .ok (result, t) ∧
      runPostWriteValidation env committed ctx p.op result t = .ok () ∧
      refreshTotals env ctx p.versions t = .ok () w ∧ syncForSessions env (p.versions.map Prod.fst) w = u := by
  simp only [processWriteCore, syncProjections, projects, Bool.false_eq_true, if_false, bind_ok,
    reads_ok, transacts_ok, writes_ok, pure_ok, Except.ok.injEq]
  constructor
  · rintro ⟨p, _, ⟨prepared, rfl⟩, _, t, executed, _, _, ⟨validated, rfl⟩, _, w, refreshed, _, v, rfl, rfl, rfl⟩
    exact ⟨p, t, w, prepared, executed, validated, refreshed, rfl⟩
  · rintro ⟨p, t, w, prepared, executed, validated, refreshed, rfl⟩
    exact ⟨p, s, ⟨prepared, rfl⟩, result, t, executed, (), t, ⟨validated, rfl⟩, (), w, refreshed, (), _, rfl, rfl, rfl⟩

variable {t : Store}

theorem refreshTotals_skipped {versions : List (String × Nat)} {w : Store}
    (skips : ctx.skipSessionTotalsUpdate = true) : refreshTotals env ctx versions t = .ok () w ↔ w = t := by
  rw [refreshTotals, if_pos skips, pure_ok]
  exact ⟨fun same => same.2.symm, fun same => ⟨rfl, same.symm⟩⟩

variable {line : Doc}

theorem validated_iff {view : Store} : (do
      let errors ← validateCountLine view line
      require (!(env.strictValidation && !errors.isEmpty))
        (.governance ("Validation failed for count_line: " ++ String.intercalate "; " errors))) = .ok () ↔
    passesValidation env view line = true := by
  unfold passesValidation
  cases validateCountLine view line with
  | ok errors | error e => simp [bind, Except.bind]

theorem forM_single {α : Type} (f : α → Except Error Unit) (a : α) : [a].forM f = .ok () ↔ f a = .ok () := by
  have unfolded : [a].forM f = (f a).bind fun _ => .ok () := rfl
  rw [unfolded]
  cases f a with
  | ok u => exact ⟨fun _ => rfl, fun _ => rfl⟩
  | error e => exact Iff.rfl

theorem require_then {α : Type} {condition : Bool} (met : condition = true) (error : Error)
    (a : α) : (require condition error >>= fun _ => pure a) = .ok a := by
  rw [met]
  rfl

/-- A session that counts may be written to. -/
structure CountingSession (s : Store) (sid : String) (session : Doc) : Prop where
  filled : sid ≠ ""
  found : s.findSession sid = some session
  writable : isSessionClosedToWrites session = false
  active : normalizeSessionStatus (session.get "status") = "ACTIVE"

variable {sid : String} {session : Doc}

theorem ensureSessionActive_iff (filled : sid ≠ "") :
    ensureSessionActive sid s = .ok session ↔ CountingSession s sid session := by
  simp only [ensureSessionActive, ensureSessionNotFinalized, ensureSessionExists, bind_success,
    require_ok, pure_success, Bool.not_eq_true', beq_iff_eq]
  constructor
  · rintro ⟨_, ⟨found, present, _, writable, rfl⟩, _, active, rfl⟩
    split at present
    · next same =>
      cases present
      exact ⟨filled, same, writable, active⟩
    · cases present
  · rintro ⟨_, found, writable, active⟩
    exact ⟨session, ⟨session, by rw [found], (), writable, rfl⟩, (), active, rfl⟩

def Placed (document : Doc) : Prop :=
  ∀ field ∈ ["location_id", "floor_id", "rack_id"], Text.strip (document.get field).textOrEmpty ≠ ""

variable {v : Value}

theorem assertValidWrite_counting {document : Doc} (counting : CountingSession s sid session)
    (placed : Placed document) : assertValidWrite s (some session) v document .activeSession = .ok () := by
  have named : (["location_id", "floor_id", "rack_id"].filter fun field =>
      Text.strip (document.get field).textOrEmpty == "") = [] := by
    rw [List.filter_eq_nil_iff]
    intro field member blank
    exact placed field member (by simpa using blank)
  have unfolded : assertValidWrite s (some session) v document .activeSession = (do
      require (!isSessionClosedToWrites session) (.governance finalizedMessage)
      require (normalizeSessionStatus (session.get "status") == "ACTIVE")
        (.governance ("CRITICAL: Session must be ACTIVE for count-line writes (found " ++
          normalizeSessionStatus (session.get "status") ++ ")"))
      require (["location_id", "floor_id", "rack_id"].filter fun field =>
          Text.strip (document.get field).textOrEmpty == "").isEmpty
        (.governance ("CRITICAL: Missing required context fields: " ++
          String.intercalate ", " (["location_id", "floor_id", "rack_id"].filter fun field =>
            Text.strip (document.get field).textOrEmpty == "")))) := rfl
  rw [unfolded, named, counting.writable, counting.active]
  rfl

theorem captured_single (any : ctx.expectedSessionVersion = none) (found : s.findSession sid = some session) :
    captureSessionVersions ctx [sid] s = .ok [(sid, coerceVersion (session.get "version"))] := by
  simp only [captureSessionVersions, List.mapM_cons, List.mapM_nil, found, any]
  rfl

def insertContext (username : String) (session : Doc) : WriteContext :=
  { sessionContext username session with skipSessionTotalsUpdate := true }

/-- The line that is stored for an evaluated document. -/
def acceptedLine (env : Env) (ctx : WriteContext) (s : Store) (e : Evaluation) : Doc :=
  (finalLine env ctx s e).set "_id" (.oid env.freshOid)

/-- What the checks of an insert ask of a document that names a counting session. -/
structure InsertAccepted (env : Env) (ctx : WriteContext) (s : Store) (sid : String)
    (document : Doc) (hash : Value) (e : Evaluation) : Prop where
  key : (document.get "idempotency_key").truthy = true → s.countLines.any (Filter.both
    (.eq "session_id" (.str sid)) (.eq "idempotency_key" (document.get "idempotency_key"))).holds = false
  progression : assertVersionProgression s document = .ok ()
  hashed : insertHash env document = .ok hash
  unused : s.countLines.any (Filter.eq "semantic_hash" hash).holds = false
  evaluated : evaluateGovernanceForDocument s ctx (document.set "semantic_hash" hash) = .ok e

variable {field : String}

section

variable {username : String} {document : Doc}

theorem finalLine_field {hash : Value} {e : Evaluation}
    (evaluated : evaluateGovernanceForDocument s ctx (document.set "semantic_hash" hash) = .ok e)
    (other : field ∉ stampedFields) : finalLine env ctx s e field = document field := by
  obtain ⟨_, _, _, _, stamped, _⟩ := evaluateGovernanceForDocument_ok evaluated
  simp only [stampedFields, List.mem_append, List.mem_cons, List.not_mem_nil, or_false, not_or] at other
  obtain ⟨⟨notHash, notQty, notBaseline⟩, free⟩ := other
  rw [finalLine, applyAuthoritativeFields_other free,
    stampBaseline_other stamped notQty notBaseline, Doc.set_other _ _ notHash]

theorem collected_insert (named : document "session_id" = some (.str sid)) (filled : sid ≠ "") :
    collectSessionIds (insertContext username session) (.insertOne document) s = [sid] := by
  have truthy : (Value.str sid).truthy = true := by simpa using filled
  have stated : statedSessionIds (insertContext username session) (.insertOne document) = [sid] := by
    simp only [statedSessionIds, insertContext, sessionContext, sessionIdOf, Doc.get_of_some named, truthy]
    rfl
  unfold collectSessionIds
  rw [stated]
  simp [sortedTexts]

theorem prepareWrite_insert_iff {p : Prepared} (counting : CountingSession s sid session)
    (named : document "session_id" = some (.str sid)) (counts : document.has "counted_qty" = true)
    (placed : Placed document) :
    prepareWrite env (insertContext username session) (.insertOne document) s = .ok p ↔
      ∃ hash e, InsertAccepted env (insertContext username session) s sid document hash e ∧
        p = { op := .insertOne (finalLine env (insertContext username session) s e)
              versions := [(sid, coerceVersion (session.get "version"))] } := by
  have sessionId : (document.get "session_id").orElse (insertContext username session).sessionId = .str sid := by
    have truthy : (Value.str sid).truthy = true := by simpa using counting.filled
    rw [Doc.get_of_some named, Value.orElse, if_pos truthy]
  have truthy : (Value.str sid).truthy = true := by simpa using counting.filled
  have placedHashed : ∀ hash, Placed (document.set "semantic_hash" hash) := by
    intro hash field member
    rw [Doc.get_congr (Doc.set_other document hash (by rintro rfl; revert member; decide))]
    exact placed field member
  have countsHashed : ∀ hash, (document.set "semantic_hash" hash).has "counted_qty" = true := by
    intro hash
    rw [Doc.has, Doc.set_other document hash (by decide)]
    exact counts
  have asserted : ∀ checked, assertInsertInvariants env (insertContext username session) document s = .ok checked ↔
      (!((document.get "idempotency_key").truthy && s.countLines.any (Filter.both
        (.eq "session_id" (.str sid)) (.eq "idempotency_key" (document.get "idempotency_key"))).holds)) = true ∧
      assertVersionProgression s document = .ok () ∧ ∃ hash, insertHash env document = .ok hash ∧
        (!s.countLines.any (Filter.eq "semantic_hash" hash).holds) = true ∧
        checked = document.set "semantic_hash" hash := by
    intro checked
    simp only [assertInsertInvariants, sessionId, truthy, Bool.true_and, bind_success, require_ok, pure_success]
    constructor
    · rintro ⟨_, free, _, progression, hash, hashed, _, unused, _, _, rfl⟩
      exact ⟨free, progression, hash, hashed, unused, rfl⟩
    · rintro ⟨free, progression, hash, hashed, unused, rfl⟩
      exact ⟨(), free, (), progression, hash, hashed, (), unused, (),
        assertValidWrite_counting counting (placedHashed hash), rfl⟩
  have enforced : ∀ hash op, enforceVariance env (insertContext username session)
      (.insertOne (document.set "semantic_hash" hash)) s = .ok op ↔
      ∃ e, evaluateGovernanceForDocument s (insertContext username session) (document.set "semantic_hash" hash) =
        .ok e ∧ op = .insertOne (finalLine env (insertContext username session) s e) := by
    intro hash op
    simp only [enforceVariance, countsHashed hash, if_true, bind_success, pure_success]
    simp only [finalLine, eq_comm]
  have captured : ∀ hash e, evaluateGovernanceForDocument s (insertContext username session)
      (document.set "semantic_hash" hash) = .ok e →
      captureSessionVersions (insertContext username session) (collectSessionIds (insertContext username session)
        (.insertOne (finalLine env (insertContext username session) s e)) s) s =
        .ok [(sid, coerceVersion (session.get "version"))] := by
    intro hash e evaluated
    rw [collected_insert _ counting.filled, captured_single rfl counting.found]
    rw [finalLine_field evaluated (by decide), named]
  constructor
  · intro prepared
    obtain ⟨checked, moved, passed, transitioned, enforcedOp, capturedVersions⟩ := prepareWrite_ok prepared
    simp only [assertMandatoryWriteInvariants, map_success] at passed
    obtain ⟨_, passed, rfl⟩ := passed
    obtain ⟨free, progression, hash, hashed, unused, rfl⟩ := (asserted _).mp passed
    rw [applyStateTransition_insert transitioned] at enforcedOp
    obtain ⟨e, evaluated, opEq⟩ := (enforced hash _).mp enforcedOp
    rw [opEq, captured hash e evaluated] at capturedVersions
    refine ⟨hash, e, ⟨?_, progression, hashed, by simpa using unused, evaluated⟩, ?_⟩
    · intro keyed
      simpa [keyed] using free
    · have versions := Except.ok.inj capturedVersions
      cases p
      cases opEq
      cases versions
      rfl
  · rintro ⟨hash, e, accepted, rfl⟩
    have passed : assertInsertInvariants env (insertContext username session) document s =
        .ok (document.set "semantic_hash" hash) := by
      refine (asserted _).mpr ⟨?_, accepted.progression, hash, accepted.hashed, by simp [accepted.unused], rfl⟩
      by_cases keyed : (document.get "idempotency_key").truthy = true
      · simp [accepted.key keyed]
      · simp [keyed]
    simp only [prepareWrite, bind_success, require_ok, pure_success]
    refine ⟨(), rfl, (), rfl, .insertOne (document.set "semantic_hash" hash), ?_, _, rfl, _,
      (enforced hash _).mpr ⟨e, accepted.evaluated, rfl⟩, _, captured hash e accepted.evaluated, rfl⟩
    rw [assertMandatoryWriteInvariants, passed]
    rfl

/-- An insert of a document without an object id is executed if its entries in the indexes are
free. -/
theorem execute_insert_iff {final : Doc} (noId : final "_id" = none) :
    executeCountLineOperation env (.insertOne final) s = .ok (result, t) ↔
      Collection.collision countLineIndexes s.countLines (final.set "_id" (.oid env.freshOid)) = none ∧
        result = { after := some (final.set "_id" (.oid env.freshOid)), matched := 1 } ∧
        t = s.withLines (s.countLines ++ [final.set "_id" (.oid env.freshOid)]) := by
  have absent : final.has "_id" = false := by rw [Doc.has, noId, Option.isSome_none]
  have run : executeOnLines env (.insertOne final) s.countLines =
      ((Collection.insertOne countLineIndexes (final.set "_id" (.oid env.freshOid)) s.countLines).map fun lines =>
        ({ after := some (final.set "_id" (.oid env.freshOid)), matched := 1 }, lines)) := by
    simp only [executeOnLines, saveCountLine, absent, Bool.false_eq_true, if_false]
    cases Collection.insertOne countLineIndexes (final.set "_id" (.oid env.freshOid)) s.countLines with
    | ok lines => rfl
    | error fault => rfl
  simp only [executeCountLineOperation, run, bind_success, liftFault_ok, map_success, pure_success, Prod.mk.injEq]
  constructor
  · rintro ⟨_, ⟨lines, inserted, rfl⟩, rfl, rfl⟩
    obtain ⟨free, rfl⟩ := Collection.insertOne_ok inserted
    exact ⟨free, rfl, rfl⟩
  · rintro ⟨free, rfl, rfl⟩
    refine ⟨_, ⟨s.countLines ++ [final.set "_id" (.oid env.freshOid)], ?_, rfl⟩, rfl, rfl⟩
    rw [Collection.insertOne, free]

def insertedStore (env : Env) (s : Store) (sid : String) (line : Doc) : Store :=
  syncForSessions env [sid] (s.withLines (s.countLines ++ [line]))

/-- The governed insert on a server without transactions, exactly. -/
theorem insert_iff {u : Store} (standalone : env.deployment = .standalone)
    (counting : CountingSession s sid session) (named : document "session_id" = some (.str sid))
    (counts : document.has "counted_qty" = true) (placed : Placed document) (noId : document "_id" = none) :
    processWriteCore env s (insertContext username session) (.insertOne document) s = .ok result u ↔
      ∃ hash e, InsertAccepted env (insertContext username session) s sid document hash e ∧
        Collection.collision countLineIndexes s.countLines
          (acceptedLine env (insertContext username session) s e) = none ∧
        passesValidation env (s.withLines (s.countLines ++ [acceptedLine env (insertContext username session) s e]))
          (acceptedLine env (insertContext username session) s e) = true ∧
        result = { after := some (acceptedLine env (insertContext username session) s e), matched := 1 } ∧
        insertedStore env s sid (acceptedLine env (insertContext username session) s e) = u := by
  have noObjectId : ∀ hash e, evaluateGovernanceForDocument s (insertContext username session)
      (document.set "semantic_hash" hash) = .ok e → finalLine env (insertContext username session) s e "_id" = none :=
    fun hash e evaluated => (finalLine_field evaluated (by decide)).trans noId
  have validation : ∀ final line t, runPostWriteValidation env s (insertContext username session) (.insertOne final)
      { after := some line, matched := 1 } t = .ok () ↔ passesValidation env t line = true := by
    intro final line t
    simp only [runPostWriteValidation, insertContext, sessionContext, standalone, Bool.false_eq_true, if_false]
    rw [← validated_iff]
    exact forM_single _ line
  rw [processWriteCore_iff rfl]
  constructor
  · rintro ⟨p, t, w, prepared, executed, validated, refreshed, rfl⟩
    obtain ⟨hash, e, accepted, rfl⟩ := (prepareWrite_insert_iff counting named counts placed).mp prepared
    obtain ⟨free, rfl, rfl⟩ := (execute_insert_iff (noObjectId hash e accepted.evaluated)).mp executed
    rw [(refreshTotals_skipped rfl).mp refreshed]
    exact ⟨hash, e, accepted, free, (validation _ _ _).mp validated, rfl, rfl⟩
  · rintro ⟨hash, e, accepted, free, valid, rfl, rfl⟩
    refine ⟨_, _, _, (prepareWrite_insert_iff counting named counts placed).mpr ⟨hash, e, accepted, rfl⟩,
      (execute_insert_iff (noObjectId hash e accepted.evaluated)).mpr ⟨free, rfl, rfl⟩, (validation _ _ _).mpr valid,
      (refreshTotals_skipped rfl).mpr rfl, rfl⟩

end

theorem holds_eq_of_entry {d : Doc} (entry : d field = some v) :
    (Filter.eq field v).holds d = true := by
  simp only [Filter.holds, Filter.fieldIs, entry]
  cases v <;> simp

section

variable {document : Doc} {hash : Value} {e : Evaluation}
  (evaluated : evaluateGovernanceForDocument s ctx (document.set "semantic_hash" hash) = .ok e)
include evaluated

theorem acceptedLine_field (other : field ∉ stampedFields) (notId : field ≠ "_id") :
    acceptedLine env ctx s e field = document field := by
  rw [acceptedLine, Doc.set_other _ _ notId]
  exact finalLine_field evaluated other

theorem acceptedLine_hash : acceptedLine env ctx s e "semantic_hash" = some hash := by
  obtain ⟨_, _, _, _, stamped, _⟩ := evaluateGovernanceForDocument_ok evaluated
  rw [acceptedLine, Doc.set_other _ _ (by decide), finalLine, applyAuthoritativeFields_other (by decide),
    stampBaseline_other stamped (by decide) (by decide), Doc.set_same]

/-- The entries of the new line are free if the document has no key and its fingerprint is
unused. -/
theorem accepted_free (fresh : ∀ other ∈ s.countLines, other "_id" ≠ some (.oid env.freshOid))
    (unkeyed : document.has "idempotency_key" = false)
    (unused : s.countLines.any (Filter.eq "semantic_hash" hash).holds = false) :
    Collection.collision countLineIndexes s.countLines (acceptedLine env ctx s e) = none := by
  have objectId : acceptedLine env ctx s e "_id" = some (.oid env.freshOid) := Doc.set_same _ _ _
  have key : acceptedLine env ctx s e "idempotency_key" = document "idempotency_key" :=
    acceptedLine_field evaluated (by decide) (by decide)
  have fingerprint : acceptedLine env ctx s e "semantic_hash" = some hash := acceptedLine_hash evaluated
  rw [Collection.collision, List.find?_eq_none]
  intro index member collides
  obtain ⟨other, stored, entry⟩ := List.any_eq_true.mp collides
  rcases mem_three.mp member with rfl | rfl | rfl
  · simp only [Collection.sameEntry, if_true, Bool.and_eq_true, beq_iff_eq, objectId] at entry
    exact fresh other stored entry.2
  · simp only [Collection.sameEntry, if_true, Bool.and_eq_true, Doc.has, key] at entry
    rw [Doc.has] at unkeyed
    rw [unkeyed] at entry
    cases entry.1
  · simp only [Collection.sameEntry, if_true, Bool.and_eq_true, beq_iff_eq, fingerprint] at entry
    exact Bool.false_ne_true (unused.symm.trans (List.any_eq_true.mpr ⟨other, stored, holds_eq_of_entry entry.2⟩))

theorem unkeyed_of_free (stored : line ∈ s.countLines) (copied : document "idempotency_key" = line "idempotency_key")
    (free : Collection.collision countLineIndexes s.countLines (acceptedLine env ctx s e) = none) :
    line.has "idempotency_key" = false := by
  have key : acceptedLine env ctx s e "idempotency_key" = line "idempotency_key" :=
    (acceptedLine_field evaluated (by decide) (by decide)).trans copied
  rw [Collection.collision, List.find?_eq_none] at free
  rw [← Bool.not_eq_true]
  intro keyed
  apply free { field := "idempotency_key" } (by decide)
  refine List.any_eq_true.mpr ⟨line, stored, ?_⟩
  rw [Doc.has] at keyed
  simp only [Collection.sameEntry, if_true, Bool.and_eq_true, beq_iff_eq, Doc.has, key]
  exact ⟨keyed, trivial⟩

end

end StockVerification
