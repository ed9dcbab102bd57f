import StockVerification.LineMarks

/-!
# Completing a recount, exactly

Source: backend/api/recount_api.py:366-494 and
backend/services/count_lines/validation.py:265-405.

The successor of a recounted line is a copy of it, so it carries the key and the fingerprint of the
line, which the checks refuse while that line is stored. What else a completion needs is listed here
as conditions on the store before it.
-/
namespace StockVerification

open Foundation Foundation.Action

variable {s t : Store} {env : Env} {result : WriteResult} {line session : Doc} {sid field : String} {v : Value}

def completionLookup (recountId : String) (recount : Doc) : Filter :=
  if recount.get "_id" = .null then recountLookup recountId else .eq "_id" (recount.get "_id")

/-- A stored request that is still open, with the session of its line. -/
structure OpenRequest (s : Store) (recountId sid : String) (recount : Doc) : Prop where
  found : s.findRecount recountId = some recount
  pending : assertRecountTransition (normalizeRecountStatus (recount.get "status")) "completed" = .ok ()
  session : Text.strip (recount.get "session_id").textOrEmpty = "" ∨ Text.strip (recount.get "session_id").textOrEmpty = sid
  addressed : s.recountRequests.find? (completionLookup recountId recount).holds = some recount
  own : Collection.collision recountIndexes (s.recountRequests.eraseP (completionLookup recountId recount).holds)
    recount = none

variable {u m : Store} {user : User} {recountId id username counter : String}
  {recount successor new : Doc} {notes : Option String} {qty : ℚ} {place : RecountPlace}

/-- The fields that a completion sets on the request. -/
def completedFields (env : Env) (username : String) (notes : Option String) (qty : ℚ) : Doc :=
  ((Doc.ofList (completionFields env username notes (some qty))).set "status" (.str "completed")).setDefault
    "updated_at" (.date env.now)

theorem completedFields_other
    (other : field ∉ ["updated_at", "completed_at", "completed_by", "completion_notes", "result_qty", "status"]) :
    completedFields env username notes qty field = none := by
  simp only [List.mem_cons, List.not_mem_nil, or_false, not_or] at other
  rw [completedFields, Doc.setDefault_other _ _ other.1, Doc.set_other _ _ other.2.2.2.2.2]
  apply Doc.ofList_other
  unfold completionFields
  cases notes with
  | none => simp [other]
  | some text =>
    dsimp only
    split <;> simp [other]

theorem completedFields_status : completedFields env username notes qty "status" = some (.str "completed") := by
  rw [completedFields, Doc.setDefault_other _ _ (by decide), Doc.set_same]

def completedStore (env : Env) (username : String) (notes : Option String) (qty : ℚ)
    (recountId : String) (recount : Doc) (u : Store) : Store :=
  { u with
    recountRequests := Collection.replaceFirst (completionLookup recountId recount).holds
      (recount.update (completedFields env username notes qty)) u.recountRequests }

/-- An open request of an open session is completed. -/
theorem completion_made (env : Env) (username : String) (notes : Option String) (qty : ℚ)
    (openRequest : OpenRequest u recountId sid recount)
    (writable : ∃ session, ensureSessionNotFinalized sid u = .ok session) : ∃ v w,
    transitionRecountRequestCore env recountId "completed" (completionFields env username notes (some qty)) u = .ok v w ∧
      w.countLines = u.countLines ∧
      w.findRecount recountId = some (recount.update (completedFields env username notes qty)) := by
  have same : ∀ index ∈ recountIndexes,
      recount.update (completedFields env username notes qty) index.field = recount index.field := by
    intro index member
    rcases List.mem_pair.mp member with rfl | rfl <;> rw [Doc.update_apply, completedFields_other (by decide)] <;> rfl
  have free : Collection.collision recountIndexes (u.recountRequests.eraseP (completionLookup recountId recount).holds)
      (recount.update (completedFields env username notes qty)) = none := by
    rw [collision_congr same, openRequest.own]
  have guard : ensureRecountSessionOpen recount u = .ok () := by
    obtain ⟨session, ensured⟩ := writable
    unfold ensureRecountSessionOpen
    dsimp only
    rcases openRequest.session with blank | named
    · rw [if_pos blank]
      rfl
    · split
      · rfl
      · rw [named, ensured]
        rfl
  have updated := (updateOne_iff recountIndexes openRequest.addressed (Update.apply_ofSet
    (completedFields env username notes qty) recount) _ _).mpr ⟨free, rfl, rfl⟩
  have kept : (recountLookup recountId).holds (recount.update (completedFields env username notes qty)) = true := by
    have sought := List.find?_some openRequest.found
    have idSame := same { field := "id", sparse := false } (by decide)
    have objectSame := same { field := "_id" } (by decide)
    unfold recountLookup at sought ⊢
    split at sought
    · next isObjectId =>
      rw [if_pos isObjectId, holds_eq_congr objectSame]
      exact sought
    · next isId =>
      rw [if_neg isId, holds_eq_congr idSame]
      exact sought
  have found : (completedStore env username notes qty recountId recount u).findRecount recountId =
      some (recount.update (completedFields env username notes qty)) :=
    find_replaceFirst_both openRequest.addressed openRequest.found kept
  refine ⟨((completedStore env username notes qty recountId recount u).findRecount recountId).getD
    (recount.update (completedFields env username notes qty)),
    completedStore env username notes qty recountId recount u, ?_, rfl, found⟩
  have lookup : u.findRecount recountId = some recount := openRequest.found
  simp only [transitionRecountRequestCore, bind_ok, reads_ok, writes_ok, bind_success, liftFault_ok,
    pure_success, Prod.exists]
  exact ⟨recount, u, ⟨by rw [lookup], rfl⟩, (), u, ⟨openRequest.pending, rfl⟩, (), u, ⟨guard, rfl⟩, (), _,
    ⟨_, _, updated, rfl⟩, rfl, rfl⟩

/-- The original counter as the route reads it. -/
def originalCounterOf (recount line : Doc) : String :=
  Text.strip ((recount.get "original_counter").orElse
    ((line.get "counted_by").orElse (line.get "created_by"))).textOrEmpty

/-- A rejected line in force in a counting session, with an open request that the user may complete.
What identifies a document is its own, and new object ids are new. -/
structure OpenRecount (env : Env) (user : User) (recountId : String) (s : Store)
    (recount line session : Doc) (id sid : String) : Prop where
  request : OpenRequest s recountId sid recount
  entitled : assertMayComplete user (Text.strip user.username) recount = .ok ()
  blind : ((recount.get "blind_recount_required").truthy && !user.hasAuthority && originalCounterOf recount line != "" &&
    originalCounterOf recount line == Text.strip user.username) = false
  answered : recount.has "created_by" = true ∧ recount.has "item_name" = true
  names : recount "count_line_id" = some (.str id)
  stored : s.countLines.find? (Filter.eq "id" (.str id)).holds = some line
  lineId : line "id" = some (.str id) ∧ id ≠ ""
  replaced : s.countLines.find? (versionLookup id).holds = some line
  rejected : line.get "status" = .str "rejected"
  live : isSupersededCountLine line = false
  inSession : line "session_id" = some (.str sid)
  counted : line.has "counted_qty" = true
  objectId : s.countLines.find? (Filter.eq "_id" (line.get "_id")).holds = some line
  fresh : ∀ other ∈ s.countLines, other "_id" ≠ some (.oid env.freshOid)
  counting : CountingSession s sid session
  versioned : VersionedSession s sid session

/-- One line more, with the quantity, in place of the marked one, and the request completed. -/
structure Recounted (s t : Store) (recountId : String) (line : Doc) (id : String) (qty : ℚ) : Prop where
  lines : ∃ front back marked new, s.countLines = front ++ line :: back ∧
    t.countLines = front ++ marked :: back ++ [new] ∧ new "counted_qty" = some (.num qty) ∧
    new "previous_version_id" = some (.str id) ∧ marked "status" = some (.str "SUPERSEDED") ∧
    marked "superseded_by_version_id" = some (new.get "id")
  request : ∃ recount, t.findRecount recountId = some recount ∧ recount.get "status" = .str "completed"

/-- The completion answers, and the recount is stored. -/
def RecountCompletes (env : Env) (user : User) (recountId : String) (notes : Option String)
    (qty : ℚ) (s : Store) (line : Doc) (id : String) : Prop :=
  ∃ answer t, completeRecount env user recountId notes (some qty) s = .ok answer t ∧ Recounted s t recountId line id qty

/-- The recounted document passes the checks of a count, and the mark on the replaced line those of
a mark. -/
structure CountPasses (env : Env) (username : String) (s : Store) (sid : String)
    (line session successor : Doc) (hash : String) (e : Evaluation) : Prop where
  hashed : buildSemanticHash env successor = .ok hash
  unused : s.countLines.any (Filter.eq "semantic_hash" (.str hash)).holds = false
  evaluated : evaluateGovernanceForDocument s (insertContext username session)
    (successor.set "semantic_hash" (.str hash)) = .ok e
  valid : passesValidation env (s.withLines (s.countLines ++ [acceptedLine env (insertContext username session) s e]))
    (acceptedLine env (insertContext username session) s e) = true
  marked : ∃ markHash, MarkPasses env
    (insertedStore env s sid (acceptedLine env (insertContext username session) s e)) sid (line.get "_id") line
    (supersededFields env username successor) markHash

/-- The server keeps what is not committed, the line has neither key nor fingerprint to copy, it
says where it was counted and how often, and the recounted document passes. -/
structure RecountPasses (env : Env) (user : User) (s : Store) (sid : String)
    (recount line session : Doc) (qty : ℚ) : Prop where
  standalone : env.deployment = .standalone
  unkeyed : line.has "idempotency_key" = false
  unhashed : (line.get "semantic_hash").truthy = false
  passes : ∃ place successor hash e, recountPlace line session = .ok place ∧
    recountedLine env (Text.strip user.username) (originalCounterOf recount line) qty line place = .ok successor ∧
    CountPasses env (Text.strip user.username) s sid line session successor hash e

theorem recountPlace_ok (success : recountPlace line session = .ok place) :
    ∀ text ∈ [place.locationId, place.floorId, place.rackId], Text.strip text = text ∧ text ≠ "" := by
  simp only [recountPlace, bind_success, require_ok, pure_success, Bool.and_eq_true, bne_iff_ne, ne_eq] at success
  obtain ⟨_, ⟨⟨location, floor⟩, rack⟩, rfl⟩ := success
  intro text member
  rcases mem_three.mp member with rfl | rfl | rfl
  · exact ⟨Text.strip_strip _, location⟩
  · exact ⟨Text.strip_strip _, floor⟩
  · exact ⟨Text.strip_strip _, rack⟩

theorem intOrError_num (n default : Int) (zero : n = 0 → default = 0) : intOrError (.num n) default = .ok n := by
  unfold intOrError
  by_cases nothing : n = 0
  · rw [zero nothing, nothing]
    rfl
  · have truthy : (Value.num (n : ℚ)).truthy = true := by simpa [Value.truthy] using nothing
    have whole : (Value.num (n : ℚ)).integer = some n := by simp [Value.integer, truncate]
    rw [if_pos truthy, whole]

theorem recountedLine_place (built : recountedLine env username counter qty line place = .ok successor) :
    successor.get "location_id" = .str place.locationId ∧ successor.get "floor_id" = .str place.floorId ∧
      successor.get "rack_id" = .str place.rackId := by
  simp only [recountedLine, bind_success, pure_success] at built
  obtain ⟨_, _, _, _, rfl⟩ := built
  refine ⟨?_, ?_, ?_⟩
  · exact Doc.get_of_some (Doc.setAll_named _ (by simp))
  · exact Doc.get_of_some (Doc.setAll_named _ (by simp))
  · exact Doc.get_of_some (Doc.setAll_named _ (by simp))

theorem successor_placed (placed : recountPlace line session = .ok place)
    (built : recountedLine env username counter qty line place = .ok successor) : Placed successor := by
  obtain ⟨location, floor, rack⟩ := recountedLine_place built
  have filled := recountPlace_ok placed
  have one : ∀ text ∈ [place.locationId, place.floorId, place.rackId], Text.strip (Value.str text).textOrEmpty ≠ "" := by
    intro text member
    obtain ⟨stripped, nonblank⟩ := filled text member
    rwa [Value.textOrEmpty_str, stripped]
  intro field member
  rcases mem_three.mp member with rfl | rfl | rfl
  · rw [location]
    exact one _ (by simp)
  · rw [floor]
    exact one _ (by simp)
  · rw [rack]
    exact one _ (by simp)

theorem marked_placed (placed : Placed successor) : Placed (line.update (supersededFields env username successor)) := by
  intro field member
  have same : (line.update (supersededFields env username successor)).get field = successor.get field := by
    apply Doc.get_of_some
    rcases mem_three.mp member with rfl | rfl | rfl <;> simp [supersededFields]
  rw [same]
  exact placed field member

theorem sessionText (filled : sid ≠ "") (named : line "session_id" = some (.str sid))
    (other : Value) : ((line.get "session_id").orElse other).textOrEmpty = sid := by
  have truthy : (Value.str sid).truthy = true := by simpa using filled
  rw [Doc.get_of_some named, Value.orElse, if_pos truthy, Value.textOrEmpty_str]

theorem syncForSessions_recountRequests (env : Env) (ids : List String) (s : Store) :
    (syncForSessions env ids s).recountRequests = s.recountRequests := by
  obtain ⟨rows, eq⟩ := syncForSessions_eq env ids s
  rw [eq]

theorem OpenRequest.congr (openRequest : OpenRequest s recountId sid recount)
    (same : t.recountRequests = s.recountRequests) : OpenRequest t recountId sid recount := by
  refine ⟨?_, openRequest.pending, openRequest.session, ?_, ?_⟩
  · rw [Store.findRecount, same]
    exact openRequest.found
  · rw [same]
    exact openRequest.addressed
  · rw [same]
    exact openRequest.own

theorem CountingSession.congr (counting : CountingSession s sid session)
    (same : t.sessions = s.sessions) : CountingSession t sid session := by
  refine { counting with found := ?_ }
  rw [Store.findSession, same]
  exact counting.found

theorem VersionedSession.congr (versioned : VersionedSession s sid session)
    (same : t.sessions = s.sessions) : VersionedSession t sid session := by
  refine ⟨versioned.current, versioned.number, ?_⟩
  rw [same]
  exact versioned.own

/-- With new totals the session is as open as before. -/
theorem refreshed_writable (counting : CountingSession s sid session) (versioned : VersionedSession s sid session)
    {totals : SessionTotals} {after : Doc} (applied : (totalsUpdate env totals).apply session = some after)
    (sessions : m.sessions = Collection.replaceFirst (versionedLookup sid session).holds after s.sessions) :
    ∃ session', ensureSessionNotFinalized sid m = .ok session' := by
  obtain ⟨after', appliedTo, others⟩ := applied_totals env versioned totals
  rw [applied] at appliedTo
  cases appliedTo
  have kept : (sessionLookup sid).holds after = true := by
    have sought := List.find?_some counting.found
    simp only [sessionLookup, Filter.holds, Bool.or_eq_true] at sought ⊢
    rcases sought with byId | bySession
    · exact .inl ((holds_eq_congr (others "id" (by decide))).trans byId)
    · exact .inr ((holds_eq_congr (others "session_id" (by decide))).trans bySession)
  have found : m.findSession sid = some after := by
    rw [Store.findSession, sessions]
    exact find_replaceFirst_both (found_versioned counting versioned) counting.found kept
  have writable : isSessionClosedToWrites after = false := by
    rw [← counting.writable, isSessionClosedToWrites, isSessionClosedToWrites,
      Doc.get_congr (others "finalized_at" (by decide)), Doc.get_congr (others "status" (by decide))]
  refine ⟨after, ?_⟩
  rw [← require_then (show (!isSessionClosedToWrites after) = true by rw [writable]; rfl)
    (.governance finalizedMessage) after]
  simp only [ensureSessionNotFinalized, ensureSessionExists, found]
  rfl

/-- What a mark leaves: the marked line, the requests, and a session that is open. -/
theorem mark_effects {r : Store} {fields : Doc}
    (standalone : env.deployment = .standalone) (markable : Markable r sid session v line fields)
    (ran : processWriteCore env s (sessionContext username session) (.updateOne (.eq "_id" v) (.ofSet fields)) r =
      .ok result m) : ∃ hash,
      m.countLines = Collection.replaceFirst (Filter.eq "_id" v).holds (markedLine line fields hash) r.countLines ∧
      m.recountRequests = r.recountRequests ∧ ∃ session', ensureSessionNotFinalized sid m = .ok session' := by
  obtain ⟨hash, totals, after, _, _, applied, _, rfl⟩ := (mark_iff standalone markable).mp ran
  refine ⟨hash, ?_, ?_, ?_⟩
  · rw [syncForSessions_countLines]
    rfl
  · rw [syncForSessions_recountRequests]
    rfl
  · apply refreshed_writable markable.counting markable.versioned applied
    rw [syncForSessions_sessions]

theorem insertedStore_sessions (new : Doc) : (insertedStore env s sid new).sessions = s.sessions := by
  rw [insertedStore, syncForSessions_sessions]
  rfl

theorem insertedStore_requests (new : Doc) : (insertedStore env s sid new).recountRequests = s.recountRequests := by
  rw [insertedStore, syncForSessions_recountRequests]
  rfl

theorem not_recounted_self : ¬ Recounted s s recountId line id qty := by
  intro recounted
  obtain ⟨front, back, marked, new, before, after, _⟩ := recounted.lines
  have lengths := congrArg List.length (before.symm.trans after)
  simp only [List.length_append, List.length_cons, List.length_nil] at lengths
  omega

section

variable (openRecount : OpenRecount env user recountId s recount line session id sid)
include openRecount

theorem successor_progression (facts : RecountedLine env qty line successor) :
    assertVersionProgression s successor = .ok () := by
  obtain ⟨lineId, filled⟩ := openRecount.lineId
  have truthy : (Value.str id).truthy = true := by simpa using filled
  obtain ⟨old, read, version⟩ := facts.version
  have previous : successor.get "previous_version_id" = .str id := by
    rw [Doc.get_of_some facts.previous, Doc.get_of_some lineId, Value.orElse, if_pos truthy]
    rfl
  have incoming : intOrError (successor.get "version") 0 = .ok (old + 1) := by
    rw [Doc.get_of_some version]
    exact intOrError_num _ _ fun _ => rfl
  have found : s.countLines.find? (versionLookup (Value.str id).text).holds = some line := openRecount.replaced
  simp only [assertVersionProgression, previous, truthy, if_true, found, incoming, read,
    bind_success, require_ok, Except.ok.injEq]
  exact ⟨_, rfl, _, rfl, by simp⟩

/-- The block for an open recount: the place, the copy, two writes and the request. -/
theorem completeRecountBlock_iff {body : Doc} :
    completeRecountBlock env s user recountId notes qty s = .ok body u ↔
      ∃ place successor counted r marked m v, recountPlace line session = .ok place ∧
        recountedLine env (Text.strip user.username) (originalCounterOf recount line) qty line place = .ok successor ∧
        processWriteCore env s (insertContext (Text.strip user.username) session) (.insertOne successor) s =
          .ok counted r ∧
        processWriteCore env s (sessionContext (Text.strip user.username) session)
          (.updateOne (.eq "_id" (line.get "_id"))
            (.ofSet (supersededFields env (Text.strip user.username) successor))) r = .ok marked m ∧
        transitionRecountRequestCore env recountId "completed"
          (completionFields env (Text.strip user.username) notes (some qty)) m = .ok v u ∧ body = recount := by
  have foundRequest : findRecountOr404 recountId s = .ok recount := by
    rw [findRecountOr404, openRecount.request.found]
  have named : requiredField recount "count_line_id" = .ok (.str id) := by
    rw [requiredField, openRecount.names]
  have active : ensureSessionActive ((line.get "session_id").orElse (recount.get "session_id")).textOrEmpty s =
      .ok session := by
    rw [sessionText openRecount.counting.filled openRecount.inSession]
    exact (ensureSessionActive_iff openRecount.counting.filled).mpr openRecount.counting
  simp only [completeRecountBlock, bind_ok, reads_ok, pure_ok]
  constructor
  · rintro ⟨recount', _, ⟨sameRequest, rfl⟩, lineId, _, ⟨sameId, rfl⟩, line', _, ⟨sameLine, rfl⟩, _, _, ⟨_, rfl⟩,
      session', _, ⟨sameSession, rfl⟩, place, _, ⟨placed, rfl⟩, successor, _, ⟨built, rfl⟩, counted, r, inserted,
      marked, m, superseded, v, w, requested, rfl, rfl⟩
    cases Except.ok.inj (foundRequest.symm.trans sameRequest)
    cases Except.ok.inj (named.symm.trans sameId)
    rw [openRecount.stored] at sameLine
    cases sameLine
    cases Except.ok.inj (active.symm.trans sameSession)
    exact ⟨place, successor, counted, r, marked, m, v, placed, built, inserted, superseded, requested, rfl⟩
  · rintro ⟨place, successor, counted, r, marked, m, v, placed, built, inserted, superseded, requested, same⟩
    rw [same]
    refine ⟨recount, s, ⟨foundRequest, rfl⟩, .str id, s, ⟨named, rfl⟩, line, s, ⟨?_, rfl⟩, (), s, ⟨?_, rfl⟩, session, s,
      ⟨active, rfl⟩, place, s, ⟨placed, rfl⟩, successor, s, ⟨built, rfl⟩, counted, r, inserted, marked, m, superseded, v, u,
      requested, rfl, rfl⟩
    · rw [openRecount.stored]
    · rw [require_ok, Bool.not_eq_true']
      exact openRecount.blind

/-- The copy is inserted exactly if there is nothing to copy that identifies the line, and it passes
as a count. -/
theorem successor_inserted_iff (standalone : env.deployment = .standalone) (placed : recountPlace line session = .ok place)
    (built : recountedLine env (Text.strip user.username) (originalCounterOf recount line) qty line place = .ok successor)
    {counted : WriteResult} {r : Store} :
    processWriteCore env s (insertContext (Text.strip user.username) session) (.insertOne successor) s = .ok counted r ↔
      line.has "idempotency_key" = false ∧ (line.get "semantic_hash").truthy = false ∧ ∃ hash e,
        buildSemanticHash env successor = .ok hash ∧
        s.countLines.any (Filter.eq "semantic_hash" (.str hash)).holds = false ∧
        evaluateGovernanceForDocument s (insertContext (Text.strip user.username) session)
          (successor.set "semantic_hash" (.str hash)) = .ok e ∧
        passesValidation env (s.withLines (s.countLines ++
          [acceptedLine env (insertContext (Text.strip user.username) session) s e]))
          (acceptedLine env (insertContext (Text.strip user.username) session) s e) = true ∧
        counted =
          { after := some (acceptedLine env (insertContext (Text.strip user.username) session) s e), matched := 1 } ∧
        insertedStore env s sid (acceptedLine env (insertContext (Text.strip user.username) session) s e) = r := by
  have facts := recountedLine_ok built
  have stored : line ∈ s.countLines := List.mem_of_find?_eq_some openRecount.stored
  have copied : ∀ field, field ∉ recountedNames → field ≠ "_id" → successor field = line field := facts.other
  have named : successor "session_id" = some (.str sid) := by
    rw [copied _ (by decide) (by decide), openRecount.inSession]
  have counts : successor.has "counted_qty" = true := by
    rw [Doc.has, facts.counted]
    rfl
  have inserted : processWriteCore env s (insertContext (Text.strip user.username) session)
      (.insertOne successor) s = .ok counted r ↔ _ :=
    insert_iff standalone openRecount.counting named counts (successor_placed placed built) facts.noId
  have unhashedHash : (line.get "semantic_hash").truthy = false → ∀ hash, insertHash env successor = .ok hash ↔
      ∃ text, buildSemanticHash env successor = .ok text ∧ .str text = hash := by
    intro unhashed hash
    rw [insertHash, Doc.get_congr (copied "semantic_hash" (by decide) (by decide)), unhashed]
    exact map_success
  constructor
  · intro ran
    obtain ⟨p, t, prepared, executed, _⟩ := processWriteCore_ok ran
    have unhashed := recounted_unhashed stored facts ⟨p, counted, prepared, executed⟩
    obtain ⟨hash, e, accepted, free, valid, rfl, rfl⟩ := inserted.mp ran
    obtain ⟨text, hashed, rfl⟩ := (unhashedHash unhashed hash).mp accepted.hashed
    exact ⟨unkeyed_of_free accepted.evaluated stored (copied _ (by decide) (by decide)) free, unhashed, text, e, hashed,
      accepted.unused, accepted.evaluated, valid, rfl, rfl⟩
  · rintro ⟨unkeyed, unhashed, hash, e, hashed, unused, evaluated, valid, rfl, rfl⟩
    have bare : successor.has "idempotency_key" = false := by
      rw [Doc.has, copied _ (by decide) (by decide)]
      exact unkeyed
    refine inserted.mpr ⟨.str hash, e, ⟨?_, successor_progression openRecount facts,
      (unhashedHash unhashed _).mpr ⟨hash, hashed, rfl⟩, unused, evaluated⟩,
      accepted_free evaluated openRecount.fresh bare unused, valid, rfl, rfl⟩
    intro keyed
    rw [Doc.has, Option.isSome_eq_false_iff, Option.isNone_iff_eq_none] at bare
    rw [Doc.get, bare] at keyed
    cases keyed

theorem recounted_lines {hash : String}
    {fields : Doc} (lines : m.countLines = Collection.replaceFirst (Filter.eq "_id" (line.get "_id")).holds
      (markedLine line fields hash) (s.countLines ++ [new])) :
    ∃ front back, s.countLines = front ++ line :: back ∧
      m.countLines = front ++ markedLine line fields hash :: back ++ [new] := by
  obtain ⟨front, back, split, matched, before⟩ := Collection.find_split openRecount.objectId
  refine ⟨front, back, split, ?_⟩
  rw [lines, split, List.append_assoc, List.cons_append,
    Collection.replaceFirst_split matched before, List.append_assoc, List.cons_append]

/-- The route for an open recount: its block, in a unit of work that is left without a commit. -/
theorem completeRecount_iff {answer : Answer Unit} :
    completeRecount env user recountId notes (some qty) s = .ok answer t ↔
      ∃ u, completeRecountBlock env s user recountId notes qty s = .ok recount u ∧
        t = UnitOfWork.settle env.deployment ⟨s, u⟩ ∧ answer = { body := (), units := [⟨u, t⟩] } := by
  have foundRequest : findRecountOr404 recountId s = .ok recount := by
    rw [findRecountOr404, openRecount.request.found]
  have answered : ∀ field, recount.has field = true → ∃ v, requiredField recount field = .ok v := by
    intro field named
    rw [Doc.has, Option.isSome_iff_exists] at named
    obtain ⟨v, named⟩ := named
    exact ⟨v, by rw [requiredField, named]⟩
  obtain ⟨createdBy, hasCreatedBy⟩ := answered _ openRecount.answered.1
  obtain ⟨itemName, hasItemName⟩ := answered _ openRecount.answered.2
  have sameBody : ∀ {body u}, completeRecountBlock env s user recountId notes qty s = .ok body u → body = recount := by
    intro body u ran
    obtain ⟨_, _, _, _, _, _, _, _, _, _, _, _, same⟩ := (completeRecountBlock_iff openRecount).mp ran
    exact same
  simp only [completeRecount, mapError_ok, settleRecount, bind_ok, reads_ok, pure_ok, bind_success,
    Prod.exists, UnitOfWork.runObserved_write_ok, withStore_ok]
  constructor
  · rintro ⟨recount', _, ⟨sameRequest, rfl⟩, _, _, ⟨_, rfl⟩, settled, _,
      ⟨body, exit, _, ⟨u, ran, rfl, rfl⟩, rfl, rfl⟩, _, _, ⟨_, rfl⟩, same, last⟩
    have isRecount := sameBody ran
    rw [isRecount] at ran
    exact ⟨u, ran, last.symm, by rw [← same, ← last]⟩
  · rintro ⟨u, ran, rfl, rfl⟩
    exact ⟨recount, s, ⟨foundRequest, rfl⟩, (), s, ⟨openRecount.entitled, rfl⟩, _, _,
      ⟨recount, _, _, ⟨u, ran, rfl, rfl⟩, rfl, rfl⟩, (), _,
      ⟨⟨createdBy, hasCreatedBy, itemName, hasItemName, rfl⟩, rfl⟩, rfl, rfl⟩

theorem inserted_found (new : Doc) :
    (insertedStore env s sid new).countLines.find? (Filter.eq "_id" (line.get "_id")).holds = some line := by
  rw [insertedStore, syncForSessions_countLines]
  change (s.countLines ++ [new]).find? _ = some line
  rw [List.find?_append, openRecount.objectId]
  rfl

/-- With the copy inserted the line can be marked. -/
theorem OpenRecount.markable
    (placed : recountPlace line session = .ok place)
    (built : recountedLine env username counter qty line place = .ok successor) (new : Doc) :
    Markable (insertedStore env s sid new) sid session (line.get "_id") line (supersededFields env username successor) where
  counting := openRecount.counting.congr (insertedStore_sessions new)
  versioned := openRecount.versioned.congr (insertedStore_sessions new)
  found := inserted_found openRecount new
  named := openRecount.inSession
  counts := openRecount.counted
  uncounted := by simp [supersededFields]
  noId := by simp [supersededFields]
  placed := marked_placed (successor_placed placed built)

theorem passes_of_answer {answer : Answer Unit}
    (standalone : env.deployment = .standalone)
    (ran : completeRecount env user recountId notes (some qty) s = .ok answer t) :
    RecountPasses env user s sid recount line session qty := by
  obtain ⟨u, blockRan, _, _⟩ := (completeRecount_iff openRecount).mp ran
  obtain ⟨place, successor, counted, r, marked, m, v, placed, built, inserted, superseded, _⟩ :=
    (completeRecountBlock_iff openRecount).mp blockRan
  obtain ⟨unkeyed, unhashed, hash, e, hashed, unused, evaluated, valid, rfl, rfl⟩ :=
    (successor_inserted_iff openRecount standalone placed built).mp inserted
  obtain ⟨markHash, _, _, passes, _⟩ := (mark_iff standalone (openRecount.markable placed built _)).mp superseded
  exact ⟨standalone, unkeyed, unhashed, place, successor, hash, e, placed, built,
    hashed, unused, evaluated, valid, markHash, passes⟩

end

/-- Completing an open recount of a rejected line in a counting session works exactly if the server
keeps what is not committed, the line has neither key nor fingerprint, and the recounted document
passes. -/
theorem recount_completes_iff {env : Env} {user : User} {recountId id sid : String} {s : Store}
    {recount line session : Doc} (notes : Option String) (qty : ℚ)
    (openRecount : OpenRecount env user recountId s recount line session id sid) :
    RecountCompletes env user recountId notes qty s line id ↔
      RecountPasses env user s sid recount line session qty := by
  constructor
  · rintro ⟨answer, t, ran, recounted⟩
    cases deployed : env.deployment with
    | standalone => exact passes_of_answer openRecount deployed ran
    | transactional =>
      obtain ⟨u, _, left, _⟩ := (completeRecount_iff openRecount).mp ran
      rw [deployed] at left
      have unchanged : t = s := left
      rw [unchanged] at recounted
      exact absurd recounted not_recounted_self
  · rintro ⟨standalone, unkeyed, unhashed, place, successor, hash, e, placed, built, passes⟩
    have facts := recountedLine_ok built
    have inserted := (successor_inserted_iff openRecount standalone placed built).mpr ⟨unkeyed, unhashed, hash, e,
      passes.hashed, passes.unused, passes.evaluated, passes.valid, rfl, rfl⟩
    generalize isNew : acceptedLine env (insertContext (Text.strip user.username) session) s e = new at inserted
    obtain ⟨markHash, markPasses⟩ := passes.marked
    rw [isNew] at markPasses
    have markable := openRecount.markable placed built new
    obtain ⟨result, m, marked⟩ := @mark_made s _ _ _ _ _ _ _ _ _ standalone markable markPasses
    obtain ⟨hash', marks, keptRequests, openSession⟩ := mark_effects standalone markable marked
    have lines : m.countLines = Collection.replaceFirst (Filter.eq "_id" (line.get "_id")).holds
        (markedLine line (supersededFields env (Text.strip user.username) successor) hash') (s.countLines ++ [new]) := by
      rw [marks, insertedStore, syncForSessions_countLines]
      rfl
    have openRequest : OpenRequest m recountId sid recount :=
      openRecount.request.congr (keptRequests.trans (insertedStore_requests new))
    obtain ⟨v, w, requested, sameLines, completed⟩ :=
      completion_made env (Text.strip user.username) notes qty openRequest openSession
    have blockRan := (completeRecountBlock_iff openRecount).mpr ⟨place, successor, _, _, result, m,
      v, placed, built, inserted, marked, requested, rfl⟩
    have ran := (completeRecount_iff openRecount).mpr ⟨w, blockRan, rfl, rfl⟩
    have kept : UnitOfWork.settle env.deployment ⟨s, w⟩ = w := by rw [standalone]; rfl
    rw [kept] at ran
    refine ⟨_, w, ran, ?_, ?_⟩
    · obtain ⟨front, back, before, afterwards⟩ := recounted_lines openRecount lines
      have copied : ∀ field, field ∉ stampedFields → field ≠ "_id" → new field = successor field := by
        intro field other notId
        rw [← isNew]
        exact acceptedLine_field passes.evaluated other notId
      have set : ∀ field w, field ≠ "semantic_hash" →
          supersededFields env (Text.strip user.username) successor field = some w →
          markedLine line (supersededFields env (Text.strip user.username) successor) hash' field = some w := by
        intro field w notHash named
        rw [markedLine, Doc.update_apply, Doc.set_other _ _ notHash, named]
        rfl
      refine ⟨front, back, _, new, before, by rw [sameLines, afterwards], ?_, ?_, ?_, ?_⟩
      · rw [copied _ (by decide) (by decide), facts.counted]
      · have truthy : (Value.str id).truthy = true := by simpa using openRecount.lineId.2
        rw [copied _ (by decide) (by decide), facts.previous, Doc.get_of_some openRecount.lineId.1, Value.orElse,
          if_pos truthy]
        rfl
      · exact set _ _ (by decide) (by simp [supersededFields])
      · rw [Doc.get_congr (copied "id" (by decide) (by decide))]
        exact set _ _ (by decide) (by simp [supersededFields])
    · refine ⟨_, completed, ?_⟩
      apply Doc.get_of_some
      rw [Doc.update_apply, completedFields_status]
      rfl


/-- A rejected line of the counting session with its fingerprint, null if it has none. -/
def rejectedLine (hash : Value) : Doc :=
  Doc.ofList [("_id", .oid "b1"), ("id", .str "L1"), ("session_id", .str "S1"), ("item_code", .str "I1"),
    ("location_id", .str "W1"), ("floor_no", .str "F1"), ("floor_id", .str "F1"), ("rack_no", .str "R1"),
    ("rack_id", .str "R1"), ("counted_qty", .num 9), ("remark", .str "ok"), ("status", .str "rejected"),
    ("version", .num 1), ("semantic_hash", hash)]

def assignedRequest : Doc :=
  Doc.ofList [("_id", .oid "c1"), ("id", .str "R1"), ("count_line_id", .str "L1"), ("status", .str "assigned"),
    ("session_id", .str "S1"), ("created_by", .str "sudha"), ("item_name", .str "Bolt")]

def recountStore (hash : Value) : Store :=
  { countingStore with
    countLines := [rejectedLine hash]
    recountRequests := [assignedRequest] }

def countedSession : Doc :=
  Doc.ofList [("id", .str "S1"), ("session_id", .str "S1"), ("status", .str "ACTIVE"),
    ("version", .num 2), ("logic_version", .str "v1"), ("logic_scope_source", .str "global")]

def recounter : User := { username := "sudha", role := "supervisor" }

theorem rejectedLine_open (hash : Value) : OpenRecount standaloneEnv recounter "R1"
    (recountStore hash) assignedRequest
    (rejectedLine hash) countedSession "L1" "S1" where
  request :=
    { found := rfl
      pending := rfl
      session := .inr (by decide +kernel)
      addressed := rfl
      own := by rfl }
  entitled := by rfl
  blind := by rfl
  answered := by decide
  names := rfl
  stored := rfl
  lineId := ⟨rfl, by decide⟩
  replaced := rfl
  rejected := rfl
  live := by rfl
  inSession := rfl
  counted := rfl
  objectId := rfl
  fresh := by
    intro other member
    rw [List.mem_singleton.mp member]
    simp [rejectedLine, Doc.ofList, standaloneEnv, sampleEnv]
  counting :=
    { filled := by decide
      found := rfl
      writable := by decide +kernel
      active := by decide +kernel }
  versioned :=
    { current := by decide +kernel
      number := .inr ⟨2, rfl⟩
      own := by rfl }

/-- Without a fingerprint the recount is completed. -/
theorem recount_completes_unhashed :
    RecountCompletes standaloneEnv recounter "R1" none 11 (recountStore .null) (rejectedLine .null) "L1" := by
  obtain ⟨answer, t, ran⟩ := exists_ok (x := completeRecount standaloneEnv recounter "R1" none (some 11))
    (s := recountStore .null) (by decide +kernel)
  exact (recount_completes_iff none 11 (rejectedLine_open .null)).mpr (passes_of_answer (rejectedLine_open .null) rfl ran)

/-- The copied fingerprint of a line that was written with one refuses the recount. -/
theorem recount_duplicates_hash :
    ¬ ∀ {env : Env} {user : User} {recountId id sid : String} {s : Store} {recount line session : Doc}
      (notes : Option String) (qty : ℚ), OpenRecount env user recountId s recount line session id sid →
        RecountCompletes env user recountId notes qty s line id := by
  intro completes
  obtain ⟨answer, t, ran, _⟩ := completes none 11 (rejectedLine_open (.str "h9"))
  have passes := passes_of_answer (rejectedLine_open (.str "h9")) rfl ran
  exact absurd passes.unhashed (by decide)

end StockVerification
