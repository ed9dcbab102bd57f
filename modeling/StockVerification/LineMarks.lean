import StockVerification.GovernedInsertions

/-!
# Marking a line, exactly

Source: backend/services/count_lines/write_core.py:343-471,
backend/services/count_lines/validation.py:265-405 and
backend/services/session_lifecycle_service.py:116-142, 449-492.

An update of a stored line that leaves its quantity as it is, and the new totals of its session.
-/
namespace StockVerification

open Foundation Foundation.Action

variable {s t : Store} {env : Env} {ctx : WriteContext} {result : WriteResult} {line session : Doc}
  {sid field : String} {v : Value}

section

variable {p q : Doc → Bool} {docs : List Doc} {old new : Doc}

section

variable (found : docs.find? p = some old) (sought : docs.find? q = some old)
include found sought

/-- Two searches that answer the same document find it in the same place. -/
theorem find_split_both : ∃ front back, docs = front ++ old :: back ∧ ∀ d ∈ front, p d = false ∧ q d = false := by
  have matched := List.find?_some found
  induction docs with
  | nil => cases found
  | cons d rest ih =>
    rw [List.find?_cons] at found sought
    cases first : p d with
    | true =>
      rw [first] at found
      cases found
      exact ⟨[], rest, rfl, by simp⟩
    | false =>
      cases second : q d with
      | true =>
        rw [second] at sought
        cases sought
        rw [first] at matched
        cases matched
      | false =>
        rw [first] at found
        rw [second] at sought
        obtain ⟨front, back, rfl, before⟩ := ih found sought
        refine ⟨d :: front, back, rfl, ?_⟩
        intro x member
        rcases List.mem_cons.mp member with rfl | later
        · exact ⟨first, second⟩
        · exact before x later

theorem find_replaceFirst_both (kept : q new = true) : (Collection.replaceFirst p new docs).find? q = some new := by
  obtain ⟨front, back, rfl, before⟩ := find_split_both found sought
  have nobody : front.find? q = none := by
    rw [List.find?_eq_none]
    intro d member
    simp [(before d member).2]
  rw [Collection.replaceFirst_split (List.find?_some found) fun d member => (before d member).1,
    List.find?_append, nobody, Option.none_or, List.find?_cons_of_pos kept]

theorem eraseP_eq_of_find : docs.eraseP p = docs.eraseP q := by
  have matched := List.find?_some found
  have alsoMatched := List.find?_some sought
  obtain ⟨front, back, rfl, before⟩ := find_split_both found sought
  rw [List.eraseP_append_right _ fun d member => by simp [(before d member).1], List.eraseP_append_right _ fun d member
    => by simp [(before d member).2], List.eraseP_cons_of_pos matched, List.eraseP_cons_of_pos alsoMatched]

end

end

theorem collision_congr {indexed : List UniqueIndex} {docs : List Doc} {a b : Doc}
    (same : ∀ index ∈ indexed, a index.field = b index.field) :
    Collection.collision indexed docs a = Collection.collision indexed docs b := by
  unfold Collection.collision
  induction indexed with
  | nil => rfl
  | cons index rest ih =>
    have entries : Collection.sameEntry index a = Collection.sameEntry index b := by
      funext stored
      have field := same index (by simp)
      simp only [Collection.sameEntry, Doc.has, Doc.get, field]
    rw [List.find?_cons, List.find?_cons, entries, ih fun index member => same index (by simp [member])]

theorem updateOne_iff (indexed : List UniqueIndex) {f : Filter} {u : Update} {docs : List Doc}
    {old new : Doc} (found : docs.find? f.holds = some old) (applied : u.apply old = some new)
    (answer : Option (Doc × Doc)) (after : List Doc) :
    Collection.updateOne indexed f u docs = .ok (answer, after) ↔
      Collection.collision indexed (docs.eraseP f.holds) new = none ∧ answer = some (old, new) ∧
        after = Collection.replaceFirst f.holds new docs := by
  simp only [Collection.updateOne, found, applied]
  cases Collection.collision indexed (docs.eraseP f.holds) new with
  | none =>
    simp only [Except.ok.injEq, Prod.mk.injEq, true_and]
    exact ⟨fun same => ⟨same.1.symm, same.2.symm⟩, fun same => ⟨same.1.symm, same.2.symm⟩⟩
  | some index => simp

def markedLine (line fields : Doc) (hash : String) : Doc := line.update (fields.set "semantic_hash" (.str hash))

/-- What the checks of the mark ask: its new fingerprint is no other line's. -/
structure MarkAccepted (env : Env) (r : Store) (line fields : Doc) (hash : String) : Prop where
  hashed : buildSemanticHash env (line.update fields) = .ok hash
  own : ((r.countLines.find? (Filter.eq "semantic_hash" (.str hash)).holds).map lineIdText).all
    (· == lineIdText line) = true

section

variable {r : Store} {username : String} {fields : Doc}

theorem collected_update {u : Update} (found : r.countLines.find? (Filter.eq "_id" v).holds = some line)
    (named : line "session_id" = some (.str sid)) (filled : sid ≠ "") :
    collectSessionIds (sessionContext username session) (.updateOne (.eq "_id" v) u) r = [sid] := by
  have truthy : (Value.str sid).truthy = true := by simpa using filled
  have stated : statedSessionIds (sessionContext username session) (.updateOne (.eq "_id" v) u) = [] := rfl
  unfold collectSessionIds
  rw [stated]
  simp only [List.isEmpty_nil, Bool.not_true, Bool.false_eq_true, if_false, found, Option.toList_some,
    List.flatMap_cons, List.flatMap_nil, List.append_nil, sessionIdOf, Doc.get_of_some named, truthy, if_true]
  rfl

theorem prepareWrite_mark_iff {p : Prepared} (counting : CountingSession r sid session)
    (found : r.countLines.find? (Filter.eq "_id" v).holds = some line)
    (named : line "session_id" = some (.str sid)) (counts : line.has "counted_qty" = true)
    (uncounted : fields "counted_qty" = none) (placed : Placed (line.update fields)) :
    prepareWrite env (sessionContext username session) (.updateOne (.eq "_id" v) (.ofSet fields)) r = .ok p ↔
      ∃ hash, MarkAccepted env r line fields hash ∧
        p = { op := .updateOne (.eq "_id" v) (.ofSet (fields.set "semantic_hash" (.str hash)))
              versions := [(sid, coerceVersion (session.get "version"))] } := by
  have merged : applyUpdateToMerged line (.ofSet fields) = line.update fields := rfl
  have countsMerged : (line.update fields).has "counted_qty" = true := by
    rw [Doc.has, Doc.update_apply, uncounted]
    exact counts
  have stamped : ∀ u, stampUpdateHash env line (line.update fields) (.ofSet fields) r = .ok u ↔
      ∃ hash, MarkAccepted env r line fields hash ∧ u = .ofSet (fields.set "semantic_hash" (.str hash)) := by
    intro u
    simp only [stampUpdateHash, countsMerged, if_true, bind_success, require_ok, pure_success]
    constructor
    · rintro ⟨hash, hashed, _, own, rfl⟩
      exact ⟨hash, ⟨hashed, own⟩, rfl⟩
    · rintro ⟨hash, accepted, rfl⟩
      exact ⟨hash, accepted.hashed, (), accepted.own, rfl⟩
  have asserted : ∀ u, assertUpdateInvariants env (sessionContext username session) (.eq "_id" v) (.ofSet fields) r =
      .ok u ↔ ∃ hash, MarkAccepted env r line fields hash ∧ u = .ofSet (fields.set "semantic_hash" (.str hash)) := by
    intro u
    rw [← stamped]
    simp only [assertUpdateInvariants, found, merged, bind_success, pure_success]
    constructor
    · rintro ⟨_, passed, _, _, rfl⟩
      exact passed
    · intro passed
      exact ⟨u, passed, (), assertValidWrite_counting counting placed, rfl⟩
  have plain : ∀ hash, (Update.ofSet (fields.set "semantic_hash" (.str hash))).set.has "counted_qty" = false := by
    intro hash
    change (fields.set "semantic_hash" (.str hash)).has "counted_qty" = false
    rw [Doc.has, Doc.set_other _ _ (by decide), uncounted]
    rfl
  have captured : ∀ u, captureSessionVersions (sessionContext username session)
      (collectSessionIds (sessionContext username session) (.updateOne (.eq "_id" v) u) r) r =
        .ok [(sid, coerceVersion (session.get "version"))] := by
    intro u
    rw [collected_update found named counting.filled, captured_single rfl counting.found]
  constructor
  · intro prepared
    obtain ⟨checked, moved, passed, transitioned, enforced, versions⟩ := prepareWrite_ok prepared
    simp only [assertMandatoryWriteInvariants, map_success] at passed
    obtain ⟨_, passed, rfl⟩ := passed
    obtain ⟨hash, accepted, rfl⟩ := (asserted _).mp passed
    have same : moved = .updateOne (.eq "_id" v) (.ofSet (fields.set "semantic_hash" (.str hash))) :=
      (Except.ok.inj transitioned).symm
    rw [same] at enforced
    simp only [enforceVariance, plain hash, Bool.false_eq_true, if_false, Except.ok.injEq] at enforced
    rw [← enforced, captured] at versions
    refine ⟨hash, accepted, ?_⟩
    have stored := Except.ok.inj versions
    cases p
    cases enforced
    cases stored
    rfl
  · rintro ⟨hash, accepted, rfl⟩
    simp only [prepareWrite, bind_success, require_ok, pure_success]
    refine ⟨(), rfl, (), rfl, .updateOne (.eq "_id" v) (.ofSet (fields.set "semantic_hash" (.str hash))), ?_, _, rfl,
      .updateOne (.eq "_id" v) (.ofSet (fields.set "semantic_hash" (.str hash))), ?_, _, captured _, rfl⟩
    · rw [assertMandatoryWriteInvariants, (asserted _).mpr ⟨hash, accepted, rfl⟩]
      rfl
    · rw [enforceVariance, plain hash]
      rfl

theorem execute_mark_iff {hash : String}
    (found : r.countLines.find? (Filter.eq "_id" v).holds = some line) :
    executeCountLineOperation env (.updateOne (.eq "_id" v) (.ofSet (fields.set "semantic_hash" (.str hash)))) r =
        .ok (result, t) ↔
      Collection.collision countLineIndexes (r.countLines.eraseP (Filter.eq "_id" v).holds) (markedLine line fields hash) =
          none ∧
        result = { before := some line, after := some (markedLine line fields hash), matched := 1 } ∧
        t = r.withLines (Collection.replaceFirst (Filter.eq "_id" v).holds (markedLine line fields hash) r.countLines) := by
  simp only [executeCountLineOperation, executeOnLines, bind_success, liftFault_ok, pure_success,
    Prod.mk.injEq, Prod.exists, updateOne_iff _ found (Update.apply_ofSet _ _)]
  constructor
  · rintro ⟨_, _, ⟨_, _, ⟨free, rfl, rfl⟩, rfl, rfl⟩, rfl, rfl⟩
    exact ⟨free, rfl, rfl⟩
  · rintro ⟨free, rfl, rfl⟩
    exact ⟨_, _, ⟨_, _, ⟨free, rfl, rfl⟩, rfl, rfl⟩, rfl, rfl⟩

end

/-- The figures of a line that counts are numbers. -/
def FiguresRead (line : Doc) : Prop :=
  isSupersededCountLine line = true ∨
    (line.get "variance").numberOrZero.isSome = true ∧ (line.get "damaged_qty").numberOrZero.isSome = true

theorem addLine_iff (totals : SessionTotals)
    (line : Doc) : (∃ after, addLine totals line = some after) ↔ FiguresRead line := by
  unfold addLine FiguresRead
  by_cases superseded : isSupersededCountLine line = true
  · simp [superseded]
  · rw [if_neg superseded]
    cases (line.get "variance").numberOrZero with
    | none => simp [superseded]
    | some variance =>
      cases (line.get "damaged_qty").numberOrZero with
      | none => simp [superseded]
      | some damaged => simp

theorem totals_iff : (∃ totals, computeSessionTotals s sid = .ok totals) ↔
    ∀ line ∈ s.sessionLines sid, FiguresRead line := by
  have loop : ∀ (lines : List Doc) (t : SessionTotals), (∃ after, lines.foldlM addLine t = some after) ↔
      ∀ line ∈ lines, FiguresRead line := by
    intro lines
    induction lines with
    | nil => simp
    | cons line rest ih =>
      intro t
      rw [List.forall_mem_cons, ← addLine_iff t]
      constructor
      · rintro ⟨after, folded⟩
        rw [List.foldlM_cons, Option.bind_eq_bind, Option.bind_eq_some_iff] at folded
        obtain ⟨next, added, folded⟩ := folded
        exact ⟨⟨next, added⟩, (ih next).mp ⟨after, folded⟩⟩
      · rintro ⟨⟨next, added⟩, others⟩
        obtain ⟨after, folded⟩ := (ih next).mpr others
        exact ⟨after, by rw [List.foldlM_cons, added]; exact folded⟩
  rw [← loop _ SessionTotals.zero]
  unfold computeSessionTotals
  cases (s.sessionLines sid).foldlM addLine SessionTotals.zero with
  | none => simp
  | some totals => simp

/-- The stored session carries a version, and its index entries are its own. -/
structure VersionedSession (s : Store) (sid : String) (session : Doc) : Prop where
  current : (buildVersionFilter (coerceVersion (session.get "version"))).holds session = true
  number : session "version" = none ∨ ∃ q, session "version" = some (.num q)
  own : Collection.collision sessionIndexes (s.sessions.eraseP (sessionLookup sid).holds) session = none

/-- The session at the version it was read with. -/
def versionedLookup (sid : String) (session : Doc) : Filter :=
  (sessionLookup sid).both (buildVersionFilter (coerceVersion (session.get "version")))

def totalsNames : List String :=
  ["total_items", "total_variance", "verified_items", "pending_items", "damage_items", "updated_at", "version"]

/-- The update of the session by new totals. -/
def totalsUpdate (env : Env) (totals : SessionTotals) : Update where
  set := Doc.ofList (totals.toFields ++ [("updated_at", .date env.now)])
  inc := [("version", 1)]

section

variable {w : Store} {username : String}

theorem applied_totals (env : Env) (versioned : VersionedSession t sid session) (totals : SessionTotals) :
    ∃ after, (totalsUpdate env totals).apply session = some after ∧
      ∀ field, field ∉ totalsNames → after field = session field := by
  have unset : Doc.ofList (totals.toFields ++ [("updated_at", .date env.now)]) "version" = none := by
    apply Doc.ofList_other
    simp [SessionTotals.toFields]
  obtain ⟨after, incremented⟩ : ∃ after, Update.applyInc
      (session.update (Doc.ofList (totals.toFields ++ [("updated_at", .date env.now)]))) ("version", 1) = some after := by
    unfold Update.applyInc
    rw [Doc.update_apply, unset, Option.none_or]
    rcases versioned.number with absent | ⟨q, stored⟩
    · rw [absent]
      exact ⟨_, rfl⟩
    · rw [stored]
      exact ⟨_, rfl⟩
  refine ⟨after, ?_, ?_⟩
  · simp only [Update.apply, totalsUpdate, Update.conflicting, List.any_cons, List.any_nil, Doc.has,
      unset, List.foldlM_cons, List.foldlM_nil, incremented]
    rfl
  · intro field other
    rw [Update.applyInc_other incremented (by rintro rfl; exact other (by decide)), Doc.update_apply]
    have unnamed : Doc.ofList (totals.toFields ++ [("updated_at", .date env.now)]) field = none := by
      apply Doc.ofList_other
      intro named
      apply other
      simp only [SessionTotals.toFields, List.cons_append, List.nil_append, List.map_cons, List.map_nil] at named
      exact List.mem_append_left ["version"] named
    rw [unnamed]
    rfl

section

variable (counting : CountingSession t sid session) (versioned : VersionedSession t sid session)
include counting versioned

theorem found_versioned : t.sessions.find? (versionedLookup sid session).holds = some session := by
  have found : t.sessions.find? (sessionLookup sid).holds = some session := counting.found
  obtain ⟨front, back, split, matched, before⟩ := Collection.find_split found
  have nobody : front.find? (versionedLookup sid session).holds = none := by
    rw [List.find?_eq_none]
    intro d member
    simp [versionedLookup, Filter.holds, before d member]
  have both : (versionedLookup sid session).holds session = true := by
    rw [versionedLookup, Filter.holds, matched, versioned.current]
    rfl
  rw [split, List.find?_append, nobody, Option.none_or, List.find?_cons_of_pos both]

/-- The refresh of the session's totals after a write, exactly. -/
theorem refreshTotals_iff :
    refreshTotals env (sessionContext username session) [(sid, coerceVersion (session.get "version"))] t = .ok () w ↔
      ∃ totals after, computeSessionTotals t sid = .ok totals ∧ (totalsUpdate env totals).apply session = some after ∧
        w = { t with sessions := Collection.replaceFirst (versionedLookup sid session).holds after t.sessions } := by
  have mutableSession : ensureSessionNotFinalized sid t = .ok session := by
    rw [← require_then (show (!isSessionClosedToWrites session) = true by rw [counting.writable]; rfl)
      (.governance finalizedMessage) session]
    simp only [ensureSessionNotFinalized, ensureSessionExists, counting.found]
    rfl
  have found := found_versioned counting versioned
  have update : ∀ totals v, updateSessionWithOcc sid (Doc.ofList (totals.toFields ++ [("updated_at", .date env.now)]))
      (coerceVersion (session.get "version")) t = .ok v ↔
      ∃ after, (totalsUpdate env totals).apply session = some after ∧
        v = { t with sessions := Collection.replaceFirst (versionedLookup sid session).holds after t.sessions } := by
    intro totals v
    obtain ⟨after, applied, others⟩ := applied_totals env versioned totals
    have free : Collection.collision sessionIndexes (t.sessions.eraseP (versionedLookup sid session).holds) after =
      none := by
      rw [eraseP_eq_of_find found counting.found, ← versioned.own]
      apply collision_congr
      intro index member
      apply others
      rcases mem_three.mp member with rfl | rfl | rfl <;> decide
    have run := updateOne_iff sessionIndexes found applied
    simp only [updateSessionWithOcc, bind_success, liftFault_ok, require_ok, pure_success, Prod.exists]
    constructor
    · rintro ⟨answer, sessions, updated, _, _, rfl⟩
      obtain ⟨_, _, rfl⟩ := (run _ _).mp updated
      exact ⟨after, applied, rfl⟩
    · rintro ⟨other, appliedTo, rfl⟩
      rw [applied] at appliedTo
      cases appliedTo
      exact ⟨_, _, (run _ _).mpr ⟨free, rfl, rfl⟩, (), rfl, rfl⟩
  have unfolded : refreshTotals env (sessionContext username session) [(sid, coerceVersion (session.get "version"))] =
      (refreshSessionTotals env (sid, coerceVersion (session.get "version")) >>= fun _ => pure ()) := rfl
  rw [unfolded]
  simp only [refreshSessionTotals, updateSessionTotals, bind_ok, reads_ok, writes_ok, pure_ok,
    Option.getD_some, if_true, Bool.false_eq_true, if_false]
  constructor
  · rintro ⟨_, v, ⟨totals, _, ⟨computed, rfl⟩, _, _, ⟨ensured, rfl⟩, _, x, updated, _, rfl⟩, _, rfl⟩
    obtain ⟨after, applied, rfl⟩ := (update totals _).mp updated
    exact ⟨totals, after, computed, applied, rfl⟩
  · rintro ⟨totals, after, computed, applied, rfl⟩
    exact ⟨(), _, ⟨totals, t, ⟨computed, rfl⟩, session, t, ⟨mutableSession, rfl⟩, (), _,
      (update totals _).mpr ⟨after, applied, rfl⟩, trivial, rfl⟩, trivial, rfl⟩

end

end

section

variable {r u : Store} {username : String} {fields : Doc}

def storeWithMark (r : Store) (v : Value) (marked : Doc) : Store :=
  r.withLines (Collection.replaceFirst (Filter.eq "_id" v).holds marked r.countLines)

structure MarkPasses (env : Env) (r : Store) (sid : String) (v : Value) (line fields : Doc)
    (hash : String) : Prop extends MarkAccepted env r line fields hash where
  free : Collection.collision countLineIndexes (r.countLines.eraseP (Filter.eq "_id" v).holds)
    (markedLine line fields hash) = none
  valid : passesValidation env (storeWithMark r v (markedLine line fields hash)) (markedLine line fields hash) = true
  figures : ∀ other ∈ (storeWithMark r v (markedLine line fields hash)).sessionLines sid, FiguresRead other

/-- A line of a counting session, and fields that leave its quantity as it is. -/
structure Markable (r : Store) (sid : String) (session : Doc) (v : Value) (line fields : Doc) : Prop where
  counting : CountingSession r sid session
  versioned : VersionedSession r sid session
  found : r.countLines.find? (Filter.eq "_id" v).holds = some line
  named : line "session_id" = some (.str sid)
  counts : line.has "counted_qty" = true
  uncounted : fields "counted_qty" = none
  noId : fields "_id" = none
  placed : Placed (line.update fields)

/-- The mark on the replaced line on a server without transactions, exactly. -/
theorem mark_iff (standalone : env.deployment = .standalone)
    (markable : Markable r sid session v line fields) :
    processWriteCore env s (sessionContext username session) (.updateOne (.eq "_id" v) (.ofSet fields)) r =
        .ok result u ↔
      ∃ hash totals after, MarkPasses env r sid v line fields hash ∧
        computeSessionTotals (storeWithMark r v (markedLine line fields hash)) sid = .ok totals ∧
        (totalsUpdate env totals).apply session = some after ∧
        result = { before := some line, after := some (markedLine line fields hash), matched := 1 } ∧
        syncForSessions env [sid] { storeWithMark r v (markedLine line fields hash) with
          sessions := Collection.replaceFirst (versionedLookup sid session).holds after r.sessions } = u := by
  obtain ⟨counting, versioned, found, named, counts, uncounted, noId, placed⟩ := markable
  have stays : ∀ hash, (storeWithMark r v (markedLine line fields hash)).countLines.find? (Filter.eq "_id" v).holds =
      some (markedLine line fields hash) := by
    intro hash
    apply Collection.find_replaceFirst_same found
    have same : markedLine line fields hash "_id" = line "_id" := by
      rw [markedLine, Doc.update_apply, Doc.set_other _ _ (by decide), noId]
      rfl
    rw [holds_eq_congr same]
    exact List.find?_some found
  have validation : ∀ hash final, runPostWriteValidation env s (sessionContext username session)
      (.updateOne (.eq "_id" v) final)
      { before := some line, after := some (markedLine line fields hash), matched := 1 }
      (storeWithMark r v (markedLine line fields hash)) = .ok () ↔
      passesValidation env (storeWithMark r v (markedLine line fields hash)) (markedLine line fields hash) = true := by
    intro hash final
    simp only [runPostWriteValidation, sessionContext, standalone, Bool.false_eq_true, if_false,
      stays hash, Option.toList_some]
    rw [← validated_iff]
    exact forM_single _ _
  have countingMarked : ∀ hash, CountingSession (storeWithMark r v (markedLine line fields hash)) sid session :=
    fun hash => { counting with }
  have versionedMarked : ∀ hash, VersionedSession (storeWithMark r v (markedLine line fields hash)) sid session :=
    fun hash => { versioned with }
  rw [processWriteCore_iff rfl]
  constructor
  · rintro ⟨p, t, w, prepared, executed, validated, refreshed, rfl⟩
    obtain ⟨hash, accepted, rfl⟩ := (prepareWrite_mark_iff counting found named counts uncounted placed).mp prepared
    obtain ⟨free, rfl, rfl⟩ := (execute_mark_iff found).mp executed
    obtain ⟨totals, after, computed, applied, rfl⟩ :=
      (refreshTotals_iff (countingMarked hash) (versionedMarked hash)).mp refreshed
    exact ⟨hash, totals, after, ⟨accepted, free, (validation hash _).mp validated, totals_iff.mp ⟨totals, computed⟩⟩,
      computed, applied, rfl, rfl⟩
  · rintro ⟨hash, totals, after, passes, computed, applied, rfl, rfl⟩
    exact ⟨_, _, _, (prepareWrite_mark_iff counting found named counts uncounted placed).mpr
        ⟨hash, passes.toMarkAccepted, rfl⟩,
      (execute_mark_iff found).mpr ⟨passes.free, rfl, rfl⟩, (validation hash _).mpr passes.valid,
      (refreshTotals_iff (countingMarked hash) (versionedMarked hash)).mpr ⟨totals, after, computed, applied, rfl⟩, rfl⟩

theorem mark_made {hash : String} (standalone : env.deployment = .standalone)
    (markable : Markable r sid session v line fields) (passes : MarkPasses env r sid v line fields hash) : ∃ result u,
      processWriteCore env s (sessionContext username session)
        (.updateOne (.eq "_id" v) (.ofSet fields)) r = .ok result u := by
  obtain ⟨totals, computed⟩ := totals_iff.mpr passes.figures
  have versionedMarked : VersionedSession (storeWithMark r v (markedLine line fields hash)) sid session :=
    { markable.versioned with }
  obtain ⟨after, applied, _⟩ := applied_totals env versionedMarked totals
  exact ⟨_, _, (mark_iff standalone markable).mpr ⟨hash, totals, after, passes, computed, applied, rfl, rfl⟩⟩

end

end StockVerification
