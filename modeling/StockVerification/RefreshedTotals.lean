import StockVerification.DashboardPipelines
import StockVerification.LateCounts

/-!
# Session totals after a governed write

Source: backend/services/count_lines/session_aggregator.py:256-451,
backend/services/count_lines/write_core.py:455-525,
backend/services/session_lifecycle_service.py:494-548 and
backend/services/projections/writer.py:195-475.

A governed write collects session ids before it changes the lines. After the change it recomputes
the totals of each collected session and syncs their dashboard rows. The two folds differ: the row
leaves archived lines out, reads at most 10000 lines, and rounds the variance to four places.
-/
namespace StockVerification

open Foundation Foundation.Action

variable {old new : Doc}

theorem figures_stated (totals : SessionTotals) (now : Int)
    (fieldsEq : ∀ field, field ≠ "version" → new field = (Doc.ofList (totals.toFields ++ [("updated_at", .date now)])
      field).or (old field)) :
    totals.statedBy new := by
  simp [SessionTotals.statedBy, SessionTotals.toFields, fieldsEq]

/-- One round of the refresh: the session document it found and the one it left. -/
structure Refreshed (entry : String × Nat) (a b : Store) (old new : Doc) : Prop where
  effect : OccEffect entry.1 entry.2 a b old new
  stated : (SessionTotals.ofLines (a.activeLines entry.1)).statedBy new

variable {env : Env} {entry : String × Nat}

theorem refreshSessionTotals_refreshes {a b : Store} (identified : Identified a.sessions)
    (success : refreshSessionTotals env entry a = .ok () b) : ∃ old new, Refreshed entry a b old new := by
  simp only [refreshSessionTotals, updateSessionTotals, ensureSessionNotFinalized, bind_ok, reads_ok, writes_ok,
    bind_success, require_ok, ensureSessionExists_ok, pure, Except.pure, EStateM.pure, EStateM.Result.ok.injEq,
    Except.ok.injEq, Bool.false_eq_true, if_false, if_true, Option.getD_some, true_and] at success
  obtain ⟨totals, _, ⟨computed, rfl⟩, _, _, ⟨⟨_, _, _, _, rfl⟩, rfl⟩, _, _, updated, rfl⟩ := success
  rw [computeSessionTotals_ok computed] at updated
  have plain : KeepsNames (Doc.ofList ((SessionTotals.ofLines (a.activeLines entry.1)).toFields ++
      [("updated_at", .date env.now)])) := keepsNames_totals _ true env.now
  obtain ⟨old, new, effect, fieldsEq⟩ := updateSessionWithOcc_spec identified plain updated
  exact ⟨old, new, effect, figures_stated _ env.now fieldsEq⟩

variable {session : Doc}

theorem Refreshed.unnamed {a b : Store} {id : String}
    (refreshed : Refreshed entry a b old new) (apart : (sessionLookup entry.1).holds session = false)
    (kept : b.findSession id = some session) : (sessionLookup id).holds new = false := by
  have stored := refreshed.effect.stored
  rw [← Bool.not_eq_true]
  intro named
  have same := refreshed.effect.identified.find_of_mem (List.mem_of_find?_eq_some stored) named
  rw [Store.findSession, same] at kept
  cases kept
  rw [List.find?_some stored] at apart
  cases apart

section

variable {versions : List (String × Nat)} {a b : Store}

/-- A version that was captured before another round moved the session on is refused. -/
theorem refresh_refuses_stale (identified : Identified a.sessions) (listed : entry ∈ versions)
    (found : a.findSession entry.1 = some session) (stale : entry.2 < sessionVersion session) :
    versions.forM (refreshSessionTotals env) a ≠ .ok () b := by
  intro success
  induction versions generalizing a session with
  | nil => cases listed
  | cons first rest ih =>
    obtain ⟨_, u, head, tail⟩ := bind_ok.mp success
    obtain ⟨old, new, refreshed⟩ := refreshSessionTotals_refreshes identified head
    rcases List.mem_cons.mp listed with rfl | later
    · have same := refreshed.effect.found
      rw [found] at same
      cases same
      have version := refreshed.effect.matched
      omega
    · rcases refreshed.effect.others entry.1 session found with ⟨_, rfl, moved⟩ | ⟨_, kept⟩
      · have grown := refreshed.effect.grown
        exact ih refreshed.effect.identified later moved (by omega) tail
      · exact ih refreshed.effect.identified later kept stale tail

/-- A session that no round is about stays as it is. -/
theorem refresh_leaves {id : String} (identified : Identified a.sessions)
    (success : versions.forM (refreshSessionTotals env) a = .ok () b)
    (apart : ∀ entry ∈ versions, (sessionLookup entry.1).holds session = false)
    (found : a.findSession id = some session) : b.findSession id = some session := by
  induction versions generalizing a with
  | nil =>
    cases success
    exact found
  | cons first rest ih =>
    obtain ⟨_, u, head, tail⟩ := bind_ok.mp success
    obtain ⟨old, new, refreshed⟩ := refreshSessionTotals_refreshes identified head
    have others := fun entry member => apart entry (List.mem_cons_of_mem _ member)
    rcases refreshed.effect.others id session found with ⟨_, rfl, _⟩ | ⟨_, kept⟩
    · have named := List.find?_some refreshed.effect.found
      rw [apart first List.mem_cons_self] at named
      cases named
    · exact ih refreshed.effect.identified tail others kept

theorem refresh_lines (success : versions.forM (refreshSessionTotals env) a = .ok () b) :
    b.countLines = a.countLines := by
  have moved := @Moves.forM _ _ _ _ _ _ versions _ (fun entry _ => moves_refreshSessionTotals env entry) a
  rw [final_of_ok success] at moved
  exact moved.countLines

/-- After the refresh every session it names states the totals of its lines. -/
theorem refresh_states (identified : Identified a.sessions)
    (captured : ∀ entry ∈ versions, ∃ session, a.findSession entry.1 = some session ∧ sessionVersion session = entry.2)
    (success : versions.forM (refreshSessionTotals env) a = .ok () b) :
    ∀ entry ∈ versions, ∃ session, b.findSession entry.1 = some session ∧
      (SessionTotals.ofLines (b.activeLines entry.1)).statedBy session := by
  induction versions generalizing a with
  | nil =>
    nofun
  | cons first rest ih =>
    obtain ⟨_, u, head, tail⟩ := bind_ok.mp success
    obtain ⟨old, new, refreshed⟩ := refreshSessionTotals_refreshes identified head
    have freed : ∀ entry ∈ rest, (sessionLookup entry.1).holds new = false ∧
        ∃ session, u.findSession entry.1 = some session ∧ sessionVersion session = entry.2 := by
      intro entry member
      obtain ⟨session, found, version⟩ := captured entry (List.mem_cons_of_mem _ member)
      rcases refreshed.effect.others entry.1 session found with ⟨_, rfl, moved⟩ | ⟨apart, kept⟩
      · -- this entry was captured before the round moved its session on
        have grown := refreshed.effect.grown
        exact absurd tail (refresh_refuses_stale refreshed.effect.identified member moved (by omega))
      · exact ⟨refreshed.unnamed apart kept, session, kept, version⟩
    intro entry member
    rcases List.mem_cons.mp member with rfl | later
    · have final := refresh_leaves refreshed.effect.identified tail (fun other listed => (freed other listed).1)
        refreshed.effect.stored
      refine ⟨new, final, ?_⟩
      rw [Store.activeLines, Store.sessionLines, refresh_lines success]
      exact refreshed.stated
    · exact ih refreshed.effect.identified (fun other listed => (freed other listed).2) tail entry later

end

/-- The lines the row counts. -/
def Store.projectedLines (s : Store) (sessionId : String) : List Doc :=
  ((s.countLines.filter (Filter.both (.eq "session_id" (.str sessionId)) (.ne "archived" (.bool true))).holds)).filter
    fun line => !isSupersededCountLine line

def projectedTotals (s : Store) (sessionId : String) : SessionTotals :=
  { SessionTotals.ofLines (s.projectedLines sessionId) with
    totalVariance := roundPlaces 4 (SessionTotals.ofLines (s.projectedLines sessionId)).totalVariance }

def Store.sessionRow (s : Store) (sessionId : String) : Option Doc :=
  s.sessionDashboard.find? (Filter.eq "session_id" (.str sessionId)).holds

/-- No more lines than the projection writer reads. -/
def WithinFetch (s : Store) (sessionId : String) : Prop :=
  (s.countLines.filter (Filter.both (.eq "session_id" (.str sessionId)) (.ne "archived" (.bool true))).holds).length ≤
    10000

variable {q p : Doc → Bool} {docs : List Doc} {d : Doc}

/-- A change of another document does not hide the first match. -/
theorem find_replaceFirst_kept (found : docs.find? q = some d) (apart : p d = false)
    (newOther : q new = false) : (Collection.replaceFirst p new docs).find? q = some d := by
  induction docs with
  | nil => cases found
  | cons e rest ih =>
    rw [List.find?_cons] at found
    unfold Collection.replaceFirst
    split
    · next replaced =>
      rw [List.find?_cons, newOther]
      split at found
      · cases found
        rw [apart] at replaced
        cases replaced
      · exact found
    · rw [List.find?_cons]
      split at found
      · exact found
      · exact ih found

theorem find_upsert_kept {f : Filter} {new : Option Doc → Doc} (found : docs.find? q = some d)
    (apart : f.holds d = false) (newOther : ∀ old, q (new old) = false) :
    (Collection.upsert f new docs).find? q = some d := by
  unfold Collection.upsert
  split
  · rw [List.find?_append, found]
    rfl
  · exact find_replaceFirst_kept found apart (newOther _)

/-- The row as the projection writer leaves it. -/
def IsWritten (env : Env) (s : Store) (sessionId : String) (session row : Doc) : Prop :=
  ∃ old : Option Doc, row = (old.getD Doc.empty).update
    (sessionProjectionDoc env sessionId session (loadActiveCountLines s sessionId))

theorem projection_named (env : Env) (sessionId : String) (session d : Doc) (lines : List Doc) :
    d.update (sessionProjectionDoc env sessionId session lines) "session_id" = some (.str sessionId) := by
  simp [sessionProjectionDoc]

variable {s : Store} {sessionId : String}

theorem syncSession_row (found : s.findSession sessionId = some session) :
    ∃ row, (syncSession env s sessionId).sessionRow sessionId = some row ∧ IsWritten env s sessionId session row := by
  have named : ∀ old : Option Doc, (Filter.eq "session_id" (.str sessionId)).holds ((old.getD Doc.empty).update
      (sessionProjectionDoc env sessionId session (loadActiveCountLines s sessionId))) = true := by
    intro old
    simp only [Filter.holds, Filter.fieldIs_str (projection_named env sessionId session _ _), beq_self_eq_true]
  obtain ⟨old, row⟩ := find_upsert s.sessionDashboard named
  refine ⟨_, ?_, old, rfl⟩
  rw [syncSession, found]
  exact row

variable {row : Doc}

theorem syncSession_keeps {other : String} (kept : s.sessionRow sessionId = some row)
    (named : row "session_id" = some (.str sessionId)) (apart : other ≠ sessionId) :
    (syncSession env s other).sessionRow sessionId = some row := by
  unfold syncSession
  split
  · exact kept
  · unfold syncSingleSession Store.sessionRow
    dsimp only
    refine find_upsert_kept kept ?_ ?_
    · simpa [Filter.holds, Filter.fieldIs_str named] using Ne.symm apart
    · intro old
      simpa [Filter.holds, Filter.fieldIs_str (projection_named env other _ _ _)] using apart

theorem syncSession_reads (env : Env) (s : Store) (other : String) :
    (syncSession env s other).sessions = s.sessions ∧ (syncSession env s other).countLines = s.countLines := by
  unfold syncSession
  split
  · exact ⟨rfl, rfl⟩
  · exact ⟨rfl, rfl⟩

theorem IsWritten.named (written : IsWritten env s sessionId session row) :
    row "session_id" = some (.str sessionId) := by
  obtain ⟨old, rfl⟩ := written
  exact projection_named env sessionId session _ _

section

variable {ids : List String}

theorem syncSessions_keep (kept : s.sessionRow sessionId = some row)
    (named : row "session_id" = some (.str sessionId)) (apart : sessionId ∉ ids) :
    (ids.foldl (syncSession env) s).sessionRow sessionId = some row := by
  induction ids generalizing s with
  | nil => exact kept
  | cons other rest ih =>
    rw [List.mem_cons, not_or] at apart
    exact ih (syncSession_keeps kept named (Ne.symm apart.1)) apart.2

/-- The writer leaves a row for every session it is asked to sync. -/
theorem syncSessions_row (distinct : ids.Nodup) (listed : sessionId ∈ ids)
    (found : s.findSession sessionId = some session) :
    ∃ row, (ids.foldl (syncSession env) s).sessionRow sessionId = some row ∧
      IsWritten env s sessionId session row := by
  induction ids generalizing s with
  | nil => cases listed
  | cons other rest ih =>
    rw [List.nodup_cons] at distinct
    obtain ⟨sessions, lines⟩ := syncSession_reads env s other
    by_cases same : other = sessionId
    · subst same
      obtain ⟨row, stored, written⟩ := @syncSession_row env session s other found
      rw [List.foldl_cons]
      exact ⟨row, syncSessions_keep stored written.named distinct.1, written⟩
    · have later : sessionId ∈ rest := (List.mem_cons.mp listed).resolve_left (Ne.symm same)
      have still : (syncSession env s other).findSession sessionId = some session := by
        rw [Store.findSession, sessions]
        exact found
      obtain ⟨row, stored, written⟩ := ih distinct.2 later still
      refine ⟨row, stored, ?_⟩
      obtain ⟨old, rfl⟩ := written
      refine ⟨old, ?_⟩
      rw [loadActiveCountLines, loadActiveCountLines, lines]

end

theorem sortedTexts_nodup (texts : List String) : (sortedTexts texts).Nodup := by
  exact (List.perm_insertionSort _ _).nodup_iff.mpr (List.nodup_dedup texts)

theorem IsWritten.states (written : IsWritten env s sessionId session row)
    (within : WithinFetch s sessionId) : (projectedTotals s sessionId).statedBy row := by
  obtain ⟨old, rfl⟩ := written
  have loaded : loadActiveCountLines s sessionId = s.projectedLines sessionId := by
    rw [loadActiveCountLines, List.take_of_length_le within]
    rfl
  have computed : computeAggregates (s.projectedLines sessionId) = projectedTotals s sessionId := by
    rw [computeAggregates_eq, projectedTotals]
  rw [loaded]
  unfold sessionProjectionDoc
  rw [computed]
  simp [SessionTotals.statedBy, SessionTotals.toFields, projectedSessionFields]

theorem syncForSessions_states {ids : List String} (listed : sessionId ∈ ids)
    (trimmed : Text.strip sessionId = sessionId) (filled : sessionId ≠ "")
    (found : s.findSession sessionId = some session) (within : WithinFetch s sessionId) :
    ∃ row, (syncForSessions env ids s).sessionRow sessionId = some row ∧
      (projectedTotals s sessionId).statedBy row := by
  have synced : sessionId ∈ sortedTexts ((ids.map Text.strip).filter (· != "")) := by
    rw [mem_sortedTexts, List.mem_filter]
    exact ⟨List.mem_map.mpr ⟨sessionId, listed, trimmed⟩, by simpa using filled⟩
  obtain ⟨row, stored, written⟩ := @syncSessions_row env session s sessionId _ (sortedTexts_nodup _) synced found
  exact ⟨row, stored, written.states within⟩

/-- What the checks leave of a payload: its filter, and what it says about the object id and the
session of a line. -/
inductive SameTarget : WriteOp → WriteOp → Prop where
  | insert {d e : Doc} (id : e "_id" = d "_id") (session : e "session_id" = d "session_id") :
    SameTarget (.insertOne d) (.insertOne e)
  | updateOne {f : Filter} {u v : Update} (session : v.set "session_id" = u.set "session_id")
    (inc : v.inc = u.inc) (push : v.push = u.push) : SameTarget (.updateOne f u) (.updateOne f v)
  | findOneAndUpdate {f : Filter} {u v : Update} (session : v.set "session_id" = u.set "session_id")
    (inc : v.inc = u.inc) (push : v.push = u.push) : SameTarget (.findOneAndUpdate f u) (.findOneAndUpdate f v)
  | updateMany {f : Filter} {u v : Update} (session : v.set "session_id" = u.set "session_id")
    (inc : v.inc = u.inc) (push : v.push = u.push) : SameTarget (.updateMany f u) (.updateMany f v)
  | same (op : WriteOp) : SameTarget op op

variable {a b : WriteOp}

theorem SameTarget.trans {c : WriteOp} (first : SameTarget a b) (second : SameTarget b c) : SameTarget a c := by
  cases first with
  | same => exact second
  | insert id session =>
    cases second with
    | same => exact .insert id session
    | insert id' session' => exact .insert (id'.trans id) (session'.trans session)
  | updateOne session inc push =>
    cases second with
    | same => exact .updateOne session inc push
    | updateOne session' inc' push' =>
      exact .updateOne (session'.trans session) (inc'.trans inc) (push'.trans push)
  | findOneAndUpdate session inc push =>
    cases second with
    | same => exact .findOneAndUpdate session inc push
    | findOneAndUpdate session' inc' push' =>
      exact .findOneAndUpdate (session'.trans session) (inc'.trans inc) (push'.trans push)
  | updateMany session inc push =>
    cases second with
    | same => exact .updateMany session inc push
    | updateMany session' inc' push' =>
      exact .updateMany (session'.trans session) (inc'.trans inc) (push'.trans push)

variable {op : WriteOp}

section

variable {ctx : WriteContext}

theorem assertMandatory_sameTarget {checked : WriteOp}
    (asserted : assertMandatoryWriteInvariants env ctx op s = .ok checked) : SameTarget op checked := by
  cases op with
  | insertOne document =>
    simp only [assertMandatoryWriteInvariants, map_success] at asserted
    obtain ⟨stamped, inserted, rfl⟩ := asserted
    obtain ⟨⟨hash, _, _, rfl⟩, _, _⟩ := assertInsertInvariants_ok inserted
    exact .insert (Doc.set_other _ _ (by decide)) (Doc.set_other _ _ (by decide))
  | updateOne f u =>
    simp only [assertMandatoryWriteInvariants, map_success] at asserted
    obtain ⟨stamped, updated, rfl⟩ := asserted
    obtain ⟨_, _, fingerprinted⟩ := assertUpdateInvariants_ok updated
    exact .updateOne (fingerprinted.set _ (by decide)) fingerprinted.inc fingerprinted.push
  | findOneAndUpdate f u =>
    simp only [assertMandatoryWriteInvariants, map_success] at asserted
    obtain ⟨stamped, updated, rfl⟩ := asserted
    obtain ⟨_, _, fingerprinted⟩ := assertUpdateInvariants_ok updated
    exact .findOneAndUpdate (fingerprinted.set _ (by decide)) fingerprinted.inc fingerprinted.push
  | updateMany f u | deleteMany f =>
    simp only [assertMandatoryWriteInvariants, bind_success, pure_success] at asserted
    obtain ⟨_, _, rfl⟩ := asserted
    exact .same _
  | deleteOne f =>
    simp only [assertMandatoryWriteInvariants] at asserted
    split at asserted
    · cases asserted
    · simp only [bind_success, pure_success] at asserted
      obtain ⟨_, _, rfl⟩ := asserted
      exact .same _
  | unsupported name =>
    cases asserted
    exact .same _

theorem applyStateTransition_sameTarget {moved : WriteOp}
    (transitioned : applyStateTransition env ctx op = .ok moved) : SameTarget op moved := by
  unfold applyStateTransition at transitioned
  split at transitioned
  · cases transitioned
    exact .same _
  · next transition _ =>
    have unnamed : "session_id" ∉ (stateTransitionFields env ctx transition).map Prod.fst := by
      cases transition with
      | verify | unverify => simp [stateTransitionFields]
      | approve => cases marks : ctx.markVerifiedOnApproval <;> simp [stateTransitionFields, marks]
      | reject => cases marks : ctx.markRecountRequested <;> simp [stateTransitionFields, marks]
    dsimp only at transitioned
    split at transitioned
    · cases transitioned
      exact .updateOne (Doc.setAll_other _ unnamed) rfl rfl
    · cases transitioned
      exact .updateMany (Doc.setAll_other _ unnamed) rfl rfl
    · cases transitioned

theorem enforceVariance_sameTarget {final : WriteOp}
    (enforced : enforceVariance env ctx op s = .ok final) : SameTarget op final := by
  cases op with
  | insertOne document =>
    simp only [enforceVariance] at enforced
    split at enforced
    · simp only [bind_success, pure_success] at enforced
      obtain ⟨e, evaluated, rfl⟩ := enforced
      obtain ⟨_, _, _, _, stamped, _⟩ := evaluateGovernanceForDocument_ok evaluated
      refine .insert ?_ ?_
      · rw [applyAuthoritativeFields_other (by decide), stampBaseline_other stamped (by decide) (by decide)]
      · rw [applyAuthoritativeFields_other (by decide), stampBaseline_other stamped (by decide) (by decide)]
    · cases enforced
      exact .same _
  | updateOne f u =>
    simp only [enforceVariance] at enforced
    split at enforced
    · simp only [bind_success, pure_success] at enforced
      obtain ⟨e, evaluated, rfl⟩ := enforced
      refine .updateOne ?_ rfl rfl
      exact (applyAuthoritativeFields_other (by decide)).trans (copyBaselineFields_other (by decide) (by decide))
    · cases enforced
      exact .same _
  | findOneAndUpdate f u | updateMany f u | deleteOne f | deleteMany f | unsupported name =>
    cases enforced
    exact .same _

theorem prepareWrite_sameTarget {p : Prepared} (prepared : prepareWrite env ctx op s = .ok p) :
    SameTarget op p.op := by
  obtain ⟨checked, moved, asserted, transitioned, enforced, _⟩ := prepareWrite_ok prepared
  exact (assertMandatory_sameTarget asserted).trans
    ((applyStateTransition_sameTarget transitioned).trans (enforceVariance_sameTarget enforced))

end

theorem SameTarget.collects (same : SameTarget a b) (ctx : WriteContext) (s : Store) :
    collectSessionIds ctx b s = collectSessionIds ctx a s := by
  cases same with
  | same => rfl
  | insert id session =>
    have stated : ∀ d : Doc, statedSessionIds ctx (.insertOne d) = (if ctx.sessionId.truthy then [ctx.sessionId.text]
        else []) ++ ctx.sessionIds.filter (· != "") ++ (ctx.candidateLines.getD []).flatMap sessionIdOf ++
          sessionIdOf d ++ [] := fun _ => rfl
    rw [collectSessionIds, collectSessionIds, stated, stated, sessionIdOf, sessionIdOf, Doc.get_eq, Doc.get_eq, session]
  | updateOne => rfl
  | findOneAndUpdate => rfl
  | updateMany => rfl

/-- The lines a payload is about. -/
def WriteOp.matched (op : WriteOp) (lines : List Doc) : List Doc :=
  match op with
  | .insertOne d => if d.has "_id" then (lines.find? (Filter.eq "_id" (d.get "_id")).holds).toList else []
  | .updateOne f _ => (lines.find? f.holds).toList
  | .findOneAndUpdate f _ => (lines.find? f.holds).toList
  | .updateMany f _ => lines.filter f.holds
  | .deleteOne f => (lines.find? f.holds).toList
  | .deleteMany f => lines.filter f.holds
  | .unsupported _ => []

def WriteOp.update? : WriteOp → Option Update
  | .updateOne _ u => some u
  | .findOneAndUpdate _ u => some u
  | .updateMany _ u => some u
  | _ => none

/-- The session a payload puts a line in. -/
def WriteOp.session? : WriteOp → Option Value
  | .insertOne d => d "session_id"
  | op => op.update?.bind fun u => u.set "session_id"

def isNamed (sessionId : String) (v : Value) : Bool := inSession sessionId (Doc.ofList [("session_id", v)])

/-- The session of a line is set, never incremented or appended to. -/
def Update.SetsSession (u : Update) : Prop :=
  (∀ entry ∈ u.inc, entry.1 ≠ "session_id") ∧ ∀ entry ∈ u.push, entry.1 ≠ "session_id"

/-- A payload that has nothing to do with the lines of a session. -/
structure Spares (op : WriteOp) (lines : List Doc) (sessionId : String) : Prop where
  matched : ∀ line ∈ op.matched lines, inSession sessionId line = false
  named : ∀ v, op.session? = some v → isNamed sessionId v = false
  sets : ∀ u, op.update? = some u → Update.SetsSession u

theorem isNamed_stated {v : Value} (stated : d "session_id" = some v) :
    inSession sessionId d = isNamed sessionId v := inSession_congr (stated.trans rfl) sessionId

theorem inSession_unstated (unstated : d "session_id" = none) : inSession sessionId d = false := by
  simp [inSession, Filter.holds, Filter.fieldIs, unstated]

theorem filter_replaceFirst (found : docs.find? p = some old) (oldOther : q old = false)
    (newOther : q new = false) : (Collection.replaceFirst p new docs).filter q = docs.filter q := by
  obtain ⟨front, back, rfl, matched, before⟩ := Collection.find_split found
  rw [Collection.replaceFirst_split matched before, List.filter_append, List.filter_append,
    List.filter_cons, List.filter_cons, oldOther, newOther]
  rfl

variable {lines : List Doc} {u : Update}

theorem Spares.updated (spares : Spares op lines sessionId)
    (isUpdate : op.update? = some u) (session : op.session? = u.set "session_id")
    (outside : inSession sessionId old = false) (applied : u.apply old = some new) :
    inSession sessionId new = false := by
  have sets := spares.sets u isUpdate
  have field := Update.apply_field applied sets.1 sets.2
  cases named : u.set "session_id" with
  | some v =>
    rw [named, Option.some_or] at field
    rw [isNamed_stated field]
    exact spares.named v (session.trans named)
  | none =>
    rw [named, Option.none_or] at field
    rw [inSession_congr field sessionId]
    exact outside

section

variable {f : Filter} {after : List Doc}

theorem updateOne_leaves {answer : Option (Doc × Doc)}
    (success : Collection.updateOne countLineIndexes f u lines = .ok (answer, after))
    (outside : ∀ line ∈ (lines.find? f.holds).toList, q line = false)
    (kept : ∀ old new, q old = false → u.apply old = some new → q new = false) : after.filter q = lines.filter q := by
  rcases Collection.updateOne_ok success with ⟨_, _, rfl⟩ | ⟨old, new, found, applied, _, _, rfl⟩
  · rfl
  · have oldOutside := outside old (by rw [found]; exact List.mem_singleton_self _)
    exact filter_replaceFirst found oldOutside (kept old new oldOutside applied)

theorem updateMany_leaves (success : Collection.updateMany f u lines = .ok after)
    (outside : ∀ line ∈ lines.filter f.holds, q line = false)
    (kept : ∀ old new, q old = false → u.apply old = some new → q new = false) : after.filter q = lines.filter q := by
  unfold Collection.updateMany at success
  split at success
  · next changed mapped =>
    cases success
    induction lines generalizing after with
    | nil =>
      cases mapped
      rfl
    | cons d rest ih =>
      rw [List.mapM_cons] at mapped
      simp only [Option.bind_eq_bind, Option.bind_eq_some_iff, Option.pure_def, Option.some.injEq] at mapped
      obtain ⟨new, applied, others, mappedRest, rfl⟩ := mapped
      have tail := ih (fun line member => outside line (List.mem_filter.mpr
        ⟨List.mem_cons_of_mem _ (List.mem_filter.mp member).1, (List.mem_filter.mp member).2⟩)) mappedRest
      rw [List.filter_cons, List.filter_cons, tail]
      split at applied
      · next held =>
        have oldOutside := outside d (List.mem_filter.mpr ⟨List.mem_cons_self, held⟩)
        rw [kept d new oldOutside applied, oldOutside]
        rfl
      · cases applied
        rfl
  · cases success

end

theorem eraseP_leaves (outside : ∀ d ∈ (docs.find? p).toList, q d = false) :
    (docs.eraseP p).filter q = docs.filter q := by
  induction docs with
  | nil => rfl
  | cons d rest ih =>
    by_cases held : p d = true
    · have out := outside d (by rw [List.find?_cons, held]; exact List.mem_singleton_self _)
      rw [List.eraseP_cons_of_pos held, List.filter_cons, out]
      rfl
    · rw [List.find?_cons_of_neg held] at outside
      rw [List.eraseP_cons_of_neg held, List.filter_cons, List.filter_cons, ih outside]

variable {result : WriteResult}

/-- The lines of a session that a payload has nothing to do with. -/
theorem executeOnLines_leaves {after : List Doc}
    (spares : Spares op lines sessionId) (success : executeOnLines env op lines = .ok (result, after)) :
    after.filter (inSession sessionId) = lines.filter (inSession sessionId) := by
  have new : ∀ d : Doc, op = .insertOne d → inSession sessionId d = false := by
    rintro d rfl
    cases named : d "session_id" with
    | some v =>
      rw [isNamed_stated named]
      exact spares.named v named
    | none => exact inSession_unstated named
  cases op with
  | insertOne d =>
    simp only [executeOnLines, saveCountLine, bind_success, pure_success, Prod.mk.injEq] at success
    obtain ⟨⟨stored, saved⟩, success, rfl, rfl⟩ := success
    split at success
    · next identified =>
      split at success
      · cases success
      · simp only [Except.ok.injEq, Prod.mk.injEq] at success
        obtain ⟨rfl, rfl⟩ := success
        unfold Collection.upsert
        split
        · rw [List.filter_append, List.filter_cons, new d rfl]
          simp
        · next old found =>
          have out := spares.matched old (by simp [WriteOp.matched, identified, found])
          exact filter_replaceFirst found out (new d rfl)
    · simp only [bind_success, pure_success, Prod.mk.injEq] at success
      obtain ⟨_, inserted, rfl, rfl⟩ := success
      obtain ⟨_, rfl⟩ := Collection.insertOne_ok inserted
      have out : inSession sessionId (d.set "_id" (.oid env.freshOid)) = false := by
        rw [inSession_congr (Doc.set_other _ _ (by decide)) sessionId, new d rfl]
      rw [List.filter_append, List.filter_cons, out]
      simp
  | updateOne f u | findOneAndUpdate f u =>
    simp only [executeOnLines, bind_success, pure_success, Prod.mk.injEq] at success
    obtain ⟨⟨answer, saved⟩, updated, rfl, rfl⟩ := success
    exact updateOne_leaves updated spares.matched fun old new => spares.updated rfl rfl
  | updateMany f u =>
    simp only [executeOnLines, bind_success, pure_success, Prod.mk.injEq] at success
    obtain ⟨changed, updated, rfl, rfl⟩ := success
    exact updateMany_leaves updated spares.matched fun old new => spares.updated rfl rfl
  | deleteOne f =>
    cases success
    exact eraseP_leaves spares.matched
  | deleteMany f =>
    cases success
    rw [Collection.deleteMany, List.filter_filter]
    refine List.filter_congr fun line member => ?_
    cases held : f.holds line with
    | false => simp
    | true => rw [spares.matched line (List.mem_filter.mpr ⟨member, held⟩), Bool.false_and]
  | unsupported name =>
    cases success
    rfl

theorem Spares.restate {v : Update} (spares : Spares a lines sessionId)
    (matched : b.matched lines = a.matched lines) (first : a.update? = some u) (second : b.update? = some v)
    (session : b.session? = a.session?) (inc : v.inc = u.inc) (push : v.push = u.push) : Spares b lines sessionId := by
  constructor
  · rw [matched]
    exact spares.matched
  · rw [session]
    exact spares.named
  · intro w isUpdate
    rw [second] at isUpdate
    cases isUpdate
    have sets := spares.sets u first
    rw [Update.SetsSession, ← inc, ← push] at sets
    exact sets

theorem SameTarget.spares (same : SameTarget a b) (spares : Spares a lines sessionId) :
    Spares b lines sessionId := by
  cases same with
  | same => exact spares
  | @insert d e id session =>
    refine ⟨?_, ?_, nofun⟩
    · intro line member
      refine spares.matched line ?_
      rw [WriteOp.matched, Doc.has, Doc.get_eq, id] at member
      exact member
    · intro v named
      exact spares.named v (session.symm.trans named)
  | updateOne session inc push | findOneAndUpdate session inc push | updateMany session inc push =>
      exact spares.restate rfl rfl rfl session inc push

/-- A write that refreshes what it changes: no step is skipped, and it spares the sessions it does
not collect. -/
structure Refreshes (ctx : WriteContext) (op : WriteOp) (s : Store) : Prop where
  totals : ctx.skipSessionTotalsUpdate = false
  projects : ctx.skipProjectionSync = false
  covers : ∀ sessionId, sessionId ∉ collectSessionIds ctx op s → Spares op s.countLines sessionId

/-- The session document states the totals of the session's lines, and its row those of the lines it
shows. -/
structure TotalsExact (t : Store) (sessionId : String) : Prop where
  session : ∃ session, t.findSession sessionId = some session ∧
    (SessionTotals.ofLines (t.activeLines sessionId)).statedBy session
  row : sessionId ≠ "" → Text.strip sessionId = sessionId → WithinFetch t sessionId →
    ∃ row, t.sessionRow sessionId = some row ∧ (projectedTotals t sessionId).statedBy row

variable {ctx : WriteContext}

theorem captureSessionVersions_ok {ids : List String} {versions : List (String × Nat)}
    (captured : captureSessionVersions ctx ids s = .ok versions) : versions.map Prod.fst = ids ∧
      ∀ entry ∈ versions, ∃ session, s.findSession entry.1 = some session ∧ sessionVersion session = entry.2 := by
  induction ids generalizing versions with
  | nil =>
    cases captured
    exact ⟨rfl, nofun⟩
  | cons id rest ih =>
    cases found : s.findSession id with
    | none =>
      simp only [captureSessionVersions, List.mapM_cons, found] at captured
      cases captured
    | some session =>
      simp only [captureSessionVersions, List.mapM_cons, found, bind_success, pure_success, Except.ok.injEq] at captured
      obtain ⟨_, ⟨_, rfl, _, _, rfl⟩, others, capturedRest, rfl⟩ := captured
      obtain ⟨names, each⟩ := ih capturedRest
      constructor
      · rw [List.map_cons, names]
      · intro entry member
        rcases List.mem_cons.mp member with rfl | later
        · exact ⟨session, found, rfl⟩
        · exact each entry later

variable {t : Store}

theorem processWrite_exact (identified : Identified s.sessions)
    (refreshes : Refreshes ctx op s) (success : processWrite env ctx op s = .ok result t)
    (concerned : t.sessionLines sessionId ≠ s.sessionLines sessionId ∨ sessionId ∈ collectSessionIds ctx op s) :
    TotalsExact t sessionId := by
  rw [processWrite, withStore_ok, UnitOfWork.runCommitted_ok, processWriteCore_iff refreshes.projects] at success
  obtain ⟨p, u, w, prepared, executed, _, refreshed, rfl⟩ := success
  have same := prepareWrite_sameTarget prepared
  obtain ⟨_, _, _, _, _, captured⟩ := prepareWrite_ok prepared
  obtain ⟨names, versions⟩ := captureSessionVersions_ok captured
  rw [same.collects] at names
  obtain ⟨lines, executedLines, rfl⟩ := executeCountLineOperation_ok executed
  rw [refreshTotals, refreshes.totals, if_neg Bool.false_ne_true] at refreshed
  have countLines : w.countLines = lines := refresh_lines refreshed
  have collected : sessionId ∈ collectSessionIds ctx op s := by
    rcases concerned with changed | collected
    · by_contra missed
      refine changed ?_
      have left := executeOnLines_leaves (same.spares (refreshes.covers sessionId missed)) executedLines
      rw [Store.sessionLines, syncForSessions_countLines, countLines]
      exact left
    · exact collected
  rw [← names, List.mem_map] at collected
  obtain ⟨entry, listed, rfl⟩ := collected
  obtain ⟨session, found, stated⟩ :=
    @refresh_states env p.versions (s.withLines lines) w identified versions refreshed entry listed
  constructor
  · refine ⟨session, ?_, ?_⟩
    · rw [Store.findSession, syncForSessions_sessions]
      exact found
    · rw [Store.activeLines, Store.sessionLines, syncForSessions_countLines]
      exact stated
  · intro filled trimmed within
    rw [WithinFetch, syncForSessions_countLines] at within
    obtain ⟨row, stored, figures⟩ := @syncForSessions_states env session w entry.1 (p.versions.map Prod.fst)
      (List.mem_map.mpr ⟨entry, listed, rfl⟩) trimmed filled found within
    refine ⟨row, stored, ?_⟩
    rw [projectedTotals, Store.projectedLines, syncForSessions_countLines]
    exact figures

inductive LedgerEvent where
  | write (env : Env) (ctx : WriteContext) (op : WriteOp)
  /-- Whatever else happens to the store. -/
  | elsewhere (after : Store)

def ledgerStep (s : Store) : LedgerEvent → Store
  | .write env ctx op => (processWrite env ctx op).final s
  | .elsewhere after => after

/-- The rest of the system keeps the names of sessions apart. -/
def LedgerMeets (_ : Store) : LedgerEvent → Prop
  | .write .. => True
  | .elsewhere after => Identified after.sessions

def KeepsApart (s t : Store) : Prop := Identified s.sessions → Identified t.sessions

instance : Std.Refl KeepsApart where
  refl _ identified := identified

instance : IsTrans Store KeepsApart where
  trans _ _ _ first second identified := second (first identified)

theorem keepsApart_refreshSessionTotals (env : Env) (entry : String × Nat) :
    Moves KeepsApart (refreshSessionTotals env entry) := by
  refine Moves.bind (Moves.reads _) fun totals => Moves.bind (Moves.reads _) fun session => ?_
  refine Moves.bind (Moves.writes fun s t updated identified => ?_) fun _ => Moves.pure ()
  obtain ⟨_, _, rewritten⟩ := updateSessionWithOcc_rewrites identified (keepsNames_totals totals true env.now) updated
  exact rewritten.identified

theorem keepsApart_processWrite (env : Env) (ctx : WriteContext) (op : WriteOp) :
    Moves KeepsApart (processWrite env ctx op) := by
  intro s
  rw [processWrite, final_withStore]
  refine UnitOfWork.moves_runCommitted env.deployment ?_ s
  refine Moves.bind (Moves.reads _) fun p => ?_
  intro a
  refine final_transacts_bind (refl_of KeepsApart a) fun result b executed => ?_
  obtain ⟨lines, _, rfl⟩ := executeCountLineOperation_ok executed
  have rest : Moves KeepsApart (do
      reads (runPostWriteValidation env s ctx p.op result)
      refreshTotals env ctx p.versions
      syncProjections env ctx p.versions
      pure result) := by
    refine Moves.bind (Moves.reads _) fun _ => Moves.bind ?_ fun _ => Moves.bind ?_ fun _ => Moves.pure result
    · unfold refreshTotals
      split
      · exact Moves.pure ()
      · exact Moves.forM fun entry _ => keepsApart_refreshSessionTotals env entry
    · unfold syncProjections
      split
      · exact Moves.pure ()
      · refine Moves.writes fun u v synced identified => ?_
        rw [← Except.ok.inj synced, syncForSessions_sessions]
        exact identified
  exact fun identified => rest (a.withLines lines) identified

/-- In any run, after a successful governed write that refreshes what it changes, the totals of
every session whose lines it changed are exact, however many lines the session has. -/
theorem totals_exact {first s t : Store} {env : Env} {ctx : WriteContext} {op : WriteOp} {result : WriteResult}
    {sessionId : String} (identified : Identified first.sessions) (run : Reaches ledgerStep LedgerMeets first s)
    (refreshes : Refreshes ctx op s) (success : processWrite env ctx op s = .ok result t)
    (concerned : t.sessionLines sessionId ≠ s.sessionLines sessionId ∨ sessionId ∈ collectSessionIds ctx op s) :
    TotalsExact t sessionId := by
  have reached : Identified s.sessions := by
    refine @Reaches.invariant _ _ _ _ _ _ (fun a => Identified a.sessions) run identified fun a event apart meets => ?_
    cases event with
    | write env ctx op => exact keepsApart_processWrite env ctx op a apart
    | elsewhere after => exact meets
  exact processWrite_exact reached refreshes success concerned

/-- The sync of a count on the active session of `countingStore`. -/
def countInsert (verifiedQty : ℚ) : WriteOp :=
  .insertOne (syncDocument sampleEnv counter { exactRecord with verifiedQty := verifiedQty } "F1" "R1" "W1" 0 0)

def countingContext : WriteContext := sessionContext counter.username (countingStore.sessions.headD Doc.empty)

theorem totals_exact_counted : ∃ result t,
    processWrite sampleEnv countingContext (countInsert 10) countingStore = .ok result t ∧ TotalsExact t "S1" := by
  have succeeds : (processWrite sampleEnv countingContext (countInsert 10)).succeeds countingStore = true := by
    decide +kernel
  obtain ⟨result, t, success⟩ := exists_ok succeeds
  have identified : Identified countingStore.sessions := by
    intro name
    exact List.pairwise_singleton _ _
  have collected : collectSessionIds countingContext (countInsert 10) countingStore = ["S1"] := by decide
  have refreshes : Refreshes countingContext (countInsert 10) countingStore := by
    refine ⟨rfl, rfl, fun sessionId missed => ⟨?_, ?_, ?_⟩⟩
    · intro line member
      cases member
    · intro v named
      cases named
      rw [collected, List.mem_singleton] at missed
      have apart : isNamed sessionId (.str "S1") = false := by
        simpa [isNamed, inSession, Filter.holds, Filter.fieldIs] using Ne.symm missed
      exact apart
    · intro u isUpdate
      cases isUpdate
  exact ⟨result, t, success, totals_exact identified .start refreshes success (.inr (by rw [collected]; decide))⟩

/-- Session document and row state the same fold. -/
def StateOneFold (t : Store) (sessionId : String) : Prop :=
  ∃ session row, t.findSession sessionId = some session ∧ t.sessionRow sessionId = some row ∧
    (SessionTotals.ofLines (t.activeLines sessionId)).statedBy session ∧
    (SessionTotals.ofLines (t.activeLines sessionId)).statedBy row

def deviates (t : Store) (sessionId : String) : Bool :=
  let figures := (SessionTotals.ofLines (t.activeLines sessionId)).toFields
  match t.findSession sessionId, t.sessionRow sessionId with
  | some session, some row =>
    figures.any fun figure => session figure.1 != some figure.2 || row figure.1 != some figure.2
  | _, _ => true

theorem deviates_states (differs : deviates t sessionId = true) : ¬ StateOneFold t sessionId := by
  rintro ⟨session, row, found, stored, first, second⟩
  rw [deviates, found, stored] at differs
  obtain ⟨figure, listed, wrong⟩ := List.any_eq_true.mp differs
  rw [first figure listed, second figure listed] at wrong
  simp at wrong

def leavesDeviating (ctx : WriteContext) (op : WriteOp) (s : Store) : Bool :=
  match processWrite sampleEnv ctx op s with
  | .ok _ t => deviates t "S1"
  | .error _ _ => false

theorem leavesDeviating_states (differs : leavesDeviating ctx op s = true) :
    ∃ result t, processWrite sampleEnv ctx op s = .ok result t ∧ ¬ StateOneFold t "S1" := by
  unfold leavesDeviating at differs
  split at differs
  · next result t success => exact ⟨result, t, success, deviates_states differs⟩
  · cases differs

/-- The line of an earlier count. -/
def earlierLine : Doc :=
  Doc.ofList [("_id", .oid "b1"), ("id", .str "line-1"), ("session_id", .str "S1"), ("item_code", .str "I2"),
    ("counted_qty", .num 4), ("variance", .num 1), ("status", .str "pending"), ("version", .num 1),
    ("location_id", .str "W1"), ("floor_id", .str "F1"), ("rack_id", .str "R1")]

def countedStore (line : Doc) : Store := { countingStore with countLines := [line] }

def otherSession : Doc :=
  Doc.ofList [("id", .str "S2"), ("session_id", .str "S2"), ("status", .str "ACTIVE"), ("version", .num 1)]

def sharedStore : Store :=
  { countedStore earlierLine with sessions := countingStore.sessions ++ [otherSession] }

def otherContext : WriteContext := { sessionContext counter.username otherSession with sessionId := .str "S2" }

/-- A variance of five decimals, a write that skips the totals, an archived line, and a line that is
removed in the name of another session. -/
theorem figures_deviate :
    (∃ result t, processWrite sampleEnv countingContext (countInsert (10 + 1 / 100000)) countingStore = .ok result t ∧
      ¬ StateOneFold t "S1") ∧
    (∃ result t, processWrite sampleEnv { countingContext with skipSessionTotalsUpdate := true } (countInsert 10)
      countingStore = .ok result t ∧ ¬ StateOneFold t "S1") ∧
    (∃ result t, processWrite sampleEnv countingContext (countInsert 10)
      (countedStore (earlierLine.set "archived" (.bool true))) = .ok result t ∧ ¬ StateOneFold t "S1") ∧
    (∃ result t, processWrite sampleEnv otherContext (.deleteOne (.eq "id" (.str "line-1"))) sharedStore =
      .ok result t ∧ ¬ StateOneFold t "S1") := by
  refine ⟨leavesDeviating_states ?_, leavesDeviating_states ?_, leavesDeviating_states ?_, leavesDeviating_states ?_⟩
  · decide +kernel
  · decide +kernel
  · decide +kernel
  · decide

end StockVerification
