import StockVerification.RouteEffects

/-!
# Durability of acknowledged writes

Four operations open a unit of work themselves and answer success without a call
of `commit`: creating a line, the duplicate branch of batch sync, merging lines
and completing a recount with a quantity. What their blocks build reaches the
database only where there is no transaction to roll back.
-/
namespace StockVerification

open Foundation Foundation.Action UnitOfWork

inductive AcknowledgedWrite where
  | create (user : User) (body : CountLineCreate)
  | syncDuplicate (sessionId username : String) (session line existing : Doc)
  | merge (user : User) (sourceIds : List String) (targetId : String)
  | recount (user : User) (recountId : String) (notes : Option String) (resultQty : Option ℚ)

/-- Run the operation; the answer lists how its units of work were left. -/
def AcknowledgedWrite.run (env : Env) : AcknowledgedWrite → Request (List (Exit Store))
  | .create user body => do
    let answer ← createCountLine env user body
    pure answer.units
  | .syncDuplicate sessionId username session line existing => do
    let answer ← handleDuplicateCountLine env sessionId username session line existing
    pure answer.units
  | .merge user sourceIds targetId => do
    let answer ← mergeCountLines env user sourceIds targetId
    pure answer.units
  | .recount user recountId notes resultQty => do
    let answer ← completeRecount env user recountId notes resultQty
    pure answer.units

/-- Every line and every recount request the block built is in the database. -/
def IsDurable (exit : Exit Store) : Prop :=
  exit.left.countLines = exit.built.countLines ∧ exit.left.recountRequests = exit.built.recountRequests

/-- One source of a merge is written: it is another line of the target's session
and the two governed writes of its block are accepted. -/
def MergeGoesThrough (env : Env) (user : User) (targetId : String) (target targetSession : Doc)
    (sourceId : String) (s : Store) : Prop :=
  sourceId ≠ targetId ∧ ∃ source,
    s.countLines.find? (Filter.eq "id" (.str sourceId)).holds = some source ∧
    (source.get "session_id").textOrEmpty = (target.get "session_id").textOrEmpty ∧
    let opened := (enforceLogicFromLine env source).final s
    (mergeBlock env opened user targetId sourceId target targetSession source).succeeds opened = true

/-- No source of the loop is written, each looked at in the store before its round. -/
def MergesNothing (env : Env) (user : User) (targetId : String) (target targetSession : Doc) :
    List String → Store → Prop
  | [], _ => True
  | sourceId :: rest, s =>
    ¬ MergeGoesThrough env user targetId target targetSession sourceId s ∧
      MergesNothing env user targetId target targetSession rest
        ((mergeSource env user targetId target targetSession sourceId).final s)

/-- The operation opens no unit of work that writes: a repeated creation, a recount
completed without a quantity, a merge none of whose sources goes through. -/
def AcknowledgedWrite.WritesNothing (env : Env) (s : Store) : AcknowledgedWrite → Prop
  | .create _ body => (findIdempotentCountLine s body.normalizeLocationContext).isSome = true
  | .syncDuplicate _ _ _ _ _ => False
  | .merge user sourceIds targetId =>
    ∀ target, s.countLines.find? (Filter.eq "id" (.str targetId)).holds = some target →
      let opened := (enforceLogicFromLine env target).final s
      MergesNothing env user targetId target
        ((opened.findSession (target.get "session_id").textOrEmpty).getD Doc.empty) sourceIds opened
  | .recount _ _ _ resultQty => resultQty = none

theorem isDurable_iff {deployment : Deployment} {opened built : Store}
    (changed : opened.countLines ≠ built.countLines) :
    IsDurable ⟨built, settle deployment ⟨opened, built⟩⟩ ↔ deployment = .standalone := by
  cases deployment with
  | transactional =>
    simp only [IsDurable, settle, reduceCtorEq, iff_false, not_and]
    intro same
    exact absurd same changed
  | standalone => simp [IsDurable, settle]

variable {s t : Store} {f : Filter}

theorem countLines_length_of_updated {u : Update} {old new : Doc}
    (line : UpdatedLine f u s t old new) : t.countLines.length = s.countLines.length := by
  obtain ⟨front, back, split, matched, before⟩ := Collection.find_split line.found
  rw [line.stored, Store.withLines, split, Collection.replaceFirst_split matched before]
  simp

variable {env : Env} {u committed : Store} {document : Doc}

theorem insertThenSupersede_grows {v : Store} {ctx ctx' : WriteContext} {fields : Doc}
    {inserted marked : WriteResult} (noId : document "_id" = none) (plain : ctx'.transition = none)
    (first : processWriteCore env committed ctx (.insertOne document) s = .ok inserted u)
    (second : processWriteCore env committed ctx' (.updateOne f (.ofSet fields)) u = .ok marked v) :
    v.countLines.length = s.countLines.length + 1 := by
  obtain ⟨p, t, prepared, executed, toU⟩ := processWriteCore_ok first
  obtain ⟨line, _, stored, _, _, _⟩ := insertOne_effect noId prepared executed
  obtain ⟨q, w, prepared', executed', toV⟩ := processWriteCore_ok second
  obtain ⟨_, _, _, _, _, updated, _⟩ := updateOne_effect plain prepared' executed'
  have lengthW := countLines_length_of_updated updated
  have lengthU : u.countLines.length = s.countLines.length + 1 := by
    rw [toU.countLines, stored]
    simp [Store.withLines]
  rw [toV.countLines]
  omega

variable {user : User}

variable {username : String} {session : Doc}

theorem persistCountLineBlock_grows {answer : Doc} {target : Option Doc}
    (noId : document "_id" = none)
    (success : persistCountLineBlock env committed username session document target s = .ok answer u) :
    u.countLines.length = s.countLines.length + 1 := by
  simp only [persistCountLineBlock, bind_ok, pure_ok] at success
  obtain ⟨inserted, t, first, _, v, marked, _, rfl⟩ := success
  cases target with
  | none =>
    obtain ⟨_, rfl⟩ := pure_ok.mp marked
    obtain ⟨p, w, prepared, executed, toT⟩ := processWriteCore_ok first
    obtain ⟨line, _, stored, _, _, _⟩ := insertOne_effect noId prepared executed
    rw [toT.countLines, stored]
    simp [Store.withLines]
  | some old =>
    simp only [supersedeTarget, bind_ok, pure_ok] at marked
    obtain ⟨result, _, second, _, rfl⟩ := marked
    exact insertThenSupersede_grows noId rfl first second

variable {existing : Doc}

theorem duplicateSuccessor_noId {line successor : Doc}
    (success : duplicateSuccessor env line existing = .ok successor) : successor "_id" = none := by
  simp only [duplicateSuccessor, bind_success, pure_success] at success
  obtain ⟨_, _, _, _, rfl⟩ := success
  rw [Doc.setAll_other _ (by simp), Doc.erase_same]

theorem handleDuplicateBlock_grows {sessionId : String} {successor : Doc} {answer : Unit}
    (noId : successor "_id" = none)
    (success : handleDuplicateBlock env committed sessionId username session successor existing s = .ok answer u) :
    u.countLines.length = s.countLines.length + 1 := by
  simp only [handleDuplicateBlock, bind_ok, pure_ok] at success
  obtain ⟨_, _, first, _, _, second, _, rfl⟩ := success
  exact insertThenSupersede_grows noId rfl first second

theorem completeRecountBlock_grows {recountId : String} {notes : Option String} {qty : ℚ}
    {answer : Doc} (success : completeRecountBlock env committed user recountId notes qty s = .ok answer u) :
    u.countLines.length = s.countLines.length + 1 := by
  simp only [completeRecountBlock, bind_ok, pure_ok, reads_ok] at success
  obtain ⟨_, _, ⟨_, rfl⟩, _, _, ⟨_, rfl⟩, existing, _, ⟨_, rfl⟩, _, _, ⟨_, rfl⟩, session, _, ⟨_, rfl⟩,
    place, _, ⟨_, rfl⟩, successor, _, ⟨built, rfl⟩, _, _, first, _, marked, second, _, v, moved, _,
    rfl⟩ := success
  have grown := insertThenSupersede_grows (recountedLine_ok built).noId rfl first second
  have same := (moves_transitionRecountRequestCore env recountId "completed"
    (completionFields env (Text.strip user.username) notes (some qty)) marked).countLines
  rw [final_of_ok moved] at same
  rw [same]
  exact grown

/-- The sum of the versions of all lines; an absent version counts as zero. -/
def versionSum (lines : List Doc) : ℚ := (lines.map fun line => asFloat (line.get "version")).sum

/-- An increment of the version of one line moves the sum by one. -/
theorem versionSum_updated {u stamped : Update} {old new : Doc} {front : List (String × ℚ)}
    (fingerprinted : Fingerprinted env old u stamped) (line : UpdatedLine f stamped s t old new)
    (split : u.inc = front ++ [("version", 1)]) (once : ∀ entry ∈ front, entry.1 ≠ "version")
    (noPush : ∀ entry ∈ u.push, entry.1 ≠ "version") : versionSum t.countLines = versionSum s.countLines + 1 := by
  obtain ⟨q, start, grown⟩ := Update.apply_inc line.applied
    (by rw [fingerprinted.inc, split]) (by simpa using once) (by rw [fingerprinted.push]; exact noPush)
  have oldVersion : asFloat (old.get "version") = q := by
    rcases start with ⟨absent, rfl⟩ | stored
    · simp [Doc.get_eq, absent, asFloat, Value.number]
    · simp [Doc.get_eq, stored, asFloat, Value.number]
  have newVersion : asFloat (new.get "version") = q + 1 := by
    simp [Doc.get_eq, grown, asFloat, Value.number]
  obtain ⟨before, back, linesEq, matched, notBefore⟩ := Collection.find_split line.found
  rw [line.stored, Store.withLines, linesEq, Collection.replaceFirst_split matched notBefore]
  simp only [versionSum, List.map_append, List.map_cons, List.sum_append, List.sum_cons, oldVersion, newVersion]
  ring

variable {targetId : String} {targetSession target : Doc}

/-- The block of a merge changes the lines: it moves two versions. -/
theorem mergeBlock_changes {sourceId : String} {source : Doc} {answer : Unit}
    (success : mergeBlock env committed user targetId sourceId target targetSession source s = .ok answer u) :
    s.countLines ≠ u.countLines := by
  simp only [mergeBlock, bind_ok, pure_ok, reads_ok] at success
  obtain ⟨qty, _, ⟨_, rfl⟩, _, t, first, _, v, second, _, rfl⟩ := success
  obtain ⟨_, _, prepared, executed, toT⟩ := processWriteCore_ok first
  obtain ⟨_, _, _, fingerprinted, line, _⟩ := findOneAndUpdate_effect prepared executed
  obtain ⟨_, _, prepared', executed', toV⟩ := processWriteCore_ok second
  obtain ⟨_, _, _, fingerprinted', line', _⟩ := findOneAndUpdate_effect prepared' executed'
  have sumFirst := versionSum_updated fingerprinted line
    (show _ = [("counted_qty", qty)] ++ [("version", 1)] from rfl)
    (by simp) (by simp)
  have sumSecond := versionSum_updated fingerprinted' line'
    (show _ = [] ++ [("version", 1)] from rfl) (by simp) (by simp)
  rw [← toT.countLines] at sumFirst
  rw [← toV.countLines] at sumSecond
  intro same
  rw [← same, sumFirst] at sumSecond
  linarith

def OpenedNone (units : List (Exit Store)) : Prop := units = []

/-- The operation opened one unit of work, without a commit, and its block changed
the lines. -/
def OpenedOne (deployment : Deployment) (units : List (Exit Store)) : Prop :=
  ∃ opened built : Store, opened.countLines ≠ built.countLines ∧ units = [⟨built, settle deployment ⟨opened, built⟩⟩]

theorem countLines_ne_of_length (grown : t.countLines.length = s.countLines.length + 1) :
    s.countLines ≠ t.countLines := by
  intro same
  rw [same] at grown
  omega

theorem findIdempotentCountLine_congr (lines : t.countLines = s.countLines)
    (line : CountLineCreate) : findIdempotentCountLine t line = findIdempotentCountLine s line := by
  unfold findIdempotentCountLine
  rw [lines]

theorem storeCountLine_unit {line : CountLineCreate} {a : Admission} {stored : Doc} {exit : Exit Store}
    (success : storeCountLine env user line a s = .ok (stored, exit) t) : OpenedOne env.deployment [exit] := by
  simp only [storeCountLine, bind_ok, reads_ok] at success
  obtain ⟨target, _, ⟨_, rfl⟩, document, _, ⟨built, rfl⟩, persisted⟩ := success
  obtain ⟨u, block, rfl, _⟩ := runObserved_write_ok.mp persisted
  have grown := persistCountLineBlock_grows (buildCountLineDocument_ok built).noId block
  exact ⟨s, u, countLines_ne_of_length grown, rfl⟩

theorem createCountLine_units {body : CountLineCreate} {answer : Answer Doc}
    (success : createCountLine env user body s = .ok answer t) :
    ((findIdempotentCountLine s body.normalizeLocationContext).isSome = true ∧ OpenedNone answer.units) ∨
      ((findIdempotentCountLine s body.normalizeLocationContext).isSome = false ∧
        OpenedOne env.deployment answer.units) := by
  unfold createCountLine at success
  obtain ⟨session, _, found, success⟩ := bind_ok.mp success
  obtain ⟨_, rfl⟩ := reads_ok.mp found
  obtain ⟨_, pinned, enforced, success⟩ := bind_ok.mp success
  obtain ⟨_, _, accepted, success⟩ := bind_ok.mp success
  obtain ⟨_, rfl⟩ := reads_ok.mp accepted
  obtain ⟨replay, _, looked, success⟩ := bind_ok.mp success
  obtain ⟨replayEq, rfl⟩ := reads_ok.mp looked
  have touched := moves_enforceSessionLogic env session s
  rw [final_of_ok enforced] at touched
  have sameReplay := findIdempotentCountLine_congr touched.countLines body.normalizeLocationContext
  rw [sameReplay] at replayEq
  cases Except.ok.inj replayEq
  cases replay : findIdempotentCountLine s body.normalizeLocationContext with
  | some existing =>
    rw [replay] at success
    obtain ⟨rfl, _⟩ := pure_ok.mp success
    exact .inl ⟨rfl, rfl⟩
  | none =>
    rw [replay] at success
    simp only [bind_ok, mapError_ok, pure_ok] at success
    obtain ⟨a, _, _, _, _, _, ⟨stored, exit⟩, _, persisted, _, _, _, _, _, _, rfl, _⟩ := success
    exact .inr ⟨rfl, storeCountLine_unit persisted⟩

theorem handleDuplicateCountLine_units {sessionId : String} {line : Doc} {answer : Answer String}
    (success : handleDuplicateCountLine env sessionId username session line existing s = .ok answer t) :
    OpenedOne env.deployment answer.units := by
  simp only [handleDuplicateCountLine, bind_ok, reads_ok, pure_ok] at success
  obtain ⟨_, _, ⟨_, rfl⟩, successor, _, ⟨built, rfl⟩, ⟨_, exit⟩, _, left, rfl, _⟩ := success
  obtain ⟨u, block, rfl, _⟩ := runObserved_write_ok.mp left
  have grown := handleDuplicateBlock_grows (duplicateSuccessor_noId built) block
  exact ⟨s, u, countLines_ne_of_length grown, rfl⟩

theorem completeRecount_units {recountId : String} {notes : Option String} {resultQty : Option ℚ} {answer : Answer Unit}
    (success : completeRecount env user recountId notes resultQty s = .ok answer t) :
    (resultQty = none ∧ OpenedNone answer.units) ∨ (resultQty ≠ none ∧ OpenedOne env.deployment answer.units) := by
  simp only [completeRecount, mapError_ok, bind_ok, reads_ok, pure_ok] at success
  obtain ⟨recount, _, ⟨_, rfl⟩, _, _, ⟨_, rfl⟩, settled, _, settling, _, _, ⟨_, rfl⟩, rfl, _⟩ := success
  cases resultQty with
  | none =>
    simp only [settleRecount, bind_ok, pure_ok] at settling
    obtain ⟨_, _, _, rfl, _⟩ := settling
    exact .inl ⟨rfl, rfl⟩
  | some qty =>
    simp only [settleRecount, bind_ok, pure_ok] at settling
    obtain ⟨⟨reread, exit⟩, _, left, rfl, _⟩ := settling
    obtain ⟨u, block, rfl, _⟩ := runObserved_write_ok.mp left
    have grown := completeRecountBlock_grows block
    exact .inr ⟨by simp, s, u, countLines_ne_of_length grown, rfl⟩

/-- One round of a merge: nothing was merged and nothing could be, or the block went
through and changed the lines. -/
theorem mergeSource_unit {sourceId : String} {outcome : MergeOutcome}
    (success : mergeSource env user targetId target targetSession sourceId s = .ok outcome t) :
    (¬ MergeGoesThrough env user targetId target targetSession sourceId s ∧ OpenedNone outcome.exit?.toList) ∨
      (MergeGoesThrough env user targetId target targetSession sourceId s ∧
        OpenedOne env.deployment outcome.exit?.toList) := by
  unfold mergeSource at success
  split at success
  · next same =>
    obtain ⟨rfl, _⟩ := pure_ok.mp success
    exact .inl ⟨fun through => through.1 same, rfl⟩
  · next different =>
    obtain ⟨found, _, looked, success⟩ := bind_ok.mp success
    obtain ⟨foundEq, rfl⟩ := reads_ok.mp looked
    cases Except.ok.inj foundEq
    cases found : s.countLines.find? (Filter.eq "id" (.str sourceId)).holds with
    | none =>
      rw [found] at success
      obtain ⟨rfl, _⟩ := pure_ok.mp success
      refine .inl ⟨?_, rfl⟩
      rintro ⟨_, source, present, _⟩
      rw [found] at present
      cases present
    | some source =>
      rw [found] at success
      obtain ⟨_, opened, enforced, success⟩ := bind_ok.mp success
      have openedEq := final_of_ok enforced
      split at success
      · next elsewhere =>
        obtain ⟨rfl, _⟩ := pure_ok.mp success
        refine .inl ⟨?_, rfl⟩
        rintro ⟨_, other, present, sameSession, _⟩
        rw [found] at present
        cases present
        exact elsewhere sameSession
      · next sameSession =>
        obtain ⟨answer, left, attempted, success⟩ := bind_ok.mp success
        rcases attempt_ok.mp attempted with ⟨⟨_, exit⟩, ran, rfl⟩ | ⟨e, failed, rfl⟩
        · obtain ⟨rfl, _⟩ := pure_ok.mp success
          obtain ⟨u, block, rfl, _⟩ := runObserved_write_ok.mp ran
          refine .inr ⟨⟨different, source, found, not_not.mp sameSession, ?_⟩, opened, u,
            mergeBlock_changes block, rfl⟩
          rw [openedEq]
          exact succeeds_of_ok block
        · obtain ⟨rfl, _⟩ := pure_ok.mp success
          refine .inl ⟨?_, rfl⟩
          rintro ⟨_, other, present, _, through⟩
          rw [found] at present
          cases present
          simp only [openedEq] at through
          obtain ⟨a, u, block⟩ := exists_ok through
          simp only [runObserved, write, withStore, block] at failed
          cases failed

/-- The loop of a merge: its units of work are durable exactly on a standalone server
or where no source goes through. -/
theorem mergeLoop_durable_iff {sourceIds : List String} {outcomes : List MergeOutcome}
    (success : sourceIds.mapM (mergeSource env user targetId target targetSession) s = .ok outcomes t) :
    (∀ exit ∈ outcomes.filterMap MergeOutcome.exit?, IsDurable exit) ↔
      env.deployment = .standalone ∨ MergesNothing env user targetId target targetSession sourceIds s := by
  induction sourceIds generalizing s outcomes with
  | nil =>
    rw [List.mapM_nil] at success
    obtain ⟨rfl, _⟩ := pure_ok.mp success
    simp [MergesNothing]
  | cons sourceId rest ih =>
    simp only [List.mapM_cons, bind_ok, pure_ok] at success
    obtain ⟨outcome, u, first, others, _, loop, rfl, rfl⟩ := success
    have durableRest := ih loop
    have finalEq := final_of_ok first
    simp only [MergesNothing, finalEq]
    rcases mergeSource_unit first with ⟨blocked, unopened⟩ | ⟨through, opened, built, changed, one⟩
    · have noExit : outcome.exit? = none := by simpa [OpenedNone] using unopened
      rw [List.filterMap_cons_none noExit, durableRest]
      simp [blocked]
    · have exitEq : outcome.exit? = some ⟨built, settle env.deployment ⟨opened, built⟩⟩ := by
        cases h : outcome.exit? with
        | none => simp [h] at one
        | some exit =>
          rw [h] at one
          simpa using one
      rw [List.filterMap_cons_some exitEq]
      simp only [List.forall_mem_cons, isDurable_iff changed, through, not_true, false_and, or_false]
      constructor
      · exact fun h => h.1
      · exact fun alone => ⟨alone, durableRest.mpr (.inl alone)⟩

theorem opened_durable_iff {deployment : Deployment} {units : List (Exit Store)} {nothing : Prop}
    (cases : (nothing ∧ OpenedNone units) ∨ (¬ nothing ∧ OpenedOne deployment units)) :
    (∀ exit ∈ units, IsDurable exit) ↔ deployment = .standalone ∨ nothing := by
  rcases cases with ⟨holds, rfl⟩ | ⟨fails, opened, built, changed, rfl⟩
  · simp [holds]
  · simp [isDurable_iff changed, fails]

/-- What an acknowledged operation wrote inside its units of work is in the database
exactly where the server has no transactions or the operation wrote nothing there. -/
theorem acknowledged_durable_iff {env : Env} {op : AcknowledgedWrite} {s t : Store}
    {units : List (Exit Store)} (success : op.run env s = .ok units t) :
    (∀ exit ∈ units, IsDurable exit) ↔ env.deployment = .standalone ∨ op.WritesNothing env s := by
  cases op with
  | create user body =>
    simp only [AcknowledgedWrite.run, bind_ok, pure_ok] at success
    obtain ⟨answer, _, created, rfl, _⟩ := success
    refine opened_durable_iff ?_
    rcases createCountLine_units created with ⟨replay, unopened⟩ | ⟨fresh, one⟩
    · exact .inl ⟨replay, unopened⟩
    · exact .inr ⟨by simp [AcknowledgedWrite.WritesNothing, fresh], one⟩
  | syncDuplicate sessionId username session line existing =>
    simp only [AcknowledgedWrite.run, bind_ok, pure_ok] at success
    obtain ⟨answer, _, handled, rfl, _⟩ := success
    exact opened_durable_iff (.inr ⟨not_false, handleDuplicateCountLine_units handled⟩)
  | merge user sourceIds targetId =>
    simp only [AcknowledgedWrite.run, mergeCountLines, bind_ok, pure_ok, reads_ok] at success
    obtain ⟨answer, _, ⟨_, _, ⟨_, rfl⟩, target, _, ⟨lookup, rfl⟩, _, opened, enforced,
      targetSession, _, ⟨mutableEq, rfl⟩, _, _, ⟨_, rfl⟩, outcomes, _, loop, _, _, _, rfl, _⟩, rfl, _⟩ :=
      success
    have found : s.countLines.find? (Filter.eq "id" (.str targetId)).holds = some target := by
      split at lookup
      · next present => rw [present, Except.ok.inj lookup]
      · cases lookup
    have sessionEq : targetSession = (opened.findSession (target.get "session_id").textOrEmpty).getD Doc.empty := by
      simp only [ensureCountLineMutable, bind_success, pure, Except.pure, Except.ok.injEq] at mutableEq
      obtain ⟨_, _, _, _, rfl⟩ := mutableEq
      rfl
    rw [mergeLoop_durable_iff loop]
    simp only [AcknowledgedWrite.WritesNothing, found, Option.some.injEq, forall_eq', final_of_ok enforced, sessionEq]
  | recount user recountId notes resultQty =>
    simp only [AcknowledgedWrite.run, bind_ok, pure_ok] at success
    obtain ⟨answer, _, completed, rfl, _⟩ := success
    exact opened_durable_iff (completeRecount_units completed)

def standaloneEnv : Env := { sampleEnv with deployment := .standalone }

theorem acknowledged_durable_standalone :
    ∃ units t, (AcknowledgedWrite.create counter exactCount).run standaloneEnv countingStore =
      .ok units t ∧ t.countLines.length = 1 ∧ ∀ exit ∈ units, IsDurable exit := by
  obtain ⟨units, t, ran⟩ := exists_ok (x := (AcknowledgedWrite.create counter exactCount).run
    standaloneEnv) (s := countingStore) (by decide +kernel)
  refine ⟨units, t, ran, ?_, (acknowledged_durable_iff ran).mpr (.inl rfl)⟩
  rw [← final_of_ok ran]
  decide +kernel

/-- On a replica set a creation answers with the line and stores nothing. -/
theorem acknowledged_create_lost :
    ∃ units t, (AcknowledgedWrite.create counter exactCount).run sampleEnv countingStore =
      .ok units t ∧ t.countLines.length = 0 ∧ ¬ ∀ exit ∈ units, IsDurable exit := by
  obtain ⟨units, t, ran⟩ := exists_ok (x := (AcknowledgedWrite.create counter exactCount).run
    sampleEnv) (s := countingStore) (by decide +kernel)
  refine ⟨units, t, ran, ?_, ?_⟩
  · rw [← final_of_ok ran]
    decide +kernel
  · simp only [AcknowledgedWrite.run, bind_ok, pure_ok] at ran
    obtain ⟨answer, _, created, rfl, _⟩ := ran
    rcases createCountLine_units created with ⟨replay, _⟩ | ⟨_, opened, built, changed, unitsEq⟩
    · exact absurd replay (by decide +kernel)
    · intro durable
      have kept := durable _ (by rw [unitsEq]; exact List.mem_singleton_self _)
      exact absurd ((isDurable_iff changed).mp kept) (by decide +kernel)

end StockVerification
