import StockVerification.ReviewRoutes
import StockVerification.WriteEffects

/-!
# What a route does

One rule per route: a property of the lines holds after the route, whatever its
answer, once it is kept by each governed write the route may make. Invariants of
the lines are derived from these rules and never unfold a route.
-/
namespace StockVerification

open Foundation Foundation.Action UnitOfWork

/-- The part of a governed write that changes the lines. -/
def WriteStep (env : Env) (ctx : WriteContext) (op : WriteOp) (s t : Store) : Prop :=
  ∃ p result, prepareWrite env ctx op s = .ok p ∧ executeCountLineOperation env p.op s = .ok (result, t)

/-- `t` differs from `s` at most in sessions, their mirror and projection, requests,
conflicts and operation records. -/
def SameLines (s t : Store) : Prop :=
  ∃ sessions mirrors rows recounts operations conflicts, t = { s with
    sessions := sessions, verificationSessions := mirrors, sessionDashboard := rows
    recountRequests := recounts, idempotencyOperations := operations, syncConflicts := conflicts }

instance : Std.Refl SameLines where
  refl s := ⟨s.sessions, s.verificationSessions, s.sessionDashboard, s.recountRequests,
    s.idempotencyOperations, s.syncConflicts, rfl⟩

instance : IsTrans Store SameLines where
  trans := by
    rintro a b c ⟨_, _, _, _, _, _, rfl⟩ ⟨sessions, mirrors, rows, recounts, operations, conflicts, rfl⟩
    exact ⟨sessions, mirrors, rows, recounts, operations, conflicts, rfl⟩

variable {s t : Store}

theorem OnlySessions.sameLines (h : OnlySessions s t) : SameLines s t := by
  obtain ⟨sessions, rows, rfl⟩ := h
  exact ⟨sessions, s.verificationSessions, rows, s.recountRequests, s.idempotencyOperations, s.syncConflicts, rfl⟩

theorem SameLines.countLines (h : SameLines s t) : t.countLines = s.countLines := by
  obtain ⟨_, _, _, _, _, _, rfl⟩ := h
  rfl

/-- The property is one of the lines and of what the checks on lines read. -/
def OfLines (I : Store → Prop) : Prop := ∀ s t, SameLines s t → I s → I t

section rules

variable {I : Store → Prop} {env : Env} {user : User}

/-- A step that moves sessions only keeps what is about the lines. -/
theorem OfLines.final {α : Type} (free : OfLines I) (inv : I s) {x : Request α}
    (moves : Moves OnlySessions x) : I (x.final s) := free _ _ (moves s).sameLines inv

variable {ctx : WriteContext}

/-- A governed write keeps what its effect keeps. -/
theorem final_governedCore (free : OfLines I) (inv : I s) {committed : Store} {op : WriteOp}
    (step : ∀ t, WriteStep env ctx op s t → I t) : I ((processWriteCore env committed ctx op).final s) := by
  refine final_processWriteCore inv fun p result t u prepared executed touched => ?_
  exact free t u touched.sameLines (step t ⟨p, result, prepared, executed⟩)

theorem final_governed (free : OfLines I) (inv : I s) {op : WriteOp}
    (step : ∀ t, WriteStep env ctx op s t → I t) : I ((processWrite env ctx op).final s) := by
  refine final_processWrite inv fun p result t u prepared executed touched => ?_
  exact free t u touched.sameLines (step t ⟨p, result, prepared, executed⟩)

/-- The fields of a built document that identify its line. -/
structure BuiltLine (env : Env) (line : CountLineCreate) (target : Option Doc) (document : Doc) :
    Prop where
  noId : document "_id" = none
  id : document "id" = some (.str env.freshId)
  session : document "session_id" = some (.str line.sessionId)
  item : document "item_code" = some (.str line.itemCode)
  counted : document "counted_qty" = some (.num line.countedQty)
  floor : document "floor_no" = some ((optionalText line.floorNo).orElse (optionalText line.floorId))
  rack : document "rack_no" = some ((optionalText line.rackNo).orElse (optionalText line.rackId))
  key : document "idempotency_key" = some (.str (line.normalizedKey.getD env.freshId))
  previous : document "previous_version_id" = some (optionalText (target.bind extractDocumentId))
  version : ∃ old, intOrError ((target.getD Doc.empty).get "version") 1 = .ok old ∧
    document "version" = some (.num (old + (if target.isSome then 1 else 0) : Int))

theorem copiedFields_names (details : Doc) :
    (copiedFields.map fun field => (field, details.get field)).map Prod.fst = copiedFields := by
  rw [List.map_map]
  exact List.map_id _

variable {a : Admission}

section

variable {line : CountLineCreate} {target : Option Doc} {document : Doc}
  (built : buildCountLineDocument env user line a target = .ok document)
include built

/-- Names that a built document does not have. -/
theorem built_other : ∀ field ∈ ["_id", "finalized_at", "item_id", "semantic_hash", "superseded_at",
    "superseded_by_version_id"], document field = none := by
  simp only [buildCountLineDocument, bind_success, pure_success] at built
  obtain ⟨version, _, iteration, _, rfl⟩ := built
  intro field other
  refine Doc.ofList_other ?_
  rw [List.map_append, copiedFields_names]
  simp only [List.map_cons, List.map_nil]
  revert field
  decide

/-- What a built document has from the request. -/
theorem buildCountLineDocument_ok : BuiltLine env line target document := by
  have noId := built_other built "_id" (by decide)
  simp only [buildCountLineDocument, bind_success, pure_success] at built
  obtain ⟨version, versionEq, iteration, _, rfl⟩ := built
  exact ⟨noId, rfl, rfl, rfl, rfl, rfl, rfl, rfl, rfl, version, versionEq, rfl⟩

end

/-- What a creation may write: the new line on a store that differs in sessions only
from the one it was admitted on, and then the mark on the line it replaces. -/
structure CreationKeeps (I : Store → Prop) (env : Env) (user : User) (line : CountLineCreate)
    (s : Store) : Prop where
  insert : ∀ t t' session a target document, env.deployment = .standalone → OnlySessions s t →
    assessCountLine line session t = .ok a → resolveRecountTarget line t = .ok target →
    buildCountLineDocument env user line a target = .ok document → I t →
    WriteStep env (persistContext user.username a.session) (.insertOne document) t t' → I t'
  supersede : ∀ t t' session document (old : Doc), env.deployment = .standalone → I t →
    WriteStep env (persistContext user.username session) (.updateOne (.eq "_id" (old.get "_id"))
      (.ofSet (supersededFields env user.username document))) t t' → I t'

variable {session : Doc}

/-- The insertion and the mark of the replaced line, in one block. -/
theorem final_storeCountLine (free : OfLines I) {line : CountLineCreate} (keeps : CreationKeeps I env user line s)
    (touched : OnlySessions s t) (assessed : assessCountLine line session t = .ok a) (inv : I t) :
    I ((storeCountLine env user line a).final t) := by
  unfold storeCountLine
  refine final_reads_bind inv fun target resolved => ?_
  refine final_reads_bind inv fun document built => ?_
  refine final_runObserved_write inv fun alone => ?_
  rw [final_withStore]
  unfold persistCountLineBlock
  have inserted : I ((processWriteCore env t (persistContext user.username a.session)
      (.insertOne document)).final t) :=
    final_governedCore free inv fun t' step =>
      keeps.insert t t' session a target document alone touched assessed resolved built inv step
  refine final_bind_keep inserted fun result u _ invU => ?_
  have marked : I ((supersedeTarget env t (persistContext user.username a.session) document target).final u) := by
    cases target with
    | none => exact invU
    | some old =>
      refine final_bind_keep ?_ fun _ v _ invV => invV
      exact final_governedCore free invU fun v step => keeps.supersede u v _ document old alone invU step
  exact final_bind_keep marked fun _ v _ invV => invV

/-- `create_count_line` writes what it stores and moves sessions. -/
theorem final_createCountLine (free : OfLines I) {body : CountLineCreate}
    (keeps : CreationKeeps I env user body.normalizeLocationContext s) (inv : I s) :
    I ((createCountLine env user body).final s) := by
  unfold createCountLine
  refine final_reads_bind inv fun session found => ?_
  refine final_bind_keep (free.final inv (moves_enforceSessionLogic env session)) fun _ t enforced invT => ?_
  have touched : OnlySessions s t := by
    have moved := moves_enforceSessionLogic env session s
    rwa [final_of_ok enforced] at moved
  refine final_reads_bind invT fun _ _ => ?_
  refine final_reads_bind invT fun replay _ => ?_
  cases replay with
  | some existing => exact invT
  | none =>
    refine final_reads_bind invT fun a assessed => ?_
    refine final_reads_bind invT fun _ _ => ?_
    have stored : I ((mapError concurrencyToConflict
        (storeCountLine env user body.normalizeLocationContext a)).final t) := by
      rw [final_mapError]
      exact final_storeCountLine free keeps touched assessed invT
    refine final_bind_keep stored fun answer u _ invU => ?_
    have recomputed := free.final invU (Moves.attempt
      (moves_recomputeSessionTotals env body.normalizeLocationContext.sessionId))
    refine final_bind_keep recomputed fun _ v _ invV => ?_
    have named := free.final invV (Moves.attempt (moves_maybeUpdateSessionBarcode env body.normalizeLocationContext))
    exact final_bind_keep named fun _ w _ invW => invW

variable {lineId : String}

theorem final_openLineForChange (free : OfLines I) (inv : I s)
    {check : Except Error Unit} : I ((openLineForChange env user lineId check).final s) := by
  refine free.final inv ?_
  refine Moves.bind (Moves.reads _) fun line => Moves.bind (Moves.reads _) fun session => ?_
  exact Moves.bind (moves_enforceLogicFromLine env line) fun _ => Moves.bind (Moves.reads _) fun _ =>
    Moves.bind (Moves.reads _) fun _ => Moves.pure _

theorem opened_ok {found : Doc} (lookup : (match findCountLine s lineId with
    | some line => .ok line
    | none => .error (.http 404 "Count line not found") : Except Error Doc) = .ok found)
    (mutableEq : ensureCountLineMutable found s = .ok session) (enforced : enforceLogicFromLine env found s = .ok () t) :
    findCountLine s lineId = some found ∧ isCountLineLocked found = false ∧ OnlySessions s t := by
  have moved := moves_enforceLogicFromLine env found s
  rw [final_of_ok enforced] at moved
  refine ⟨?_, ?_, moved⟩
  · split at lookup
    · next present => rw [present, Except.ok.inj lookup]
    · cases lookup
  · simp only [ensureCountLineMutable, bind_success, require_ok] at mutableEq
    obtain ⟨_, unlocked, _⟩ := mutableEq
    simpa using unlocked

/-- The opened line is stored and not locked. -/
theorem openLineForChange_ok {check : Except Error Unit} {line : Doc}
    (success : openLineForChange env user lineId check s = .ok (line, session) t) :
    findCountLine s lineId = some line ∧ isCountLineLocked line = false ∧ OnlySessions s t := by
  simp only [openLineForChange, bind_ok, reads_ok, pure_ok, Prod.mk.injEq] at success
  obtain ⟨found, _, ⟨lookup, rfl⟩, _, _, ⟨mutableEq, rfl⟩, _, u, enforced, _, _, ⟨_, rfl⟩, _, _,
    ⟨_, rfl⟩, ⟨rfl, rfl⟩, rfl⟩ := success
  exact opened_ok lookup mutableEq enforced

section

variable (free : OfLines I) (inv : I s) {change : QuantityChange}
include free inv

/-- `add_quantity_to_count_line` makes one write. -/
theorem final_addQuantityToCountLine
    (step : ∀ t t' line session, OnlySessions s t → findCountLine s lineId = some line → I t →
      change.qty.getD 0 ≠ 0 →
      WriteStep env (lineContext user line session (some (erpItemForExistingLine t line)))
        (.findOneAndUpdate (versionedLineFilter line) (addQuantityUpdate env user (change.qty.getD 0) change)) t t' →
      I t') :
    I ((addQuantityToCountLine env user lineId change).final s) := by
  unfold addQuantityToCountLine
  refine final_bind_keep (final_openLineForChange free inv) fun opened t ran invT => ?_
  obtain ⟨found, _, touched⟩ := openLineForChange_ok ran
  have nonzero : change.qty.getD 0 ≠ 0 := by
    simp only [openLineForChange, bind_ok, reads_ok, require_ok] at ran
    obtain ⟨_, _, _, _, _, _, _, _, _, _, _, ⟨checked, _⟩, _⟩ := ran
    simpa using checked
  refine final_reads_bind invT fun erpItem itemEq => ?_
  cases Except.ok.inj itemEq
  refine final_bind_keep (final_governed free invT fun t' written =>
    step t t' opened.1 opened.2 touched found invT nonzero written) fun result u _ invU => ?_
  refine final_reads_bind invU fun updated _ => ?_
  have recomputed := free.final invU (Moves.attempt
    (moves_recomputeSessionTotals env (opened.1.get "session_id").textOrEmpty))
  exact final_bind_keep recomputed fun _ w _ invW => invW

/-- `update_count_line` makes one write. -/
theorem final_updateCountLine
    (step : ∀ t t' line session fields, OnlySessions s t → findCountLine s lineId = some line → I t →
      updateCountLineFields env user line change t = .ok fields →
      WriteStep env (lineContext user line session (change.qty.map fun _ => erpItemForExistingLine t line))
        (.findOneAndUpdate (versionedLineFilter line) { set := fields, inc := [("version", 1)] }) t t' →
      I t') :
    I ((updateCountLine env user lineId change).final s) := by
  unfold updateCountLine
  refine final_bind_keep (final_openLineForChange free inv) fun opened t ran invT => ?_
  obtain ⟨found, _, touched⟩ := openLineForChange_ok ran
  refine final_reads_bind invT fun fields fieldsEq => ?_
  refine final_reads_bind invT fun erpItem itemEq => ?_
  cases Except.ok.inj itemEq
  refine final_bind_keep (final_governed free invT fun t' written =>
    step t t' opened.1 opened.2 fields touched found invT fieldsEq written) fun result u _ invU => ?_
  refine final_reads_bind invU fun _ _ => ?_
  have recomputed := free.final invU (Moves.attempt
    (moves_recomputeSessionTotals env (opened.1.get "session_id").textOrEmpty))
  exact final_bind_keep recomputed fun _ w _ invW => invW

end

/-- What one round of a merge may write. -/
structure MergeKeeps (I : Store → Prop) (env : Env) (user : User) (targetId sourceId : String)
    (target targetSession : Doc) (s : Store) : Prop where
  target : ∀ t t' source qty, env.deployment = .standalone → OnlySessions s t →
    sourceId ≠ targetId →
    s.countLines.find? (Filter.eq "id" (.str sourceId)).holds = some source →
    (source.get "session_id").textOrEmpty = (target.get "session_id").textOrEmpty →
    floatOrError (source.get "counted_qty") = .ok qty → I t →
    WriteStep env (mergeTargetContext user target targetSession (erpItemForExistingLine t target))
      (mergeTargetWrite targetId sourceId qty) t t' → I t'
  source : ∀ t t' source, env.deployment = .standalone → I t →
    WriteStep env (mergeSourceContext user source) (mergeSourceWrite env targetId sourceId source) t t' → I t'

variable {targetId : String} {targetSession : Doc}

/-- One round of a merge: the target takes the quantity, and the source is marked. -/
theorem final_mergeSource (free : OfLines I) {sourceId : String} {target : Doc}
    (keeps : MergeKeeps I env user targetId sourceId target targetSession s) (inv : I s) :
    I ((mergeSource env user targetId target targetSession sourceId).final s) := by
  unfold mergeSource
  split
  · exact inv
  · next different =>
    refine final_reads_bind inv fun found looked => ?_
    cases found with
    | none => exact inv
    | some source =>
      have present : s.countLines.find? (Filter.eq "id" (.str sourceId)).holds = some source :=
        Except.ok.inj looked
      refine final_bind_keep (free.final inv (moves_enforceLogicFromLine env source)) fun _ t enforced invT => ?_
      have touched : OnlySessions s t := by
        have moved := moves_enforceLogicFromLine env source s
        rwa [final_of_ok enforced] at moved
      split
      · exact invT
      · next sameSession =>
        refine final_bind_keep ?_ fun outcome u _ invU => ?_
        · rw [final_attempt]
          refine final_runObserved_write invT fun alone => ?_
          rw [final_withStore]
          unfold mergeBlock
          refine final_reads_bind invT fun qty qtyEq => ?_
          refine final_bind_keep (final_governedCore free invT fun t' step =>
            keeps.target t t' source qty alone touched different present
              (Decidable.not_not.mp sameSession) qtyEq invT step)
            fun _ v _ invV => ?_
          exact final_bind_keep (final_governedCore free invV fun v' step =>
            keeps.source v v' source alone invV step) fun _ w _ invW => invW
        · rcases outcome with _ | ⟨_, exit⟩
          · exact invU
          · exact invU

variable {sourceIds : List String}

/-- The rounds one after another, by induction on the sources. -/
theorem final_mergeLoop {target : Doc} {G : List String → Store → Prop}
    (next : ∀ sourceId rest t, G (sourceId :: rest) t → G rest ((mergeSource env user targetId target targetSession
      sourceId).final t))
    (round : ∀ sourceId rest t, G (sourceId :: rest) t → I t → I ((mergeSource env user targetId target targetSession
      sourceId).final t))
    (needs : G sourceIds t) (inv : I t) :
    I ((sourceIds.mapM (mergeSource env user targetId target targetSession)).final t) := by
  induction sourceIds generalizing t with
  | nil => exact inv
  | cons sourceId rest ih =>
    rw [List.mapM_cons]
    refine final_bind_keep (round sourceId rest t needs inv) fun outcome u ran invU => ?_
    have needsRest := next sourceId rest t needs
    rw [final_of_ok ran] at needsRest
    exact final_bind_keep (ih needsRest invU) fun _ v _ invV => invV

/-- `merge_count_lines` writes in its rounds only. -/
theorem final_mergeCountLines (free : OfLines I) (inv : I s)
    (loop : ∀ t target, OnlySessions s t →
      s.countLines.find? (Filter.eq "id" (.str targetId)).holds = some target →
      t = (enforceLogicFromLine env target).final s → I t →
      I ((sourceIds.mapM (mergeSource env user targetId target
        ((t.findSession (target.get "session_id").textOrEmpty).getD Doc.empty))).final t)) :
    I ((mergeCountLines env user sourceIds targetId).final s) := by
  unfold mergeCountLines
  refine final_reads_bind inv fun _ _ => ?_
  refine final_reads_bind inv fun target lookup => ?_
  have found : s.countLines.find? (Filter.eq "id" (.str targetId)).holds = some target := by
    split at lookup
    · next present => rw [present, Except.ok.inj lookup]
    · cases lookup
  refine final_bind_keep (free.final inv (moves_enforceLogicFromLine env target)) fun _ t enforced invT => ?_
  have touched : OnlySessions s t := by
    have moved := moves_enforceLogicFromLine env target s
    rwa [final_of_ok enforced] at moved
  refine final_reads_bind invT fun targetSession mutableEq => ?_
  have sessionEq : targetSession = (t.findSession (target.get "session_id").textOrEmpty).getD Doc.empty := by
    simp only [ensureCountLineMutable, bind_success, pure_success] at mutableEq
    obtain ⟨_, _, _, _, rfl⟩ := mutableEq
    rfl
  subst sessionEq
  refine final_reads_bind invT fun _ _ => ?_
  refine final_bind_keep (loop t target touched found (final_of_ok enforced).symm invT) fun outcomes u _ invU => ?_
  have recomputed : I ((recomputeAfterMerge env
      (!(outcomes.filterMap MergeOutcome.exit?).isEmpty)
      (target.get "session_id").textOrEmpty).final u) := by
    unfold recomputeAfterMerge
    split
    · exact free.final invU (Moves.bind (Moves.attempt (moves_recomputeSessionTotals env _))
        fun _ => Moves.pure ())
    · exact invU
  exact final_bind_keep recomputed fun _ w _ invW => invW

theorem syncDocument_not_recount (env : Env) (user : User) (record : SyncRecord)
    (floorId rackId locationId : String) (countedAt updatedAt : Int) (existing : Doc) :
    canReuseRejectedCountLine existing
      (syncDocument env user record floorId rackId locationId countedAt updatedAt) = false := by
  have plain : isExplicitRecount
      (syncDocument env user record floorId rackId locationId countedAt updatedAt) = false := by
    simp [isExplicitRecount, syncDocument, Doc.get_eq]
  simp [canReuseRejectedCountLine, plain]

/-- The place of a record: floor, rack and location. -/
def SyncRecord.place (record : SyncRecord) : String × String × String :=
  (Text.strip (if record.floorId = "" then record.floor.getD "" else record.floorId),
    Text.strip record.rackId, Text.strip record.locationId)

/-- What a record may write: its line, where no other line holds the place. -/
def RecordKeeps (I : Store → Prop) (env : Env) (user : User) (record : SyncRecord) : Prop :=
  ∀ t t' session floorId rackId locationId countedAt updatedAt,
    record.place = (floorId, rackId, locationId) →
    ensureSessionActive record.sessionId t = .ok session →
    findDuplicateCountLine t.countLines
      (syncDocument env user record floorId rackId locationId countedAt updatedAt) = none → I t →
    WriteStep env (sessionContext user.username session)
      (.insertOne (syncDocument env user record floorId rackId locationId countedAt updatedAt)) t t' →
    I t'

variable {record : SyncRecord}

/-- A synced record makes one insertion at most. -/
theorem final_syncRecordBody (free : OfLines I) (keeps : RecordKeeps I env user record)
    (inv : I s) : I ((syncRecordBody env user record).final s) := by
  unfold syncRecordBody
  refine final_reads_bind inv fun session active => ?_
  refine final_reads_bind inv fun _ _ => ?_
  refine final_reads_bind inv fun _ _ => ?_
  refine final_reads_bind inv fun times _ => ?_
  refine final_reads_bind inv fun _ _ => ?_
  refine final_reads_bind inv fun replay _ => ?_
  split
  · exact inv
  · refine final_reads_bind inv fun duplicate duplicateEq => ?_
    cases duplicate with
    | some existing =>
      refine final_bind_keep ?_ fun _ _ _ kept => kept
      refine final_reads_bind inv fun _ reused => ?_
      rw [require_ok, syncDocument_not_recount] at reused
      cases reused
    | none =>
      refine final_bind_keep ?_ fun _ _ _ kept => kept
      exact final_governed free inv fun t' step =>
        keeps s t' session _ _ _ _ _ rfl active (Except.ok.inj duplicateEq) inv step

variable {rackOwner : String → Option String}

theorem final_validateRecord (free : OfLines I) {userId : String} (inv : I s) :
    I ((validateRecord env rackOwner userId record).final s) := by
  unfold validateRecord
  refine final_reads_bind inv fun conflicting _ => ?_
  cases conflicting with
  | some existing =>
    refine final_writes_bind inv fun t detected => ?_
    rw [← Except.ok.inj detected]
    refine free s _ ?_ inv
    split
    · exact ⟨_, _, _, _, _, _, rfl⟩
    · exact refl_of SameLines s
  | none =>
    change I (final (if record.verifiedQty < record.damagedQty then _ else _) s)
    split
    · exact inv
    · split
      · exact inv
      · exact inv

theorem final_syncBatchRecord (free : OfLines I) {known : List String}
    (keeps : RecordKeeps I env user record) (inv : I s) :
    I ((syncBatchRecord rackOwner user known env record).final s) := by
  unfold syncBatchRecord
  split
  · exact inv
  · have validated : I ((validateRecord env rackOwner user.username record).final s) := final_validateRecord free inv
    refine final_bind_keep validated fun conflict t _ invT => ?_
    cases conflict with
    | some conflict => exact invT
    | none =>
      refine final_bind_keep (final_bind_keep ?_ fun _ _ _ kept => kept) fun outcome u _ invU => ?_
      · rw [final_attempt]
        exact final_syncRecordBody free keeps invT
      · cases outcome with
        | error message => exact invU
        | ok done =>
          refine final_writes_bind invU fun v recorded => ?_
          simp only [bind_success, pure_success] at recorded
          obtain ⟨_, _, rfl⟩ := recorded
          exact free u _ ⟨_, _, _, _, _, _, rfl⟩ invU

variable {records : List (Env × SyncRecord)}

theorem final_syncRecords (free : OfLines I) {known : List String}
    (keeps : ∀ entry ∈ records, RecordKeeps I entry.1 user entry.2.normalized) (inv : I s) :
    I ((records.mapM fun entry => syncBatchRecord rackOwner user known entry.1 entry.2.normalized).final s) := by
  induction records generalizing s with
  | nil => exact inv
  | cons entry rest ih =>
    rw [List.mapM_cons]
    have first : I ((syncBatchRecord rackOwner user known entry.1 entry.2.normalized).final s) :=
      final_syncBatchRecord free (keeps entry (by simp)) inv
    refine final_bind_keep first fun answer t _ invT => ?_
    have others := ih (fun other member => keeps other (by simp [member])) invT
    exact final_bind_keep others fun _ u _ invU => invU

/-- `sync_batch` writes what its records write. -/
theorem final_syncBatch (free : OfLines I) (keeps : ∀ entry ∈ records, RecordKeeps I entry.1 user entry.2.normalized)
    (inv : I s) : I ((syncBatch rackOwner user records).final s) := by
  unfold syncBatch
  refine final_reads_bind inv fun _ _ => ?_
  rw [final_mapError]
  refine final_reads_bind inv fun known _ => ?_
  exact final_syncRecords free keeps inv

/-- What resolving a conflict may write: a line, or an item. -/
structure ResolutionKeeps (I : Store → Prop) (env : Env) (conflictId : String)
    (resolution : ConflictResolution) (merged : List (String × Value)) (s : Store) : Prop where
  line : ∀ t t' conflict data line fields, SameLines s t →
    s.syncConflicts.find? (·.id == Text.lower conflictId) = some conflict →
    resolvedData conflict merged resolution = .ok data → conflict.entityType = "count_line" →
    t.countLines.find? (entityLookup conflict.entityId).holds = some line →
    resolvedLineFields env line data = .ok fields → I t →
    WriteStep env (resolverContext line) (.updateOne (entityLookup conflict.entityId) (.ofSet fields)) t t' → I t'
  item : ∀ t items conflict data, SameLines s t →
    s.syncConflicts.find? (·.id == Text.lower conflictId) = some conflict →
    resolvedData conflict merged resolution = .ok data → conflict.entityType = "item" → I t →
    I { t with erpItems := items }

section

variable {R : Store → Store → Prop} [Std.Refl R] [IsTrans Store R]
  (within : ∀ (s : Store) sessions mirrors rows,
    R s { s with sessions := sessions, verificationSessions := mirrors, sessionDashboard := rows })
include within

theorem moves_transitionSessionCore (env : Env) (sessionId target actor : String) (note : Option String)
    (expected : Option Int) : Moves R (transitionSessionCore env sessionId target actor note expected) := by
  refine Moves.bind (Moves.reads _) fun session => ?_
  iterate 4 refine Moves.bind (Moves.reads _) fun _ => ?_
  refine Moves.bind (Moves.writes fun s t updated => ?_) fun _ => ?_
  · obtain ⟨_, _, rfl⟩ := onlySessions_updateSessionWithOcc updated
    exact within s _ s.verificationSessions _
  · refine Moves.bind (Moves.writes fun s t mirrored => ?_) fun _ => ?_
    · simp only [updateMirror, bind_success, pure_success] at mirrored
      obtain ⟨_, _, rfl⟩ := mirrored
      exact within s s.sessions _ s.sessionDashboard
    · refine Moves.bind (fun s => ?_) fun _ => Moves.reads _
      obtain ⟨_, _, same⟩ := moves_syncSessionProjection env sessionId s
      exact same ▸ within s _ s.verificationSessions _

theorem moves_applyResolvedSession (env : Env) (entityId : String) (session : Doc)
    (data : List (String × Value)) : Moves R (applyResolvedSession env entityId session data) := by
  unfold applyResolvedSession
  refine Moves.bind ?_ fun _ s => ?_
  · unfold resolveSessionStatus
    split
    · split
      · exact Moves.pure ()
      · exact Moves.bind (moves_transitionSessionCore within env _ _ _ _ _) fun _ => Moves.pure ()
    · exact Moves.pure ()
  · obtain ⟨_, _, same⟩ := moves_updateSessionFields env _ _ _ s
    exact same ▸ within s _ s.verificationSessions _

end

/-- A resolution writes a line or an item. -/
theorem final_resolveConflict (free : OfLines I) {conflictId resolvedBy : String} {resolution : ConflictResolution}
    {merged : List (String × Value)} (keeps : ResolutionKeeps I env conflictId resolution merged s)
    (inv : I s) : I ((resolveConflict env conflictId resolvedBy resolution merged).final s) := by
  unfold resolveConflict
  refine final_reads_bind inv fun conflict lookup => ?_
  have found : s.syncConflicts.find? (·.id == Text.lower conflictId) = some conflict := by
    split at lookup
    · next present => rw [present, Except.ok.inj lookup]
    · cases lookup
  refine final_reads_bind inv fun _ _ => ?_
  refine final_reads_bind inv fun data resolved => ?_
  have marks : Moves SameLines (markConflict conflictId resolvedBy resolution) := by
    refine Moves.writes fun a b marked => ?_
    rw [← Except.ok.inj marked]
    exact ⟨_, _, _, _, _, _, rfl⟩
  unfold settleConflict
  split
  · exact free _ _ (marks s) inv
  · rw [final_withStore]
    refine UnitOfWork.final_runCommitted inv ?_
    refine final_bind_keep (free _ _ (marks s) inv) fun _ t marked invT => ?_
    have touched : SameLines s t := by
      have moved := marks s
      rwa [final_of_ok marked] at moved
    refine final_reads_bind invT fun forked _ => ?_
    split
    · exact invT
    · unfold applyResolvedData
      split
      · refine final_reads_bind invT fun session _ => ?_
        cases session with
        | none => exact invT
        | some session =>
          have moved : Moves SameLines (applyResolvedSession env conflict.entityId session data) :=
            moves_applyResolvedSession (fun _ _ _ _ => ⟨_, _, _, _, _, _, rfl⟩) env _ session data
          exact free _ _ (moved t) invT
      · split
        · next isLine =>
          refine final_reads_bind invT fun present presentEq => ?_
          cases present with
          | none => exact invT
          | some line =>
            refine final_reads_bind invT fun fields fieldsEq => ?_
            refine final_bind_keep ?_ fun _ _ _ kept => kept
            exact final_governedCore free invT fun t' step => keeps.line t t' conflict data line
              fields touched found resolved isLine (Except.ok.inj presentEq) fieldsEq invT step
        · split
          · next isItem =>
            refine final_writes invT fun u written => ?_
            simp only [bind_success, pure_success] at written
            obtain ⟨_, _, rfl⟩ := written
            exact keeps.item t _ conflict data touched found resolved isItem invT
          · exact invT

theorem final_openLineForReview (free : OfLines I) (inv : I s) :
    I ((openLineForReview env lineId).final s) := by
  refine free.final inv ?_
  refine Moves.bind (Moves.reads _) fun line => Moves.bind (Moves.reads _) fun _ => ?_
  exact Moves.bind (moves_enforceLogicFromLine env line) fun _ => Moves.pure _

theorem openLineForReview_ok {line : Doc} (success : openLineForReview env lineId s = .ok line t) :
    findCountLine s lineId = some line ∧ isCountLineLocked line = false ∧ OnlySessions s t := by
  simp only [openLineForReview, bind_ok, reads_ok, pure_ok] at success
  obtain ⟨found, _, ⟨lookup, rfl⟩, _, _, ⟨mutableEq, rfl⟩, _, u, enforced, rfl, rfl⟩ := success
  exact opened_ok lookup mutableEq enforced

/-- A decision is one write. -/
theorem final_reviewCountLine (free : OfLines I) (inv : I s)
    {decision : ReviewDecision}
    (step : ∀ t t' line, OnlySessions s t → findCountLine s lineId = some line → I t →
      WriteStep env (reviewContext line) (.updateOne (.eq "_id" (line.get "_id"))
        (.ofSet (Doc.ofList (decision.fields env user line)))) t t' → I t') :
    I ((reviewCountLine env user lineId decision).final s) := by
  unfold reviewCountLine
  rw [final_mapError]
  refine final_reads_bind inv fun _ _ => ?_
  refine final_bind_keep (final_openLineForReview free inv) fun line t ran invT => ?_
  obtain ⟨found, _, touched⟩ := openLineForReview_ok ran
  refine final_reads_bind invT fun _ _ => ?_
  refine final_bind_keep (final_governed free invT fun t' written =>
    step t t' line touched found invT written) fun result u _ invU => ?_
  refine final_reads_bind invU fun _ _ => ?_
  exact free.final invU (moves_recomputeSessionTotals env _)

theorem final_deleteCountLine (free : OfLines I) (inv : I s)
    (step : ∀ t t' line, OnlySessions s t → findCountLine s lineId = some line → I t →
      WriteStep env (reviewContext line) (.deleteOne (.eq "_id" (line.get "_id"))) t t' → I t') :
    I ((deleteCountLine env user lineId).final s) := by
  unfold deleteCountLine
  rw [final_mapError]
  refine final_reads_bind inv fun _ _ => ?_
  refine final_bind_keep (final_openLineForReview free inv) fun line t ran invT => ?_
  obtain ⟨found, _, touched⟩ := openLineForReview_ok ran
  refine final_bind_keep (final_governed free invT fun t' written =>
    step t t' line touched found invT written) fun result u _ invU => ?_
  refine final_reads_bind invU fun _ _ => ?_
  have recomputed := free.final invU (Moves.attempt
    (moves_recomputeSessionTotals env (line.get "session_id").textOrEmpty))
  exact final_bind_keep recomputed fun _ w _ invW => invW

/-- The fields a completion sets on the copy of the line. -/
def recountedNames : List String :=
  ["id", "counted_qty", "status", "approval_status", "verified", "verified_by", "verified_at",
    "rejected_by", "rejected_at", "recount_requested_at", "recount_requested_by",
    "recount_completed_at", "recount_completed_by", "updated_at", "updated_by", "location_id",
    "floor_id", "rack_id", "version", "previous_version_id", "recount_of_id", "recount_iteration",
    "blind_recount_completed_by_distinct_user", "dual_verification_required", "floor_no", "rack_no"]

structure RecountedLine (env : Env) (qty : ℚ) (existing successor : Doc) : Prop where
  noId : successor "_id" = none
  id : successor "id" = some (.str env.freshId)
  counted : successor "counted_qty" = some (.num qty)
  previous : successor "previous_version_id" = some (.str ((existing.get "id").orElse (existing.get "_id")).text)
  version : ∃ old, intOrError (existing.get "version") 1 = .ok old ∧ successor "version" = some (.num (old + 1 : Int))
  other : ∀ field, field ∉ recountedNames → field ≠ "_id" → successor field = existing field

variable {qty : ℚ}

theorem recountedLine_ok {username originalCounter : String} {existing successor : Doc}
    {place : RecountPlace} (success : recountedLine env username originalCounter qty existing place = .ok successor) :
    RecountedLine env qty existing successor := by
  simp only [recountedLine, bind_success, pure_success] at success
  obtain ⟨version, versionEq, _, _, rfl⟩ := success
  refine ⟨?_, rfl, rfl, rfl, ⟨version, versionEq, rfl⟩, ?_⟩
  · rw [Doc.setAll_other _ (by simp), Doc.setDefault_other _ _ (by decide),
      Doc.setDefault_other _ _ (by decide), Doc.erase_same]
  · intro field other notId
    have notFloor : field ≠ "floor_no" := by
      rintro rfl
      exact other (by decide)
    have notRack : field ≠ "rack_no" := by
      rintro rfl
      exact other (by decide)
    have unnamed : field ∉ recountedNames.take 24 := fun member => other (List.mem_of_mem_take member)
    rw [Doc.setAll_other _ unnamed, Doc.setDefault_other _ _ notRack,
      Doc.setDefault_other _ _ notFloor, Doc.erase_other _ notId]

/-- What a completion may write: the successor of the recounted line, and the mark on
that line. -/
structure CompletionKeeps (I : Store → Prop) (env : Env) : Prop where
  insert : ∀ t t' username counter qty session existing place successor,
    env.deployment = .standalone → existing ∈ t.countLines →
    recountedLine env username counter qty existing place = .ok successor → I t →
    WriteStep env { sessionContext username session with skipSessionTotalsUpdate := true }
      (.insertOne successor) t t' → I t'
  supersede : ∀ t t' username session successor (existing : Doc), env.deployment = .standalone → I t →
    WriteStep env (sessionContext username session) (.updateOne (.eq "_id" (existing.get "_id"))
      (.ofSet (supersededFields env username successor))) t t' → I t'

theorem moves_transitionRecountRequestCore (env : Env) (recountId target : String) (fields : List (String × Value)) :
    Moves SameLines (transitionRecountRequestCore env recountId target fields) := by
  refine Moves.bind (Moves.reads _) fun recount => Moves.bind (Moves.reads _) fun _ => ?_
  refine Moves.bind (Moves.reads _) fun _ => ?_
  refine Moves.bind (Moves.writes fun s t updated => ?_) fun _ => Moves.reads _
  simp only [bind_success, pure_success] at updated
  obtain ⟨_, _, rfl⟩ := updated
  exact ⟨_, _, _, _, _, _, rfl⟩

variable {notes : Option String} {recountId : String}

/-- The successor is inserted before the recounted line is superseded. -/
theorem final_completeRecountBlock (free : OfLines I) (keeps : CompletionKeeps I env)
    (alone : env.deployment = .standalone) {committed : Store} (inv : I s) :
    I ((completeRecountBlock env committed user recountId notes qty).final s) := by
  unfold completeRecountBlock
  refine final_reads_bind inv fun recount _ => ?_
  refine final_reads_bind inv fun lineId _ => ?_
  refine final_reads_bind inv fun existing lookup => ?_
  have stored : existing ∈ s.countLines := by
    split at lookup
    · next present =>
      rw [← Except.ok.inj lookup]
      exact List.mem_of_find?_eq_some present
    · cases lookup
  refine final_reads_bind inv fun _ _ => ?_
  refine final_reads_bind inv fun session _ => ?_
  refine final_reads_bind inv fun place _ => ?_
  refine final_reads_bind inv fun successor built => ?_
  refine final_bind_keep (final_governedCore free inv fun t' step =>
    keeps.insert s t' _ _ _ session existing place successor alone stored built inv step)
    fun _ u _ invU => ?_
  refine final_bind_keep (final_governedCore free invU fun u' step =>
    keeps.supersede u u' _ session successor existing alone invU step) fun _ v _ invV => ?_
  exact final_bind_keep (free _ _ (moves_transitionRecountRequestCore env recountId _ _ v) invV)
    fun _ w _ invW => invW

theorem final_completeRecount (free : OfLines I) (keeps : CompletionKeeps I env) {resultQty : Option ℚ} (inv : I s) :
    I ((completeRecount env user recountId notes resultQty).final s) := by
  unfold completeRecount
  rw [final_mapError]
  refine final_reads_bind inv fun recount _ => ?_
  refine final_reads_bind inv fun _ _ => ?_
  refine final_bind_keep ?_ fun settled u _ invU => ?_
  · cases resultQty with
    | none =>
      refine final_bind_keep ?_ fun _ _ _ kept => kept
      exact UnitOfWork.final_runCommitted inv (free _ _ (moves_transitionRecountRequestCore env recountId _ _ s) inv)
    | some qty =>
      refine final_bind_keep ?_ fun _ _ _ kept => kept
      refine final_runObserved_write inv fun alone => ?_
      rw [final_withStore]
      exact final_completeRecountBlock free keeps alone inv
  · exact final_reads_bind invU fun _ _ => invU

/-- Finalization locks the lines of its session. -/
theorem final_finalizeSessionCanonical (free : OfLines I) {hasFinalizer : Bool} {sessionId actor : String}
    {note : Option String} (lock : ∀ t, I t → I (finalizeSessionCountLines sessionId actor env.now note t))
    (inv : I s) : I ((finalizeSessionCanonical env hasFinalizer sessionId actor note).final s) := by
  refine UnitOfWork.final_runCommitted inv ?_
  refine final_reads_bind inv fun session _ => ?_
  have prepared : I ((prepareFinalization env hasFinalizer sessionId actor note session).final s) := by
    unfold prepareFinalization
    iterate 6 refine final_reads_bind inv fun _ _ => ?_
    refine final_writes_bind inv fun locked lockedEq => final_reads ?_
    rw [← Except.ok.inj lockedEq]
    split
    · exact lock s inv
    · exact inv
  refine final_bind_keep prepared fun totals locked _ invLocked => ?_
  refine final_writes_bind invLocked fun t updated => ?_
  have invT := free locked t (onlySessions_updateSessionWithOcc updated).sameLines invLocked
  refine final_writes_bind invT fun u mirrored => ?_
  have invU : I u := by
    simp only [updateMirror, bind_success, pure_success] at mirrored
    obtain ⟨_, _, rfl⟩ := mirrored
    exact free t _ ⟨_, _, _, _, _, _, rfl⟩ invT
  refine final_bind_keep (free.final invU (moves_syncSessionProjection env sessionId)) fun _ v _ invV => ?_
  exact final_reads_bind invV fun _ _ => invV

end rules

end StockVerification
