import StockVerification.CreationRaces

/-!
# One active line per place

The place of a line is its session, its item and the floor and rack that are stored. The
lookup for an active line names the floor and the rack by their numbers only, while the
stored numbers fall back on the ids, and the lock is keyed by the ids and is granted twice
to one user. Where the number is given with every id, and the creations in flight at one
place ask for one lock and belong to different users, no place gets a second active line.
-/
namespace StockVerification

open Foundation Foundation.Action

abbrev Place := Value × Value × Value × Value

def placeOf (line : Doc) : Place :=
  (line.get "session_id", line.get "item_code", line.get "floor_no", line.get "rack_no")

def activeAt (place : Place) (line : Doc) : Bool := !isSupersededCountLine line && placeOf line == place

def Creation.place (r : Creation) : Place :=
  (.str r.line.sessionId, .str r.line.itemCode,
    (optionalText r.line.floorNo).orElse (optionalText r.line.floorId),
    (optionalText r.line.rackNo).orElse (optionalText r.line.rackId))

def NumberGiven (number id : Option String) : Prop :=
  (∃ t, number = some t ∧ Text.strip t ≠ "") ∨ id = none ∨ id = some ""

/-- The request names its place by numbers, and is no recount of a line. -/
structure CreationOk (setup : LockSetup) (r : Creation) : Prop where
  locked : setup.lockService = true
  floor : NumberGiven r.body.floorNo r.body.floorId
  rack : NumberGiven r.body.rackNo r.body.rackId
  first : (optionalText r.body.recountOfId).truthy = false

/-- The id that `normalize_location_context` fills in. -/
def filledId (id number : Option String) : Option String :=
  if (optionalText (CountLineCreate.stripped id)).truthy ||
      !(optionalText (CountLineCreate.stripped number)).truthy then CountLineCreate.stripped id
  else CountLineCreate.stripped number

theorem stripped_eq_none (text : Option String) :
    CountLineCreate.stripped text = none ↔ text = none ∨ text = some "" := by
  cases text with
  | none => simp [CountLineCreate.stripped]
  | some t => by_cases blank : t = "" <;> simp [CountLineCreate.stripped, blank]

/-- The lookup names what is stored exactly where the number is given or the id is not. -/
theorem lookedUp_eq_stored (number id : Option String) :
    normalizeLocationValue (optionalText (CountLineCreate.stripped number)) =
        (optionalText (CountLineCreate.stripped number)).orElse (optionalText (filledId id number)) ↔
      NumberGiven number id := by
  by_cases given : ∃ t, number = some t ∧ Text.strip t ≠ ""
  · obtain ⟨t, rfl, filled⟩ := given
    have nonempty : t ≠ "" := by
      rintro rfl
      exact filled (by decide)
    have kept : CountLineCreate.stripped (some t) = some (Text.strip t) := by
      simp [CountLineCreate.stripped, nonempty]
    rw [kept, optionalText]
    simp only [normalizeLocationValue, Value.text, Text.strip_strip, filled, if_false, Value.orElse,
      Value.truthy_str, bne_iff_ne, ne_eq, not_false_eq_true, if_true, reduceCtorEq]
    exact ⟨fun _ => .inl ⟨t, rfl, filled⟩, fun _ => trivial⟩
  · -- a number that is missing or blank is looked up as null, and the id is stored
    have blank : (optionalText (CountLineCreate.stripped number)).truthy = false ∧
        normalizeLocationValue (optionalText (CountLineCreate.stripped number)) = .null := by
      cases number with
      | none => exact ⟨rfl, rfl⟩
      | some t =>
        by_cases nothing : t = ""
        · subst nothing
          exact ⟨rfl, rfl⟩
        · have stripped : Text.strip t = "" := by
            by_contra filled
            exact given ⟨t, rfl, filled⟩
          rw [CountLineCreate.stripped, if_neg nothing, stripped]
          exact ⟨rfl, by decide⟩
    have passedOn : filledId id number = CountLineCreate.stripped id := by
      rw [filledId, blank.1, Bool.not_false, Bool.or_true, if_pos rfl]
    rw [blank.2, Value.orElse, blank.1, if_neg Bool.false_ne_true, passedOn, NumberGiven, ← stripped_eq_none]
    cases CountLineCreate.stripped id with
    | none => exact ⟨fun _ => .inr rfl, fun _ => rfl⟩
    | some u =>
      refine ⟨fun same => ?_, fun named => ?_⟩
      · cases same
      · rcases named with number | absent
        · exact absurd number given
        · cases absent

theorem normalizeLocationValue_plain (value : Value) (items : List Atom) :
    normalizeLocationValue value ≠ .list items := by
  unfold normalizeLocationValue
  split
  · simp
  · simp only
    split <;> simp

section Lookup

variable {setup : LockSetup} {r : Creation}

theorem CreationOk.place_eq (ok : CreationOk setup r) : r.place = (.str r.line.sessionId, .str r.line.itemCode,
      normalizeLocationValue (optionalText r.line.floorNo),
      normalizeLocationValue (optionalText r.line.rackNo)) := by
  have floor := (lookedUp_eq_stored r.body.floorNo r.body.floorId).mpr ok.floor
  have rack := (lookedUp_eq_stored r.body.rackNo r.body.rackId).mpr ok.rack
  exact Prod.ext rfl (Prod.ext rfl (Prod.ext floor.symm rack.symm))

/-- The lookup searches for the place of the line. -/
theorem duplicateFilter_iff (request : CountLineCreate) {line : Doc}
    (plain : ∀ field ∈ ["session_id", "item_code", "floor_no", "rack_no"], ∀ items, line.get field ≠ .list items) :
    (buildCountLineDuplicateFilter request.payload).holds line = true ↔
      placeOf line = (.str request.sessionId, .str request.itemCode,
        normalizeLocationValue (optionalText request.floorNo), normalizeLocationValue (optionalText request.rackNo)) := by
  have sessionText : (request.payload.get "session_id").textOrEmpty = request.sessionId := Value.textOrEmpty_str _
  have codeText : (request.payload.get "item_code").textOrEmpty = request.itemCode := Value.textOrEmpty_str _
  have floorField : request.payload.get "floor_no" = optionalText request.floorNo := rfl
  have rackField : request.payload.get "rack_no" = optionalText request.rackNo := rfl
  simp only [buildCountLineDuplicateFilter, Filter.all, List.foldr_cons, List.foldr_nil,
    Filter.holds, sessionText, codeText, floorField, rackField, Bool.and_true, Bool.and_eq_true]
  rw [Filter.fieldIs_get (plain _ (by simp)), Filter.fieldIs_get (plain _ (by simp)),
    Filter.fieldIs_get (plain _ (by simp)), Filter.fieldIs_get (plain _ (by simp)), placeOf, Prod.mk.injEq,
    Prod.mk.injEq, Prod.mk.injEq]

theorem duplicateFilter_holds (ok : CreationOk setup r) {line : Doc} (here : placeOf line = r.place) :
    (buildCountLineDuplicateFilter r.line.payload).holds line = true := by
  rw [ok.place_eq] at here
  refine (duplicateFilter_iff r.line ?_).mpr here
  simp only [placeOf, Prod.mk.injEq] at here
  obtain ⟨session, code, floor, rack⟩ := here
  simp [session, code, floor, rack, normalizeLocationValue_plain]

/-- A creation that passes its lookup replaces nothing, and its place has no active line. -/
theorem resolveRecountTarget_vacant (ok : CreationOk setup r) {s : Store} {target : Option Doc}
    (resolved : resolveRecountTarget r.line s = .ok target) :
    target = none ∧ s.countLines.countP (activeAt r.place) = 0 := by
  unfold resolveRecountTarget at resolved
  split at resolved
  · next nothing =>
    cases resolved
    refine ⟨rfl, List.countP_eq_zero.mpr fun line member active => ?_⟩
    rw [findDuplicateCountLine, List.find?_eq_none] at nothing
    rw [activeAt, Bool.and_eq_true, beq_iff_eq] at active
    refine nothing line member ?_
    rw [duplicateFilter_holds ok active.2, active.1]
    rfl
  · next existing _ =>
    have plain : isExplicitRecount r.line.payload = false := by
      have noRecount : r.line.payload.get "recount_of_id" = optionalText r.body.recountOfId := rfl
      have noMode : r.line.payload.get "recount_mode" = .null := rfl
      have noFlag : r.line.payload.get "recount" = .null := rfl
      rw [isExplicitRecount, noRecount, ok.first, noMode, noFlag]
      rfl
    rw [canReuseRejectedCountLine, plain] at resolved
    cases resolved

end Lookup

/-- The creation has its lock and has not inserted yet. -/
def CreationCall.relies : CreationCall → Bool
  | .lookup .. | .prepare _ | .execute .. => true
  | _ => false

/-- The creation has found its place vacant and has not inserted yet. -/
def CreationCall.lookedUp : CreationCall → Bool
  | .prepare _ | .execute .. => true
  | _ => false

/-- The document that is about to be stored stands at the place of the creation. -/
def CreationCall.AtPlace (place : Place) : CreationCall → Prop
  | .prepare w => w.rest = none ∧ ∃ document, w.op = .insertOne document ∧ document "_id" = none ∧
      placeOf document = place
  | .execute w p => w.rest = none ∧ ∃ document, p.op = .insertOne document ∧ document "_id" = none ∧
      placeOf document = place
  | .settle w _ _ => w.rest = none
  | _ => True

def HasLock (s : CountingState) (r : Creation) : Prop :=
  ∃ lock ∈ s.locks, lock.key = r.line.lockKey ∧ lock.owner = r.user.username ∧ lock.expired = false

def Vacant (s : CountingState) (place : Place) : Prop := s.store.countLines.countP (activeAt place) = 0

structure CallOk (setup : LockSetup) (s : CountingState) (r : Creation) (call : CreationCall) : Prop where
  request : CreationOk setup r
  atPlace : call.AtPlace r.place
  locked : call.relies = true → HasLock s r
  vacant : call.lookedUp = true → Vacant s r.place

/-- Two creations of one place ask for one lock, and creations with one lock belong to
different users. -/
def CreationsApart (r other : Creation) : Prop :=
  (other.place = r.place → other.line.lockKey = r.line.lockKey) ∧
    (other.line.lockKey = r.line.lockKey → other.user.username ≠ r.user.username)

/-- A creation starts apart from those in flight. A user does not find an own lock expired,
and no lock expires or goes with the lock of a variant while a creation asks for it. -/
def CountingOk (setup : LockSetup) (c : Counting) : Move CountingRequest → Prop
  | .start _ (.create r) => CreationOk setup r ∧
      ∀ n other call, c.task n = some (.create other call) → CreationsApart r other
  | .resume slot =>
    match c.task slot with
    | some (.create r (.inspectPlace ..)) => ∀ lock ∈ c.store.locks, lock.key = r.line.lockKey →
        lock.owner = r.user.username → lock.expired = false
    | some (.create r (.releaseVariant key _)) => ∀ n other call, n ≠ slot →
        c.task n = some (.create other call) → other.user.username = r.user.username →
        other.line.lockKey ≠ key
    | some (.expire key) => ∀ n other call, c.task n = some (.create other call) → other.line.lockKey ≠ key
    | _ => True
  | _ => True

structure PlacesSound (setup : LockSetup) (c : Counting) : Prop where
  one : ∀ place, c.store.store.countLines.countP (activeAt place) ≤ 1
  keys : (c.store.locks.map Lock.key).Nodup
  calls : ∀ n r call, c.task n = some (.create r call) → CallOk setup c.store r call
  apart : ∀ n n' r r' call call', n ≠ n' → c.task n = some (.create r call) →
    c.task n' = some (.create r' call') → CreationsApart r r'

/-- The locks a call takes away. -/
def CreationCall.releases (r : Creation) (lock : Lock) : CreationCall → Prop
  | .releasePlace .. => lock.key = r.line.lockKey ∧ lock.owner = r.user.username
  | .releaseVariant key _ => lock.key = key ∧ lock.owner = r.user.username
  | _ => False

/-- A call inserts one line at the place it found vacant, or leaves the lines alone. It keeps
the locks that it does not release and that have not expired. -/
structure CreationEffect (setup : LockSetup) (s : CountingState) (r : Creation)
    (call : CreationCall) (s' : CountingState) (next : Option CreationCall) : Prop where
  lines : s'.store.countLines = s.store.countLines ∨
    call.lookedUp = true ∧ ∃ line, s'.store.countLines = s.store.countLines ++ [line] ∧ placeOf line = r.place
  keys : (s'.locks.map Lock.key).Nodup
  locks : ∀ lock ∈ s.locks, lock.expired = false → lock ∈ s'.locks ∨ call.releases r lock
  next : ∀ later, next = some later → CallOk setup s' r later

section Locks

variable {key owner : String} {locks after : List Lock}

theorem insertLock_keys (inserted : insertLock key owner locks = some after)
    (distinct : (locks.map Lock.key).Nodup) : (after.map Lock.key).Nodup := by
  unfold insertLock at inserted
  split at inserted
  · cases inserted
  · next free =>
    cases inserted
    rw [List.map_append, List.map_singleton, List.nodup_append]
    refine ⟨distinct, List.nodup_singleton _, fun known member new single => ?_⟩
    rw [List.mem_singleton] at single
    rintro rfl
    obtain ⟨lock, inLocks, rfl⟩ := List.mem_map.mp member
    refine free (List.any_eq_true.mpr ⟨lock, inLocks, ?_⟩)
    simpa using single

theorem insertLock_mem (inserted : insertLock key owner locks = some after) :
    after = locks ++ [{ key := key, owner := owner }] := by
  unfold insertLock at inserted
  split at inserted
  · cases inserted
  · exact (Option.some.inj inserted).symm

theorem inspectLock_keys (distinct : (locks.map Lock.key).Nodup) :
    ((inspectLock key owner locks).2.map Lock.key).Nodup := by
  unfold inspectLock
  split
  · exact distinct
  · simp only
    split
    · exact distinct.sublist (List.eraseP_sublist.map _)
    · exact distinct

/-- Only an expired lock is deleted. -/
theorem inspectLock_keeps (distinct : (locks.map Lock.key).Nodup) {lock : Lock} (member : lock ∈ locks)
    (valid : lock.expired = false) : lock ∈ (inspectLock key owner locks).2 := by
  unfold inspectLock
  split
  · exact member
  · next found here =>
    simp only
    split
    · next expired =>
      refine (List.mem_eraseP_of_neg fun same => ?_).mpr member
      have foundKey : found.key = key := by simpa using List.find?_some here
      have sameKey : lock.key = found.key := by
        rw [foundKey]
        simpa using same
      have one := List.inj_on_of_nodup_map distinct member (List.mem_of_find?_eq_some here) sameKey
      rw [one, expired] at valid
      cases valid
    · exact member

theorem inspectLock_granted (granted : (inspectLock key owner locks).1 = true) :
    ∃ lock ∈ locks, lock.key = key ∧ lock.owner = owner := by
  unfold inspectLock at granted
  split at granted
  · cases granted
  · next lock here =>
    have keyed := List.find?_some here
    exact ⟨lock, List.mem_of_find?_eq_some here, by simpa using keyed, by simpa using granted⟩

theorem expireLock_keys (key : String) (locks : List Lock) :
    (expireLock key locks).map Lock.key = locks.map Lock.key := by
  rw [expireLock, List.map_map]
  apply List.map_congr_left
  intro lock _
  simp only [Function.comp_apply]
  split
  · rfl
  · rfl

theorem releaseLock_keeps {lock : Lock} (member : lock ∈ locks)
    (other : ¬ (lock.key = key ∧ lock.owner = owner)) : lock ∈ releaseLock key owner locks := by
  refine (List.mem_eraseP_of_neg fun same => other ?_).mpr member
  simpa using same

end Locks

section Calls

variable {setup : LockSetup} {s : CountingState} {r : Creation}

/-- A call that neither relies on a lock nor stores a document. -/
def CreationCall.idle : CreationCall → Bool
  | .lookup .. | .prepare _ | .execute .. | .settle .. => false
  | _ => true

theorem callOk_idle {later : CreationCall} (request : CreationOk setup r)
    (idle : later.idle = true) : CallOk setup s r later := by
  cases later with
  | lookup a held | prepare w | execute w p | settle w p result => cases idle
  | _ => exact ⟨request, trivial, fun relied => (nomatch relied), fun looked => (nomatch looked)⟩

theorem releaseCall_idle {held : HeldLocks} {stored : Bool} {later : CreationCall}
    (released : releaseCall held stored = some later) : later.idle = true := by
  unfold releaseCall afterRelease at released
  split at released
  · cases released
    rfl
  · split at released
    · cases released
      rfl
    · split at released
      · cases released
        rfl
      · cases released

variable {call : CreationCall}

theorem creationEffect_quiet {t : Store} {next : Option CreationCall} (request : CreationOk setup r)
    (keys : (s.locks.map Lock.key).Nodup) (same : t.countLines = s.store.countLines)
    (idle : ∀ later, next = some later → later.idle = true) :
    CreationEffect setup s r call { s with store := t } next :=
  ⟨.inl same, keys, fun _ member _ => .inl member, fun later named => callOk_idle request (idle later named)⟩

section

variable {key : String} {next : Option CreationCall} (keys : (s.locks.map Lock.key).Nodup)
include keys

theorem creationEffect_insert {locks : List Lock} (inserted : insertLock key r.user.username s.locks = some locks)
    (sound : ∀ later, next = some later → CallOk setup { s with locks } r later) :
    CreationEffect setup s r call { s with locks } next := by
  refine ⟨.inl rfl, insertLock_keys inserted keys, fun lock member _ => .inl ?_, sound⟩
  rw [insertLock_mem inserted]
  exact List.mem_append_left _ member

theorem creationEffect_release (request : CreationOk setup r)
    (releases : ∀ lock : Lock, lock.key = key ∧ lock.owner = r.user.username → call.releases r lock)
    (idle : ∀ later, next = some later → later.idle = true) :
    CreationEffect setup s r call { s with locks := releaseLock key r.user.username s.locks } next := by
  refine ⟨.inl rfl, keys.sublist (List.eraseP_sublist.map _), fun lock member _ => ?_, fun later named =>
    callOk_idle request (idle later named)⟩
  by_cases released : lock.key = key ∧ lock.owner = r.user.username
  · exact .inr (releases lock released)
  · exact .inl (releaseLock_keeps member released)

end

theorem creationEffect_goOn {α : Type} {answer : Except Error α} {next : α → CreationCall}
    (request : CreationOk setup r) (keys : (s.locks.map Lock.key).Nodup) (idle : ∀ a, (next a).idle = true) :
    CreationEffect setup s r call (goOn s answer next).1 (goOn s answer next).2 := by
  cases answer with
  | error e => exact creationEffect_quiet request keys rfl fun later named => by cases named
  | ok a =>
    refine creationEffect_quiet request keys rfl fun later named => ?_
    cases named
    exact idle a

theorem lockCall_idle (locked : setup.lockService = true) (a : Admission) : (lockCall setup r a).idle = true := by
  rw [lockCall, locked, Bool.not_true, if_neg Bool.false_ne_true]
  split
  · rfl
  · rfl

theorem placeOf_eq {a b : Doc}
    (same : ∀ field ∈ ["session_id", "item_code", "floor_no", "rack_no"], a field = b field) :
    placeOf a = placeOf b := by
  simp only [placeOf, Doc.get_eq, same "session_id" (by simp), same "item_code" (by simp),
    same "floor_no" (by simp), same "rack_no" (by simp)]

/-- The lookup: where it passes, the place is vacant and the document stands at it. -/
theorem lookup_effect {a : Admission} {held : HeldLocks} (ok : CallOk setup s r (.lookup a held))
    (keys : (s.locks.map Lock.key).Nodup) :
    CreationEffect setup s r (.lookup a held) (resumeCreation setup s r (.lookup a held)).1
      (resumeCreation setup s r (.lookup a held)).2 := by
  rw [resumeCreation]
  split
  · exact creationEffect_quiet ok.request keys rfl fun later named => releaseCall_idle named
  · next target resolved =>
    obtain ⟨rfl, vacant⟩ := resolveRecountTarget_vacant ok.request resolved
    split
    · exact creationEffect_quiet ok.request keys rfl fun later named => releaseCall_idle named
    · next document built =>
      split
      · exact creationEffect_quiet ok.request keys rfl fun later named => releaseCall_idle named
      · refine ⟨.inl rfl, keys, fun _ member _ => .inl member, fun later named => ?_⟩
        cases named
        have fields := buildCountLineDocument_ok built
        refine ⟨ok.request, ⟨rfl, document, rfl, fields.noId, ?_⟩, fun _ => ok.locked rfl, fun _ => vacant⟩
        rw [placeOf, Doc.get_of_some fields.session, Doc.get_of_some fields.item,
          Doc.get_of_some fields.floor, Doc.get_of_some fields.rack]
        rfl

variable {w : Persisting}

theorem prepare_effect (ok : CallOk setup s r (.prepare w)) (keys : (s.locks.map Lock.key).Nodup) :
    CreationEffect setup s r (.prepare w) (resumeCreation setup s r (.prepare w)).1
      (resumeCreation setup s r (.prepare w)).2 := by
  obtain ⟨noRest, document, op, noId, here⟩ := ok.atPlace
  rw [resumeCreation]
  split
  · next p prepared =>
    refine ⟨.inl rfl, keys, fun _ member _ => .inl member, fun later named => ?_⟩
    cases named
    rw [op] at prepared
    obtain ⟨final, hash, opEq, left, _⟩ := prepareWrite_insert prepared
    refine ⟨ok.request, ⟨noRest, final, opEq, ?_, ?_⟩, fun _ => ok.locked rfl, fun _ => ok.vacant rfl⟩
    · rw [left.other "_id" (by decide), noId]
    · rw [← here]
      refine placeOf_eq fun field member => left.other field ?_
      revert field
      decide
  · exact creationEffect_quiet ok.request keys rfl fun later named => releaseCall_idle named

theorem execute_effect {p : Prepared} (ok : CallOk setup s r (.execute w p)) (keys : (s.locks.map Lock.key).Nodup) :
    CreationEffect setup s r (.execute w p) (resumeCreation setup s r (.execute w p)).1
      (resumeCreation setup s r (.execute w p)).2 := by
  obtain ⟨noRest, document, op, noId, here⟩ := ok.atPlace
  rw [resumeCreation]
  split
  · next result t executed =>
    rw [op] at executed
    obtain ⟨lines, onLines, rfl⟩ := executeCountLineOperation_ok executed
    obtain ⟨_, rfl, _⟩ := executeOnLines_insert noId onLines
    refine ⟨.inr ⟨rfl, _, rfl, ?_⟩, keys, fun _ member _ => .inl member, fun later named => ?_⟩
    · rw [← here]
      refine placeOf_eq fun field member => Doc.set_other _ _ ?_
      revert field
      decide
    · cases named
      exact ⟨ok.request, noRest, fun relied => (nomatch relied), fun looked => (nomatch looked)⟩
  · exact creationEffect_quiet ok.request keys rfl fun later named => releaseCall_idle named

theorem settle_effect {p : Prepared} {result : WriteResult}
    (ok : CallOk setup s r (.settle w p result)) (keys : (s.locks.map Lock.key).Nodup) :
    CreationEffect setup s r (.settle w p result) (resumeCreation setup s r (.settle w p result)).1
      (resumeCreation setup s r (.settle w p result)).2 := by
  have noRest : w.rest = none := ok.atPlace
  rw [resumeCreation]
  refine creationEffect_quiet ok.request keys ?_ fun later named => ?_
  · have moved : Moves OnlySessions (do
        reads (runPostWriteValidation r.env s.store (persistContext r.user.username w.admission.session) p.op result)
        syncProjections r.env (persistContext r.user.username w.admission.session) p.versions) :=
      Moves.bind (Moves.reads _) fun _ => moves_syncProjections _ _ _
    exact (moved s.store).countLines
  · rw [noRest] at named
    exact releaseCall_idle named

/-- What one call of a creation can do. -/
theorem resumeCreation_effect (ok : CallOk setup s r call) (keys : (s.locks.map Lock.key).Nodup)
    (unexpired : ∀ a variant, call = .inspectPlace a variant → ∀ lock ∈ s.locks, lock.key = r.line.lockKey → lock.owner
      = r.user.username → lock.expired = false) :
    CreationEffect setup s r call (resumeCreation setup s r call).1 (resumeCreation setup s r call).2 := by
  have request := ok.request
  cases call with
  | load =>
    rw [resumeCreation]
    exact creationEffect_goOn request keys fun _ => rfl
  | pin session =>
    have moved := moves_enforceSessionLogic r.env session s.store
    rw [resumeCreation]
    split
    · next ran =>
      rw [final_of_ok ran] at moved
      exact creationEffect_quiet request keys moved.countLines fun later named => by cases named; rfl
    · next e t ran =>
      have stopped : (enforceSessionLogic r.env session).final s.store = t := by
        simp only [final, ran]
      rw [stopped] at moved
      exact creationEffect_quiet request keys moved.countLines fun later named => by cases named
  | accept session =>
    rw [resumeCreation]
    split
    · exact creationEffect_goOn request keys (lockCall_idle request.locked)
    · exact creationEffect_quiet request keys rfl fun later named => by cases named
  | lockVariant a key =>
    rw [resumeCreation]
    split
    · next locks inserted =>
      refine creationEffect_insert keys inserted fun later named => ?_
      cases named
      exact callOk_idle request rfl
    · exact creationEffect_quiet request keys rfl fun later named => by cases named; rfl
  | inspectVariant a key =>
    rw [resumeCreation]
    refine ⟨.inl rfl, inspectLock_keys keys,
      fun _ member valid => .inl (inspectLock_keeps keys member valid), fun later named => ?_⟩
    dsimp only at named
    split at named
    · cases named
      exact callOk_idle request rfl
    · cases named
  | lockPlace a variant =>
    rw [resumeCreation]
    split
    · next locks inserted =>
      refine creationEffect_insert keys inserted fun later named => ?_
      cases named
      refine ⟨request, trivial, fun _ => ?_, fun looked => (by cases looked)⟩
      refine ⟨{ key := r.line.lockKey, owner := r.user.username }, ?_, rfl, rfl, rfl⟩
      rw [insertLock_mem inserted]
      exact List.mem_append_right _ (List.mem_singleton.mpr rfl)
    · exact creationEffect_quiet request keys rfl fun later named => by cases named; rfl
  | inspectPlace a variant =>
    rw [resumeCreation]
    refine ⟨.inl rfl, inspectLock_keys keys,
      fun _ member valid => .inl (inspectLock_keeps keys member valid), fun later named => ?_⟩
    dsimp only at named
    split at named
    · next granted =>
      cases named
      obtain ⟨lock, member, keyed, owned⟩ := inspectLock_granted granted
      have valid := unexpired a variant rfl lock member keyed owned
      exact ⟨request, trivial, fun _ => ⟨lock, inspectLock_keeps keys member valid, keyed, owned, valid⟩,
        fun looked => (by cases looked)⟩
    · cases named
  | lookup a held => exact lookup_effect ok keys
  | prepare w => exact prepare_effect ok keys
  | execute w p => exact execute_effect ok keys
  | settle w p result => exact settle_effect ok keys
  | releasePlace held stored =>
    rw [resumeCreation]
    refine creationEffect_release keys request (fun _ released => released) fun later named => ?_
    dsimp only at named
    exact releaseCall_idle named
  | releaseVariant key stored =>
    rw [resumeCreation]
    refine creationEffect_release keys request (fun _ released => released) fun later named => ?_
    unfold afterRelease at named
    split at named
    · cases named
      rfl
    · cases named
  | finish =>
    rw [resumeCreation]
    refine creationEffect_quiet request keys ?_ fun later named => by cases named
    have moved : Moves OnlySessions (do
        let _ ← attempt (recomputeSessionTotals r.env r.line.sessionId)
        let _ ← attempt (maybeUpdateSessionBarcode r.env r.line)
        pure () : Request Unit) :=
      Moves.bind (Moves.attempt (moves_recomputeSessionTotals _ _)) fun _ =>
        Moves.bind (Moves.attempt (moves_maybeUpdateSessionBarcode _ _)) fun _ => Moves.pure ()
    exact (moved s.store).countLines

end Calls

section Steps

variable {setup : LockSetup} {c : Counting} {r : Creation}

theorem CreationsApart.symm {other : Creation} (apart : CreationsApart r other) : CreationsApart other r :=
  ⟨fun same => (apart.1 same.symm).symm, fun same => (apart.2 same.symm).symm⟩

variable {call : CreationCall}

theorem PlacesSound.exclusive (sound : PlacesSound setup c) {n n' : ℕ} {r' : Creation} {call' : CreationCall}
    (differ : n ≠ n') (here : c.task n = some (.create r call)) (there : c.task n' = some (.create r' call'))
    (relies : call.relies = true) (relies' : call'.relies = true) : r.place ≠ r'.place := by
  intro same
  obtain ⟨oneLock, oneOwner⟩ := sound.apart n n' r r' call call' differ here there
  have keyed := oneLock same.symm
  obtain ⟨lock, member, key, owner, _⟩ := (sound.calls n r call here).locked relies
  obtain ⟨lock', member', key', owner', _⟩ := (sound.calls n' r' call' there).locked relies'
  have one := List.inj_on_of_nodup_map sound.keys member member' (by rw [key, key', keyed])
  exact oneOwner keyed (by rw [← owner', ← owner, one])

theorem CallOk.carried {s s' : CountingState} (ok : CallOk setup s r call)
    (locks : ∀ lock ∈ s.locks, lock.key = r.line.lockKey → lock.owner = r.user.username → lock.expired = false →
      call.relies = true → lock ∈ s'.locks)
    (lines : call.lookedUp = true → Vacant s r.place → Vacant s' r.place) : CallOk setup s' r call where
  request := ok.request
  atPlace := ok.atPlace
  locked relies := by
    obtain ⟨lock, member, key, owner, valid⟩ := ok.locked relies
    exact ⟨lock, locks lock member key owner valid relies, key, owner, valid⟩
  vacant looked := lines looked (ok.vacant looked)

theorem CreationCall.relies_of_lookedUp (looked : call.lookedUp = true) : call.relies = true := by
  cases call <;> first | rfl | cases looked

/-- A step of a creation. -/
theorem PlacesSound.create (sound : PlacesSound setup c) {slot : ℕ} {s' : CountingState} {next : Option CreationCall}
    (here : c.task slot = some (.create r call)) (effect : CreationEffect setup c.store r call s' next)
    (spares : ∀ n other call', n ≠ slot → c.task n = some (.create other call') → ∀ lock : Lock, call.releases r lock →
      lock.key = other.line.lockKey → lock.owner = other.user.username → False) :
    PlacesSound setup { store := s', task := Function.update c.task slot (next.map (.create r)) } := by
  have taskCases : ∀ n other later, Function.update c.task slot (next.map (.create r)) n =
      some (.create other later) → n = slot ∧ other = r ∧ next = some later ∨
      n ≠ slot ∧ c.task n = some (.create other later) := by
    intro n other later held
    rcases Concurrent.update_task held with ⟨rfl, named⟩ | stays
    · obtain ⟨call', isNext, ⟨⟩⟩ := Option.map_eq_some_iff.mp named
      exact .inl ⟨rfl, rfl, isNext⟩
    · exact .inr stays
  refine ⟨fun place => ?_, effect.keys, fun n other later held => ?_, ?_⟩
  · rcases effect.lines with same | ⟨looked, line, appended, atPlace⟩
    · rw [same]
      exact sound.one place
    · rw [appended, List.countP_append, List.countP_singleton]
      by_cases asked : place = r.place
      · have vacant : Vacant c.store r.place := (sound.calls slot r call here).vacant looked
        rw [asked, vacant]
        split <;> omega
      · have elsewhere : activeAt place line = false := by
          rw [activeAt, atPlace, Bool.and_eq_false_iff]
          exact .inr (beq_eq_false_iff_ne.mpr (Ne.symm asked))
        rw [elsewhere, if_neg Bool.false_ne_true]
        exact sound.one place
  · rcases taskCases n other later held with ⟨_, rfl, isNext⟩ | ⟨differ, known⟩
    · exact effect.next later isNext
    · refine (sound.calls n other later known).carried (fun lock member key owner valid _ => ?_)
        fun looked vacant => ?_
      · rcases effect.locks lock member valid with stays | released
        · exact stays
        · exact (spares n other later differ known lock released key owner).elim
      · rcases effect.lines with same | ⟨inserts, line, appended, atPlace⟩
        · rw [Vacant, same]
          exact vacant
        · have apart := sound.exclusive differ known here (CreationCall.relies_of_lookedUp looked)
            (CreationCall.relies_of_lookedUp inserts)
          have elsewhere : activeAt other.place line = false := by
            rw [activeAt, atPlace, Bool.and_eq_false_iff]
            exact .inr (beq_eq_false_iff_ne.mpr (Ne.symm apart))
          rw [Vacant, appended, List.countP_append, List.countP_singleton, elsewhere, if_neg Bool.false_ne_true]
          exact vacant
  · intro n n' a b callA callB differ heldA heldB
    rcases taskCases n a callA heldA with ⟨rfl, rfl, _⟩ | ⟨offA, knownA⟩
    · rcases taskCases n' b callB heldB with ⟨rfl, _, _⟩ | ⟨_, knownB⟩
      · exact absurd rfl differ
      · exact sound.apart n n' a b call callB differ here knownB
    · rcases taskCases n' b callB heldB with ⟨rfl, rfl, _⟩ | ⟨_, knownB⟩
      · exact sound.apart n n' a b callA call differ knownA here
      · exact sound.apart n n' a b callA callB differ knownA knownB

/-- A slot that ends without touching lines, and locks that stay where they are relied on. -/
theorem PlacesSound.clock (sound : PlacesSound setup c) {slot : ℕ} {locks : List Lock}
    (keys : (locks.map Lock.key).Nodup)
    (kept : ∀ n r call, c.task n = some (.create r call) → call.relies = true → ∀ lock ∈ c.store.locks,
      lock.key = r.line.lockKey → lock.expired = false → lock ∈ locks) :
    PlacesSound setup { store := { c.store with locks := locks }, task := Function.update c.task slot none } := by
  have known : ∀ n r call, Function.update c.task slot none n = some (.create r call) →
      c.task n = some (.create r call) := by
    intro n r call held
    rcases Concurrent.update_task held with ⟨_, gone⟩ | ⟨_, stays⟩
    · cases gone
    · exact stays
  refine ⟨sound.one, keys, fun n r call held => ?_, fun n n' r r' call call' differ here there => ?_⟩
  · exact (sound.calls n r call (known n r call held)).carried
      (fun lock member key _ valid relies => kept n r call (known n r call held) relies lock member key valid)
      fun _ vacant => vacant
  · exact sound.apart n n' r r' call call' differ (known n r call here) (known n' r' call' there)

end Steps

/-- Every admitted step keeps the invariant. -/
theorem PlacesSound.step {setup : LockSetup} {c : Counting} {move : Move CountingRequest} (sound : PlacesSound setup c)
    (ok : CountingOk setup c move) : PlacesSound setup (c.step setup move) := by
  unfold Counting.step
  rcases Concurrent.step_cases startCounting (resumeCounting setup) c move with
    nothing | ⟨slot, request, rfl, free, after⟩ | ⟨slot, t, rfl, held, after⟩ | ⟨slot, rfl, after⟩
  · rw [nothing]
    exact sound
  · rw [after]
    have starting : ∀ n r call, Function.update c.task slot (startCounting c.store request) n =
        some (.create r call) → n = slot ∧ request = .create r ∧ call = .load ∨
        n ≠ slot ∧ c.task n = some (.create r call) := by
      intro n r call held
      rcases Concurrent.update_task held with ⟨rfl, started⟩ | stays
      · cases request with
        | create r' =>
          cases started
          exact .inl ⟨rfl, rfl, rfl⟩
        | expire key => cases started
        | sweep => cases started
      · exact .inr stays
    refine ⟨sound.one, sound.keys, fun n r call held => ?_, fun n n' r r' call call' differ here there => ?_⟩
    · rcases starting n r call held with ⟨_, rfl, rfl⟩ | ⟨_, known⟩
      · exact callOk_idle ok.1 rfl
      · exact sound.calls n r call known
    · rcases starting n r call here with ⟨rfl, rfl, rfl⟩ | ⟨_, known⟩
      · rcases starting n' r' call' there with ⟨rfl, _, _⟩ | ⟨_, known'⟩
        · exact absurd rfl differ
        · exact ok.2 n' r' call' known'
      · rcases starting n' r' call' there with ⟨rfl, rfl, rfl⟩ | ⟨_, known'⟩
        · exact (ok.2 n r call known).symm
        · exact sound.apart n n' r r' call call' differ known known'
  · rw [after]
    rw [CountingOk, held] at ok
    cases t with
    | create r call =>
      have known := sound.calls slot r call held
      refine sound.create held (resumeCreation_effect known sound.keys fun a variant same => ?_)
        fun n other call' differ there lock released key owner => ?_
      · subst same
        exact ok
      · cases call with
        | releasePlace held' stored =>
          have apart := sound.apart slot n r other _ call' (Ne.symm differ) held there
          exact apart.2 (key.symm.trans released.1) (owner.symm.trans released.2)
        | releaseVariant variant stored =>
          exact ok n other call' differ there (owner.symm.trans released.2) (key.symm.trans released.1)
        | _ => exact released
    | expire key =>
      refine sound.clock ?_ fun n r call there _ lock member keyed _ => ?_
      · rw [expireLock_keys]
        exact sound.keys
      · have other : lock.key ≠ key := by
          rw [keyed]
          exact ok n r call there
        exact List.mem_map.mpr ⟨lock, member, if_neg other⟩
    | sweep =>
      refine sound.clock (sound.keys.sublist (List.filter_sublist.map _)) fun n r call _ _ lock member _ valid => ?_
      exact List.mem_filter.mpr ⟨member, by rw [valid]; rfl⟩
  · rw [after]
    exact sound.clock sound.keys fun _ _ _ _ _ _ member _ _ => member

/-- In every interleaving of creations that name their places by numbers, recount nothing
and keep their locks to themselves, no place has two active lines. -/
theorem one_active_line_per_place {setup : LockSetup} {store : Store} {c : Counting}
    (first : ∀ place, store.countLines.countP (activeAt place) ≤ 1)
    (run : Reaches (Counting.step setup) (CountingOk setup) { store := { store := store } } c)
    (place : Place) : c.store.store.countLines.countP (activeAt place) ≤ 1 := by
  have start : PlacesSound setup { store := { store := store } } :=
    ⟨first, List.nodup_nil, fun _ _ _ held => (nomatch held), fun _ _ _ _ _ _ _ held => (nomatch held)⟩
  exact (run.invariant start fun _ _ sound ok => sound.step ok).one place

def shelfEnv (id oid : String) : Env := { sampleEnv with deployment := .standalone, freshId := id, freshOid := oid }

/-- A count of the item on a shelf that is named by its ids or by its numbers. -/
def shelfCount (byNumber : Bool) (quantity : ℚ) : CountLineCreate where
  sessionId := "S1"
  itemCode := "I1"
  countedQty := quantity
  locationId := some "W1"
  floorId := if byNumber then none else some "F1"
  rackId := if byNumber then none else some "R1"
  floorNo := if byNumber then some "F1" else none
  rackNo := if byNumber then some "R1" else none
  remark := some "ok"
  varianceReason := some "recounted"
  correctionReason := .dict [("code", .str "RECOUNT"), ("description", .str "second look")]

def shelfCreation (byNumber : Bool) (id oid : String) (quantity : ℚ) : Creation where
  env := shelfEnv id oid
  user := counter
  body := shelfCount byNumber quantity

def wholeCreation (slot : ℕ) (r : Creation) : List (Move CountingRequest) :=
  .start slot (.create r) :: List.replicate 14 (.resume slot)

def shelfPlace : Place := (.str "S1", .str "I1", .str "F1", .str "R1")

/-- A shelf named by its ids gets two active lines from two counts in turn. -/
theorem shelf_counted_twice : ¬ ∀ (setup : LockSetup) (store : Store) (moves : List (Move CountingRequest)),
    (∀ place, store.countLines.countP (activeAt place) ≤ 1) → ∀ place,
      (moves.foldl (Counting.step setup) { store := { store := store } }).store.store.countLines.countP
        (activeAt place) ≤ 1 := by
  intro claimed
  have counted := claimed {} countingStore
    (wholeCreation 0 (shelfCreation false "line-1" "000000000000000000000001" 10) ++
      wholeCreation 0 (shelfCreation false "line-2" "000000000000000000000002" 11))
    (fun place => Nat.zero_le _) shelfPlace
  have two : (List.foldl (Counting.step {}) { store := { store := countingStore } }
      (wholeCreation 0 (shelfCreation false "line-1" "000000000000000000000001" 10) ++
        wholeCreation 0 (shelfCreation false "line-2" "000000000000000000000002"
          11))).store.store.countLines.countP (activeAt shelfPlace) = 2 := by
    decide +kernel
  rw [two] at counted
  exact absurd counted (by decide)

/-- The next call of the slot asks for no lock a second time and releases no variant. -/
def plainCall (slot : ℕ) (c : Counting) : Bool :=
  match c.task slot with
  | some (.create _ (.inspectPlace ..)) => false
  | some (.create _ (.releaseVariant ..)) => false
  | some (.expire _) => false
  | _ => true

def plainCalls (setup : LockSetup) (slot : ℕ) : ℕ → Counting → Bool
  | 0, _ => true
  | n + 1, c => plainCall slot c && plainCalls setup slot n (c.step setup (.resume slot))

theorem reaches_plainCalls {setup : LockSetup} {slot n : ℕ} {c : Counting} (plain : plainCalls setup slot n c = true) :
    Reaches (Counting.step setup) (CountingOk setup) c
      ((List.replicate n (.resume slot)).foldl (Counting.step setup) c) := by
  induction n generalizing c with
  | zero => exact .start
  | succ n ih =>
    rw [plainCalls, Bool.and_eq_true] at plain
    refine .head (.resume slot) ?_ (ih plain.2)
    have here := plain.1
    unfold plainCall at here
    rw [CountingOk]
    split <;> simp_all

/-- A count on a shelf named by its numbers. -/
theorem one_active_line_per_place_counted :
    ∃ c, Reaches (Counting.step {}) (CountingOk {}) { store := { store := countingStore } } c ∧
      c.store.store.countLines.length = 1 ∧ c.store.store.countLines.countP (activeAt shelfPlace) ≤ 1 := by
  have admitted : CreationOk {} (shelfCreation true "line-1" "000000000000000000000001" 10) :=
    ⟨rfl, .inl ⟨"F1", rfl, by decide⟩, .inl ⟨"R1", rfl, by decide⟩, rfl⟩
  have started : CountingOk {} { store := { store := countingStore } }
      (.start 0 (.create (shelfCreation true "line-1" "000000000000000000000001" 10))) :=
    ⟨admitted, fun n other call held => (nomatch held)⟩
  have resumed := @reaches_plainCalls {} 0 14 (Counting.step {} { store := { store := countingStore } }
    (.start 0 (.create (shelfCreation true "line-1" "000000000000000000000001" 10)))) (by decide +kernel)
  have run := Reaches.head _ started resumed
  exact ⟨_, run, by decide +kernel, one_active_line_per_place (fun place => Nat.zero_le _) run shelfPlace⟩

end StockVerification
