import StockVerification.Foundation.Interleaving
import StockVerification.Finalization
import StockVerification.CountLineRoutes

/-!
# Concurrent session writers

The session document is written by the totals refresh, the field update, the status
transition and the finalization. Each reads the document, works out what to set and
then updates the document under the version it read. The calls of several writers
interleave, and anything else may happen between them that leaves the sessions alone.

Outside a transaction the versioned update is stored before the projection is written.
The projection lock may be refused then: the writer fails, and its update stays.
-/
namespace StockVerification

open Foundation Foundation.Action

inductive SessionWrite where
  /-- `update_session_totals`. The write core has captured the version beforehand. -/
  | totals (stamped : Bool) (captured : Option WriteContext)
  /-- `update_session_fields`. Its callers set fields of their own, and a conflict
  resolution leaves out the names of the session. -/
  | fields (entries : List (String × Value))
      (unnamed : ∀ field ∈ ["id", "session_id"], field ∉ entries.map Prod.fst)
  | transition (target actor : String) (note : Option String)
  | finalize (hasFinalizer : Bool) (actor : String) (note : Option String)

structure SessionWriter where
  env : Env
  sessionId : String
  write : SessionWrite
  inTransaction : Bool

/-- A success as the writer reports it: what it had read, and the document before and
after its update. -/
structure Report where
  sessionId : String
  read : Doc
  before : Doc
  after : Doc

/-- What a writer in flight does next. -/
inductive SessionCall where
  | capture
  | compute (expected : Option Int)
  | read (expected : Option Int) (fields : Doc)
  | load
  | prepare (session : Doc)
  | update (session fields : Doc) (expected : Int)
  | project (report : Report)

inductive OccTask where
  | writer (w : SessionWriter) (call : SessionCall)
  | elsewhere (others : Store)

inductive OccRequest where
  | writer (w : SessionWriter)
  | elsewhere (others : Store)

structure OccState where
  store : Store
  reports : List Report := []

def startWriter (w : SessionWriter) : Option SessionCall :=
  match w.write with
  | .totals _ (some _) => some .capture
  | .totals _ none => some (.compute none)
  | .fields entries _ => if entries.isEmpty then none else some (.read none (Doc.ofList entries))
  | .transition .. => some .load
  | .finalize .. => some .load

def startOcc (_ : OccState) : OccRequest → Option OccTask
  | .writer w => (startWriter w).map (.writer w)
  | .elsewhere others => some (.elsewhere others)

/-- The checks of `transition_session` between its read and its update. -/
def prepareTransition (env : Env) (sessionId targetStatus actor : String) (note : Option String)
    (session : Doc) (s : Store) : Except Error Doc := do
  let current := normalizeSessionStatus (session.get "status")
  let target := normalizeSessionStatus (.str targetStatus)
  assertValidTransition current target
  require (!isSessionClosedToWrites session) (.governance finalizedMessage)
  if target = "FINALIZED" then assertSessionReadyToFinalize sessionId s else pure ()
  let fields := Doc.ofList (transitionFields env target actor note)
  validateSession env (session.update fields)
  pure fields

variable {s t : Store} (env : Env)

/-- The version `_capture_session_versions` finds. -/
def captureVersion (ctx : WriteContext) (sessionId : String) (s : Store) : Except Error Int := do
  let versions ← captureSessionVersions ctx [sessionId] s
  pure ((versions.map fun entry => (entry.2 : Int)).headD 0)

/-- The versioned update. It is reported at once where the copies are part of the same
transaction, and otherwise after the projection. -/
def applyUpdate (s : OccState) (w : SessionWriter) (session fields : Doc) (expected : Int) :
    OccState × Option OccTask :=
  match updateSessionWithOcc w.sessionId fields expected s.store with
  | .error _ => (s, none)
  | .ok t =>
    let report : Report :=
      { sessionId := w.sessionId, read := session
        before := (s.store.findSession w.sessionId).getD Doc.empty
        after := (t.findSession w.sessionId).getD Doc.empty }
    if w.inTransaction then ({ store := t, reports := s.reports ++ [report] }, none)
    else ({ s with store := t }, some (.writer w (.project report)))

/-- One call of a writer and what follows it. -/
def resumeWriter (s : OccState) (w : SessionWriter) : SessionCall → OccState × Option OccTask
  | .capture =>
    match w.write with
    | .totals _ (some ctx) =>
      match captureVersion ctx w.sessionId s.store with
      | .ok version => (s, some (.writer w (.compute (some version))))
      | .error _ => (s, none)
    | _ => (s, none)
  | .compute expected =>
    match w.write, computeSessionTotals s.store w.sessionId with
    | .totals stamped _, .ok totals =>
      let stamp := if stamped then [("updated_at", .date w.env.now)] else []
      (s, some (.writer w (.read expected (Doc.ofList (totals.toFields ++ stamp)))))
    | _, _ => (s, none)
  | .read expected fields =>
    match ensureSessionNotFinalized w.sessionId s.store with
    | .ok session => (s, some (.writer w (.update session fields
        (expected.getD (coerceVersion (session.get "version"))))))
    | .error _ => (s, none)
  | .load =>
    match ensureSessionExists w.sessionId s.store with
    | .ok session => (s, some (.writer w (.prepare session)))
    | .error _ => (s, none)
  | .prepare session =>
    match w.write with
    | .transition target actor note =>
      match prepareTransition w.env w.sessionId target actor note session s.store with
      | .ok fields =>
        (s, some (.writer w (.update session fields (coerceVersion (session.get "version")))))
      | .error _ => (s, none)
    | .finalize hasFinalizer actor note =>
      match prepareFinalization w.env hasFinalizer w.sessionId actor note session s.store with
      | .ok totals t => ({ s with store := t },
          some (.writer w (.update session (Doc.ofList (finalizedSessionFields w.env actor note totals))
            (coerceVersion (session.get "version")))))
      | .error _ t => ({ s with store := t }, none)
    | _ => (s, none)
  | .update session fields expected => applyUpdate s w session fields expected
  | .project report =>
    ({ store := syncForSessions w.env [w.sessionId] s.store, reports := s.reports ++ [report] }, none)

def resumeOcc (s : OccState) : OccTask → OccState × Option OccTask
  | .writer w call => resumeWriter s w call
  | .elsewhere others => ({ s with store := { others with sessions := s.store.sessions } }, none)

abbrev Writing := Concurrent OccState OccTask

def Writing.step : Writing → Move OccRequest → Writing := Concurrent.step startOcc resumeOcc

def sessionVersion (d : Doc) : ℕ := coerceVersion (d.get "version")

/-- No name leads to two documents. -/
def Identified (docs : List Doc) : Prop :=
  ∀ sessionId, docs.Pairwise fun a b =>
    ¬ ((sessionLookup sessionId).holds a = true ∧ (sessionLookup sessionId).holds b = true)

def KeepsNames (fields : Doc) : Prop := fields "id" = none ∧ fields "session_id" = none

theorem lookup_congr {a b : Doc} (id : a "id" = b "id") (sessionId : a "session_id" = b "session_id")
    (name : String) : (sessionLookup name).holds a = (sessionLookup name).holds b := by
  simp only [sessionLookup, Filter.holds, Filter.fieldIs, id, sessionId]

theorem coerceVersion_int (n : Int) : coerceVersion (.num n) = n.toNat := by
  simp [coerceVersion, Value.integer, truncate]

variable {old : Doc} {expected : Int}

/-- What the version filter knows of the version an increment starts from. -/
theorem versionFilter_start {q : ℚ} (matched : (buildVersionFilter expected).holds old = true)
    (start : old "version" = none ∧ q = 0 ∨ old "version" = some (.num q)) :
    sessionVersion old = expected.toNat ∧ q = (expected.toNat : ℤ) := by
  unfold buildVersionFilter at matched
  split at matched
  · next low =>
    have zero : expected.toNat = 0 := Int.toNat_of_nonpos low
    rw [zero]
    rcases start with ⟨absent, rfl⟩ | stored
    · refine ⟨?_, rfl⟩
      rw [sessionVersion, Doc.get_eq, absent]
      rfl
    · have same : q = 0 := by
        simpa [Filter.holds, Filter.fieldIs, stored, Doc.has] using matched
      subst same
      refine ⟨?_, rfl⟩
      rw [sessionVersion, Doc.get_of_some stored]
      rfl
  · next high =>
    rcases start with ⟨absent, _⟩ | stored
    · simp [Filter.holds, Filter.fieldIs, absent] at matched
    · have same : q = expected := by simpa [Filter.holds, Filter.fieldIs, stored] using matched
      have cast : ((expected.toNat : ℤ) : ℚ) = expected := by
        rw [Int.toNat_of_nonneg (by omega)]
      refine ⟨?_, by rw [cast, same]⟩
      rw [sessionVersion, Doc.get_of_some stored, same, coerceVersion_int]

variable {sessionId : String} {fields : Doc}

/-- The update found its document under the expected version and moved it to the next. -/
theorem updateSessionWithOcc_effect
    (success : updateSessionWithOcc sessionId fields expected s = .ok t) :
    ∃ front back old new, s.sessions = front ++ old :: back ∧
      t = { s with sessions := front ++ new :: back } ∧ (sessionLookup sessionId).holds old = true ∧
      sessionVersion old = expected.toNat ∧ sessionVersion new = sessionVersion old + 1 ∧
      ∀ field, field ≠ "version" → new field = (fields field).or (old field) := by
  simp only [updateSessionWithOcc, bind_success, liftFault_ok, require_ok, pure_success] at success
  obtain ⟨⟨answer, sessions⟩, updated, _, answered, rfl⟩ := success
  rcases Collection.updateOne_ok updated with ⟨_, rfl, _⟩ | ⟨old, new, found, applied, _, _, rfl⟩
  · cases answered
  · obtain ⟨front, back, split, matched, before⟩ := Collection.find_split found
    simp only [Filter.holds, Bool.and_eq_true] at matched
    refine ⟨front, back, old, new, split, ?_, matched.1, ?_⟩
    · rw [split, Collection.replaceFirst_split (by simp [Filter.holds, matched.1, matched.2]) before]
    · have incremented : ({ set := fields, inc := [("version", 1)] } : Update).inc = [] ++ ("version", 1) :: [] := rfl
      obtain ⟨q, start, grown⟩ := Update.apply_inc applied incremented (by simp) (by simp)
      obtain ⟨version, qEq⟩ := versionFilter_start matched.2 start
      have next : q + 1 = ((expected.toNat + 1 : ℤ) : ℚ) := by
        rw [qEq]
        push_cast
        rfl
      refine ⟨version, ?_, ?_⟩
      · rw [version, sessionVersion, Doc.get_of_some grown, next, coerceVersion_int]
        omega
      · intro field other
        refine Update.apply_field applied ?_ (by simp)
        simpa using Ne.symm other

theorem Identified.replace {front back : List Doc} {new : Doc} (identified : Identified (front ++ old :: back))
    (names : ∀ name, (sessionLookup name).holds new = (sessionLookup name).holds old) :
    Identified (front ++ new :: back) := by
  intro name
  have apart := identified name
  rw [List.pairwise_append, List.pairwise_cons] at apart ⊢
  obtain ⟨inFront, ⟨oldBack, inBack⟩, across⟩ := apart
  refine ⟨inFront, ⟨fun d member => ?_, inBack⟩, fun d member e later => ?_⟩
  · rw [names]
    exact oldBack d member
  · rcases List.mem_cons.mp later with rfl | behind
    · rw [names]
      exact across d member old (by simp)
    · exact across d member e (by simp [behind])

theorem find_identified {front back : List Doc} {d : Doc}
    (identified : Identified (front ++ d :: back)) (name : String) :
    ((sessionLookup name).holds d = true → (front ++ d :: back).find? (sessionLookup name).holds = some d) ∧
    ((sessionLookup name).holds d = false →
      (front ++ d :: back).find? (sessionLookup name).holds = (front ++ back).find? (sessionLookup name).holds) := by
  constructor
  · intro named
    have nobody : front.find? (sessionLookup name).holds = none := by
      rw [List.find?_eq_none]
      intro e member matched
      exact ((List.pairwise_append.mp (identified name)).2.2 e member d (by simp)) ⟨matched, named⟩
    rw [List.find?_append, nobody, Option.none_or, List.find?_cons_of_pos named]
  · intro unnamed
    rw [List.find?_append, List.find?_append, List.find?_cons_of_neg (by simp [unnamed])]

variable {name : String}

theorem Identified.find_of_mem {docs : List Doc} {d : Doc} (identified : Identified docs)
    (member : d ∈ docs) (named : (sessionLookup name).holds d = true) :
    docs.find? (sessionLookup name).holds = some d := by
  obtain ⟨front, back, rfl⟩ := List.append_of_mem member
  exact (find_identified identified name).1 named

/-- The document was like this before: at an earlier version, or it is like this now. -/
def PastOf (current past : Doc) : Prop :=
  sessionVersion past ≤ sessionVersion current ∧ (sessionVersion past = sessionVersion current → past = current)

theorem PastOf.refl (d : Doc) : PastOf d d := ⟨le_refl _, fun _ => rfl⟩

theorem PastOf.trans {a b c : Doc} (later : PastOf a b) (earlier : PastOf b c) : PastOf a c := by
  refine ⟨le_trans earlier.1 later.1, fun same => ?_⟩
  have middle : sessionVersion b = sessionVersion a := by
    have := later.1
    have := earlier.1
    omega
  rw [earlier.2 (by omega), later.2 middle]

/-- Every name leads to a document it led to before, or to a later version of it. -/
def Advances (s t : Store) : Prop :=
  ∀ name cur, s.findSession name = some cur →
    ∃ next, t.findSession name = some next ∧ PastOf next cur ∧
      ∀ other, (sessionLookup other).holds next = (sessionLookup other).holds cur

theorem advances_of_sessions (same : t.sessions = s.sessions) : Advances s t := by
  intro name cur found
  refine ⟨cur, ?_, PastOf.refl cur, fun _ => rfl⟩
  rw [Store.findSession, same]
  exact found

/-- What a successful versioned update does to the sessions. -/
structure OccEffect (sessionId : String) (expected : Int) (s t : Store) (old new : Doc) : Prop where
  found : s.findSession sessionId = some old
  stored : t.findSession sessionId = some new
  matched : sessionVersion old = expected.toNat
  grown : sessionVersion new = sessionVersion old + 1
  identified : Identified t.sessions
  advances : Advances s t
  /-- Another name of the document leads to its new version, any other name to the
  document it led to. -/
  others : ∀ name cur, s.findSession name = some cur →
    (sessionLookup sessionId).holds cur = true ∧ cur = old ∧ t.findSession name = some new ∨
      (sessionLookup sessionId).holds cur = false ∧ t.findSession name = some cur

theorem updateSessionWithOcc_spec
    (identified : Identified s.sessions) (plain : KeepsNames fields)
    (success : updateSessionWithOcc sessionId fields expected s = .ok t) :
    ∃ old new, OccEffect sessionId expected s t old new ∧
      ∀ field, field ≠ "version" → new field = (fields field).or (old field) := by
  obtain ⟨front, back, old, new, split, rfl, matched, version, grown, fieldsEq⟩ :=
    updateSessionWithOcc_effect success
  rw [split] at identified
  have names : ∀ name, (sessionLookup name).holds new = (sessionLookup name).holds old := by
    refine lookup_congr ?_ ?_
    · rw [fieldsEq _ (by decide), plain.1]
      rfl
    · rw [fieldsEq _ (by decide), plain.2]
      rfl
  have replaced := identified.replace names
  have others : ∀ name cur, s.findSession name = some cur → (sessionLookup sessionId).holds cur = true ∧ cur = old ∧
        (front ++ new :: back).find? (sessionLookup name).holds = some new ∨
      (sessionLookup sessionId).holds cur = false ∧
        (front ++ new :: back).find? (sessionLookup name).holds = some cur := by
    intro name cur found
    rw [Store.findSession, split] at found
    cases named : (sessionLookup name).holds old with
    | true =>
      have same : cur = old := Option.some.inj (found.symm.trans ((find_identified identified name).1 named))
      refine .inl ⟨by rw [same]; exact matched, same, (find_identified replaced name).1 ?_⟩
      rw [names, named]
    | false =>
      rw [(find_identified identified name).2 named] at found
      refine .inr ⟨?_, ?_⟩
      · -- the document under the other name stands elsewhere in the list
        rw [← Bool.not_eq_true]
        intro both
        have apart := List.pairwise_append.mp (identified sessionId)
        rcases List.mem_append.mp (List.mem_of_find?_eq_some found) with before | behind
        · exact apart.2.2 cur before old (by simp) ⟨both, matched⟩
        · exact (List.pairwise_cons.mp apart.2.1).1 cur behind ⟨matched, both⟩
      · rw [(find_identified replaced name).2 (by rw [names, named]), found]
  refine ⟨old, new, ⟨?_, ?_, version, grown, replaced, ?_, others⟩, fieldsEq⟩
  · rw [Store.findSession, split]
    exact (find_identified identified sessionId).1 matched
  · exact (find_identified replaced sessionId).1 (by rw [names, matched])
  · intro name cur found
    rcases others name cur found with ⟨_, rfl, later⟩ | ⟨_, same⟩
    · exact ⟨new, later, ⟨by omega, fun equal => by omega⟩, names⟩
    · exact ⟨cur, same, PastOf.refl cur, fun _ => rfl⟩

def AtLeast (s : Store) (sessionId : String) (version : Int) : Prop :=
  ∃ cur, s.findSession sessionId = some cur ∧ version ≤ sessionVersion cur

def Loaded (s : Store) (sessionId : String) (session : Doc) : Prop :=
  ∃ cur, s.findSession sessionId = some cur ∧ PastOf cur session

theorem AtLeast.advance {version : Int} (known : AtLeast s sessionId version)
    (later : Advances s t) : AtLeast t sessionId version := by
  obtain ⟨cur, found, bound⟩ := known
  obtain ⟨next, foundNext, past, _⟩ := later sessionId cur found
  have := past.1
  exact ⟨next, foundNext, by omega⟩

variable {session : Doc}

theorem Loaded.advance (loaded : Loaded s sessionId session) (later : Advances s t) :
    Loaded t sessionId session := by
  obtain ⟨cur, found, past⟩ := loaded
  obtain ⟨next, foundNext, pastNext, _⟩ := later sessionId cur found
  exact ⟨next, foundNext, pastNext.trans past⟩

def Report.Faithful (report : Report) : Prop :=
  report.before = report.read ∧ sessionVersion report.after = sessionVersion report.read + 1

def CallSound (s : Store) (w : SessionWriter) : SessionCall → Prop
  | .capture => True
  | .compute expected => ∀ e, expected = some e → AtLeast s w.sessionId e
  | .read expected fields => KeepsNames fields ∧ ∀ e, expected = some e → AtLeast s w.sessionId e
  | .load => True
  | .prepare session => Loaded s w.sessionId session
  | .update session fields expected =>
      KeepsNames fields ∧ Loaded s w.sessionId session ∧ expected ≤ sessionVersion session
  | .project report => report.Faithful

def OccTask.Sound (s : Store) : OccTask → Prop
  | .writer w call => CallSound s w call
  | .elsewhere _ => True

theorem OccTask.Sound.advance {task : OccTask} (sound : task.Sound s) (later : Advances s t) : task.Sound t := by
  cases task with
  | elsewhere others => trivial
  | writer w call =>
    cases call with
    | capture => trivial
    | compute expected => exact fun e given => (sound e given).advance later
    | read expected fields => exact ⟨sound.1, fun e given => (sound.2 e given).advance later⟩
    | load => trivial
    | prepare session => exact Loaded.advance sound later
    | update session fields expected => exact ⟨sound.1, sound.2.1.advance later, sound.2.2⟩
    | project report => exact sound

/-- The versioned update is stored and not reported. -/
def OccTask.applied : OccTask → Option Report
  | .writer _ (.project report) => some report
  | _ => none

theorem keepsNames_ofList {entries : List (String × Value)}
    (unnamed : ∀ field ∈ ["id", "session_id"], field ∉ entries.map Prod.fst) :
    KeepsNames (Doc.ofList entries) :=
  ⟨Doc.ofList_other (unnamed _ (by decide)), Doc.ofList_other (unnamed _ (by decide))⟩

theorem keepsNames_totals (totals : SessionTotals) (stamped : Bool) (now : Int) :
    KeepsNames (Doc.ofList (totals.toFields ++ if stamped then [("updated_at", .date now)] else [])) := by
  refine keepsNames_ofList ?_
  cases stamped <;> simp [SessionTotals.toFields]

theorem keepsNames_transition (target actor : String) (note : Option String) :
    KeepsNames (Doc.ofList (transitionFields env target actor note)) := by
  refine keepsNames_ofList ?_
  unfold transitionFields
  split <;> split <;> split <;> (try split) <;> simp

theorem keepsNames_finalized (actor : String) (note : Option String) (totals : SessionTotals) :
    KeepsNames (Doc.ofList (finalizedSessionFields env actor note totals)) := by
  refine keepsNames_ofList ?_
  unfold finalizedSessionFields
  split <;> (try split) <;> simp [SessionTotals.toFields]

theorem prepareTransition_ok {env : Env} {target actor : String} {note : Option String}
    (prepared : prepareTransition env sessionId target actor note session s = .ok fields) : KeepsNames fields := by
  simp only [prepareTransition] at prepared
  split at prepared <;> simp only [bind_success, pure_success] at prepared
  · obtain ⟨_, _, _, _, _, _, _, _, rfl⟩ := prepared
    exact keepsNames_transition ..
  · obtain ⟨_, _, _, _, _, _, _, _, rfl⟩ := prepared
    exact keepsNames_transition ..

def SameSessions (s t : Store) : Prop := t.sessions = s.sessions

/-- The preparation of a finalization locks lines and leaves the sessions alone. -/
theorem prepareFinalization_sessions (hasFinalizer : Bool) (sessionId actor : String)
    (note : Option String) (session : Doc) (s : Store) :
    SameSessions s ((prepareFinalization env hasFinalizer sessionId actor note session).final s) := by
  have same : SameSessions s s := rfl
  unfold prepareFinalization
  iterate 4 refine final_reads_bind same fun _ _ => ?_
  refine final_reads_bind same fun called _ => ?_
  refine final_reads_bind same fun _ _ => ?_
  refine final_writes_bind same fun locked lockedEq => ?_
  have sameLocked : SameSessions s locked := by
    rw [← Except.ok.inj lockedEq]
    split <;> rfl
  exact final_reads sameLocked

theorem captureVersion_ok {ctx : WriteContext} {version : Int}
    (captured : captureVersion ctx sessionId s = .ok version) : AtLeast s sessionId version := by
  simp only [captureVersion, captureSessionVersions, List.mapM_cons, List.mapM_nil, bind_success, pure_success] at captured
  obtain ⟨versions, ⟨entry, checked, rest, rfl, rfl⟩, rfl⟩ := captured
  cases present : s.findSession sessionId with
  | none =>
    simp only [present, bind_success] at checked
    obtain ⟨_, ⟨⟩, _⟩ := checked
  | some session =>
    simp only [present, bind_success, pure_success, Except.ok.injEq] at checked
    obtain ⟨_, rfl, _, _, rfl⟩ := checked
    exact ⟨session, present, le_refl _⟩

theorem loaded_of_find (found : s.findSession sessionId = some session) :
    Loaded s sessionId session :=
  ⟨session, found, PastOf.refl session⟩

/-- What a call can do. -/
inductive CallEffect (s : OccState) (t : OccTask) (after : OccState) (next : Option OccTask) : Prop where
  /-- It leaves the sessions and the reports alone. -/
  | quiet (unapplied : t.applied = none) (sessions : after.store.sessions = s.store.sessions)
      (reports : after.reports = s.reports)
      (continued : ∀ task, next = some task → task.applied = none ∧ task.Sound after.store)
  /-- It is the versioned update, reported at once or later. -/
  | updated {w : SessionWriter} {expected : Int} {old new : Doc} {report : Report}
      (unapplied : t.applied = none)
      (effect : OccEffect w.sessionId expected s.store after.store old new)
      (own : report.sessionId = w.sessionId) (faithful : report.Faithful)
      (reported : after.reports = s.reports ++ [report] ∧ next = none ∨
        after.reports = s.reports ∧ next = some (.writer w (.project report)))
  /-- It is the projection after the update. -/
  | projected {report : Report} (applied : t.applied = some report)
      (sessions : after.store.sessions = s.store.sessions) (reports : after.reports = s.reports ++ [report])
      (ended : next = none)

variable {w : SessionWriter}

theorem applyUpdate_effect {s : OccState} (identified : Identified s.store.sessions)
    (sound : CallSound s.store w (.update session fields expected)) :
    CallEffect s (.writer w (.update session fields expected))
      (applyUpdate s w session fields expected).1 (applyUpdate s w session fields expected).2 := by
  obtain ⟨plain, ⟨cur, found, past⟩, bound⟩ := sound
  unfold applyUpdate
  split
  · exact .quiet rfl rfl rfl (fun task more => by cases more)
  · next t success =>
    obtain ⟨old, new, effect, _⟩ := updateSessionWithOcc_spec identified plain success
    have current : cur = old := Option.some.inj (found.symm.trans effect.found)
    subst current
    -- the version that was read is the one the update found
    have same : session = cur := by
      refine past.2 ?_
      have matched := effect.matched
      have earlier := past.1
      omega
    have faithful : Report.Faithful
        { sessionId := w.sessionId, read := session
          before := (s.store.findSession w.sessionId).getD Doc.empty
          after := (t.findSession w.sessionId).getD Doc.empty } := by
      constructor
      · change (s.store.findSession w.sessionId).getD Doc.empty = session
        rw [effect.found, same]
        rfl
      · change sessionVersion ((t.findSession w.sessionId).getD Doc.empty) = sessionVersion session + 1
        rw [effect.stored, same]
        exact effect.grown
    split
    · exact .updated rfl effect rfl faithful (.inl ⟨rfl, rfl⟩)
    · exact .updated rfl effect rfl faithful (.inr ⟨rfl, rfl⟩)

theorem resumeWriter_effect {s : OccState} {call : SessionCall}
    (identified : Identified s.store.sessions) (sound : CallSound s.store w call) :
    CallEffect s (.writer w call) (resumeWriter s w call).1 (resumeWriter s w call).2 := by
  have stops : ∀ call, OccTask.applied (.writer w call) = none → CallEffect s (.writer w call) s none :=
    fun call unapplied => .quiet unapplied rfl rfl (fun task more => by cases more)
  have goesOn : ∀ call next, OccTask.applied (.writer w call) = none →
      OccTask.applied (.writer w next) = none → CallSound s.store w next →
      CallEffect s (.writer w call) s (some (.writer w next)) := by
    intro call next unapplied unappliedNext soundNext
    refine .quiet unapplied rfl rfl fun task more => ?_
    cases more
    exact ⟨unappliedNext, soundNext⟩
  cases call with
  | capture =>
    simp only [resumeWriter]
    split
    · split
      · next captured =>
        refine goesOn _ _ rfl rfl fun e given => ?_
        cases given
        exact captureVersion_ok captured
      · exact stops _ rfl
    · exact stops _ rfl
  | compute expected =>
    simp only [resumeWriter]
    split
    · exact goesOn _ _ rfl rfl ⟨keepsNames_totals .., sound⟩
    · exact stops _ rfl
  | read expected fields =>
    simp only [resumeWriter]
    split
    · next session checked =>
      have found : s.store.findSession w.sessionId = some session := by
        simp only [ensureSessionNotFinalized, bind_success, pure_success] at checked
        obtain ⟨_, exists_, _, _, rfl⟩ := checked
        exact ensureSessionExists_ok.mp exists_
      refine goesOn _ _ rfl rfl ⟨sound.1, loaded_of_find found, ?_⟩
      cases expected with
      | none => exact le_refl _
      | some e =>
        obtain ⟨cur, present, bound⟩ := sound.2 e rfl
        rw [found] at present
        cases present
        exact bound
    · exact stops _ rfl
  | load =>
    simp only [resumeWriter]
    split
    · next session found =>
      exact goesOn _ _ rfl rfl (loaded_of_find (ensureSessionExists_ok.mp found))
    · exact stops _ rfl
  | prepare session =>
    simp only [resumeWriter]
    split
    · split
      · next prepared =>
        exact goesOn _ _ rfl rfl ⟨prepareTransition_ok prepared, sound, le_refl _⟩
      · exact stops _ rfl
    · next hasFinalizer actor note _ =>
      have kept := prepareFinalization_sessions w.env hasFinalizer w.sessionId actor note session s.store
      split
      · next totals t prepared =>
        rw [final_of_ok prepared] at kept
        refine .quiet rfl kept rfl fun task more => ?_
        cases more
        have later := Loaded.advance sound (advances_of_sessions kept)
        exact ⟨rfl, keepsNames_finalized .., later, le_refl _⟩
      · next error t failed =>
        rw [final, failed] at kept
        exact .quiet rfl kept rfl (fun task more => by cases more)
    · exact stops _ rfl
  | update session fields expected => exact applyUpdate_effect identified sound
  | project report =>
    refine .projected rfl ?_ rfl rfl
    exact syncForSessions_sessions w.env [w.sessionId] s.store

theorem resumeOcc_effect {s : OccState} {t : OccTask} (identified : Identified s.store.sessions)
    (sound : t.Sound s.store) : CallEffect s t (resumeOcc s t).1 (resumeOcc s t).2 := by
  cases t with
  | writer w call => exact resumeWriter_effect identified sound
  | elsewhere others => exact .quiet rfl rfl rfl (fun task more => by cases more)

theorem startWriter_sound {call : SessionCall} (begun : startWriter w = some call) (s : Store) :
    OccTask.applied (.writer w call) = none ∧ CallSound s w call := by
  unfold startWriter at begun
  split at begun
  · cases begun
    exact ⟨rfl, trivial⟩
  · cases begun
    exact ⟨rfl, fun e given => by cases given⟩
  · next entries unnamed _ =>
    split at begun
    · cases begun
    · cases begun
      exact ⟨rfl, keepsNames_ofList unnamed, fun e given => by cases given⟩
  · cases begun
    exact ⟨rfl, trivial⟩
  · cases begun
    exact ⟨rfl, trivial⟩

theorem startOcc_sound {s : OccState} {request : OccRequest} {t : OccTask}
    (begun : startOcc s request = some t) : t.applied = none ∧ t.Sound s.store := by
  cases request with
  | writer w =>
    simp only [startOcc, Option.map_eq_some_iff] at begun
    obtain ⟨call, called, rfl⟩ := begun
    exact startWriter_sound called s.store
  | elsewhere others =>
    cases begun
    exact ⟨rfl, trivial⟩

def Report.addresses (report : Report) (d : Doc) : Bool := (sessionLookup report.sessionId).holds d

/-- One where an update of this document waits for its report. -/
def awaiting (d : Doc) (task : Option OccTask) : ℕ :=
  match task.bind OccTask.applied with
  | none => 0
  | some report => if report.addresses d then 1 else 0

/-- The reports and the updates still to be reported account for every version. -/
structure OccSound (name : String) (first : Doc) (c : Writing) : Prop where
  identified : Identified c.store.store.sessions
  sound : ∀ slot t, c.task slot = some t → t.Sound c.store.store
  faithful : ∀ report ∈ c.store.reports, report.Faithful
  counted : ∃ cur total, c.store.store.findSession name = some cur ∧
    (∀ other, (sessionLookup other).holds cur = (sessionLookup other).holds first) ∧
    Concurrent.Weighs (awaiting first) c.task total ∧
    sessionVersion cur = sessionVersion first + c.store.reports.countP (·.addresses first) + total

/-- A writer that has stored its update lives to report it: its projection lock is
granted, and its process does not stop in between. -/
def Uninterrupted (c : Writing) : Move OccRequest → Prop
  | .abandon slot => ∀ t, c.task slot = some t → t.applied = none
  | _ => True

variable {first : Doc}

theorem awaiting_unapplied {task : Option OccTask}
    (unapplied : ∀ t, task = some t → t.applied = none) : awaiting first task = 0 := by
  unfold awaiting
  cases task with
  | none => rfl
  | some t =>
    rw [Option.bind_some, unapplied t rfl]

variable {c : Writing}

section

variable (before : OccSound name first c) {store : OccState}
include before

/-- A slot was written, and the sessions and the reports stay as they are. -/
theorem OccSound.quiet (slot : ℕ) (value : Option OccTask) (sessions : store.store.sessions = c.store.store.sessions)
    (reports : store.reports = c.store.reports) (unapplied : ∀ t, c.task slot = some t → t.applied = none)
    (continued : ∀ t, value = some t → t.applied = none ∧ t.Sound store.store) :
    OccSound name first { store := store, task := Function.update c.task slot value } := by
  have later := advances_of_sessions sessions
  obtain ⟨cur, total, found, names, weighs, version⟩ := before.counted
  refine ⟨by rw [sessions]; exact before.identified, ?_, by rw [reports]; exact before.faithful, ?_⟩
  · intro n t held
    rcases Concurrent.update_task held with ⟨_, written⟩ | ⟨_, kept⟩
    · exact (continued t written).2
    · exact (before.sound n t kept).advance later
  · refine ⟨cur, total, ?_, names, ?_, by rw [reports]; exact version⟩
    · rw [Store.findSession, sessions]
      exact found
    · apply weighs.update rfl slot value
      rw [awaiting_unapplied unapplied, awaiting_unapplied fun t more => (continued t more).1]

/-- The versioned update, with the slot of the writer that made it. -/
theorem OccSound.updated (slot : ℕ) {value : Option OccTask} {new : Doc} {report : Report}
    (effect : OccEffect w.sessionId expected c.store.store store.store old new)
    (unapplied : ∀ t, c.task slot = some t → t.applied = none)
    (own : report.sessionId = w.sessionId) (faithful : report.Faithful)
    (reported : store.reports = c.store.reports ++ [report] ∧ value = none ∨ store.reports = c.store.reports ∧
      value = some (.writer w (.project report))) :
    OccSound name first { store := store, task := Function.update c.task slot value } := by
  obtain ⟨cur, total, found, names, weighs, version⟩ := before.counted
  have idle : awaiting first (c.task slot) = 0 := awaiting_unapplied unapplied
  -- the report accounts for one version of the document it is about, now or later
  have account : ∃ later, store.reports.countP (·.addresses first) + later =
      c.store.reports.countP (·.addresses first) + total + (if (sessionLookup w.sessionId).holds cur then 1 else 0) ∧
      Concurrent.Weighs (awaiting first) (Function.update c.task slot value) later := by
    have about : report.addresses first = (sessionLookup w.sessionId).holds cur := by
      rw [Report.addresses, own, names]
    rcases reported with ⟨now, rfl⟩ | ⟨later, rfl⟩
    · refine ⟨total, ?_, weighs.update rfl slot none (by rw [idle]; rfl)⟩
      rw [now, List.countP_append, List.countP_singleton, about]
      omega
    · refine ⟨total + awaiting first (some (.writer w (.project report))), ?_, ?_⟩
      · have weight : awaiting first (some (.writer w (.project report))) =
            if (sessionLookup w.sessionId).holds cur then 1 else 0 := by
          rw [← about]
          rfl
        rw [later, weight]
        omega
      · exact weighs.update rfl slot _ (by rw [idle]; rfl)
  obtain ⟨later, sum, weighsLater⟩ := account
  refine ⟨effect.identified, ?_, ?_, ?_⟩
  · intro n t held
    rcases Concurrent.update_task held with ⟨_, written⟩ | ⟨_, kept⟩
    · rcases reported with ⟨_, rfl⟩ | ⟨_, rfl⟩
      · cases written
      · cases written
        exact faithful
    · exact (before.sound n t kept).advance effect.advances
  · intro r member
    rcases reported with ⟨now, _⟩ | ⟨later, _⟩
    · rw [now, List.mem_append, List.mem_singleton] at member
      rcases member with earlier | rfl
      · exact before.faithful r earlier
      · exact faithful
    · rw [later] at member
      exact before.faithful r member
  · obtain ⟨next, foundNext, _, sameNames⟩ := effect.advances name cur found
    refine ⟨next, later, foundNext, fun other => (sameNames other).trans (names other), weighsLater, ?_⟩
    rcases effect.others name cur found with ⟨addressed, rfl, stored⟩ | ⟨unaddressed, stored⟩
    · have same : next = new := Option.some.inj (foundNext.symm.trans stored)
      have grown := effect.grown
      rw [addressed] at sum
      simp only [if_true] at sum
      rw [same]
      change sessionVersion new = sessionVersion first + store.reports.countP (·.addresses first) + later
      omega
    · have same : next = cur := Option.some.inj (foundNext.symm.trans stored)
      rw [unaddressed] at sum
      simp only [Bool.false_eq_true, if_false] at sum
      rw [same]
      change sessionVersion cur = sessionVersion first + store.reports.countP (·.addresses first) + later
      omega

/-- The projection: what waited for its report is reported. -/
theorem OccSound.projected {slot : ℕ} {t : OccTask} {report : Report} (held : c.task slot = some t)
    (applied : t.applied = some report) (sessions : store.store.sessions = c.store.store.sessions)
    (reports : store.reports = c.store.reports ++ [report]) :
    OccSound name first { store := store, task := Function.update c.task slot none } := by
  have later := advances_of_sessions sessions
  obtain ⟨cur, total, found, names, weighs, version⟩ := before.counted
  have weight : awaiting first (c.task slot) = if report.addresses first then 1 else 0 := by
    rw [held, awaiting, Option.bind_some, applied]
  have faithful : report.Faithful := by
    have sound := before.sound slot t held
    cases t with
    | elsewhere others => cases applied
    | writer w call =>
      cases call with
      | project r =>
        cases applied
        exact sound
      | _ => cases applied
  refine ⟨by rw [sessions]; exact before.identified, ?_, ?_, ?_⟩
  · intro n t' heldNow
    rcases Concurrent.update_task heldNow with ⟨_, written⟩ | ⟨_, kept⟩
    · cases written
    · exact (before.sound n t' kept).advance later
  · intro r member
    rw [reports, List.mem_append, List.mem_singleton] at member
    rcases member with earlier | rfl
    · exact before.faithful r earlier
    · exact faithful
  · have bound : awaiting first (c.task slot) ≤ total := weighs.le rfl slot
    refine ⟨cur, total - awaiting first (c.task slot), ?_, names, ?_, ?_⟩
    · rw [Store.findSession, sessions]
      exact found
    · apply weighs.update rfl slot none
      change _ = total + 0
      omega
    · rw [reports, List.countP_append, List.countP_singleton, ← weight, version]
      omega

end

theorem OccSound.step {move : Move OccRequest} (before : OccSound name first c)
    (meets : Uninterrupted c move) : OccSound name first (c.step move) := by
  unfold Writing.step
  rcases Concurrent.step_cases startOcc resumeOcc c move with
    nothing | ⟨slot, request, rfl, free, after⟩ | ⟨slot, t, rfl, held, after⟩ | ⟨slot, rfl, after⟩
  · rw [nothing]
    exact before
  · rw [after]
    apply before.quiet slot _ rfl rfl
    · intro t held
      rw [free] at held
      cases held
    · exact fun t begun => startOcc_sound begun
  · rw [after]
    have own : ∀ other, c.task slot = some other → other = t := by
      intro other also
      exact Option.some.inj (also.symm.trans held)
    cases resumeOcc_effect before.identified (before.sound slot t held) with
    | quiet unapplied sessions reports continued =>
      exact before.quiet slot _ sessions reports (fun other also => by rw [own other also, unapplied]) continued
    | updated unapplied effect named faithful reported =>
      exact before.updated slot effect (fun other also => by rw [own other also, unapplied]) named faithful reported
    | projected applied sessions reports ended =>
      rw [ended]
      exact before.projected held applied sessions reports
  · rw [after]
    exact before.quiet slot none rfl rfl meets (fun t more => by cases more)

theorem OccSound.initial (identified : Identified s.sessions)
    (found : s.findSession name = some first) : OccSound name first { store := { store := s } } := by
  refine ⟨identified, ?_, ?_, first, 0, found, fun _ => rfl, ⟨∅, fun _ _ => rfl, rfl⟩, rfl⟩
  · intro slot t held
    cases held
  · intro r member
    cases member

def Settled (c : Writing) : Prop := ∀ slot t, c.task slot = some t → t.applied = none

/-- Whatever the order of the reads and updates, the version of a session counts the
successes reported on it, and each success replaced the very document it had read. -/
theorem session_versions_count_successes {s : Store} {name : String} {first : Doc} {c : Writing}
    (identified : Identified s.sessions) (found : s.findSession name = some first)
    (run : Reaches Writing.step Uninterrupted { store := { store := s } } c) (settled : Settled c) :
    (∃ last, c.store.store.findSession name = some last ∧
      sessionVersion last = sessionVersion first + c.store.reports.countP (·.addresses first)) ∧
    ∀ report ∈ c.store.reports, report.Faithful := by
  have sound : OccSound name first c :=
    run.invariant (OccSound.initial identified found) fun _ _ before meets => before.step meets
  obtain ⟨cur, total, foundNow, _, weighs, version⟩ := sound.counted
  have nothing : total = 0 := weighs.eq_zero fun slot => awaiting_unapplied (settled slot)
  exact ⟨⟨cur, foundNow, by omega⟩, sound.faithful⟩

/-- A heartbeat on a session of the counting store. -/
def heartbeat : SessionWriter where
  env := sampleEnv
  sessionId := "S1"
  write := .fields [("last_heartbeat", .date 7)] (by simp)
  inTransaction := false

/-- Two heartbeats read the same version, and the first one to update it wins. -/
def twoHeartbeats : List (Move OccRequest) :=
  [.start 0 (.writer heartbeat), .start 1 (.writer heartbeat), .resume 0, .resume 1, .resume 0, .resume 1, .resume 0]

theorem session_versions_count_successes_heartbeats :
    (twoHeartbeats.foldl Writing.step { store := { store := countingStore } }).store.reports.length = 1 ∧
    ∃ last, (twoHeartbeats.foldl Writing.step
        { store := { store := countingStore } }).store.store.findSession "S1" = some last ∧
      sessionVersion last = 2 + 1 := by
  have identified : Identified countingStore.sessions := fun name => List.pairwise_singleton _ _
  have run : Reaches Writing.step Uninterrupted { store := { store := countingStore } }
      (twoHeartbeats.foldl Writing.step { store := { store := countingStore } }) := by
    apply Reaches.foldl
    intro c move member
    simp only [twoHeartbeats, List.mem_cons, List.not_mem_nil, or_false] at member
    rcases member with rfl | rfl | rfl | rfl | rfl | rfl | rfl <;> trivial
  have ended : ∀ slot, (twoHeartbeats.foldl Writing.step
      { store := { store := countingStore } }).task slot = none := by
    intro slot
    by_cases low : slot < 2
    · have early : slot = 0 ∨ slot = 1 := by omega
      rw [← Option.isNone_iff_eq_none]
      rcases early with rfl | rfl <;> decide +kernel
    · refine Concurrent.foldl_task_other startOcc resumeOcc ?_ _
      intro move member
      simp only [twoHeartbeats, List.mem_cons, List.not_mem_nil, or_false] at member
      rcases member with rfl | rfl | rfl | rfl | rfl | rfl | rfl <;> (simp only [Move.slot]; omega)
  have settled : Settled (twoHeartbeats.foldl Writing.step { store := { store := countingStore } }) := by
    intro slot t held
    rw [ended] at held
    cases held
  have found : ∃ first, countingStore.findSession "S1" = some first ∧ sessionVersion first = 2 := by
    refine ⟨_, rfl, ?_⟩
    decide +kernel
  obtain ⟨first, found, version⟩ := found
  obtain ⟨⟨last, foundLast, counted⟩, _⟩ :=
    session_versions_count_successes identified found run settled
  have one : (twoHeartbeats.foldl Writing.step { store := { store := countingStore } }).store.reports.map
      (·.sessionId) = ["S1"] := by
    decide +kernel
  obtain ⟨report, reports, own⟩ := List.map_eq_singleton_iff.mp one
  have about : report.addresses first = true := by
    rw [Report.addresses, own]
    exact List.find?_some found
  refine ⟨by rw [reports]; rfl, last, foundLast, ?_⟩
  rw [counted, version, reports, List.countP_singleton, about]
  rfl

/-- The projection lock is refused after the update: the version has moved, and nobody
reports a success. -/
theorem session_version_unreported :
    ¬ ((([.start 0 (.writer heartbeat), .resume 0, .resume 0, .abandon 0] : List (Move OccRequest)).foldl
        Writing.step { store := { store := countingStore } }).store.store.sessions.map sessionVersion =
      countingStore.sessions.map fun d => sessionVersion d +
        (([.start 0 (.writer heartbeat), .resume 0, .resume 0, .abandon 0] :
          List (Move OccRequest)).foldl Writing.step
          { store := { store := countingStore } }).store.reports.countP (·.addresses d)) := by
  decide +kernel

end StockVerification
