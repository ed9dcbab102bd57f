import StockVerification.Lifecycle

/-!
# What finalization does to the lines of a session

Finalization inspects the first 50000 lines of the session with predicates that
normalise letter case and look at both superseded markers. The bulk lock it then
calls selects lines with a case-exact filter. Here the change is derived from a
successful run, and the condition under which the two selections agree is stated
on the store before the run.
-/
namespace StockVerification

open Foundation Foundation.Action

def inSession (sessionId : String) (line : Doc) : Bool :=
  (Filter.eq "session_id" (.str sessionId)).holds line

theorem inSession_congr {a b : Doc} (same : a "session_id" = b "session_id") (sessionId : String) :
    inSession sessionId a = inSession sessionId b := by
  simp only [inSession, Filter.holds, Filter.fieldIs, same]

def isBulkLockCalled (s : Store) (sessionId : String) : Bool :=
  (fetchedLines s sessionId).any isLineToFinalize

def isTouched (s : Store) (sessionId : String) (line : Doc) : Bool :=
  isBulkLockCalled s sessionId && (finalizeFilter sessionId).holds line

/-- The line is locked, approved and verified. -/
def IsSettled (line : Doc) : Prop :=
  isCountLineLocked line = true ∧
    normalizeApprovalStatus (line.get "approval_status") = "APPROVED" ∧
    (line.get "verified").truthy = true

/-- What finalization promises, line by line, about the store before and after. -/
def LinesFinalized (sessionId : String) (before after : Store) : Prop :=
  List.Forall₂
    (fun line line' => inSession sessionId line = true →
      (isSupersededCountLine line = false → IsSettled line') ∧
      (isSupersededCountLine line = true → line' = line))
    before.countLines after.countLines

/-- The selections agree: the bulk lock leaves superseded lines alone, and every
other line it leaves alone is locked, approved and verified already. -/
def SelectionsAgree (s : Store) (sessionId : String) : Prop :=
  ∀ line ∈ s.sessionLines sessionId,
    (isSupersededCountLine line = true → isTouched s sessionId line = false) ∧
    (isSupersededCountLine line = false → isTouched s sessionId line = false → IsSettled line)

variable {s t : Store} {sessionId : String}

theorem updateSessionWithOcc_countLines {fields : Doc} {expected : Int}
    (success : updateSessionWithOcc sessionId fields expected s = .ok t) : t.countLines = s.countLines := by
  simp only [updateSessionWithOcc, bind_success, pure_success] at success
  obtain ⟨_, _, _, _, rfl⟩ := success
  rfl

theorem updateMirror_ok {fields : List (String × Value)}
    (success : updateMirror sessionId fields s = .ok t) : t.countLines = s.countLines ∧ t.sessions = s.sessions := by
  simp only [updateMirror, bind_success, pure_success] at success
  obtain ⟨_, _, rfl⟩ := success
  exact ⟨rfl, rfl⟩

/-- Everything a successful finalization went through. -/
structure FinalizationRun (env : Env) (hasFinalizer : Bool) (sessionId actor : String)
    (note : Option String) (totals : SessionTotals) (s t : Store) where
  session : Doc
  locked : Store
  updated : Store
  mirrored : Store
  found : s.findSession sessionId = some session
  isOpen : isSessionClosedToWrites session = false
  inReview : normalizeSessionStatus (session.get "status") = "REVIEW"
  ready : assertSessionReadyToFinalize sessionId s = .ok ()
  unblocked : (fetchedLines s sessionId).any isBlockingFinalization = false
  lockedEq : locked = if isBulkLockCalled s sessionId then
    finalizeSessionCountLines sessionId actor env.now note s else s
  counted : computeSessionTotals locked sessionId = .ok totals
  stamped : updateSessionWithOcc sessionId
    (Doc.ofList (finalizedSessionFields env actor note totals))
    (coerceVersion (session.get "version")) locked = .ok updated
  mirroredEq : updateMirror sessionId
    [("status", .str "FINALIZED"), ("last_heartbeat", .date env.now),
      ("completed_at", .date env.now), ("updated_by", .str actor)] updated = .ok mirrored
  synced : t = syncForSessions env [sessionId] mirrored

theorem ensureSessionExists_ok {session : Doc} :
    ensureSessionExists sessionId s = .ok session ↔ s.findSession sessionId = some session := by
  unfold ensureSessionExists
  cases s.findSession sessionId <;> simp

variable {note : Option String} {actor : String}

section

variable {env : Env} {hasFinalizer : Bool} {totals : SessionTotals}

theorem finalizeSessionCanonical_run
    (success : finalizeSessionCanonical env hasFinalizer sessionId actor note s = .ok totals t) :
    Nonempty (FinalizationRun env hasFinalizer sessionId actor note totals s t) := by
  simp only [finalizeSessionCanonical, UnitOfWork.runCommitted_ok, finalizeSessionCanonicalCore, prepareFinalization,
    bind_ok, reads_ok, writes_ok, syncSessionProjection, Except.ok.injEq, pure, Except.pure, require_ok,
      ensureSessionExists_ok] at success
  obtain ⟨session, _, ⟨found, rfl⟩, _, _, ⟨_, _, ⟨isOpen, rfl⟩, _, _, ⟨inReview, rfl⟩, _, _, ⟨ready, rfl⟩,
    _, _, ⟨unblocked, rfl⟩, _, _, ⟨rfl, rfl⟩, _, _, ⟨_, rfl⟩, _, locked, hlocked, hcounted, rfl⟩, _, updated, stamped, _,
    mirrored, mirroredEq, _, synced, hsynced, _, _, ⟨_, rfl⟩, rfl, rfl⟩ := success
  exact ⟨{ session, locked, updated, mirrored, found
           isOpen := by simpa using isOpen
           inReview := by simpa using inReview
           ready, unblocked := by simpa using unblocked
           lockedEq := hlocked.symm
           counted := hcounted
           stamped, mirroredEq
           synced := hsynced.symm }⟩

theorem finalizeSessionCanonical_countLines (run : FinalizationRun env hasFinalizer sessionId actor note totals s t) :
    t.countLines = s.countLines.map fun line =>
      if isTouched s sessionId line then line.update (lockedLineFields actor env.now note)
      else line := by
  rw [run.synced, syncForSessions_countLines, (updateMirror_ok run.mirroredEq).1,
    updateSessionWithOcc_countLines run.stamped, run.lockedEq]
  cases called : isBulkLockCalled s sessionId with
  | false => simp [isTouched, called]
  | true =>
    simp [isTouched, called, finalizeSessionCountLines, Store.withLines, Collection.setMany]

end

/-- The fields of the bulk lock settle any line. -/
theorem isSettled_locked (actor : String) (finalizedAt : Int) (note : Option String) (line : Doc) :
    IsSettled (line.update (lockedLineFields actor finalizedAt note)) := by
  have status : (line.update (lockedLineFields actor finalizedAt note)).get "status" = .str "locked" := by
    simp [Doc.get_eq, lockedLineFields]
  have approval : (line.update (lockedLineFields actor finalizedAt note)).get "approval_status" =
      .str "APPROVED" := by
    simp [Doc.get_eq, lockedLineFields]
  have verified : (line.update (lockedLineFields actor finalizedAt note)).get "verified" = .bool true := by
    simp [Doc.get_eq, lockedLineFields]
  refine ⟨?_, ?_, ?_⟩
  · rw [isCountLineLocked, status]
    simp [show normalizeCountLineStatus (.str "locked") = "locked" by decide]
  · rw [approval]
    decide
  · rw [verified]
    rfl

theorem locked_ne_of_selected {finalizedAt : Int} {line : Doc}
    (selected : (finalizeFilter sessionId).holds line = true) :
    line.update (lockedLineFields actor finalizedAt note) ≠ line := by
  intro same
  have status : line "status" = some (.str "locked") := by
    rw [← same]
    simp [lockedLineFields]
  simp [finalizeFilter, Filter.all, Filter.holds, Filter.fieldIs, status] at selected

/-- After a successful finalization every live line is settled and every
superseded line unchanged exactly when the two selections agreed before. -/
theorem linesFinalized_iff_selectionsAgree {env : Env} {hasFinalizer : Bool}
    {sessionId actor : String} {note : Option String} {s t : Store} {totals : SessionTotals}
    (success : finalizeSessionCanonical env hasFinalizer sessionId actor note s = .ok totals t) :
    LinesFinalized sessionId s t ↔ SelectionsAgree s sessionId := by
  obtain ⟨run⟩ := finalizeSessionCanonical_run success
  rw [LinesFinalized, finalizeSessionCanonical_countLines run, List.forall₂_map_right_iff,
    List.forall₂_same, SelectionsAgree]
  simp only [Store.sessionLines, List.mem_filter, and_imp]
  refine forall_congr' fun line => forall_congr' fun _ => forall_congr' fun member => ?_
  cases touched : isTouched s sessionId line with
  | false => simp
  | true =>
    have selected : (finalizeFilter sessionId).holds line = true := by
      simp only [isTouched, Bool.and_eq_true] at touched
      exact touched.2
    have settled := isSettled_locked actor env.now note line
    have changed : line.update (lockedLineFields actor env.now note) ≠ line :=
      locked_ne_of_selected selected
    simp [settled, changed]

/-- A session in review with one line. -/
def reviewStore (line : Doc) : Store where
  sessions := [Doc.ofList [("id", .str "S1"), ("session_id", .str "S1"),
    ("status", .str "REVIEW"), ("version", .num 3)]]
  countLines := [line]

/-- An approved line without variance. -/
def approvedLine : Doc :=
  Doc.ofList [("id", .str "L1"), ("session_id", .str "S1"), ("status", .str "approved"),
    ("approval_status", .str "APPROVED"), ("variance", .num 0)]

/-- The same line, superseded in another letter case than the bulk filter knows. -/
def mixedCaseLine : Doc := approvedLine.set "status" (.str "Superseded")

theorem linesFinalized_approvedLine :
    ∃ totals t, finalizeSessionCanonical sampleEnv true "S1" "supervisor" none
      (reviewStore approvedLine) = .ok totals t ∧ LinesFinalized "S1" (reviewStore approvedLine) t := by
  obtain ⟨totals, t, success⟩ := exists_ok (x := finalizeSessionCanonical sampleEnv true "S1"
    "supervisor" none) (s := reviewStore approvedLine) (by decide)
  refine ⟨totals, t, success, (linesFinalized_iff_selectionsAgree success).mpr ?_⟩
  intro line member
  have only : line = approvedLine := by
    have stored := List.mem_of_mem_filter member
    simpa [reviewStore] using stored
  subst only
  refine ⟨?_, ?_⟩
  · intro superseded
    exact absurd superseded (by decide)
  · intro _ untouched
    exact absurd untouched (by decide)

theorem linesFinalized_fails_mixedCase :
    ∃ totals t, finalizeSessionCanonical sampleEnv true "S1" "supervisor" none
      (reviewStore mixedCaseLine) = .ok totals t ∧ ¬ LinesFinalized "S1" (reviewStore mixedCaseLine) t := by
  refine ⟨_, _, rfl, ?_⟩
  intro finalized
  obtain ⟨head, _⟩ := List.forall₂_cons.mp finalized
  have unchanged := (head (by decide)).2 (by decide)
  have status := congrFun unchanged "status"
  exact absurd status (by decide)

end StockVerification
