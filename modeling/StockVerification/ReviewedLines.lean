import StockVerification.FinalizationGate

/-!
# Reviewed lines that block finalization

Source: backend/services/canonical_inventory.py:59-118 and 220-245,
backend/services/session_lifecycle_service.py:494-541.

A line that is verified or approved counts as reviewed whatever else it says, and one without a
variance does where no approval is asked for. The gate looks at the approval status alone, in exact
case, and leaves a line out only for its status. The line check goes by either marker.
-/
namespace StockVerification

open Foundation

/-- No line of the session waits for a review, as its totals state it. -/
def EverythingReviewed (s : Store) (sessionId : String) : Prop :=
  (SessionTotals.ofLines (s.activeLines sessionId)).pendingItems = 0

/-- Neither the approval count nor the line check keeps the session from being finalized. -/
def LinesPass (s : Store) (sessionId : String) : Prop :=
  s.countLines.countP (needsReviewFilter sessionId).holds = 0 ∧
    (fetchedLines s sessionId).any isBlockingFinalization = false

def isSignedOff (line : Doc) : Bool :=
  (line.get "verified").truthy || ["approved", "locked"].contains (normalizeCountLineStatus (line.get "status"))

/-- The line asks for something that its sign-off has not settled. -/
def hasOpenPoint (line : Doc) : Bool :=
  normalizeCountLineStatus (line.get "status") == "rejected" || isAssignedForRecount line || isBlockingApproval line ||
    countLineRequiresSupervisorReview line && normalizeApprovalStatus (line.get "approval_status") != "APPROVED"

/-- No line says `NEEDS_REVIEW` or `PENDING`, apart from those whose status is superseded, and no
line that is signed off has an open point, unless it is superseded or locked. -/
def NothingLeftOpen (s : Store) (sessionId : String) : Prop :=
  (∀ line ∈ s.sessionLines sessionId, waitsForApproval line = false) ∧
    ∀ line ∈ fetchedLines s sessionId, isSignedOff line = true → hasOpenPoint line = true →
      isSupersededCountLine line = true ∨ isCountLineLocked line = true

theorem reviewed_eq (line : Doc) : isCountLineEffectivelyReviewed line =
    (isSignedOff line || (!isBlockingApproval line && !isAssignedForRecount line &&
      !countLineRequiresSupervisorReview line && normalizeCountLineStatus (line.get "status") != "rejected")) := by
  unfold isCountLineEffectivelyReviewed isSignedOff
  dsimp only
  cases ((line.get "verified").truthy || ["approved", "locked"].contains (normalizeCountLineStatus (line.get "status")))
  · cases isBlockingApproval line
    · cases isAssignedForRecount line
      · simp
      · simp
    · simp
  · simp

theorem blocking_eq (line : Doc) : isBlockingFinalization line =
    (!isSupersededCountLine line && !isCountLineLocked line && hasOpenPoint line) := by
  unfold isBlockingFinalization hasOpenPoint
  cases isSupersededCountLine line
  · cases isCountLineLocked line
    · cases normalizeCountLineStatus (line.get "status") == "rejected"
      · cases isAssignedForRecount line
        · cases isBlockingApproval line
          · cases countLineRequiresSupervisorReview line
            · simp
            · simp
          · simp
        · simp
      · simp
    · simp
  · simp

/-- A reviewed line that blocks is signed off. -/
theorem signedOff_of_blocking {line : Doc} (reviewed : isCountLineEffectivelyReviewed line = true)
    (blocking : isBlockingFinalization line = true) : isSignedOff line = true := by
  rw [reviewed_eq] at reviewed
  rw [blocking_eq, hasOpenPoint] at blocking
  simp only [Bool.and_eq_true, Bool.or_eq_true, Bool.not_eq_true', bne_iff_ne, beq_iff_eq] at reviewed blocking
  rcases reviewed with signedOff | ⟨⟨⟨approval, assigned⟩, variance⟩, status⟩
  · exact signedOff
  · exfalso
    rcases blocking.2 with ((isRejected | isAssigned) | isBlocked) | varies
    · exact status isRejected
    · rw [assigned] at isAssigned
      cases isAssigned
    · rw [approval] at isBlocked
      cases isBlocked
    · rw [variance] at varies
      cases varies.1

theorem everythingReviewed_iff (s : Store) (sessionId : String) : EverythingReviewed s sessionId ↔
    ∀ line ∈ s.activeLines sessionId, isCountLineEffectivelyReviewed line = true := by
  have counted := List.countP_le_length (p := isCountLineEffectivelyReviewed) (l := s.activeLines sessionId)
  rw [← List.countP_eq_length, EverythingReviewed, SessionTotals.pendingItems, SessionTotals.ofLines]
  dsimp only
  omega

theorem needsReview_eq (sessionId : String) (line : Doc) : (needsReviewFilter sessionId).holds line =
    ((Filter.eq "session_id" (.str sessionId)).holds line && waitsForApproval line) := by
  simp [needsReviewFilter, Filter.all, Filter.holds, waitsForApproval]

theorem approvalCount_eq_zero (s : Store) (sessionId : String) :
    s.countLines.countP (needsReviewFilter sessionId).holds = 0 ↔
      ∀ line ∈ s.sessionLines sessionId, waitsForApproval line = false := by
  rw [List.countP_eq_zero]
  simp only [Store.sessionLines, List.mem_filter, needsReview_eq, Bool.and_eq_true, not_and, and_imp, Bool.not_eq_true]

theorem active_of_blocking {s : Store} {sessionId : String} {line : Doc} (fetched : line ∈ fetchedLines s sessionId)
    (blocking : isBlockingFinalization line = true) : line ∈ s.activeLines sessionId := by
  rw [blocking_eq] at blocking
  simp only [Bool.and_eq_true] at blocking
  rw [Store.activeLines, List.mem_filter]
  exact ⟨List.mem_of_mem_take fetched, blocking.1.1⟩

/-- Where every line counts as reviewed, the lines let the session be finalized exactly when nothing
is left open on them. -/
theorem review_clears_lines_iff (s : Store) (sessionId : String) :
    (EverythingReviewed s sessionId → LinesPass s sessionId) ↔
      ¬ EverythingReviewed s sessionId ∨ NothingLeftOpen s sessionId := by
  by_cases reviewed : EverythingReviewed s sessionId
  · have each := (everythingReviewed_iff s sessionId).mp reviewed
    simp only [reviewed, true_imp_iff, not_true_eq_false, false_or]
    rw [LinesPass, NothingLeftOpen, approvalCount_eq_zero, List.any_eq_false]
    apply and_congr_right
    intro _
    constructor
    · intro passes line fetched signedOff isOpen
      have lets := passes line fetched
      rw [blocking_eq, isOpen] at lets
      cases superseded : isSupersededCountLine line with
      | true => exact Or.inl rfl
      | false =>
        right
        simpa [superseded] using lets
    · intro settled line fetched blocking
      have signedOff := signedOff_of_blocking (each line (active_of_blocking fetched blocking)) blocking
      rw [blocking_eq] at blocking
      simp only [Bool.and_eq_true, Bool.not_eq_true'] at blocking
      rcases settled line fetched signedOff blocking.2 with superseded | locked
      · rw [blocking.1.1] at superseded
        cases superseded
      · rw [blocking.1.2] at locked
        cases locked
  · simp [reviewed]

/-- A count without a variance whose approval is pending. -/
def pendingLine : Doc :=
  Doc.ofList [("session_id", .str "S1"), ("status", .str "pending"),
    ("approval_status", .str "PENDING"), ("variance", .num 0)]

/-- A verified count whose approval was asked for again. -/
def reopenedLine : Doc :=
  Doc.ofList [("session_id", .str "S1"), ("status", .str "pending"),
    ("approval_status", .str "needs_review"), ("verified", .bool true), ("variance", .num 2)]

/-- One pending count, or one verified count with a question left, has nothing pending and
blocks. -/
theorem reviewed_lines_block :
    ¬ (∀ (s : Store) (sessionId : String), EverythingReviewed s sessionId → LinesPass s sessionId) ∧
    (isCountLineEffectivelyReviewed pendingLine = true ∧ (needsReviewFilter "S1").holds pendingLine = true ∧
      isBlockingFinalization pendingLine = false) ∧
    (isCountLineEffectivelyReviewed reopenedLine = true ∧ (needsReviewFilter "S1").holds reopenedLine = false ∧
      isBlockingFinalization reopenedLine = true) := by
  refine ⟨?_, by decide, by decide⟩
  intro agree
  have reviewed : EverythingReviewed { countLines := [pendingLine] } "S1" := by
    rw [everythingReviewed_iff]
    intro line member
    have isPending : line = pendingLine := List.mem_singleton.mp (List.mem_of_mem_filter (List.mem_of_mem_filter member))
    rw [isPending]
    decide
  have counted := (agree _ _ reviewed).1
  exact absurd counted (by decide)

end StockVerification
