import StockVerification.ReviewedLines
import StockVerification.Foundation.TextCase

/-!
# The projected review status

Source: backend/services/projections/writer.py:105-137,528-595 and
backend/services/projections/reader.py:68-73.

A row keeps three fields that the reader's test looks at; its other fields are left out.
-/
namespace StockVerification

open Foundation

def getEffectiveCountLineStatus (line : Doc) : String :=
  let lineStatus := normalizeCountLineStatus (line.get "status")
  if ["rejected", "locked", "approved"].contains lineStatus then lineStatus
  else if isCountLineEffectivelyReviewed line then "approved"
  else lineStatus

def getEffectiveApprovalStatus (line : Doc) : String :=
  let approvalStatus := normalizeApprovalStatus (line.get "approval_status")
  if ["REJECTED", "APPROVED"].contains approvalStatus then approvalStatus
  else if isCountLineEffectivelyReviewed line then "APPROVED"
  else approvalStatus

/-- `base_doc`, the row of a line. -/
def projectedRow (line : Doc) : Doc :=
  Doc.ofList [("approval_status", .str (getEffectiveApprovalStatus line)),
    ("status", .str (getEffectiveCountLineStatus line)), ("verified", .bool (isCountLineEffectivelyReviewed line))]

/-- `_line_verified` of the reader. -/
def lineVerified (document : Doc) : Bool :=
  if document.get "verified" = .bool true then true
  else
    let status := Text.lower (Text.strip (document.get "status").textOrEmpty)
    let approvalStatus := Text.upper (Text.strip (document.get "approval_status").textOrEmpty)
    ["locked", "approved"].contains status || approvalStatus == "APPROVED"

theorem normalizeCountLineStatus_settled (value : Value) :
    Text.lower (Text.strip (normalizeCountLineStatus value)) = normalizeCountLineStatus value := by
  have pending : Text.lower (Text.strip "pending") = "pending" := by decide
  cases value with
  | str text =>
    rw [normalizeCountLineStatus]
    split
    · exact pending
    · rw [Text.strip_lower, Text.strip_strip, Text.lower_lower]
  | _ => exact pending

theorem normalizeApprovalStatus_settled (value : Value) :
    Text.upper (Text.strip (normalizeApprovalStatus value)) = normalizeApprovalStatus value := by
  have pending : Text.upper (Text.strip "PENDING") = "PENDING" := by decide
  cases value with
  | str text =>
    rw [normalizeApprovalStatus]
    split
    · exact pending
    · rw [Text.strip_upper, Text.strip_strip, Text.upper_upper]
  | _ => exact pending

/-- The reader takes a line for verified that was reviewed, and any line with an approval. -/
theorem lineVerified_projectedRow (line : Doc) : lineVerified (projectedRow line) =
      (isCountLineEffectivelyReviewed line || normalizeApprovalStatus (line.get "approval_status") == "APPROVED") := by
  have verified : (projectedRow line).get "verified" = .bool (isCountLineEffectivelyReviewed line) := rfl
  have status : (projectedRow line).get "status" = .str (getEffectiveCountLineStatus line) := rfl
  have approval : (projectedRow line).get "approval_status" = .str (getEffectiveApprovalStatus line) := rfl
  rw [lineVerified, verified, status, approval, Value.textOrEmpty_str, Value.textOrEmpty_str]
  cases reviewed : isCountLineEffectivelyReviewed line with
  | true => rfl
  | false =>
    -- the effective texts of a line that was not reviewed are its own
    have ownStatus : getEffectiveCountLineStatus line = normalizeCountLineStatus (line.get "status") := by
      simp [getEffectiveCountLineStatus, reviewed]
    have ownApproval : getEffectiveApprovalStatus line = normalizeApprovalStatus (line.get "approval_status") := by
      simp [getEffectiveApprovalStatus, reviewed]
    have unsigned : isSignedOff line = false := by
      rw [reviewed_eq, Bool.or_eq_false_iff] at reviewed
      exact reviewed.1
    have open_ : normalizeCountLineStatus (line.get "status") ≠ "approved" ∧
        normalizeCountLineStatus (line.get "status") ≠ "locked" := by
      simpa [isSignedOff] using (Bool.or_eq_false_iff.mp unsigned).2
    rw [ownStatus, ownApproval, normalizeCountLineStatus_settled, normalizeApprovalStatus_settled]
    simp [open_.1, open_.2]

/-- What makes a line reviewed that has an approval. -/
def ReviewedBesidesApproval (line : Doc) : Prop :=
  isSignedOff line = true ∨ isAssignedForRecount line = false ∧ countLineRequiresSupervisorReview line = false ∧
    normalizeCountLineStatus (line.get "status") ≠ "rejected"

theorem reviewed_of_approval {line : Doc} (approved : normalizeApprovalStatus (line.get "approval_status") = "APPROVED") :
    isCountLineEffectivelyReviewed line = true ↔ ReviewedBesidesApproval line := by
  have unblocked : isBlockingApproval line = false := by
    simp [isBlockingApproval, approved]
  rw [reviewed_eq, unblocked, ReviewedBesidesApproval]
  simp [and_assoc]

/-- The reader and the raw line agree exactly if an approved line is also reviewed for another
reason. -/
theorem projected_review_faithful_iff (line : Doc) :
    lineVerified (projectedRow line) = isCountLineEffectivelyReviewed line ↔
      (normalizeApprovalStatus (line.get "approval_status") = "APPROVED" → ReviewedBesidesApproval line) := by
  rw [lineVerified_projectedRow]
  by_cases approved : normalizeApprovalStatus (line.get "approval_status") = "APPROVED"
  · rw [← reviewed_of_approval approved]
    cases isCountLineEffectivelyReviewed line with
    | true => simp
    | false => simp [approved]
  · simp [approved]

def approvedVariance : Doc :=
  Doc.ofList [("status", .str "pending"), ("approval_status", .str "APPROVED"), ("variance", .num 5)]

/-- The reader counts the line as verified, though its row says that it was not reviewed. -/
theorem approved_variance_reads_verified :
    lineVerified (projectedRow approvedVariance) = true ∧ isCountLineEffectivelyReviewed approvedVariance = false ∧
      ¬ ∀ line, lineVerified (projectedRow line) = isCountLineEffectivelyReviewed line := by
  have read : lineVerified (projectedRow approvedVariance) = true := by decide
  have raw : isCountLineEffectivelyReviewed approvedVariance = false := by decide
  constructor
  · exact read
  constructor
  · exact raw
  · intro faithful
    have same := faithful approvedVariance
    rw [read, raw] at same
    cases same

end StockVerification
