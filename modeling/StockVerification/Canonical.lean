import StockVerification.Foundation.Collection

/-!
# Canonical inventory predicates

Source: backend/services/canonical_inventory.py:25-245,
backend/services/governance_guard.py:79-104 and
backend/services/concurrency.py:8-24.

The projection writer carries its own copies of the review predicates
(backend/services/projections/writer.py:79-148); they are the same functions and
are not repeated.
-/
namespace StockVerification

open Foundation

def normalizeLocationValue (value : Value) : Value :=
  if value = .null then .null
  else
    let normalized := Text.strip value.text
    if normalized = "" then .null else .str normalized

/-- `normalize_count_line_status`: a missing, empty or non-text status is pending. -/
def normalizeCountLineStatus (value : Value) : String :=
  match value with
  | .str s => if Text.strip s = "" then "pending" else Text.lower (Text.strip s)
  | _ => "pending"

def normalizeApprovalStatus (value : Value) : String :=
  match value with
  | .str s => if Text.strip s = "" then "PENDING" else Text.upper (Text.strip s)
  | _ => "PENDING"

/-- `requires_supervisor_review_for_variance`: a value that is no number needs no review. -/
def requiresSupervisorReviewForVariance (variance : Value) : Bool :=
  match variance.numberOrZero with
  | some q => q != 0
  | none => false

variable (line : Doc)

def countLineRequiresSupervisorReview : Bool :=
  requiresSupervisorReviewForVariance (line.get "variance")

def isAssignedForRecount : Bool :=
  (line.get "assigned_to").truthy && (line.get "recount_requested_at").truthy

def isBlockingApproval : Bool :=
  ["NEEDS_REVIEW", "REJECTED"].contains (normalizeApprovalStatus (line.get "approval_status"))

def isCountLineEffectivelyReviewed : Bool :=
  let lineStatus := normalizeCountLineStatus (line.get "status")
  if (line.get "verified").truthy || ["approved", "locked"].contains lineStatus then true
  else if isBlockingApproval line then false
  else if isAssignedForRecount line then false
  else !countLineRequiresSupervisorReview line && lineStatus != "rejected"

def isCountLineLocked : Bool :=
  (line.get "finalized_at").truthy || normalizeCountLineStatus (line.get "status") == "locked"

/-- `is_superseded_count_line`: the status in any letter case, or either marker. -/
def isSupersededCountLine : Bool :=
  normalizeCountLineStatus (line.get "status") == "superseded" ||
    (line.get "superseded_by_version_id").truthy || (line.get "superseded_at").truthy

def isBlockingFinalization : Bool :=
  if isSupersededCountLine line then false
  else if isCountLineLocked line then false
  else if normalizeCountLineStatus (line.get "status") == "rejected" then true
  else if isAssignedForRecount line then true
  else if isBlockingApproval line then true
  else if !countLineRequiresSupervisorReview line then false
  else normalizeApprovalStatus (line.get "approval_status") != "APPROVED"

/-- `extract_document_id`: the `id` field, else the text of `_id`. -/
def extractDocumentId (d : Doc) : Option String :=
  let value := (d.get "id").orElse (d.get "_id")
  if value = .null then none else some value.text

/-- `build_count_line_duplicate_filter`: the place is taken from the `_no` fields only. -/
def buildCountLineDuplicateFilter : Filter :=
  Filter.all
    [.eq "session_id" (.str (line.get "session_id").textOrEmpty),
      .eq "item_code" (.str (line.get "item_code").textOrEmpty),
      .eq "floor_no" (normalizeLocationValue (line.get "floor_no")),
      .eq "rack_no" (normalizeLocationValue (line.get "rack_no"))]

/-- `find_duplicate_count_line`: the first line of the place that is not superseded. -/
def findDuplicateCountLine (lines : List Doc) (line : Doc) : Option Doc :=
  lines.find? fun existing =>
    (buildCountLineDuplicateFilter line).holds existing && !isSupersededCountLine existing

def isExplicitRecount : Bool :=
  if (line.get "recount_of_id").truthy then true
  else
    match line.get "recount_mode" with
    | .str s =>
        if Text.upper (Text.strip s) = "RECOUNT" then true else (line.get "recount").truthy
    | _ => (line.get "recount").truthy

/-- `can_reuse_rejected_count_line`: an explicit recount of a rejected line. -/
def canReuseRejectedCountLine (existing line : Doc) : Bool :=
  if !isExplicitRecount line then false
  else if (line.get "recount_of_id").truthy &&
      extractDocumentId existing != some (line.get "recount_of_id").text then false
  else normalizeCountLineStatus (existing.get "status") == "rejected"

/-- `LEGACY_TO_CANONICAL_STATUS`; a status outside the table stands for itself. -/
def legacyToCanonicalStatus (raw : String) : String :=
  if raw = "OPEN" then "ACTIVE"
  else if raw = "ACTIVE" then "ACTIVE"
  else if raw = "PAUSED" then "ACTIVE"
  else if raw = "RECONCILE" then "REVIEW"
  else if raw = "COMPLETED" then "FINALIZED"
  else if raw = "CLOSED" then "FINALIZED"
  else if raw = "CANCELLED" then "FINALIZED"
  else raw

def normalizeSessionStatus (value : Value) : String :=
  let raw := Text.upper (Text.strip value.textOrEmpty)
  if raw = "" then "UNKNOWN" else legacyToCanonicalStatus raw

/-- `canonical_inventory.normalize_session_status`: no table of aliases here. -/
def canonicalSessionStatus (value reconciledAt : Value) : String :=
  match value with
  | .str s =>
    let raw := Text.upper (Text.strip s)
    if raw = "" then "UNKNOWN"
    else
      let normalized := if raw = "IN_PROGRESS" then "ACTIVE" else if raw = "RECONCILING" then "RECONCILE" else raw
      if normalized = "ACTIVE" ∧ reconciledAt.truthy then "RECONCILE" else normalized
  | _ => "UNKNOWN"

/-- `is_session_finalized`, the guard of the routes. The status FINALIZED itself
is not among the ones it knows. -/
def isSessionFinalized (session : Doc) : Bool :=
  (session.get "finalized_at").truthy ||
    ["COMPLETED", "CLOSED", "CANCELLED"].contains
      (canonicalSessionStatus (session.get "status") (session.get "reconciled_at"))

/-- `SESSION_TRANSITIONS`. -/
def isValidTransition (fromState toState : String) : Bool :=
  (fromState == "CREATED" && toState == "ACTIVE") ||
    (fromState == "ACTIVE" && toState == "REVIEW") ||
    (fromState == "REVIEW" && toState == "FINALIZED")

def isSessionClosedToWrites (session : Doc) : Bool :=
  (session.get "finalized_at").truthy || normalizeSessionStatus (session.get "status") == "FINALIZED"

def coerceVersion (value : Value) : Nat :=
  match value.integer with
  | some n => n.toNat
  | none => 0

/-- `build_version_filter`: version zero also matches a document without the field. -/
def buildVersionFilter (expected : Int) : Filter :=
  if expected ≤ 0 then .either (.eq "version" (.num 0)) (.missing "version")
  else .eq "version" (.num expected)

/-- `SessionLifecycleService._lookup`. -/
def sessionLookup (sessionId : String) : Filter :=
  .either (.eq "id" (.str sessionId)) (.eq "session_id" (.str sessionId))

/-- `int(document.get("version", 1) or 1)`, `none` where the conversion raises. -/
def versionOrOne (d : Doc) : Option Int :=
  if (d.get "version").truthy then (d.get "version").integer else some 1

/-! Which fields the predicates read. -/

theorem isSupersededCountLine_congr {a b : Doc} (status : a "status" = b "status")
    (marker : a "superseded_by_version_id" = b "superseded_by_version_id")
    (at_ : a "superseded_at" = b "superseded_at") : isSupersededCountLine a = isSupersededCountLine b := by
  simp only [isSupersededCountLine, Doc.get_congr status, Doc.get_congr marker, Doc.get_congr at_]

end StockVerification
