import StockVerification.Foundation.KeyedLists
import StockVerification.ProjectedReview

/-!
# The materialised review state

Source: backend/services/canonical_inventory.py:47-118 and 158-167.

A count line is a dictionary here, with its fields in their order, because an empty one is false in
a condition.
-/
namespace StockVerification

open Foundation

abbrev LineDict := List (String × Value)

namespace LineDict

/-- `is_count_line_effectively_reviewed`. -/
def isEffectivelyReviewed (line : LineDict) : Bool := !line.isEmpty && isCountLineEffectivelyReviewed (Doc.ofList line)

/-- `is_superseded_count_line`. -/
def isSuperseded (line : LineDict) : Bool := !line.isEmpty && isSupersededCountLine (Doc.ofList line)

/-- `get_effective_count_line_status`. -/
def effectiveStatus (line : LineDict) : String :=
  if line.isEmpty then "pending" else getEffectiveCountLineStatus (Doc.ofList line)

/-- `get_effective_approval_status`. -/
def effectiveApprovalStatus (line : LineDict) : String :=
  if line.isEmpty then "PENDING" else getEffectiveApprovalStatus (Doc.ofList line)

/-- `line[field] = value`: a new field is the last one. -/
def assign (line : LineDict) (field : String) (value : Value) : LineDict := Table.upsert Prod.fst (field, value) line

/-- `materialize_count_line_review_state`. -/
def materialize (line : LineDict) : LineDict :=
  (line.assign "status" (.str line.effectiveStatus)).assign "approval_status" (.str line.effectiveApprovalStatus)

variable {line : LineDict} {field : String} {value : Value}

theorem ofList_assign : Doc.ofList (line.assign field value) = (Doc.ofList line).set field value := by
  funext other
  induction line with
  | nil => simp [assign, Table.upsert, Doc.set]
  | cons entry rest ih =>
    obtain ⟨key, stored⟩ := entry
    unfold assign Doc.set at ih
    unfold assign Doc.set
    rw [Table.upsert]
    by_cases here : key = field
    · subst here
      simp
      grind
    · simp only [here, if_false, Doc.ofList_cons, ih]
      grind

theorem assign_same (there : Doc.ofList line field = some value) : line.assign field value = line := by
  induction line with
  | nil => cases there
  | cons entry rest ih =>
    unfold assign at ih ⊢
    rw [Doc.ofList_cons] at there
    rw [Table.upsert]
    by_cases here : field = entry.1
    · rw [if_pos here, Option.some.injEq] at there
      rw [if_pos here.symm, ← there, here]
    · rw [if_neg here] at there
      rw [if_neg (Ne.symm here), ih there]

end LineDict

theorem strip_filled {map : String → String} (nothing : map "" = "") {text : String}
    (filled : text ≠ "") (settled : map (Text.strip text) = text) : Text.strip text ≠ "" := by
  intro blank
  rw [blank, nothing] at settled
  exact filled settled.symm

theorem normalizeCountLineStatus_twice (value : Value) :
    normalizeCountLineStatus (.str (normalizeCountLineStatus value)) = normalizeCountLineStatus value := by
  have filled : normalizeCountLineStatus value ≠ "" := by
    cases value with
    | str text =>
      rw [normalizeCountLineStatus]
      split
      · decide
      · exact Text.lower_ne_empty ‹_›
    | _ =>
      rw [normalizeCountLineStatus.eq_2 _ (by simp)]
      decide
  have settled := normalizeCountLineStatus_settled value
  rw [normalizeCountLineStatus, if_neg (strip_filled rfl filled settled), settled]

theorem normalizeApprovalStatus_twice (value : Value) :
    normalizeApprovalStatus (.str (normalizeApprovalStatus value)) = normalizeApprovalStatus value := by
  have filled : normalizeApprovalStatus value ≠ "" := by
    cases value with
    | str text =>
      rw [normalizeApprovalStatus]
      split
      · decide
      · exact Text.upper_ne_empty ‹_›
    | _ =>
      rw [normalizeApprovalStatus.eq_2 _ (by simp)]
      decide
  have settled := normalizeApprovalStatus_settled value
  rw [normalizeApprovalStatus, if_neg (strip_filled rfl filled settled), settled]

/-- The line with its effective texts. -/
def effectiveCopy (line : Doc) : Doc :=
  (line.set "status" (.str (getEffectiveCountLineStatus line))).set "approval_status"
    (.str (getEffectiveApprovalStatus line))

section

variable (line : Doc)

theorem copy_status : normalizeCountLineStatus ((effectiveCopy line).get "status") = getEffectiveCountLineStatus line := by
  have stored : (effectiveCopy line).get "status" = .str (getEffectiveCountLineStatus line) := rfl
  rw [stored, getEffectiveCountLineStatus]
  split
  · exact normalizeCountLineStatus_twice _
  · split
    · decide
    · exact normalizeCountLineStatus_twice _

theorem copy_approval :
    normalizeApprovalStatus ((effectiveCopy line).get "approval_status") = getEffectiveApprovalStatus line := by
  have stored : (effectiveCopy line).get "approval_status" = .str (getEffectiveApprovalStatus line) := rfl
  rw [stored, getEffectiveApprovalStatus]
  split
  · exact normalizeApprovalStatus_twice _
  · split
    · decide
    · exact normalizeApprovalStatus_twice _

theorem copy_reads {field : String} (other : field ≠ "status" ∧ field ≠ "approval_status") :
    (effectiveCopy line).get field = line.get field := by
  apply Doc.get_congr
  rw [effectiveCopy, Doc.set_other _ _ other.2, Doc.set_other _ _ other.1]

/-- A line is reviewed with its effective texts exactly if it was with its own. -/
theorem copy_reviewed : isCountLineEffectivelyReviewed (effectiveCopy line) = isCountLineEffectivelyReviewed line := by
  have verified := @copy_reads line "verified" (by decide)
  have assigned : isAssignedForRecount (effectiveCopy line) = isAssignedForRecount line := by
    rw [isAssignedForRecount, copy_reads line (by decide), copy_reads line (by decide), isAssignedForRecount]
  have variance : countLineRequiresSupervisorReview (effectiveCopy line) = countLineRequiresSupervisorReview line := by
    rw [countLineRequiresSupervisorReview, copy_reads line (by decide), countLineRequiresSupervisorReview]
  cases reviewed : isCountLineEffectivelyReviewed line with
  | true =>
    -- a rejected line is reviewed because it was verified, and any other one is signed off now
    rw [reviewed_eq, isSignedOff, copy_status, verified, getEffectiveCountLineStatus, reviewed]
    rw [reviewed_eq, isSignedOff] at reviewed
    by_cases rejected : normalizeCountLineStatus (line.get "status") = "rejected"
    · simp only [rejected] at reviewed
      simp [show (line.get "verified").truthy = true by simpa using reviewed]
    · by_cases locked : normalizeCountLineStatus (line.get "status") = "locked"
      · simp [locked]
      · simp [rejected, locked]
  | false =>
    -- without a review both texts are the line's own
    have status : getEffectiveCountLineStatus line = normalizeCountLineStatus (line.get "status") := by
      simp [getEffectiveCountLineStatus, reviewed]
    have approval : getEffectiveApprovalStatus line = normalizeApprovalStatus (line.get "approval_status") := by
      simp [getEffectiveApprovalStatus, reviewed]
    rw [← reviewed, reviewed_eq, reviewed_eq, isSignedOff, isSignedOff, isBlockingApproval, isBlockingApproval, copy_status,
      copy_approval, status, approval, verified, assigned, variance]

theorem copy_effectiveStatus : getEffectiveCountLineStatus (effectiveCopy line) = getEffectiveCountLineStatus line := by
  rw [getEffectiveCountLineStatus, copy_status, copy_reviewed]
  cases reviewed : isCountLineEffectivelyReviewed line with
  | true =>
    have among : ["rejected", "locked", "approved"].contains (getEffectiveCountLineStatus line) = true := by
      unfold getEffectiveCountLineStatus
      by_cases own : ["rejected", "locked", "approved"].contains (normalizeCountLineStatus (line.get "status")) = true
      · simp only [own, if_true]
      · simp only [own, reviewed]
        rfl
    exact if_pos among
  | false => simp

theorem copy_effectiveApproval : getEffectiveApprovalStatus (effectiveCopy line) = getEffectiveApprovalStatus line := by
  rw [getEffectiveApprovalStatus, copy_approval, copy_reviewed]
  cases reviewed : isCountLineEffectivelyReviewed line with
  | true =>
    have among : ["REJECTED", "APPROVED"].contains (getEffectiveApprovalStatus line) = true := by
      unfold getEffectiveApprovalStatus
      by_cases own : ["REJECTED", "APPROVED"].contains (normalizeApprovalStatus (line.get "approval_status")) = true
      · simp only [own, if_true]
      · simp only [own, reviewed]
        rfl
    exact if_pos among
  | false => simp

end

/-- A line that is superseded by its status alone, and that is reviewed: it was verified, or nothing
in it asks for a review. -/
structure SupersededAndReviewed (line : Doc) : Prop where
  status : normalizeCountLineStatus (line.get "status") = "superseded"
  unmarked : (line.get "superseded_by_version_id").truthy = false ∧ (line.get "superseded_at").truthy = false
  reviewed : (line.get "verified").truthy = true ∨ isBlockingApproval line = false ∧
    isAssignedForRecount line = false ∧ countLineRequiresSupervisorReview line = false

theorem copy_superseded_iff (line : Doc) :
    isSupersededCountLine (effectiveCopy line) = isSupersededCountLine line ↔ ¬ SupersededAndReviewed line := by
  have known : SupersededAndReviewed line ↔ normalizeCountLineStatus (line.get "status") = "superseded" ∧
      ((line.get "superseded_by_version_id").truthy = false ∧ (line.get "superseded_at").truthy = false) ∧
      isCountLineEffectivelyReviewed line = true := by
    constructor
    · rintro ⟨status, unmarked, reviewed⟩
      refine ⟨status, unmarked, ?_⟩
      rw [reviewed_eq, isSignedOff, status]
      simpa [and_assoc] using reviewed
    · rintro ⟨status, unmarked, reviewed⟩
      refine ⟨status, unmarked, ?_⟩
      rw [reviewed_eq, isSignedOff, status] at reviewed
      simpa [and_assoc] using reviewed
  rw [known, isSupersededCountLine, isSupersededCountLine, copy_status, copy_reads line (by decide),
    copy_reads line (by decide), getEffectiveCountLineStatus]
  by_cases status : normalizeCountLineStatus (line.get "status") = "superseded"
  · cases isCountLineEffectivelyReviewed line <;> cases (line.get "superseded_by_version_id").truthy <;> simp [status]
  · cases isCountLineEffectivelyReviewed line with
    | false => simp [status]
    | true =>
      by_cases final : ["rejected", "locked", "approved"].contains (normalizeCountLineStatus (line.get "status")) = true
      · simp only [final, if_true, status, false_and, not_false_eq_true]
      · simp only [final, status, false_and, not_false_eq_true, if_true, Bool.false_eq_true, if_false]
        rw [beq_false_of_ne status]
        exact iff_of_true rfl trivial

theorem effective_filled {line : LineDict} (filled : line ≠ []) :
    line.effectiveStatus = getEffectiveCountLineStatus (Doc.ofList line) ∧
      line.effectiveApprovalStatus = getEffectiveApprovalStatus (Doc.ofList line) := by
  have nonempty : ¬ line.isEmpty = true := by simpa using filled
  exact ⟨if_neg nonempty, if_neg nonempty⟩

theorem ofList_materialize {line : LineDict} (filled : line ≠ []) :
    Doc.ofList line.materialize = effectiveCopy (Doc.ofList line) := by
  rw [LineDict.materialize, LineDict.ofList_assign, LineDict.ofList_assign,
    (effective_filled filled).1, (effective_filled filled).2, effectiveCopy]

theorem materialize_filled (line : LineDict) : line.materialize ≠ [] := by
  intro nothing
  have set := congrArg (fun line => Doc.ofList line "approval_status") nothing
  simp [LineDict.materialize, LineDict.ofList_assign] at set

/-- The projection is one exactly for a line that is not empty, and that is not superseded by its
status alone where it is reviewed. -/
theorem materialize_projects_iff (line : LineDict) :
    (line.materialize.materialize = line.materialize ∧
        line.materialize.isEffectivelyReviewed = line.isEffectivelyReviewed ∧
        line.materialize.isSuperseded = line.isSuperseded) ↔
      line ≠ [] ∧ ¬ SupersededAndReviewed (Doc.ofList line) := by
  by_cases empty : line = []
  · subst empty
    have lifted : LineDict.isEffectivelyReviewed (LineDict.materialize []) = true := by decide
    have never : LineDict.isEffectivelyReviewed [] = false := rfl
    simp [lifted, never]
  · have nonempty : line.isEmpty = false := by simpa using empty
    have filled : line.materialize.isEmpty = false := by simpa using materialize_filled line
    have copied := ofList_materialize empty
    have reviewed : line.materialize.isEffectivelyReviewed = line.isEffectivelyReviewed := by
      rw [LineDict.isEffectivelyReviewed, LineDict.isEffectivelyReviewed, filled, nonempty, copied, copy_reviewed]
    have again : line.materialize.materialize = line.materialize := by
      obtain ⟨status, approval⟩ := effective_filled (materialize_filled line)
      rw [copied, copy_effectiveStatus] at status
      rw [copied, copy_effectiveApproval] at approval
      have sameStatus := LineDict.assign_same (congrFun copied "status")
      have sameApproval := LineDict.assign_same (congrFun copied "approval_status")
      rw [LineDict.materialize, status, approval]
      exact (congrArg (LineDict.assign · _ _) sameStatus).trans sameApproval
    rw [LineDict.isSuperseded, LineDict.isSuperseded, filled, nonempty, copied]
    simp only [again, reviewed, Bool.not_false, Bool.true_and, true_and, copy_superseded_iff, ne_eq,
      empty, not_false_eq_true]

/-- A superseded line without a variance comes out approved, and no longer superseded. -/
theorem superseded_line_approved :
    LineDict.materialize [("status", .str "superseded")] =
        [("status", .str "approved"), ("approval_status", .str "APPROVED")] ∧
      ¬ ∀ line : LineDict, line ≠ [] → line.materialize.materialize = line.materialize ∧
        line.materialize.isEffectivelyReviewed = line.isEffectivelyReviewed ∧
        line.materialize.isSuperseded = line.isSuperseded := by
  have approved : LineDict.materialize [("status", .str "superseded")] =
      [("status", .str "approved"), ("approval_status", .str "APPROVED")] := by decide
  constructor
  · exact approved
  · intro projects
    have same := (projects [("status", .str "superseded")] (List.cons_ne_nil _ _)).2.2
    rw [approved] at same
    revert same
    decide

end StockVerification
