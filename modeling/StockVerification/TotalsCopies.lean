import StockVerification.Totals
import Mathlib.Algebra.Order.BigOperators.Group.List
import Mathlib.Tactic.Linarith

/-!
# The copies of the session totals

Source: backend/services/session_lifecycle_service.py:174-223,
backend/services/canonical_inventory.py:246-328,
backend/services/count_lines/session_aggregator.py:35-52,303-347 and
backend/api/session_management_api.py:526-548.

Three copies add up line by line, and so they drop the fraction of each damaged quantity. The
session API adds up the quantities first. `none` stands for a failed number conversion.
-/
namespace StockVerification

open Foundation

/-- The loop that the three services share but for their test of a superseded line. -/
def foldTotals (superseded : Doc → Bool) (lines : List Doc) : Option SessionTotals :=
  lines.foldlM (fun totals line =>
    if superseded line then some totals
    else do
      let variance ← (line.get "variance").numberOrZero
      let damaged ← (line.get "damaged_qty").numberOrZero
      pure (totals.add variance damaged (isCountLineEffectivelyReviewed line))) SessionTotals.zero

variable (lines : List Doc)

/-- `_compute_session_totals` of the session lifecycle service. -/
def lifecycleSessionTotals : Option SessionTotals := foldTotals isSupersededCountLine lines

/-- The loop of `recompute_session_totals`. -/
def recomputedSessionTotals : Option SessionTotals := foldTotals isSupersededCountLine lines

/-- `_is_superseded_status` of the aggregator. -/
def isSupersededStatus : Value → Bool
  | .str s => Text.lower (Text.strip s) == "superseded"
  | _ => false

/-- `_is_superseded_count_line` of the aggregator. -/
def aggregatorSuperseded (line : Doc) : Bool :=
  isSupersededStatus (line.get "status") || (line.get "superseded_by_version_id").truthy ||
    (line.get "superseded_at").truthy

/-- `_compute_session_totals` of the session aggregator. -/
def aggregatorSessionTotals : Option SessionTotals := foldTotals aggregatorSuperseded lines

/-- `get_session_count_lines` without the superseded lines. -/
def getSessionCountLines : List Doc := lines.filter fun line => !isSupersededCountLine line

/-- `_get_session_line_summary`: it filters the lines a second time. `sum` is the runtime's sum of
doubles. -/
def getSessionLineSummary (sum : List ℚ → ℚ) (lines : List Doc) : Option SessionTotals := do
  let activeLines := (getSessionCountLines lines).filter fun line => !isSupersededCountLine line
  let variances ← activeLines.mapM fun line => (line.get "variance").numberOrZero
  let damages ← activeLines.mapM fun line => (line.get "damaged_qty").numberOrZero
  pure {
    totalItems := activeLines.length
    totalVariance := sum variances
    verifiedItems := activeLines.countP isCountLineEffectivelyReviewed
    damageItems := truncate (sum damages) }

/-- The rest of a total that truncation drops: less than one, and not against the total's sign. -/
structure DropsFrom (total rest : ℚ) : Prop where
  above : -1 < rest
  below : rest < 1
  positive : 0 < total → 0 ≤ rest
  negative : total < 0 → rest ≤ 0

theorem truncate_add_iff (whole : Int) (rest : ℚ) :
    truncate (whole + rest) = whole ↔ DropsFrom (whole + rest) rest := by
  unfold truncate
  split
  · next nonneg =>
    rw [Int.floor_eq_iff]
    constructor
    · rintro ⟨low, high⟩
      constructor
      · linarith
      · linarith
      · intro _
        linarith
      · intro negative
        linarith
    · intro drops
      have kept : 0 ≤ rest := by
        rcases nonneg.lt_or_eq with positive | zero
        · exact drops.positive positive
        · -- the whole number is within one of zero, so there is no rest either
          have low : (-1 : ℚ) < whole := by linarith [drops.below]
          have high : (whole : ℚ) < 1 := by linarith [drops.above]
          have none_whole : whole = 0 := by
            have low : -1 < whole := by exact_mod_cast low
            have high : whole < 1 := by exact_mod_cast high
            omega
          simp [none_whole] at zero
          exact zero.le
      constructor
      · linarith
      · linarith [drops.below]
  · next negated =>
    rw [not_le] at negated
    rw [Int.ceil_eq_iff]
    constructor
    · rintro ⟨low, high⟩
      constructor
      · linarith
      · linarith
      · intro positive
        linarith
      · intro _
        linarith
    · intro drops
      constructor
      · linarith [drops.above]
      · linarith [drops.negative negated]

def wholeUnits (quantities : List ℚ) : Int := (quantities.map truncate).sum

def droppedParts (quantities : List ℚ) : ℚ := (quantities.map fun quantity => quantity - truncate quantity).sum

theorem wholeUnits_add_droppedParts (quantities : List ℚ) :
    (wholeUnits quantities : ℚ) + droppedParts quantities = quantities.sum := by
  induction quantities with
  | nil => simp [wholeUnits, droppedParts]
  | cons first rest ih =>
    simp only [wholeUnits, droppedParts, List.map_cons, List.sum_cons] at ih ⊢
    push_cast at ih ⊢
    linarith

theorem truncate_sum_iff (quantities : List ℚ) :
    truncate quantities.sum = wholeUnits quantities ↔ DropsFrom quantities.sum (droppedParts quantities) := by
  rw [← wholeUnits_add_droppedParts, truncate_add_iff]

def numbersRead (field : String) (lines : List Doc) : Bool :=
  lines.all fun line => (line.get field).numberOrZero.isSome

def figuresRead : Bool := numbersRead "variance" lines && numbersRead "damaged_qty" lines

def damagedQuantities : List ℚ := lines.map fun line => asFloat (line.get "damaged_qty")

theorem aggregatorSuperseded_eq (line : Doc) : aggregatorSuperseded line = isSupersededCountLine line := by
  have status : isSupersededStatus (line.get "status") =
      (normalizeCountLineStatus (line.get "status") == "superseded") := by
    cases line.get "status" with
    | str text =>
      by_cases blank : Text.strip text = ""
      · simp [isSupersededStatus, normalizeCountLineStatus, blank]
        decide
      · simp [isSupersededStatus, normalizeCountLineStatus, blank]
    | _ => rfl
  rw [aggregatorSuperseded, isSupersededCountLine, status]

theorem mapM_numbers (field : String) (lines : List Doc) : lines.mapM (fun line => (line.get field).numberOrZero) =
      if numbersRead field lines then some (lines.map fun line => asFloat (line.get field)) else none := by
  induction lines with
  | nil => rfl
  | cons line rest ih =>
    have both : numbersRead field (line :: rest) = ((line.get field).numberOrZero.isSome && numbersRead field rest) :=
      List.all_cons
    rw [List.mapM_cons, ih, both]
    cases read : (line.get field).numberOrZero with
    | none => simp
    | some number =>
      by_cases others : numbersRead field rest = true
      · simp [others, asFloat_of_numberOrZero read]
      · simp [others]

/-- The line by line loop is the fold over the active lines, if their figures can be read. -/
theorem foldTotals_eq : foldTotals isSupersededCountLine lines =
      if figuresRead (getSessionCountLines lines) then some (SessionTotals.ofLines (getSessionCountLines lines))
      else none := by
  have folded : ∀ totals, lines.foldlM addLine totals =
      if figuresRead (getSessionCountLines lines) then some ((getSessionCountLines lines).foldl aggregateLine totals)
      else none := by
    induction lines with
    | nil =>
      intro totals
      rfl
    | cons line rest ih =>
      intro totals
      rw [List.foldlM_cons, addLine]
      by_cases superseded : isSupersededCountLine line = true
      · have skipped : getSessionCountLines (line :: rest) = getSessionCountLines rest := by
          simp [getSessionCountLines, superseded]
        simp [superseded, skipped, ih]
      · have kept : getSessionCountLines (line :: rest) = line :: getSessionCountLines rest := by
          simp [getSessionCountLines, superseded]
        rw [kept, List.foldl_cons, aggregateLine]
        cases variance : (line.get "variance").numberOrZero with
        | none => simp [superseded, figuresRead, numbersRead, variance]
        | some counted =>
          cases damaged : (line.get "damaged_qty").numberOrZero with
          | none => simp [superseded, figuresRead, numbersRead, variance, damaged]
          | some lost =>
            simp [superseded, figuresRead, numbersRead, variance, damaged, ih,
              asFloat_of_numberOrZero variance, asFloat_of_numberOrZero damaged]
  have whole := folded SessionTotals.zero
  have start : ∀ lines, lines.foldl aggregateLine SessionTotals.zero = SessionTotals.ofLines lines := by
    intro lines
    rw [aggregateLine_foldl]
    simp [SessionTotals.zero]
  rw [start] at whole
  exact whole

theorem getSessionLineSummary_eq (sum : List ℚ → ℚ) (lines : List Doc) : getSessionLineSummary sum lines =
      if figuresRead (getSessionCountLines lines) then
        some { SessionTotals.ofLines (getSessionCountLines lines) with
          totalVariance := sum ((getSessionCountLines lines).map fun line => asFloat (line.get "variance"))
          damageItems := truncate (sum (damagedQuantities (getSessionCountLines lines))) }
      else none := by
  have again : (getSessionCountLines lines).filter (fun line => !isSupersededCountLine line) =
      getSessionCountLines lines := by
    simp [getSessionCountLines]
  rw [getSessionLineSummary, again, mapM_numbers, mapM_numbers, figuresRead]
  cases numbersRead "variance" (getSessionCountLines lines) with
  | false => rfl
  | true =>
    cases numbersRead "damaged_qty" (getSessionCountLines lines) with
    | false => rfl
    | true => rfl

/-- All four copies give the same figures, or all of them fail. The sums are the exact ones. -/
structure CopiesAgree (lines : List Doc) : Prop where
  recomputed : recomputedSessionTotals lines = lifecycleSessionTotals lines
  aggregated : aggregatorSessionTotals lines = lifecycleSessionTotals lines
  summarised : getSessionLineSummary List.sum lines = lifecycleSessionTotals lines

/-- The copies agree exactly if what is dropped of the damaged quantities would be dropped of their
sum too. -/
theorem totals_copies_agree_iff :
    CopiesAgree lines ↔ (figuresRead (getSessionCountLines lines) = true →
      DropsFrom (damagedQuantities (getSessionCountLines lines)).sum
        (droppedParts (damagedQuantities (getSessionCountLines lines)))) := by
  have aggregated : aggregatorSessionTotals lines = lifecycleSessionTotals lines := by
    rw [aggregatorSessionTotals, funext aggregatorSuperseded_eq, lifecycleSessionTotals]
  have units : (SessionTotals.ofLines (getSessionCountLines lines)).damageItems =
      wholeUnits (damagedQuantities (getSessionCountLines lines)) := by
    simp [SessionTotals.ofLines, wholeUnits, damagedQuantities, List.map_map, Function.comp_def]
  rw [← truncate_sum_iff]
  constructor
  · rintro ⟨-, -, summarised⟩ read
    rw [getSessionLineSummary_eq, lifecycleSessionTotals, foldTotals_eq, if_pos read, if_pos read] at summarised
    have damage := congrArg SessionTotals.damageItems (Option.some.inj summarised)
    exact damage.trans units
  · intro whole
    constructor
    · rfl
    · exact aggregated
    · rw [getSessionLineSummary_eq, lifecycleSessionTotals, foldTotals_eq]
      split
      · next read =>
        rw [whole read, ← units]
        rfl
      · rfl

def halfDamaged : Doc := Doc.ofList [("variance", .num 0), ("damaged_qty", .num (1 / 2))]

/-- Two halves make no damaged item line by line, and one in the summary. -/
theorem summary_counts_halves :
    lifecycleSessionTotals [halfDamaged, halfDamaged] = some ⟨2, 0, 2, 0⟩ ∧
      getSessionLineSummary List.sum [halfDamaged, halfDamaged] = some ⟨2, 0, 2, 1⟩ ∧
      ¬ ∀ lines, CopiesAgree lines := by
  have counted : lifecycleSessionTotals [halfDamaged, halfDamaged] = some ⟨2, 0, 2, 0⟩ := by decide +kernel
  have summed : getSessionLineSummary List.sum [halfDamaged, halfDamaged] = some ⟨2, 0, 2, 1⟩ := by decide +kernel
  constructor
  · exact counted
  constructor
  · exact summed
  · intro agree
    have same := (agree [halfDamaged, halfDamaged]).summarised
    rw [counted, summed] at same
    exact absurd same (by decide)

end StockVerification
