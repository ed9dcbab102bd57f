import StockVerification.Foundation.Rounding
import StockVerification.Variance

/-!
# Thresholds and the distance from the expected quantity

Source: backend/services/variance_service.py:24-154.

With thresholds that all ask for a figure of at least some value, a count that is farther from the
expected quantity violates every threshold that a nearer one violates.
-/
namespace StockVerification

open Foundation

def violatedThreshold (violation : Row) : Row := violation.filter fun entry => entry.1 != "actual_value"

/-- Every figure of the one variance is at least as large as that of the other. -/
structure Farther (near far : VarianceData) : Prop where
  quantity : |near.quantityVariance| ≤ |far.quantityVariance|
  value : |near.valueVariance| ≤ |far.valueVariance|
  percentage : |near.percentageVariance| ≤ |far.percentageVariance|

theorem calculateVariance_farther {near far expected : ℚ} (unitPrice : ℚ)
    (distance : |near - expected| ≤ |far - expected|) :
    Farther (calculateVariance near expected unitPrice) (calculateVariance far expected unitPrice) where
  quantity := abs_roundPlaces_mono 2 distance
  value := by
    apply abs_roundPlaces_mono
    rw [← sub_mul, ← sub_mul, abs_mul, abs_mul]
    exact mul_le_mul_of_nonneg_right distance (abs_nonneg unitPrice)
  percentage := by
    apply abs_roundPlaces_mono
    by_cases zero : expected = 0
    · simp [zero]
    · rw [if_pos zero, if_pos zero, abs_mul, abs_mul, abs_div, abs_div]
      apply mul_le_mul_of_nonneg_right _ (abs_nonneg 100)
      exact div_le_div_of_nonneg_right distance (abs_nonneg expected)

variable {near far : VarianceData}

/-- The same thresholds have a figure, and it grows. -/
theorem Farther.figure (farther : Farther near far) (kind : Atom) :
    (thresholdFigure near kind = none ∧ thresholdFigure far kind = none) ∨
      ∃ a b, thresholdFigure near kind = some a ∧ thresholdFigure far kind = some b ∧ a ≤ b := by
  unfold thresholdFigure
  by_cases quantity : kind = .str "quantity"
  · rw [if_pos quantity, if_pos quantity]
    exact .inr ⟨_, _, rfl, rfl, farther.quantity⟩
  · rw [if_neg quantity, if_neg quantity]
    by_cases value : kind = .str "value"
    · rw [if_pos value, if_pos value]
      exact .inr ⟨_, _, rfl, rfl, farther.value⟩
    · rw [if_neg value, if_neg value]
      by_cases percentage : kind = .str "percentage"
      · rw [if_pos percentage, if_pos percentage]
        exact .inr ⟨_, _, rfl, rfl, farther.percentage⟩
      · rw [if_neg percentage, if_neg percentage]
        exact .inl ⟨rfl, rfl⟩

/-- What was required and violated is required and violated. -/
structure Includes (small large : Bool × List Row) : Prop where
  required : small.1 = true → large.1 = true
  violated : (small.2.map violatedThreshold).Sublist (large.2.map violatedThreshold)

theorem Includes.refl (acc : Bool × List Row) : Includes acc acc := ⟨id, List.Sublist.refl _⟩

theorem violatedThreshold_row (kind bound operator : Atom) (a b : ℚ) (row : Row) :
    violatedThreshold (violationRow kind bound operator a row) =
      violatedThreshold (violationRow kind bound operator b row) := rfl

theorem isViolated_gte (a v : ℚ) : isViolated (.str "gte") a (.num v) = .ok (decide (v ≤ a)) := by
  simp [isViolated]

variable {bound : Atom}

theorem bound_of_isViolated {a : ℚ} {violated : Bool}
    (checked : isViolated (.str "gte") a bound = .ok violated) : ∃ v, bound = .num v := by
  cases bound with
  | num v => exact ⟨v, rfl⟩
  | _ => simp [isViolated] at checked

/-- An enabled threshold of the "gte" kind, once its figure is known. -/
def gteComparison (row : Row) (kind bound : Atom) (actual : ℚ) (acc : Bool × List Row) :
    Except Error (Bool × List Row) := do
  let violated ← isViolated (.str "gte") actual bound
  if violated then
    pure (acc.1 || flagEntry row "require_supervisor" true,
      acc.2 ++ [violationRow kind bound (.str "gte") actual row])
  else pure acc

variable {row : Row}

theorem checkThreshold_gte {kind : Atom} (enabled : flagEntry row "enabled" true = true)
    (operator : row.lookup "operator" = some (.str "gte")) (hasKind : requiredEntry row "threshold_type" = .ok kind)
    (hasBound : requiredEntry row "value" = .ok bound) (data : VarianceData) (acc : Bool × List Row) :
    checkThreshold data acc row =
      match thresholdFigure data kind with
      | none => .ok acc
      | some actual => gteComparison row kind bound actual acc := by
  have required : requiredEntry row "operator" = .ok (.str "gte") := by rw [requiredEntry, operator]
  rw [checkThreshold, enabled, hasKind, required, hasBound]
  rfl

variable {small large : Bool × List Row}

theorem Includes.larger (includes : Includes small large) (flag : Bool) (row : Row) :
    Includes small (large.1 || flag, large.2 ++ [row]) := by
  constructor
  · intro required
    simp [includes.required required]
  · rw [List.map_append]
    exact includes.violated.trans (List.sublist_append_left _ _)

theorem Includes.both (includes : Includes small large) (flag : Bool) {row' : Row}
    (same : violatedThreshold row = violatedThreshold row') :
    Includes (small.1 || flag, small.2 ++ [row]) (large.1 || flag, large.2 ++ [row']) := by
  constructor
  · intro required
    rw [Bool.or_eq_true] at required ⊢
    exact required.imp_left includes.required
  · rw [List.map_append, List.map_append, List.map_singleton, List.map_singleton, same]
    exact includes.violated.append (List.Sublist.refl _)

variable {small' : Bool × List Row}

/-- The comparison of one threshold, for the nearer and for the farther count. -/
theorem Includes.compared (includes : Includes small large) {a b : ℚ} (grows : a ≤ b) {kind : Atom}
    (checked : gteComparison row kind bound a small = .ok small') :
    ∃ large', gteComparison row kind bound b large = .ok large' ∧ Includes small' large' := by
  cases outcome : isViolated (.str "gte") a bound with
  | error e =>
    rw [gteComparison, outcome] at checked
    cases checked
  | ok violated =>
    obtain ⟨v, rfl⟩ := bound_of_isViolated outcome
    rw [gteComparison, isViolated_gte] at checked ⊢
    by_cases below : v ≤ a
    · -- the farther count is above the bound as well
      have below' : v ≤ b := below.trans grows
      simp only [below, decide_true] at checked
      simp only [below', decide_true]
      cases checked
      exact ⟨_, rfl, includes.both _ (violatedThreshold_row kind (.num v) (.str "gte") a b row)⟩
    · simp only [below, decide_false] at checked
      cases checked
      by_cases below' : v ≤ b
      · simp only [below', decide_true]
        exact ⟨_, rfl, includes.larger _ _⟩
      · simp only [below', decide_false]
        exact ⟨_, rfl, includes⟩

/-- One threshold. -/
theorem Farther.check (farther : Farther near far)
    (gte : flagEntry row "enabled" true = true → row.lookup "operator" = some (.str "gte"))
    (includes : Includes small large) (checked : checkThreshold near small row = .ok small') :
    ∃ large', checkThreshold far large row = .ok large' ∧ Includes small' large' := by
  cases enabled : flagEntry row "enabled" true with
  | false =>
    rw [checkThreshold, enabled] at checked
    cases checked
    exact ⟨large, by rw [checkThreshold, enabled]; rfl, includes⟩
  | true =>
    cases hasKind : requiredEntry row "threshold_type" with
    | error e =>
      rw [checkThreshold, enabled, hasKind] at checked
      cases checked
    | ok kind =>
      cases hasBound : requiredEntry row "value" with
      | error e =>
        rw [checkThreshold, enabled, hasKind, requiredEntry, gte enabled, hasBound] at checked
        cases checked
      | ok bound =>
        rw [checkThreshold_gte enabled (gte enabled) hasKind hasBound] at checked ⊢
        obtain ⟨skipped, skipped'⟩ | ⟨a, b, figure, figure', grows⟩ := farther.figure kind
        · rw [skipped] at checked
          rw [skipped']
          cases checked
          exact ⟨large, rfl, includes⟩
        · rw [figure] at checked
          rw [figure']
          exact includes.compared grows checked

/-- All thresholds, by induction on their list. -/
theorem Farther.checks (farther : Farther near far) {rows : List Row}
    (gte : ∀ row ∈ rows, flagEntry row "enabled" true = true → row.lookup "operator" = some (.str "gte"))
    (includes : Includes small large) (checked : rows.foldlM (checkThreshold near) small = .ok small') :
    ∃ large', rows.foldlM (checkThreshold far) large = .ok large' ∧ Includes small' large' := by
  induction rows generalizing small large with
  | nil =>
    cases checked
    exact ⟨large, rfl, includes⟩
  | cons row rows ih =>
    rw [List.foldlM_cons] at checked ⊢
    cases first : checkThreshold near small row with
    | error e =>
      rw [first] at checked
      cases checked
    | ok middle =>
      rw [first] at checked
      obtain ⟨middle', first', includes'⟩ := farther.check (gte row List.mem_cons_self) includes first
      rw [first']
      exact ih (fun row member => gte row (List.mem_cons_of_mem _ member)) includes' checked

/-- A count farther from the expected quantity requires approval where a nearer one does, and
violates every threshold the nearer one violates. -/
theorem thresholds_monotone (configs : List Doc) (category location : Value)
    (gte : ∀ row ∈ applicableThresholds configs category location,
      flagEntry row "enabled" true = true → row.lookup "operator" = some (.str "gte"))
    (expected unitPrice near far : ℚ) (distance : |near - expected| ≤ |far - expected|)
    {required : Bool} {violated : List Row}
    (checked : checkThresholds configs (calculateVariance near expected unitPrice) category location =
      .ok (required, violated)) :
    ∃ required' violated',
      checkThresholds configs (calculateVariance far expected unitPrice) category location =
        .ok (required', violated') ∧
      (required = true → required' = true) ∧
      (violated.map violatedThreshold).Sublist (violated'.map violatedThreshold) := by
  obtain ⟨⟨required', violated'⟩, checked', includes⟩ :=
    (calculateVariance_farther unitPrice distance).checks gte (Includes.refl (false, [])) checked
  exact ⟨required', violated', checked', includes.required, includes.violated⟩

/-- Seven counted where five are expected, and two, under the default thresholds. -/
theorem thresholds_monotone_default :
    ∃ required' violated',
      checkThresholds [] (calculateVariance 2 5 10) .null .null = .ok (required', violated') ∧
      (true = true → required' = true) ∧
      (([violationRow (.str "quantity") (.num 1) (.str "gte") 2
          [("require_supervisor", .bool true), ("require_reason", .bool false)]] : List Row).map
        violatedThreshold).Sublist (violated'.map violatedThreshold) :=
  thresholds_monotone [] .null .null (by decide) 5 10 7 2 (by norm_num [abs_of_neg, abs_of_pos]) (by decide +kernel)

end StockVerification
