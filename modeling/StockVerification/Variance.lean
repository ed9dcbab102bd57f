import StockVerification.Totals

/-!
# Variance calculation and thresholds

Source: backend/services/variance_service.py:27-260 and
backend/services/count_lines/governance.py:56-61.

The built-in default configuration is used where none is stored. The source also
stores it then; the stored copy is the one found next time, so decisions do not
change, and the insertion is left out.
-/
namespace StockVerification

open Foundation

abbrev Row := List (String × Atom)

structure VarianceData where
  quantityVariance : ℚ
  valueVariance : ℚ
  percentageVariance : ℚ
  expectedQty : ℚ
  countedQty : ℚ
  unitPrice : ℚ
  expectedValue : ℚ
  countedValue : ℚ
  deriving DecidableEq

def calculateVariance (countedQty expectedQty unitPrice : ℚ) : VarianceData where
  quantityVariance := roundPlaces 2 (countedQty - expectedQty)
  valueVariance := roundPlaces 2 (countedQty * unitPrice - expectedQty * unitPrice)
  percentageVariance := roundPlaces 2 (if expectedQty ≠ 0 then (countedQty - expectedQty) / expectedQty * 100 else 0)
  expectedQty := expectedQty
  countedQty := countedQty
  unitPrice := unitPrice
  expectedValue := roundPlaces 2 (expectedQty * unitPrice)
  countedValue := roundPlaces 2 (countedQty * unitPrice)

def VarianceData.toValue (d : VarianceData) : Value :=
  .dict [("quantity_variance", .num d.quantityVariance), ("value_variance", .num d.valueVariance),
    ("percentage_variance", .num d.percentageVariance), ("expected_qty", .num d.expectedQty),
    ("counted_qty", .num d.countedQty), ("unit_price", .num d.unitPrice),
    ("expected_value", .num d.expectedValue), ("counted_value", .num d.countedValue),
    ("valuation_basis", .str "last_cost")]

/-- `threshold[key]`. -/
def requiredEntry (row : Row) (key : String) : Except Error Atom :=
  match row.lookup key with
  | some atom => .ok atom
  | none => .error (.value ("KeyError: " ++ key))

/-- `threshold.get(key, default)`, as a condition. -/
def flagEntry (row : Row) (key : String) (default : Bool) : Bool :=
  match row.lookup key with
  | some atom => atom.toValue.truthy
  | none => default

/-- One comparison; an unknown operator is never violated. -/
def isViolated (operator : Atom) (actual : ℚ) (bound : Atom) : Except Error Bool :=
  if operator = .str "gte" ∨ operator = .str "lte" then
    match bound with
    | .num v => .ok (if operator = .str "gte" then decide (v ≤ actual) else decide (actual ≤ v))
    | _ => .error (.value "TypeError: threshold value is not a number")
  else .ok (operator == .str "eq" && bound == .num actual)

/-- The figure a threshold looks at; an unknown type is skipped. -/
def thresholdFigure (data : VarianceData) (kind : Atom) : Option ℚ :=
  if kind = .str "quantity" then some |data.quantityVariance|
  else if kind = .str "value" then some |data.valueVariance|
  else if kind = .str "percentage" then some |data.percentageVariance|
  else none

/-- One entry of `violated_thresholds`. -/
def violationRow (kind bound operator : Atom) (actual : ℚ) (row : Row) : Row :=
  [("threshold_type", kind), ("threshold_value", bound), ("actual_value", .num actual),
    ("operator", operator), ("require_supervisor", .bool (flagEntry row "require_supervisor" true)),
    ("require_reason", .bool (flagEntry row "require_reason" false)),
    ("currency", (row.lookup "currency").getD (.str "INR"))]

/-- The loop body of `check_thresholds` for one threshold. -/
def checkThreshold (data : VarianceData) (acc : Bool × List Row) (row : Row) :
    Except Error (Bool × List Row) :=
  if !flagEntry row "enabled" true then .ok acc
  else do
    let kind ← requiredEntry row "threshold_type"
    let operator ← requiredEntry row "operator"
    let bound ← requiredEntry row "value"
    match thresholdFigure data kind with
    | none => pure acc
    | some actual =>
      let violated ← isViolated operator actual bound
      if violated then
        pure (acc.1 || flagEntry row "require_supervisor" true,
          acc.2 ++ [violationRow kind bound operator actual row])
      else pure acc

def defaultThresholds : List Row :=
  [[("threshold_type", .str "quantity"), ("operator", .str "gte"), ("value", .num 1),
      ("require_supervisor", .bool true), ("require_reason", .bool false), ("enabled", .bool true)],
    [("threshold_type", .str "value"), ("operator", .str "gte"), ("value", .num 500),
      ("currency", .str "INR"), ("require_supervisor", .bool true), ("require_reason", .bool true),
      ("enabled", .bool true)]]

/-- `_get_applicable_config`: category and location, category, location, default. -/
def getApplicableConfig (configs : List Doc) (category location : Value) : Option Doc :=
  let byBoth := if category.truthy && location.truthy then
      configs.find? (Filter.both (.eq "apply_to_categories" category) (.eq "apply_to_locations" location)).holds
    else none
  let byCategory := if category.truthy then
      configs.find? (Filter.both (.eq "apply_to_categories" category) (.eq "apply_to_locations" .null)).holds
    else none
  let byLocation := if location.truthy then
      configs.find? (Filter.both (.eq "apply_to_categories" .null) (.eq "apply_to_locations" location)).holds
    else none
  let byName := configs.find? (Filter.eq "name" (.str "Default Variance Thresholds")).holds
  byBoth.or (byCategory.or (byLocation.or byName))

def applicableThresholds (configs : List Doc) (category location : Value) : List Row :=
  match getApplicableConfig configs category location with
  | none => defaultThresholds
  | some config =>
    match config.get "thresholds" with
    | .rows rows => rows
    | _ => []

/-- `check_thresholds`: whether approval is required, and the violations. -/
def checkThresholds (configs : List Doc) (data : VarianceData) (category location : Value) :
    Except Error (Bool × List Row) :=
  (applicableThresholds configs category location).foldlM (checkThreshold data) (false, [])

/-- `_resolve_unit_price`: the first price field that is not blank. -/
def resolveUnitPrice (item : Doc) : ℚ :=
  match ["last_cost", "sale_price", "sales_price", "mrp"].find? fun field =>
      asFloat (item.get field) != 0 ||
        (item.get field != .null && item.get field != .str "") with
  | some field => asFloat (item.get field)
  | none => 0

def normalizeReason (value : Value) : Value :=
  match value with
  | .str s => if Text.strip s = "" then .null else .str (Text.strip s)
  | _ => .null

structure GovernanceDecision where
  requiresSupervisorApproval : Bool
  variance : ℚ
  varianceData : VarianceData
  violatedThresholds : List Row

namespace GovernanceDecision

def approvalStatus (d : GovernanceDecision) : String :=
  if d.requiresSupervisorApproval then "NEEDS_REVIEW" else "APPROVED"

def approvedBy (d : GovernanceDecision) : Value :=
  if d.requiresSupervisorApproval then .null else .str "system"

def approvedAt (d : GovernanceDecision) (now : Int) : Value :=
  if d.requiresSupervisorApproval then .null else .date now

def status (d : GovernanceDecision) : String :=
  if d.requiresSupervisorApproval then "pending" else "approved"

end GovernanceDecision

structure PolicyInput where
  countedQty : ℚ
  expectedQty : ℚ
  item : Doc
  location : Value
  varianceReason : Value
  correctionReason : Value
  requireCorrectionReason : Bool

def evaluatePolicy (configs : List Doc) (input : PolicyInput) : Except Error GovernanceDecision := do
  let variance := input.countedQty - input.expectedQty
  let reasonPresent := normalizeReason input.varianceReason != .null || input.correctionReason.truthy
  require (!(input.requireCorrectionReason && variance != 0 && !reasonPresent))
    (.http 400 "Correction reason is mandatory when variance exists")
  let data := calculateVariance input.countedQty input.expectedQty (resolveUnitPrice input.item)
  let (required, violated) ← checkThresholds configs data (input.item.get "category") input.location
  require (!(violated.any (flagEntry · "require_reason" false) && !reasonPresent))
    (.http 400 "Variance reason is required for this count")
  pure { requiresSupervisorApproval := required, variance := variance, varianceData := data
         violatedThresholds := violated }

theorem evaluatePolicy_ok {configs : List Doc} {input : PolicyInput} {d : GovernanceDecision}
    (success : evaluatePolicy configs input = .ok d) :
    d.variance = input.countedQty - input.expectedQty ∧ ∃ violated, checkThresholds configs
        (calculateVariance input.countedQty input.expectedQty (resolveUnitPrice input.item))
        (input.item.get "category") input.location = .ok (d.requiresSupervisorApproval, violated) := by
  simp only [evaluatePolicy, bind_success, pure_success] at success
  obtain ⟨_, _, ⟨required, violated⟩, checked, _, _, rfl⟩ := success
  exact ⟨rfl, violated, checked⟩

end StockVerification
