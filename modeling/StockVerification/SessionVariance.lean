import StockVerification.Foundation.Collection
import StockVerification.Foundation.Summation

/-!
# The variance report of a session

Source: backend/services/sql_variance_engine.py:26-64.

The figures of the session and those of its items are computed from at most a thousand observations.
What the session is expected to hold comes from at most a thousand rows of the ERP snapshot. The
rounding of the runtime's additions and subtractions is a parameter.
-/
namespace StockVerification

open Foundation

namespace SqlVarianceEngine

structure VarianceStore where
  countObservations : List Doc
  erpSnapshot : List Doc

def sessionRows (sessionId : String) (rows : List Doc) : List Doc :=
  rows.filter (Filter.eq "session_id" (.str sessionId)).holds

/-- `float(row.get(field) or 0)`, none where the conversion raises. -/
def quantity (field : String) (row : Doc) : Option ℚ := (row.get field).numberOrZero

structure ItemVariance where
  itemCode : Value
  sqlQtyAtSubmission : ℚ
  physicalQty : ℚ
  auditDelta : ℚ
  operationalDelta : ℚ
  status : Value
  approvalStatus : Value

structure VarianceReport where
  sessionId : String
  totalPhysical : ℚ
  totalSqlAtSubmission : ℚ
  auditDelta : ℚ
  movementAdjustedExpected : ℚ
  operationalDelta : ℚ
  varianceByItem : List ItemVariance
  computedAt : Int

section

variable (round : ℚ → ℚ)

/-- `sum` of the quantities of some rows. -/
def sumOf (field : String) (rows : List Doc) : Option ℚ := (rows.mapM (quantity field)).map (roundedSum round)

/-- `round(physical - expected, 4)`. -/
def delta (physical expected : ℚ) : ℚ := round (roundPlaces 4 (round (physical - expected)))

def getMovementAdjustedExpected (s : VarianceStore) (sessionId : String) : Option ℚ :=
  sumOf round "stock_qty" ((sessionRows sessionId s.erpSnapshot).take 1000)

/-- The entry of an observation. -/
def itemVariance (obs : Doc) : Option ItemVariance := do
  let sqlQty ← quantity "sql_qty_at_submission" obs
  let physicalQty ← quantity "counted_qty" obs
  let variance := delta round physicalQty sqlQty
  some ⟨obs.get "item_code", sqlQty, physicalQty, variance, variance, obs.get "status", obs.get "approval_status"⟩

def computeSessionVariance (s : VarianceStore) (sessionId : String) (now : Int) : Option VarianceReport := do
  let observations := (sessionRows sessionId s.countObservations).take 1000
  let totalPhysical ← sumOf round "counted_qty" observations
  let totalSqlAtSubmission ← sumOf round "sql_qty_at_submission" observations
  let movementAdjusted ← getMovementAdjustedExpected round s sessionId
  let varianceByItem ← observations.mapM (itemVariance round)
  some
    { sessionId := sessionId
      totalPhysical := totalPhysical
      totalSqlAtSubmission := totalSqlAtSubmission
      auditDelta := delta round totalPhysical totalSqlAtSubmission
      movementAdjustedExpected := movementAdjusted
      operationalDelta := delta round totalPhysical movementAdjusted
      varianceByItem := varianceByItem
      computedAt := now }

end

/-- The field holds a quantity of at most four decimals. -/
def FourDecimals (field : String) (row : Doc) : Prop := ∃ n : Int, quantity field row = some ((n : ℚ) / 10 ^ 4)

/-- The quantities that the rows hold. -/
def quantities (field : String) (rows : List Doc) : List ℚ := rows.map fun row => (quantity field row).getD 0

def total (field : String) (rows : List Doc) : ℚ := (quantities field rows).sum

/-- The figures of the session are the sums over what it lists and over all that it has. -/
def AddsUp (round : ℚ → ℚ) (s : VarianceStore) (sessionId : String) (now : Int) : Prop :=
  ∃ report, computeSessionVariance round s sessionId now = some report ∧
    report.auditDelta = (report.varianceByItem.map (·.auditDelta)).sum ∧
    report.operationalDelta = (report.varianceByItem.map (·.operationalDelta)).sum ∧
    report.totalPhysical = total "counted_qty" (sessionRows sessionId s.countObservations)

/-- The session's rows hold quantities of at most four decimals. -/
structure FourDecimalSession (s : VarianceStore) (sessionId : String) : Prop where
  counted : ∀ row ∈ sessionRows sessionId s.countObservations, FourDecimals "counted_qty" row
  submitted : ∀ row ∈ sessionRows sessionId s.countObservations, FourDecimals "sql_qty_at_submission" row
  expected : ∀ row ∈ sessionRows sessionId s.erpSnapshot, FourDecimals "stock_qty" row

/-- No sum of quantities and no difference from a sum of counted ones is rounded. -/
structure ExactFigures (round : ℚ → ℚ) (observations snapshot : List Doc) : Prop where
  submitted : SumsExactly round (quantities "sql_qty_at_submission" observations)
  expected : SumsExactly round (quantities "stock_qty" snapshot)
  audit : SumsExactly round
    (quantities "counted_qty" observations ++ (quantities "sql_qty_at_submission" observations).map (-1 * ·))
  operational : SumsExactly round (quantities "counted_qty" observations ++ (quantities "stock_qty" snapshot).map (-1 * ·))

/-- The same for what the report of a session reads. -/
def ExactSession (round : ℚ → ℚ) (s : VarianceStore) (sessionId : String) : Prop :=
  ExactFigures round ((sessionRows sessionId s.countObservations).take 1000)
    ((sessionRows sessionId s.erpSnapshot).take 1000)

variable {round : ℚ → ℚ} {field : String} {rows : List Doc}

theorem FourDecimals.stored {row : Doc} (decimals : FourDecimals field row) :
    quantity field row = some ((quantity field row).getD 0) := by
  obtain ⟨n, held⟩ := decimals
  rw [held, Option.getD_some]

theorem sumOf_decimals (decimals : ∀ row ∈ rows, FourDecimals field row)
    (exact : SumsExactly round (quantities field rows)) : sumOf round field rows = some (total field rows) := by
  have read : rows.mapM (quantity field) = some (quantities field rows) := by
    clear exact
    induction rows with
    | nil => rfl
    | cons row rest ih =>
      have later := ih fun row member => decimals row (List.mem_cons_of_mem _ member)
      rw [List.mapM_cons, (decimals row List.mem_cons_self).stored, later]
      rfl
  rw [sumOf, read, Option.map_some, roundedSum_exact exact, total]

theorem total_decimals (decimals : ∀ row ∈ rows, FourDecimals field row) :
    ∃ n : Int, total field rows = (n : ℚ) / 10 ^ 4 := by
  induction rows with
  | nil => exact ⟨0, by simp [total, quantities]⟩
  | cons row rest ih =>
    obtain ⟨n, held⟩ := decimals row List.mem_cons_self
    obtain ⟨m, later⟩ := ih fun row member => decimals row (List.mem_cons_of_mem _ member)
    refine ⟨n + m, ?_⟩
    unfold total quantities at later ⊢
    rw [List.map_cons, List.sum_cons, held, later, Option.getD_some]
    push_cast
    ring

/-- A difference of four decimals that is not rounded is left as it is. -/
theorem delta_decimals {p q : ℚ} (first : ∃ n : Int, p = (n : ℚ) / 10 ^ 4) (second : ∃ n : Int, q = (n : ℚ) / 10 ^ 4)
    (unrounded : round (p - q) = p - q) : delta round p q = p - q := by
  have placed : roundPlaces 4 (p - q) = p - q := by
    obtain ⟨n, rfl⟩ := first
    obtain ⟨m, rfl⟩ := second
    apply roundPlaces_eq_self (n := n - m)
    push_cast
    ring
  rw [delta, unrounded, placed, unrounded]

/-- The difference of the sums of a part of the first numbers and a part of the second ones. -/
theorem unrounded_sub {first second part other : List ℚ}
    (exact : SumsExactly round (first ++ second.map (-1 * ·))) (among : part.Sublist first)
    (beside : other.Sublist second) : round (part.sum - other.sum) = part.sum - other.sum := by
  have sum := exact _ (among.append (beside.map (-1 * ·))).subperm
  rwa [List.sum_append, List.sum_map_mul_left, List.map_id', neg_one_mul, ← sub_eq_add_neg] at sum

/-- Each observation read gets an entry, and the differences of the entries add up to the difference
of the totals. -/
theorem itemVariance_sums (counted : ∀ row ∈ rows, FourDecimals "counted_qty" row)
    (submitted : ∀ row ∈ rows, FourDecimals "sql_qty_at_submission" row)
    (exact : SumsExactly round
      (quantities "counted_qty" rows ++ (quantities "sql_qty_at_submission" rows).map (-1 * ·))) :
    ∃ items, rows.mapM (itemVariance round) = some items ∧
      items.map (·.operationalDelta) = items.map (·.auditDelta) ∧
      (items.map (·.auditDelta)).sum = total "counted_qty" rows - total "sql_qty_at_submission" rows := by
  induction rows with
  | nil => exact ⟨[], rfl, rfl, by simp [total, quantities]⟩
  | cons row rest ih =>
    have smaller := exact.mono (((List.sublist_cons_self _ (quantities "counted_qty" rest)).append
      ((List.sublist_cons_self _ (quantities "sql_qty_at_submission" rest)).map (-1 * ·))).subperm)
    obtain ⟨items, read, same, added⟩ := ih (fun row member => counted row (List.mem_cons_of_mem _ member))
      (fun row member => submitted row (List.mem_cons_of_mem _ member)) smaller
    obtain ⟨n, physical⟩ := counted row List.mem_cons_self
    obtain ⟨m, sql⟩ := submitted row List.mem_cons_self
    have unrounded := unrounded_sub exact
      (List.singleton_sublist.mpr (List.mem_cons_self : (quantity "counted_qty" row).getD 0 ∈ _ :: _))
      (List.singleton_sublist.mpr (List.mem_cons_self : (quantity "sql_qty_at_submission" row).getD 0 ∈ _ :: _))
    rw [List.sum_singleton, List.sum_singleton, physical, sql, Option.getD_some, Option.getD_some] at unrounded
    have rounded := delta_decimals ⟨n, rfl⟩ ⟨m, rfl⟩ unrounded
    have item : itemVariance round row = some ⟨row.get "item_code", (m : ℚ) / 10 ^ 4, (n : ℚ) / 10 ^ 4,
        (n : ℚ) / 10 ^ 4 - (m : ℚ) / 10 ^ 4, (n : ℚ) / 10 ^ 4 - (m : ℚ) / 10 ^ 4, row.get "status",
        row.get "approval_status"⟩ := by
      rw [itemVariance, physical, sql]
      dsimp only [Option.bind_eq_bind, Option.bind_some]
      rw [rounded]
    refine ⟨_ :: items, by rw [List.mapM_cons, item, read]; rfl, ?_, ?_⟩
    · rw [List.map_cons, List.map_cons, same]
    · unfold total quantities at added ⊢
      rw [List.map_cons, List.map_cons, List.map_cons, List.sum_cons, List.sum_cons, List.sum_cons,
        added, physical, sql, Option.getD_some, Option.getD_some]
      ring

theorem total_take (n : ℕ) : total field rows = total field (rows.take n) + total field (rows.drop n) := by
  rw [total, total, total, ← List.sum_append, quantities, quantities, quantities, ← List.map_append,
    List.take_append_drop]

/-- An observation of ten pieces and a half against eight, and a snapshot that expects as many as
given. -/
def observedSession (expected : ℚ) : VarianceStore where
  countObservations :=
    [Doc.ofList [("session_id", .str "S1"), ("item_code", .str "I1"), ("counted_qty", .num (21 / 2)),
      ("sql_qty_at_submission", .num 8)]]
  erpSnapshot := [Doc.ofList [("session_id", .str "S1"), ("item_code", .str "I1"), ("stock_qty", .num expected)]]

theorem observedSession_decimals (expected : ℤ) : FourDecimalSession (observedSession expected) "S1" := by
  have held (field : String) (n : ℤ) (row : Doc) (stored : row.get field = .num (n / 2)) : FourDecimals field row :=
    ⟨n * 5000, by rw [quantity, stored, Value.numberOrZero_num]; push_cast; congr 1; ring⟩
  constructor
  all_goals
    intro row member
    rw [List.mem_singleton.mp (List.mem_of_mem_filter member)]
  · exact held _ 21 _ rfl
  · exact held _ 16 _ (by norm_num; rfl)
  · exact held _ (expected * 2) _ (by push_cast; rw [mul_div_cancel_right₀ _ two_ne_zero]; rfl)

theorem observedSession_exact : ExactSession nearestDouble (observedSession (8 : ℤ)) "S1" where
  submitted := sumsExactly_nearestDouble 1 [16] (by decide +kernel) (by decide)
  expected := sumsExactly_nearestDouble 1 [16] (by decide +kernel) (by decide)
  audit := sumsExactly_nearestDouble 1 [21, -16] (by decide +kernel) (by decide)
  operational := sumsExactly_nearestDouble 1 [21, -16] (by decide +kernel) (by decide)

end SqlVarianceEngine

end StockVerification
