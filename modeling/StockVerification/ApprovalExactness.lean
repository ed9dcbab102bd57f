import StockVerification.Observations

/-!
# What automatic approval compares

Source: backend/services/approval_engine.py:36-345.

The result that `evaluate` returns beside the observation. The details of the rules and the block
reason made of them are left out. `none` stands for an evaluation that raises.
-/
namespace StockVerification

open Foundation

structure AutoApprovalResult where
  observationId : String
  approved : Bool
  /-- Rule names, each with whether the rule passed. -/
  rulesPassed : List (String × Bool)
  sqlQuantitySource : SqlAvailability
  sqlComparisonSource : Option SqlAvailability
  deriving DecidableEq

variable (observation : Doc)

/-- The id that `evaluate` asks for. -/
def evaluatedId : Value := (observation.get "id").orElse (observation.get "_id")

/-- `ApprovalEngine.evaluate`, its result. -/
def evaluateResult (responses : List String) (others : List Doc) : Option AutoApprovalResult :=
  let sqlSource := determineSqlSource observation
  if !(evaluatedId observation).truthy then some {
    observationId := "unknown"
    approved := false
    rulesPassed := []
    sqlQuantitySource := .unavailable
    sqlComparisonSource := none }
  else if !hasSqlFigure observation then some {
    observationId := (evaluatedId observation).text
    approved := false
    rulesPassed := [("sql_fetched_at_submission", false)]
    sqlQuantitySource := sqlSource
    sqlComparisonSource := none }
  else do
    let sqlQty ← sqlQuantity observation
    let counted ← (observation.get "counted_qty").numberOrZero
    let variance := roundPlaces 4 (counted - sqlQty)
    let rules ← ruleResults observation variance counted responses others
    some {
      observationId := (evaluatedId observation).text
      approved := rules.all (·.passed) && decide (variance = 0)
      rulesPassed := ("sql_fetched_at_submission", true) :: rules.map fun rule => (rule.ruleName, rule.passed)
      sqlQuantitySource := sqlSource
      sqlComparisonSource := if sqlSource = .unavailable then none else some sqlSource }

/-- A value as a quantity. -/
def asQuantity : Value → Option ℚ
  | .num q => some q
  | .bool b => some (if b then 1 else 0)
  | _ => none

/-- The quantity of a source, in the field that the source was determined from. -/
def sourceQuantity : SqlAvailability → Option ℚ
  | .availableAtSubmission => asQuantity (observation.get "sql_qty_at_submission")
  | .reconstructed => asQuantity (observation.get "reconstructed_qty")
  | .availableAtSync => asQuantity ((observation.get "sql_qty_at_recount").orElse (observation.get "sql_quantity"))
  | .unavailable => none

section

variable (observation : Doc) (responses : List String) (others : List Doc)

/-- All rules pass, the variance being zero. -/
def EveryRulePasses : Prop :=
  ∃ counted rules, (observation.get "counted_qty").numberOrZero = some counted ∧
    ruleResults observation 0 counted responses others = some rules ∧ rules.all (·.passed) = true

/-- The count is the quantity of the source that the result reports. -/
def CountedAsReported : Prop :=
  ∃ result counted, evaluateResult observation responses others = some result ∧
    (observation.get "counted_qty").numberOrZero = some counted ∧
    sourceQuantity observation result.sqlQuantitySource = some counted

/-- An observation is approved exactly if it has the reported source's quantity and all rules
pass. -/
def ApprovesExactly : Prop :=
  (∃ result, evaluateResult observation responses others = some result ∧ result.approved = true) ↔
    CountedAsReported observation responses others ∧ EveryRulePasses observation responses others

/-- What the quantity of the source must be for the comparison to be the right one. A quantity of
zero at submission is taken for none, a reconstructed one is not looked at, and one from a later
sync is taken for zero. -/
def RightlyCompared (counted : ℚ) : Prop :=
  match determineSqlSource observation with
  | .availableAtSubmission => ∀ quantity, asQuantity (observation.get "sql_qty_at_submission") = some quantity →
      if counted = quantity then quantity ≠ 0 else quantity = 0 ∨ roundPlaces 4 (counted - quantity) ≠ 0
  | .reconstructed => sourceQuantity observation .reconstructed ≠ some counted
  | .availableAtSync => sourceQuantity observation .availableAtSync = some counted ↔ roundPlaces 4 counted = 0
  | .unavailable => True

end

variable {responses : List String}

theorem ruleResults_some {observation : Doc} {variance counted : ℚ} {others : List Doc} {rules : List CheckedRule}
    (checked : ruleResults observation variance counted responses others = some rules) (other : ℚ) :
    ∃ rules, ruleResults observation other counted responses others = some rules := by
  obtain ⟨fixed, made, _⟩ := Option.map_eq_some_iff.mp checked
  exact ⟨_, by rw [ruleResults, made]; rfl⟩

/-- An approval needs an identified observation, a figure to compare with, a variance of zero and
all rules. -/
theorem approved_iff (responses : List String) (others : List Doc) :
    (∃ result, evaluateResult observation responses others = some result ∧ result.approved = true) ↔
      (evaluatedId observation).truthy = true ∧ hasSqlFigure observation = true ∧
        (∃ sqlQty counted, sqlQuantity observation = some sqlQty ∧
          (observation.get "counted_qty").numberOrZero = some counted ∧ roundPlaces 4 (counted - sqlQty) = 0) ∧
        EveryRulePasses observation responses others := by
  unfold evaluateResult
  by_cases identified : (evaluatedId observation).truthy = true
  · by_cases figure : hasSqlFigure observation = true
    · simp only [identified, figure, Bool.not_true, Bool.false_eq_true, if_false,
        Option.bind_eq_bind, Option.bind_eq_some_iff, true_and]
      constructor
      · rintro ⟨result, ⟨sqlQty, isSql, counted, isCounted, rules, checked, made⟩, approved⟩
        cases made
        rw [Bool.and_eq_true, decide_eq_true_eq] at approved
        rw [approved.2] at checked
        exact ⟨⟨sqlQty, counted, isSql, isCounted, approved.2⟩, counted, rules, isCounted, checked, approved.1⟩
      · rintro ⟨⟨sqlQty, counted, isSql, isCounted, zero⟩, other, rules, isOther, checked, pass⟩
        cases isCounted.symm.trans isOther
        refine ⟨_, ⟨sqlQty, isSql, counted, isCounted, rules, ?_, rfl⟩, ?_⟩
        · rw [zero]
          exact checked
        · simp [pass, zero]
    · simp [identified, figure]
  · simp [identified]

theorem sqlQuantity_submission {observation : Doc} (given : observation.get "sql_qty_at_submission" ≠ .null) :
    sqlQuantity observation = asQuantity (observation.get "sql_qty_at_submission") := by
  rw [sqlQuantity]
  cases read : observation.get "sql_qty_at_submission" with
  | null => exact absurd read given
  | _ => rfl

theorem sqlQuantity_missing {observation : Doc} (missing : observation.get "sql_qty_at_submission" = .null) :
    sqlQuantity observation = some 0 := by
  rw [sqlQuantity, missing]

theorem truthy_of_asQuantity {value : Value} {quantity : ℚ}
    (read : asQuantity value = some quantity) : value.truthy = true ↔ quantity ≠ 0 := by
  cases value with
  | num q =>
    cases read
    simp [Value.truthy]
  | bool b =>
    cases b with
    | false | true =>
      cases read
      simp
  | _ => cases read

theorem submission_given {observation : Doc} :
    determineSqlSource observation = .availableAtSubmission ↔ observation.get "sql_qty_at_submission" ≠ .null := by
  unfold determineSqlSource
  by_cases given : observation.get "sql_qty_at_submission" ≠ .null
  · simp [given]
  · simp only [given, if_false, iff_false]
    split
    · simp
    · split
      · simp
      · simp

theorem figure_missing {observation : Doc} (missing : observation.get "sql_qty_at_submission" = .null) :
    hasSqlFigure observation = true ↔ determineSqlSource observation = .availableAtSync := by
  simp [hasSqlFigure, missing]

section

variable {observation : Doc} {others : List Doc}

theorem evaluateResult_source {result : AutoApprovalResult} (identified : (evaluatedId observation).truthy = true)
    (returned : evaluateResult observation responses others = some result) :
    result.sqlQuantitySource = determineSqlSource observation := by
  unfold evaluateResult at returned
  rw [identified] at returned
  by_cases figure : hasSqlFigure observation = true
  · simp only [figure, Bool.not_true, Bool.false_eq_true, if_false, Option.bind_eq_bind,
      Option.bind_eq_some_iff] at returned
    obtain ⟨_, _, _, _, _, _, ⟨⟩⟩ := returned
    rfl
  · simp only [figure, Bool.not_true, Bool.false_eq_true, if_false] at returned
    cases returned
    rfl

theorem evaluateResult_some {sqlQty : ℚ}
    (readable : hasSqlFigure observation = true → sqlQuantity observation = some sqlQty)
    (pass : EveryRulePasses observation responses others) :
    ∃ result, evaluateResult observation responses others = some result := by
  obtain ⟨counted, rules, isCounted, checked, _⟩ := pass
  unfold evaluateResult
  split
  · exact ⟨_, rfl⟩
  · split
    · exact ⟨_, rfl⟩
    · next figure =>
      have isSql := readable (by simpa using figure)
      obtain ⟨actual, made⟩ := ruleResults_some checked (roundPlaces 4 (counted - sqlQty))
      simp only [isSql, isCounted, Option.bind_eq_bind, Option.bind_some, made]
      exact ⟨_, rfl⟩

/-- What the result reports, where all rules pass. -/
theorem countedAsReported_iff {counted : ℚ} (identified : (evaluatedId observation).truthy = true)
    (isCounted : (observation.get "counted_qty").numberOrZero = some counted)
    (pass : EveryRulePasses observation responses others) :
    CountedAsReported observation responses others ↔
      sourceQuantity observation (determineSqlSource observation) = some counted := by
  constructor
  · rintro ⟨result, number, returned, isNumber, reported⟩
    cases isCounted.symm.trans isNumber
    rw [evaluateResult_source identified returned] at reported
    exact reported
  · intro reported
    have readable : ∃ sqlQty, hasSqlFigure observation = true → sqlQuantity observation = some sqlQty := by
      by_cases missing : observation.get "sql_qty_at_submission" = .null
      · exact ⟨0, fun _ => sqlQuantity_missing missing⟩
      · rw [submission_given.mpr missing] at reported
        exact ⟨counted, fun _ => (sqlQuantity_submission missing).trans reported⟩
    obtain ⟨sqlQty, readable⟩ := readable
    obtain ⟨result, returned⟩ := evaluateResult_some readable pass
    rw [← evaluateResult_source identified returned] at reported
    exact ⟨result, counted, returned, isCounted, reported⟩

end

/-- The comparison that an approval rests on. -/
theorem compared_iff (counted : ℚ) :
    ((hasSqlFigure observation = true ∧ ∃ sqlQty, sqlQuantity observation = some sqlQty ∧
        roundPlaces 4 (counted - sqlQty) = 0) ↔
      sourceQuantity observation (determineSqlSource observation) = some counted) ↔
    RightlyCompared observation counted := by
  by_cases missing : observation.get "sql_qty_at_submission" = .null
  · simp only [figure_missing missing, sqlQuantity_missing missing, Option.some.injEq, exists_eq_left', sub_zero]
    unfold RightlyCompared
    cases source : determineSqlSource observation with
    | availableAtSubmission => exact absurd missing (submission_given.mp source)
    | reconstructed => simp
    | availableAtSync => simp [eq_comm, iff_comm]
    | unavailable => simp [sourceQuantity]
  · have source := submission_given.mpr missing
    unfold RightlyCompared
    simp only [hasSqlFigure, sqlQuantity_submission missing, source, sourceQuantity]
    cases read : asQuantity (observation.get "sql_qty_at_submission") with
    | none => simp
    | some quantity =>
      have filled := truthy_of_asQuantity read
      by_cases none_ : quantity = 0
      · have blank : (observation.get "sql_qty_at_submission").truthy = false := by
          simpa [none_] using filled
        by_cases same : counted = quantity
        · simp [blank, same, none_]
        · simp [blank, none_, eq_comm]
      · have given : (observation.get "sql_qty_at_submission").truthy = true := filled.mpr none_
        by_cases same : counted = quantity
        · have zero : roundPlaces 4 0 = 0 := by decide +kernel
          simp [given, same, none_, zero]
        · simp [given, same, Ne.symm same, none_]

/-- Approval is exact for an observation exactly if its figure is rightly compared, where all rules
pass. -/
theorem approves_exactly_iff (responses : List String) (others : List Doc) :
    ApprovesExactly observation responses others ↔
      ((evaluatedId observation).truthy = true → EveryRulePasses observation responses others →
        ∀ counted, (observation.get "counted_qty").numberOrZero = some counted → RightlyCompared observation counted) := by
  rw [ApprovesExactly, approved_iff]
  by_cases pass : EveryRulePasses observation responses others
  · by_cases identified : (evaluatedId observation).truthy = true
    · obtain ⟨counted, rules, isCounted, _, _⟩ := id pass
      have compared := compared_iff observation counted
      simp only [pass, identified, countedAsReported_iff identified isCounted pass, isCounted,
        true_and, and_true, forall_const, Option.some.injEq, forall_eq']
      simpa using compared
    · have unreported : ¬ CountedAsReported observation responses others := by
        rintro ⟨result, counted, returned, _, reported⟩
        unfold evaluateResult at returned
        simp only [identified, Bool.not_false, if_true] at returned
        cases returned
        cases reported
      simp [identified, unreported]
  · simp [pass]

/-- Nothing was counted of an item of which the server had seven pieces when the count was
synced. -/
def syncedNothing : Doc :=
  Doc.ofList [("id", .str "O1"), ("counted_qty", .num 0), ("sql_quantity", .num 7),
    ("remark", .str "counted twice"), ("photo_proofs", .list [.str "p.jpg"])]

/-- Nothing was counted of an item of which the server had nothing at submission. -/
def submittedNothing : Doc :=
  Doc.ofList [("id", .str "O2"), ("counted_qty", .num 0), ("sql_qty_at_submission", .num 0),
    ("remark", .str "counted twice"), ("photo_proofs", .list [.str "p.jpg"])]

/-- The first is approved against a quantity that is not the one it reports, the second is not
approved at its own. -/
theorem approval_compares_another :
    (evaluateResult syncedNothing [] []).map (fun result => (result.approved, result.sqlQuantitySource)) =
        some (true, .availableAtSync) ∧
      sourceQuantity syncedNothing .availableAtSync = some 7 ∧
      (evaluateResult submittedNothing [] []).map (fun result => (result.approved, result.sqlQuantitySource)) =
        some (false, .availableAtSubmission) ∧
      sourceQuantity submittedNothing .availableAtSubmission = some 0 ∧
      ¬ ∀ observation responses others, ApprovesExactly observation responses others := by
  have result : (evaluateResult syncedNothing [] []).map (fun result => (result.approved, result.sqlQuantitySource)) =
      some (true, .availableAtSync) := by decide +kernel
  constructor
  · exact result
  constructor
  · decide +kernel
  constructor
  · decide +kernel
  constructor
  · decide +kernel
  · intro exact_
    obtain ⟨approving, returned, shown⟩ := Option.map_eq_some_iff.mp result
    have approved : approving.approved = true := congrArg Prod.fst shown
    obtain ⟨⟨reporting, counted, again, isCounted, reported⟩, _⟩ :=
      (exact_ syncedNothing [] []).mp ⟨approving, returned, approved⟩
    cases returned.symm.trans again
    have source : approving.sqlQuantitySource = .availableAtSync := congrArg Prod.snd shown
    have nothing : (syncedNothing.get "counted_qty").numberOrZero = some 0 := by decide +kernel
    have seven : sourceQuantity syncedNothing .availableAtSync = some 7 := by decide +kernel
    cases nothing.symm.trans isCounted
    rw [source, seven] at reported
    exact absurd reported (by decide +kernel)

end StockVerification
