import StockVerification.ApprovalInvariant

/-!
# Non-negative counts

The write core refuses a negative quantity where it governs the write: on inserts and
on an `update_one` that sets the quantity. The increments of
`add_quantity_to_count_line` and the corrections of `update_count_line` go through
`find_one_and_update` and are not looked at. A merge adds the quantity of a stored
line and needs no check of its own.
-/
namespace StockVerification

open Foundation Foundation.Action

def CountNonneg (line : Doc) : Prop := 0 ≤ asFloat (line.get "counted_qty")

variable {s : Store}

theorem evaluateGovernanceForDocument_nonneg {ctx : WriteContext} {document : Doc} {e : Evaluation}
    (success : evaluateGovernanceForDocument s ctx document = .ok e) : CountNonneg document := by
  simp only [evaluateGovernanceForDocument, bind_success, require_ok, decide_eq_true_eq] at success
  obtain ⟨_, _, counted, countedEq, _, nonneg, _⟩ := success
  rw [CountNonneg, floatOrError_asFloat countedEq]
  exact nonneg

variable {user : User}

section writes

variable {env : Env} {ctx : WriteContext} {t : Store} {f : Filter}

section

variable (each : EachLine CountNonneg s)
include each

theorem insert_nonneg {document : Doc} (noId : document "_id" = none)
    (counted : document.has "counted_qty" = true)
    (step : WriteStep env ctx (.insertOne document) s t) : EachLine CountNonneg t := by
  obtain ⟨p, result, prepared, executed⟩ := step
  obtain ⟨line, inserted, rfl, _, _, _⟩ := insertOne_effect noId prepared executed
  obtain ⟨hash, e, evaluated, _⟩ := inserted.governed counted
  refine each.append ?_
  have nonneg := evaluateGovernanceForDocument_nonneg evaluated
  rw [CountNonneg, Doc.get_congr (inserted.other _ (by decide) (by decide))]
  rwa [CountNonneg, Doc.get_congr (Doc.set_other _ _ (by decide))] at nonneg

theorem supersede_nonneg {username : String} {successor : Doc}
    (plain : ctx.transition = none)
    (step : WriteStep env ctx (.updateOne f (.ofSet (supersededFields env username successor))) s t) :
    EachLine CountNonneg t := by
  obtain ⟨stamped, old, new, line, kept, _, _⟩ := supersede_effect plain step
  refine each.updated line ?_
  rw [CountNonneg, Doc.get_congr (kept _ (by decide) (by decide))]
  exact each old line.mem

theorem addQuantity_nonneg {qty : ℚ} {change : QuantityChange}
    (enough : ∀ old, s.countLines.find? f.holds = some old → 0 ≤ asFloat (old.get "counted_qty") + qty)
    (step : WriteStep env ctx (.findOneAndUpdate f (addQuantityUpdate env user qty change)) s t) :
    EachLine CountNonneg t := by
  obtain ⟨stamped, old, new, line, _, counted, _⟩ := addQuantity_effect step
  refine each.updated line ?_
  rw [CountNonneg, counted]
  exact enough old line.found

theorem updateCountLine_nonneg {r : Store} {line fields : Doc} {change : QuantityChange}
    (stated : ∀ qty, change.qty = some qty → 0 ≤ qty)
    (fieldsEq : updateCountLineFields env user line change r = .ok fields)
    (step : WriteStep env ctx (.findOneAndUpdate f { set := fields, inc := [("version", 1)] }) s t) :
    EachLine CountNonneg t := by
  obtain ⟨stamped, old, new, updated, _, unchanged | changed⟩ := updateCountLine_effect fieldsEq step
  · refine each.updated updated ?_
    rw [CountNonneg, Doc.get_congr unchanged.2.1]
    exact each old updated.mem
  · obtain ⟨qty, _, given, _, counted, _⟩ := changed
    refine each.updated updated ?_
    rw [CountNonneg, Doc.get_of_some counted]
    exact stated qty given

theorem resolved_nonneg {entityId : String} {line fields : Doc} {data : List (String × Value)}
    (found : s.countLines.find? (entityLookup entityId).holds = some line)
    (fieldsEq : resolvedLineFields env line data = .ok fields)
    (step : WriteStep env (resolverContext line) (.updateOne (entityLookup entityId) (.ofSet fields)) s t) :
    EachLine CountNonneg t := by
  obtain ⟨u, new, updated, effect⟩ := resolve_effect found fieldsEq step
  refine each.updated updated ?_
  rcases effect with ⟨q, checked, stated, _, governed, applied⟩ | ⟨_, counted, _⟩
  · -- a new quantity is governed
    obtain ⟨e, evaluated, set⟩ := governed.evaluated
    have nonneg := evaluateGovernanceForDocument_nonneg evaluated
    have merged : (line.update checked) "counted_qty" = some (.num q) := by
      rw [Doc.update_apply, stated]
      rfl
    have stored : new "counted_qty" = some (.num q) := by
      rw [applied, set, applyAuthoritativeFields_other (by decide),
        copyBaselineFields_other (by decide) (by decide), stated]
      rfl
    rw [CountNonneg, Doc.get_of_some stored]
    rwa [CountNonneg, Doc.get_of_some merged] at nonneg
  · rw [CountNonneg, Doc.get_congr counted]
    exact each line updated.mem

end

end writes

/-- A merge adds a stored quantity. -/
theorem mergeKeeps_nonneg {env : Env} {targetId sourceId : String}
    {target targetSession : Doc} :
    MergeKeeps (EachLine CountNonneg) env user targetId sourceId target targetSession s where
  target := by
    intro t t' source qty _ touched _ looked _ read each step
    obtain ⟨stamped, old, new, line, _, _, counted, _⟩ := mergeTarget_effect step
    rw [← touched.countLines] at looked
    have added : 0 ≤ qty := by
      have sourceNonneg := each source (List.mem_of_find?_eq_some looked)
      rwa [CountNonneg, floatOrError_asFloat read] at sourceNonneg
    have held : 0 ≤ asFloat (old.get "counted_qty") := each old line.mem
    refine each.updated line ?_
    rw [CountNonneg, counted]
    exact add_nonneg held added
  source := by
    intro t t' source _ each step
    obtain ⟨f, stamped, old, new, line, kept⟩ := mergeSource_effect step
    refine each.updated line ?_
    rw [CountNonneg, Doc.get_congr (kept _ (by decide))]
    exact each old line.mem

/-- What an operation needs of the store it runs on. -/
def KeepsCounts (s : Store) (op : Env × CountOp) : Prop :=
  match op.2 with
  | .addQuantity _ lineId change => ∀ line old, findCountLine s lineId = some line →
      s.countLines.find? (versionedLineFilter line).holds = some old →
      0 ≤ asFloat (old.get "counted_qty") + change.qty.getD 0
  | .update _ _ change => ∀ qty, change.qty = some qty → 0 ≤ qty
  | _ => True

theorem countNonneg_step {op : Env × CountOp} (each : EachLine CountNonneg s)
    (meets : KeepsCounts s op) : EachLine CountNonneg (CountOp.step s op) := by
  have free := ofLines_eachLine CountNonneg
  obtain ⟨env, op⟩ := op
  cases op with
  | create user body =>
    refine final_createCountLine free ⟨?_, ?_⟩ each
    · intro t t' session a target document _ _ _ _ built eachT step
      have facts := buildCountLineDocument_ok built
      exact insert_nonneg eachT facts.noId (by simp [Doc.has, facts.counted]) step
    · intro t t' session document old _ eachT step
      exact supersede_nonneg eachT rfl step
  | addQuantity user lineId change =>
    refine final_addQuantityToCountLine free each ?_
    intro t t' line session touched found eachT _ step
    refine addQuantity_nonneg eachT (fun old present => ?_) step
    rw [touched.countLines] at present
    exact meets line old found present
  | update user lineId change =>
    refine final_updateCountLine free each ?_
    intro t t' line session fields _ _ eachT fieldsEq step
    exact updateCountLine_nonneg eachT meets fieldsEq step
  | merge user sourceIds targetId =>
    exact final_mergeRounds free each fun _ _ _ _ _ _ => mergeKeeps_nonneg
  | syncBatch rackOwner user records =>
    refine final_syncBatch free ?_ each
    intro entry member t t' session floorId rackId locationId countedAt updatedAt _ _ _ eachT step
    exact insert_nonneg eachT rfl rfl step
  | resolve conflictId resolvedBy resolution merged =>
    refine final_resolveConflict free ⟨?_, ?_⟩ each
    · intro t t' conflict data line fields _ _ _ _ present fieldsEq eachT step
      exact resolved_nonneg eachT present fieldsEq step
    · intro t items conflict data _ _ _ _ eachT
      exact eachT

/-- Along every run whose operations meet the condition no line holds a negative
quantity. -/
theorem counts_nonneg_of_run {first last : Store} (init : EachLine CountNonneg first)
    (run : Reaches CountOp.step KeepsCounts first last) :
    ∀ line ∈ last.countLines, 0 ≤ asFloat (line.get "counted_qty") :=
  run.invariant init fun _ _ each meets => countNonneg_step each meets

theorem counts_nonneg_after_removal :
    (countThen (.addQuantity counter "line-new" { qty := some (-4) })).countLines.map
      (fun line => line.get "counted_qty") = [.num 6] ∧
    ∀ line ∈ (countThen (.addQuantity counter "line-new" { qty := some (-4) })).countLines,
      0 ≤ asFloat (line.get "counted_qty") := by
  have init : EachLine CountNonneg countingStore := by
    intro line member
    cases member
  refine ⟨by decide +kernel, counts_nonneg_of_run init (.next _ (.next _ .start trivial) ?_)⟩
  intro line old found present
  have stored : (CountOp.step countingStore (standaloneEnv, .create counter exactCount)).countLines.map
      (fun line => asFloat (line.get "counted_qty")) = [10] := by
    decide +kernel
  obtain ⟨only, lines, counted⟩ := List.map_eq_singleton_iff.mp stored
  have member := List.mem_of_find?_eq_some present
  rw [lines, List.mem_singleton] at member
  rw [member, counted]
  decide +kernel

/-- A count of 10, and 12 taken away. -/
theorem counts_negative_after_removal :
    Reaches CountOp.step (fun _ _ => True) countingStore
      (countThen (.addQuantity counter "line-new" { qty := some (-12) })) ∧
    EachLine CountNonneg countingStore ∧
    ¬ ∀ line ∈ (countThen (.addQuantity counter "line-new" { qty := some (-12) })).countLines,
      0 ≤ asFloat (line.get "counted_qty") := by
  refine ⟨.next _ (.next _ .start trivial) trivial, ?_, ?_⟩
  · intro line member
    cases member
  · intro nonneg
    have stored : (countThen (.addQuantity counter "line-new" { qty := some (-12) })).countLines.map
        (fun line => asFloat (line.get "counted_qty")) = [-2] := by
      decide +kernel
    obtain ⟨line, lines, counted⟩ := List.map_eq_singleton_iff.mp stored
    have held := nonneg line (by rw [lines]; simp)
    rw [counted] at held
    revert held
    decide +kernel

end StockVerification
