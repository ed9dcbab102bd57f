import StockVerification.VarianceInvariant

/-!
# Automatic approval

A line approved by `system` was within the variance thresholds when the write core
decided on it. The decision is made again by inserts and by `update_one` with a new
quantity only: `add_quantity_to_count_line`, `update_count_line` and
`merge_count_lines` change the quantity of an approved line and keep the approval.
-/
namespace StockVerification

open Foundation Foundation.Action

/-- Everything that changes count lines. -/
inductive LineOp where
  | count (op : CountOp)
  | recount (user : User) (recountId : String) (notes : Option String) (resultQty : Option ℚ)
  | review (user : User) (lineId : String) (decision : ReviewDecision)
  | delete (user : User) (lineId : String)
  | finalize (hasFinalizer : Bool) (sessionId actor : String) (note : Option String)

/-- The store after one operation, successful or not. -/
def LineOp.step (s : Store) (op : Env × LineOp) : Store :=
  match op.2 with
  | .count counted => CountOp.step s (op.1, counted)
  | .recount user recountId notes resultQty =>
      (completeRecount op.1 user recountId notes resultQty).final s
  | .review user lineId decision => (reviewCountLine op.1 user lineId decision).final s
  | .delete user lineId => (deleteCountLine op.1 user lineId).final s
  | .finalize hasFinalizer sessionId actor note =>
      (finalizeSessionCanonical op.1 hasFinalizer sessionId actor note).final s

def IsAutoApproved (line : Doc) : Prop :=
  line.get "approval_status" = .str "APPROVED" ∧ line.get "approved_by" = .str "system"

def lineItem (s : Store) (line : Doc) : Doc :=
  resolveErpItem s none line (Text.strip (line.get "item_code").textOrEmpty)

/-- The threshold check on a line with its present count and expected quantity. -/
def requiresApproval (s : Store) (line : Doc) : Except Error Bool :=
  (checkThresholds s.varianceThresholdConfigs
    (calculateVariance (asFloat (line.get "counted_qty")) (asFloat (line.get "erp_qty"))
      (resolveUnitPrice (lineItem s line)))
    ((lineItem s line).get "category") (line.get "floor_no")).map Prod.fst

/-- The barcode of every item leads to an item of its price and category. -/
def BarcodesResolve (s : Store) : Prop :=
  ∀ item ∈ s.erpItems, (item.get "barcode").truthy = true →
    ∃ found, Text.strip (item.get "barcode").textOrEmpty ≠ "" ∧
      s.erpItems.find? (barcodeFilter (Text.strip (item.get "barcode").textOrEmpty)).holds = some found ∧
      resolveUnitPrice found = resolveUnitPrice item ∧ found.get "category" = item.get "category"

/-- What the run maintains of a line: it also belongs to a session. -/
structure LineApproval (s : Store) (line : Doc) : Prop where
  sessioned : Text.strip (line.get "session_id").textOrEmpty ≠ ""
  within : IsAutoApproved line → requiresApproval s line = .ok false

structure ApprovalSound (s : Store) : Prop where
  barcodes : BarcodesResolve s
  lines : ∀ line ∈ s.countLines, LineApproval s line

variable {s : Store}

theorem requiresApproval_congr {a b : Doc} (erp : b "erp_qty" = a "erp_qty")
    (counted : asFloat (b.get "counted_qty") = asFloat (a.get "counted_qty"))
    (item : b "item_code" = a "item_code") (barcode : b "barcode" = a "barcode")
    (floor : b "floor_no" = a "floor_no") : requiresApproval s b = requiresApproval s a := by
  have sameItem : lineItem s b = lineItem s a := by
    simp only [lineItem, resolveErpItem, Doc.get_congr item, Doc.get_congr barcode]
  simp only [requiresApproval, sameItem, counted, Doc.get_congr erp, Doc.get_congr floor]

variable {t : Store}

theorem requiresApproval_store (items : t.erpItems = s.erpItems)
    (configs : t.varianceThresholdConfigs = s.varianceThresholdConfigs) (line : Doc) :
    requiresApproval t line = requiresApproval s line := by
  simp only [requiresApproval, lineItem, resolveErpItem, items, configs]

variable {line : Doc}

theorem LineApproval.store (approval : LineApproval s line) (items : t.erpItems = s.erpItems)
    (configs : t.varianceThresholdConfigs = s.varianceThresholdConfigs) : LineApproval t line := by
  refine ⟨approval.sessioned, fun auto => ?_⟩
  rw [requiresApproval_store items configs]
  exact approval.within auto

def decidedNames : List String := ["erp_qty", "item_code", "barcode", "floor_no"]

variable {old new : Doc}

theorem LineApproval.recounted (approval : LineApproval s old)
    (session : new "session_id" = old "session_id")
    (within : IsAutoApproved new → requiresApproval s new = .ok false) : LineApproval s new := by
  refine ⟨?_, within⟩
  rw [Doc.get_congr session]
  exact approval.sessioned

theorem LineApproval.congr (approval : LineApproval s old)
    (kept : ∀ field ∈ "session_id" :: "approval_status" :: "approved_by" :: decidedNames, new field = old field)
    (counted : asFloat (new.get "counted_qty") = asFloat (old.get "counted_qty")) : LineApproval s new := by
  refine approval.recounted (kept _ (by decide)) fun auto => ?_
  rw [requiresApproval_congr (kept _ (by decide)) counted (kept _ (by decide)) (kept _ (by decide))
    (kept _ (by decide))]
  refine approval.within ?_
  rwa [IsAutoApproved, Doc.get_congr (kept "approval_status" (by decide)),
    Doc.get_congr (kept "approved_by" (by decide))] at auto

theorem ofLines_approvalSound : OfLines ApprovalSound := by
  rintro s t ⟨_, _, _, _, _, _, rfl⟩ sound
  exact ⟨sound.barcodes, fun line member => (sound.lines line member).store rfl rfl⟩

variable {f : Filter}

theorem ApprovalSound.updated (sound : ApprovalSound s) {u : Update}
    (line : UpdatedLine f u s t old new) (newSound : LineApproval s new) : ApprovalSound t := by
  rw [line.stored]
  refine ⟨sound.barcodes, fun other member => ?_⟩
  rcases Collection.mem_replaceFirst member with kept | rfl
  · exact (sound.lines other kept).store rfl rfl
  · exact newSound.store rfl rfl

variable {document : Doc}

theorem resolveErpItem_mem {code : String}
    (known : ((resolveErpItem s none document code).get "barcode").truthy = true) :
    resolveErpItem s none document code ∈ s.erpItems := by
  simp only [resolveErpItem] at known ⊢
  generalize foundEq : (if (Text.strip (document.get "barcode").textOrEmpty != "") = true then
    s.erpItems.find? (barcodeFilter (Text.strip (document.get "barcode").textOrEmpty)).holds
    else none) = byBarcode at known ⊢
  cases byBarcode with
  | some item =>
    split at foundEq
    · exact List.mem_of_find?_eq_some foundEq
    · cases foundEq
  | none =>
    cases byCode : s.erpItems.find? (Filter.eq "item_code" (.str code)).holds with
    | some item => exact List.mem_of_find?_eq_some byCode
    | none =>
      rw [byCode] at known
      simp [Doc.get_eq] at known

theorem resolveErpItem_byBarcode {found : Doc} {code : String}
    (nonblank : Text.strip (document.get "barcode").textOrEmpty ≠ "")
    (lookup : s.erpItems.find? (barcodeFilter (Text.strip (document.get "barcode").textOrEmpty)).holds = some found) :
    resolveErpItem s none document code = found := by
  simp only [resolveErpItem]
  rw [if_pos (by simpa using nonblank), lookup]
  rfl

/-- A line that keeps its barcode, or takes the one of its item, is decided at the same
price and category. -/
theorem lineItem_pricing (barcodes : BarcodesResolve s)
    (item : line.get "item_code" = document.get "item_code")
    (barcode : line.get "barcode" = document.get "barcode" ∨ line.get "barcode" = (lineItem s document).get "barcode" ∧
      ((lineItem s document).get "barcode").truthy = true) :
    resolveUnitPrice (lineItem s line) = resolveUnitPrice (lineItem s document) ∧
      (lineItem s line).get "category" = (lineItem s document).get "category" := by
  rcases barcode with same | ⟨taken, known⟩
  · have sameItem : lineItem s line = lineItem s document := by
      simp only [lineItem, resolveErpItem, item, same]
    rw [sameItem]
    exact ⟨rfl, rfl⟩
  · have stored : lineItem s document ∈ s.erpItems := resolveErpItem_mem known
    obtain ⟨found, nonblank, lookup, price, category⟩ := barcodes _ stored known
    have lineFound : lineItem s line = found :=
      resolveErpItem_byBarcode (by rwa [taken]) (by rwa [taken])
    rw [lineFound]
    exact ⟨price, category⟩

/-- The context of a write that leaves the decision to the write core. -/
structure DecidedByCore (ctx : WriteContext) : Prop where
  itemCode : ctx.itemCode = .null
  erpItem : ctx.erpItem = none
  location : ctx.location = .null

theorem floatOrError_asFloat {v : Value} {q : ℚ} (read : floatOrError v = .ok q) : asFloat v = q := by
  unfold floatOrError at read
  split at read
  · next known =>
    rw [← Except.ok.inj read]
    exact asFloat_of_numberOrZero known
  · cases read

variable {ctx : WriteContext}

/-- A line that carries what governance decided on is within the thresholds, if it was
approved by the system. -/
theorem within_of_evaluated (barcodes : BarcodesResolve s) (core : DecidedByCore ctx)
    {e : Evaluation} (sessioned : Text.strip (document.get "session_id").textOrEmpty ≠ "")
    (evaluated : evaluateGovernanceForDocument s ctx document = .ok e)
    (approver : line.get "approved_by" = e.decision.approvedBy)
    (counted : line.get "counted_qty" = document.get "counted_qty")
    (erp : ∀ q, e.document "erp_qty" = some (.num q) → line.get "erp_qty" = .num q)
    (item : line.get "item_code" = document.get "item_code") (floor : line.get "floor_no" = document.get "floor_no")
    (barcode : line.get "barcode" = document.get "barcode" ∨ line.get "barcode" = e.erpItem.get "barcode" ∧
      (e.erpItem.get "barcode").truthy = true) :
    IsAutoApproved line → requiresApproval s line = .ok false := by
  intro auto
  obtain ⟨q, expected, countedEq, itemEq, stamped, decided⟩ :=
    evaluateGovernanceForDocument_ok evaluated
  have code : governedItemCode document ctx = Text.strip (document.get "item_code").textOrEmpty :=
    governedItemCode_plain core.itemCode
  rw [core.erpItem, code] at itemEq
  have sessionId : governedSessionId document ctx ≠ "" := by
    have truthy : (document.get "session_id").truthy = true := by
      by_contra falsy
      refine sessioned ?_
      rw [Value.textOrEmpty, if_neg falsy]
      decide
    rw [governedSessionId, Value.orElse, if_pos truthy]
    exact sessioned
  obtain ⟨_, stampedErp⟩ := stampBaseline_session sessionId stamped
  have stampedFloor : e.document.get "floor_no" = document.get "floor_no" :=
    Doc.get_congr (stampBaseline_other stamped (by decide) (by decide))
  obtain ⟨_, violated, checked⟩ := evaluatePolicy_ok decided
  have notRequired : e.decision.requiresSupervisorApproval = false := by
    cases required : e.decision.requiresSupervisorApproval with
    | false => rfl
    | true =>
      have nobody : line.get "approved_by" = .null := by
        rw [approver, GovernanceDecision.approvedBy, if_pos required]
      rw [auto.2] at nobody
      cases nobody
  have sameItem : e.erpItem = lineItem s document := itemEq
  rw [sameItem] at barcode checked
  obtain ⟨price, category⟩ := lineItem_pricing barcodes item barcode
  have locationEq : ctx.location.orElse (e.document.get "floor_no") = line.get "floor_no" := by
    rw [core.location, stampedFloor, floor]
    rfl
  rw [locationEq, notRequired] at checked
  have countedFloat : asFloat (line.get "counted_qty") = q := by
    rw [counted]
    exact floatOrError_asFloat countedEq
  have erpFloat : asFloat (line.get "erp_qty") = expected := by
    rw [erp expected stampedErp]
    rfl
  rw [requiresApproval, price, category, countedFloat, erpFloat, checked]
  rfl

/-- The barcode after the stamping: the document's own, or its item's. -/
theorem applyAuthoritativeFields_barcode (env : Env) (ctx : WriteContext) (session : Option Doc)
    (target item : Doc) (d : GovernanceDecision) :
    applyAuthoritativeFields env ctx session target d item "barcode" = target "barcode" ∨
      applyAuthoritativeFields env ctx session target d item "barcode" = some (item.get "barcode") ∧
        (item.get "barcode").truthy = true := by
  have unnamed : Doc.ofList (decisionFields env ctx d ++ reviewResetFields target) "barcode" = none := by
    rw [Doc.ofList_append]
    have decided : Doc.ofList (decisionFields env ctx d) "barcode" = none := by
      unfold decisionFields
      split <;> simp
    have reset : Doc.ofList (reviewResetFields target) "barcode" = none := by
      unfold reviewResetFields
      split <;> simp
    rw [decided, reset]
    rfl
  have placed : Doc.ofList (placementFields target item) "barcode" = none := by
    unfold placementFields
    split <;> simp
  have entry : applyAuthoritativeFields env ctx session target d item "barcode" =
      (Doc.ofList (if !(target.get "barcode").truthy && (item.get "barcode").truthy then
        [("barcode", item.get "barcode")] else []) "barcode").or (target "barcode") := by
    simp only [applyAuthoritativeFields, Doc.setAll, Doc.update_apply, Doc.ofList_append, descriptiveFields, placed]
    rw [← Doc.ofList_append, unnamed]
    simp
  rw [entry]
  split
  · next taken =>
    simp only [Bool.and_eq_true] at taken
    exact .inr ⟨by simp, taken.2⟩
  · exact .inl rfl

theorem approvedBy_decided (env : Env) (ctx : WriteContext) (session : Option Doc)
    (target item : Doc) (d : GovernanceDecision) :
    applyAuthoritativeFields env ctx session target d item "approved_by" = some d.approvedBy :=
  applyAuthoritativeFields_decided (by simp [decisionFields])

variable {env : Env}

theorem ApprovalSound.insert (sound : ApprovalSound s) (core : DecidedByCore ctx)
    (noId : document "_id" = none) (sessioned : Text.strip (document.get "session_id").textOrEmpty ≠ "")
    (counted : document.has "counted_qty" = true)
    (step : WriteStep env ctx (.insertOne document) s t) : ApprovalSound t := by
  obtain ⟨p, result, prepared, executed⟩ := step
  obtain ⟨line, inserted, rfl, _, _, _⟩ := insertOne_effect noId prepared executed
  obtain ⟨hash, e, evaluated, fields⟩ := inserted.governed counted
  have kept : ∀ field, field ∉ stampedFields → field ≠ "_id" →
      line.get field = (document.set "semantic_hash" hash).get field := by
    intro field other notId
    refine Doc.get_congr ?_
    rw [inserted.other field other notId, Doc.set_other]
    rintro rfl
    exact other (by decide)
  have session : line.get "session_id" = document.get "session_id" :=
    Doc.get_congr (inserted.other _ (by decide) (by decide))
  have barcode : line.get "barcode" = (document.set "semantic_hash" hash).get "barcode" ∨
      line.get "barcode" = e.erpItem.get "barcode" ∧ (e.erpItem.get "barcode").truthy = true := by
    obtain ⟨_, _, _, _, stamped, _⟩ := evaluateGovernanceForDocument_ok evaluated
    rcases applyAuthoritativeFields_barcode env ctx (resolveSessionDocument s ctx e.document)
      e.document e.erpItem e.decision with same | ⟨taken, known⟩
    · refine .inl (Doc.get_congr ?_)
      rw [fields _ (by decide), same, stampBaseline_other stamped (by decide) (by decide)]
    · exact .inr ⟨Doc.get_of_some (by rw [fields _ (by decide), taken]), known⟩
  have within : IsAutoApproved line → requiresApproval s line = .ok false := by
    refine within_of_evaluated sound.barcodes core ?_ evaluated ?_ (kept _ (by decide) (by decide)) ?_
      (kept _ (by decide) (by decide)) (kept _ (by decide) (by decide)) barcode
    · rwa [Doc.get_congr (Doc.set_other document hash (show "session_id" ≠ "semantic_hash" by decide))]
    · refine Doc.get_of_some ?_
      rw [fields _ (by decide)]
      exact approvedBy_decided ..
    · intro q stamped
      refine Doc.get_of_some ?_
      rw [fields _ (by decide), applyAuthoritativeFields_other (by decide), stamped]
  have lineSound : LineApproval s line := ⟨by rwa [session], within⟩
  refine ⟨sound.barcodes, fun other member => ?_⟩
  simp only [Store.withLines, List.mem_append, List.mem_singleton] at member
  rcases member with old | rfl
  · exact (sound.lines other old).store rfl rfl
  · exact lineSound.store rfl rfl

/-- A governed `update_one` decides anew. -/
theorem LineApproval.governed {checked set : Doc} (barcodes : BarcodesResolve s)
    (approval : LineApproval s old) (core : DecidedByCore ctx) (noErp : checked "erp_qty" = none)
    (noSession : checked "session_id" = none) (governed : GovernedSet env ctx s old checked set)
    (applied : ∀ field, new field = (set field).or (old field)) : LineApproval s new := by
  obtain ⟨e, evaluated, rfl⟩ := governed.evaluated
  have mergedSession : (old.update checked).get "session_id" = old.get "session_id" := by
    refine Doc.get_congr ?_
    rw [Doc.update_apply, noSession]
    rfl
  have kept : ∀ field, field ∉ authoritativeNames → field ≠ "erp_qty" → field ≠ "baseline_hash" →
      new.get field = (old.update checked).get field := by
    intro field other notQty notHash
    refine Doc.get_congr ?_
    rw [applied, applyAuthoritativeFields_other other, copyBaselineFields_other notQty notHash]
    rfl
  have barcode : new.get "barcode" = (old.update checked).get "barcode" ∨
      new.get "barcode" = e.erpItem.get "barcode" ∧ (e.erpItem.get "barcode").truthy = true := by
    rcases applyAuthoritativeFields_barcode env ctx (resolveSessionDocument s ctx e.document)
      (copyBaselineFields e.document checked) e.erpItem e.decision with same | ⟨taken, known⟩
    · refine .inl (Doc.get_congr ?_)
      rw [applied, same, copyBaselineFields_other (by decide) (by decide)]
      rfl
    · exact .inr ⟨Doc.get_of_some (by rw [applied, taken]; rfl), known⟩
  refine ⟨?_, ?_⟩
  · rw [kept _ (by decide) (by decide) (by decide), mergedSession]
    exact approval.sessioned
  · refine within_of_evaluated barcodes core ?_ evaluated ?_
      (kept _ (by decide) (by decide) (by decide)) ?_ (kept _ (by decide) (by decide) (by decide))
      (kept _ (by decide) (by decide) (by decide)) barcode
    · rw [mergedSession]
      exact approval.sessioned
    · refine Doc.get_of_some ?_
      rw [applied, approvedBy_decided]
      rfl
    · intro expected stamped
      refine Doc.get_of_some ?_
      rw [applied, applyAuthoritativeFields_other (by decide), copyBaselineFields_erp noErp stamped]
      rfl

/-- With the quantity the line would still need no approval, if the system approved it. -/
def StaysWithin (s : Store) (line : Doc) (qty : ℚ) : Prop :=
  IsAutoApproved line → requiresApproval s (line.set "counted_qty" (.num qty)) = .ok false

/-- A line that changed in its count only. -/
theorem LineApproval.requantified {q : ℚ} (approval : LineApproval s old)
    (kept : ∀ field ∈ "session_id" :: "approval_status" :: "approved_by" :: decidedNames, new field = old field)
    (counted : new.get "counted_qty" = .num q) (stays : StaysWithin s old q) : LineApproval s new := by
  refine approval.recounted (kept _ (by decide)) fun auto => ?_
  have auto' : IsAutoApproved old := by
    rwa [IsAutoApproved, Doc.get_congr (kept "approval_status" (by decide)),
      Doc.get_congr (kept "approved_by" (by decide))] at auto
  have other : ∀ field ∈ decidedNames, new field = old.set "counted_qty" (.num q) field := by
    intro field member
    rw [kept field (by simp [member]), Doc.set_other]
    revert field
    decide
  rw [← stays auto']
  refine requiresApproval_congr (other _ (by decide)) ?_ (other _ (by decide)) (other _ (by decide))
    (other _ (by decide))
  rw [counted, Doc.get_of_some (Doc.set_same _ _ _)]

theorem changed_kept (kept : ∀ field, field ∉ changedNames → new field = old field) :
    ∀ field ∈ "session_id" :: "approval_status" :: "approved_by" :: decidedNames, new field = old field := by
  intro field member
  refine kept field ?_
  revert field
  decide

variable {user : User}

theorem ApprovalSound.added {qty : ℚ} {change : QuantityChange} (sound : ApprovalSound s)
    (stays : ∀ old, s.countLines.find? f.holds = some old → StaysWithin s old (asFloat (old.get "counted_qty") + qty))
    (step : WriteStep env ctx (.findOneAndUpdate f (addQuantityUpdate env user qty change)) s t) :
    ApprovalSound t := by
  obtain ⟨stamped, old, new, line, kept, counted, _⟩ := addQuantity_effect step
  exact sound.updated line ((sound.lines old line.mem).requantified (changed_kept kept) counted
    (stays old line.found))

theorem ApprovalSound.restated {r : Store} {fields : Doc} {change : QuantityChange} (sound : ApprovalSound s)
    (stays : ∀ qty old, change.qty = some qty → s.countLines.find? f.holds = some old → StaysWithin s old qty)
    (fieldsEq : updateCountLineFields env user line change r = .ok fields)
    (step : WriteStep env ctx (.findOneAndUpdate f { set := fields, inc := [("version", 1)] }) s t) :
    ApprovalSound t := by
  obtain ⟨stamped, old, new, updated, kept, unchanged | changed⟩ := updateCountLine_effect fieldsEq step
  · refine sound.updated updated ((sound.lines old updated.mem).congr (changed_kept kept) ?_)
    rw [Doc.get_congr unchanged.2.1]
  · obtain ⟨qty, _, given, _, counted, _⟩ := changed
    exact sound.updated updated ((sound.lines old updated.mem).requantified (changed_kept kept)
      (Doc.get_of_some counted) (stays qty old given updated.found))

def NotAutoApproved (targetId : String) (s : Store) : Prop :=
  ∀ line ∈ s.countLines, (Filter.eq "id" (.str targetId)).holds line → ¬ IsAutoApproved line

variable {targetId : String}

theorem NotAutoApproved.updated {u : Update} (nobody : NotAutoApproved targetId s)
    (line : UpdatedLine f u s t old new) (id : new "id" = old "id")
    (status : new "approval_status" = old "approval_status")
    (approver : new "approved_by" = old "approved_by") : NotAutoApproved targetId t := by
  rw [line.stored]
  intro other member matched
  rcases Collection.mem_replaceFirst member with kept | rfl
  · exact nobody other kept matched
  · rw [IsAutoApproved, Doc.get_congr status, Doc.get_congr approver]
    exact nobody old line.mem (by rwa [← holds_eq_congr id])

/-- What a merge needs: nothing is stored, the target is not approved by the system, or
the sources of its session are empty. -/
def MergeStaysWithin (env : Env) (sourceIds : List String) (targetId : String) (s : Store) : Prop :=
  env.deployment = .transactional ∨ NotAutoApproved targetId s ∨
    ∀ target, s.countLines.find? (Filter.eq "id" (.str targetId)).holds = some target →
      EmptySources sourceIds targetId (target.get "session_id").textOrEmpty s

theorem mergeKeeps_notAutoApproved {sourceId : String} {target targetSession : Doc} :
    MergeKeeps (fun t => ApprovalSound t ∧ NotAutoApproved targetId t) env user targetId sourceId target
      targetSession s where
  target := by
    rintro t t' source qty - - - - - - ⟨sound, nobody⟩ step
    obtain ⟨stamped, old, new, line, kept, _, _⟩ := mergeTarget_effect step
    have later := nobody.updated line (kept _ (by decide)) (kept _ (by decide)) (kept _ (by decide))
    refine ⟨sound.updated line ((sound.lines old line.mem).recounted (kept _ (by decide))
      fun auto => absurd auto ?_), later⟩
    rw [IsAutoApproved, Doc.get_congr (kept "approval_status" (by decide)),
      Doc.get_congr (kept "approved_by" (by decide))]
    exact nobody old line.mem (List.find?_some line.found)
  source := by
    rintro t t' source - ⟨sound, nobody⟩ step
    obtain ⟨f, stamped, old, new, line, kept⟩ := mergeSource_effect step
    refine ⟨sound.updated line ((sound.lines old line.mem).congr ?_ ?_),
      nobody.updated line (kept _ (by decide)) (kept _ (by decide)) (kept _ (by decide))⟩
    · intro field member
      exact kept field (by revert field; decide)
    · rw [Doc.get_congr (kept "counted_qty" (by decide))]

theorem ApprovalSound.merge {sourceIds : List String} (sound : ApprovalSound s)
    (stays : MergeStaysWithin env sourceIds targetId s) :
    ApprovalSound ((mergeCountLines env user sourceIds targetId).final s) := by
  rcases stays with transactional | nobody | empty
  · exact final_mergeTransactional ofLines_approvalSound sound transactional
  · have free : OfLines (NotAutoApproved targetId) := by
      rintro s t ⟨_, _, _, _, _, _, rfl⟩ holds
      exact holds
    exact (final_mergeRounds (ofLines_approvalSound.and free) ⟨sound, nobody⟩
      fun _ _ _ _ _ _ => mergeKeeps_notAutoApproved).1
  · refine final_mergeEmpty ofLines_approvalSound sound empty ?_
    intro f u t t' old new line kept counted soundT
    refine soundT.updated line ((soundT.lines old line.mem).congr ?_ counted)
    intro field member
    exact kept field (by revert field; decide)

theorem ApprovalSound.supersede {username : String} {successor : Doc} (sound : ApprovalSound s)
    (plain : ctx.transition = none)
    (step : WriteStep env ctx (.updateOne f (.ofSet (supersededFields env username successor))) s t) :
    ApprovalSound t := by
  obtain ⟨stamped, old, new, line, kept, _, _⟩ := supersede_effect plain step
  refine sound.updated line ((sound.lines old line.mem).congr ?_ ?_)
  · intro field member
    refine kept field ?_ ?_ <;> (revert field; decide)
  · rw [Doc.get_congr (kept "counted_qty" (by decide) (by decide))]

/-- What a resolution needs of the line it changes: a new quantity, or data that repeats
what the approval rests on. -/
def ResolutionRepeats (line : Doc) (data : List (String × Value)) : Prop :=
  ChangesQuantity line data ∨
    ∀ field ∈ ["approval_status", "approved_by", "item_code", "barcode", "floor_no"],
      ∀ v, data.lookup field = some v → line field = some v

theorem ApprovalSound.resolved {entityId : String} {fields : Doc} {data : List (String × Value)}
    (sound : ApprovalSound s) (found : s.countLines.find? (entityLookup entityId).holds = some line)
    (repeats : ResolutionRepeats line data) (fieldsEq : resolvedLineFields env line data = .ok fields)
    (step : WriteStep env (resolverContext line) (.updateOne (entityLookup entityId) (.ofSet fields)) s t) :
    ApprovalSound t := by
  obtain ⟨u, new, updated, effect⟩ := resolve_effect found fieldsEq step
  have approval := sound.lines line updated.mem
  refine sound.updated updated ?_
  rcases effect with ⟨q, checked, _, named, governed, applied⟩ | ⟨unchanged, counted, fields⟩
  · refine approval.governed sound.barcodes ⟨rfl, rfl, rfl⟩ ?_ ?_ governed applied
    · rw [named _ (by decide) (by decide), if_pos (by decide)]
    · rw [named _ (by decide) (by decide), if_pos (by decide)]
  · have repeated := repeats.resolve_left unchanged
    refine approval.congr ?_ (by rw [Doc.get_congr counted])
    intro field member
    have known : field ∉ reworkedNames ∧ field ≠ "semantic_hash" ∧ (field ∈ blockedLineFields ∨
        field ∈ ["approval_status", "approved_by", "item_code", "barcode", "floor_no"]) := by
      revert field
      decide
    rw [fields field known.1 known.2.1]
    split
    · rfl
    · next free =>
      cases stated : data.lookup field with
      | none => rfl
      | some v => exact (repeated field (known.2.2.resolve_left free) v stated).symm

/-- A review by anyone but the system. -/
theorem ApprovalSound.reviewed {decision : ReviewDecision} (sound : ApprovalSound s)
    (person : user.username ≠ "system" ∨ ∀ notes, decision ≠ .approve notes)
    (step : WriteStep env (reviewContext line) (.updateOne f (.ofSet (Doc.ofList (decision.fields env user line)))) s t) :
    ApprovalSound t := by
  have uncounted : Doc.ofList (decision.fields env user line) "counted_qty" = none := by
    cases decision <;> simp [ReviewDecision.fields]
  obtain ⟨stamped, old, new, updated, applied, _, _⟩ := setOne_effect rfl uncounted step
  have kept : ∀ field ∈ "session_id" :: decidedNames, new field = old field := by
    intro field member
    have absent : Doc.ofList (decision.fields env user line) field = none := by
      simp only [decidedNames, List.mem_cons, List.not_mem_nil, or_false] at member
      cases decision <;> rcases member with rfl | rfl | rfl | rfl | rfl <;> simp [ReviewDecision.fields]
    rw [applied field (by clear absent; revert field; decide), absent]
    rfl
  have sameCount : new "counted_qty" = old "counted_qty" := by
    rw [applied _ (by decide), uncounted]
    rfl
  refine sound.updated updated ((sound.lines old updated.mem).recounted (kept _ (by decide)) fun auto => ?_)
  rw [requiresApproval_congr (kept _ (by decide)) (by rw [Doc.get_congr sameCount])
    (kept _ (by decide)) (kept _ (by decide)) (kept _ (by decide))]
  refine (sound.lines old updated.mem).within ?_
  have status := applied "approval_status" (by decide)
  have approver := applied "approved_by" (by decide)
  cases decision with
  | approve notes =>
    -- the approver is the supervisor
    have named : user.username = "system" := by
      have stored := auto.2
      rw [Doc.get_of_some (approver.trans (by simp [ReviewDecision.fields]; rfl))] at stored
      simpa using stored
    rcases person with other | other
    · exact absurd named other
    · exact absurd rfl (other notes)
  | reject notes assignTo =>
    have stored := auto.1
    rw [Doc.get_of_some (status.trans (by simp [ReviewDecision.fields]; rfl))] at stored
    exact absurd stored (by decide)
  | verify | unverify =>
    have sameStatus : new "approval_status" = old "approval_status" := status
    have sameApprover : new "approved_by" = old "approved_by" := approver
    rwa [IsAutoApproved, Doc.get_congr sameStatus, Doc.get_congr sameApprover] at auto

/-- What an operation needs of the store it runs on. -/
def KeepsApprovals (s : Store) (op : Env × LineOp) : Prop :=
  match op.2 with
  | .count (.create _ body) => Text.strip body.sessionId ≠ ""
  | .count (.addQuantity _ lineId change) => ∀ line old, findCountLine s lineId = some line →
      s.countLines.find? (versionedLineFilter line).holds = some old →
      StaysWithin s old (asFloat (old.get "counted_qty") + change.qty.getD 0)
  | .count (.update _ lineId change) => ∀ qty line old, change.qty = some qty →
      findCountLine s lineId = some line →
      s.countLines.find? (versionedLineFilter line).holds = some old → StaysWithin s old qty
  | .count (.merge _ sourceIds targetId) => MergeStaysWithin op.1 sourceIds targetId s
  | .count (.syncBatch _ _ records) => ∀ entry ∈ records, Text.strip entry.2.sessionId ≠ ""
  | .count (.resolve conflictId _ resolution merged) => ∀ conflict data,
      s.syncConflicts.find? (·.id == Text.lower conflictId) = some conflict →
      resolvedData conflict merged resolution = .ok data → conflict.entityType ≠ "item" ∧
        (conflict.entityType = "count_line" → ∀ line,
          s.countLines.find? (entityLookup conflict.entityId).holds = some line →
          ResolutionRepeats line data)
  | .recount .. => True
  | .review user _ decision => user.username ≠ "system" ∨ ∀ notes, decision ≠ .approve notes
  | .delete .. => True
  | .finalize _ _ actor _ => actor ≠ "system"

theorem StaysWithin.store {qty : ℚ} (stays : StaysWithin s line qty) (touched : OnlySessions s t) :
    StaysWithin t line qty := by
  obtain ⟨_, _, rfl⟩ := touched
  intro auto
  rw [requiresApproval_store rfl rfl]
  exact stays auto

theorem ApprovalSound.create {body : CountLineCreate} (sound : ApprovalSound s)
    (sessioned : Text.strip body.sessionId ≠ "") : ApprovalSound ((createCountLine env user body).final s) := by
  refine final_createCountLine ofLines_approvalSound ⟨?_, ?_⟩ sound
  · intro t t' session a target document _ _ _ _ built soundT step
    have built := buildCountLineDocument_ok built
    refine soundT.insert ⟨rfl, rfl, rfl⟩ built.noId ?_ (by simp [Doc.has, built.counted]) step
    rw [Doc.get_of_some built.session, Value.textOrEmpty_str]
    exact sessioned
  · intro t t' session document old _ soundT step
    exact soundT.supersede rfl step

theorem completionKeeps_approvalSound (env : Env) : CompletionKeeps ApprovalSound env where
  insert := by
    intro t t' username counter qty session existing place successor _ stored built sound step
    have built := recountedLine_ok built
    refine sound.insert ⟨rfl, rfl, rfl⟩ built.noId ?_ (by simp [Doc.has, built.counted]) step
    rw [Doc.get_congr (built.other "session_id" (by decide) (by decide))]
    exact (sound.lines existing stored).sessioned
  supersede := by
    intro t t' username session successor existing _ sound step
    exact sound.supersede rfl step

/-- The bulk lock of a finalization writes its actor's name. -/
theorem ApprovalSound.finalized (sound : ApprovalSound s) (sessionId : String) {actor : String}
    (now : Int) (note : Option String) (person : actor ≠ "system") :
    ApprovalSound (finalizeSessionCountLines sessionId actor now note s) := by
  refine ⟨sound.barcodes, fun line member => ?_⟩
  simp only [finalizeSessionCountLines, Store.withLines, Collection.setMany, List.mem_map] at member
  obtain ⟨old, oldMember, rfl⟩ := member
  refine LineApproval.store (s := s) ?_ rfl rfl
  split
  · have session : old.update (lockedLineFields actor now note) "session_id" = old "session_id" := by
      unfold lockedLineFields
      split <;> (try split) <;> simp
    refine (sound.lines old oldMember).recounted session fun auto => ?_
    have named : (old.update (lockedLineFields actor now note)).get "approved_by" = .str actor :=
      Doc.get_of_some (by simp [lockedLineFields])
    have stored := auto.2
    rw [named] at stored
    exact absurd (Value.str.inj stored) person
  · exact sound.lines old oldMember

theorem ApprovalSound.countStep {op : CountOp} (sound : ApprovalSound s)
    (meets : KeepsApprovals s (env, .count op)) : ApprovalSound (CountOp.step s (env, op)) := by
  cases op with
  | create user body => exact sound.create meets
  | addQuantity user lineId change =>
    refine final_addQuantityToCountLine ofLines_approvalSound sound ?_
    intro t t' line session touched found soundT _ step
    refine soundT.added (fun old present => ?_) step
    exact (meets line old found (by rwa [← touched.countLines])).store touched
  | update user lineId change =>
    refine final_updateCountLine ofLines_approvalSound sound ?_
    intro t t' line session fields touched found soundT fieldsEq step
    refine soundT.restated (fun qty old given present => ?_) fieldsEq step
    exact (meets qty line old given found (by rwa [← touched.countLines])).store touched
  | merge user sourceIds targetId => exact sound.merge meets
  | syncBatch rackOwner user records =>
    refine final_syncBatch ofLines_approvalSound ?_ sound
    intro entry member t t' session floorId rackId locationId countedAt updatedAt _ _ _ soundT step
    refine soundT.insert ⟨rfl, rfl, rfl⟩ rfl ?_ rfl step
    change Text.strip (Value.str entry.2.sessionId).textOrEmpty ≠ ""
    rw [Value.textOrEmpty_str]
    exact meets entry member
  | resolve conflictId resolvedBy resolution merged =>
    refine final_resolveConflict ofLines_approvalSound ⟨?_, ?_⟩ sound
    · intro t t' conflict data line fields same found resolved isLine present fieldsEq soundT step
      refine soundT.resolved present ?_ fieldsEq step
      exact (meets conflict data found resolved).2 isLine line (by rwa [← same.countLines])
    · intro t items conflict data _ found resolved isItem _
      exact absurd isItem (meets conflict data found resolved).1

theorem ApprovalSound.step {op : Env × LineOp} (sound : ApprovalSound s)
    (meets : KeepsApprovals s op) : ApprovalSound (LineOp.step s op) := by
  obtain ⟨env, op⟩ := op
  cases op with
  | count op => exact sound.countStep meets
  | recount user recountId notes resultQty =>
    exact final_completeRecount ofLines_approvalSound (completionKeeps_approvalSound env) sound
  | review user lineId decision =>
    refine final_reviewCountLine ofLines_approvalSound sound ?_
    intro t t' line _ _ soundT step
    exact soundT.reviewed meets step
  | delete user lineId =>
    refine final_deleteCountLine ofLines_approvalSound sound ?_
    intro t t' line _ _ soundT step
    rw [delete_effect rfl step]
    refine ⟨soundT.barcodes, fun other member => ?_⟩
    exact (soundT.lines other (List.mem_of_mem_eraseP member)).store rfl rfl
  | finalize hasFinalizer sessionId actor note =>
    refine final_finalizeSessionCanonical ofLines_approvalSound (fun t soundT => ?_) sound
    exact soundT.finalized sessionId env.now note meets

/-- Along every run whose operations meet the condition, a line the system approved
would still be found to need no approval. -/
theorem autoApproved_within_of_run {first last : Store} (init : ApprovalSound first)
    (run : Reaches LineOp.step KeepsApprovals first last) :
    ∀ line ∈ last.countLines, IsAutoApproved line → requiresApproval last line = .ok false := by
  have sound : ApprovalSound last := run.invariant init fun s op inv meets => inv.step meets
  intro line member auto
  exact (sound.lines line member).within auto

theorem approvalSound_countingStore : ApprovalSound countingStore := by
  refine ⟨?_, nofun⟩
  intro item member _
  simp only [countingStore, List.mem_singleton] at member
  subst member
  refine ⟨_, by decide +kernel, List.find?_cons_of_pos (by decide +kernel), rfl, rfl⟩

theorem reaches_countThen {ok : Store → Env × LineOp → Prop} {op : CountOp}
    (first : ok countingStore (standaloneEnv, .count (.create counter exactCount)))
    (second : ∀ s, ok s (standaloneEnv, .count op)) : Reaches LineOp.step ok countingStore (countThen op) := by
  have counted : Reaches LineOp.step ok countingStore
      (LineOp.step countingStore (standaloneEnv, .count (.create counter exactCount))) :=
    .next _ .start first
  exact .next (standaloneEnv, .count op) counted (second _)

/-- A count that agrees with the baseline, and a change of its batches. -/
def approvedThenBatched : Store :=
  countThen (.update counter "line-new" { qty := none, batches := some (.list []) })

theorem autoApproved_within_batched :
    approvedThenBatched.countLines.map (fun line => (line.get "approval_status",
      line.get "approved_by", line.get "batches")) = [(.str "APPROVED", .str "system", .list [])] ∧
    ∀ line ∈ approvedThenBatched.countLines, IsAutoApproved line →
      requiresApproval approvedThenBatched line = .ok false := by
  refine ⟨by decide +kernel, ?_⟩
  have run : Reaches LineOp.step KeepsApprovals countingStore approvedThenBatched := by
    refine reaches_countThen (by decide +kernel : Text.strip exactCount.sessionId ≠ "") ?_
    intro s qty line old given
    cases given
  exact autoApproved_within_of_run approvalSound_countingStore run

/-- The same count with three pieces added: the line stays approved by the system, and
the check asks for an approval. -/
theorem autoApproved_fails_addition :
    Reaches LineOp.step (fun _ _ => True) countingStore
      (countThen (.addQuantity counter "line-new" { qty := some 3 })) ∧
    ApprovalSound countingStore ∧
    ¬ ∀ line ∈ (countThen (.addQuantity counter "line-new" { qty := some 3 })).countLines,
      IsAutoApproved line →
      requiresApproval (countThen (.addQuantity counter "line-new" { qty := some 3 })) line = .ok false := by
  refine ⟨reaches_countThen trivial fun _ => trivial, approvalSound_countingStore, ?_⟩
  intro within
  have stored : ((countThen (.addQuantity counter "line-new" { qty := some 3 })).countLines.map
      fun line => (line.get "approval_status", line.get "approved_by",
        (requiresApproval (countThen (.addQuantity counter "line-new" { qty := some 3 }))
          line).toOption)) = [(.str "APPROVED", .str "system", some true)] := by
    decide +kernel
  obtain ⟨line, lines, fields⟩ := List.map_eq_singleton_iff.mp stored
  simp only [Prod.mk.injEq] at fields
  obtain ⟨status, approver, required⟩ := fields
  have notRequired := within line (by rw [lines]; simp) ⟨status, approver⟩
  rw [notRequired] at required
  cases required

end StockVerification
