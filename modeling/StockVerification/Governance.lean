import StockVerification.Variance
import StockVerification.Quantity

/-!
# Governance of count-line documents

Source: backend/services/count_lines/governance.py:197-423 and
backend/services/count_lines/write_core.py:683-970.

`evaluateGovernanceForDocument` resolves the item and the frozen baseline of the
session and runs the threshold policy; `authoritativeFields` are the fields the
write core then stamps on the document.
-/
namespace StockVerification

open Foundation

/-- `CountLineGovernanceModeProfile` by mode. -/
inductive GovernanceMode where
  | activeSession
  | mutableSession
  | finalization
  | repair
  deriving DecidableEq, Repr

def GovernanceMode.requireActiveSession : GovernanceMode → Bool
  | .activeSession => true
  | _ => false

def GovernanceMode.requireFullContext : GovernanceMode → Bool
  | .activeSession => true
  | .mutableSession => true
  | _ => false

inductive StateTransition where
  | verify
  | unverify
  | approve
  | reject
  deriving DecidableEq, Repr

/-- The context a caller hands to the write core; the defaults are the source's. -/
structure WriteContext where
  session : Option Doc := none
  sessionId : Value := .null
  sessionIds : List String := []
  candidateLines : Option (List Doc) := none
  governanceMode : GovernanceMode := .activeSession
  username : String := ""
  itemCode : Value := .null
  erpItem : Option Doc := none
  location : Value := .null
  varianceReason : Value := .null
  correctionReason : Option Value := none
  requireCorrectionReason : Bool := false
  setStatusFromGovernance : Bool := true
  skipSessionTotalsUpdate : Bool := false
  skipProjectionSync : Bool := false
  expectedSessionVersion : Option Int := none
  transition : Option StateTransition := none
  transitionNote : Value := .null
  approvalNote : Value := .null
  rejectionReason : Value := .null
  assignedTo : Value := .null
  markVerifiedOnApproval : Bool := false
  markRecountRequested : Bool := true
  allowMissingSession : Bool := false
  enforceSnapshot : Bool := true
  repairSkipValidation : Bool := false

/-- `item_index`: the last snapshot row of a code counts, blank codes are skipped. -/
def snapshotItemQty (snapshot : Doc) (itemCode : String) : Option ℚ :=
  match snapshot.get "items" with
  | .rows rows =>
    (rows.reverse.find? fun row =>
      let code := Text.strip ((row.lookup "item_code").getD .null).toValue.textOrEmpty
      code != "" && code == itemCode).map fun row =>
        asFloat ((row.lookup "stock_qty").getD .null).toValue
  | _ => none

/-- `float(value or 0)`. -/
def floatOrError (value : Value) : Except Error ℚ :=
  match value.numberOrZero with
  | some q => .ok q
  | none => .error (.value "could not convert string to float")

/-- `resolve_baseline`: the session's snapshot, where an absent item counts as
zero, else the legacy snapshot of the item. -/
def resolveBaseline (s : Store) (sessionId itemCode : String) : Except Error (ℚ × String) :=
  match s.sessionSnapshots.find? (Filter.eq "session_id" (.str sessionId)).holds with
  | some snapshot =>
    let hash := Text.strip (snapshot.get "snapshot_hash").textOrEmpty
    match snapshotItemQty snapshot itemCode with
    | some qty => .ok (qty, if hash != "" then hash else "SESSION_SNAPSHOT")
    | none => .ok (0, if hash != "" then hash else "SESSION_SNAPSHOT_MISS")
  | none =>
    match s.stockSnapshots.find? (Filter.both (.eq "session_id" (.str sessionId))
        (.eq "item_code" (.str itemCode))).holds with
    | some legacy => do
      let qty ← floatOrError (legacy.get "erp_qty")
      pure (qty, ((legacy.get "baseline_hash").orElse (.str "STOCK_SNAPSHOT")).text)
    | none => .error (.http 409 "Baseline snapshot missing for session/item. Write blocked.")

/-- The quantity a session's baseline freezes for an item, if it has a baseline. -/
def frozenQty (s : Store) (sessionId itemCode : String) : Option ℚ :=
  match resolveBaseline s sessionId itemCode with
  | .ok baseline => some baseline.1
  | .error _ => none

/-- The six barcode fields of an item. -/
def barcodeFilter (barcode : String) : Filter :=
  .either (.eq "barcode" (.str barcode)) (.either (.eq "manual_barcode" (.str barcode))
    (.either (.eq "carton_barcode" (.str barcode)) (.either (.eq "pack_barcode" (.str barcode))
      (.either (.eq "unit_barcode" (.str barcode)) (.eq "alternate_barcodes" (.str barcode))))))

/-- The item of a document: the caller's, else by barcode, else by code, else none. -/
def resolveErpItem (s : Store) (given : Option Doc) (document : Doc) (itemCode : String) : Doc :=
  match given with
  | some item => item
  | none =>
    let barcode := Text.strip (document.get "barcode").textOrEmpty
    let byBarcode := if barcode != "" then s.erpItems.find? (barcodeFilter barcode).holds else none
    (byBarcode.or (s.erpItems.find? (Filter.eq "item_code" (.str itemCode)).holds)).getD Doc.empty

def governedItemCode (document : Doc) (ctx : WriteContext) : String :=
  Text.strip ((document.get "item_code").orElse ctx.itemCode).textOrEmpty

def governedSessionId (document : Doc) (ctx : WriteContext) : String :=
  Text.strip ((document.get "session_id").orElse ctx.sessionId).textOrEmpty

/-- An item that the quantity rules are checked against: any stored one. -/
def itemKnown (s : Store) (ctx : WriteContext) (document : Doc) (itemCode : String) : Bool :=
  ctx.erpItem.isSome || s.erpItems.any (Filter.eq "item_code" (.str itemCode)).holds ||
    (Text.strip (document.get "barcode").textOrEmpty != "" &&
      s.erpItems.any (barcodeFilter (Text.strip (document.get "barcode").textOrEmpty)).holds)

/-- The expected quantity and the document with its baseline fields. -/
def stampBaseline (s : Store) (document erpItem : Doc) (sessionId itemCode : String) :
    Except Error (ℚ × Doc) :=
  if sessionId != "" then do
    let (qty, hash) ← resolveBaseline s sessionId itemCode
    pure (qty, (document.set "erp_qty" (.num qty)).set "baseline_hash" (.str hash))
  else do
    let stated ← floatOrError (document.get "erp_qty")
    if stated = 0 then
      let stock ← floatOrError (erpItem.get "stock_qty")
      pure (stock, document.setDefault "erp_qty" (.num stock))
    else pure (stated, document)

structure Evaluation where
  decision : GovernanceDecision
  erpItem : Doc
  document : Doc

def evaluateGovernanceForDocument (s : Store) (ctx : WriteContext) (document : Doc) :
    Except Error Evaluation := do
  let itemCode := governedItemCode document ctx
  require (itemCode != "") (.http 409 "Count line is missing item_code")
  let counted ← floatOrError (document.get "counted_qty")
  require (decide (0 ≤ counted)) (.http 400 "Negative quantity is not allowed")
  require (document.get "remark").truthy (.http 400 "Item remark is mandatory")
  let _ ← floatOrError (document.get "erp_qty")
  let erpItem := resolveErpItem s ctx.erpItem document itemCode
  if itemKnown s ctx document itemCode then
    let _ ← normalizeQuantityForItem erpItem document
  let (expected, stamped) ← stampBaseline s document erpItem (governedSessionId document ctx) itemCode
  let decision ← evaluatePolicy s.varianceThresholdConfigs
    { countedQty := counted, expectedQty := expected, item := erpItem
      location := ctx.location.orElse (stamped.get "floor_no")
      varianceReason := ctx.varianceReason.orElse (stamped.get "variance_reason")
      correctionReason := ctx.correctionReason.getD (stamped.get "correction_reason")
      requireCorrectionReason := ctx.requireCorrectionReason }
  pure { decision := decision, erpItem := erpItem, document := stamped }

/-- The first place an item's own record names, upper case. -/
def expectedPlace (item : Doc) (field fieldNo : String) : String :=
  let nested (key : String) : Value := match item.get "source_data" with
    | .dict entries => ((entries.lookup key).getD .null).toValue
    | _ => .null
  Text.upper (Text.strip ((item.get field).orElse ((item.get fieldNo).orElse
    ((nested field).orElse (nested fieldNo)))).textOrEmpty)

def isMisplaced (document item : Doc) : Bool :=
  let expectedFloor := expectedPlace item "floor" "floor_no"
  let expectedRack := expectedPlace item "rack" "rack_no"
  let foundFloor := Text.upper (Text.strip (document.get "floor_no").textOrEmpty)
  let foundRack := Text.upper (Text.strip (document.get "rack_no").textOrEmpty)
  (foundFloor != "" && expectedFloor != "" && foundFloor != expectedFloor) ||
    (foundRack != "" && expectedRack != "" && foundRack != expectedRack)

def variancePercent (variance counted expected : ℚ) : ℚ :=
  if 0 < expected then |variance| / expected * 100 else if counted = 0 then 0 else 100

def statesOne (names : List String) (document : Doc) : Bool :=
  names.any fun name => (document.get name).truthy

def reasonNames : List String := ["correction_reason", "variance_reason"]

def photoNames : List String := ["photo_base64", "photo_proofs"]

/-- The flags with what they are raised on, in the order of their names. -/
def raisedFlags (misplaced reasoned photographed serialized strict : Bool)
    (variance percent price change : ℚ) : List (String × Bool) :=
  [("HIGH_VALUE_VARIANCE", decide (10000 < price) && decide (5 < percent)),
    ("LARGE_VARIANCE", decide (100 < |variance|) || decide (50 < percent)),
    ("MISPLACED_ITEM", misplaced),
    ("MISSING_CORRECTION_REASON", variance != 0 && !reasoned),
    ("MRP_CHANGE_WITHOUT_REASON", decide (5 < |change|) && !reasoned),
    ("MRP_REDUCED_SIGNIFICANTLY", decide (change < -20)),
    ("PHOTO_PROOF_REQUIRED", (decide (100 < |variance|) || decide (50 < percent) || decide (20 < |change|) ||
      decide (10000 < price)) && !photographed),
    ("SERIAL_MISSING_HIGH_VALUE", decide (5000 < price) && !serialized),
    ("STRICT_MODE_VARIANCE", strict && variance != 0)]

/-- `_collect_risk_flags`. -/
def collectRiskFlags (document item : Doc) (strict : Bool) (variance counted expected mrpErp
    mrpCounted : ℚ) : List String :=
  let mrpChange := if 0 < mrpErp then (mrpCounted - mrpErp) / mrpErp * 100 else 0
  let flags := raisedFlags (isMisplaced document item) (statesOne reasonNames document) (statesOne photoNames document)
    (document.get "serial_numbers").truthy strict variance (variancePercent variance counted expected) mrpErp mrpChange
  (flags.filter (·.2)).map (·.1)

/-- The placement fields `_collect_risk_flags` writes on the document. -/
def placementFields (document item : Doc) : List (String × Value) :=
  if isMisplaced document item then
    [("is_misplaced", .bool true),
      ("expected_location", .str (expectedPlace item "floor" "floor_no" ++ "/" ++
        expectedPlace item "rack" "rack_no")),
      ("found_location", .str (Text.upper (Text.strip (document.get "floor_no").textOrEmpty) ++
        "/" ++ Text.upper (Text.strip (document.get "rack_no").textOrEmpty))),
      ("relocation_status", (document.get "relocation_status").orElse (.str "PENDING"))]
  else [("is_misplaced", .bool (document.get "is_misplaced").truthy)]

/-- The governance's own verdict fields. -/
def decisionFields (env : Env) (ctx : WriteContext) (d : GovernanceDecision) :
    List (String × Value) :=
  [("variance", .num d.variance), ("approval_status", .str d.approvalStatus),
    ("approved_at", d.approvedAt env.now), ("approved_by", d.approvedBy),
    ("requires_supervisor_approval", .bool d.requiresSupervisorApproval),
    ("variance_data", d.varianceData.toValue),
    ("violated_thresholds", .rows d.violatedThresholds)] ++
  if ctx.setStatusFromGovernance then [("status", .str d.status)] else []

/-- `_apply_review_reset_fields`. -/
def reviewResetFields (target : Doc) : List (String × Value) :=
  [("assigned_to", .null), ("recount_requested_at", .null), ("recount_requested_by", .null),
    ("rejected_at", .null), ("rejected_by", .null), ("rejection_reason", .null),
    ("verified", .bool false), ("verified_at", .null), ("verified_by", .null)] ++
  if target.has "approval_note" then [("approval_note", .null)] else []

def descriptiveFields (target item : Doc) (strict : Bool) (variance : ℚ) : List (String × Value) :=
  let counted := asFloat (target.get "counted_qty")
  let expected := asFloat (target.get "erp_qty")
  let mrpErp := asFloat ((target.get "mrp_erp").orElse ((item.get "mrp").orElse
    ((item.get "sale_price").orElse (item.get "sales_price"))))
  let mrpCounted := asFloat ((target.get "mrp_counted").orElse ((target.get "counted_mrp").orElse
    ((target.get "mrp").orElse (.num mrpErp))))
  let sqlQty := if item.get "stock_qty" = .null ∨ item.get "stock_qty" = .str "" then expected
    else ((item.get "stock_qty").number).getD expected
  [("item_name", (target.get "item_name").orElse ((item.get "item_name").orElse (.str "Unknown"))),
    ("current_sql_qty", .num sqlQty), ("erp_drift", .num (sqlQty - expected)),
    ("final_gap", .num (counted - sqlQty)), ("mrp_erp", .num mrpErp),
    ("mrp_counted", .num mrpCounted),
    ("financial_impact", .num (mrpCounted * counted - mrpErp * expected)),
    ("risk_flags", .list ((collectRiskFlags target item strict variance counted expected mrpErp
      mrpCounted).map .str))] ++
  (if !(target.get "barcode").truthy && (item.get "barcode").truthy then
    [("barcode", item.get "barcode")] else []) ++
  placementFields target item

/-- `_apply_authoritative_fields`: no field is named twice. -/
def applyAuthoritativeFields (env : Env) (ctx : WriteContext) (session : Option Doc)
    (target : Doc) (d : GovernanceDecision) (item : Doc) : Doc :=
  let strict := Text.upper (((session.getD Doc.empty).get "type").textOrEmpty) == "STRICT"
  target.setAll (decisionFields env ctx d ++ reviewResetFields target ++
    descriptiveFields target item strict d.variance)

end StockVerification
