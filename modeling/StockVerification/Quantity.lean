import StockVerification.Totals

/-!
# Quantity and serial rules

Source: backend/services/validation_service.py:18-432.

Decimal places are counted on the exact value. A stored quantity is a decimal of
at most thirty places.
-/
namespace StockVerification

open Foundation

def fractionalUoms : List String :=
  ["KG", "KGS", "L", "LTR", "LTRS", "LITER", "LITRE", "M", "MTR", "METER", "METRE"]

def asBool (value : Value) (default : Bool) : Bool :=
  match value with
  | .null => default
  | .bool b => b
  | v =>
    let normalized := Text.lower (Text.strip v.text)
    if ["1", "true", "yes", "y", "on"].contains normalized then true
    else if ["0", "false", "no", "n", "off", ""].contains normalized then false
    else default

def normalizeString (value : Value) : Option String :=
  if value = .null then none
  else if Text.strip value.text = "" then none
  else some (Text.strip value.text)

def optionalText : Option String → Value
  | some t => .str t
  | none => .null

def normalizeUom (value : Value) : Option String := (normalizeString value).map Text.upper

/-- `_as_decimal`: blank reads as zero, anything that is no number is refused. -/
def asDecimal (value : Value) : Except Error ℚ :=
  match value with
  | .null => .ok 0
  | .num q => .ok q
  | .str s =>
    if s = "" then .ok 0
    else match Text.number s with
      | some q => .ok q
      | none => .error (.governance ("INVALID_QUANTITY: " ++ s))
  | v => .error (.governance ("INVALID_QUANTITY: " ++ v.text))

def decimalPlaces (q : ℚ) : Nat :=
  ((List.range 31).find? fun places => 10 ^ places % q.den == 0).getD 30

/-- Append a serial unless it is blank or known. -/
def addSerial (known : List String) (value : Value) : List String :=
  match normalizeString value with
  | none => known
  | some serial =>
    if known.contains (Text.upper serial) then known else known ++ [Text.upper serial]

/-- `_normalize_serials`: upper case, in order, without repetition. -/
def normalizeSerials (doc : Doc) : List String :=
  let numbers : List Value := match doc.get "serial_numbers" with
    | .list items => items.map Atom.toValue
    | _ => []
  let entries : List Value := match doc.get "serial_entries" with
    | .rows rows => rows.map fun row => ((row.lookup "serial_number").getD .null).toValue
    | _ => []
  (numbers ++ entries).foldl addSerial []

structure NormalizedQuantity where
  countedQty : ℚ
  inputQty : ℚ
  inputUom : Option String
  baseUom : Option String
  conversionFactor : ℚ
  quantityPrecision : Nat
  allowFraction : Bool
  serialNumbers : List String
  isSerialItem : Bool

/-- Whether fractions are allowed, from the item or from the units. -/
def allowsFraction (item doc : Doc) (inputUom baseUom : Option String) (qty : ℚ) : Bool :=
  if item.get "allow_fraction" = .null then
    if inputUom.isSome || baseUom.isSome then
      inputUom.any fractionalUoms.contains || baseUom.any fractionalUoms.contains
    else asBool (doc.get "allow_fraction") false || decide (0 < decimalPlaces qty)
  else asBool (item.get "allow_fraction") false

def normalizeQuantityForItem (item doc : Doc) : Except Error NormalizedQuantity := do
  let qty ← asDecimal (doc.get "counted_qty")
  let inputUom := (normalizeUom (doc.get "input_uom")).or ((normalizeUom (doc.get "uom_code")).or
    ((normalizeUom (doc.get "uom_name")).or ((normalizeUom (item.get "uom_code")).or
      ((normalizeUom (item.get "uom_name")).or (normalizeUom (item.get "uom"))))))
  let baseUom := (normalizeUom (doc.get "base_uom")).or ((normalizeUom (item.get "base_uom")).or
    ((normalizeUom (item.get "uom_code")).or inputUom))
  let factor ← asDecimal ((doc.get "conversion_factor").orElse ((item.get "uom_conversion_factor").orElse (.num 1)))
  require (decide (0 < factor)) (.governance "INVALID_UOM_CONVERSION")
  let allowFraction := allowsFraction item doc inputUom baseUom qty
  let stated := if doc.get "quantity_precision" = .null then item.get "uom_precision"
    else doc.get "quantity_precision"
  let precision ← if stated = .null then
      pure (max (decimalPlaces qty) (if allowFraction then 3 else 0))
    else match stated.integer with
      | some n => pure n.toNat
      | none => Except.error (.value "invalid literal for int()")
  let serials := normalizeSerials doc
  let serialized := asBool (item.get "is_serialized") false
  require (allowFraction || qty.den == 1) (.governance "FRACTION_NOT_ALLOWED")
  require (decide (decimalPlaces qty ≤ precision)) (.governance "PRECISION_EXCEEDED")
  require (allowFraction || (qty * factor).den == 1) (.governance "FRACTION_NOT_ALLOWED")
  require (serials.isEmpty || qty == serials.length) (.governance "SERIAL_QTY_MISMATCH")
  require (!serials.isEmpty || !serialized || qty == 1) (.governance "SERIAL_QTY_MUST_BE_ONE")
  pure { countedQty := qty * factor, inputQty := qty, inputUom := inputUom, baseUom := baseUom
         conversionFactor := factor, quantityPrecision := precision, allowFraction := allowFraction
         serialNumbers := serials, isSerialItem := serialized || !serials.isEmpty }

/-- The item clause of the three serial queries. -/
def serialItemClause (itemCode : Option String) : Filter :=
  match itemCode with
  | some code => .either (.eq "item_id" (.str code)) (.eq "item_code" (.str code))
  | none => .anything

/-- The answer of `find_serial_conflict`. It names the other line, never the
client record that created it. -/
def serialConflictDoc (source serial : String) (found : Doc) (floor rack : Value)
    (lineId : Option String) : Doc :=
  Doc.ofList [("source", .str source), ("serial_no", .str serial),
    ("item_id", found.get "item_id"), ("item_code", found.get "item_code"),
    ("item_name", found.get "item_name"), ("counted_by", found.get "counted_by"),
    ("floor_no", floor), ("rack_no", rack), ("status", found.get "status"),
    ("session_id", found.get "session_id"),
    ("count_line_id", match lineId with | some id => .str id | none => .null)]

/-- `find_serial_conflict`: the registry, then the legacy serials, then the lines. -/
def findSerialConflict (s : Store) (serialNo : Value) (itemCode : Value)
    (currentLineId : Option String) : Option Doc :=
  match normalizeString serialNo with
  | none => none
  | some raw =>
    let serial := Text.upper raw
    let clause := serialItemClause (normalizeString itemCode)
    let registry := (s.serialRegistry.find? (Filter.both (.eq "serial_no" (.str serial))
      clause).holds).bind fun found =>
        let lineId := normalizeString ((found.get "count_line_id").orElse (found.get "line_id"))
        if currentLineId.isNone || lineId != currentLineId then
          some (serialConflictDoc "serial_registry" serial found
            ((found.get "floor_id").orElse (found.get "floor_no"))
            ((found.get "rack_id").orElse (found.get "rack_no")) lineId)
        else none
    let legacy := (s.itemSerials.find? (Filter.both (.eq "serial_number" (.str serial))
      clause).holds).map fun found =>
        serialConflictDoc "item_serials" serial found (found.get "floor_no") (found.get "rack_no")
          (normalizeString (found.get "count_line_id"))
    let lines := (s.countLines.find? (Filter.both
      (.either (.eq "serial_numbers" (.str serial))
        (.inRows "serial_entries" "serial_number" (.str serial))) clause).holds).bind fun found =>
          let lineId := normalizeString ((found.get "id").orElse (found.get "_id"))
          if currentLineId.isNone || lineId != currentLineId then
            some (serialConflictDoc "legacy_count_lines" serial found (found.get "floor_no")
              (found.get "rack_no") lineId)
          else none
    registry.or (legacy.or lines)

/-- `resolve_item_master` for a document that names its item. -/
def resolveItemMaster (s : Store) (doc : Doc) : Doc :=
  let byBarcode := (normalizeString (doc.get "barcode")).bind fun barcode =>
    s.erpItems.find? (Filter.eq "barcode" (.str barcode)).holds
  let byCode := (normalizeString (doc.get "item_code")).bind fun code =>
    s.erpItems.find? (Filter.eq "item_code" (.str code)).holds
  (byBarcode.or byCode).getD Doc.empty

/-- The fields that `enforce_count_line_business_rules` writes into the document. -/
def normalizedFields (item doc : Doc) (n : NormalizedQuantity) (itemCode : Option String) : List (String × Value) :=
  [("item_code", match itemCode with | some code => .str code | none => doc.get "item_code"),
    ("counted_qty", .num n.countedQty), ("input_qty", .num n.inputQty), ("input_uom", optionalText n.inputUom),
    ("base_uom", optionalText n.baseUom), ("uom_code", optionalText ((normalizeUom (item.get "uom_code")).or n.inputUom)),
    ("uom_name", optionalText ((normalizeString (item.get "uom_name")).or n.inputUom)),
    ("conversion_factor", .num n.conversionFactor), ("quantity_precision", .num n.quantityPrecision),
    ("allow_fraction", .bool n.allowFraction),
    ("serial_numbers", if n.serialNumbers.isEmpty then doc.get "serial_numbers"
      else .list (n.serialNumbers.map .str)),
    ("is_serial_item", .bool n.isSerialItem)]

def ruledItemCode (item doc : Doc) : Option String :=
  normalizeString ((doc.get "item_code").orElse ((doc.get "item_id").orElse (item.get "item_code")))

/-- Serial numbers need an item code, and no other line has them. -/
def checkSerials (s : Store) (item doc : Doc) (serials : List String) : Except Error Unit := do
  require (serials.isEmpty || (ruledItemCode item doc).isSome) (.governance "MISSING_ITEM_CODE")
  serials.forM fun serial =>
    require (findSerialConflict s (.str serial)
      (match ruledItemCode item doc with | some code => .str code | none => .null)
      (normalizeString ((doc.get "id").orElse (doc.get "_id")))).isNone
      (.governance ("SERIAL_DUPLICATE: " ++ serial))

/-- `enforce_count_line_business_rules` with its item master. -/
def enforceBusinessRules (s : Store) (item doc : Doc) : Except Error Doc := do
  let normalized ← normalizeQuantityForItem item doc
  checkSerials s item doc normalized.serialNumbers
  pure (doc.setAll (normalizedFields item doc normalized (ruledItemCode item doc)))

/-- `validate_count_line`: the texts of everything wrong with the line. Errors
other than governance violations are not caught by the source. -/
def validateCountLine (s : Store) (doc : Doc) : Except Error (List String) :=
  let missing := ["session_id", "location_id", "floor_id", "rack_id"].filterMap fun field =>
    if (doc.get field).truthy then none else some ("Missing " ++ field)
  let mutableLine := if Text.upper (Text.strip (doc.get "status").textOrEmpty) = "FINALIZED" ∧
    (doc.get "mutable").truthy then ["Finalized line is mutable"] else []
  match enforceBusinessRules s (resolveItemMaster s doc) doc with
  | .ok _ => .ok (missing ++ mutableLine)
  | .error (.governance message) => .ok (missing ++ mutableLine ++ [message])
  | .error e => .error e

end StockVerification
