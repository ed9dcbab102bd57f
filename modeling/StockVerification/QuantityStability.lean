import StockVerification.CountLineRoutes
import StockVerification.Foundation.TextCase

/-!
# Quantities that are checked again

Source: backend/services/validation_service.py:307-432.

The rules write the quantity in base units into the field they read the counted quantity from, next
to the conversion factor, so a second application converts it once more. What else they write reads
the same the second time. Quantities are exact.
-/
namespace StockVerification

open Foundation

/-- The rules applied again and again. -/
def revalidated (s : Store) (item : Doc) : Nat → Doc → Except Error Doc
  | 0, doc => .ok doc
  | times + 1, doc => enforceBusinessRules s item doc >>= revalidated s item times

def readInputUom (item doc : Doc) : Option String :=
  (normalizeUom (doc.get "input_uom")).or ((normalizeUom (doc.get "uom_code")).or
    ((normalizeUom (doc.get "uom_name")).or ((normalizeUom (item.get "uom_code")).or
      ((normalizeUom (item.get "uom_name")).or (normalizeUom (item.get "uom"))))))

def readBaseUom (item doc : Doc) : Option String :=
  (normalizeUom (doc.get "base_uom")).or ((normalizeUom (item.get "base_uom")).or
    ((normalizeUom (item.get "uom_code")).or (readInputUom item doc)))

/-- The factor that the document states, else the item's, else one. -/
def conversionFactor (item doc : Doc) : Except Error ℚ :=
  asDecimal ((doc.get "conversion_factor").orElse ((item.get "uom_conversion_factor").orElse (.num 1)))

def readPrecision (item doc : Doc) (allowFraction : Bool) (qty : ℚ) : Except Error Nat :=
  let stated := if doc.get "quantity_precision" = .null then item.get "uom_precision" else doc.get "quantity_precision"
  if stated = .null then .ok (max (decimalPlaces qty) (if allowFraction then 3 else 0))
  else match stated.integer with
    | some n => .ok n.toNat
    | none => .error (.value "invalid literal for int()")

structure RulesMet (item doc : Doc) (qty factor : ℚ) (allowFraction : Bool) (precision : Nat) : Prop where
  positive : 0 < factor
  whole : allowFraction = true ∨ qty.den = 1
  precise : decimalPlaces qty ≤ precision
  wholeBase : allowFraction = true ∨ (qty * factor).den = 1
  serials : normalizeSerials doc = [] ∨ qty = (normalizeSerials doc).length
  serialized : normalizeSerials doc ≠ [] ∨ asBool (item.get "is_serialized") false = false ∨ qty = 1

/-- What the normalisation answers from the numbers that were read. -/
def normalizedOf (item doc : Doc) (qty factor : ℚ) (precision : Nat) : NormalizedQuantity where
  countedQty := qty * factor
  inputQty := qty
  inputUom := readInputUom item doc
  baseUom := readBaseUom item doc
  conversionFactor := factor
  quantityPrecision := precision
  allowFraction := allowsFraction item doc (readInputUom item doc) (readBaseUom item doc) qty
  serialNumbers := normalizeSerials doc
  isSerialItem := asBool (item.get "is_serialized") false || !(normalizeSerials doc).isEmpty

theorem normalizeQuantityForItem_ok {item doc : Doc} {n : NormalizedQuantity} :
    normalizeQuantityForItem item doc = .ok n ↔ ∃ qty factor precision,
      asDecimal (doc.get "counted_qty") = .ok qty ∧ conversionFactor item doc = .ok factor ∧
      readPrecision item doc (allowsFraction item doc (readInputUom item doc) (readBaseUom item doc) qty) qty =
        .ok precision ∧
      RulesMet item doc qty factor (allowsFraction item doc (readInputUom item doc) (readBaseUom item doc) qty)
        precision ∧
      n = normalizedOf item doc qty factor precision := by
  have unfolded : normalizeQuantityForItem item doc = (do
      let qty ← asDecimal (doc.get "counted_qty")
      let factor ← conversionFactor item doc
      require (decide (0 < factor)) (.governance "INVALID_UOM_CONVERSION")
      let allowFraction := allowsFraction item doc (readInputUom item doc) (readBaseUom item doc) qty
      let precision ← readPrecision item doc allowFraction qty
      require (allowFraction || qty.den == 1) (.governance "FRACTION_NOT_ALLOWED")
      require (decide (decimalPlaces qty ≤ precision)) (.governance "PRECISION_EXCEEDED")
      require (allowFraction || (qty * factor).den == 1) (.governance "FRACTION_NOT_ALLOWED")
      require ((normalizeSerials doc).isEmpty || qty == (normalizeSerials doc).length)
        (.governance "SERIAL_QTY_MISMATCH")
      require (!(normalizeSerials doc).isEmpty || !asBool (item.get "is_serialized") false || qty == 1)
        (.governance "SERIAL_QTY_MUST_BE_ONE")
      pure (normalizedOf item doc qty factor precision)) := by
    unfold normalizeQuantityForItem readPrecision
    dsimp only
    congr 1
    funext qty
    congr 1
    funext factor
    congr 1
    funext _
    generalize (if doc.get "quantity_precision" = .null then item.get "uom_precision"
      else doc.get "quantity_precision") = stated
    by_cases unstated : stated = .null
    · rw [if_pos unstated, if_pos unstated]
      rfl
    · rw [if_neg unstated, if_neg unstated]
      cases stated.integer with
      | none => rfl
      | some n => rfl
  rw [unfolded]
  simp only [bind_success, require_ok, decide_eq_true_eq, Bool.or_eq_true, beq_iff_eq,
    Bool.not_eq_true', List.isEmpty_iff, List.isEmpty_eq_false_iff, exists_const, exists_and_left]
  constructor
  · rintro ⟨qty, counted, factor, states, positive, precision, reads, whole, precise, wholeBase, serials, serialized, same⟩
    cases same
    rw [or_assoc] at serialized
    exact ⟨qty, counted, factor, states, precision, reads, ⟨positive, whole, precise, wholeBase, serials, serialized⟩, rfl⟩
  · rintro ⟨qty, counted, factor, states, precision, reads, met, rfl⟩
    exact ⟨qty, counted, factor, states, met.positive, precision, reads, met.whole, met.precise,
      met.wholeBase, met.serials, (or_assoc.mpr met.serialized), rfl⟩

variable {v : Value} {t : String}

theorem normalizeString_trimmed (read : normalizeString v = some t) :
    t ≠ "" ∧ Text.strip t = t := by
  unfold normalizeString at read
  split at read
  · cases read
  · split at read
    · cases read
    · next filled =>
      rw [← Option.some.inj read]
      exact ⟨filled, Text.strip_strip _⟩

theorem normalizeString_str (filled : t ≠ "") (stripped : Text.strip t = t) :
    normalizeString (.str t) = some t := by
  rw [normalizeString, if_neg (by simp), Value.text, stripped, if_neg filled]

theorem normalizeString_upper (read : normalizeString v = some t) :
    normalizeString (.str (Text.upper t)) = some (Text.upper t) := by
  obtain ⟨filled, stripped⟩ := normalizeString_trimmed read
  apply normalizeString_str (Text.upper_ne_empty filled)
  rw [Text.strip_upper, stripped]

theorem normalizeUom_optionalText (v : Value) : normalizeUom (optionalText (normalizeUom v)) = normalizeUom v := by
  unfold normalizeUom
  cases read : normalizeString v with
  | none => rfl
  | some t =>
    rw [Option.map_some, optionalText, normalizeString_upper read, Option.map_some, Text.upper_upper]

def IsUnit (unit : Option String) : Prop := normalizeUom (optionalText unit) = unit

theorem IsUnit.read (v : Value) : IsUnit (normalizeUom v) := normalizeUom_optionalText v

theorem IsUnit.or {a b : Option String} (first : IsUnit a) (second : IsUnit b) : IsUnit (a.or b) := by
  cases a with
  | none => exact second
  | some t => exact first

theorem isUnit_readInputUom (item doc : Doc) : IsUnit (readInputUom item doc) :=
  (IsUnit.read _).or ((IsUnit.read _).or ((IsUnit.read _).or ((IsUnit.read _).or ((IsUnit.read _).or (IsUnit.read _)))))

theorem isUnit_readBaseUom (item doc : Doc) : IsUnit (readBaseUom item doc) :=
  (IsUnit.read _).or ((IsUnit.read _).or ((IsUnit.read _).or (isUnit_readInputUom item doc)))

def IsSerial (serial : String) : Prop :=
  normalizeString (.str serial) = some serial ∧ Text.upper serial = serial

theorem isSerial_of_read (read : normalizeString v = some t) : IsSerial (Text.upper t) :=
  ⟨normalizeString_upper read, Text.upper_upper t⟩

def listedSerials (doc : Doc) : List Value :=
  match doc.get "serial_numbers" with
  | .list items => items.map Atom.toValue
  | _ => []

def entrySerials (doc : Doc) : List Value :=
  match doc.get "serial_entries" with
  | .rows rows => rows.map fun row => ((row.lookup "serial_number").getD .null).toValue
  | _ => []

theorem normalizeSerials_eq (doc : Doc) :
    normalizeSerials doc = (listedSerials doc ++ entrySerials doc).foldl addSerial [] := rfl

/-- A list of serial numbers as the rules keep it. -/
structure SerialList (serials : List String) : Prop where
  each : ∀ serial ∈ serials, IsSerial serial
  distinct : serials.Nodup

theorem addSerial_cases (known : List String) (v : Value) :
    addSerial known v = known ∧ (∀ t, normalizeString v = some t → Text.upper t ∈ known) ∨
      ∃ t, normalizeString v = some t ∧ Text.upper t ∉ known ∧ addSerial known v = known ++ [Text.upper t] := by
  unfold addSerial
  cases read : normalizeString v with
  | none => simp
  | some serial =>
    by_cases member : Text.upper serial ∈ known
    · left
      simp [member]
    · right
      simp [member]

variable {known : List String}

theorem SerialList.add (list : SerialList known) (v : Value) : SerialList (addSerial known v) := by
  rcases addSerial_cases known v with ⟨same, _⟩ | ⟨t, read, new, grown⟩
  · rw [same]
    exact list
  · rw [grown]
    constructor
    · intro serial member
      rcases List.mem_append.mp member with old | isNew
      · exact list.each serial old
      · rw [List.mem_singleton.mp isNew]
        exact isSerial_of_read read
    · exact List.nodup_append.mpr ⟨list.distinct, List.nodup_singleton _, by
        intro a isOld b isNew same
        rw [List.mem_singleton.mp isNew] at same
        exact new (same ▸ isOld)⟩

/-- Reading a list of values keeps what is known and takes up every serial number of the list. -/
theorem foldl_addSerial (list : SerialList known) (values : List Value) :
    SerialList (values.foldl addSerial known) ∧ known ⊆ values.foldl addSerial known ∧
      ∀ v ∈ values, ∀ t, normalizeString v = some t → Text.upper t ∈ values.foldl addSerial known := by
  induction values generalizing known with
  | nil => exact ⟨list, List.Subset.refl _, fun v member => absurd member List.not_mem_nil⟩
  | cons value rest ih =>
    obtain ⟨isList, kept, taken⟩ := ih (list.add value)
    have grows : known ⊆ addSerial known value := by
      rcases addSerial_cases known value with ⟨same, _⟩ | ⟨t, _, _, grown⟩
      · rw [same]
        exact List.Subset.refl _
      · rw [grown]
        exact List.subset_append_left _ _
    refine ⟨isList, fun serial member => kept (grows member), ?_⟩
    intro v member t read
    rcases List.mem_cons.mp member with isFirst | later
    · subst isFirst
      apply kept
      rcases addSerial_cases known v with ⟨same, known_⟩ | ⟨u, readAs, _, grown⟩
      · rw [same]
        exact known_ t read
      · rw [read] at readAs
        cases readAs
        rw [grown]
        exact List.mem_append_right _ (List.mem_singleton_self _)
    · exact taken v later t read

theorem foldl_addSerial_self {serials : List String} (list : SerialList (known ++ serials)) :
    (serials.map Value.str).foldl addSerial known = known ++ serials := by
  induction serials generalizing known with
  | nil => simp
  | cons serial rest ih =>
    have isSerial := list.each serial (by simp)
    have new : serial ∉ known := by
      intro member
      exact (List.nodup_append.mp list.distinct).2.2 serial member serial (by simp) rfl
    have grown : addSerial known (.str serial) = known ++ [serial] := by
      simp [addSerial, isSerial.1, isSerial.2, new]
    rw [List.map_cons, List.foldl_cons, grown, ih (by simpa using list)]
    simp

theorem foldl_addSerial_known {values : List Value}
    (each : ∀ v ∈ values, ∀ t, normalizeString v = some t → Text.upper t ∈ known) :
    values.foldl addSerial known = known := by
  induction values with
  | nil => rfl
  | cons value rest ih =>
    have same : addSerial known value = known := by
      rcases addSerial_cases known value with ⟨same, _⟩ | ⟨t, read, new, _⟩
      · exact same
      · exact absurd (each value (by simp) t read) new
    rw [List.foldl_cons, same]
    exact ih fun v member => each v (by simp [member])

section

variable {item doc : Doc} {qty factor : ℚ} {precision : Nat} {itemCode : Option String}

def ruledDocument (item doc : Doc) (qty factor : ℚ) (precision : Nat) (itemCode : Option String) : Doc :=
  doc.setAll (normalizedFields item doc (normalizedOf item doc qty factor precision) itemCode)

theorem enforceBusinessRules_ok {s : Store} {after : Doc} : enforceBusinessRules s item doc = .ok after ↔
    ∃ n, normalizeQuantityForItem item doc = .ok n ∧ checkSerials s item doc n.serialNumbers = .ok () ∧
      after = doc.setAll (normalizedFields item doc n (ruledItemCode item doc)) := by
  simp only [enforceBusinessRules, bind_success, pure_success]
  constructor
  · rintro ⟨n, read, _, checked, same⟩
    exact ⟨n, read, checked, same.symm⟩
  · rintro ⟨n, read, checked, same⟩
    exact ⟨n, read, (), checked, same.symm⟩

theorem ruledDocument_get {field : String}
    (named : Doc.ofList (normalizedFields item doc (normalizedOf item doc qty factor precision) itemCode) field = some v) :
    (ruledDocument item doc qty factor precision itemCode).get field = v := by
  rw [Doc.get, ruledDocument, Doc.setAll_named _ named]
  rfl

theorem readInputUom_ruled :
    readInputUom item (ruledDocument item doc qty factor precision itemCode) = readInputUom item doc := by
  have stored : (ruledDocument item doc qty factor precision itemCode).get "input_uom" =
      optionalText (readInputUom item doc) := by
    apply ruledDocument_get
    simp [normalizedFields, normalizedOf]
  have read := isUnit_readInputUom item doc
  cases unit : readInputUom item doc with
  | some u =>
    rw [unit] at stored read
    rw [readInputUom, stored, read]
    rfl
  | none =>
    -- Nothing names a unit, and nothing is written that would.
    have nothing := unit
    rw [readInputUom] at nothing
    simp only [Option.or_eq_none_iff] at nothing
    obtain ⟨_, _, _, code, name, other⟩ := nothing
    have unnamed : normalizeString (item.get "uom_name") = none := by
      rw [normalizeUom, Option.map_eq_none_iff] at name
      exact name
    have codeStored : (ruledDocument item doc qty factor precision itemCode).get "uom_code" = .null := by
      apply ruledDocument_get
      simp [normalizedFields, normalizedOf, unit, code, optionalText]
    have nameStored : (ruledDocument item doc qty factor precision itemCode).get "uom_name" = .null := by
      apply ruledDocument_get
      simp [normalizedFields, normalizedOf, unit, unnamed, optionalText]
    rw [readInputUom, stored, unit, codeStored, nameStored, code, name, other]
    rfl

theorem readBaseUom_ruled :
    readBaseUom item (ruledDocument item doc qty factor precision itemCode) = readBaseUom item doc := by
  have stored : (ruledDocument item doc qty factor precision itemCode).get "base_uom" =
      optionalText (readBaseUom item doc) := by
    apply ruledDocument_get
    simp [normalizedFields, normalizedOf]
  have read := isUnit_readBaseUom item doc
  cases unit : readBaseUom item doc with
  | some u =>
    rw [unit] at stored read
    rw [readBaseUom, stored, read]
    rfl
  | none =>
    have nothing := unit
    rw [readBaseUom] at nothing
    simp only [Option.or_eq_none_iff] at nothing
    obtain ⟨_, base, code, input⟩ := nothing
    rw [readBaseUom, stored, unit, base, code, readInputUom_ruled, input]
    rfl

theorem conversionFactor_ruled (positive : 0 < factor) :
    conversionFactor item (ruledDocument item doc qty factor precision itemCode) = .ok factor := by
  have stored : (ruledDocument item doc qty factor precision itemCode).get "conversion_factor" = .num factor := by
    apply ruledDocument_get
    simp [normalizedFields, normalizedOf]
  have filled : factor ≠ 0 := ne_of_gt positive
  rw [conversionFactor, stored]
  simp [Value.orElse, Value.truthy, filled, asDecimal]

/-- Fractions are allowed as before. -/
theorem allowsFraction_ruled :
    allowsFraction item (ruledDocument item doc qty factor precision itemCode) (readInputUom item doc)
      (readBaseUom item doc) qty = allowsFraction item doc (readInputUom item doc) (readBaseUom item doc) qty := by
  have stored : (ruledDocument item doc qty factor precision itemCode).get "allow_fraction" =
      .bool (allowsFraction item doc (readInputUom item doc) (readBaseUom item doc) qty) := by
    apply ruledDocument_get
    simp [normalizedFields, normalizedOf]
  unfold allowsFraction at stored ⊢
  rw [stored]
  split
  · split
    · rfl
    · next unknown =>
      rw [if_neg unknown] at stored
      rw [asBool, Bool.or_assoc, Bool.or_self]
  · rfl

theorem readPrecision_ruled (allowFraction : Bool) (q : ℚ) :
    readPrecision item (ruledDocument item doc qty factor precision itemCode) allowFraction q = .ok precision := by
  have stored : (ruledDocument item doc qty factor precision itemCode).get "quantity_precision" = .num precision := by
    apply ruledDocument_get
    simp [normalizedFields, normalizedOf]
  have whole : truncate (precision : ℚ) = (precision : Int) := by
    rw [truncate, if_pos (by positivity)]
    exact Int.floor_natCast precision
  simp [readPrecision, stored, Value.integer, whole]

theorem normalizeSerials_ruled :
    normalizeSerials (ruledDocument item doc qty factor precision itemCode) = normalizeSerials doc := by
  have entries : entrySerials (ruledDocument item doc qty factor precision itemCode) = entrySerials doc := by
    simp [entrySerials, ruledDocument, Doc.setAll, normalizedFields, Doc.get]
  have stored : (ruledDocument item doc qty factor precision itemCode).get "serial_numbers" =
      if (normalizeSerials doc).isEmpty then doc.get "serial_numbers" else .list ((normalizeSerials doc).map .str) := by
    apply ruledDocument_get
    simp [normalizedFields, normalizedOf]
  cases none_ : (normalizeSerials doc).isEmpty with
  | true =>
    rw [none_, if_pos rfl] at stored
    rw [normalizeSerials_eq, normalizeSerials_eq, listedSerials, listedSerials, stored, entries]
  | false =>
    rw [none_, if_neg (by simp)] at stored
    have start : SerialList [] := ⟨fun serial member => absurd member List.not_mem_nil, List.nodup_nil⟩
    obtain ⟨list, _, taken⟩ := foldl_addSerial start (listedSerials doc ++ entrySerials doc)
    rw [← normalizeSerials_eq] at list taken
    have same : listedSerials (ruledDocument item doc qty factor precision itemCode) =
        (normalizeSerials doc).map Value.str := by
      rw [listedSerials, stored]
      exact List.map_map
    rw [← List.nil_append (normalizeSerials doc)] at list
    rw [normalizeSerials_eq, same, entries, List.foldl_append, foldl_addSerial_self list, List.nil_append]
    exact foldl_addSerial_known fun v member => taken v (List.mem_append_right _ member)

theorem ruledItemCode_ruled :
    ruledItemCode item (ruledDocument item doc qty factor precision (ruledItemCode item doc)) =
      ruledItemCode item doc := by
  have other : (ruledDocument item doc qty factor precision (ruledItemCode item doc)).get "item_id" =
      doc.get "item_id" := by
    simp [ruledDocument, Doc.setAll, normalizedFields, Doc.get]
  cases code : ruledItemCode item doc with
  | none =>
    have stored : (ruledDocument item doc qty factor precision none).get "item_code" = doc.get "item_code" := by
      apply ruledDocument_get
      simp [normalizedFields]
    rw [code] at other
    rw [ruledItemCode, stored, other]
    exact code
  | some text =>
    have stored : (ruledDocument item doc qty factor precision (some text)).get "item_code" = .str text := by
      apply ruledDocument_get
      simp [normalizedFields]
    obtain ⟨filled, stripped⟩ := normalizeString_trimmed code
    have written : (Value.str text).truthy = true := by simp [filled]
    rw [ruledItemCode, stored, Value.orElse, if_pos written]
    exact normalizeString_str filled stripped

theorem checkSerials_ruled (s : Store) (serials : List String) :
    checkSerials s item (ruledDocument item doc qty factor precision (ruledItemCode item doc)) serials =
      checkSerials s item doc serials := by
  have named : (ruledDocument item doc qty factor precision (ruledItemCode item doc)).get "id" = doc.get "id" := by
    simp [ruledDocument, Doc.setAll, normalizedFields, Doc.get]
  have kept : (ruledDocument item doc qty factor precision (ruledItemCode item doc)).get "_id" = doc.get "_id" := by
    simp [ruledDocument, Doc.setAll, normalizedFields, Doc.get]
  unfold checkSerials
  rw [ruledItemCode_ruled, named, kept]

theorem normalizedOf_ruled :
    normalizedOf item (ruledDocument item doc qty factor precision itemCode) qty factor precision =
      normalizedOf item doc qty factor precision := by
  simp only [normalizedOf, readInputUom_ruled, readBaseUom_ruled, allowsFraction_ruled, normalizeSerials_ruled]

theorem normalizedFields_congr {a b : Doc} {n : NormalizedQuantity}
    (codes : itemCode = none → a.get "item_code" = b.get "item_code")
    (serials : n.serialNumbers = [] → a.get "serial_numbers" = b.get "serial_numbers") :
    normalizedFields item a n itemCode = normalizedFields item b n itemCode := by
  have sameSerials : (if n.serialNumbers.isEmpty then a.get "serial_numbers" else .list (n.serialNumbers.map .str)) =
      if n.serialNumbers.isEmpty then b.get "serial_numbers" else .list (n.serialNumbers.map .str) := by
    by_cases noSerials : n.serialNumbers = []
    · rw [serials noSerials]
    · have listed : ¬ n.serialNumbers.isEmpty = true := by simp [noSerials]
      rw [if_neg listed, if_neg listed]
  cases itemCode with
  | none => rw [normalizedFields, normalizedFields, sameSerials, codes rfl]
  | some text => rw [normalizedFields, normalizedFields, sameSerials]

/-- What a second application writes when the quantity is left as it is, is there already. -/
theorem ruledDocument_ruled :
    (ruledDocument item doc qty factor precision (ruledItemCode item doc)).setAll (normalizedFields item
      (ruledDocument item doc qty factor precision (ruledItemCode item doc))
      (normalizedOf item doc qty factor precision) (ruledItemCode item doc)) =
      ruledDocument item doc qty factor precision (ruledItemCode item doc) := by
  have codeKept : ruledItemCode item doc = none →
      (ruledDocument item doc qty factor precision (ruledItemCode item doc)).get "item_code" = doc.get "item_code" := by
    intro noCode
    apply ruledDocument_get
    simp [normalizedFields, noCode]
  have serialsKept : normalizeSerials doc = [] →
      (ruledDocument item doc qty factor precision (ruledItemCode item doc)).get "serial_numbers" =
        doc.get "serial_numbers" := by
    intro noSerials
    apply ruledDocument_get
    simp [normalizedFields, normalizedOf, noSerials]
  rw [normalizedFields_congr codeKept serialsKept]
  ext field
  simp only [ruledDocument, Doc.setAll, Doc.update_apply]
  cases Doc.ofList (normalizedFields item doc (normalizedOf item doc qty factor precision) (ruledItemCode item doc))
      field with
  | none => rfl
  | some v => rfl

/-- A second application converts the quantity once more, and changes nothing when that leaves it as
it is. -/
theorem enforceBusinessRules_again {s : Store} (met : RulesMet item doc qty factor
      (allowsFraction item doc (readInputUom item doc) (readBaseUom item doc) qty) precision)
    (checked : checkSerials s item doc (normalizeSerials doc) = .ok ()) (same : qty * factor = qty) :
    enforceBusinessRules s item (ruledDocument item doc qty factor precision (ruledItemCode item doc)) =
      .ok (ruledDocument item doc qty factor precision (ruledItemCode item doc)) := by
  have counted : (ruledDocument item doc qty factor precision (ruledItemCode item doc)).get "counted_qty" = .num qty := by
    apply ruledDocument_get
    simp [normalizedFields, normalizedOf, same]
  have normalized : normalizeQuantityForItem item (ruledDocument item doc qty factor precision (ruledItemCode item doc)) =
      .ok (normalizedOf item doc qty factor precision) := by
    apply normalizeQuantityForItem_ok.mpr
    refine ⟨qty, factor, precision, ?_, conversionFactor_ruled met.positive,
      readPrecision_ruled _ _, ?_, normalizedOf_ruled.symm⟩
    · rw [counted]
      rfl
    · rw [readInputUom_ruled, readBaseUom_ruled, allowsFraction_ruled]
      constructor
      · exact met.positive
      · exact met.whole
      · exact met.precise
      · exact met.wholeBase
      · rw [normalizeSerials_ruled]
        exact met.serials
      · rw [normalizeSerials_ruled]
        exact met.serialized
  apply enforceBusinessRules_ok.mpr
  refine ⟨_, normalized, ?_, ?_⟩
  · rw [checkSerials_ruled]
    exact checked
  · rw [ruledItemCode_ruled]
    exact ruledDocument_ruled.symm

end

/-- A document that the rules accepted is accepted again, as it is after each application, and keeps
its quantity exactly when nothing was counted or the conversion factor is one. -/
theorem counted_qty_stable_iff {s : Store} {item doc after : Doc}
    (accepted : enforceBusinessRules s item doc = .ok after) :
    (∀ times, ∃ again, revalidated s item times after = .ok again ∧
        again.get "counted_qty" = after.get "counted_qty") ↔
      asDecimal (doc.get "counted_qty") = .ok 0 ∨ conversionFactor item doc = .ok 1 := by
  obtain ⟨n, normalized, checked, written⟩ := enforceBusinessRules_ok.mp accepted
  obtain ⟨qty, factor, precision, counts, converts, reads, met, rfl⟩ := normalizeQuantityForItem_ok.mp normalized
  change after = ruledDocument item doc qty factor precision (ruledItemCode item doc) at written
  subst written
  have stored : (ruledDocument item doc qty factor precision (ruledItemCode item doc)).get "counted_qty" =
      .num (qty * factor) := by
    apply ruledDocument_get
    simp [normalizedFields, normalizedOf]
  rw [counts, converts, Except.ok.injEq, Except.ok.injEq]
  constructor
  · intro stable
    -- One more application is enough to see the difference.
    obtain ⟨again, once, kept⟩ := stable 1
    rw [revalidated, bind_success] at once
    obtain ⟨_, ruled, same⟩ := once
    cases Except.ok.inj same
    obtain ⟨n, twice, _, rfl⟩ := enforceBusinessRules_ok.mp ruled
    obtain ⟨qtyAgain, factorAgain, _, countsAgain, convertsAgain, _, _, rfl⟩ := normalizeQuantityForItem_ok.mp twice
    rw [stored] at countsAgain
    rw [conversionFactor_ruled met.positive] at convertsAgain
    cases Except.ok.inj countsAgain
    cases Except.ok.inj convertsAgain
    rw [Doc.get, Doc.setAll_named _ (v := .num (qty * factor * factor)) (by simp [normalizedFields, normalizedOf]),
      stored, Option.getD_some, Value.num.injEq] at kept
    by_cases counted : qty = 0
    · exact Or.inl counted
    · right
      have positive := met.positive
      have base : qty * factor ≠ 0 := mul_ne_zero counted (ne_of_gt positive)
      exact mul_left_cancel₀ base (by rw [kept, mul_one])
  · intro unchanged
    have same : qty * factor = qty := by
      rcases unchanged with counted | one
      · rw [counted, zero_mul]
      · rw [one, mul_one]
    intro times
    refine ⟨_, ?_, rfl⟩
    induction times with
    | zero => rfl
    | succ times ih =>
      rw [revalidated, enforceBusinessRules_again met checked same]
      exact ih

def pieces : Doc :=
  Doc.ofList [("item_code", .str "A"), ("counted_qty", .num 3), ("conversion_factor", .num 1)]

theorem normalizeQuantityForItem_pieces :
    normalizeQuantityForItem Doc.empty pieces = .ok (normalizedOf Doc.empty pieces 3 1 0) := by
  have noFractions : allowsFraction Doc.empty pieces (readInputUom Doc.empty pieces)
      (readBaseUom Doc.empty pieces) 3 = false := by decide +kernel
  have noSerials : normalizeSerials pieces = [] := by decide +kernel
  apply normalizeQuantityForItem_ok.mpr
  refine ⟨3, 1, 0, by decide +kernel, by decide +kernel, by decide +kernel, ?_, rfl⟩
  rw [noFractions]
  constructor
  · norm_num
  · exact Or.inr (by decide +kernel)
  · decide +kernel
  · exact Or.inr (by decide +kernel)
  · exact Or.inl noSerials
  · exact Or.inr (Or.inl (by decide +kernel))

theorem counted_qty_stable_pieces : ∃ after, enforceBusinessRules {} Doc.empty pieces = .ok after ∧
    after.get "counted_qty" = .num 3 ∧ ∀ times, ∃ again, revalidated {} Doc.empty times after = .ok again ∧
      again.get "counted_qty" = after.get "counted_qty" := by
  have accepted : enforceBusinessRules {} Doc.empty pieces = .ok (ruledDocument Doc.empty pieces 3 1 0 (some "A")) := by
    apply enforceBusinessRules_ok.mpr
    exact ⟨_, normalizeQuantityForItem_pieces, by decide +kernel, by
      rw [show ruledItemCode Doc.empty pieces = some "A" by decide +kernel]
      rfl⟩
  refine ⟨_, accepted, ?_, (counted_qty_stable_iff accepted).mpr (Or.inr (by decide +kernel))⟩
  decide +kernel

def boxedItem : Doc := Doc.ofList [("item_code", .str "A"), ("uom_conversion_factor", .num 12)]

def box : Doc := Doc.ofList [("item_code", .str "A"), ("counted_qty", .num 1)]

/-- What the rules leave in a field after some applications, null when one of them refuses. -/
def countedAfter (item doc : Doc) (times : Nat) : Value :=
  match revalidated {} item times doc with
  | .ok after => after.get "counted_qty"
  | .error _ => .null

/-- One box is twelve pieces, and after the next validation it is a hundred and forty-four. -/
theorem box_converted_twice :
    (¬ ∀ (s : Store) (item doc after : Doc), enforceBusinessRules s item doc = .ok after →
      ∀ times, ∃ again, revalidated s item times after = .ok again ∧
        again.get "counted_qty" = after.get "counted_qty") ∧
      countedAfter boxedItem box 1 = .num 12 ∧ countedAfter boxedItem box 2 = .num 144 := by
  have once : countedAfter boxedItem box 1 = .num 12 := by decide +kernel
  have twice : countedAfter boxedItem box 2 = .num 144 := by decide +kernel
  refine ⟨?_, once, twice⟩
  intro stable
  cases ruled : enforceBusinessRules {} boxedItem box with
  | error e =>
    have refused : countedAfter boxedItem box 1 = .null := by
      rw [countedAfter, revalidated, ruled]
      rfl
    rw [refused] at once
    cases once
  | ok after =>
    obtain ⟨again, more, kept⟩ := stable {} boxedItem box after ruled 1
    have first : countedAfter boxedItem box 1 = after.get "counted_qty" := by
      rw [countedAfter, revalidated, ruled]
      rfl
    have second : countedAfter boxedItem box 2 = again.get "counted_qty" := by
      rw [countedAfter, revalidated, ruled]
      change (match revalidated {} boxedItem 1 after with
        | .ok after => after.get "counted_qty"
        | .error _ => .null) = _
      rw [more]
    rw [← first, ← second, once, twice] at kept
    cases kept

end StockVerification
