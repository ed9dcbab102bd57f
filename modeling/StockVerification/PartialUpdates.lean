import StockVerification.LineEffects

/-!
# What a partial update derives

Source: backend/services/count_lines/write_core.py:763-954.

An `update_one` that sets the quantity is evaluated on the merged line, while the derived fields are
computed from the `$set` document and the item alone. They are those of the merged line where the
request repeats every field of the line that the computation reads.
-/
namespace StockVerification

open Foundation

def bookPrice (item : Doc) : ℚ :=
  asFloat ((item.get "mrp").orElse ((item.get "sale_price").orElse (item.get "sales_price")))

/-- The price that is taken as the item's: the document's own, else the one in the books. -/
def itemPrice (document item : Doc) : ℚ :=
  if (document.get "mrp_erp").truthy then asFloat (document.get "mrp_erp") else bookPrice item

/-- The fields that a counted price may stand in, in the order in which they are read. -/
def countedPriceNames : List String := ["mrp_counted", "counted_mrp", "mrp"]

def statedPrice (document : Doc) : Option String :=
  countedPriceNames.find? fun name => (document.get name).truthy

/-- The counted price, else the item's. -/
def countedPrice (document : Doc) (price : ℚ) : ℚ :=
  match statedPrice document with
  | some name => asFloat (document.get name)
  | none => price

/-- The change of the price in percent. -/
def priceChange (document item : Doc) : ℚ :=
  if 0 < itemPrice document item then
    (countedPrice document (itemPrice document item) - itemPrice document item) / itemPrice document item * 100
  else 0

/-- The current quantity of the item in the books, else the expected one. -/
def bookQty (item : Doc) (expected : ℚ) : ℚ :=
  if item.get "stock_qty" = .null ∨ item.get "stock_qty" = .str "" then expected
  else ((item.get "stock_qty").number).getD expected

/-- Flags of distinct names agree where their conditions do. -/
theorem raised_iff {flags others : List (String × Bool)}
    (sameNames : flags.map Prod.fst = others.map Prod.fst) (distinct : (flags.map Prod.fst).Nodup) :
    (flags.filter (·.2)).map Prod.fst = (others.filter (·.2)).map Prod.fst ↔ flags = others := by
  induction flags generalizing others with
  | nil =>
    have empty : others = [] := by simpa using sameNames.symm
    simp [empty]
  | cons flag rest ih =>
    cases others with
    | nil => simp at sameNames
    | cons other tail =>
      obtain ⟨name, raised⟩ := flag
      obtain ⟨name', raised'⟩ := other
      simp only [List.map_cons, List.cons.injEq, List.nodup_cons] at sameNames distinct
      obtain ⟨rfl, sameTail⟩ := sameNames
      have new : ∀ flags : List (String × Bool), flags.map Prod.fst = rest.map Prod.fst →
          name ∉ (flags.filter (·.2)).map Prod.fst := by
        intro flags same member
        apply distinct.1
        rw [← same]
        exact List.map_subset _ (List.filter_subset_self flags) member
      constructor
      · intro same
        cases raised <;> cases raised'
        · have tails := (ih sameTail distinct.2).mp (by simpa using same)
          rw [tails]
        · have absurdly : name ∈ (rest.filter (·.2)).map Prod.fst := by
            have swapped : (rest.filter (·.2)).map Prod.fst = name :: (tail.filter (·.2)).map Prod.fst := by
              simpa using same
            rw [swapped]
            simp
          exact absurd absurdly (new rest rfl)
        · have absurdly : name ∈ (tail.filter (·.2)).map Prod.fst := by
            have swapped : name :: (rest.filter (·.2)).map Prod.fst = (tail.filter (·.2)).map Prod.fst := by
              simpa using same
            rw [← swapped]
            simp
          exact absurd absurdly (new tail sameTail.symm)
        · have tails := (ih sameTail distinct.2).mp (by simpa using same)
          rw [tails]
      · intro same
        rw [same]

theorem and_not_iff (c r r' : Bool) : (c && !r) = (c && !r') ↔ (c = true → r = r') := by
  cases c <;> cases r <;> cases r' <;> decide

theorem raisedFlags_iff {m m' r r' p p' s s' strict : Bool} {variance percent price change : ℚ} :
    raisedFlags m r p s strict variance percent price change =
      raisedFlags m' r' p' s' strict variance percent price change ↔
    m = m' ∧ (variance ≠ 0 ∨ 5 < |change| → r = r') ∧
      ((100 < |variance| ∨ 50 < percent ∨ 20 < |change| ∨ 10000 < price) → p = p') ∧ (5000 < price → s = s') := by
  simp only [raisedFlags, List.cons.injEq, Prod.mk.injEq, true_and, and_true, and_not_iff,
    bne_iff_ne, Bool.or_eq_true, decide_eq_true_eq, or_imp, and_assoc, or_assoc]

def isStrict (session : Option Doc) : Bool :=
  Text.upper (((session.getD Doc.empty).get "type").textOrEmpty) == "STRICT"

section

variable {env : Env} {ctx : WriteContext} {session : Option Doc} {target item : Doc} {d : GovernanceDecision}

theorem applyAuthoritativeFields_descriptive {field : String} (descriptive : field ∉ decisionNames) :
    applyAuthoritativeFields env ctx session target d item field =
      (Doc.ofList (descriptiveFields target item (isStrict session) d.variance) field).or (target field) := by
  have undecided : Doc.ofList (decisionFields env ctx d) field = none :=
    Doc.ofList_other fun named => descriptive (decisionFields_names env ctx d field named)
  have unreset : Doc.ofList (reviewResetFields target) field = none :=
    Doc.ofList_other fun named => descriptive (reviewResetFields_names target field named)
  rw [applyAuthoritativeFields, Doc.setAll, Doc.update_apply, List.append_assoc, Doc.ofList_append,
    undecided, Doc.ofList_append, unreset]
  rfl

theorem itemPrice_eq (target item : Doc) : asFloat ((target.get "mrp_erp").orElse ((item.get "mrp").orElse
    ((item.get "sale_price").orElse (item.get "sales_price")))) = itemPrice target item := by
  rw [itemPrice, Value.orElse]
  split
  · rfl
  · rfl

theorem asFloat_number (q : ℚ) : asFloat (.num q) = q := rfl

theorem countedPrice_eq (target : Doc) (price : ℚ) : asFloat ((target.get "mrp_counted").orElse
    ((target.get "counted_mrp").orElse ((target.get "mrp").orElse (.num price)))) = countedPrice target price := by
  by_cases own : (target.get "mrp_counted").truthy
  · simp [countedPrice, statedPrice, countedPriceNames, Value.orElse, own]
  · by_cases other : (target.get "counted_mrp").truthy
    · simp [countedPrice, statedPrice, countedPriceNames, Value.orElse, own, other]
    · by_cases plain : (target.get "mrp").truthy
      · simp [countedPrice, statedPrice, countedPriceNames, Value.orElse, own, other, plain]
      · simp [countedPrice, statedPrice, countedPriceNames, Value.orElse, own, other, plain, asFloat_number]

/-- The flags that are raised on a document. -/
def raisedOn (target item : Doc) (strict : Bool) (variance : ℚ) : List (String × Bool) :=
  raisedFlags (isMisplaced target item) (statesOne reasonNames target) (statesOne photoNames target)
    (target.get "serial_numbers").truthy strict variance
    (variancePercent variance (asFloat (target.get "counted_qty")) (asFloat (target.get "erp_qty")))
    (itemPrice target item) (priceChange target item)

structure DerivedOf (target item : Doc) (strict : Bool) (variance : ℚ) (written : Doc) : Prop where
  flags : written.get "risk_flags" = .list (((raisedOn target item strict variance).filter (·.2)).map fun flag =>
    .str flag.1)
  misplaced : written.get "is_misplaced" = .bool (isMisplaced target item || (target.get "is_misplaced").truthy)
  price : written.get "mrp_erp" = .num (itemPrice target item)
  counted : written.get "mrp_counted" = .num (countedPrice target (itemPrice target item))
  impact : written.get "financial_impact" = .num (countedPrice target (itemPrice target item) *
    asFloat (target.get "counted_qty") - itemPrice target item * asFloat (target.get "erp_qty"))
  drift : written.get "erp_drift" = .num (bookQty item (asFloat (target.get "erp_qty")) - asFloat (target.get "erp_qty"))
  gap : written.get "final_gap" = .num (asFloat (target.get "counted_qty") - bookQty item (asFloat (target.get "erp_qty")))

theorem derived_stamped (env : Env) (ctx : WriteContext) (session : Option Doc) (target item : Doc)
    (d : GovernanceDecision) : DerivedOf target item (isStrict session) d.variance
    (applyAuthoritativeFields env ctx session target d item) := by
  have stamped : ∀ field v, field ∉ decisionNames →
      Doc.ofList (descriptiveFields target item (isStrict session) d.variance) field = some v →
      (applyAuthoritativeFields env ctx session target d item).get field = v := by
    intro field v descriptive named
    apply Doc.get_of_some
    rw [applyAuthoritativeFields_descriptive descriptive, named]
    rfl
  constructor
  · apply stamped _ _ (by decide)
    simp only [descriptiveFields, itemPrice_eq, countedPrice_eq]
    simp [collectRiskFlags, raisedOn, priceChange]
  · apply stamped _ _ (by decide)
    have plain : Doc.ofList (placementFields target item) "is_misplaced" =
        some (.bool (isMisplaced target item || (target.get "is_misplaced").truthy)) := by
      unfold placementFields
      cases isMisplaced target item <;> simp
    simp only [descriptiveFields, Doc.ofList_append, plain]
    cases !(target.get "barcode").truthy && (item.get "barcode").truthy <;> simp
  all_goals
    apply stamped _ _ (by decide)
    simp only [descriptiveFields, itemPrice_eq, countedPrice_eq]
    simp [bookQty]

end

/-- The fields that are computed from the line, its item and the verdict. -/
def derivedNames : List String :=
  ["risk_flags", "is_misplaced", "mrp_erp", "mrp_counted", "financial_impact", "erp_drift", "final_gap"]

def NeedsPhoto (variance percent price change : ℚ) : Prop :=
  100 < |variance| ∨ 50 < percent ∨ 20 < |change| ∨ 10000 < price

/-- Two documents give the computation the same to read. -/
structure SameReadings (target merged item : Doc) (variance : ℚ) : Prop where
  expected : asFloat (target.get "erp_qty") = asFloat (merged.get "erp_qty")
  price : itemPrice target item = itemPrice merged item
  counted : countedPrice target (itemPrice merged item) = countedPrice merged (itemPrice merged item)
  reasons : variance ≠ 0 ∨ 5 < |priceChange merged item| → statesOne reasonNames target = statesOne reasonNames merged
  photos : NeedsPhoto variance (variancePercent variance (asFloat (merged.get "counted_qty"))
      (asFloat (merged.get "erp_qty"))) (itemPrice merged item) (priceChange merged item) →
    statesOne photoNames target = statesOne photoNames merged
  serials : 5000 < itemPrice merged item → (target.get "serial_numbers").truthy = (merged.get "serial_numbers").truthy
  place : isMisplaced target item = isMisplaced merged item
  flag : isMisplaced merged item = true ∨ (target.get "is_misplaced").truthy = (merged.get "is_misplaced").truthy

theorem raisedFlags_names (m r p s strict : Bool) (variance percent price change : ℚ) :
    (raisedFlags m r p s strict variance percent price change).map Prod.fst =
      ["HIGH_VALUE_VARIANCE", "LARGE_VARIANCE", "MISPLACED_ITEM", "MISSING_CORRECTION_REASON",
        "MRP_CHANGE_WITHOUT_REASON", "MRP_REDUCED_SIGNIFICANTLY", "PHOTO_PROOF_REQUIRED",
        "SERIAL_MISSING_HIGH_VALUE", "STRICT_MODE_VARIANCE"] := rfl

section

variable {target merged item : Doc} {strict : Bool} {variance : ℚ}

theorem flags_iff : ((((raisedOn target item strict variance).filter (·.2)).map fun flag => Atom.str flag.1) =
      ((raisedOn merged item strict variance).filter (·.2)).map fun flag => Atom.str flag.1) ↔
    raisedOn target item strict variance = raisedOn merged item strict variance := by
  rw [← raised_iff (by rw [raisedOn, raisedOn, raisedFlags_names, raisedFlags_names])
    (by rw [raisedOn, raisedFlags_names]; decide)]
  have injective : Function.Injective Atom.str := fun a b same => Atom.str.inj same
  rw [← (List.map_injective_iff.mpr injective).eq_iff, List.map_map, List.map_map]
  rfl

theorem bookQty_cases (item : Doc) (expected other : ℚ) :
    bookQty item expected - expected = bookQty item other - other →
      bookQty item expected = bookQty item other → expected = other := by
  intro drift same
  rw [same] at drift
  linarith

theorem derived_iff {written full : Doc} (sameCount : target.get "counted_qty" = merged.get "counted_qty")
    (mine : DerivedOf target item strict variance written) (theirs : DerivedOf merged item strict variance full) :
    (∀ name ∈ derivedNames, written.get name = full.get name) ↔ SameReadings target merged item variance := by
  constructor
  · intro same
    have expected : asFloat (target.get "erp_qty") = asFloat (merged.get "erp_qty") := by
      have drift := same "erp_drift" (by decide)
      have gap := same "final_gap" (by decide)
      rw [mine.drift, theirs.drift] at drift
      rw [mine.gap, theirs.gap, sameCount] at gap
      exact bookQty_cases item _ _ (Value.num.inj drift) (by linarith [Value.num.inj gap])
    have price : itemPrice target item = itemPrice merged item := by
      have stamped := same "mrp_erp" (by decide)
      rw [mine.price, theirs.price] at stamped
      exact Value.num.inj stamped
    have counted : countedPrice target (itemPrice merged item) = countedPrice merged (itemPrice merged item) := by
      have stamped := same "mrp_counted" (by decide)
      rw [mine.counted, theirs.counted, price] at stamped
      exact Value.num.inj stamped
    have change : priceChange target item = priceChange merged item := by
      rw [priceChange, priceChange, price, counted]
    have flags := same "risk_flags" (by decide)
    rw [mine.flags, theirs.flags] at flags
    have raised := flags_iff.mp (Value.list.inj flags)
    rw [raisedOn, raisedOn, sameCount, expected, price, change, raisedFlags_iff] at raised
    obtain ⟨place, reasons, photos, serials⟩ := raised
    have flag := same "is_misplaced" (by decide)
    rw [mine.misplaced, theirs.misplaced, place] at flag
    refine ⟨expected, price, counted, reasons, photos, serials, place, ?_⟩
    have equal := Value.bool.inj flag
    cases off : isMisplaced merged item with
    | true => exact .inl rfl
    | false =>
      rw [off, Bool.false_or, Bool.false_or] at equal
      exact .inr equal
  · intro same name member
    have change : priceChange target item = priceChange merged item := by
      rw [priceChange, priceChange, same.price, same.counted]
    have raised : raisedOn target item strict variance = raisedOn merged item strict variance := by
      rw [raisedOn, raisedOn, sameCount, same.expected, same.price, change, raisedFlags_iff]
      exact ⟨same.place, same.reasons, same.photos, same.serials⟩
    have flag : (isMisplaced target item || (target.get "is_misplaced").truthy) =
        (isMisplaced merged item || (merged.get "is_misplaced").truthy) := by
      rw [same.place]
      rcases same.flag with off | equal
      · rw [off, Bool.true_or, Bool.true_or]
      · rw [equal]
    simp only [derivedNames, List.mem_cons, List.not_mem_nil, or_false] at member
    rcases member with rfl | rfl | rfl | rfl | rfl | rfl | rfl
    · rw [mine.flags, theirs.flags, raised]
    · rw [mine.misplaced, theirs.misplaced, flag]
    · rw [mine.price, theirs.price, same.price]
    · rw [mine.counted, theirs.counted, same.price, same.counted]
    · rw [mine.impact, theirs.impact, sameCount, same.price, same.counted, same.expected]
    · rw [mine.drift, theirs.drift, same.expected]
    · rw [mine.gap, theirs.gap, sameCount, same.expected]

end

/-- Whatever the computation reads of the stored line, the request says as well. -/
structure RequestCarries (existing fields item : Doc) (expected variance : ℚ) : Prop where
  quantity : fields.has "erp_qty" = true → asFloat (fields.get "erp_qty") = expected
  price : fields.has "mrp_erp" = true ∨ (existing.get "mrp_erp").truthy = false ∨
    asFloat (existing.get "mrp_erp") = bookPrice item
  counted : ∀ name, statedPrice (existing.update fields) = some name → fields.has name = true ∨
    asFloat (existing.get name) = countedPrice fields (itemPrice (existing.update fields) item)
  reasons : variance ≠ 0 ∨ 5 < |priceChange (existing.update fields) item| →
    statesOne reasonNames (existing.update fields) = true → statesOne reasonNames fields = true
  photos : NeedsPhoto variance (variancePercent variance (asFloat (fields.get "counted_qty")) expected)
      (itemPrice (existing.update fields) item) (priceChange (existing.update fields) item) →
    statesOne photoNames (existing.update fields) = true → statesOne photoNames fields = true
  serials : 5000 < itemPrice (existing.update fields) item →
    fields.has "serial_numbers" = true ∨ (existing.get "serial_numbers").truthy = false
  place : isMisplaced (existing.update fields) item = true → isMisplaced fields item = true
  flag : isMisplaced (existing.update fields) item = true ∨ fields.has "is_misplaced" = true ∨
    (existing.get "is_misplaced").truthy = false

theorem get_update (existing fields : Doc) (name : String) :
    (existing.update fields).get name = if fields.has name then fields.get name else existing.get name := by
  unfold Doc.get Doc.has
  rw [Doc.update_apply]
  cases fields name with
  | none => rfl
  | some v => rfl

variable {fields : Doc}

theorem get_unnamed {name : String} (unnamed : ¬ fields.has name = true) : fields.get name = .null := by
  unfold Doc.has at unnamed
  unfold Doc.get
  cases named : fields name with
  | none => rfl
  | some v => simp [named] at unnamed

variable {existing : Doc}

theorem truthy_update {name : String} (filled : (fields.get name).truthy = true) :
    ((existing.update fields).get name).truthy = true := by
  rw [get_update]
  split
  · exact filled
  · next unnamed =>
    rw [get_unnamed unnamed] at filled
    cases filled

theorem truthy_update_iff (existing fields : Doc) (name : String) :
    (fields.get name).truthy = ((existing.update fields).get name).truthy ↔
    fields.has name = true ∨ (existing.get name).truthy = false := by
  rw [get_update]
  by_cases named : fields.has name = true
  · simp [named]
  · rw [if_neg named, get_unnamed named, Value.truthy_null, eq_comm]
    simp [named]

theorem statesOne_update (existing fields : Doc) (names : List String) :
    statesOne names fields = statesOne names (existing.update fields) ↔
    (statesOne names (existing.update fields) = true → statesOne names fields = true) := by
  constructor
  · intro same filled
    rw [same, filled]
  · intro carried
    apply Bool.eq_iff_iff.mpr
    constructor
    · intro filled
      obtain ⟨name, member, stated⟩ := List.any_eq_true.mp filled
      exact List.any_eq_true.mpr ⟨name, member, truthy_update stated⟩
    · exact carried

theorem itemPrice_update (existing fields item : Doc) : itemPrice fields item = itemPrice (existing.update fields) item ↔
    fields.has "mrp_erp" = true ∨ (existing.get "mrp_erp").truthy = false ∨
      asFloat (existing.get "mrp_erp") = bookPrice item := by
  unfold itemPrice
  rw [get_update]
  by_cases named : fields.has "mrp_erp" = true
  · simp [named]
  · rw [if_neg named, get_unnamed named]
    by_cases filled : (existing.get "mrp_erp").truthy = true
    · simp [named, filled, eq_comm]
    · simp [named, filled]

/-- The first name that meets the weaker test is the first for the stronger one if it meets it. -/
theorem find?_stronger {α : Type} {weak strong : α → Bool} {l : List α} {a : α}
    (weaker : ∀ x, strong x = true → weak x = true) (found : l.find? weak = some a)
    (meets : strong a = true) : l.find? strong = some a := by
  induction l with
  | nil => cases found
  | cons x rest ih =>
    rw [List.find?_cons] at found ⊢
    by_cases first : weak x = true
    · rw [first] at found
      cases found
      rw [meets]
    · have unmet : strong x = false := by
        cases stronger : strong x with
        | false => rfl
        | true => exact absurd (weaker x stronger) first
      rw [Bool.not_eq_true] at first
      rw [first] at found
      rw [unmet]
      exact ih found

theorem countedPrice_update (existing fields : Doc) (price : ℚ) :
    countedPrice fields price = countedPrice (existing.update fields) price ↔
    ∀ name, statedPrice (existing.update fields) = some name → fields.has name = true ∨
      asFloat (existing.get name) = countedPrice fields price := by
  cases stated : statedPrice (existing.update fields) with
  | none =>
    have unstated : statedPrice fields = none := by
      rw [statedPrice, List.find?_eq_none] at stated ⊢
      exact fun name member filled => stated name member (truthy_update filled)
    simp [countedPrice, stated, unstated]
  | some name =>
    have read : countedPrice (existing.update fields) price = asFloat ((existing.update fields).get name) := by
      rw [countedPrice, stated]
    rw [read, get_update]
    by_cases named : fields.has name = true
    · have filled := List.find?_some stated
      rw [get_update, if_pos named] at filled
      have same : statedPrice fields = some name :=
        find?_stronger (fun other given => truthy_update given) stated filled
      rw [if_pos named, countedPrice, same]
      simp [named]
    · rw [if_neg named, eq_comm]
      simp [named]

/-- A place that the request finds wrong is wrong on the merged line. -/
theorem isMisplaced_update (existing fields item : Doc) :
    isMisplaced fields item = isMisplaced (existing.update fields) item ↔
    (isMisplaced (existing.update fields) item = true → isMisplaced fields item = true) := by
  constructor
  · intro same off
    rw [same, off]
  · intro carried
    apply Bool.eq_iff_iff.mpr
    refine ⟨?_, carried⟩
    have keeps : ∀ name, Text.upper (Text.strip (fields.get name).textOrEmpty) ≠ "" →
        (existing.update fields).get name = fields.get name := by
      intro name found
      rw [get_update]
      by_cases named : fields.has name = true
      · rw [if_pos named]
      · rw [get_unnamed named] at found
        exact absurd (by decide) found
    intro off
    simp only [isMisplaced, Bool.or_eq_true, Bool.and_eq_true, bne_iff_ne, ne_eq] at off ⊢
    rcases off with ⟨⟨found, expected⟩, differs⟩ | ⟨⟨found, expected⟩, differs⟩
    · left
      rw [keeps "floor_no" found]
      exact ⟨⟨found, expected⟩, differs⟩
    · right
      rw [keeps "rack_no" found]
      exact ⟨⟨found, expected⟩, differs⟩

def SameButBaseline (a b : Doc) : Prop :=
  ∀ name, name ≠ "erp_qty" → name ≠ "baseline_hash" → a.get name = b.get name

section

variable {a b item : Doc}

section

variable (same : SameButBaseline a b)
include same

theorem itemPrice_same : itemPrice a item = itemPrice b item := by
  unfold itemPrice
  rw [same "mrp_erp" (by decide) (by decide)]

theorem countedPrice_same (price : ℚ) : countedPrice a price = countedPrice b price := by
  have stated : ∀ name ∈ countedPriceNames, a.get name = b.get name := by
    intro name member
    apply same
    · rintro rfl
      exact absurd member (by decide)
    · rintro rfl
      exact absurd member (by decide)
  have read : statedPrice a = statedPrice b := by
    simp only [statedPrice, countedPriceNames, List.find?_cons, List.find?_nil,
      stated "mrp_counted" (by decide), stated "counted_mrp" (by decide), stated "mrp" (by decide)]
  unfold countedPrice
  rw [← read]
  cases found : statedPrice a with
  | none => rfl
  | some name => exact congrArg asFloat (stated name (List.mem_of_find?_eq_some found))

theorem priceChange_same : priceChange a item = priceChange b item := by
  unfold priceChange
  rw [itemPrice_same same, countedPrice_same same]

theorem statesOne_same {names : List String} (notQty : "erp_qty" ∉ names)
    (notHash : "baseline_hash" ∉ names) : statesOne names a = statesOne names b := by
  unfold statesOne
  apply Bool.eq_iff_iff.mpr
  simp only [List.any_eq_true]
  apply exists_congr
  intro name
  apply and_congr_right
  intro member
  rw [same name (fun isQty => notQty (isQty ▸ member)) fun isHash => notHash (isHash ▸ member)]

theorem isMisplaced_same : isMisplaced a item = isMisplaced b item := by
  simp only [isMisplaced, same "floor_no" (by decide) (by decide), same "rack_no" (by decide) (by decide)]

end

end

/-- The `$set` document that the derived fields are computed on, against the merged line. -/
theorem sameReadings_iff {target merged : Doc} (item : Doc) (variance : ℚ)
    (mine : SameButBaseline target fields) (theirs : SameButBaseline merged (existing.update fields))
    (stated : fields.has "erp_qty" = true → target.get "erp_qty" = fields.get "erp_qty")
    (copied : fields.has "erp_qty" = false → target.get "erp_qty" = merged.get "erp_qty")
    (counts : fields.has "counted_qty" = true) : SameReadings target merged item variance ↔
      RequestCarries existing fields item (asFloat (merged.get "erp_qty")) variance := by
  have count : merged.get "counted_qty" = fields.get "counted_qty" := by
    rw [theirs _ (by decide) (by decide), get_update, if_pos counts]
  have expected : asFloat (target.get "erp_qty") = asFloat (merged.get "erp_qty") ↔
      (fields.has "erp_qty" = true → asFloat (fields.get "erp_qty") = asFloat (merged.get "erp_qty")) := by
    by_cases named : fields.has "erp_qty" = true
    · simp [named, stated named]
    · rw [Bool.not_eq_true] at named
      simp [named, copied named]
  have serials : (target.get "serial_numbers").truthy = (merged.get "serial_numbers").truthy ↔
      fields.has "serial_numbers" = true ∨ (existing.get "serial_numbers").truthy = false := by
    rw [mine _ (by decide) (by decide), theirs _ (by decide) (by decide), truthy_update_iff]
  have flag : (target.get "is_misplaced").truthy = (merged.get "is_misplaced").truthy ↔
      fields.has "is_misplaced" = true ∨ (existing.get "is_misplaced").truthy = false := by
    rw [mine _ (by decide) (by decide), theirs _ (by decide) (by decide), truthy_update_iff]
  have price : itemPrice target item = itemPrice merged item ↔ fields.has "mrp_erp" = true ∨
      (existing.get "mrp_erp").truthy = false ∨ asFloat (existing.get "mrp_erp") = bookPrice item := by
    rw [itemPrice_same mine, itemPrice_same theirs, itemPrice_update]
  have counted : ∀ p, countedPrice target p = countedPrice merged p ↔
      ∀ name, statedPrice (existing.update fields) = some name → fields.has name = true ∨
        asFloat (existing.get name) = countedPrice fields p := by
    intro p
    rw [countedPrice_same mine, countedPrice_same theirs, countedPrice_update]
  have states : ∀ names, "erp_qty" ∉ names → "baseline_hash" ∉ names →
      (statesOne names target = statesOne names merged ↔
        (statesOne names (existing.update fields) = true → statesOne names fields = true)) := by
    intro names notQty notHash
    rw [statesOne_same mine notQty notHash, statesOne_same theirs notQty notHash, statesOne_update]
  have place : isMisplaced target item = isMisplaced merged item ↔
      (isMisplaced (existing.update fields) item = true → isMisplaced fields item = true) := by
    rw [isMisplaced_same mine, isMisplaced_same theirs, isMisplaced_update]
  have reasons := states reasonNames (by decide) (by decide)
  have photos := states photoNames (by decide) (by decide)
  constructor
  · rintro ⟨sameExpected, samePrice, sameCounted, sameReasons, samePhotos, sameSerials, samePlace, sameFlag⟩
    rw [priceChange_same theirs] at sameReasons samePhotos
    rw [itemPrice_same theirs] at sameCounted samePhotos sameSerials
    rw [isMisplaced_same theirs, flag] at sameFlag
    rw [count] at samePhotos
    exact ⟨expected.mp sameExpected, price.mp samePrice, (counted _).mp sameCounted,
      fun needed => reasons.mp (sameReasons needed), fun needed => photos.mp (samePhotos needed),
      fun dear => serials.mp (sameSerials dear), place.mp samePlace, sameFlag⟩
  · rintro ⟨quantity, priced, countedAs, reasoned, photographed, serialized, placed, flagged⟩
    rw [← priceChange_same theirs] at reasoned photographed
    rw [← itemPrice_same theirs] at countedAs photographed serialized
    rw [← isMisplaced_same theirs, ← flag] at flagged
    rw [← count] at photographed
    exact ⟨expected.mpr quantity, price.mpr priced, (counted _).mpr countedAs,
      fun needed => reasons.mpr (reasoned needed), fun needed => photos.mpr (photographed needed),
      fun dear => serials.mpr (serialized dear), place.mpr placed, flagged⟩

/-- The fields that are no business of the derivation where the request does not name them. -/
def keptNames : List String := ["item_name", "barcode", "mrp_counted", "counted_mrp"]

/-- The written fields are those of the merged line, and what the request does not name stays. -/
structure DerivesFromMerged (existing fields written full : Doc) : Prop where
  derived : ∀ name ∈ derivedNames, written.get name = full.get name
  kept : ∀ name ∈ keptNames, fields.has name = false → ∀ line,
    (Update.ofSet written).apply existing = some line → line.get name = existing.get name

/-- The request says what is read of the line, and its item names the line as it is named. -/
structure RequestSuffices (existing fields item : Doc) (expected variance : ℚ) : Prop
    extends RequestCarries existing fields item expected variance where
  name : fields.has "item_name" = true ∨ existing.get "item_name" = (item.get "item_name").orElse (.str "Unknown")
  barcode : fields.has "barcode" = true ∨ (item.get "barcode").truthy = false ∨
    existing.get "barcode" = item.get "barcode"
  priced : fields.has "mrp_counted" = true ∨
    existing.get "mrp_counted" = .num (countedPrice fields (itemPrice fields item))

theorem copyBaselineFields_qty (source target : Doc) : copyBaselineFields source target "erp_qty" =
    if target.has "erp_qty" then target "erp_qty" else source "erp_qty" := by
  have hash : ∀ d : Doc, ∀ v, d.setDefault "baseline_hash" v "erp_qty" = d "erp_qty" :=
    fun d v => Doc.setDefault_other d v (by decide)
  have copied : copyBaselineFields source target "erp_qty" =
      (source "erp_qty").elim target (target.setDefault "erp_qty") "erp_qty" := by
    simp only [copyBaselineFields]
    cases source "erp_qty" with
    | none | some _ =>
      cases source "baseline_hash" with
      | none => rfl
      | some v => exact hash _ v
  rw [copied]
  by_cases named : target.has "erp_qty" = true
  · rw [if_pos named]
    cases source "erp_qty" with
    | none => rfl
    | some v => simp [Doc.setDefault, named]
  · rw [if_neg named]
    cases source "erp_qty" with
    | none =>
      rw [Bool.not_eq_true, Doc.has] at named
      exact Option.isNone_iff_eq_none.mp (by simpa using named)
    | some v => simp [Doc.setDefault, named]

theorem enforceVariance_update {env : Env} {ctx : WriteContext} {s : Store} {f : Filter}
    {e : Evaluation} (found : s.countLines.find? f.holds = some existing) (counts : fields.has "counted_qty" = true)
    (evaluated : evaluateGovernanceForDocument s ctx (existing.update fields) = .ok e) :
    enforceVariance env ctx (.updateOne f (.ofSet fields)) s =
      .ok (.updateOne f (.ofSet (applyAuthoritativeFields env ctx (resolveSessionDocument s ctx e.document)
        (copyBaselineFields e.document fields) e.decision e.erpItem))) := by
  have named : (Update.ofSet fields).set.has "counted_qty" = true := counts
  have merged : ((s.countLines.find? f.holds).getD Doc.empty).update (Update.ofSet fields).set =
      existing.update fields := by rw [found]; rfl
  simp only [enforceVariance, named, if_true, merged, evaluated]
  rfl

section

variable {env : Env} {ctx : WriteContext} {session : Option Doc} {target item : Doc} {d : GovernanceDecision}

theorem itemName_stamped : (applyAuthoritativeFields env ctx session target d item).get "item_name" =
    (target.get "item_name").orElse ((item.get "item_name").orElse (.str "Unknown")) := by
  apply Doc.get_of_some
  rw [applyAuthoritativeFields_descriptive (by decide)]
  simp [descriptiveFields]

theorem barcode_stamped : applyAuthoritativeFields env ctx session target d item "barcode" =
    if !(target.get "barcode").truthy && (item.get "barcode").truthy then some (item.get "barcode")
    else target "barcode" := by
  have unplaced : Doc.ofList (placementFields target item) "barcode" = none := by
    unfold placementFields
    split <;> simp
  rw [applyAuthoritativeFields_descriptive (by decide)]
  simp only [descriptiveFields, Doc.ofList_append, unplaced]
  cases !(target.get "barcode").truthy && (item.get "barcode").truthy <;> simp

theorem countedMrp_stamped : applyAuthoritativeFields env ctx session target d item "counted_mrp" =
    target "counted_mrp" :=
  applyAuthoritativeFields_other (by decide)

end

theorem get_overwritten {existing written : Doc} {name : String} {v : Value} (filled : v ≠ .null)
    (stamped : written.get name = v) : (existing.update written).get name = v := by
  rw [get_update]
  by_cases named : written.has name = true
  · rw [if_pos named, stamped]
  · exact absurd (stamped.symm.trans (get_unnamed named)) filled

theorem truthy_orElse_unknown (value : Value) : (value.orElse (.str "Unknown")).truthy = true := by
  unfold Value.orElse
  split
  · assumption
  · decide

/-- The unnamed fields stay where the item has the same to say of them. -/
theorem kept_iff {target : Doc} (existing item : Doc) (env : Env) (ctx : WriteContext)
    (session : Option Doc) (d : GovernanceDecision) (mine : SameButBaseline target fields)
    (unnamed : ∀ name, name ≠ "erp_qty" → name ≠ "baseline_hash" → fields.has name = false → target name = none) :
    (∀ name ∈ keptNames, fields.has name = false → ∀ line,
      (Update.ofSet (applyAuthoritativeFields env ctx session target d item)).apply existing = some line →
        line.get name = existing.get name) ↔
    (fields.has "item_name" = true ∨ existing.get "item_name" = (item.get "item_name").orElse (.str "Unknown")) ∧
      (fields.has "barcode" = true ∨ (item.get "barcode").truthy = false ∨
        existing.get "barcode" = item.get "barcode") ∧
      (fields.has "mrp_counted" = true ∨
        existing.get "mrp_counted" = .num (countedPrice fields (itemPrice fields item))) := by
  generalize wrote : applyAuthoritativeFields env ctx session target d item = written
  have nameWritten : fields.has "item_name" = false →
      written.get "item_name" = (item.get "item_name").orElse (.str "Unknown") := by
    intro absent
    rw [← wrote, itemName_stamped, Doc.get, unnamed _ (by decide) (by decide) absent]
    rfl
  have barcodeWritten : fields.has "barcode" = false → written "barcode" =
      if (item.get "barcode").truthy then some (item.get "barcode") else none := by
    intro absent
    have missing := unnamed "barcode" (by decide) (by decide) absent
    have blank : (target.get "barcode").truthy = false := by
      rw [Doc.get, missing]
      rfl
    rw [← wrote, barcode_stamped, blank, missing]
    rfl
  have pricedWritten : written.get "mrp_counted" = .num (countedPrice fields (itemPrice fields item)) := by
    rw [← wrote, (derived_stamped env ctx session target item d).counted, itemPrice_same mine, countedPrice_same mine]
  have plainWritten : fields.has "counted_mrp" = false → written "counted_mrp" = none := by
    intro absent
    rw [← wrote, countedMrp_stamped, unnamed _ (by decide) (by decide) absent]
  have nameStays : fields.has "item_name" = false → (existing.update written).get "item_name" =
      (item.get "item_name").orElse (.str "Unknown") := by
    intro absent
    refine get_overwritten ?_ (nameWritten absent)
    intro null
    have filled := truthy_orElse_unknown (item.get "item_name")
    rw [null] at filled
    cases filled
  have barcodeStays : fields.has "barcode" = false → (existing.update written).get "barcode" =
      if (item.get "barcode").truthy then item.get "barcode" else existing.get "barcode" := by
    intro absent
    rw [get_update, Doc.has, Doc.get, barcodeWritten absent]
    split <;> rfl
  have pricedStays : (existing.update written).get "mrp_counted" =
      .num (countedPrice fields (itemPrice fields item)) := get_overwritten (by simp) pricedWritten
  simp only [Update.apply_ofSet, Option.some.injEq, forall_eq']
  constructor
  · intro kept
    refine ⟨?_, ?_, ?_⟩
    · cases named : fields.has "item_name" with
      | true => exact .inl rfl
      | false => exact .inr ((kept "item_name" (by decide) named).symm.trans (nameStays named))
    · cases named : fields.has "barcode" with
      | true => exact .inl rfl
      | false =>
        right
        have same := kept "barcode" (by decide) named
        rw [barcodeStays named] at same
        by_cases filled : (item.get "barcode").truthy = true
        · rw [if_pos filled] at same
          exact .inr same.symm
        · exact .inl (Bool.not_eq_true _ ▸ filled)
    · cases named : fields.has "mrp_counted" with
      | true => exact .inl rfl
      | false => exact .inr ((kept "mrp_counted" (by decide) named).symm.trans pricedStays)
  · rintro ⟨name, barcode, priced⟩ field member absent
    rcases mem_four.mp member with rfl | rfl | rfl | rfl
    · rw [nameStays absent]
      rcases name with named | same
      · rw [named] at absent
        cases absent
      · exact same.symm
    · rw [barcodeStays absent]
      rcases barcode with named | blank | same
      · rw [named] at absent
        cases absent
      · rw [blank]
        rfl
      · rw [same]
        split <;> rfl
    · rw [pricedStays]
      rcases priced with named | same
      · rw [named] at absent
        cases absent
      · exact same.symm
    · rw [get_update, Doc.has, plainWritten absent]
      rfl

/-- A counted line of the item with prices and a place of its own. -/
def pricedLine : Doc :=
  Doc.ofList [("id", .str "line-1"), ("session_id", .str "S1"), ("item_code", .str "I1"),
    ("item_name", .str "Bolt"), ("barcode", .str "890001"), ("counted_qty", .num 10), ("remark", .str "ok"),
    ("mrp_erp", .num 100), ("mrp_counted", .num 90), ("variance_reason", .str "damage"), ("version", .num 1)]

def pricedStore : Store := { countingStore with countLines := [pricedLine] }

def lineFilter : Filter := .eq "id" (.str "line-1")

/-- The request repeats the prices and the reason of the line. -/
def fullRequest : Doc :=
  Doc.ofList [("counted_qty", .num 9), ("item_name", .str "Bolt"), ("barcode", .str "890001"),
    ("mrp_erp", .num 100), ("mrp_counted", .num 90), ("variance_reason", .str "damage")]

def bareRequest : Doc := Doc.ofList [("counted_qty", .num 9)]

theorem evaluation_of_isOk (s : Store) (ctx : WriteContext) (line : Doc)
    (isOk : (evaluateGovernanceForDocument s ctx line).isOk = true) :
    ∃ e, evaluateGovernanceForDocument s ctx line = .ok e := by
  cases evaluated : evaluateGovernanceForDocument s ctx line with
  | ok e => exact ⟨e, rfl⟩
  | error reason =>
    rw [evaluated] at isOk
    cases isOk

end StockVerification
