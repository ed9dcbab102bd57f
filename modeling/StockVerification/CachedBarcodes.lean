import StockVerification.OfflineQueue
import StockVerification.TextDistance

/-!
# Barcodes looked up offline

Source: frontend/src/services/api/inventoryWorkflowApi.ts:47-93, 233-245 and 364-375,
frontend/src/services/offline/offlineStorage.ts:231-279, frontend/src/utils/validation.ts:109-151
and frontend/src/utils/algorithms.ts:17-51.

A scanned barcode is checked, trimmed and put into upper case. Without a connection it goes through
the search for typed text, which looks at code, name and barcode, and the first hit is the answer.
-/
namespace StockVerification

open Foundation

/-- A character of `[A-Za-z0-9]`. -/
def isCodeCharacter (c : Char) : Bool :=
  (Text.digit c).isSome || (0x41 ≤ c.toNat && c.toNat ≤ 0x5a) || (0x61 ≤ c.toNat && c.toNat ≤ 0x7a)

/-- `validateBarcode`: the barcode to look for, or what is wrong with it. -/
def BarcodeLookup.validateBarcode (barcode : String) : Except String String :=
  let trimmed := Text.upper (trim barcode)
  if trim barcode = "" then .error "Barcode cannot be empty"
  else if trimmed.toList.all fun c => (Text.digit c).isSome then
    if trimmed.length < 2 then .error "Invalid barcode: numeric barcodes must be at least 2 digits"
    else if 20 < trimmed.length then .error "Barcode is too long (max 20 digits)"
    else .ok trimmed
  else if trimmed.toList.all fun c => isCodeCharacter c || c == '_' || c == '-' then
    if trimmed.length < 2 then .error "Item code must be at least 2 characters"
    else if 50 < trimmed.length then .error "Item code is too long (max 50 characters)"
    else .ok trimmed
  else .error "Invalid barcode format. Use letters, numbers, hyphens, and underscores."

/-- The code units of a text; a character beyond the basic plane has two. -/
def codeUnits (text : String) : List Nat :=
  text.toList.flatMap fun c =>
    if c.toNat < 0x10000 then [c.toNat]
    else [0xd800 + (c.toNat - 0x10000) / 1024, 0xdc00 + (c.toNat - 0x10000) % 1024]

structure CachedItem where
  itemCode : Option String := none
  barcode : Option String := none
  itemName : Option String := none
  description : Option String := none
  currentStock : Option ℚ := none
  stockQty : Option ℚ := none
  uomName : Option String := none
  uom : Option String := none
  mrp : Option ℚ := none
  salesPrice : Option ℚ := none
  category : Option String := none
  subcategory : Option String := none
  isSerialized : Option Bool := none
  cachedAt : Option String := none

/-- Whether `searchItemsInCache` keeps an item. The search for a barcode is in ASCII. -/
def isSearchHit (query : String) (item : CachedItem) : Bool :=
  let lowerQuery := Text.lower query
  let code := Text.lower (item.itemCode.getD "")
  let name := Text.lower (item.itemName.getD "")
  let barcode := Text.lower (item.barcode.getD "")
  includes code lowerQuery || includes name lowerQuery || includes barcode lowerQuery ||
    (decide (3 < (codeUnits lowerQuery).length) &&
      decide (matrixDistance (codeUnits name) (codeUnits lowerQuery) ≤ 2))

/-- `searchItemsInCache`. The cache is given by its values, in their order. -/
def searchItemsInCache (query : String) (cache : List CachedItem) : List CachedItem := cache.filter (isSearchHit query)

structure InventoryItem where
  id : Option String
  name : Option String
  itemCode : Option String
  barcode : Option String
  itemName : Option String
  description : Option String
  stockQty : ℚ
  currentStock : ℚ
  uomName : Option String
  mrp : Option ℚ
  salesPrice : Option ℚ
  category : Option String
  subcategory : Option String
  isSerialized : Bool
  source : String
  cachedAt : Option String
  stale : Bool

/-- `toCachedInventoryItem`. Whether the entry is stale depends on the clock and the settings. -/
def toCachedInventoryItem (isCacheStale : Option String → Bool) (cached : CachedItem) : InventoryItem :=
  let stockValue := (cached.currentStock.or cached.stockQty).getD 0
  { id := cached.itemCode
    name := cached.itemName
    itemCode := cached.itemCode
    barcode := cached.barcode
    itemName := cached.itemName
    description := cached.description
    stockQty := stockValue
    currentStock := stockValue
    uomName := cached.uomName.or cached.uom
    mrp := cached.mrp
    salesPrice := cached.salesPrice
    category := cached.category
    subcategory := cached.subcategory
    isSerialized := cached.isSerialized.getD false
    source := "cache"
    cachedAt := cached.cachedAt
    stale := isCacheStale cached.cachedAt }

structure AppError where
  code : String
  message : String

def getCachedBarcodeItem (isCacheStale : Option String → Bool) (barcode : String)
    (cache : List CachedItem) : Except AppError InventoryItem :=
  match searchItemsInCache barcode cache with
  | item :: _ => .ok (toCachedInventoryItem isCacheStale item)
  | [] => .error ⟨"ITEM_CACHE_MISS", "Item not found in offline cache: " ++ barcode⟩

/-- `getItemByBarcode` without a connection. -/
def getItemByBarcode (isCacheStale : Option String → Bool) (barcode : String)
    (cache : List CachedItem) : Except AppError InventoryItem :=
  match BarcodeLookup.validateBarcode barcode with
  | .error message => .error ⟨"INVALID_BARCODE", message⟩
  | .ok trimmedBarcode => getCachedBarcodeItem isCacheStale trimmedBarcode cache

/-- An item with the scanned barcode is found if there is one, and no other item is returned. -/
structure LookupExact (isCacheStale : Option String → Bool) (barcode : String) (cache : List CachedItem) : Prop where
  finds : (∃ item ∈ cache, item.barcode = some barcode) → ∃ item ∈ cache, item.barcode = some barcode ∧
    getItemByBarcode isCacheStale barcode cache = .ok (toCachedInventoryItem isCacheStale item)
  only : ∀ found, getItemByBarcode isCacheStale barcode cache = .ok found → found.barcode = some barcode

/-- Every hit that has another barcode stands behind one that has this barcode, and an item with
this barcode does not stand in a cache without hits, as one with `ß1` may: it is looked for as
`SS1`. -/
structure BarcodeLeads (barcode query : String) (cache : List CachedItem) : Prop where
  first : ∀ front item back, cache = front ++ item :: back → isSearchHit query item = true →
    item.barcode ≠ some barcode → ∃ other ∈ front, isSearchHit query other = true ∧ other.barcode = some barcode
  hit : (∃ item ∈ cache, item.barcode = some barcode) → ∃ item ∈ cache, isSearchHit query item = true

section

variable {isCacheStale : Option String → Bool} {barcode query : String} {cache : List CachedItem}

theorem getCachedBarcodeItem_ok {found : InventoryItem} : getCachedBarcodeItem isCacheStale query cache = .ok found ↔
      ∃ item, cache.find? (isSearchHit query) = some item ∧ found = toCachedInventoryItem isCacheStale item := by
  rw [getCachedBarcodeItem, searchItemsInCache, ← List.head?_filter]
  cases cache.filter (isSearchHit query) with
  | nil => simp
  | cons item rest => simp [eq_comm]

/-- Hits with other barcodes stand behind exactly if the first hit has the barcode. -/
theorem first_hit_iff : (∀ item, cache.find? (isSearchHit query) = some item → item.barcode = some barcode) ↔
    ∀ front item back, cache = front ++ item :: back → isSearchHit query item = true → item.barcode ≠ some barcode →
      ∃ other ∈ front, isSearchHit query other = true ∧ other.barcode = some barcode := by
  constructor
  · intro leads front item back split isHit differs
    have found : cache.find? (isSearchHit query) ≠ none := by
      intro none_
      rw [List.find?_eq_none] at none_
      exact none_ item (by rw [split]; simp) isHit
    obtain ⟨first, isFirst⟩ := Option.ne_none_iff_exists'.mp found
    have named := leads first isFirst
    rw [split, List.find?_append] at isFirst
    cases early : front.find? (isSearchHit query) with
    | some other =>
      rw [early, Option.some_or, Option.some.injEq] at isFirst
      subst isFirst
      exact ⟨other, List.mem_of_find?_eq_some early, List.find?_some early, named⟩
    | none =>
      rw [early, Option.none_or, List.find?_cons, isHit, Option.some.injEq] at isFirst
      subst isFirst
      exact absurd named differs
  · intro behind item found
    obtain ⟨isHit, front, back, split, before⟩ := List.find?_eq_some_iff_append.mp found
    by_contra differs
    obtain ⟨other, early, otherHit, _⟩ := behind front item back split isHit differs
    have missed := before other early
    rw [otherHit] at missed
    cases missed

/-- A barcode that is refused leads to no item. -/
theorem refused_lookup_iff {message : String} (refused : BarcodeLookup.validateBarcode barcode = .error message) :
    LookupExact isCacheStale barcode cache ↔ ∀ item ∈ cache, item.barcode ≠ some barcode := by
  have fails : getItemByBarcode isCacheStale barcode cache = .error ⟨"INVALID_BARCODE", message⟩ := by
    rw [getItemByBarcode, refused]
  constructor
  · intro exact_ item member named
    obtain ⟨_, _, _, found⟩ := exact_.finds ⟨item, member, named⟩
    rw [fails] at found
    cases found
  · intro absent
    constructor
    · rintro ⟨item, member, named⟩
      exact absurd named (absent item member)
    · intro found returned
      rw [fails] at returned
      cases returned

/-- A barcode that is accepted leads to the first hit. -/
theorem accepted_lookup_iff (accepted : BarcodeLookup.validateBarcode barcode = .ok query) :
    LookupExact isCacheStale barcode cache ↔ BarcodeLeads barcode query cache := by
  have looks : getItemByBarcode isCacheStale barcode cache = getCachedBarcodeItem isCacheStale query cache := by
    rw [getItemByBarcode, accepted]
  constructor
  · intro exact_
    constructor
    · rw [← first_hit_iff]
      intro item found
      exact exact_.only (toCachedInventoryItem isCacheStale item)
        (looks.trans (getCachedBarcodeItem_ok.mpr ⟨item, found, rfl⟩))
    · intro stored
      obtain ⟨_, _, _, returned⟩ := exact_.finds stored
      obtain ⟨first, found, _⟩ := getCachedBarcodeItem_ok.mp (looks.symm.trans returned)
      exact ⟨first, List.mem_of_find?_eq_some found, List.find?_some found⟩
  · intro leads
    have named := first_hit_iff.mpr leads.first
    constructor
    · intro stored
      obtain ⟨item, member, isHit⟩ := leads.hit stored
      have some_ : (cache.find? (isSearchHit query)).isSome = true := List.find?_isSome.mpr ⟨item, member, isHit⟩
      obtain ⟨first, found⟩ := Option.isSome_iff_exists.mp some_
      exact ⟨first, List.mem_of_find?_eq_some found, named first found,
        looks.trans (getCachedBarcodeItem_ok.mpr ⟨first, found, rfl⟩)⟩
    · intro found returned
      obtain ⟨first, isFirst, rfl⟩ := getCachedBarcodeItem_ok.mp (looks.symm.trans returned)
      exact named first isFirst

/-- For a well-formed barcode the lookup is exact under this condition and no other; an item whose
barcode is not well-formed is never found. -/
theorem lookup_exact_iff (isCacheStale : Option String → Bool) (barcode : String) (cache : List CachedItem) :
    LookupExact isCacheStale barcode cache ↔
      match BarcodeLookup.validateBarcode barcode with
      | .ok query => BarcodeLeads barcode query cache
      | .error _ => ∀ item ∈ cache, item.barcode ≠ some barcode := by
  cases validated : BarcodeLookup.validateBarcode barcode with
  | error message => exact refused_lookup_iff validated
  | ok query => exact accepted_lookup_iff validated

end

/-- An item whose barcode contains another one, and the item with that barcode. -/
def nestedBarcodes : List CachedItem :=
  [{ itemCode := some "I1", itemName := some "Rice", barcode := some "512345" },
    { itemCode := some "I2", itemName := some "Salt", barcode := some "1234" }]

/-- The item in front is returned for the barcode of the one behind. -/
theorem nested_barcode_mistaken :
    ¬ (∀ (isCacheStale : Option String → Bool) (barcode : String) (cache : List CachedItem),
      LookupExact isCacheStale barcode cache) ∧
    (getItemByBarcode (fun _ => false) "1234" nestedBarcodes).toOption.map (·.itemCode) = some (some "I1") := by
  refine ⟨?_, by decide +kernel⟩
  intro always
  obtain ⟨item, member, named, returned⟩ :=
    (always (fun _ => false) "1234" nestedBarcodes).finds ⟨nestedBarcodes[1], by simp [nestedBarcodes], rfl⟩
  have mistaken : (getItemByBarcode (fun _ => false) "1234" nestedBarcodes).toOption.map (·.barcode) =
      some (some "512345") := by
    decide +kernel
  rw [returned] at mistaken
  have other : item.barcode = some "512345" := Option.some.inj mistaken
  rw [named, Option.some.injEq] at other
  exact absurd other (by decide)

section

open EditDistance

/-- Offline, an item is found by a part of its code, name or barcode, or by a longer text that at
most two edits make of its name. -/
theorem searched_iff {query : String} {cache : List CachedItem} {item : CachedItem} :
    item ∈ searchItemsInCache query cache ↔ item ∈ cache ∧
      ((∃ part ∈ [item.itemCode, item.itemName, item.barcode], includes (Text.lower (part.getD "")) (Text.lower query)) ∨
        3 < (codeUnits (Text.lower query)).length ∧ ∃ n ≤ 2,
          Script n (codeUnits (Text.lower (item.itemName.getD ""))) (codeUnits (Text.lower query))) := by
  have edits (a b : List Nat) : matrixDistance a b ≤ 2 ↔ ∃ n ≤ 2, Script n a b := by
    rw [matrixDistance_eq]
    constructor
    · exact fun few => ⟨_, few, script_reverse_iff.mp (script_distance a.reverse b.reverse)⟩
    · rintro ⟨n, few, script⟩
      exact (distance_le script.reverse).trans few
  simp [searchItemsInCache, isSearchHit, edits, or_assoc]

end

end StockVerification
