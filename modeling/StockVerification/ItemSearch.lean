import StockVerification.ErpSync
import StockVerification.Foundation.FirstByKey
import StockVerification.Foundation.KeyedFolds
import StockVerification.Foundation.KeyedLists
import StockVerification.Foundation.Separators
import StockVerification.Foundation.Slices

/-!
# The ranked item search

Source: backend/services/search_service.py:88-364.

The cache is the one in memory. Lower case and the printing of numbers are parameters. The regular
expressions of a barcode query are its digits. An error of any pass over the candidates is an error
of the search.
-/
namespace StockVerification

open Foundation

namespace ItemSearch

/-- The test for digits, lower case, the search of the database for a text regardless of letter
case, and the ratio of two texts. -/
structure Texts where
  isDigit : Char → Bool
  lower : String → String
  found : String → String → Bool
  wRatio : String → String → ℚ

/-- A document of `erp_items` with what `str` makes of its fields: 10 and 10.0 are one number and
two texts. -/
structure StoredItem where
  doc : Doc
  printed : String → String
  printed_text : ∀ field text, doc field = some (.str text) → printed field = text

structure SearchCall where
  query : String
  page : ℤ := 1
  pageSize : ℤ := 20
  searchFields : List String := []

/-- The other fields are those of the item. -/
structure SearchResult where
  item : StoredItem
  itemName : String
  stockQty : ℚ
  relevanceScore : ℚ
  matchType : String

structure SearchResponse where
  items : List SearchResult
  total : ℕ
  page : ℤ
  pageSize : ℤ
  hasMore : Bool
  query : String

inductive Condition where
  | equals (field text : String)
  | begins (field text : String)
  | contains (field : String) (words : List String)

/-- The texts of a field that a regular expression is tried on. -/
def fieldTexts (item : StoredItem) (field : String) : List String :=
  match item.doc.get field with
  | .str text => [text]
  | .list items => items.filterMap fun | .str text => some text | _ => none
  | _ => []

/-- `str(item.get(field, ""))`. -/
def fieldText (item : StoredItem) (field : String) : String :=
  if (item.doc field).isSome then item.printed field else ""

/-- `item.get("item_name", "")` if it is a text. -/
def itemName (item : StoredItem) : Option String :=
  match (item.doc "item_name").getD (.str "") with
  | .str name => some name
  | _ => none

def barcodeFields : List String := ["barcode", "manual_barcode", "unit2_barcode", "unit_m_barcode"]

/-- The words of a text that have more than one character. -/
def tokens (text : String) : List String :=
  ((text.toList.splitOnP Text.isSpace).filter (1 < ·.length)).map String.ofList

/-- Where a text first contains another one. -/
def index (part whole : String) : Option ℕ :=
  (List.range (whole.length + 1)).find? fun i => part.toList.isPrefixOf (whole.toList.drop i)

variable (texts : Texts)

def Condition.holds (item : StoredItem) : Condition → Bool
  | .equals field text => (Filter.eq field (.str text)).holds item.doc
  | .begins field text => (fieldTexts item field).any fun stored => text.toList.isPrefixOf stored.toList
  | .contains field words => words.all fun word => (fieldTexts item field).any (texts.found word)

def isBarcodeQuery (query : String) : Bool := query.toList.all texts.isDigit && 6 ≤ query.length

def buildQuery (query : String) (isBarcode : Bool) (searchFields : List String) : List Condition :=
  let fields := if searchFields = [] then barcodeFields ++ ["item_code", "item_name"] else searchFields
  if isBarcode then
    barcodeFields.map (.equals · query) ++
      [.begins "barcode" query, .equals "item_code" query, .contains "item_name" [query]]
  else
    (if "barcode" ∈ fields then barcodeFields.map (.contains · [query]) else []) ++
      (if "item_code" ∈ fields then [.contains "item_code" [query]] else []) ++
      (if "item_name" ∈ fields then .contains "item_name" [query] ::
        (if 1 < (tokens query).length then [.contains "item_name" (tokens query)] else []) else [])

/-- At most as many as `MAX_CANDIDATES`. -/
def fetchCandidates (items : List StoredItem) (conditions : List Condition) : List StoredItem :=
  (items.filter fun item => conditions.any (·.holds texts item)).take 200

variable (query : String) (isBarcode : Bool)

def carries (item : StoredItem) : Bool := barcodeFields.any fun field => fieldText item field == query

def calculateScore (item : StoredItem) : ℚ × String :=
  let barcodes := (barcodeFields.map (fieldText item)).filter (· ≠ "")
  let nameLower := texts.lower ((itemName item).getD "")
  let queryLower := texts.lower query
  if barcodes.any (· == query) then (1000, "exact_barcode")
  else if barcodes.any fun b => query.toList.isPrefixOf b.toList then (550, "partial_barcode")
  else if isBarcode && barcodes.any fun b => (index query b).isSome then (525, "partial_barcode")
  else if texts.lower (fieldText item "item_code") = queryLower then (400, "exact_code")
  else match index queryLower nameLower with
    | some 0 => (350, "name_prefix")
    | some position => (200 + max 0 (50 - position), "name_contains")
    | none =>
      let words := tokens queryLower
      if 1 < words.length ∧ words.all fun word => (index word nameLower).isSome then (250, "token_match")
      else if 75 ≤ texts.wRatio queryLower nameLower then (texts.wRatio queryLower nameLower, "fuzzy")
      else (0, "none")

def dedupKey (item : StoredItem) : String × String × String :=
  (fieldText item "barcode", fieldText item "item_code", fieldText item "mrp")

/-- The scored candidates without duplicates. -/
def keptItems (candidates : List StoredItem) : List StoredItem :=
  firstByKey dedupKey id (candidates.filter fun item => 0 < (calculateScore texts query isBarcode item).1)

def searchResult (item : StoredItem) : SearchResult where
  item := item
  itemName := (itemName item).getD ""
  stockQty := (mongoStockQty item.doc).getD 0
  relevanceScore := (calculateScore texts query isBarcode item).1
  matchType := (calculateScore texts query isBarcode item).2

/-- The key of the sort. -/
def ranking : SearchResult → SearchResult → Ordering :=
  compareLex (compareOn fun result => if 0 < result.stockQty then 0 else 1)
    (compareLex (compareOn fun result => -result.relevanceScore) (compareOn (·.itemName)))

instance : Std.TransCmp ranking := inferInstanceAs (Std.TransCmp (compareLex _ (compareLex _ _)))

/-- None where a name is no text or a quantity no number. -/
def scoreCandidates (candidates : List StoredItem) : Option (List SearchResult) :=
  let scored := keptItems texts query isBarcode candidates
  if (candidates.all fun item => (itemName item).isSome) && scored.all fun item => (mongoStockQty item.doc).isSome then
    some ((scored.map (searchResult texts query isBarcode)).mergeSort fun a b => (ranking a b).isLE)
  else none

variable (items : List StoredItem)

def ranked (query : String) (searchFields : List String) : Option (List SearchResult) :=
  let isBarcode := isBarcodeQuery texts query
  scoreCandidates texts query isBarcode (fetchCandidates texts items (buildQuery query isBarcode searchFields))

/-- `items[start:stop]`; a negative place counts from the end. -/
def slice {α : Type} (items : List α) (start stop : ℤ) : List α :=
  let place (i : ℤ) : ℕ := (if i < 0 then i + items.length else i).toNat
  (items.take (place stop)).drop (place start)

def pageOf (query : String) (page pageSize : ℤ) (scoredItems : List SearchResult) : SearchResponse :=
  let startIdx := (page - 1) * pageSize
  let endIdx := startIdx + pageSize
  { items := slice scoredItems startIdx endIdx
    total := scoredItems.length
    page, pageSize
    hasMore := endIdx < scoredItems.length
    query }

def clampedSize (pageSize : ℤ) : ℤ := min (max 1 pageSize) 50

def cacheKey (query : String) (page pageSize : ℤ) : String :=
  "search:" ++ query ++ ":" ++ toString page ++ ":" ++ toString pageSize

structure CacheEntry where
  key : String
  timestamp : ℚ
  response : SearchResponse

/-- The answer, none where an error is raised, and the cache. The clock is read twice. -/
def search (call : SearchCall) (clock : ℚ × ℚ) (cache : List CacheEntry) : Option SearchResponse × List CacheEntry :=
  let query := Text.strip call.query
  let pageSize := clampedSize call.pageSize
  let key := cacheKey query call.page pageSize
  if query.length < 2 then (some ⟨[], 0, call.page, call.pageSize, false, query⟩, cache)
  else match (Table.find CacheEntry.key cache key).filter fun entry => clock.1 - entry.timestamp < 60 with
    | some entry => (some entry.response, cache)
    | none => match (ranked texts items query call.searchFields).map (pageOf query call.page pageSize) with
      | none => (none, cache)
      | some response => (some response, if response.total = 0 then cache else
          Table.upsert CacheEntry.key ⟨key, clock.2, response⟩ (if 200 < cache.length then [] else cache))

def keyOf (call : SearchCall) : String := cacheKey (Text.strip call.query) call.page (clampedSize call.pageSize)

/-- The answer of a search that does not use the cache. -/
def answerOf (call : SearchCall) : Option SearchResponse :=
  let query := Text.strip call.query
  if query.length < 2 then some ⟨[], 0, call.page, call.pageSize, false, query⟩
  else (ranked texts items query call.searchFields).map (pageOf query call.page (clampedSize call.pageSize))

/-- The cache after searches, each with its clock. -/
def cacheAfter (runs : List (SearchCall × ℚ × ℚ)) : List CacheEntry :=
  runs.foldl (fun cache run => (search texts items run.1 run.2 cache).2) []

def candidatesOf (query : String) (searchFields : List String) : List StoredItem :=
  fetchCandidates texts items (buildQuery query (isBarcodeQuery texts query) searchFields)

def keptOf (query : String) (searchFields : List String) : List StoredItem :=
  keptItems texts query (isBarcodeQuery texts query) (candidatesOf texts items query searchFields)

def inStock (item : StoredItem) : Prop := 0 < (mongoStockQty item.doc).getD 0

/-- Of the candidates that are kept, one with the barcode is in stock, or there is one and none is
in stock. -/
structure ScannedFirst (query : String) (searchFields : List String) : Prop where
  readable : ∀ item ∈ candidatesOf texts items query searchFields, (itemName item).isSome
  counted : ∀ item ∈ keptOf texts items query searchFields, (mongoStockQty item.doc).isSome
  leads : ∃ item ∈ keptOf texts items query searchFields, carries query item = true ∧
    (inStock item ∨ ∀ other ∈ keptOf texts items query searchFields, ¬ inStock other)

variable {texts query isBarcode items}

theorem any_barcode (filled : query ≠ "") (item : StoredItem) :
    ((barcodeFields.map (fieldText item)).filter (· ≠ "")).any (· == query) = carries query item := by
  rw [List.any_filter, List.any_map, carries]
  congr 1
  funext field
  by_cases same : fieldText item field = query
  · simp [same, filled]
  · simp [same]

theorem score_carried (filled : query ≠ "") {item : StoredItem} (carried : carries query item = true) :
    (searchResult texts query isBarcode item).relevanceScore = 1000 := by
  rw [searchResult, calculateScore, if_pos ((any_barcode filled item).trans carried)]

theorem score_other (filled : query ≠ "") (bounded : ∀ a b, texts.wRatio a b ≤ 100) {item : StoredItem}
    (other : carries query item = false) : (searchResult texts query isBarcode item).relevanceScore ≤ 550 := by
  rw [searchResult, calculateScore, if_neg (by simpa only [any_barcode filled, other] using Bool.false_ne_true)]
  dsimp only
  split
  · norm_num
  split
  · norm_num
  split
  · norm_num
  split
  · norm_num
  · next position _ _ =>
    have near : ((max 0 (50 - position) : ℕ) : ℚ) ≤ 50 := by exact_mod_cast (by omega : max 0 (50 - position) ≤ 50)
    dsimp only
    linarith
  split
  · norm_num
  split
  · exact (bounded _ _).trans (by norm_num)
  · norm_num

theorem ranking_le {a b : SearchResult} (le : (ranking a b).isLE) : (0 < b.stockQty → 0 < a.stockQty) ∧
    ((0 < a.stockQty → 0 < b.stockQty) → b.relevanceScore ≤ a.relevanceScore) := by
  have scores : (compareLex (compareOn fun result : SearchResult => -result.relevanceScore) (compareOn (·.itemName))
      a b).isLE → b.relevanceScore ≤ a.relevanceScore := by
    intro le
    by_contra less
    have greater : compare (-a.relevanceScore) (-b.relevanceScore) = .gt := compare_gt_iff_gt.mpr (by linarith)
    simp [compareLex, compareOn, greater] at le
  rw [ranking, compareLex, compareOn] at le
  by_cases first : 0 < a.stockQty
  · exact ⟨fun _ => first, fun both => scores (by simpa [first, both first] using le)⟩
  · by_cases second : 0 < b.stockQty
    · rw [if_neg first, if_pos second] at le
      exact absurd le Bool.false_ne_true
    · exact ⟨fun stocked => absurd stocked second, fun _ => scores (by simpa [first, second] using le)⟩

/-- The first of the sorted results is no worse than any other. -/
theorem first_ranked {results : List SearchResult} {first : SearchResult}
    (leads : (results.mergeSort fun a b => (ranking a b).isLE).head? = some first) :
    first ∈ results ∧ ∀ other ∈ results, (ranking first other).isLE := by
  have sorted := pairwise_mergeSort_cmp ranking results
  obtain ⟨rest, split⟩ := List.head?_eq_some_iff.mp leads
  have perm := List.mergeSort_perm results fun a b => (ranking a b).isLE
  rw [split] at sorted perm
  refine ⟨perm.mem_iff.mp List.mem_cons_self, fun other member => ?_⟩
  rcases List.mem_cons.mp (perm.mem_iff.mpr member) with rfl | later
  · exact Std.ReflCmp.isLE_rfl
  · exact (List.pairwise_cons.mp sorted).1 other later

theorem filled_of_barcode (barcode : isBarcodeQuery texts query = true) : query ≠ "" := by
  rintro rfl
  cases barcode

theorem ranked_first_iff {searchFields : List String} (bounded : ∀ a b, texts.wRatio a b ≤ 100)
    (barcode : isBarcodeQuery texts query = true) :
    (∃ scored first, ranked texts items query searchFields = some scored ∧ scored.head? = some first ∧
      carries query first.item = true) ↔ ScannedFirst texts items query searchFields := by
  have filled := filled_of_barcode barcode
  rw [ranked, ← candidatesOf, scoreCandidates, ← keptOf]
  constructor
  · rintro ⟨scored, first, ran, leads, carried⟩
    split at ran
    · next fine =>
      rw [← Option.some.inj ran] at leads
      rw [Bool.and_eq_true, List.all_eq_true, List.all_eq_true] at fine
      obtain ⟨member, least⟩ := first_ranked leads
      obtain ⟨item, kept, rfl⟩ := List.mem_map.mp member
      refine ⟨fine.1, fine.2, item, kept, carried, ?_⟩
      by_cases stocked : inStock item
      · exact .inl stocked
      · exact .inr fun other isKept inside => stocked ((ranking_le (least _ (List.mem_map_of_mem isKept))).1 inside)
    · cases ran
  · rintro ⟨readable, counted, item, kept, carried, alone⟩
    have member := (List.mergeSort_perm _ fun a b => (ranking a b).isLE).mem_iff.mpr
      (List.mem_map_of_mem (f := searchResult texts query (isBarcodeQuery texts query)) kept)
    obtain ⟨first, rest, split⟩ := List.exists_cons_of_ne_nil (List.ne_nil_of_mem member)
    have leads := List.head?_eq_some_iff.mpr ⟨rest, split⟩
    refine ⟨_, first, if_pos ?_, leads, ?_⟩
    · rw [Bool.and_eq_true, List.all_eq_true, List.all_eq_true]
      exact ⟨readable, counted⟩
    · obtain ⟨isResult, least⟩ := first_ranked leads
      obtain ⟨other, isKept, rfl⟩ := List.mem_map.mp isResult
      have better := (ranking_le (least _ (List.mem_map_of_mem kept))).2 fun inside =>
        alone.resolve_right fun nobody => nobody other isKept inside
      cases matched : carries query other with
      | true => exact matched
      | false =>
        have low := better.trans (score_other filled bounded matched)
        rw [score_carried filled carried] at low
        exact absurd low (by norm_num)

theorem pageOf_head {pageSize : ℤ} (scoredItems : List SearchResult) :
    (pageOf query 1 (clampedSize pageSize) scoredItems).items.head? = scoredItems.head? := by
  have positive : 0 < clampedSize pageSize := by
    unfold clampedSize
    omega
  simp [pageOf, slice, List.head?_take, positive.not_gt, positive]

/-- A search takes its answer from the cache, or leaves the cache as it is, or stores its answer. -/
theorem search_cases (texts : Texts) (items : List StoredItem) (call : SearchCall) (clock : ℚ × ℚ)
    (cache : List CacheEntry) :
    (∃ entry, Table.find CacheEntry.key cache (keyOf call) = some entry ∧ clock.1 - entry.timestamp < 60 ∧
      2 ≤ (Text.strip call.query).length ∧ search texts items call clock cache = (some entry.response, cache)) ∨
    search texts items call clock cache = (answerOf texts items call, cache) ∨
    ∃ response base, answerOf texts items call = some response ∧ (base = [] ∨ base = cache) ∧
      search texts items call clock cache =
        (some response, Table.upsert CacheEntry.key ⟨keyOf call, clock.2, response⟩ base) := by
  rw [search, answerOf, keyOf]
  split
  · exact .inr (.inl rfl)
  · next long =>
    split
    · next entry hit =>
      obtain ⟨held, young⟩ := Option.filter_eq_some_iff.mp hit
      exact .inl ⟨entry, held, of_decide_eq_true young, by omega, rfl⟩
    · split
      · next failed => exact .inr (.inl (by rw [failed]))
      · next response answered =>
        split
        · exact .inr (.inl (by rw [answered]))
        · exact .inr (.inr ⟨response, _, answered, by split <;> simp, rfl⟩)

theorem search_empty (call : SearchCall) (clock : ℚ × ℚ) :
    (search texts items call clock []).1 = answerOf texts items call := by
  obtain ⟨_, held, _⟩ | fresh | ⟨_, _, answered, _, stored⟩ := search_cases texts items call clock []
  · cases held
  · rw [fresh]
  · rw [stored, answered]

/-- The first of the results is an item with the scanned barcode. -/
def FindsScanned (texts : Texts) (items : List StoredItem) (call : SearchCall) (clock : ℚ × ℚ) : Prop :=
  ∃ response first, (search texts items call clock []).1 = some response ∧
    response.items.head? = some first ∧ carries (Text.strip call.query) first.item = true

/-- With an empty cache a scanned barcode finds its item first exactly where the candidates that are
kept allow it. -/
theorem scanned_first_iff {texts : Texts} {items : List StoredItem} {call : SearchCall} {clock : ℚ × ℚ}
    (bounded : ∀ a b, texts.wRatio a b ≤ 100) (barcode : isBarcodeQuery texts (Text.strip call.query) = true)
    (firstPage : call.page = 1) : FindsScanned texts items call clock ↔
      ScannedFirst texts items (Text.strip call.query) call.searchFields := by
  have long : 6 ≤ (Text.strip call.query).length := of_decide_eq_true (Bool.and_eq_true_iff.mp barcode).2
  rw [FindsScanned, search_empty, answerOf, if_neg (by omega), firstPage, ← ranked_first_iff bounded barcode]
  constructor
  · rintro ⟨response, first, answered, leads, carried⟩
    obtain ⟨scored, ran, rfl⟩ := Option.map_eq_some_iff.mp answered
    exact ⟨scored, first, ran, (pageOf_head scored).symm.trans leads, carried⟩
  · rintro ⟨scored, first, ran, leads, carried⟩
    exact ⟨_, first, Option.map_eq_some_iff.mpr ⟨scored, ran, rfl⟩, (pageOf_head scored).trans leads, carried⟩

def plainTexts : Texts := ⟨Char.isDigit, Text.lower, fun part whole => (index part whole).isSome, fun _ _ => 0⟩

theorem plain_bounded (a b : String) : plainTexts.wRatio a b ≤ 100 := by norm_num [plainTexts]

def shelfDoc (name barcode : String) (stock : ℚ) : Doc :=
  Doc.ofList [("item_name", .str name), ("barcode", .str barcode), ("mrp", .num 10), ("stock_qty", .num stock)]

/-- An item with a price of ten, stored as an integer or as a double. -/
def shelfItem (name barcode price : String) (stock : ℚ) : StoredItem where
  doc := shelfDoc name barcode stock
  printed field := if field = "mrp" then price else ((shelfDoc name barcode stock).get field).text
  printed_text field text stored := by
    by_cases priced : field = "mrp"
    · rw [priced] at stored
      cases stored
    · rw [if_neg priced, Doc.get_of_some stored, Value.text]

/-- A barcode that begins another one, and the stocks of both. -/
def shelf (scanned longer : ℚ) : List StoredItem :=
  [shelfItem "Nut" "123456" "10" scanned, shelfItem "Bolt" "1234567" "10" longer]

/-- The scanned item is sold out at one price, and in stock at a price that prints differently. -/
def pricedShelf : List StoredItem := shelf 0 5 ++ [shelfItem "Nut" "123456" "10.0" 5]

theorem stocked_first : FindsScanned plainTexts pricedShelf { query := "123456" } (0, 0) :=
  (scanned_first_iff plain_bounded (by decide +kernel) rfl).mpr
    ⟨by decide +kernel, by decide +kernel, by unfold inStock; decide +kernel⟩

theorem sold_out_second : ¬ ∀ (texts : Texts) (items : List StoredItem) (call : SearchCall) (clock : ℚ × ℚ),
    (∀ a b, texts.wRatio a b ≤ 100) → isBarcodeQuery texts (Text.strip call.query) = true → call.page = 1 →
    (∃ item ∈ items, carries (Text.strip call.query) item = true) → FindsScanned texts items call clock := by
  intro always
  obtain ⟨response, first, answered, leads, carried⟩ := always plainTexts (shelf 0 5)
    { query := "123456" } (0, 0) plain_bounded (by decide +kernel) rfl (by decide +kernel)
  rw [search_empty, answerOf, if_neg (by decide +kernel)] at answered
  obtain ⟨scored, ran, rfl⟩ := Option.map_eq_some_iff.mp answered
  have scanned := (ranked_first_iff plain_bounded (by decide +kernel)).mp
    ⟨scored, first, ran, (pageOf_head scored).symm.trans leads, carried⟩
  exact absurd scanned.leads (by unfold inStock; decide +kernel)

/-- The results are in order, have different keys and positive scores, and are those candidates of
which none with the same key came before. -/
structure Ranks (texts : Texts) (items : List StoredItem) (query : String)
    (searchFields : List String) (results : List SearchResult) : Prop where
  ordered : results.Pairwise fun a b => (ranking a b).isLE
  distinct : (results.map fun result => dedupKey result.item).Nodup
  found : ∀ result ∈ results, result.item ∈ candidatesOf texts items query searchFields ∧ 0 < result.relevanceScore
  complete : ∀ item ∈ candidatesOf texts items query searchFields,
    0 < (calculateScore texts query (isBarcodeQuery texts query) item).1 →
      ∃ result ∈ results, dedupKey result.item = dedupKey item

/-- Whenever the candidates are scored without an error, the results are the ranking of the
candidates. -/
theorem ranked_ranks {texts : Texts} {items : List StoredItem} {query : String} {searchFields : List String}
    {results : List SearchResult} (ran : ranked texts items query searchFields = some results) :
    Ranks texts items query searchFields results := by
  rw [ranked, ← candidatesOf, scoreCandidates, ← keptOf] at ran
  split at ran
  · rw [← Option.some.inj ran]
    have perm := List.mergeSort_perm ((keptOf texts items query searchFields).map
      (searchResult texts query (isBarcodeQuery texts query))) fun a b => (ranking a b).isLE
    refine ⟨pairwise_mergeSort_cmp ranking _, (perm.map _).nodup_iff.mpr ?_,
      fun result member => ?_, fun item candidate positive => ?_⟩
    · rw [List.map_map]
      exact firstByKey_nodup fun _ _ => rfl
    · obtain ⟨item, kept, rfl⟩ := List.mem_map.mp (perm.mem_iff.mp member)
      obtain ⟨_, read, rfl⟩ := mem_firstByKey kept
      exact (List.mem_filter.mp read).imp_right of_decide_eq_true
    · obtain ⟨other, kept, same⟩ : ∃ other ∈ keptOf texts items query searchFields, dedupKey other = dedupKey item :=
        firstByKey_covers (fun _ _ => rfl) (List.mem_filter.mpr ⟨candidate, decide_eq_true positive⟩)
      exact ⟨_, perm.mem_iff.mpr (List.mem_map_of_mem kept), same⟩
  · cases ran

theorem nuts_ranked : ∃ results, Ranks plainTexts pricedShelf "123456" [] results := by
  have ran : (ranked plainTexts pricedShelf "123456" []).isSome := by
    rw [ranked, scoreCandidates, if_pos (by decide +kernel)]
    rfl
  exact ⟨_, ranked_ranks (Option.some_get ran).symm⟩

/-! Searches with the cache. -/

theorem colon_apart (n : ℤ) : ':' ∉ (toString n).toList := by
  have digits (m : ℕ) : ':' ∉ m.repr.toList := by
    rw [Nat.repr_eq_ofList_toDigits, String.toList_ofList]
    intro member
    exact absurd (Nat.isDigit_of_mem_toDigits (by decide) (by decide) member) (by decide)
  rw [Int.toString_eq_repr, Int.repr_eq_if]
  split
  · exact digits _
  · simpa using digits (-n).toNat

theorem cacheKey_injective {query other : String} {page otherPage size otherSize : ℤ}
    (same : cacheKey query page size = cacheKey other otherPage otherSize) :
    query = other ∧ page = otherPage ∧ size = otherSize := by
  have lists := congrArg String.toList same
  simp only [cacheKey, String.toList_append, List.append_assoc, List.append_cancel_left_eq] at lists
  have sizes : query.toList ++ ':' :: (toString page).toList = other.toList ++ ':' :: (toString otherPage).toList ∧
      (toString size).toList = (toString otherSize).toList :=
    Separated.last_part (colon_apart size) (colon_apart otherSize) (by simpa using lists)
  have pages := Separated.last_part (colon_apart page) (colon_apart otherPage) sizes.1
  exact ⟨String.toList_inj.mp pages.1, Int.repr_inj.mp (String.toList_inj.mp pages.2),
    Int.repr_inj.mp (String.toList_inj.mp sizes.2)⟩

/-- The same of the fields that `buildQuery` knows are searched. -/
def Alike (isBarcode : Bool) (a b : List String) : Prop :=
  isBarcode = true ∨ ∀ field ∈ ["barcode", "item_code", "item_name"], (a = [] ∨ field ∈ a ↔ b = [] ∨ field ∈ b)

/-- What is found in the cache was the answer of one of the searches. -/
def Kept (texts : Texts) (items : List StoredItem) (runs : List (SearchCall × ℚ × ℚ)) (cache : List CacheEntry) : Prop :=
  ∀ key entry, Table.find CacheEntry.key cache key = some entry → ∃ past ∈ runs, keyOf past.1 = key ∧
    entry.timestamp = past.2.2 ∧ answerOf texts items past.1 = some entry.response

theorem cacheAfter_kept (runs : List (SearchCall × ℚ × ℚ)) : Kept texts items runs (cacheAfter texts items runs) := by
  induction runs using List.reverseRecOn with
  | nil => exact fun _ _ held => nomatch held
  | append_singleton runs run ih =>
    have earlier : Kept texts items (runs ++ [run]) (cacheAfter texts items runs) := by
      intro key entry held
      obtain ⟨past, member, answered⟩ := ih key entry held
      exact ⟨past, List.mem_append_left _ member, answered⟩
    rw [cacheAfter, List.foldl_append, List.foldl_cons, List.foldl_nil, ← cacheAfter]
    obtain ⟨_, _, _, _, served⟩ | fresh | ⟨response, base, answered, kept, stored⟩ :=
      search_cases texts items run.1 run.2 (cacheAfter texts items runs)
    · rwa [served]
    · rwa [fresh]
    · rw [stored]
      intro key entry held
      rw [Table.find_upsert] at held
      split at held
      · next named =>
        rw [← Option.some.inj held]
        exact ⟨run, by simp, named, rfl, answered⟩
      · rcases kept with rfl | rfl
        · cases held
        · exact earlier key entry held

theorem buildQuery_congr {a b : List String} (same : Alike isBarcode a b) :
    buildQuery query isBarcode a = buildQuery query isBarcode b := by
  rcases same with rfl | same
  · rfl
  have named (fields : List String) : ∀ field ∈ ["barcode", "item_code", "item_name"],
      (field ∈ if fields = [] then barcodeFields ++ ["item_code", "item_name"] else fields) =
        (fields = [] ∨ field ∈ fields) := by
    intro field known
    by_cases all : fields = []
    · revert field
      simp [all, barcodeFields]
    · simp [all]
  have agree := fun field known =>
    (named a field known).trans ((propext (same field known)).trans (named b field known).symm)
  simp only [buildQuery, agree "barcode" (by simp), agree "item_code" (by simp), agree "item_name" (by simp)]

theorem answer_alike {a b : SearchCall} (long : 2 ≤ (Text.strip b.query).length) (key : keyOf a = keyOf b)
    (alike : Alike (isBarcodeQuery texts (Text.strip b.query)) a.searchFields b.searchFields) :
    answerOf texts items a = answerOf texts items b := by
  obtain ⟨queries, pages, sizes⟩ := cacheKey_injective key
  rw [answerOf, answerOf, ranked, ranked, queries, pages, sizes,
    if_neg (by omega), if_neg (by omega), buildQuery_congr alike]

theorem slice_cast {α : Type} (items : List α) (start stop : ℕ) :
    slice items start stop = (items.take stop).drop start := by
  simp [slice, (Int.natCast_nonneg _).not_gt]

theorem pages_filled (query : String) (size : ℤ) (results : List SearchResult) : ∃ pages : List SearchResponse, pages ≠ [] ∧
    (∀ k (inside : k < pages.length), pages[k] = pageOf query (k + 1) (clampedSize size) results ∧
      pages[k].hasMore = decide (k + 1 < pages.length)) ∧ pages.flatMap (·.items) = results := by
  obtain ⟨width, positive, same⟩ : ∃ width : ℕ, 0 < width ∧ clampedSize size = width :=
    ⟨(clampedSize size).toNat, by unfold clampedSize; omega, by unfold clampedSize; omega⟩
  have starts (k : ℕ) : ((k : ℤ) + 1 - 1) * width = ((width * k : ℕ) : ℤ) := by
    push_cast
    ring
  rw [same]
  refine ⟨(List.range ((results.length - 1) / width + 1)).map fun k : ℕ => pageOf query (k + 1) width results,
    by simp, fun k inside => ?_, ?_⟩
  · have more := Nat.le_div_iff_mul_le positive (x := k + 1) (y := results.length - 1)
    have filled : 0 < (k + 1) * width := Nat.mul_pos k.succ_pos positive
    simp only [List.getElem_map, List.getElem_range, List.length_map, List.length_range, true_and]
    simp only [pageOf, starts, ← Nat.cast_add, Nat.cast_lt, decide_eq_decide]
    rw [Nat.mul_comm, Nat.mul_add_one] at more filled
    omega
  · have page (k : ℕ) : (pageOf query (k + 1) width results).items = (results.drop (width * k)).take width := by
      rw [pageOf, starts, ← Nat.cast_add]
      dsimp only
      rw [slice_cast, List.drop_take, Nat.add_sub_cancel_left]
    rw [List.flatMap_map]
    simp only [page, List.flatMap_def]
    rw [slices_range, List.take_of_length_le]
    have enough := Nat.lt_mul_div_succ (results.length - 1) positive
    omega

/-- Every answer of the run is the one of an empty cache, and the pages of a query are its
results. -/
structure CacheFaithful (texts : Texts) (items : List StoredItem) (runs : List (SearchCall × ℚ × ℚ)) : Prop where
  served : ∀ before run after, runs = before ++ run :: after →
    (search texts items run.1 run.2 (cacheAfter texts items before)).1 = (search texts items run.1 run.2 []).1
  paged : ∀ (call : SearchCall) clock results, 2 ≤ (Text.strip call.query).length →
    ranked texts items (Text.strip call.query) call.searchFields = some results →
      ∃ pages : List SearchResponse, pages ≠ [] ∧ (∀ k (inside : k < pages.length),
        (search texts items { call with page := k + 1 } clock []).1 = some pages[k] ∧
        pages[k].hasMore = decide (k + 1 < pages.length)) ∧ pages.flatMap (·.items) = results

/-- Within a minute, searches of one text on one page look in the same fields. -/
theorem faithful_of_alike {texts : Texts} {items : List StoredItem} {runs : List (SearchCall × ℚ × ℚ)}
    (alike : runs.Pairwise fun past later => keyOf past.1 = keyOf later.1 → later.2.1 - past.2.2 < 60 →
      Alike (isBarcodeQuery texts (Text.strip later.1.query)) past.1.searchFields later.1.searchFields) :
    CacheFaithful texts items runs := by
  constructor
  · rintro before run after rfl
    rw [search_empty]
    obtain ⟨entry, held, young, long, served⟩ | fresh | ⟨_, _, answered, _, stored⟩ :=
      search_cases texts items run.1 run.2 (cacheAfter texts items before)
    · obtain ⟨past, member, key, stamp, answered⟩ := cacheAfter_kept before _ _ held
      rw [stamp] at young
      have fields := (List.pairwise_append.mp alike).2.2 past member run List.mem_cons_self key young
      rw [served]
      exact answered.symm.trans (answer_alike long key fields)
    · rw [fresh]
    · rw [stored, answered]
  · intro call clock results long ran
    obtain ⟨pages, filled, each, whole⟩ := pages_filled (Text.strip call.query) call.pageSize results
    refine ⟨pages, filled, fun k inside => ⟨?_, (each k inside).2⟩, whole⟩
    rw [search_empty, answerOf, if_neg (Nat.not_lt.mpr long), ran, (each k inside).1]
    rfl

theorem bolts_searched :
    CacheFaithful plainTexts (shelf 1 5) [({ query := "Bolt" }, 0, 0), ({ query := "Bolt" }, 1, 1)] :=
  faithful_of_alike (by simp [Alike])

/-- A search in one field is answered with what was found in all of them. -/
theorem fields_mixed : ¬ ∀ texts items runs, CacheFaithful texts items runs := by
  intro always
  have same := congrArg (Option.map SearchResponse.total) ((always plainTexts (shelf 1 5) _).served
    [({ query := "Bolt" }, 0, 0)] ({ query := "Bolt", searchFields := ["item_code"] }, 1, 1) [] rfl)
  revert same
  rw [search_empty, cacheAfter, List.foldl_cons, List.foldl_nil, answerOf, search, search, ranked, ranked]
  simp only [scoreCandidates]
  rw [List.mergeSort_of_pairwise (by decide +kernel), List.mergeSort_of_pairwise (by decide +kernel)]
  decide +kernel

end ItemSearch

end StockVerification
