import Mathlib.Algebra.Order.Ring.Unbundled.Rat
import Mathlib.Data.List.Sort
import StockVerification.Foundation.BestRows
import StockVerification.Foundation.Document
import StockVerification.Foundation.KeyedFolds

/-!
# One item of each family

Source: frontend/src/utils/itemBatchUtils.ts:1-99.

A family is the items with one code, or without a code one name, or without both one barcode. The
best item of every family stays where its family came up first, and the whole is sorted.
-/
namespace StockVerification

open Foundation

namespace ItemFamilies

/-- A number that is not finite counts as no number. -/
structure ItemWithStock where
  stockQty : Value := .null
  currentStock : Value := .null
  batchNo : Value := .null
  itemCode : Value := .null
  itemName : Value := .null
  name : Value := .null
  barcode : Value := .null
  deriving DecidableEq

/-- The type of the items, and the functions of the language on texts: the number at the start of a
text if it is finite, trimming with the change to lower case, and the comparison of the locale. -/
structure Client (T : Type) where
  view : T → ItemWithStock
  parseFloat : String → Option ℚ
  trimLower : String → String
  localeCompare : String → String → Ordering

variable {T : Type} (c : Client T)

def toNumber : Value → ℚ
  | .num q => q
  | .str text => (c.parseFloat text).getD 0
  | _ => 0

def toKeyText : Value → String
  | .str text => c.trimLower text
  | _ => ""

def compareText (a b : Value) : Ordering := c.localeCompare (toKeyText c a) (toKeyText c b)

def itemFamilyKey (item : T) : String :=
  let item := c.view item
  let itemCode := toKeyText c item.itemCode
  let itemName := toKeyText c (if item.itemName = .null then item.name else item.itemName)
  let barcode := toKeyText c item.barcode
  if itemCode ≠ "" then "code:" ++ itemCode
  else if itemName ≠ "" then "name:" ++ itemName
  else if barcode ≠ "" then "barcode:" ++ barcode
  else ""

def getStockQty (item : T) : ℚ :=
  let item := c.view item
  if toNumber c item.stockQty ≠ 0 then toNumber c item.stockQty else toNumber c item.currentStock

/-- The sign of the difference. -/
def compareByStockThenIdentity (a b : T) : Ordering :=
  (compare (getStockQty c b) (getStockQty c a)).then <|
    (compareText c (c.view a).batchNo (c.view b).batchNo).then <|
      (compareText c (c.view a).itemCode (c.view b).itemCode).then
        (compareText c (c.view a).barcode (c.view b).barcode)

/-- The sort of the language is stable. -/
def sortItemsByStockDesc (items : List T) : List T :=
  items.mergeSort fun a b => (compareByStockThenIdentity c a b).isLE

/-- The map of the best items, in the order in which their keys were set first, and the items
without a key. -/
structure Sorting (T : Type) where
  deduped : List T := []
  unkeyed : List T := []

/-- The body of the loop. -/
def takeItem (sorting : Sorting T) (item : T) : Sorting T :=
  if itemFamilyKey c item = "" then { sorting with unkeyed := sorting.unkeyed ++ [item] }
  else
    { sorting with deduped := Table.improve (itemFamilyKey c) (compareByStockThenIdentity c) sorting.deduped item }

def dedupeItemsKeepingHighestStock (items : List T) : List T :=
  let sorting := items.foldl (takeItem c) {}
  sortItemsByStockDesc c (sorting.deduped ++ sorting.unkeyed)

/-- An item with a key; the others do not get into the map. -/
def keyed (item : T) : Bool := itemFamilyKey c item ≠ ""

def bestItems (items : List T) : List T :=
  (items.filter (keyed c)).foldl (Table.improve (itemFamilyKey c) (compareByStockThenIdentity c)) []

theorem items_taken (items : List T) : items.foldl (takeItem c) {} = ⟨bestItems c items, items.filter (!keyed c ·)⟩ := by
  induction items using List.reverseRecOn with
  | nil => rfl
  | append_singleton seen item ih =>
    rw [List.foldl_append, ih, List.foldl_cons, List.foldl_nil, takeItem, bestItems, bestItems,
      List.filter_append, List.filter_append, List.foldl_append]
    by_cases blank : itemFamilyKey c item = "" <;> simp [keyed, blank]

theorem dedupe_perm (items : List T) :
    (dedupeItemsKeepingHighestStock c items).Perm (bestItems c items ++ items.filter (!keyed c ·)) := by
  rw [dedupeItemsKeepingHighestStock, items_taken]
  exact List.mergeSort_perm _ _

theorem transCmp_view {α β : Type} (cmp : β → β → Ordering) [Std.TransCmp cmp] (view : α → β) :
    Std.TransCmp fun a b => cmp (view a) (view b) where
  eq_swap := Std.OrientedCmp.eq_swap
  isLE_trans := Std.TransCmp.isLE_trans

/-- One item for each key that occurs, the one with the highest stock, and all items without a key,
sorted. -/
structure OneOfEach (items result : List T) : Prop where
  sorted : result.Pairwise fun a b => (compareByStockThenIdentity c a b).isLE
  members : ∀ item ∈ result, item ∈ items
  unkeyed : (result.filter (itemFamilyKey c · = "")).Perm (items.filter (itemFamilyKey c · = ""))
  families : ∀ item ∈ items, itemFamilyKey c item ≠ "" →
    ∃ best ∈ items, result.filter (itemFamilyKey c · = itemFamilyKey c item) = [best] ∧
      ∀ other ∈ items, itemFamilyKey c other = itemFamilyKey c item → getStockQty c other ≤ getStockQty c best

variable [Std.TransCmp c.localeCompare]

instance : Std.TransCmp (compareByStockThenIdentity c) := by
  have texts (field : ItemWithStock → Value) :
      Std.TransCmp fun a b => compareText c (field (c.view a)) (field (c.view b)) :=
    transCmp_view c.localeCompare fun a => toKeyText c (field (c.view a))
  have stock : Std.TransCmp fun a b => compare (getStockQty c b) (getStockQty c a) :=
    transCmp_view (fun p q : ℚ => compare q p) (getStockQty c)
  have batches := texts ItemWithStock.batchNo
  have codes := texts ItemWithStock.itemCode
  have barcodes := texts ItemWithStock.barcode
  exact inferInstanceAs (Std.TransCmp (compareLex _ (compareLex _ (compareLex _ _))))

theorem best_items (items : List T) :
    Table.Best (itemFamilyKey c) (compareByStockThenIdentity c) (items.filter (keyed c)) (bestItems c items) :=
  Table.best_improved _ _

theorem dedupe_sorted (items : List T) :
    (dedupeItemsKeepingHighestStock c items).Pairwise fun a b => (compareByStockThenIdentity c a b).isLE :=
  pairwise_mergeSort_cmp _ _

theorem dedupe_keeps (items : List T) : OneOfEach c items (dedupeItemsKeepingHighestStock c items) := by
  have best := best_items c items
  have same := dedupe_perm c items
  have filled : ∀ item ∈ bestItems c items, itemFamilyKey c item ≠ "" := fun item chosen => by
    simpa [keyed] using (List.mem_filter.mp (best.least item chosen).1).2
  refine ⟨dedupe_sorted c items, fun item member => ?_, (same.filter _).trans ?_, fun item known isKeyed => ?_⟩
  · rcases List.mem_append.mp (same.mem_iff.mp member) with chosen | unkeyed
    · exact (List.mem_filter.mp (best.least item chosen).1).1
    · exact (List.mem_filter.mp unkeyed).1
  · rw [List.filter_append, List.filter_filter, List.filter_eq_nil_iff.mpr (by simpa using filled), List.nil_append]
    simp [keyed]
  · obtain ⟨chosen, stands, named⟩ := best.covers item (List.mem_filter.mpr ⟨known, by simpa [keyed] using isKeyed⟩)
    obtain ⟨inside, least⟩ := best.least chosen stands
    refine ⟨chosen, (List.mem_filter.mp inside).1, ?_, fun other isKnown alike => ?_⟩
    · have unkeyed : (items.filter (!keyed c ·)).filter (itemFamilyKey c · = itemFamilyKey c chosen) = [] := by
        simp only [keyed, List.filter_filter, List.filter_eq_nil_iff, Bool.and_eq_true, decide_eq_true_eq]
        intro other _ both
        simp [both.1, filled chosen stands] at both
      rw [← List.perm_singleton, ← named, ← best.single stands]
      refine (same.filter _).trans ?_
      rw [List.filter_append, unkeyed, List.append_nil]
    · have before := least other (List.mem_filter.mpr ⟨isKnown, by simpa [keyed, alike] using isKeyed⟩)
        (alike.trans named.symm)
      exact compare_le_iff_le.mp (Ordering.isLE_iff_ne_gt.mp (Ordering.isLE_left_of_isLE_then before))

/-- The best of each family is kept, whatever the order of the items; the order of the result may
depend on it where items of different families tie. -/
theorem families_kept (items : List T) :
    OneOfEach c items (dedupeItemsKeepingHighestStock c items) ∧
    ∀ others, items.Perm others →
      (items.filter (keyed c)).Pairwise (Table.Untied (itemFamilyKey c) (compareByStockThenIdentity c)) →
      (dedupeItemsKeepingHighestStock c items).Perm (dedupeItemsKeepingHighestStock c others) ∧
      ((dedupeItemsKeepingHighestStock c items).Pairwise (compareByStockThenIdentity c · · ≠ .eq) →
        dedupeItemsKeepingHighestStock c items = dedupeItemsKeepingHighestStock c others) := by
  refine ⟨dedupe_keeps c items, fun others same untied => ?_⟩
  have chosen := (best_items c items).perm (best_items c others) (same.filter _) untied
  have results := (dedupe_perm c items).trans ((chosen.append (same.filter _)).trans (dedupe_perm c others).symm)
  refine ⟨results, fun apart => ?_⟩
  have symmetric : Std.Symm fun a b : T => compareByStockThenIdentity c a b ≠ .eq :=
    ⟨fun _ _ differ tied => differ (Std.OrientedCmp.eq_comm.mp tied)⟩
  refine List.Perm.eq_of_pairwise (fun a b member isOther less more => ?_) (dedupe_sorted c items)
    (dedupe_sorted c others) results
  by_contra differ
  exact apart.forall member (results.mem_iff.mpr isOther) differ (Std.OrientedCmp.isLE_antisymm less more)

/-- The texts are trimmed and in lower case, and no text is read as a number. -/
def plainClient : Client ItemWithStock where
  view := id
  parseFloat := fun _ => none
  trimLower := id
  localeCompare := compare

def stockedItems : List ItemWithStock :=
  [{ name := .str "a", stockQty := .num 1 }, { name := .str "b", stockQty := .num 5 },
    { name := .str "a", stockQty := .num 2 }]

/-- Two families of three items, whatever their order. -/
theorem families_kept_stocked :
    OneOfEach plainClient stockedItems (dedupeItemsKeepingHighestStock plainClient stockedItems) ∧
    dedupeItemsKeepingHighestStock plainClient stockedItems =
      dedupeItemsKeepingHighestStock plainClient stockedItems.reverse := by
  have transitive : Std.TransCmp plainClient.localeCompare := inferInstanceAs (Std.TransOrd String)
  have kept := families_kept plainClient stockedItems
  refine ⟨kept.1, (kept.2 _ (List.reverse_perm _).symm (by unfold Table.Untied; decide +kernel)).2 ?_⟩
  refine ((dedupe_perm plainClient stockedItems).pairwise_iff ?_).mpr (by decide +kernel)
  exact fun differ tied => differ (Std.OrientedCmp.eq_comm.mp tied)

def pricelessItems : List ItemWithStock := [{ name := .str "a" }, { name := .str "b" }]

/-- Two families without codes tie, and the result has the order of the list. -/
theorem order_told_apart : ∃ others, pricelessItems.Perm others ∧
    (pricelessItems.filter (keyed plainClient)).Pairwise
      (Table.Untied (itemFamilyKey plainClient) (compareByStockThenIdentity plainClient)) ∧
    dedupeItemsKeepingHighestStock plainClient pricelessItems ≠ dedupeItemsKeepingHighestStock plainClient others := by
  refine ⟨[{ name := .str "b" }, { name := .str "a" }], List.Perm.swap _ _ _, by unfold Table.Untied; decide +kernel, ?_⟩
  rw [dedupeItemsKeepingHighestStock, dedupeItemsKeepingHighestStock, sortItemsByStockDesc, sortItemsByStockDesc,
    List.mergeSort_of_pairwise (by decide +kernel), List.mergeSort_of_pairwise (by decide +kernel)]
  decide +kernel

end ItemFamilies

end StockVerification
