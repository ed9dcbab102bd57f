import Mathlib.Data.List.Dedup
import StockVerification.ErpSync
import StockVerification.Foundation.Slices

/-!
# Faults of the variance sync

Source: backend/services/sync/core_sync.py:289-381.

The database may refuse the update of some codes. The updates are listed as they went through, each
with its fields.
-/
namespace StockVerification

open Foundation

namespace VarianceFaults

structure SyncStats where
  itemsChecked : ℕ := 0
  qtyUpdated : ℕ := 0
  variancesFound : ℕ := 0
  sqlQueries : ℕ := 0
  errors : ℕ := 0
  updates : List (String × List (String × Value)) := []

variable (erp : Erp) (refused : String → Bool) (clock : String → Int) (items : List Doc)

/-- `mongo_items.get(item_code, 0.0)`. -/
def mongoQty (code : String) : ℚ := ((cachedItem (cachedItems items) code).bind mongoStockQty).getD 0

def differs (entry : String × ℚ) : Bool := qtyDiffers entry.2 (mongoQty items entry.1)

/-- The update of a figure, by the code. -/
def quantityUpdate (entry : String × ℚ) : String × List (String × Value) :=
  (entry.1, [("stock_qty", .num entry.2), ("sql_server_qty", .num entry.2), ("last_synced", .date (clock entry.1)),
    ("qty_changed_at", .date (clock entry.1)), ("qty_change_delta", .num (entry.2 - mongoQty items entry.1)),
    ("updated_at", .date (clock entry.1))])

/-- The loop over the figures of a batch; an update that fails ends it. -/
def compareBatch : List (String × ℚ) → SyncStats → SyncStats
  | [], stats => stats
  | entry :: rest, stats =>
    if differs items entry then
      if refused entry.1 then { stats with variancesFound := stats.variancesFound + 1, errors := stats.errors + 1 }
      else compareBatch rest { stats with
        variancesFound := stats.variancesFound + 1
        qtyUpdated := stats.qtyUpdated + 1
        updates := stats.updates ++ [quantityUpdate clock items entry] }
    else compareBatch rest stats

def syncBatch (stats : SyncStats) (batch : List String) : SyncStats :=
  compareBatch refused clock items (erp.getItemQuantitiesOnly batch) { stats with sqlQueries := stats.sqlQueries + 1 }

/-- The keys of `mongo_items`. -/
def itemCodes : List String := ((cachedItems items).map codeText).eraseDups

/-- `sync_variance_only`, none where it raises. -/
def syncVariance : Option SyncStats := do
  let _ ← (cachedItems items).mapM mongoStockQty
  some ((codeBatches (itemCodes items)).foldl (syncBatch erp refused clock items)
    { itemsChecked := (itemCodes items).length })

/-- The figures of the items with a readable quantity. -/
def comparedFigures : List (String × ℚ) :=
  (codeBatches (itemCodes (items.filter fun item => (mongoStockQty item).isSome))).flatMap erp.getItemQuantitiesOnly

/-- Every compared item that differs and that the database does not refuse is updated, and the
counts say so. -/
structure FaultIsolated (stats : SyncStats) : Prop where
  compared : stats.itemsChecked = (comparedFigures erp items).length
  differing : stats.variancesFound = ((comparedFigures erp items).filter (differs items)).length
  updated : stats.qtyUpdated = stats.updates.length
  updates : stats.updates = ((comparedFigures erp items).filter fun entry =>
    differs items entry && !refused entry.1).map (quantityUpdate clock items)

/-- All quantities are read, the ERP answers every code, and in no batch a difference follows a
refused one. -/
structure FaultsLast : Prop where
  readable : ∀ item ∈ cachedItems items, (mongoStockQty item).isSome
  answered : ∀ batch ∈ codeBatches (itemCodes items), (erp.getItemQuantitiesOnly batch).length = batch.length
  spaced : ∀ batch ∈ codeBatches (itemCodes items), (erp.getItemQuantitiesOnly batch).Pairwise fun a b =>
    differs items a = true → refused a.1 = true → differs items b = false

/-- The differences of a batch that are counted. -/
def counted : List (String × ℚ) → ℕ
  | [] => 0
  | entry :: rest =>
    if differs items entry then if refused entry.1 then 1 else counted rest + 1
    else counted rest

/-- The figures of a batch that are written. -/
def written : List (String × ℚ) → List (String × ℚ)
  | [] => []
  | entry :: rest =>
    if differs items entry then if refused entry.1 then [] else entry :: written rest
    else written rest

variable {erp refused clock items}

/-- A stretch of the sync has counted so many differences and written these figures. -/
structure Adds (clock : String → Int) (items : List Doc) (found : ℕ) (new : List (String × ℚ))
    (stats after : SyncStats) : Prop where
  checked : after.itemsChecked = stats.itemsChecked
  found : after.variancesFound = stats.variancesFound + found
  updates : after.updates = stats.updates ++ new.map (quantityUpdate clock items)
  updated : stats.qtyUpdated = stats.updates.length → after.qtyUpdated = after.updates.length

variable (entries : List (String × ℚ))

theorem compareBatch_adds (stats : SyncStats) :
    Adds clock items (counted refused items entries) (written refused items entries) stats
      (compareBatch refused clock items entries stats) := by
  induction entries generalizing stats with
  | nil => exact ⟨rfl, rfl, (List.append_nil _).symm, id⟩
  | cons entry rest ih =>
    rw [compareBatch, counted, written]
    split
    · split
      · exact ⟨rfl, rfl, (List.append_nil _).symm, id⟩
      · obtain ⟨checked, found, updates, updated⟩ := ih _
        refine ⟨checked, found.trans (Nat.add_right_comm ..), updates.trans (by simp), fun same => updated ?_⟩
        simp [same]
    · exact ih stats

theorem syncBatches_adds (batches : List (List String)) (stats : SyncStats) :
    Adds clock items (batches.map fun batch => counted refused items (erp.getItemQuantitiesOnly batch)).sum
      (batches.flatMap fun batch => written refused items (erp.getItemQuantitiesOnly batch)) stats
      (batches.foldl (syncBatch erp refused clock items) stats) := by
  induction batches generalizing stats with
  | nil => exact ⟨rfl, rfl, (List.append_nil _).symm, id⟩
  | cons batch rest ih =>
    have own := @compareBatch_adds refused clock items (erp.getItemQuantitiesOnly batch)
      { stats with sqlQueries := stats.sqlQueries + 1 }
    have later := ih (syncBatch erp refused clock items stats batch)
    refine ⟨later.checked.trans own.checked, later.found.trans ?_, later.updates.trans ?_,
      fun same => later.updated (own.updated same)⟩
    · rw [syncBatch, own.found, List.map_cons, List.sum_cons, Nat.add_assoc]
    · rw [syncBatch, own.updates, List.flatMap_cons, List.map_append, List.append_assoc]

theorem counted_le :
    counted refused items entries ≤ (entries.filter (differs items)).length := by
  induction entries with
  | nil => exact Nat.le_refl _
  | cons entry rest ih =>
    rw [counted, List.filter_cons]
    split
    · split
      · exact Nat.succ_le_succ (Nat.zero_le _)
      · exact Nat.succ_le_succ ih
    · exact ih

/-- All differences of a batch are counted exactly if none follows a refused one. -/
theorem counted_eq_iff :
    counted refused items entries = (entries.filter (differs items)).length ↔
      entries.Pairwise fun a b => differs items a = true → refused a.1 = true → differs items b = false := by
  induction entries with
  | nil => simp [counted]
  | cons entry rest ih =>
    rw [counted, List.filter_cons, List.pairwise_cons, ← ih]
    cases differing : differs items entry with
    | false => simp
    | true =>
      cases fails : refused entry.1 with
      | false => simp
      | true =>
        have none_ : (1 = (rest.filter (differs items)).length + 1) ↔ ∀ b ∈ rest, differs items b = false := by
          rw [eq_comm, Nat.add_eq_right, List.length_eq_zero_iff, List.filter_eq_nil_iff]
          simp
        simp only [if_true, List.length_cons, none_, true_imp_iff]
        refine ⟨fun nothing => ⟨nothing, ?_⟩, fun both => both.1⟩
        have below := @counted_le refused items rest
        rw [List.filter_eq_nil_iff.mpr (by simpa using nothing)] at below ⊢
        exact Nat.le_zero.mp below

theorem written_eq {entries : List (String × ℚ)} (spaced : entries.Pairwise fun a b =>
      differs items a = true → refused a.1 = true → differs items b = false) :
    written refused items entries = entries.filter fun entry => differs items entry && !refused entry.1 := by
  induction entries with
  | nil => rfl
  | cons entry rest ih =>
    obtain ⟨first, later⟩ := List.pairwise_cons.mp spaced
    rw [written, List.filter_cons, ih later]
    cases differing : differs items entry with
    | false => rfl
    | true =>
      cases fails : refused entry.1 with
      | false => rfl
      | true => simpa using fun code qty member differs_ => absurd differs_ (by simp [first _ member differing fails])

/-- The ERP answers no more codes than it is asked for, if it is asked for each once. -/
theorem answered_le {batch : List String} : (erp.getItemQuantitiesOnly batch).length ≤ batch.length := by
  have distinct : ((erp.getItemQuantitiesOnly batch).map Prod.fst).Nodup := by
    simpa [Erp.getItemQuantitiesOnly, Function.comp_def] using (List.nodup_dedup _).filter _
  have asked : (erp.getItemQuantitiesOnly batch).map Prod.fst ⊆ batch := by
    intro code member
    simp only [Erp.getItemQuantitiesOnly, List.map_map, List.mem_map, List.mem_filter,
      Function.comp_apply, Bool.and_eq_true, List.contains_iff_mem] at member
    obtain ⟨_, ⟨_, inside, _⟩, rfl⟩ := member
    exact List.mem_of_mem_take inside
  simpa using (List.subperm_of_subset distinct asked).length_le

theorem syncVariance_iff {stats : SyncStats} : syncVariance erp refused clock items = some stats ↔
    (∀ item ∈ cachedItems items, (mongoStockQty item).isSome) ∧
      (codeBatches (itemCodes items)).foldl (syncBatch erp refused clock items)
        { itemsChecked := (itemCodes items).length } = stats := by
  have read (docs : List Doc) : (docs.mapM mongoStockQty).isSome = true ↔ ∀ item ∈ docs, (mongoStockQty item).isSome := by
    induction docs with
    | nil => simp
    | cons item rest ih =>
      rw [List.mapM_cons, List.forall_mem_cons, ← ih]
      cases mongoStockQty item <;> cases rest.mapM mongoStockQty <;> simp
  rw [← read, syncVariance]
  cases (cachedItems items).mapM mongoStockQty <;> simp

/-- Where codes differ and nothing is refused, the updates leave what `syncVarianceOnly` leaves. -/
theorem updates_unrefused {now : Int} (distinct : itemCodes items = (cachedItems items).map codeText) :
    (syncVariance erp (fun _ => false) (fun _ => now) items).bind (fun stats =>
      stats.updates.foldlM (fun after update => updateItem update.1 update.2 after) items) =
      syncVarianceOnly erp now items := by
  have adds := @syncBatches_adds erp (fun _ => false) (fun _ => now) items (codeBatches (itemCodes items))
    { itemsChecked := (itemCodes items).length }
  have all : (codeBatches (itemCodes items)).flatMap (fun batch =>
      written (fun _ => false) items (erp.getItemQuantitiesOnly batch)) =
        (varianceEntries erp items).filter (differs items) := by
    rw [varianceEntries, distinct, List.filter_flatMap]
    refine List.flatMap_congr fun batch _ => ?_
    rw [written_eq (List.pairwise_of_forall fun _ _ _ => Bool.noConfusion)]
    simp
  unfold syncVariance syncVarianceOnly
  cases (cachedItems items).mapM mongoStockQty with
  | none => rfl
  | some qtys =>
    simp only [Option.bind_eq_bind, Option.bind_some, adds.updates, all, List.nil_append,
      List.foldlM_map, List.foldlM_filter]
    rfl

theorem itemCodes_readable (readable : ∀ item ∈ cachedItems items, (mongoStockQty item).isSome) :
    itemCodes (items.filter fun item => (mongoStockQty item).isSome) = itemCodes items := by
  have same : cachedItems (items.filter fun item => (mongoStockQty item).isSome) = cachedItems items := by
    unfold cachedItems at readable ⊢
    rw [List.filter_filter]
    apply List.filter_congr
    intro item member
    cases coded : (item.get "item_code").truthy with
    | false => rfl
    | true => simpa [coded] using readable item (List.mem_filter.mpr ⟨member, coded⟩)
  rw [itemCodes, same, itemCodes]

/-- The sync isolates the faults exactly if nothing comes after them. -/
theorem variance_sync_isolated_iff (erp : Erp) (refused : String → Bool) (clock : String → Int) (items : List Doc) :
    (∃ stats, syncVariance erp refused clock items = some stats ∧ FaultIsolated erp refused clock items stats) ↔
      FaultsLast erp refused items := by
  have adds := @syncBatches_adds erp refused clock items (codeBatches (itemCodes items))
    { itemsChecked := (itemCodes items).length }
  have asked : (itemCodes items).length = ((codeBatches (itemCodes items)).map List.length).sum := by
    rw [← List.length_flatten]
    exact congrArg List.length (slices_flatten (by decide) _).symm
  have answers := @sum_eq_iff _ _ _ (codeBatches (itemCodes items)) fun batch _ => @answered_le erp batch
  have differences := @sum_eq_iff _ _ _ (codeBatches (itemCodes items)) fun batch _ =>
    @counted_le refused items (erp.getItemQuantitiesOnly batch)
  constructor
  · rintro ⟨stats, ran, isolated⟩
    obtain ⟨readable, rfl⟩ := syncVariance_iff.mp ran
    have compared := isolated.compared
    have differing := isolated.differing
    rw [comparedFigures, itemCodes_readable readable] at compared differing
    rw [adds.checked, asked, List.length_flatMap] at compared
    rw [adds.found, List.filter_flatMap, List.length_flatMap, Nat.zero_add] at differing
    refine ⟨readable, answers.mp compared.symm, fun batch member => ?_⟩
    exact (counted_eq_iff _).mp (differences.mp differing batch member)
  · rintro ⟨readable, answered, spaced⟩
    refine ⟨_, syncVariance_iff.mpr ⟨readable, rfl⟩, ?_⟩
    constructor
    · rw [adds.checked, comparedFigures, itemCodes_readable readable, asked, List.length_flatMap]
      exact (answers.mpr answered).symm
    · rw [adds.found, comparedFigures, itemCodes_readable readable, List.filter_flatMap, List.length_flatMap, Nat.zero_add]
      exact differences.mpr fun batch member => (counted_eq_iff _).mpr (spaced batch member)
    · exact adds.updated rfl
    · rw [adds.updates, comparedFigures, itemCodes_readable readable, List.filter_flatMap, List.nil_append]
      rw [List.flatMap_congr fun batch member => written_eq (spaced batch member)]

def twoItemErp : Erp where
  products := [⟨1, "I1", "Bolt", true, []⟩, ⟨2, "I2", "Nut", true, []⟩]
  batches := [⟨1, none, some 4, []⟩, ⟨2, none, some 5, []⟩]
  isNumeric := fun _ => false

def nullAndDiffering : List Doc :=
  [.ofList [("item_code", .str "I1"), ("stock_qty", .null)], .ofList [("item_code", .str "I2"), ("stock_qty", .num 1)]]

/-- Nothing is updated, although the figure of the second item differs. -/
theorem null_quantity_stops_sync : ¬ ∃ stats,
    syncVariance twoItemErp (fun _ => false) (fun _ => 0) nullAndDiffering = some stats ∧
      FaultIsolated twoItemErp (fun _ => false) (fun _ => 0) nullAndDiffering stats := by
  rintro ⟨stats, ran, _⟩
  have first : (nullAndDiffering.head (by decide)) ∈ cachedItems nullAndDiffering :=
    List.mem_filter.mpr ⟨List.head_mem _, by decide⟩
  exact absurd ((syncVariance_iff.mp ran).1 _ first) (by decide)

end VarianceFaults

end StockVerification
