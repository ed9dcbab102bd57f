import Mathlib.Data.List.Nodup
import StockVerification.ErpSync

/-!
# Whether the syncs agree on the stock

A code is settled when one document has it and its quantity is within the tolerance of the code's
total. Where every batch row that a sync reads carries the total of its code, a sync settles the
codes it deals with and leaves the quantities of settled codes alone.
-/
namespace StockVerification

open Foundation

/-- What the unique index and the text codes give. -/
structure ItemsIndexed (items : List Doc) : Prop where
  coded : ∀ item ∈ items, ∃ code, item "item_code" = some (.str code)
  distinct : (items.map (·.get "item_code")).Nodup

/-- The quantity of the document of a code, as the syncs read it. -/
def stockAt (code : String) (items : List Doc) : Option (Option ℚ) :=
  (items.find? (itemFilter code).holds).map mongoStockQty

variable {code : String} {item : Doc}

theorem itemFilter_holds {other : String} (coded : item "item_code" = some (.str other)) :
    (itemFilter code).holds item = (other == code) := by
  rw [itemFilter, Filter.holds, Filter.fieldIs_str coded]

theorem itemFilter_get (coded : ∃ code, item "item_code" = some (.str code)) (code : String) :
    (itemFilter code).holds item = (item.get "item_code" == .str code) := by
  obtain ⟨other, named⟩ := coded
  rw [itemFilter_holds named, Doc.get, named, Option.getD_some, Bool.eq_iff_iff, beq_iff_eq,
    beq_iff_eq, Value.str.injEq]

variable {items : List Doc}

theorem find_code (indexed : ItemsIndexed items)
    (found : items.find? (itemFilter code).holds = some item) : item "item_code" = some (.str code) := by
  obtain ⟨other, named⟩ := indexed.coded item (List.mem_of_find?_eq_some found)
  have matched := List.find?_some found
  rw [itemFilter_holds named, beq_iff_eq] at matched
  rw [named, matched]

theorem ItemsIndexed.count (indexed : ItemsIndexed items) (code : String) :
    items.countP (itemFilter code).holds ≤ 1 := by
  have same : items.countP (itemFilter code).holds = (items.map (·.get "item_code")).count (.str code) := by
    rw [List.count_eq_countP, List.countP_map]
    apply List.countP_congr
    intro item member
    rw [itemFilter_get (indexed.coded item member)]
    rfl
  rw [same]
  exact List.nodup_iff_count_le_one.mp indexed.distinct _

def itemAt (code : String) (items : List Doc) : Option Doc := items.find? (itemFilter code).holds

variable {after : List Doc}

/-- An update by the code that leaves the code alone: it finds nothing, or changes the document. -/
theorem updateOne_item {u : Update} {answer : Option (Doc × Doc)} (indexed : ItemsIndexed items)
    (keeps : ∀ d d', u.apply d = some d' → d' "item_code" = d "item_code")
    (updated : Collection.updateOne erpItemIndexes (itemFilter code) u items = .ok (answer, after)) :
    ItemsIndexed after ∧ (∀ other, other ≠ code → itemAt other after = itemAt other items) ∧
      (itemAt code items = none ∧ itemAt code after = none ∨
        ∃ old new, itemAt code items = some old ∧ u.apply old = some new ∧ itemAt code after = some new) := by
  rcases Collection.updateOne_ok updated with ⟨absent, _, rfl⟩ | ⟨old, new, found, applied, _, _, rfl⟩
  · exact ⟨indexed, fun _ _ => rfl, .inl ⟨absent, absent⟩⟩
  · have coded := find_code indexed found
    have kept := keeps old new applied
    refine ⟨⟨?_, ?_⟩, ?_, .inr ⟨old, new, found, applied, ?_⟩⟩
    · intro item member
      rcases Collection.mem_replaceFirst member with before | rfl
      · exact indexed.coded item before
      · exact ⟨code, kept.trans coded⟩
    · rw [Collection.map_replaceFirst found]
      · exact indexed.distinct
      · rw [Doc.get, Doc.get, kept]
    · intro other different
      have apart : (code == other) = false := beq_eq_false_iff_ne.mpr (Ne.symm different)
      apply Collection.find_replaceFirst_other found
      · rw [itemFilter_holds coded, apart]
      · rw [itemFilter_holds (kept.trans coded), apart]
    · apply Collection.find_replaceFirst_same found
      rw [itemFilter_holds (kept.trans coded), beq_self_eq_true]

section

variable {fields : List (String × Value)} (indexed : ItemsIndexed items)
  (unnamed : Doc.ofList fields "item_code" = none) (updated : updateItem code fields items = some after)
include indexed unnamed updated

theorem updateItem_at :
    ItemsIndexed after ∧ ∀ other, itemAt other after = if other = code then
      (itemAt code items).map (·.update (Doc.ofList fields)) else itemAt other items := by
  unfold updateItem at updated
  split at updated
  · next answer changed ok =>
    cases updated
    have keeps : ∀ d d', (Update.ofSet (Doc.ofList fields)).apply d = some d' → d' "item_code" = d "item_code" := by
      intro d d' applied
      rw [Update.apply_ofSet, Option.some.injEq] at applied
      rw [← applied, Doc.update_apply, unnamed]
      rfl
    obtain ⟨kept, others, own⟩ := updateOne_item indexed keeps ok
    refine ⟨kept, fun other => ?_⟩
    by_cases same : other = code
    · subst same
      rw [if_pos rfl]
      rcases own with ⟨absent, still⟩ | ⟨old, new, found, applied, made⟩
      · rw [absent, still]
        rfl
      · rw [found, made, ← applied]
        rfl
    · rw [if_neg same]
      exact others other same
  · cases updated

/-- What an update of a code does to the quantities. -/
theorem updateItem_ok :
    ItemsIndexed after ∧ ∀ other, stockAt other after = if other = code then
      (stockAt other items).map fun stored =>
        match Doc.ofList fields "stock_qty" with
        | some value => value.number
        | none => stored
      else stockAt other items := by
  obtain ⟨kept, at_⟩ := updateItem_at indexed unnamed updated
  refine ⟨kept, fun other => ?_⟩
  change (itemAt other after).map mongoStockQty = if other = code then ((itemAt other items).map mongoStockQty).map _
    else (itemAt other items).map mongoStockQty
  rw [at_ other]
  by_cases same : other = code
  · rw [if_pos same, if_pos same, same, Option.map_map, Option.map_map]
    congr 1
    funext item
    rw [Function.comp_apply, Function.comp_apply, mongoStockQty, mongoStockQty, Doc.update_apply]
    cases Doc.ofList fields "stock_qty" with
    | none => rfl
    | some value => rfl
  · rw [if_neg same, if_neg same]

end

/-- An insertion finds its code free. -/
theorem insertItem_at (code : String) (indexed : ItemsIndexed items)
    (coded : item "item_code" = some (.str code)) (inserted : insertItem item items = some after) :
    ItemsIndexed after ∧ itemAt code items = none ∧
      ∀ other, itemAt other after = if other = code then some item else itemAt other items := by
  unfold insertItem at inserted
  cases ran : Collection.insertOne erpItemIndexes item items with
  | error fault =>
    rw [ran] at inserted
    cases inserted
  | ok stored =>
    rw [ran] at inserted
    cases inserted
    obtain ⟨free, rfl⟩ := Collection.insertOne_ok ran
    have fresh : ∀ stored ∈ items, stored.get "item_code" ≠ .str code := by
      intro stored member same
      have collides := List.find?_eq_none.mp free { field := "item_code", sparse := false } (by decide)
      apply collides
      rw [List.any_eq_true]
      refine ⟨stored, member, ?_⟩
      change (stored.get "item_code" == item.get "item_code") = true
      rw [same, Doc.get, coded]
      exact beq_self_eq_true _
    have absent : itemAt code items = none := by
      rw [itemAt, List.find?_eq_none]
      intro stored member
      rw [itemFilter_get (indexed.coded stored member), beq_iff_eq]
      exact fresh stored member
    refine ⟨⟨?_, ?_⟩, absent, ?_⟩
    · intro other member
      rcases List.mem_append.mp member with before | new
      · exact indexed.coded other before
      · cases List.mem_singleton.mp new
        exact ⟨code, coded⟩
    · rw [List.map_append, List.nodup_append]
      refine ⟨indexed.distinct, List.nodup_singleton _, ?_⟩
      intro value old newer new same
      obtain ⟨stored, member, rfl⟩ := List.mem_map.mp old
      cases List.mem_singleton.mp new
      apply fresh stored member
      calc
        stored.get "item_code" = item.get "item_code" := same
        _ = .str code := by
          rw [Doc.get, coded]
          rfl
    · intro other
      rw [itemAt, List.find?_append]
      by_cases same : other = code
      · subst same
        rw [itemAt] at absent
        rw [if_pos rfl, absent, Option.none_or, List.find?_singleton, itemFilter_holds coded, beq_self_eq_true]
        rfl
      · have apart : (code == other) = false := beq_eq_false_iff_ne.mpr (Ne.symm same)
        rw [if_neg same, List.find?_singleton, itemFilter_holds coded, apart]
        simp only [Bool.false_eq_true, if_false, Option.or_none]
        rfl

theorem insertItem_ok (code : String) (indexed : ItemsIndexed items)
    (coded : item "item_code" = some (.str code)) (inserted : insertItem item items = some after) :
    ItemsIndexed after ∧ stockAt code items = none ∧
      ∀ other, stockAt other after = if other = code then some (mongoStockQty item) else stockAt other items := by
  obtain ⟨kept, free, at_⟩ := insertItem_at code indexed coded inserted
  refine ⟨kept, ?_, fun other => ?_⟩
  · change (itemAt code items).map mongoStockQty = none
    rw [free]
    rfl
  · change (itemAt other after).map mongoStockQty = _
    rw [at_ other]
    split
    · rfl
    · rfl

/-- One document has the code, with a quantity within the tolerance of the total. -/
def SettledAt (erp : Erp) (code : String) (items : List Doc) : Prop :=
  ∃ qty, stockAt code items = some (some qty) ∧ qtyDiffers (erp.totalStock code) qty = false

theorem qtyDiffers_self (qty : ℚ) : qtyDiffers qty qty = false := by
  rw [qtyDiffers, decide_eq_false_iff_not, sub_self, abs_zero]
  norm_num

theorem metadata_unnamed (sqlItem mongoItem : Doc) {name : String}
    (other : name ∉ newItemFields.map fun field => field.2.1) :
    (computeMetadataUpdates (buildMetadataCandidates sqlItem) mongoItem).lookup name = none := by
  rw [List.lookup_eq_none_iff]
  intro entry member
  obtain ⟨field, listed, rfl⟩ := List.mem_map.mp (List.mem_of_mem_filter member)
  rw [bne_iff_ne]
  rintro rfl
  exact other (List.mem_map_of_mem listed)

variable {now : Int}

/-- An existing item takes the quantity of the row where it differs. -/
theorem updateExistingItem_ok {sqlItem mongoItem : Doc} {sqlQty : ℚ} (indexed : ItemsIndexed items)
    (updated : updateExistingItem now code sqlItem sqlQty mongoItem items = some after) :
    ∃ mongoQty, mongoStockQty mongoItem = some mongoQty ∧ ItemsIndexed after ∧
      ∀ other, stockAt other after = if other = code ∧ qtyDiffers sqlQty mongoQty = true then
        (stockAt other items).map fun _ => some sqlQty else stockAt other items := by
  simp only [updateExistingItem, Option.bind_eq_bind, Option.bind_eq_some_iff] at updated
  obtain ⟨mongoQty, stored, updated⟩ := updated
  refine ⟨mongoQty, stored, ?_⟩
  obtain ⟨kept, stocks⟩ := updateItem_ok indexed (by
    rw [Doc.ofList, List.lookup_append, List.lookup_append, metadata_unnamed _ _ (by decide)]
    split
    · rfl
    · rfl) updated
  refine ⟨kept, ?_⟩
  intro other
  rw [stocks other, Doc.ofList, List.lookup_append, List.lookup_append, metadata_unnamed _ _ (by decide)]
  by_cases same : other = code
  · rw [if_pos same]
    by_cases differs : qtyDiffers sqlQty mongoQty = true
    · rw [if_pos differs, if_pos ⟨same, differs⟩]
      rfl
    · rw [if_neg differs, if_neg fun both => differs both.2]
      exact Option.map_id'
  · rw [if_neg same, if_neg fun both => same both.1]

/-- What a row does to the quantity of its code: the item that was looked up takes the row's
quantity where it differs, and a row without an item makes one. -/
def RowEffect (code : String) (sqlQty : ℚ) (items after : List Doc) : Option Doc → Prop
  | none => stockAt code items = none ∧ stockAt code after = some (some sqlQty)
  | some item => ∃ mongoQty, mongoStockQty item = some mongoQty ∧
      stockAt code after = if qtyDiffers sqlQty mongoQty = true then
        (stockAt code items).map fun _ => some sqlQty else stockAt code items

variable {row : Doc}

theorem syncSingleItem_ok {mongoItem : Option Doc} (indexed : ItemsIndexed items)
    (coded : row "item_code" = some (.str code)) (synced : syncSingleItem now row mongoItem items = some after) :
    ItemsIndexed after ∧ (∀ other, other ≠ code → stockAt other after = stockAt other items) ∧
      RowEffect code (coerceQty (row.get "stock_qty")) items after mongoItem := by
  have named : rowCode row = code := by
    rw [rowCode, coded]
    rfl
  cases mongoItem with
  | none =>
    obtain ⟨kept, free, stocks⟩ := insertItem_ok code indexed
      (by
        change some ((row "item_code").getD _) = _
        rw [coded]
        rfl) synced
    refine ⟨kept, ?_, free, ?_⟩
    · intro other apart
      rw [stocks other, if_neg apart]
    · rw [stocks code, if_pos rfl]
      rfl
  | some item =>
    simp only [syncSingleItem, named] at synced
    obtain ⟨mongoQty, stored, kept, stocks⟩ := updateExistingItem_ok indexed synced
    refine ⟨kept, ?_, mongoQty, stored, ?_⟩
    · intro other apart
      rw [stocks other, if_neg fun both => apart both.1]
    · rw [stocks code]
      simp only [true_and]

/-- The loop of a sync over its rows; the items were looked up before it. -/
def syncRows (now : Int) (look : String → Option Doc) (rows : List Doc) (items : List Doc) : Option (List Doc) :=
  rows.foldlM (fun after row => syncSingleItem now row (look (rowCode row)) after) items

section Rows

variable {erp : Erp} {look : String → Option Doc} {rows : List Doc}

theorem syncRows_cons (ran : syncRows now look (row :: rows) items = some after) :
    ∃ next, syncSingleItem now row (look (rowCode row)) items = some next ∧ syncRows now look rows next = some after := by
  rw [syncRows, List.foldlM_cons, Option.bind_eq_bind, Option.bind_eq_some_iff] at ran
  exact ran

section

variable (indexed : ItemsIndexed items) (coded : ∀ row ∈ rows, row "item_code" = some (.str (rowCode row)))
  (ran : syncRows now look rows items = some after)
include indexed coded ran

theorem syncRows_indexed : ItemsIndexed after := by
  induction rows generalizing items with
  | nil =>
    cases ran
    exact indexed
  | cons row rest ih =>
    obtain ⟨next, first, later⟩ := syncRows_cons ran
    apply ih _ _ later
    · exact (syncSingleItem_ok indexed (coded row (List.mem_cons_self ..)) first).1
    · exact fun other member => coded other (List.mem_cons_of_mem _ member)

theorem syncRows_other (absent : code ∉ rows.map rowCode) : stockAt code after = stockAt code items := by
  induction rows generalizing items with
  | nil =>
    cases ran
    rfl
  | cons row rest ih =>
    obtain ⟨next, first, later⟩ := syncRows_cons ran
    rw [List.map_cons, List.mem_cons, not_or] at absent
    obtain ⟨kept, others, _⟩ := syncSingleItem_ok indexed (coded row (List.mem_cons_self ..)) first
    rw [ih kept (fun other member => coded other (List.mem_cons_of_mem _ member)) later absent.2]
    exact others code absent.1

variable (totals : ∀ row ∈ rows, coerceQty (row.get "stock_qty") = erp.totalStock (rowCode row))
include totals

/-- What holds of the quantities around the one row of a code, and is carried back over an earlier
row, holds around the loop: rows of other codes leave the quantity alone. -/
theorem syncRows_code {R : Option (Option ℚ) → Option (Option ℚ) → Prop}
    (once : ∀ items next, RowEffect code (erp.totalStock code) items next (look code) →
      R (stockAt code items) (stockAt code next))
    (again : ∀ items next last, RowEffect code (erp.totalStock code) items next (look code) →
      R (stockAt code next) last → R (stockAt code items) last)
    (member : code ∈ rows.map rowCode) : R (stockAt code items) (stockAt code after) := by
  induction rows generalizing items with
  | nil => cases member
  | cons row rest ih =>
    obtain ⟨next, first, later⟩ := syncRows_cons ran
    obtain ⟨kept, others, effect⟩ := syncSingleItem_ok indexed (coded row (List.mem_cons_self ..)) first
    have restCoded : ∀ other ∈ rest, other "item_code" = some (.str (rowCode other)) :=
      fun other inside => coded other (List.mem_cons_of_mem _ inside)
    have restTotals : ∀ other ∈ rest, coerceQty (other.get "stock_qty") = erp.totalStock (rowCode other) :=
      fun other inside => totals other (List.mem_cons_of_mem _ inside)
    by_cases here : rowCode row = code
    · subst here
      rw [totals row (List.mem_cons_self ..)] at effect
      by_cases repeated : rowCode row ∈ rest.map rowCode
      · exact again items next _ effect (ih kept restCoded later restTotals repeated)
      · rw [syncRows_other kept restCoded later repeated]
        exact once items next effect
    · rw [List.map_cons, List.mem_cons] at member
      have inside : code ∈ rest.map rowCode := by
        rcases member with same | inside
        · exact absurd same.symm here
        · exact inside
      rw [← others code (Ne.symm here)]
      exact ih kept restCoded later restTotals inside

/-- A code whose item was found takes the total where its quantity differs. -/
theorem syncRows_found (found : look code = some item) (member : code ∈ rows.map rowCode) :
    ∃ mongoQty, mongoStockQty item = some mongoQty ∧
      stockAt code after = if qtyDiffers (erp.totalStock code) mongoQty = true then
        (stockAt code items).map fun _ => some (erp.totalStock code) else stockAt code items := by
  refine syncRows_code indexed coded ran totals (R := fun before last => ∃ mongoQty, mongoStockQty item = some mongoQty ∧
    last = if qtyDiffers (erp.totalStock code) mongoQty = true then before.map fun _ => some (erp.totalStock code)
      else before) ?_ ?_ member
  · intro items next effect
    rw [found] at effect
    exact effect
  · intro items next last effect carried
    rw [found] at effect
    obtain ⟨mongoQty, stored, now_⟩ := effect
    obtain ⟨same, storedAgain, ends⟩ := carried
    rw [stored, Option.some.injEq] at storedAgain
    subst storedAgain
    refine ⟨mongoQty, stored, ?_⟩
    rw [ends, now_]
    by_cases differs : qtyDiffers (erp.totalStock code) mongoQty = true
    · rw [if_pos differs, if_pos differs, Option.map_map]
      rfl
    · rw [if_neg differs, if_neg differs]

theorem syncRows_missing (missing : look code = none) (member : code ∈ rows.map rowCode) :
    stockAt code items = none ∧ stockAt code after = some (some (erp.totalStock code)) := by
  refine syncRows_code indexed coded ran totals
    (R := fun before last => before = none ∧ last = some (some (erp.totalStock code))) ?_ ?_ member
  · intro items next effect
    rw [missing] at effect
    exact effect
  · -- A second row of the code finds it taken.
    intro items next last effect carried
    rw [missing] at effect
    rw [effect.2] at carried
    cases carried.1

end

/-- What a sync is for: it settles its codes and leaves what is settled alone. -/
structure Settles (erp : Erp) (codes : List String) (items after : List Doc) : Prop where
  indexed : ItemsIndexed after
  settled : ∀ code ∈ codes, SettledAt erp code after
  stable : ∀ code, SettledAt erp code items → stockAt code after = stockAt code items

theorem settledAt_of_update {mongoQty : ℚ} (before : stockAt code items = some (some mongoQty))
    (effect : stockAt code after = if qtyDiffers (erp.totalStock code) mongoQty = true then
      (stockAt code items).map fun _ => some (erp.totalStock code) else stockAt code items) :
    SettledAt erp code after := by
  by_cases differs : qtyDiffers (erp.totalStock code) mongoQty = true
  · rw [if_pos differs, before] at effect
    exact ⟨erp.totalStock code, effect, qtyDiffers_self _⟩
  · rw [if_neg differs, before] at effect
    exact ⟨mongoQty, effect, eq_false_of_ne_true differs⟩

/-- The syncs that read rows. -/
theorem syncRows_settles (indexed : ItemsIndexed items)
    (coded : ∀ row ∈ rows, row "item_code" = some (.str (rowCode row)))
    (totals : ∀ row ∈ rows, coerceQty (row.get "stock_qty") = erp.totalStock (rowCode row))
    (looked : ∀ code item, look code = some item → items.find? (itemFilter code).holds = some item)
    (ran : syncRows now look rows items = some after) : Settles erp (rows.map rowCode) items after := by
  have stored : ∀ code item, look code = some item → stockAt code items = some (mongoStockQty item) := by
    intro code item found
    rw [stockAt, looked code item found]
    rfl
  refine ⟨syncRows_indexed indexed coded ran, ?_, ?_⟩
  · intro code member
    cases found : look code with
    | none =>
      obtain ⟨_, made⟩ := syncRows_missing indexed coded ran totals found member
      exact ⟨erp.totalStock code, made, qtyDiffers_self _⟩
    | some item =>
      obtain ⟨mongoQty, read, effect⟩ := syncRows_found indexed coded ran totals found member
      apply settledAt_of_update _ effect
      rw [stored code item found, read]
  · rintro code ⟨qty, before, near⟩
    by_cases member : code ∈ rows.map rowCode
    · cases found : look code with
      | none =>
        rw [(syncRows_missing indexed coded ran totals found member).1] at before
        cases before
      | some item =>
        obtain ⟨mongoQty, read, effect⟩ := syncRows_found indexed coded ran totals found member
        have same : mongoQty = qty := by
          have both := stored code item found
          rw [before, read, Option.some.injEq, Option.some.injEq] at both
          exact both.symm
        rw [same, near] at effect
        exact effect
    · exact syncRows_other indexed coded ran member

end Rows

theorem ItemsIndexed.unique (indexed : ItemsIndexed items) {other : Doc} (member : item ∈ items)
    (otherMember : other ∈ items) (same : item.get "item_code" = other.get "item_code") : item = other :=
  List.inj_on_of_nodup_map indexed.distinct member otherMember same

/-- The copy holds the stored document of a code. -/
theorem cachedItem_found (indexed : ItemsIndexed items)
    (found : cachedItem (cachedItems items) code = some item) : items.find? (itemFilter code).holds = some item := by
  have named := List.find?_some found
  have member : item ∈ items :=
    List.mem_of_mem_filter (List.mem_reverse.mp (List.mem_of_find?_eq_some found))
  cases stored : items.find? (itemFilter code).holds with
  | none =>
    have absent := List.find?_eq_none.mp stored item member
    rw [itemFilter_get (indexed.coded item member)] at absent
    exact absurd named absent
  | some other =>
    have otherMember := List.mem_of_find?_eq_some stored
    have otherNamed := List.find?_some stored
    rw [itemFilter_get (indexed.coded other otherMember), beq_iff_eq] at otherNamed
    rw [beq_iff_eq] at named
    rw [indexed.unique member otherMember (named.trans otherNamed.symm)]

/-- Every code but the empty one is in the copy. -/
theorem cachedItem_of_find (indexed : ItemsIndexed items) (filled : code ≠ "")
    (found : items.find? (itemFilter code).holds = some item) : cachedItem (cachedItems items) code = some item := by
  have coded := find_code indexed found
  have named : item.get "item_code" = .str code := by
    rw [Doc.get, coded]
    rfl
  have cached : item ∈ cachedItems items := by
    rw [cachedItems, List.mem_filter, named, Value.truthy_str, bne_iff_ne]
    exact ⟨List.mem_of_find?_eq_some found, filled⟩
  cases stored : cachedItem (cachedItems items) code with
  | none =>
    have absent := List.find?_eq_none.mp stored item (List.mem_reverse.mpr cached)
    rw [beq_iff_eq] at absent
    exact absurd named absent
  | some other =>
    have same := cachedItem_found indexed stored
    rw [found] at same
    exact same.symm

theorem mapM_each {qtys : List ℚ} (read : items.mapM mongoStockQty = some qtys)
    (member : item ∈ items) : ∃ qty, mongoStockQty item = some qty := by
  induction items generalizing qtys with
  | nil => cases member
  | cons first rest ih =>
    simp only [List.mapM_cons, Option.bind_eq_bind, Option.bind_eq_some_iff] at read
    obtain ⟨qty, here, others, later, _⟩ := read
    rcases List.mem_cons.mp member with rfl | inside
    · exact ⟨qty, here⟩
    · exact ih later inside

variable {erp : Erp}

theorem varianceEntries_total {entry : String × ℚ} (member : entry ∈ varianceEntries erp items) :
    entry.2 = erp.totalStock entry.1 ∧ entry.1 ≠ "" ∧ entry.1 ∈ (cachedItems items).map codeText := by
  obtain ⟨batch, batched, asked⟩ := List.mem_flatMap.mp member
  obtain ⟨code, chosen, rfl⟩ := List.mem_map.mp asked
  rw [List.mem_filter, Bool.and_eq_true, bne_iff_ne, List.contains_iff_mem] at chosen
  obtain ⟨_, _, rfl⟩ := List.mem_map.mp batched
  refine ⟨rfl, chosen.2.2, ?_⟩
  exact List.mem_of_mem_drop (List.mem_of_mem_take (List.mem_of_mem_take chosen.2.1))

/-- The quantity that the variance sync compares a code's figure with. -/
def comparedQty (cached : List Doc) (code : String) : ℚ := ((cachedItem cached code).bind mongoStockQty).getD 0

/-- What the loop of a variance sync does to the quantity of a code. -/
theorem varianceLoop_ok {cached : List Doc} {entries : List (String × ℚ)}
    (indexed : ItemsIndexed items) (totals : ∀ entry ∈ entries, entry.2 = erp.totalStock entry.1)
    (ran : entries.foldlM (varianceEntry now cached) items = some after) :
    ItemsIndexed after ∧ ∀ code, stockAt code after =
      if code ∈ entries.map Prod.fst ∧ qtyDiffers (erp.totalStock code) (comparedQty cached code) = true then
        (stockAt code items).map fun _ => some (erp.totalStock code) else stockAt code items := by
  induction entries generalizing items with
  | nil =>
    cases ran
    refine ⟨indexed, ?_⟩
    intro code
    rw [if_neg fun both => nomatch both.1]
  | cons entry rest ih =>
    rw [List.foldlM_cons, Option.bind_eq_bind, Option.bind_eq_some_iff] at ran
    obtain ⟨next, first, later⟩ := ran
    have total := totals entry (List.mem_cons_self ..)
    have step : ItemsIndexed next ∧ ∀ code, stockAt code next =
        if code = entry.1 ∧ qtyDiffers (erp.totalStock code) (comparedQty cached code) = true then
          (stockAt code items).map fun _ => some (erp.totalStock code) else stockAt code items := by
      unfold varianceEntry at first
      dsimp only at first
      split at first
      · next differs =>
        obtain ⟨kept, stocks⟩ := updateItem_ok indexed rfl first
        refine ⟨kept, ?_⟩
        intro code
        rw [stocks code]
        by_cases same : code = entry.1
        · subst same
          rw [total] at differs
          rw [if_pos rfl, if_pos ⟨rfl, differs⟩, ← total]
          rfl
        · rw [if_neg same, if_neg fun both => same both.1]
      · next near =>
        cases first
        refine ⟨indexed, ?_⟩
        intro code
        rw [if_neg]
        rintro ⟨rfl, differs⟩
        rw [← total] at differs
        exact near differs
    obtain ⟨kept, stocks⟩ := ih step.1 (fun other member => totals other (List.mem_cons_of_mem _ member)) later
    refine ⟨kept, ?_⟩
    intro code
    rw [stocks code, step.2 code]
    by_cases differs : qtyDiffers (erp.totalStock code) (comparedQty cached code) = true
    · simp only [differs, and_true, List.map_cons, List.mem_cons]
      by_cases here : code = entry.1
      · by_cases inside : code ∈ rest.map Prod.fst
        · rw [if_pos inside, if_pos here, if_pos (.inl here), Option.map_map]
          rfl
        · rw [if_neg inside, if_pos here, if_pos (.inl here)]
      · by_cases inside : code ∈ rest.map Prod.fst
        · rw [if_pos inside, if_neg here, if_pos (.inr inside)]
        · rw [if_neg inside, if_neg here, if_neg (not_or.mpr ⟨here, inside⟩)]
    · rw [if_neg fun both => differs both.2, if_neg fun both => differs both.2, if_neg fun both => differs both.2]

/-- The variance sync. -/
theorem syncVarianceOnly_settles (indexed : ItemsIndexed items) (ran : syncVarianceOnly erp now items = some after) :
    Settles erp ((varianceEntries erp items).map Prod.fst) items after := by
  simp only [syncVarianceOnly, Option.bind_eq_bind, Option.bind_eq_some_iff] at ran
  obtain ⟨qtys, read, ran⟩ := ran
  obtain ⟨kept, stocks⟩ := varianceLoop_ok indexed (fun entry member => (varianceEntries_total member).1) ran
  have compared : ∀ code ∈ (varianceEntries erp items).map Prod.fst,
      stockAt code items = some (some (comparedQty (cachedItems items) code)) := by
    intro code member
    obtain ⟨entry, listed, rfl⟩ := List.mem_map.mp member
    obtain ⟨_, filled, inCopy⟩ := varianceEntries_total listed
    obtain ⟨item, cached, named⟩ := List.mem_map.mp inCopy
    have stored := List.mem_of_mem_filter cached
    obtain ⟨code, coded⟩ := indexed.coded item stored
    have same : code = entry.1 := by
      rw [← named, codeText, Doc.get, coded]
      rfl
    cases found : items.find? (itemFilter entry.1).holds with
    | none =>
      have absent := List.find?_eq_none.mp found item stored
      rw [itemFilter_holds coded, same, beq_self_eq_true] at absent
      exact absurd rfl absent
    | some other =>
      have copied := cachedItem_of_find indexed filled found
      obtain ⟨qty, here⟩ := mapM_each read (List.mem_reverse.mp (List.mem_of_find?_eq_some copied))
      rw [stockAt, found, comparedQty, copied, Option.map_some, Option.bind_some, here]
      rfl
  refine ⟨kept, ?_, ?_⟩
  · intro code member
    apply settledAt_of_update (compared code member)
    rw [stocks code]
    simp only [member, true_and]
  · rintro code ⟨qty, before, near⟩
    rw [stocks code, if_neg]
    rintro ⟨member, differs⟩
    have same := compared code member
    rw [before, Option.some.injEq, Option.some.injEq] at same
    rw [← same, near] at differs
    cases differs

theorem mem_selectNewItems {limit : Int} {rows : List Doc} {known : List String} {taken : Nat}
    (member : row ∈ selectNewItems limit rows known taken) : row ∈ rows := by
  induction rows generalizing known taken with
  | nil => cases member
  | cons first rest ih =>
    rw [selectNewItems] at member
    split at member
    · exact List.mem_cons_of_mem _ (ih member)
    · split at member
      · rw [List.mem_singleton.mp member]
        exact List.mem_cons_self ..
      · rcases List.mem_cons.mp member with rfl | inside
        · exact List.mem_cons_self ..
        · exact List.mem_cons_of_mem _ (ih inside)

theorem itemRows_coded (member : row ∈ erp.itemRows) : row "item_code" = some (.str (rowCode row)) := by
  obtain ⟨product, _, joined⟩ := List.mem_flatMap.mp member
  obtain ⟨batch, _, rfl⟩ := List.mem_map.mp joined
  rfl

theorem allItems_coded {rows : List Doc} (answered : erp.AllItems rows) (member : row ∈ rows) :
    row "item_code" = some (.str (rowCode row)) := by
  obtain ⟨ordered, listed, rfl⟩ := answered
  exact itemRows_coded (listed.mem_iff.mp (List.mem_of_mem_take member))

theorem ErpSyncOp.coded {op : ErpSyncOp} (answered : op.Answered erp) :
    ∀ row ∈ op.rows items, row "item_code" = some (.str (rowCode row)) := by
  intro row member
  cases op with
  | varianceOnly => cases member
  | full rows | nightly rows => exact allItems_coded answered member
  | discovery limit rows => exact allItems_coded answered (mem_selectNewItems member)
  | byBarcode barcode found =>
    cases Option.mem_toList.mp member
    obtain ⟨product, _, joined⟩ := List.mem_flatMap.mp answered
    obtain ⟨batch, _, rfl⟩ := List.mem_map.mp joined
    rfl

/-- Every row that the sync works on carries the total stock of its code. -/
def SyncedItems.readsTotals (erp : Erp) (s : SyncedItems) (op : ErpSyncOp × Int) : Prop :=
  ∀ row ∈ op.1.rows s.items, coerceQty (row.get "stock_qty") = erp.totalStock (rowCode row)

/-- Each sync settles its codes. -/
theorem ErpSyncOp.settles {op : ErpSyncOp} (indexed : ItemsIndexed items) (answered : op.Answered erp)
    (totals : ∀ row ∈ op.rows items, coerceQty (row.get "stock_qty") = erp.totalStock (rowCode row))
    (ran : op.run erp now items = some after) : Settles erp (op.syncedCodes erp items) items after := by
  have coded : ∀ row ∈ op.rows items, row "item_code" = some (.str (rowCode row)) := op.coded answered
  cases op with
  | varianceOnly => exact syncVarianceOnly_settles indexed ran
  | full rows | nightly rows =>
      exact syncRows_settles indexed coded totals (fun code item => cachedItem_found indexed) ran
  | discovery limit rows =>
    have looked : syncRows now (fun _ => none)
        (selectNewItems limit rows (collectMongoItemCodes items) 0) items = some after := ran
    apply syncRows_settles indexed coded totals _ looked
    nofun
  | byBarcode barcode found =>
    cases found with
    | none =>
      cases ran
      refine ⟨indexed, ?_, fun _ _ => rfl⟩
      nofun
    | some row =>
      have looked : syncRows now (fun code => items.find? (itemFilter code).holds) [row] items = some after := by
        rw [syncRows, List.foldlM_cons, Option.bind_eq_bind, Option.bind_eq_some_iff]
        exact ⟨after, ran, rfl⟩
      exact syncRows_settles indexed coded totals (fun code item same => same) looked

/-- Every synced code has one document, its quantity is within the tolerance of the ERP's total,
and later syncs leave it as it is. -/
structure StockAgrees (erp : Erp) (mid last : SyncedItems) : Prop where
  one : ∀ code ∈ mid.synced, mid.items.countP (itemFilter code).holds = 1
  near : ∀ code ∈ mid.synced, ∃ qty, stockAt code mid.items = some (some qty) ∧ |erp.totalStock code - qty| ≤ 1 / 1000
  stable : ∀ code ∈ mid.synced, stockAt code last.items = stockAt code mid.items

structure SyncSound (erp : Erp) (s : SyncedItems) : Prop where
  indexed : ItemsIndexed s.items
  settled : ∀ code ∈ s.synced, SettledAt erp code s.items

theorem SyncSound.step {s : SyncedItems} {op : ErpSyncOp × Int} (sound : SyncSound erp s)
    (free : s.errorFree erp op) (totals : s.readsTotals erp op) :
    SyncSound erp (s.step erp op) ∧
      ∀ code, SettledAt erp code s.items → stockAt code (s.step erp op).items = stockAt code s.items := by
  obtain ⟨answered, ends⟩ := free
  obtain ⟨after, ran⟩ := Option.isSome_iff_exists.mp ends
  have settles := op.1.settles sound.indexed answered totals ran
  rw [SyncedItems.step, ran]
  refine ⟨⟨settles.indexed, ?_⟩, settles.stable⟩
  intro code member
  rcases List.mem_append.mp member with before | now
  · obtain ⟨qty, stored, near⟩ := sound.settled code before
    exact ⟨qty, (settles.stable code ⟨qty, stored, near⟩).trans stored, near⟩
  · exact settles.settled code now

/-- As long as the rows that the syncs read carry the totals, the syncs agree. -/
theorem erpStock_agrees {erp : Erp} {first mid last : SyncedItems}
    (indexed : ItemsIndexed first.items) (fresh : first.synced = [])
    (run : Reaches (SyncedItems.step erp) (fun s op => s.errorFree erp op ∧ s.readsTotals erp op) first mid)
    (later : Reaches (SyncedItems.step erp) (fun s op => s.errorFree erp op ∧ s.readsTotals erp op) mid last) :
    StockAgrees erp mid last := by
  have init : SyncSound erp first := by
    refine ⟨indexed, ?_⟩
    rw [fresh]
    intro code member
    cases member
  have sound : SyncSound erp mid := run.invariant init fun _ _ kept meets => (kept.step meets.1 meets.2).1
  refine ⟨?_, ?_, ?_⟩
  · intro code member
    obtain ⟨qty, stored, _⟩ := sound.settled code member
    obtain ⟨item, found, _⟩ := Option.map_eq_some_iff.mp stored
    have some_ : 0 < mid.items.countP (itemFilter code).holds :=
      List.countP_pos_iff.mpr ⟨item, List.mem_of_find?_eq_some found, List.find?_some found⟩
    have few := sound.indexed.count code
    omega
  · intro code member
    obtain ⟨qty, stored, near⟩ := sound.settled code member
    rw [qtyDiffers, decide_eq_false_iff_not, not_lt] at near
    exact ⟨qty, stored, near⟩
  · intro code member
    have kept : SyncSound erp last ∧ stockAt code last.items = stockAt code mid.items := by
      apply later.invariant ⟨sound, rfl⟩
      rintro s op ⟨kept, same⟩ meets
      obtain ⟨next, stable⟩ := kept.step meets.1 meets.2
      obtain ⟨qty, stored, near⟩ := sound.settled code member
      refine ⟨next, ?_⟩
      rw [stable code ⟨qty, same.trans stored, near⟩, same]
    exact kept.2

/-- One product with these batches. -/
def boltErp (stocks : List (String × ℚ)) : Erp where
  products := [⟨1, "I1", "Bolt", true, []⟩]
  batches := stocks.map fun batch => ⟨1, some batch.1, some batch.2, []⟩
  isNumeric text := text.toList.all Char.isDigit

def boltItem : SyncedItems where
  items := [Doc.ofList [("item_code", .str "I1"), ("stock_qty", .num 0)]]

theorem boltItem_indexed : ItemsIndexed boltItem.items := by
  refine ⟨?_, List.nodup_singleton _⟩
  intro item member
  cases List.mem_singleton.mp member
  exact ⟨"I1", rfl⟩

def oneBatch : List (String × ℚ) := [("890001", 5)]

def twoBatches : List (String × ℚ) := [("890001", 3), ("890002", 4)]

def fullSync (erp : Erp) : ErpSyncOp × Int := (.full erp.itemRows, 10)

def varianceSync : ErpSyncOp × Int := (.varianceOnly, 20)

theorem erpStock_agrees_one_batch :
    StockAgrees (boltErp oneBatch) (boltItem.step (boltErp oneBatch) (fullSync (boltErp oneBatch)))
        ((boltItem.step (boltErp oneBatch) (fullSync (boltErp oneBatch))).step (boltErp oneBatch) varianceSync) ∧
      stockAt "I1" (boltItem.step (boltErp oneBatch) (fullSync (boltErp oneBatch))).items = some (some 5) := by
  refine ⟨erpStock_agrees boltItem_indexed rfl (.next _ .start ⟨⟨?_, ?_⟩, ?_⟩) (.next _ .start ⟨⟨trivial, ?_⟩, ?_⟩), ?_⟩
  · exact ⟨_, List.Perm.refl _, rfl⟩
  · decide +kernel
  · intro row member
    cases List.mem_singleton.mp member
    decide +kernel
  · decide +kernel
  · intro row member
    cases member
  · decide +kernel

/-- With two batches the full sync leaves the stock of the last one, and the variance sync changes
it to the sum. -/
theorem erpStock_disagrees :
    ¬ (∀ (erp : Erp) (first mid last : SyncedItems), ItemsIndexed first.items → first.synced = [] →
      Reaches (SyncedItems.step erp) (fun s op => s.errorFree erp op) first mid →
      Reaches (SyncedItems.step erp) (fun s op => s.errorFree erp op) mid last → StockAgrees erp mid last) ∧
    (boltErp twoBatches).totalStock "I1" = 7 ∧
    stockAt "I1" (boltItem.step (boltErp twoBatches) (fullSync (boltErp twoBatches))).items = some (some 4) ∧
    stockAt "I1" ((boltItem.step (boltErp twoBatches) (fullSync (boltErp twoBatches))).step (boltErp twoBatches)
      varianceSync).items = some (some 7) := by
  have four : stockAt "I1" (boltItem.step (boltErp twoBatches) (fullSync (boltErp twoBatches))).items = some (some 4) := by
    decide +kernel
  have seven : stockAt "I1" ((boltItem.step (boltErp twoBatches) (fullSync (boltErp twoBatches))).step (boltErp twoBatches)
      varianceSync).items = some (some 7) := by
    decide +kernel
  refine ⟨?_, by decide +kernel, four, seven⟩
  intro all
  have agrees := all (boltErp twoBatches) boltItem _ _ boltItem_indexed rfl
    (.next (fullSync (boltErp twoBatches)) .start ⟨⟨_, List.Perm.refl _, rfl⟩, by decide +kernel⟩)
    (.next varianceSync .start ⟨trivial, by decide +kernel⟩)
  have same := agrees.stable "I1" (by decide +kernel)
  rw [four, seven] at same
  revert same
  decide +kernel

end StockVerification
