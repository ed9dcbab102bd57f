import Mathlib.Data.List.Dedup
import Mathlib.Data.List.Forall2
import StockVerification.ErpSync
import StockVerification.Foundation.Gatherings
import StockVerification.ItemVerification

/-!
# Verification in batches

Source: backend/services/sql_verification_service.py:410-659 and 713-862,
backend/sql_server_connector.py:930-987, backend/config/mappings.py:453-461.

A single verification asks the ERP for the stock of one code, a batch for the stocks of many codes
at once; the two queries are different. The verifications of a batch run at the same time, each as a
single one does, and their steps interleave. Failures of the ERP's connection are left out.
-/
namespace StockVerification

open Foundation

/-- `get_item_quantity`: the batches with a barcode of the active products. There is always one
row. -/
def Erp.getItemQuantity (erp : Erp) (itemCode : String) : ℚ :=
  ((erp.products.filter fun product => product.productCode == itemCode && product.isActive).flatMap fun product =>
    ((erp.batchesOf product).filter fun batch => batch.autoBarcode.isSome).map fun batch => batch.stock.getD 0).sum

/-- What a verification answers for a code: the quantity of the ERP, and the error if it fails. -/
structure CodeAnswer where
  sqlQty : Option ℚ
  error : Option VerifyError
  deriving DecidableEq

def errorOf : Except VerifyError VerifySuccess → Option VerifyError
  | .ok _ => none
  | .error error => some error

section

variable (toFloat : ℚ → ℚ) (policy : VerifyPolicy) (erp : Erp)

/-- `verify_item_quantity`, with the latency of its query and the time of its write. -/
def verifyItemQuantity (s : ItemLedger) (latencyMs : ℚ) (verifiedAt : Int) (itemCode : String) : CodeAnswer :=
  let reading : SqlReading := ⟨erp.getItemQuantity itemCode, latencyMs, verifiedAt⟩
  ⟨some reading.sqlQty, errorOf (verifyItemWithSqlQty toFloat policy itemCode reading s).2⟩

def isIncompleteBatchResult (quantities : List (String × ℚ)) (itemCodes : List String) : Bool :=
  quantities.length != itemCodes.length || itemCodes.any fun code => (quantities.lookup code).isNone

def incompleteError (itemCode : String) : VerifyError :=
  ⟨"ERP_AMBIGUOUS_BATCH_RESULT", "ERP batch returned incomplete results.", 500, itemCode, none⟩

/-- Where a verification of the batch waits: for the item, for its update, for the item again, or
not any more. -/
inductive VerifyStage where
  | load
  | write (snapshot : LoadedItem)
  | check (snapshot : LoadedItem)
  | ended (error : Option VerifyError)

/-- A step of `_verify_item_with_sql_qty` between two calls of the database. -/
def resumeVerification (readings : String → SqlReading) (itemCode : String) (s : ItemLedger) :
    VerifyStage → ItemLedger × VerifyStage
  | .load =>
    match takeSnapshot toFloat policy itemCode (readings itemCode) s.items with
    | .error error => (s, .ended (some error))
    | .ok snapshot => (s, .write snapshot)
  | .write snapshot =>
    match writeVerification (readings itemCode) snapshot s.items with
    | some items => ({ s with items := items }, .ended none)
    | none => (s, .check snapshot)
  | .check snapshot =>
    let (after, error) := handleUpdateConflictOrLoss itemCode (readings itemCode) snapshot s
    (after, .ended (some error))
  | .ended error => (s, .ended error)

/-- The verifications at the start. Codes are different where it comes to them, so they serve as
keys. -/
def startBatch (s : ItemLedger) : Gathering String ItemLedger VerifyStage where
  store := s
  stage := fun _ => .load

/-- The readings of a batch: one query for all, and the time of each write. -/
def batchReadings (itemCodes : List String) (latencyMs : ℚ) (verifiedAt : String → Int)
    (itemCode : String) : SqlReading :=
  ⟨((erp.getItemQuantitiesOnly itemCodes).lookup itemCode).getD 0, latencyMs, verifiedAt itemCode⟩

/-- The answers of `batch_verify_items` for its codes, under some schedule of the verifications. No
codes have no answers. -/
def BatchAnswers (s : ItemLedger) (itemCodes : List String) (answer : String → CodeAnswer) : Prop :=
  if isIncompleteBatchResult (erp.getItemQuantitiesOnly itemCodes) itemCodes then
    ∀ code ∈ itemCodes, answer code = ⟨none, some (incompleteError code)⟩
  else ∃ (latencyMs : ℚ) (verifiedAt : String → Int) (schedule : List String),
    let readings := batchReadings erp itemCodes latencyMs verifiedAt
    (∀ code ∈ schedule, code ∈ itemCodes) ∧ ∀ code ∈ itemCodes, ∃ error,
      (schedule.foldl (Gathering.step (resumeVerification toFloat policy readings)) (startBatch s)).stage code =
        .ended error ∧ answer code = ⟨some (readings code).sqlQty, error⟩

/-- Whatever the order of its steps, a batch answers for each code what a single verification in the
same state does. -/
def BatchEqualsSingle (items : List Doc) (itemCodes : List String) : Prop :=
  ∀ answer, BatchAnswers toFloat policy erp { items := items } itemCodes answer →
    ∀ code ∈ itemCodes, ∀ latencyMs verifiedAt,
      answer code = verifyItemQuantity toFloat policy erp { items := items } latencyMs verifiedAt code

/-- A quantity with which the verification of a document succeeds. -/
structure Accepts (sqlQty : ℚ) (item : Doc) : Prop where
  notNegative : 0 ≤ sqlQty
  stock : ∃ qty, item "stock_qty" = some (.num qty) ∧ toFloat qty = qty ∧ WithinPolicy policy (sqlQty - qty)
  seq : (readVerificationSeq item).isSome = true

/-- No code is repeated or empty, there are at most a thousand, the two queries sum up the same for
each, and no two codes of one quantity lead to one document that accepts it. -/
structure BatchSound (items : List Doc) (itemCodes : List String) : Prop where
  few : itemCodes.length ≤ 1000
  distinct : itemCodes.Nodup
  named : "" ∉ itemCodes
  sums : ∀ code ∈ itemCodes, erp.totalStock code = erp.getItemQuantity code
  apart : ∀ code ∈ itemCodes, ∀ other ∈ itemCodes, code ≠ other → erp.totalStock code = erp.totalStock other →
    ∀ item, items.find? (carriesCode code) = some item → items.find? (carriesCode other) = some item →
      ¬ Accepts toFloat policy (erp.totalStock code) item

end

def Erp.answeredCodes (erp : Erp) (itemCodes : List String) : List String :=
  (erp.products.map (·.productCode)).dedup.filter fun code => (itemCodes.take 1000).contains code && code != ""

theorem lookup_each (f : String → ℚ) (names : List String) (code : String) :
    (names.map fun name => (name, f name)).lookup code = if code ∈ names then some (f code) else none := by
  induction names with
  | nil => rfl
  | cons name rest ih =>
    rw [List.map_cons, List.lookup_cons, ih]
    by_cases here : code = name
    · simp [here]
    · have apart : (code == name) = false := beq_eq_false_iff_ne.mpr here
      simp [apart, here]

section

variable {toFloat : ℚ → ℚ} {policy : VerifyPolicy} {erp : Erp} {itemCodes : List String}

theorem lookup_quantities (code : String) : (erp.getItemQuantitiesOnly itemCodes).lookup code =
    if code ∈ erp.answeredCodes itemCodes then some (erp.totalStock code) else none :=
  lookup_each ..

theorem answeredCodes_nodup : (erp.answeredCodes itemCodes).Nodup := (List.nodup_dedup _).filter _

variable {code : String}

theorem mem_answeredCodes : code ∈ erp.answeredCodes itemCodes ↔
    code ∈ erp.products.map (·.productCode) ∧ code ∈ itemCodes.take 1000 ∧ code ≠ "" := by
  simp [Erp.answeredCodes]

theorem complete_iff_answered : isIncompleteBatchResult (erp.getItemQuantitiesOnly itemCodes) itemCodes = false ↔
    (erp.answeredCodes itemCodes).length = itemCodes.length ∧
      ∀ code ∈ itemCodes, code ∈ erp.answeredCodes itemCodes := by
  have length : (erp.getItemQuantitiesOnly itemCodes).length = (erp.answeredCodes itemCodes).length := List.length_map _
  simp [isIncompleteBatchResult, length, lookup_quantities]

/-- For codes that the ERP knows, the result is complete exactly if none is repeated or empty and
there are at most a thousand. -/
theorem complete_iff (known : ∀ code ∈ itemCodes, code ∈ erp.products.map (·.productCode)) :
    isIncompleteBatchResult (erp.getItemQuantitiesOnly itemCodes) itemCodes = false ↔
      itemCodes.length ≤ 1000 ∧ itemCodes.Nodup ∧ "" ∉ itemCodes := by
  rw [complete_iff_answered]
  constructor
  · rintro ⟨length, answered⟩
    have within : erp.answeredCodes itemCodes ⊆ itemCodes.take 1000 := fun code member => (mem_answeredCodes.mp member).2.1
    have few := (answeredCodes_nodup.subperm within).length_le
    rw [length, List.length_take] at few
    have all : itemCodes.take 1000 = itemCodes := List.take_of_length_le (by omega)
    rw [all] at within
    have same := (answeredCodes_nodup.subperm within).perm_of_length_le length.ge
    refine ⟨by omega, same.nodup_iff.mp answeredCodes_nodup, fun empty => ?_⟩
    exact (mem_answeredCodes.mp (answered "" empty)).2.2 rfl
  · rintro ⟨few, distinct, named⟩
    have all : itemCodes.take 1000 = itemCodes := List.take_of_length_le few
    have same : ∀ code, code ∈ erp.answeredCodes itemCodes ↔ code ∈ itemCodes := by
      intro code
      rw [mem_answeredCodes, all]
      refine ⟨fun answered => answered.2.1, fun member => ⟨known code member, member, ?_⟩⟩
      rintro rfl
      exact named member
    have perm := (List.perm_ext_iff_of_nodup answeredCodes_nodup distinct).mpr same
    exact ⟨perm.length_eq, fun code member => (same code).mpr member⟩

/-- A document under verification keeps its id, its codes and its stock, and its sequence number
stays readable or unreadable. -/
structure SameItem (item new : Doc) : Prop where
  id : new "_id" = item "_id"
  code : new "item_code" = item "item_code"
  barcode : new "barcode" = item "barcode"
  stock : new "stock_qty" = item "stock_qty"
  seq : (readVerificationSeq new).isSome = (readVerificationSeq item).isSome

theorem SameItem.refl (item : Doc) : SameItem item item := ⟨rfl, rfl, rfl, rfl, rfl⟩

variable {item : Doc}

theorem SameItem.trans {middle new : Doc} (first : SameItem item middle)
    (second : SameItem middle new) : SameItem item new :=
  ⟨second.id.trans first.id, second.code.trans first.code, second.barcode.trans first.barcode,
    second.stock.trans first.stock, second.seq.trans first.seq⟩

section

variable {new : Doc} (same : SameItem item new)
include same

theorem SameItem.getId : new.get "_id" = item.get "_id" :=
  Doc.get_congr same.id

theorem SameItem.carries (code : String) : carriesCode code new = carriesCode code item := by
  simp only [carriesCode, Filter.holds, Filter.fieldIs, same.code, same.barcode]

theorem SameItem.unchanged (snapshot : LoadedItem) : unchangedItem snapshot new = unchangedItem snapshot item := by
  simp only [unchangedItem, Filter.holds, Filter.fieldIs, same.id, same.stock]

end

variable {reading : SqlReading}

theorem sameItem_written {snapshot : LoadedItem}
    (readable : (readVerificationSeq item).isSome = true) :
    SameItem item (item.setAll (writtenFields reading snapshot)) := by
  have counted := readVerificationSeq_num (Doc.setAll_named item
    (buildSqlUpdateData_fields reading snapshot.mongoQty (snapshot.currentSeq + 1)).2.2)
  rw [← writtenFields] at counted
  refine ⟨Doc.setAll_other item ?_, Doc.setAll_other item ?_, Doc.setAll_other item ?_,
    Doc.setAll_other item ?_, by rw [counted, readable]; rfl⟩
  all_goals simp [writtenFields, buildSqlUpdateData]

abbrev SameItems : List Doc → List Doc → Prop := List.Forall₂ SameItem

section

variable {items now : List Doc}

theorem SameItems.refl (items : List Doc) : SameItems items items := List.forall₂_same.mpr fun item _ => SameItem.refl item

section

variable (same : SameItems items now)
include same

theorem SameItems.find {p : Doc → Bool}
    (blind : ∀ item new, SameItem item new → p new = p item) : items.find? p = none ∧ now.find? p = none ∨
      ∃ item new, items.find? p = some item ∧ now.find? p = some new ∧ SameItem item new := by
  induction same with
  | nil => exact .inl ⟨rfl, rfl⟩
  | @cons item new _ _ related _ ih =>
    rw [List.find?_cons, List.find?_cons, blind item new related]
    cases p item with
    | true => exact .inr ⟨item, new, rfl, rfl, related⟩
    | false => exact ih

theorem SameItems.replace {p : Doc → Bool} {old new : Doc} (found : now.find? p = some old)
    (related : SameItem old new) : SameItems items (Collection.replaceFirst p new now) := by
  induction same with
  | nil => cases found
  | @cons item first _ rest relation tail ih =>
    rw [List.find?_cons] at found
    rw [Collection.replaceFirst]
    cases matched : p first with
    | true =>
      rw [matched] at found
      cases found
      exact .cons (relation.trans related) tail
    | false =>
      rw [matched] at found
      exact .cons relation (ih found)

theorem SameItems.ids : now.map (·.get "_id") = items.map (·.get "_id") := by
  induction same with
  | nil => rfl
  | cons related _ ih => rw [List.map_cons, List.map_cons, ih, related.getId]

theorem SameItems.distinctIds (identified : DistinctIds items) : DistinctIds now := by
  refine ⟨fun new member => ?_, by rw [same.ids]; exact identified.distinct⟩
  have paired : ∃ item ∈ items, SameItem item new := by
    clear identified
    induction same with
    | nil => cases member
    | @cons item first _ _ related _ ih =>
      rcases List.mem_cons.mp member with rfl | later
      · exact ⟨item, List.mem_cons_self, related⟩
      · obtain ⟨other, otherMember, relation⟩ := ih later
        exact ⟨other, List.mem_cons_of_mem _ otherMember, relation⟩
  obtain ⟨item, itemMember, related⟩ := paired
  rw [related.id]
  exact identified.present item itemMember

/-- Two verifications that read the two forms of an item go on with the same stock, or are refused
alike. -/
theorem takeSnapshot_related :
    (∃ error, takeSnapshot toFloat policy code reading items = .error error ∧
      takeSnapshot toFloat policy code reading now = .error error) ∨
    ∃ first later : LoadedItem, takeSnapshot toFloat policy code reading items = .ok first ∧
      takeSnapshot toFloat policy code reading now = .ok later ∧ later.id = first.id ∧
      later.mongoQty = first.mongoQty := by
  unfold takeSnapshot
  cases checked : validateSqlQty code reading.sqlQty with
  | error error => exact .inl ⟨error, rfl, rfl⟩
  | ok done =>
    unfold loadMongoItemSnapshot
    rcases same.find (fun item new related => related.carries code) with
      ⟨absent, still⟩ | ⟨item, new, found, located, related⟩
    · rw [absent, still]
      exact .inl ⟨_, rfl, rfl⟩
    · have normal : normalizeMongoQty new = normalizeMongoQty item := by
        rw [normalizeMongoQty, normalizeMongoQty, Doc.get_congr related.stock]
      have quantity : normalizeMongoQtyOrError toFloat code new = normalizeMongoQtyOrError toFloat code item := by
        rw [normalizeMongoQtyOrError, normalizeMongoQtyOrError, normal]
      rw [found, located]
      simp only [bind, Except.bind, quantity]
      cases normalizeMongoQtyOrError toFloat code item with
      | error error => exact .inl ⟨error, rfl, rfl⟩
      | ok mongoQty =>
        unfold currentSeqOrError
        cases counted : readVerificationSeq item with
        | none =>
          have still : readVerificationSeq new = none := by
            rw [← Option.isNone_iff_eq_none, ← Option.not_isSome, related.seq, counted]
            rfl
          rw [still]
          exact .inl ⟨_, rfl, rfl⟩
        | some seq =>
          obtain ⟨next, later⟩ := Option.isSome_iff_exists.mp (related.seq.trans (by rw [counted]; rfl))
          rw [later]
          dsimp only
          cases checkVariance policy code (reading.sqlQty - mongoQty) with
          | error error => exact .inl ⟨error, rfl, rfl⟩
          | ok done => exact .inr ⟨_, _, rfl, rfl, related.getId, rfl⟩

end

end

section

variable {items : List Doc}

theorem takeSnapshot_qty {other : SqlReading} (same : other.sqlQty = reading.sqlQty) :
    takeSnapshot toFloat policy code other items = takeSnapshot toFloat policy code reading items := by
  rw [takeSnapshot, takeSnapshot, same]

theorem unchangedItem_congr {first later : LoadedItem} (id : later.id = first.id)
    (qty : later.mongoQty = first.mongoQty) : unchangedItem later = unchangedItem first := by
  rw [unchangedItem, unchangedItem, id, qty]

/-- An update that finds nothing has met another stock. -/
theorem conflict_of_unfound {snapshot : LoadedItem} {s : ItemLedger} (identified : DistinctIds s.items)
    (member : item ∈ s.items) (read : snapshot.id = item.get "_id")
    (unfound : s.items.find? (unchangedItem snapshot) = none) :
    (handleUpdateConflictOrLoss code reading snapshot s).2 = conflictError code := by
  have differs : item.get "stock_qty" ≠ .num snapshot.mongoQty := by
    intro same
    have stored : item "stock_qty" = some (.num snapshot.mongoQty) := by
      rw [Doc.get_eq] at same
      cases held : item "stock_qty" with
      | none =>
        rw [held] at same
        cases same
      | some stock =>
        rw [held, Option.getD_some] at same
        rw [same]
    have stock : Filter.fieldIs item "stock_qty" (.num snapshot.mongoQty) = true := by
      rw [Filter.fieldIs, stored]
      exact beq_self_eq_true _
    rw [find_unchanged identified member read, if_pos stock] at unfound
    cases unfound
  unfold handleUpdateConflictOrLoss
  rw [read, identified.find_id member]
  simp only [bne_iff_ne.mpr differs, if_true]

/-- The error that a verification answers, if it fails. -/
def verificationError (toFloat : ℚ → ℚ) (policy : VerifyPolicy) (code : String)
    (reading : SqlReading) (items : List Doc) : Option VerifyError :=
  match takeSnapshot toFloat policy code reading items with
  | .error error => some error
  | .ok snapshot => if (items.find? (unchangedItem snapshot)).isSome then none else some (conflictError code)

theorem errorOf_verify {s : ItemLedger} (identified : DistinctIds s.items) :
    errorOf (verifyItemWithSqlQty toFloat policy code reading s).2 =
      verificationError toFloat policy code reading s.items := by
  unfold verifyItemWithSqlQty verificationError
  cases taken : takeSnapshot toFloat policy code reading s.items with
  | error error => rfl
  | ok snapshot =>
    obtain ⟨item, found, held⟩ := takeSnapshot_ok_iff.mp taken
    have member := List.mem_of_find?_eq_some found
    have hit := find_unchanged identified member held.id
    have written : writeVerification reading snapshot s.items = _ := writeVerification_eq identified member held.id
    by_cases stock : Filter.fieldIs item "stock_qty" (.num snapshot.mongoQty) = true
    · rw [if_pos ⟨stock, isModified_of_seq held.seq⟩] at written
      simp only [written, hit, if_pos stock]
      rfl
    · rw [if_neg fun both => stock both.1] at written
      rw [if_neg stock] at hit
      simp only [written, hit]
      exact congrArg some (conflict_of_unfound identified member held.id hit)

end

variable {stage : VerifyStage} {schedule : List String}

section

variable {items : List Doc} {readings : String → SqlReading}

/-- A verification goes on with the stock of the item that it began with. -/
def Aimed (toFloat : ℚ → ℚ) (policy : VerifyPolicy) (items : List Doc)
    (readings : String → SqlReading) (code : String) (snapshot : LoadedItem) : Prop :=
  ∃ first, takeSnapshot toFloat policy code (readings code) items = .ok first ∧
    snapshot.id = first.id ∧ snapshot.mongoQty = first.mongoQty

/-- What is known of a verification that began with the items at the start: an update that finds its
item changes it, and a check follows an update that has met another stock. -/
def StageSound (toFloat : ℚ → ℚ) (policy : VerifyPolicy) (items : List Doc)
    (readings : String → SqlReading) (s : ItemLedger) (code : String) : VerifyStage → Prop
  | .load => True
  | .write snapshot => Aimed toFloat policy items readings code snapshot ∧
    ∀ item ∈ s.items, item.get "_id" = snapshot.id → isModified (readings code) snapshot item = true
  | .check snapshot => Aimed toFloat policy items readings code snapshot ∧
    items.find? (unchangedItem snapshot) = none
  | .ended error => error = verificationError toFloat policy code (readings code) items

theorem handle_items (snapshot : LoadedItem) (code : String) (reading : SqlReading)
    (s : ItemLedger) : (handleUpdateConflictOrLoss code reading snapshot s).1.items = s.items := by
  unfold handleUpdateConflictOrLoss
  split
  · split <;> rfl
  · rfl

/-- A step leaves the items alone, or writes the one that its update finds. -/
theorem resume_items (toFloat : ℚ → ℚ) (policy : VerifyPolicy) (readings : String → SqlReading)
    (code : String) (s : ItemLedger) (stage : VerifyStage) :
    (resumeVerification toFloat policy readings code s stage).1.items = s.items ∨
    ∃ snapshot item, stage = .write snapshot ∧ s.items.find? (unchangedItem snapshot) = some item ∧
      (resumeVerification toFloat policy readings code s stage).1.items =
        Collection.replaceFirst (unchangedItem snapshot)
          (item.setAll (writtenFields (readings code) snapshot)) s.items := by
  cases stage with
  | load =>
    left
    unfold resumeVerification
    dsimp only
    split <;> rfl
  | write snapshot =>
    unfold resumeVerification
    dsimp only
    cases found : s.items.find? (unchangedItem snapshot) with
    | none =>
      rw [writeVerification_unfound found]
      exact .inl rfl
    | some item =>
      rw [writeVerification_found found]
      by_cases modified : isModified (readings code) snapshot item = true
      · rw [if_pos modified]
        exact .inr ⟨snapshot, item, rfl, found, rfl⟩
      · rw [if_neg modified]
        exact .inl rfl
  | check snapshot => exact .inl (handle_items ..)
  | ended error => exact .inl rfl

/-- Codes of one quantity do not lead to one document that accepts it. -/
def ReadingsApart (toFloat : ℚ → ℚ) (policy : VerifyPolicy) (items : List Doc)
    (readings : String → SqlReading) (codes : List String) : Prop :=
  ∀ code ∈ codes, ∀ other ∈ codes, code ≠ other → (readings code).sqlQty = (readings other).sqlQty →
    ∀ item, items.find? (carriesCode code) = some item → items.find? (carriesCode other) = some item →
      ¬ Accepts toFloat policy (readings code).sqlQty item

variable {s : ItemLedger} {snapshot : LoadedItem}

/-- What an update finds is the item that its code led to at the start, and it accepts the
quantity. -/
theorem Aimed.target (aimed : Aimed toFloat policy items readings code snapshot) (identified : DistinctIds items)
    (same : SameItems items s.items) (found : s.items.find? (unchangedItem snapshot) = some item) :
    ∃ origin, items.find? (carriesCode code) = some origin ∧ SameItem origin item ∧
      Accepts toFloat policy (readings code).sqlQty origin ∧ item.get "_id" = snapshot.id := by
  obtain ⟨first, taken, id, qty⟩ := aimed
  obtain ⟨origin, located, held⟩ := takeSnapshot_ok_iff.mp taken
  rcases same.find (fun item new related => related.unchanged snapshot) with
    ⟨_, unfound⟩ | ⟨place, new, atStart, isNew, related⟩
  · rw [unfound] at found
    cases found
  · obtain rfl := Option.some.inj (isNew.symm.trans found)
    have placeMember := List.mem_of_find?_eq_some atStart
    obtain ⟨hasId, hasStock⟩ := unchangedItem_iff.mp (List.find?_some atStart)
    rw [identified.idIs_iff placeMember] at hasId
    obtain rfl := identified.same_of_id placeMember (List.mem_of_find?_eq_some located)
      (hasId.trans (id.trans held.id))
    rw [qty] at hasStock
    obtain ⟨stored, normal, quantity⟩ := held.quantity
    obtain ⟨stock, kept, exactly⟩ := (stock_unchanged_iff normal).mp (quantity ▸ hasStock)
    rw [normalizeMongoQty, Doc.get_of_some kept, Option.some.injEq] at normal
    have amount : first.mongoQty = stock := by rw [quantity, ← normal, exactly]
    refine ⟨place, located, related, ⟨held.notNegative, ⟨stock, kept, exactly, ?_⟩, by rw [held.seq]; rfl⟩, ?_⟩
    · rw [← amount]
      exact held.within
    · exact related.getId.trans hasId

theorem resume_store (identified : DistinctIds items) (same : SameItems items s.items)
    (sound : StageSound toFloat policy items readings s code stage) :
    SameItems items (resumeVerification toFloat policy readings code s stage).1.items := by
  rcases resume_items toFloat policy readings code s stage with kept | ⟨snapshot, item, rfl, found, written⟩
  · rw [kept]
    exact same
  · obtain ⟨origin, _, related, accepts, _⟩ := sound.1.target identified same found
    rw [written]
    exact same.replace found (sameItem_written (related.seq.trans accepts.seq))

theorem Aimed.error (aimed : Aimed toFloat policy items readings code snapshot) :
    verificationError toFloat policy code (readings code) items =
      if (items.find? (unchangedItem snapshot)).isSome then none else some (conflictError code) := by
  obtain ⟨first, taken, id, qty⟩ := aimed
  rw [unchangedItem_congr id qty, verificationError, taken]

theorem SameItems.find_unchanged (same : SameItems items s.items) (snapshot : LoadedItem) :
    (s.items.find? (unchangedItem snapshot)).isSome = (items.find? (unchangedItem snapshot)).isSome := by
  rcases same.find (fun item new related => related.unchanged snapshot) with
    ⟨before, after⟩ | ⟨item, new, before, after, _⟩
  · rw [before, after]
  · rw [before, after]
    rfl

theorem Aimed.stays (aimed : Aimed toFloat policy items readings code snapshot) (identified : DistinctIds items)
    (same : SameItems items s.items) : ∃ new ∈ s.items, snapshot.id = new.get "_id" := by
  obtain ⟨first, taken, id, -⟩ := aimed
  obtain ⟨origin, located, held⟩ := takeSnapshot_ok_iff.mp taken
  have blind : ∀ item new, SameItem item new →
      (Filter.eq "_id" (origin.get "_id")).holds new = (Filter.eq "_id" (origin.get "_id")).holds item := by
    intro item new related
    simp only [Filter.holds, Filter.fieldIs, related.id]
  have atStart := identified.find_id (List.mem_of_find?_eq_some located)
  rcases same.find blind with ⟨missing, _⟩ | ⟨item, new, before, now, related⟩
  · rw [missing] at atStart
    cases atStart
  · obtain rfl := Option.some.inj (before.symm.trans atStart)
    exact ⟨new, List.mem_of_find?_eq_some now, id.trans (held.id.trans related.getId.symm)⟩

section

variable (identified : DistinctIds items) (same : SameItems items s.items)

include identified same

/-- What has been read goes to the update, and the item can be changed. -/
theorem resume_load : StageSound toFloat policy items readings
    (resumeVerification toFloat policy readings code s .load).1 code
    (resumeVerification toFloat policy readings code s .load).2 := by
  unfold resumeVerification
  dsimp only
  rcases takeSnapshot_related same with ⟨error, atStart, now⟩ | ⟨first, later, atStart, now, id, qty⟩
  · rw [now]
    have answered : verificationError toFloat policy code (readings code) items = some error := by
      simp only [verificationError, atStart]
    exact answered.symm
  · rw [now]
    refine ⟨⟨first, atStart, id, qty⟩, fun item member hasId => ?_⟩
    obtain ⟨found, located, held⟩ := takeSnapshot_ok_iff.mp now
    obtain rfl := (same.distinctIds identified).same_of_id member (List.mem_of_find?_eq_some located)
      (hasId.trans held.id)
    exact isModified_of_seq held.seq

/-- An update that finds its item succeeds, as it would have at the start. -/
theorem resume_write (sound : StageSound toFloat policy items readings s code (.write snapshot)) :
    StageSound toFloat policy items readings (resumeVerification toFloat policy readings code s (.write snapshot)).1 code
      (resumeVerification toFloat policy readings code s (.write snapshot)).2 := by
  obtain ⟨aimed, modified⟩ := sound
  have alike := same.find_unchanged snapshot
  unfold resumeVerification
  dsimp only
  cases found : s.items.find? (unchangedItem snapshot) with
  | none =>
    rw [found, Option.isSome_none, eq_comm, Option.isSome_eq_false_iff, Option.isNone_iff_eq_none] at alike
    rw [writeVerification_unfound found]
    exact ⟨aimed, alike⟩
  | some item =>
    obtain ⟨origin, located, related, accepts, hasId⟩ := aimed.target identified same found
    rw [writeVerification_found found, if_pos (modified item (List.mem_of_find?_eq_some found) hasId)]
    rw [found, Option.isSome_some, eq_comm, Option.isSome_iff_exists] at alike
    obtain ⟨start, atStart⟩ := alike
    change none = _
    rw [aimed.error, atStart]
    rfl

theorem resume_check (sound : StageSound toFloat policy items readings s code (.check snapshot)) :
    StageSound toFloat policy items readings (resumeVerification toFloat policy readings code s (.check snapshot)).1 code
      (resumeVerification toFloat policy readings code s (.check snapshot)).2 := by
  obtain ⟨aimed, unfound⟩ := sound
  have alike := same.find_unchanged snapshot
  rw [unfound, Option.isSome_none, Option.isSome_eq_false_iff, Option.isNone_iff_eq_none] at alike
  obtain ⟨item, member, read⟩ := aimed.stays identified same
  have conflict : (handleUpdateConflictOrLoss code (readings code) snapshot s).2 = conflictError code :=
    conflict_of_unfound (same.distinctIds identified) member read alike
  change some (handleUpdateConflictOrLoss code (readings code) snapshot s).2 = _
  rw [conflict, aimed.error, unfound]
  rfl

theorem resume_own (sound : StageSound toFloat policy items readings s code stage) :
    StageSound toFloat policy items readings (resumeVerification toFloat policy readings code s stage).1 code
      (resumeVerification toFloat policy readings code s stage).2 := by
  cases stage with
  | load => exact resume_load identified same
  | write snapshot => exact resume_write identified same sound
  | check snapshot => exact resume_check identified same sound
  | ended error => exact sound

end

section

variable {codes : List String} (apart : ReadingsApart toFloat policy items readings codes)
  (identified : DistinctIds items)
include apart identified

/-- A write leaves the facts about the other verifications: one that leads to the same item has
another quantity. -/
theorem resume_others (same : SameItems items s.items) {other : String} (listed : code ∈ codes)
    (otherListed : other ∈ codes) (different : other ≠ code) {otherStage : VerifyStage}
    (sound : StageSound toFloat policy items readings s code stage)
    (otherSound : StageSound toFloat policy items readings s other otherStage) :
    StageSound toFloat policy items readings (resumeVerification toFloat policy readings code s stage).1 other
      otherStage := by
  cases otherStage with
  | load => trivial
  | check snapshot => exact otherSound
  | ended error => exact otherSound
  | write snapshot =>
    obtain ⟨aimed, modified⟩ := otherSound
    refine ⟨aimed, fun item member hasId => ?_⟩
    rcases resume_items toFloat policy readings code s stage with kept | ⟨writing, target, rfl, found, written⟩
    · rw [kept] at member
      exact modified item member hasId
    · rw [written] at member
      rcases Collection.mem_replaceFirst member with old | rfl
      · exact modified item old hasId
      · obtain ⟨origin, located, related, accepts, targetId⟩ := sound.1.target identified same found
        obtain ⟨first, taken, id, -⟩ := aimed
        obtain ⟨aim, aimLocated, held⟩ := takeSnapshot_ok_iff.mp taken
        have readable := related.seq.trans accepts.seq
        have sameId : aim.get "_id" = origin.get "_id" := by
          rw [← held.id, ← id, ← hasId, (sameItem_written readable).getId, related.getId]
        obtain rfl := identified.same_of_id (List.mem_of_find?_eq_some aimLocated)
          (List.mem_of_find?_eq_some located) sameId
        have quantities : (readings code).sqlQty ≠ (readings other).sqlQty := fun equal =>
          apart code listed other otherListed (Ne.symm different) equal aim located aimLocated accepts
        refine List.any_eq_true.mpr ⟨("sql_verified_qty", .num (readings other).sqlQty), ?_, ?_⟩
        · simp [writtenFields, buildSqlUpdateData]
        · have stored : target.setAll (writtenFields (readings code) writing) "sql_verified_qty" =
              some (.num (readings code).sqlQty) := Doc.setAll_named target (by simp [writtenFields, buildSqlUpdateData])
          rw [stored]
          simpa using quantities

theorem stage_keeps : Gathering.Keeps (resumeVerification toFloat policy readings)
      (fun s => SameItems items s.items) (StageSound toFloat policy items readings) codes where
  store _ _ _ _ same sound := resume_store identified same sound
  own _ _ _ _ same sound := resume_own identified same sound
  others _ listed _ otherListed different _ _ _ same sound otherSound :=
    resume_others apart identified same listed otherListed different sound otherSound

end

theorem ended_error {codes : List String} (apart : ReadingsApart toFloat policy items readings codes)
    (identified : DistinctIds items) (within : ∀ code ∈ schedule, code ∈ codes) (listed : code ∈ codes)
    {error : Option VerifyError} (ended : (schedule.foldl (Gathering.step (resumeVerification toFloat policy readings))
      (startBatch { items := items })).stage code = .ended error) :
    error = verificationError toFloat policy code (readings code) items := by
  have start : Gathering.Sound (fun s => SameItems items s.items) (StageSound toFloat policy items readings) codes
      (startBatch { items := items }) := ⟨SameItems.refl items, fun _ _ => trivial⟩
  have sound := (start.run (stage_keeps apart identified) within).stages code listed
  rw [ended] at sound
  exact sound

end

section

variable {readings : String → SqlReading}

/-- The steps that a verification may still take. -/
def VerifyStage.rank : VerifyStage → Nat
  | .load => 3
  | .write _ => 2
  | .check _ => 1
  | .ended _ => 0

def VerifyStage.error : VerifyStage → Option VerifyError
  | .ended error => error
  | _ => none

theorem VerifyStage.ended_of_rank (rank : stage.rank = 0) : stage = .ended stage.error := by
  cases stage with
  | ended error => rfl
  | load | write snapshot | check snapshot => cases rank

theorem verification_ranked :
    Gathering.Ranked (resumeVerification toFloat policy readings) VerifyStage.rank where
  falls code s stage := by
    cases stage with
    | load | write snapshot =>
      unfold resumeVerification
      dsimp only
      split
      · exact Nat.zero_le _
      · exact Nat.le_refl _
    | check snapshot => exact Nat.le_refl _
    | ended error => exact Nat.le_refl _
  rests code s stage ended := by
    rw [VerifyStage.ended_of_rank ended]
    rfl

/-- A batch can always go on from any point of its schedule and end. -/
theorem batch_ends (toFloat : ℚ → ℚ) (policy : VerifyPolicy) (readings : String → SqlReading)
    (s : ItemLedger) {codes : List String} (within : ∀ code ∈ schedule, code ∈ codes) :
    ∃ longer : List String, (∀ code ∈ longer, code ∈ codes) ∧ ∀ code ∈ codes, ∃ error,
      (longer.foldl (Gathering.step (resumeVerification toFloat policy readings)) (startBatch s)).stage code =
        .ended error ∧
      ∀ earlier, (schedule.foldl (Gathering.step (resumeVerification toFloat policy readings)) (startBatch s)).stage
        code = .ended earlier → error = earlier := by
  have ranked : Gathering.Ranked (resumeVerification toFloat policy readings) VerifyStage.rank := verification_ranked
  have bounded : ∀ code, VerifyStage.rank ((schedule.foldl (Gathering.step (resumeVerification toFloat policy readings))
      (startBatch s)).stage code) ≤ 3 := ranked.run_le schedule (startBatch s)
  refine ⟨schedule ++ codes.flatMap (List.replicate 3), fun code member => ?_, fun code listed => ?_⟩
  · rcases List.mem_append.mp member with early | late
    · exact within code early
    · obtain ⟨key, keyListed, inside⟩ := List.mem_flatMap.mp late
      rw [List.eq_of_mem_replicate inside]
      exact keyListed
  · rw [List.foldl_append]
    refine ⟨_, VerifyStage.ended_of_rank (ranked.ends codes bounded code listed), fun earlier ended => ?_⟩
    rw [ranked.run_ended _ (by rw [ended]; rfl), ended]
    rfl

variable {items : List Doc} {other : String}

theorem isModified_written (reading : SqlReading) (snapshot : LoadedItem) (item : Doc) :
    isModified reading snapshot (item.setAll (writtenFields reading snapshot)) = false := by
  simp [isModified, writtenFields, buildSqlUpdateData, Doc.setAll, Doc.update_apply, Doc.ofList, List.lookup_cons]

theorem Accepts.taken (accepts : Accepts toFloat policy reading.sqlQty item) :
    ∃ snapshot, TakenFrom toFloat policy reading item snapshot ∧ item "stock_qty" = some (.num snapshot.mongoQty) := by
  obtain ⟨notNegative, ⟨qty, stored, same, within⟩, readable⟩ := accepts
  obtain ⟨seq, counted⟩ := Option.isSome_iff_exists.mp readable
  have normal : normalizeMongoQty item = some qty := by rw [normalizeMongoQty, Doc.get_of_some stored]
  exact ⟨⟨item.get "_id", qty, seq⟩, ⟨rfl, ⟨qty, normal, same.symm⟩, counted, notNegative, within⟩, stored⟩

/-- Two verifications of one document that both read it before either writes the same: the second
finds nothing to modify and takes the item for lost. -/
theorem second_loses (identified : DistinctIds items) (different : other ≠ code) (equal : readings other = readings code)
    (found : items.find? (carriesCode code) = some item) (otherFound : items.find? (carriesCode other) = some item)
    (accepts : Accepts toFloat policy (readings code).sqlQty item) :
    ([code, other, code, other, other].foldl (Gathering.step (resumeVerification toFloat policy readings))
      (startBatch { items := items })).stage other = .ended (some (lostError other)) := by
  obtain ⟨snapshot, held, stored⟩ := accepts.taken
  have member := List.mem_of_find?_eq_some found
  have taken := takeSnapshot_ok_iff.mpr ⟨item, found, held⟩
  have otherTaken := takeSnapshot_ok_iff.mpr ⟨item, otherFound, held⟩
  have stock : Filter.fieldIs item "stock_qty" (.num snapshot.mongoQty) = true := by
    rw [Filter.fieldIs, stored]
    exact beq_self_eq_true _
  have hit := (find_unchanged identified member held.id).trans (if_pos stock)
  have related : SameItem item (item.setAll (writtenFields (readings code) snapshot)) :=
    sameItem_written (by rw [held.seq]; rfl)
  obtain ⟨after, made⟩ : ∃ after, after = Collection.replaceFirst (unchangedItem snapshot)
      (item.setAll (writtenFields (readings code) snapshot)) items := ⟨_, rfl⟩
  have identifiedAfter : DistinctIds after := by
    rw [made]
    exact ((SameItems.refl items).replace hit related).distinctIds identified
  have memberAfter : item.setAll (writtenFields (readings code) snapshot) ∈ after := by
    rw [made]
    exact Collection.mem_replaceFirst_of_find hit
  have readAfter : snapshot.id = (item.setAll (writtenFields (readings code) snapshot)).get "_id" :=
    held.id.trans related.getId.symm
  -- The first of the two writes, and the second finds the same fields written.
  have writes : writeVerification (readings code) snapshot items = some after := by
    rw [writeVerification_found hit, if_pos (isModified_of_seq held.seq), made]
  have writesNothing : writeVerification (readings code) snapshot after = none := by
    rw [writeVerification_eq identifiedAfter memberAfter readAfter, isModified_written]
    simp
  have lost (s : ItemLedger) (same : s.items = after) :
      (handleUpdateConflictOrLoss other (readings code) snapshot s).2 = lostError other := by
    have kept : (item.setAll (writtenFields (readings code) snapshot)).get "stock_qty" = .num snapshot.mongoQty :=
      Doc.get_of_some (related.stock.trans stored)
    unfold handleUpdateConflictOrLoss
    rw [same, readAfter, identifiedAfter.find_id memberAfter]
    simp [kept]
  simp [Gathering.step, startBatch, resumeVerification, equal, taken, otherTaken, writes,
    writesNothing, lost, different, Ne.symm different]

end

section

variable {store : IdentifiedItems}

theorem verifyItemQuantity_eq (same : reading.sqlQty = erp.getItemQuantity code)
    (latencyMs : ℚ) (verifiedAt : Int) :
    verifyItemQuantity toFloat policy erp { items := store.items } latencyMs verifiedAt code =
      ⟨some (erp.getItemQuantity code), verificationError toFloat policy code reading store.items⟩ := by
  have answered : errorOf (verifyItemWithSqlQty toFloat policy code ⟨erp.getItemQuantity code, latencyMs, verifiedAt⟩
      { items := store.items }).2 = _ := errorOf_verify store.identified
  unfold verifyItemQuantity
  dsimp only
  rw [answered, verificationError, verificationError, takeSnapshot_qty same.symm]

theorem batchReadings_qty
    (complete : isIncompleteBatchResult (erp.getItemQuantitiesOnly itemCodes) itemCodes = false)
    (listed : code ∈ itemCodes) (latencyMs : ℚ) (verifiedAt : String → Int) :
    (batchReadings erp itemCodes latencyMs verifiedAt code).sqlQty = erp.totalStock code := by
  have answered := (complete_iff_answered.mp complete).2 code listed
  simp only [batchReadings, lookup_quantities, if_pos answered, Option.getD_some]

theorem batch_answers (toFloat : ℚ → ℚ) (policy : VerifyPolicy) (s : ItemLedger)
    (complete : isIncompleteBatchResult (erp.getItemQuantitiesOnly itemCodes) itemCodes = false)
    (within : ∀ code ∈ schedule, code ∈ itemCodes) :
    ∃ answer, BatchAnswers toFloat policy erp s itemCodes answer ∧ ∀ code ∈ itemCodes,
      (answer code).sqlQty = some (erp.totalStock code) ∧ ∀ error,
        (schedule.foldl (Gathering.step (resumeVerification toFloat policy
          (batchReadings erp itemCodes 0 fun _ => 0))) (startBatch s)).stage code = .ended error →
        (answer code).error = error := by
  obtain ⟨longer, longerWithin, ends⟩ := batch_ends toFloat policy (batchReadings erp itemCodes 0 fun _ => 0) s within
  choose! error ended kept using ends
  refine ⟨fun code => ⟨some (batchReadings erp itemCodes 0 (fun _ => 0) code).sqlQty, error code⟩, ?_, ?_⟩
  · rw [BatchAnswers, if_neg (by rw [complete]; exact Bool.false_ne_true)]
    exact ⟨0, fun _ => 0, longer, longerWithin, fun code listed => ⟨error code, ended code listed, rfl⟩⟩
  · intro code listed
    exact ⟨congrArg some (batchReadings_qty complete listed 0 _), kept code listed⟩

theorem accepted_error
    (found : store.items.find? (carriesCode code) = some item) (accepts : Accepts toFloat policy reading.sqlQty item) :
    verificationError toFloat policy code reading store.items = none := by
  obtain ⟨snapshot, held, stored⟩ := accepts.taken
  have stock : Filter.fieldIs item "stock_qty" (.num snapshot.mongoQty) = true := by
    rw [Filter.fieldIs, stored]
    exact beq_self_eq_true _
  have hit := (find_unchanged store.identified (List.mem_of_find?_eq_some found) held.id).trans (if_pos stock)
  simp [verificationError, takeSnapshot_ok_iff.mpr ⟨item, found, held⟩, hit]

/-- For codes that the ERP knows, batches answer as single verifications do exactly if they are
sound. -/
theorem batch_equals_single_iff (known : ∀ code ∈ itemCodes, code ∈ erp.products.map (·.productCode)) :
    BatchEqualsSingle toFloat policy erp store.items itemCodes ↔
      BatchSound toFloat policy erp store.items itemCodes := by
  constructor
  · intro equals
    have complete : isIncompleteBatchResult (erp.getItemQuantitiesOnly itemCodes) itemCodes = false := by
      by_contra incomplete
      rw [Bool.not_eq_false] at incomplete
      have answers : BatchAnswers toFloat policy erp { items := store.items } itemCodes
          fun code => ⟨none, some (incompleteError code)⟩ := by
        rw [BatchAnswers, if_pos incomplete]
        exact fun code listed => rfl
      cases itemCodes with
      | nil => simp [isIncompleteBatchResult, Erp.getItemQuantitiesOnly] at incomplete
      | cons code rest => cases congrArg CodeAnswer.sqlQty (equals _ answers code List.mem_cons_self 0 0)
    obtain ⟨few, distinct, named⟩ := (complete_iff known).mp complete
    have sums : ∀ code ∈ itemCodes, erp.totalStock code = erp.getItemQuantity code := by
      intro code listed
      obtain ⟨answer, answers, each⟩ := batch_answers toFloat policy { items := store.items } complete
        (List.forall_mem_nil _)
      have same := congrArg CodeAnswer.sqlQty (equals answer answers code listed 0 0)
      rw [(each code listed).1] at same
      exact Option.some.inj same
    refine ⟨few, distinct, named, sums, ?_⟩
    intro code listed other otherListed different equal item found otherFound accepts
    have qty {code : String} (listed : code ∈ itemCodes) := batchReadings_qty complete listed 0 fun _ => 0
    have alike : batchReadings erp itemCodes 0 (fun _ => 0) other = batchReadings erp itemCodes 0 (fun _ => 0) code :=
      congrArg (fun sqlQty => SqlReading.mk sqlQty 0 0) ((qty otherListed).trans (equal.symm.trans (qty listed).symm))
    have loses := second_loses store.identified (Ne.symm different) alike found otherFound (by rwa [qty listed])
    have within : ∀ key ∈ [code, other, code, other, other], key ∈ itemCodes := by simp [listed, otherListed]
    obtain ⟨answer, answers, each⟩ := batch_answers toFloat policy { items := store.items } complete within
    have lost := (each other otherListed).2 _ loses
    rw [equals answer answers other otherListed 0 0,
      verifyItemQuantity_eq ((qty otherListed).trans (sums other otherListed)),
      accepted_error otherFound (by rwa [qty otherListed, ← equal])] at lost
    cases lost
  · intro sound answer answers code listed latencyMs verifiedAt
    have complete := (complete_iff known).mpr ⟨sound.few, sound.distinct, sound.named⟩
    rw [BatchAnswers, if_neg (by rw [complete]; exact Bool.false_ne_true)] at answers
    obtain ⟨latency, stamps, schedule, within, each⟩ := answers
    obtain ⟨error, ended, answered⟩ := each code listed
    have qty {code : String} (listed : code ∈ itemCodes) := batchReadings_qty complete listed latency stamps
    have apart : ReadingsApart toFloat policy store.items (batchReadings erp itemCodes latency stamps) itemCodes := by
      intro code listed other otherListed different equal item found otherFound accepts
      rw [qty listed, qty otherListed] at equal
      rw [qty listed] at accepts
      exact sound.apart code listed other otherListed different equal item found otherFound accepts
    rw [answered, ended_error apart store.identified within listed ended,
      verifyItemQuantity_eq ((qty listed).trans (sound.sums code listed)), qty listed, sound.sums code listed]

end

end

/-- Two products with a batch each. -/
def shelfErp : Erp where
  products := [⟨1, "I1", "Bolt", true, []⟩, ⟨2, "I2", "Nut", true, []⟩]
  batches := [⟨1, some "890001", some 5, []⟩, ⟨2, some "890002", some 7, []⟩]
  isNumeric := fun _ => true

def pairShelf : IdentifiedItems where
  items := [shelfItem "a1" "I1" "890001" [("stock_qty", .num 5)], shelfItem "a2" "I2" "890002" [("stock_qty", .num 7)]]
  identified := by
    refine ⟨fun item member => ?_, by decide +kernel⟩
    rcases List.mem_pair.mp member with rfl | rfl
    · exact ⟨.oid "a1", rfl, nofun⟩
    · exact ⟨.oid "a2", rfl, nofun⟩

theorem batch_equals_single_pair : BatchEqualsSingle id {} shelfErp pairShelf.items ["I1", "I2"] := by
  refine (batch_equals_single_iff (by decide)).mpr ⟨by decide, by decide, by decide, by decide +kernel, ?_⟩
  intro code listed other otherListed different equal
  simp only [List.mem_cons, List.not_mem_nil, or_false] at listed otherListed
  rcases listed with rfl | rfl <;> rcases otherListed with rfl | rfl
  · exact absurd rfl different
  · exact absurd equal (by decide +kernel)
  · exact absurd equal (by decide +kernel)
  · exact absurd rfl different

/-- A repeated code makes the rows fewer than the codes, and the whole batch is refused. -/
theorem repeated_code_refused : ¬ ∀ (toFloat : ℚ → ℚ) (policy : VerifyPolicy) (erp : Erp) (store : IdentifiedItems)
    (itemCodes : List String), (∀ code ∈ itemCodes, code ∈ erp.products.map (·.productCode)) →
      BatchEqualsSingle toFloat policy erp store.items itemCodes := by
  intro always
  have refused : BatchAnswers id {} shelfErp { items := pairShelf.items } ["I1", "I1"]
      fun code => ⟨none, some (incompleteError code)⟩ := by
    rw [BatchAnswers, if_pos (by decide +kernel)]
    exact fun code listed => rfl
  have same := always id {} shelfErp pairShelf ["I1", "I1"] (by decide) _ refused "I1" List.mem_cons_self 0 0
  cases congrArg CodeAnswer.sqlQty same

end StockVerification
