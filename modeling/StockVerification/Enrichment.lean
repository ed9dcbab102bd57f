import StockVerification.ErpStock
import StockVerification.Foundation.Interleaving

/-!
# Enrichment of item data

Source: backend/services/enrichment_service.py:16-293, backend/services/sync/core_sync.py:135-213
and 427-556, nightly.py:243-318, discovery.py:227-320, realtime.py:214-262.

Users fill in what the ERP leaves open, and the syncs fill in what an item lacks. An enrichment
reads the item twice before it writes; a full or a nightly sync reads a copy of all items and then
writes row by row. What each history entry says about the single fields is left out.
-/
namespace StockVerification

open Foundation

/-- Code points of the digits that stand for zero; nine more digits follow each. -/
def decimalZeros : List Nat :=
  [0x30, 0x660, 0x6f0, 0x7c0, 0x966, 0x9e6, 0xa66, 0xae6, 0xb66, 0xbe6, 0xc66, 0xce6, 0xd66, 0xde6, 0xe50, 0xed0,
    0xf20, 0x1040, 0x1090, 0x17e0, 0x1810, 0x1946, 0x19d0, 0x1a80, 0x1a90, 0x1b50, 0x1bb0, 0x1c40, 0x1c50, 0xa620,
    0xa8d0, 0xa900, 0xa9d0, 0xa9f0, 0xaa50, 0xabf0, 0xff10, 0x104a0, 0x10d30, 0x11066, 0x110f0, 0x11136, 0x111d0,
    0x112f0, 0x11450, 0x114d0, 0x11650, 0x116c0, 0x11730, 0x118e0, 0x11950, 0x11c50, 0x11d50, 0x11da0, 0x16a60,
    0x16ac0, 0x16b50, 0x1d7ce, 0x1d7d8, 0x1d7e2, 0x1d7ec, 0x1d7f6, 0x1e140, 0x1e2f0, 0x1e950, 0x1fbf0]

def isDecimalDigit (c : Char) : Bool := decimalZeros.any fun first => first ≤ c.toNat && c.toNat < first + 10

/-- Letters in both cases, digits and hyphens; four letters outside ASCII have an ASCII letter as
their other case. -/
def isSerialChar (c : Char) : Bool :=
  c.isAlphanum || c == '-' || [0x130, 0x131, 0x17f, 0x212a].contains c.toNat

def validateSerialNumber (value : Value) : Option String :=
  let serial := Text.strip value.text
  if serial != "" && !serial.toList.all isSerialChar then
    some "Serial number must contain only letters, numbers, and hyphens"
  else none

def validateMrp (value : Value) : Option String :=
  match value.number with
  | some mrp => if mrp < 0 then some "MRP must be greater than or equal to 0" else none
  | none => some "MRP must be a valid number"

def validateHsnCode (value : Value) : Option String :=
  let hsn := (Text.strip value.text).toList
  if !hsn.isEmpty && !(hsn.all isDecimalDigit && (hsn.length == 4 || hsn.length == 8)) then
    some "HSN code must be 4 or 8 digits"
  else none

def validateBarcode (value : Value) : Option String :=
  let barcode := (Text.strip value.text).toList
  if !barcode.isEmpty && !(barcode.all isDecimalDigit && 8 ≤ barcode.length && barcode.length ≤ 13) then
    some "Barcode must be 8-13 digits"
  else none

def validateCondition (condition : String) : Option String :=
  if ["good", "damaged", "obsolete", "new"].contains (Text.lower condition) then none
  else some "Condition must be one of: good, damaged, obsolete, new"

/-- `_FIELD_VALIDATORS`. -/
def fieldValidators : List (String × (Value → Option String)) :=
  [("serial_number", validateSerialNumber), ("mrp", validateMrp), ("hsn_code", validateHsnCode),
    ("barcode", validateBarcode)]

/-- `validate_enrichment_data`: the errors, none where it raises. -/
def validateEnrichmentData (data : List (String × Value)) : Option (List String) :=
  let given := Doc.ofList data
  let errors := fieldValidators.filterMap fun validator =>
    if given.get validator.1 == .null then none else validator.2 (given.get validator.1)
  if !(given.get "condition").truthy then some errors
  else match given.get "condition" with
    | .str condition => some (errors ++ (validateCondition condition).toList)
    | _ => none

def enrichableFields : List String :=
  ["serial_number", "mrp", "hsn_code", "barcode", "location", "condition", "notes"]

def requiredFields : List String := ["serial_number", "mrp", "hsn_code", "barcode"]

structure EnrichmentCall where
  itemCode : String
  enrichmentData : List (String × Value)
  userId : String
  username : String
  now : Int

variable (call : EnrichmentCall)

/-- The fields that an enrichment sets. -/
def EnrichmentCall.given : List (String × Value) :=
  call.enrichmentData.filter fun entry =>
    enrichableFields.contains entry.1 && entry.2 != .null && Text.strip entry.2.text != ""

structure Correction where
  field : String
  oldValue : Value
  newValue : Value
  action : String

/-- What one field of `_process_enrichment_fields` is tracked as. -/
def correctionOf (existing : Doc) (entry : String × Value) : Option Correction :=
  let oldValue := existing.get entry.1
  if oldValue == .null || oldValue == .str "" then some ⟨entry.1, oldValue, entry.2, "added"⟩
  else if oldValue != entry.2 then some ⟨entry.1, oldValue, entry.2, "corrected"⟩
  else none

/-- The corrections of `_process_enrichment_fields`; their fields are reported as updated. -/
def EnrichmentCall.corrections (existing : Doc) : List Correction :=
  call.given.filterMap (correctionOf existing)

def isMissing (value : Value) : Bool :=
  value == .null || value == .str "" || value == .num 0 || value == .bool false

structure Completeness where
  isComplete : Bool
  percentage : ℚ
  missingFields : List String
  deriving DecidableEq

/-- What `calculate_completeness` finds in a document. -/
def completenessOf (item : Doc) : Completeness :=
  let missing := requiredFields.filter fun field => isMissing (item.get field)
  ⟨missing.isEmpty, roundPlaces 1 ((requiredFields.length - missing.length) / requiredFields.length * 100), missing⟩

/-- `calculate_completeness`, with the document it has found. -/
def calculateCompleteness (item : Option Doc) (additionalFields : List (String × Value)) : Completeness :=
  match item with
  | none => ⟨false, 0, requiredFields⟩
  | some item => completenessOf (item.setAll additionalFields)

/-- `update_fields` before the completeness is calculated. -/
def EnrichmentCall.updateFields : List (String × Value) :=
  call.given ++ [("last_enriched_at", .date call.now), ("enriched_by", .str call.userId)]

/-- The update of `record_enrichment`, with the document that the completeness was calculated
from. -/
def EnrichmentCall.update (read : Option Doc) : Update where
  set := Doc.ofList (call.updateFields ++
    [("data_complete", .bool (calculateCompleteness read call.updateFields).isComplete),
      ("completion_percentage", .num (calculateCompleteness read call.updateFields).percentage)])
  push := [("enrichment_history", .row [("updated_at", .date call.now), ("updated_by", .str call.userId),
    ("username", .str call.username)])]

abbrev ErpRow := ErpProduct × ErpBatch

def ErpRow.item (row : ErpRow) : Doc := Erp.sqlItem row.1 row.2

/-- The items, and for each code and field the value of the last enrichment that wrote the field,
once an enrichment has reported it as updated. -/
structure ItemStore where
  items : List Doc
  saved : String → String → Option Value := fun _ _ => none

inductive ItemRequest where
  | recordEnrichment (call : EnrichmentCall)
  /-- A full or a nightly sync. -/
  | syncAll (rows : List ErpRow) (now : Int)
  | discover (limit : Int) (rows : List ErpRow) (now : Int)
  | syncByBarcode (row : ErpRow) (now : Int)

inductive ItemTask where
  | find (call : EnrichmentCall)
  | calculate (call : EnrichmentCall) (existing : Doc)
  | save (call : EnrichmentCall) (existing : Doc) (read : Option Doc)
  | readItems (rows : List ErpRow) (now : Int)
  | syncRows (cached : List Doc) (rows : List ErpRow) (now : Int)
  | readCodes (limit : Int) (rows : List ErpRow) (now : Int)
  | createRows (rows : List Doc) (now : Int)
  | lookUp (row : ErpRow) (now : Int)
  | syncRow (row : ErpRow) (mongoItem : Option Doc) (now : Int)

def startItems : ItemRequest → ItemTask
  | .recordEnrichment call => .find call
  | .syncAll rows now => .readItems rows now
  | .discover limit rows now => .readCodes limit rows now
  | .syncByBarcode row now => .lookUp row now

namespace ItemStore

def writeRow (s : ItemStore) (now : Int) (row : Doc) (mongoItem : Option Doc) : ItemStore :=
  { s with items := (syncSingleItem now row mongoItem s.items).getD s.items }

/-- The value of a field that is saved after an enrichment. -/
def savedAfter (s : ItemStore) (call : EnrichmentCall) (existing : Doc) (field : String) : Option Value :=
  match Doc.ofList call.given field with
  | none => s.saved call.itemCode field
  | some value =>
    if (call.corrections existing).any (·.field == field) || (s.saved call.itemCode field).isSome then some value
    else none

/-- The `update_one` of `record_enrichment`. -/
def save (s : ItemStore) (call : EnrichmentCall) (existing : Doc) (read : Option Doc) : ItemStore :=
  match Collection.updateOne erpItemIndexes (itemFilter call.itemCode) (call.update read) s.items with
  | .error _ => s
  | .ok (_, items) => { items := items, saved := Function.update s.saved call.itemCode (s.savedAfter call existing) }

end ItemStore

/-- One database call and what follows it. The insertion of an enrichment's own record does not
touch the items. -/
def resumeItems (s : ItemStore) : ItemTask → ItemStore × Option ItemTask
  | .find call => (s, (itemAt call.itemCode s.items).map (.calculate call))
  | .calculate call existing =>
    match validateEnrichmentData call.enrichmentData with
    | some [] => (s, some (.save call existing (itemAt call.itemCode s.items)))
    | _ => (s, none)
  | .save call existing read => (s.save call existing read, none)
  | .readItems rows now => (s, some (.syncRows (cachedItems s.items) rows now))
  | .syncRows _ [] _ => (s, none)
  | .syncRows cached (row :: rest) now =>
    (s.writeRow now row.item (cachedItem cached (rowCode row.item)), some (.syncRows cached rest now))
  | .readCodes limit rows now =>
    (s, some (.createRows (selectNewItems limit (rows.map ErpRow.item) (collectMongoItemCodes s.items) 0) now))
  | .createRows [] _ => (s, none)
  | .createRows (row :: rest) now => (s.writeRow now row none, some (.createRows rest now))
  | .lookUp row now => (s, some (.syncRow row (itemAt (rowCode row.item) s.items) now))
  | .syncRow row mongoItem now => (s.writeRow now row.item mongoItem, none)

abbrev ItemWork := Concurrent ItemStore ItemTask

def ItemWork.step : ItemWork → Move ItemRequest → ItemWork :=
  Concurrent.step (fun _ request => some (startItems request)) resumeItems

/-- The row that a task is about to write, its time, and the item it has looked up. -/
def ItemTask.rowWrite : ItemTask → Option (Int × Doc × Option Doc)
  | .syncRows cached (row :: _) now => some (now, row.item, cachedItem cached (rowCode row.item))
  | .createRows (row :: _) now => some (now, row, none)
  | .syncRow row mongoItem now => some (now, row.item, mongoItem)
  | _ => none

/-- The fields of `_update_existing_item` that do not come from the row's data. -/
def syncBookkeeping : List String :=
  ["stock_qty", "sql_server_qty", "sql_sync_status", "qty_changed_at", "qty_change_delta",
    "last_synced", "updated_at", "sql_last_checked_at"]

variable {items : List Doc} {row : Doc} {now : Int}

/-- An update of a row sets bookkeeping and the candidates it takes. -/
theorem updateExistingItem_at {code : String} {mongoItem : Doc} {sqlQty : ℚ} {after : List Doc}
    (indexed : ItemsIndexed items) (updated : updateExistingItem now code row sqlQty mongoItem items = some after) :
    ∃ fields, ItemsIndexed after ∧
      (∀ other, itemAt other after = if other = code then
        (itemAt code items).map (·.update (Doc.ofList fields)) else itemAt other items) ∧
      ∀ field, field ∉ syncBookkeeping → Doc.ofList fields field =
        (computeMetadataUpdates (buildMetadataCandidates row) mongoItem).lookup field := by
  simp only [updateExistingItem, Option.bind_eq_bind, Option.bind_eq_some_iff] at updated
  obtain ⟨mongoQty, _, updated⟩ := updated
  obtain ⟨kept, at_⟩ := updateItem_at indexed (by
    rw [Doc.ofList, List.lookup_append, List.lookup_append, metadata_unnamed _ _ (by decide)]
    split
    · rfl
    · rfl) updated
  refine ⟨_, kept, at_, ?_⟩
  intro field unlisted
  simp only [syncBookkeeping, List.mem_cons, List.not_mem_nil, or_false, not_or] at unlisted
  rw [Doc.ofList_append, Doc.ofList_append]
  have changed : ∀ differs : Bool, Doc.ofList (if differs then
      [("stock_qty", Value.num sqlQty), ("sql_server_qty", .num sqlQty), ("sql_sync_status", .str "MISMATCH"),
        ("qty_changed_at", .date now), ("qty_change_delta", .num (sqlQty - mongoQty))] else []) field = none := by
    intro differs
    cases differs with
    | false => rfl
    | true => simp [unlisted]
  have stamped : Doc.ofList [("last_synced", .date now), ("updated_at", .date now),
      ("sql_sync_status", .str "MATCH"), ("sql_last_checked_at", .date now)] field = none := by
    simp [unlisted]
  rw [changed, stamped, Option.or_none, Option.or_none]
  rfl

theorem rowCode_item (row : ErpRow) : row.item "item_code" = some (.str (rowCode row.item)) := rfl

/-- The write of a row makes the document of its code where there is none, or sets fields of the
one there is; where it fails it leaves everything. -/
structure RowWritten (row : Doc) (mongoItem : Option Doc) (items after : List Doc) : Prop where
  indexed : ItemsIndexed after
  others : ∀ code, code ≠ rowCode row → itemAt code after = itemAt code items
  own : itemAt (rowCode row) after = itemAt (rowCode row) items ∨
    (mongoItem = none ∧ itemAt (rowCode row) items = none ∧
      ∃ sqlQty now, itemAt (rowCode row) after = some (buildNewItemDict row sqlQty now)) ∨
    ∃ item old fields, mongoItem = some item ∧ itemAt (rowCode row) items = some old ∧
      itemAt (rowCode row) after = some (old.update fields) ∧
      ∀ field, field ∉ syncBookkeeping →
        fields field = (computeMetadataUpdates (buildMetadataCandidates row) item).lookup field

variable {s : ItemStore}

theorem writeRow_item (now : Int) (mongoItem : Option Doc) (indexed : ItemsIndexed s.items)
    (coded : row "item_code" = some (.str (rowCode row))) :
    RowWritten row mongoItem s.items (s.writeRow now row mongoItem).items := by
  unfold ItemStore.writeRow
  cases synced : syncSingleItem now row mongoItem s.items with
  | none => exact ⟨indexed, fun _ _ => rfl, .inl rfl⟩
  | some after =>
    cases mongoItem with
    | none =>
      have made : buildNewItemDict row (coerceQty (row.get "stock_qty")) now "item_code" = some (.str (rowCode row)) := by
        change some ((row "item_code").getD _) = _
        rw [coded]
        rfl
      obtain ⟨kept, free, at_⟩ := insertItem_at (rowCode row) indexed made synced
      refine ⟨kept, ?_, .inr (.inl ⟨rfl, free, coerceQty (row.get "stock_qty"), now, ?_⟩)⟩
      · intro code other
        exact (at_ code).trans (if_neg other)
      · exact (at_ (rowCode row)).trans (if_pos rfl)
    | some item =>
      obtain ⟨fields, kept, at_, named⟩ := updateExistingItem_at indexed synced
      refine ⟨kept, ?_, ?_⟩
      · intro code other
        exact (at_ code).trans (if_neg other)
      · have own := (at_ (rowCode row)).trans (if_pos rfl)
        cases before : itemAt (rowCode row) s.items with
        | none =>
          rw [before] at own
          exact .inl own
        | some old =>
          rw [before] at own
          exact .inr (.inr ⟨item, old, Doc.ofList fields, rfl, rfl, own, named⟩)

theorem EnrichmentCall.given_enrichable (field : String)
    (other : field ∉ enrichableFields) : Doc.ofList call.given field = none := by
  apply Doc.ofList_other
  intro member
  obtain ⟨entry, listed, rfl⟩ := List.mem_map.mp member
  have taken := (List.mem_filter.mp listed).2
  simp only [Bool.and_eq_true, List.contains_iff_mem] at taken
  exact other taken.1.1

variable {field : String}

theorem EnrichmentCall.update_enrichable (read : Option Doc)
    (enrichable : field ∈ enrichableFields) : (call.update read).set field = Doc.ofList call.given field := by
  simp only [EnrichmentCall.update, EnrichmentCall.updateFields, Doc.ofList_append]
  have unnamed : ∀ name, name ∉ enrichableFields → field ≠ name := by
    rintro name other rfl
    exact other enrichable
  rw [Doc.ofList_cons, if_neg (unnamed _ (by decide)), Doc.ofList_cons, if_neg (unnamed _ (by decide)), Doc.ofList_nil,
    Option.or_none, Doc.ofList_cons, if_neg (unnamed _ (by decide)), Doc.ofList_cons, if_neg (unnamed _ (by decide)),
    Doc.ofList_nil, Option.or_none]

variable {call : EnrichmentCall} {old : Doc}

theorem EnrichmentCall.update_apply {read : Option Doc} {new : Doc}
    (applied : (call.update read).apply old = some new) (other : field ≠ "enrichment_history") :
    new field = ((call.update read).set field).or (old field) :=
  Update.apply_field applied nofun (by simpa [EnrichmentCall.update] using other.symm)

/-- A save sets fields of the document of its code, or leaves everything. -/
theorem save_item (existing : Doc) (read : Option Doc) (indexed : ItemsIndexed s.items)
    (present : itemAt call.itemCode s.items = some old) :
    s.save call existing read = s ∨ ∃ new, ItemsIndexed (s.save call existing read).items ∧
        (s.save call existing read).saved = Function.update s.saved call.itemCode (s.savedAfter call existing) ∧
        (∀ code, code ≠ call.itemCode → itemAt code (s.save call existing read).items = itemAt code s.items) ∧
        (call.update read).apply old = some new ∧
        itemAt call.itemCode (s.save call existing read).items = some new := by
  unfold ItemStore.save
  split
  · exact .inl rfl
  · next answer items updated =>
    have keeps : ∀ d d', (call.update read).apply d = some d' → d' "item_code" = d "item_code" := by
      intro d d' applied
      rw [EnrichmentCall.update_apply applied (by decide)]
      simp only [EnrichmentCall.update, EnrichmentCall.updateFields, Doc.ofList_append,
        call.given_enrichable "item_code" (by decide)]
      rfl
    obtain ⟨kept, others, own⟩ := updateOne_item indexed keeps updated
    rcases own with ⟨absent, _⟩ | ⟨before, new, found, applied, made⟩
    · rw [present] at absent
      cases absent
    · rw [present] at found
      cases found
      exact .inr ⟨new, kept, rfl, others, applied, made⟩

/-- The rows of a task have codes, and the item of an enrichment is there. -/
def ItemTask.Ready (s : ItemStore) : ItemTask → Prop
  | .calculate call _ => (itemAt call.itemCode s.items).isSome = true
  | .save call _ read => read.isSome = true ∧ (itemAt call.itemCode s.items).isSome = true
  | .createRows rows _ => ∀ row ∈ rows, row "item_code" = some (.str (rowCode row))
  | _ => True

def Growing (before after : ItemStore) : Prop :=
  ∀ code, (itemAt code before.items).isSome = true → (itemAt code after.items).isSome = true

variable {task : ItemTask}

theorem ItemTask.Ready.grown {before after : ItemStore} (growing : Growing before after)
    (ready : task.Ready before) : task.Ready after := by
  cases task with
  | calculate call existing => exact growing _ ready
  | save call existing read => exact ⟨ready.1, growing _ ready.2⟩
  | createRows rows now => exact ready
  | find call | readItems rows now | syncRows cached rows now | readCodes limit rows now | lookUp row now
  | syncRow row mongoItem now => trivial

variable {mongoItem : Option Doc}

theorem RowWritten.growing {before after : ItemStore}
    (written : RowWritten row mongoItem before.items after.items) : Growing before after := by
  intro code present
  by_cases own : code = rowCode row
  · subst own
    rcases written.own with same | ⟨_, _, _, _, made⟩ | ⟨_, _, _, _, _, made, _⟩
    · rw [same]
      exact present
    · rw [made]
      rfl
    · rw [made]
      rfl
  · rw [written.others code own]
    exact present

theorem save_growing {existing : Doc} {read : Option Doc} (indexed : ItemsIndexed s.items)
    (present : (itemAt call.itemCode s.items).isSome = true) : Growing s (s.save call existing read) := by
  obtain ⟨old, found⟩ := Option.isSome_iff_exists.mp present
  rcases save_item existing read indexed found with same | ⟨new, _, _, others, _, made⟩
  · rw [same]
    exact fun _ still => still
  · intro code still
    by_cases own : code = call.itemCode
    · subst own
      rw [made]
      rfl
    · rw [others code own]
      exact still

/-- What a task may do to the items: nothing, the save of an enrichment, or the write of a row. -/
theorem resumeItems_store (s : ItemStore) (task : ItemTask) : (resumeItems s task).1 = s ∨
    (∃ call existing read, task = .save call existing read ∧ (resumeItems s task).1 = s.save call existing read) ∨
    ∃ now row mongoItem, task.rowWrite = some (now, row, mongoItem) ∧
      (resumeItems s task).1 = s.writeRow now row mongoItem := by
  cases task with
  | find call | readItems rows now | readCodes limit rows now | lookUp row now => exact .inl rfl
  | calculate call existing =>
    left
    simp only [resumeItems]
    split <;> rfl
  | save call existing read => exact .inr (.inl ⟨call, existing, read, rfl, rfl⟩)
  | syncRows cached rows now =>
    cases rows with
    | nil => exact .inl rfl
    | cons row rest => exact .inr (.inr ⟨now, row.item, cachedItem cached (rowCode row.item), rfl, rfl⟩)
  | createRows rows now =>
    cases rows with
    | nil => exact .inl rfl
    | cons row rest => exact .inr (.inr ⟨now, row, none, rfl, rfl⟩)
  | syncRow row mongoItem now => exact .inr (.inr ⟨now, row.item, mongoItem, rfl, rfl⟩)

theorem ItemTask.Ready.row_coded (ready : task.Ready s) (writes : task.rowWrite = some (now, row, mongoItem)) :
    row "item_code" = some (.str (rowCode row)) := by
  cases task with
  | syncRows cached rows now =>
    cases rows with
    | nil => cases writes
    | cons row rest =>
      cases writes
      exact rowCode_item row
  | createRows rows now =>
    cases rows with
    | nil => cases writes
    | cons row rest =>
      cases writes
      exact ready row (List.mem_cons_self ..)
  | syncRow row mongoItem now =>
    cases writes
    exact rowCode_item row
  | find call | calculate call existing | save call existing read | readItems rows now
  | readCodes limit rows now | lookUp row now => cases writes

theorem ItemTask.Ready.next {next : ItemTask} (ready : task.Ready s)
    (goesOn : (resumeItems s task).2 = some next) : next.Ready s := by
  cases task with
  | find call =>
    obtain ⟨existing, found, rfl⟩ := Option.map_eq_some_iff.mp goesOn
    change (itemAt call.itemCode s.items).isSome = true
    rw [found]
    rfl
  | calculate call existing =>
    simp only [resumeItems] at goesOn
    split at goesOn
    · cases goesOn
      exact ⟨ready, ready⟩
    · cases goesOn
  | save call existing read => cases goesOn
  | readItems rows now | lookUp row now =>
    cases goesOn
    trivial
  | syncRows cached rows now =>
    cases rows with
    | nil => cases goesOn
    | cons row rest =>
      cases goesOn
      trivial
  | readCodes limit rows now =>
    cases goesOn
    intro row member
    obtain ⟨source, _, rfl⟩ := List.mem_map.mp (mem_selectNewItems member)
    exact rowCode_item source
  | createRows rows now =>
    cases rows with
    | nil => cases goesOn
    | cons row rest =>
      cases goesOn
      exact fun later member => ready later (List.mem_cons_of_mem _ member)
  | syncRow row mongoItem now => cases goesOn

/-- The item documents are indexed, and a property holds that the writes keep. -/
abbrev ItemsSound (P : ItemStore → Prop) : ItemWork → Prop :=
  Concurrent.Sound (fun s => ItemsIndexed s.items ∧ P s) ItemTask.Ready

variable {c : ItemWork}

/-- A step keeps a property that the save of an enrichment and the write of a row keep. -/
theorem ItemsSound.step {P : ItemStore → Prop} {move : Move ItemRequest} (sound : ItemsSound P c)
    (saves : ∀ slot call existing read old new, move = .resume slot → c.task slot = some (.save call existing (some
      read)) → itemAt call.itemCode c.store.items = some old → (call.update (some read)).apply old = some new →
      (c.store.save call existing (some read)).saved = Function.update c.store.saved call.itemCode (c.store.savedAfter
      call existing) → (∀ code, code ≠ call.itemCode → itemAt code (c.store.save call existing (some read)).items =
      itemAt code c.store.items) → itemAt call.itemCode (c.store.save call existing (some read)).items = some new → P
      (c.store.save call existing (some read)))
    (writes : ∀ slot task now row mongoItem, move = .resume slot → c.task slot = some task → task.rowWrite = some (now,
      row, mongoItem) → RowWritten row mongoItem c.store.items (c.store.writeRow now row mongoItem).items → P
      (c.store.writeRow now row mongoItem)) :
    ItemsSound P (ItemWork.step c move) := by
  obtain ⟨indexed, holds⟩ := sound.store
  apply Concurrent.Sound.step sound
  · intro slot request task _ begun
    cases begun
    cases request <;> trivial
  · intro slot task isResume held ready
    have after : (ItemsIndexed (resumeItems c.store task).1.items ∧ P (resumeItems c.store task).1) ∧
        Growing c.store (resumeItems c.store task).1 := by
      rcases resumeItems_store c.store task with
        same | ⟨call, existing, read, rfl, made⟩ | ⟨now, row, mongoItem, row_, made⟩
      · rw [same]
        exact ⟨⟨indexed, holds⟩, fun _ present => present⟩
      · obtain ⟨read, rfl⟩ := Option.isSome_iff_exists.mp ready.1
        obtain ⟨old, present⟩ := Option.isSome_iff_exists.mp ready.2
        rw [made]
        refine ⟨?_, save_growing indexed ready.2⟩
        rcases save_item existing (some read) indexed present with
          same | ⟨new, kept, saved, others, applied, own⟩
        · rw [same]
          exact ⟨indexed, holds⟩
        · exact ⟨kept, saves slot call existing read old new isResume held present applied saved others own⟩
      · have written := writeRow_item now mongoItem indexed (ready.row_coded row_)
        rw [made]
        exact ⟨⟨written.indexed, writes slot task now row mongoItem isResume held row_ written⟩, written.growing⟩
    refine ⟨after.1, ?_, ?_⟩
    · intro next goesOn
      exact (ready.next goesOn).grown after.2
    · intro other u _ _ itsReady
      exact itsReady.grown after.2

/-- The items are indexed, nothing is saved and nothing is in flight. -/
structure ItemsStart (c : ItemWork) : Prop where
  indexed : ItemsIndexed c.store.items
  unsaved : ∀ code field, c.store.saved code field = none
  idle : ∀ slot, c.task slot = none

theorem ItemsStart.sound {P : ItemStore → Prop} (start : ItemsStart c) (holds : P c.store) : ItemsSound P c := by
  refine ⟨⟨start.indexed, holds⟩, ?_⟩
  intro slot task held
  rw [start.idle] at held
  cases held

/-- The two stored fields are what `calculate_completeness` makes of the document. -/
structure TrueCompleteness (item : Doc) : Prop where
  complete : item.get "data_complete" = .bool (completenessOf item).isComplete
  percentage : item.get "completion_percentage" = .num (completenessOf item).percentage

/-- A new item has none of the required fields, and an update of an item brings no value for one
that it lacks. -/
def fillsNothing (current : Option Doc) (row : Doc) (mongoItem : Option Doc) : Bool :=
  match mongoItem, current with
  | none, none => (buildMetadataCandidates row).all fun candidate =>
      !requiredFields.contains candidate.1 || isMissing candidate.2
  | some item, some current => (buildMetadataCandidates row).all fun candidate =>
      !requiredFields.contains candidate.1 || !takesCandidate item candidate.1 candidate.2 ||
        isMissing candidate.2 == isMissing (current.get candidate.1)
  | _, _ => true

/-- The required fields that an enrichment is not given are as missing as where it has calculated
the completeness. -/
def missingAsRead (current read : Doc) (call : EnrichmentCall) : Bool :=
  requiredFields.all fun field => (Doc.ofList call.given).has field ||
    isMissing (current.get field) == isMissing (read.get field)

/-- No write of a sync fills in a required field, and none falls between the reading and the saving
of an enrichment of the item. -/
def completenessUndisturbed (c : ItemWork) : Move ItemRequest → Bool
  | .resume slot =>
    match c.task slot with
    | some (.save call _ (some read)) =>
      ((itemAt call.itemCode c.store.items).map fun current => missingAsRead current read call).getD true
    | some task =>
      (task.rowWrite.map fun write =>
        fillsNothing (itemAt (rowCode write.2.1) c.store.items) write.2.1 write.2.2).getD true
    | none => true
  | _ => true

theorem completenessOf_congr {a b : Doc}
    (same : ∀ field ∈ requiredFields, isMissing (a.get field) = isMissing (b.get field)) :
    completenessOf a = completenessOf b := by
  have missing : (requiredFields.filter fun field => isMissing (a.get field)) =
      requiredFields.filter fun field => isMissing (b.get field) :=
    List.filter_congr same
  rw [completenessOf, completenessOf, missing]

theorem TrueCompleteness.congr {a b : Doc} (holds : TrueCompleteness a)
    (complete : b "data_complete" = a "data_complete")
    (percentage : b "completion_percentage" = a "completion_percentage")
    (same : ∀ field ∈ requiredFields, isMissing (b.get field) = isMissing (a.get field)) : TrueCompleteness b := by
  have figures := completenessOf_congr same
  constructor
  · rw [Doc.get_congr complete, figures]
    exact holds.complete
  · rw [Doc.get_congr percentage, figures]
    exact holds.percentage

theorem required_enrichable (required : field ∈ requiredFields) : field ∈ enrichableFields := by
  rcases mem_four.mp required with rfl | rfl | rfl | rfl <;> decide

theorem required_notBookkeeping (required : field ∈ requiredFields) : field ∉ syncBookkeeping := by
  rcases mem_four.mp required with rfl | rfl | rfl | rfl <;> decide

/-- A saved enrichment stores the completeness of what it leaves. -/
theorem EnrichmentCall.saves_completeness {read new : Doc} (applied : (call.update (some read)).apply old = some new)
    (still : missingAsRead old read call = true) : TrueCompleteness new := by
  have set : ∀ field, field ≠ "enrichment_history" →
      new field = ((call.update (some read)).set field).or (old field) :=
    fun field other => EnrichmentCall.update_apply applied other
  have same : completenessOf new = completenessOf (read.setAll call.updateFields) := by
    apply completenessOf_congr
    intro field required
    have enrichable := required_enrichable required
    have notHistory : field ≠ "enrichment_history" := by
      rintro rfl
      exact absurd enrichable (by decide)
    have given : Doc.ofList call.updateFields field = Doc.ofList call.given field := by
      rw [EnrichmentCall.updateFields, Doc.ofList_append]
      have unnamed : Doc.ofList [("last_enriched_at", .date call.now),
          ("enriched_by", .str call.userId)] field = none := by
        apply Doc.ofList_other
        intro member
        simp only [List.map_cons, List.map_nil, List.mem_cons, List.not_mem_nil, or_false] at member
        rcases member with rfl | rfl
        · exact absurd enrichable (by decide)
        · exact absurd enrichable (by decide)
      rw [unnamed, Option.or_none]
    rw [Doc.get, set field notHistory, call.update_enrichable _ enrichable, Doc.get, Doc.setAll, Doc.update_apply, given]
    cases present : Doc.ofList call.given field with
    | some value => rfl
    | none =>
      have each := List.all_eq_true.mp still field required
      simpa [Doc.has, Doc.get, present] using each
  have figures := call.given_enrichable
  constructor
  · rw [Doc.get_eq, set _ (by decide), same]
    simp [EnrichmentCall.update, EnrichmentCall.updateFields, Doc.ofList_append, figures "data_complete" (by decide),
      calculateCompleteness]
  · rw [Doc.get_eq, set _ (by decide), same]
    simp [EnrichmentCall.update, EnrichmentCall.updateFields, Doc.ofList_append,
      figures "completion_percentage" (by decide), calculateCompleteness]

theorem mem_of_lookup {entries : List (String × Value)} {value : Value}
    (found : entries.lookup field = some value) : (field, value) ∈ entries := by
  obtain ⟨front, back, rfl, _⟩ := List.lookup_eq_some_iff.mp found
  simp

variable {item : Doc}

theorem lookup_metadataUpdates {value : Value}
    (written : (computeMetadataUpdates (buildMetadataCandidates row) item).lookup field = some value) :
    (field, value) ∈ buildMetadataCandidates row ∧ takesCandidate item field value = true :=
  List.mem_filter.mp (mem_of_lookup written)

/-- A new item without a required field is as incomplete as it says. -/
theorem buildNewItemDict_completeness {sqlQty : ℚ} (nothing : fillsNothing none row none = true) :
    TrueCompleteness (buildNewItemDict row sqlQty now) := by
  have missing : ∀ field ∈ requiredFields, isMissing ((buildNewItemDict row sqlQty now).get field) = true := by
    intro field required
    have candidate : isMissing ((Doc.ofList (buildMetadataCandidates row)).get field) = true := by
      rw [Doc.get]
      cases present : Doc.ofList (buildMetadataCandidates row) field with
      | none => rfl
      | some value =>
        have each := List.all_eq_true.mp nothing (field, value) (mem_of_lookup present)
        simpa [required] using each
    have built : buildNewItemDict row sqlQty now = Doc.ofList (_ ++ buildMetadataCandidates row) := rfl
    rw [built, Doc.get, Doc.ofList_append]
    rcases mem_four.mp required with rfl | rfl | rfl | rfl
    · rfl
    · simpa [Doc.get] using candidate
    · simpa [Doc.get] using candidate
    · simpa [Doc.get] using candidate
  have figures : completenessOf (buildNewItemDict row sqlQty now) = ⟨false, 0, requiredFields⟩ := by
    have all : (requiredFields.filter fun field => isMissing ((buildNewItemDict row sqlQty now).get field)) =
        requiredFields :=
      List.filter_eq_self.mpr missing
    have none_ : roundPlaces 1
        (((requiredFields.length : ℚ) - requiredFields.length) / requiredFields.length * 100) = 0 := by
      rw [sub_self, zero_div, zero_mul]
      exact roundPlaces_eq_self (n := 0) (by simp)
    rw [completenessOf, all, none_]
    rfl
  constructor
  · rw [figures]
    rfl
  · rw [figures]
    rfl

/-- The write of a row that fills in nothing leaves true what is stored. -/
theorem RowWritten.completeness {after : List Doc} (written : RowWritten row mongoItem items after)
    (nothing : fillsNothing (itemAt (rowCode row) items) row mongoItem = true)
    (holds : ∀ code item, itemAt code items = some item → TrueCompleteness item) {code : String}
    (found : itemAt code after = some item) : TrueCompleteness item := by
  by_cases own : code = rowCode row
  · subst own
    rcases written.own with
      same | ⟨rfl, absent, sqlQty, now, made⟩ | ⟨looked, old, fields, rfl, present, made, named⟩
    · rw [same] at found
      exact holds _ _ found
    · rw [made] at found
      cases found
      rw [absent] at nothing
      exact buildNewItemDict_completeness nothing
    · rw [made] at found
      cases found
      rw [present] at nothing
      have unset : ∀ field, field ∉ syncBookkeeping → field ∉ newItemFields.map (fun entry => entry.2.1) →
          old.update fields field = old field := by
        intro field unlisted unnamed
        rw [Doc.update_apply, named field unlisted, metadata_unnamed _ _ unnamed]
        rfl
      apply (holds _ _ present).congr
      · exact unset _ (by decide) (by decide)
      · exact unset _ (by decide) (by decide)
      · intro field required
        rw [Doc.get, Doc.update_apply, named field (required_notBookkeeping required)]
        cases taken : (computeMetadataUpdates (buildMetadataCandidates row) looked).lookup field with
        | none => rfl
        | some value =>
          obtain ⟨candidate, takes⟩ := lookup_metadataUpdates taken
          have each := List.all_eq_true.mp nothing (field, value) candidate
          simpa [required, takes] using each
  · rw [written.others code own] at found
    exact holds _ _ found

def ItemsComplete (s : ItemStore) : Prop := ∀ code item, itemAt code s.items = some item → TrueCompleteness item

theorem ItemsComplete.step {move : Move ItemRequest} (sound : ItemsSound ItemsComplete c)
    (quiet : completenessUndisturbed c move = true) : ItemsSound ItemsComplete (ItemWork.step c move) := by
  obtain ⟨indexed, holds⟩ := sound.store
  apply ItemsSound.step sound
  · intro slot call existing read old new isResume held present applied _ others own
    subst isResume
    simp only [completenessUndisturbed, held, present, Option.map_some, Option.getD_some] at quiet
    intro code item found
    by_cases here : code = call.itemCode
    · subst here
      rw [own] at found
      cases found
      exact call.saves_completeness applied quiet
    · rw [others code here] at found
      exact holds code item found
  · intro slot task now row mongoItem isResume held writes written
    subst isResume
    have nothing : fillsNothing (itemAt (rowCode row) c.store.items) row mongoItem = true := by
      simp only [completenessUndisturbed, held] at quiet
      split at quiet
      · next same =>
        cases same
        cases writes
      · next other same =>
        cases same
        rw [writes] at quiet
        exact quiet
      · next same => cases same
    exact fun code item found => written.completeness nothing holds found

theorem ItemsIndexed.itemAt_mem (indexed : ItemsIndexed items) (member : item ∈ items) :
    ∃ code, itemAt code items = some item := by
  obtain ⟨code, coded⟩ := indexed.coded item member
  refine ⟨code, ?_⟩
  cases found : itemAt code items with
  | none =>
    have unmatched := List.find?_eq_none.mp found item member
    rw [itemFilter_holds coded, beq_self_eq_true] at unmatched
    exact absurd rfl unmatched
  | some other =>
    have same : other = item := by
      apply indexed.unique (List.mem_of_find?_eq_some found) member
      rw [Doc.get_congr ((find_code indexed found).trans coded.symm)]
    rw [same]

/-- From a store whose stored completeness is true, in any order of enrichments and syncs, it stays
true as long as the syncs fill in no required field. -/
theorem stored_completeness {first last : ItemWork} (start : ItemsStart first)
    (complete : ∀ item ∈ first.store.items, TrueCompleteness item)
    (run : Reaches ItemWork.step (fun c move => completenessUndisturbed c move = true) first last) :
    ∀ item ∈ last.store.items, TrueCompleteness item := by
  have begins : ItemsSound ItemsComplete first :=
    start.sound fun code item found => complete item (List.mem_of_find?_eq_some found)
  have sound : ItemsSound ItemsComplete last :=
    run.invariant begins fun c move kept quiet => ItemsComplete.step kept quiet
  intro item member
  obtain ⟨code, found⟩ := sound.store.1.itemAt_mem member
  exact sound.store.2 code item found

instance (item : Doc) : Decidable (TrueCompleteness item) :=
  decidable_of_iff (item.get "data_complete" = .bool (completenessOf item).isComplete ∧
      item.get "completion_percentage" = .num (completenessOf item).percentage)
    ⟨fun both => ⟨both.1, both.2⟩, fun holds => ⟨holds.complete, holds.percentage⟩⟩

/-- An item with a barcode and nothing else of what is required. -/
def labelledItem : ItemWork where
  store := { items := [Doc.ofList [("item_code", .str "I1"), ("barcode", .str "890001"), ("stock_qty", .num 0),
    ("data_complete", .bool false), ("completion_percentage", .num 25), ("enrichment_history", .list [])]] }

theorem labelledItem_start : ItemsStart labelledItem := by
  refine ⟨⟨?_, List.nodup_singleton _⟩, fun _ _ => rfl, fun _ => rfl⟩
  intro item member
  cases List.mem_singleton.mp member
  exact ⟨"I1", rfl⟩

def itemCall (request : ItemRequest) (steps : Nat) : List (Move ItemRequest) :=
  .start 0 request :: List.replicate steps (.resume 0)

/-- The row of the item's batch, with the columns of its product. -/
def boltRow (columns : List (String × Value)) : ErpRow :=
  (⟨1, "I1", "Bolt", true, columns⟩, ⟨1, some "890001", some 5, []⟩)

def serialGiven : EnrichmentCall where
  itemCode := "I1"
  enrichmentData := [("serial_number", .str "SN-1"), ("mrp", .num (25 / 2)), ("location", .str "A1")]
  userId := "u1"
  username := "staff1"
  now := 1000

/-- The item is enriched, synced and synced again by its barcode. -/
def enrichedThenSynced : List (Move ItemRequest) :=
  itemCall (.recordEnrichment serialGiven) 3 ++ itemCall (.syncAll [boltRow []] 2000) 3 ++
    itemCall (.syncByBarcode (boltRow []) 3000) 2

theorem stored_completeness_enriched :
    (∀ item ∈ (enrichedThenSynced.foldl ItemWork.step labelledItem).store.items, TrueCompleteness item) ∧
      (enrichedThenSynced.foldl ItemWork.step labelledItem).store.items.map (·.get "completion_percentage") =
        [.num 75] := by
  constructor
  · apply stored_completeness labelledItem_start
    · decide +kernel
    · apply Reaches.of_admitted
      decide +kernel
  · decide +kernel

def noItems : ItemWork where
  store := { items := [] }

theorem noItems_start : ItemsStart noItems :=
  ⟨⟨fun _ member => absurd member List.not_mem_nil, List.nodup_nil⟩, fun _ _ => rfl, fun _ => rfl⟩

def createdBySync : List (Move ItemRequest) := itemCall (.syncAll [boltRow [("hsn_code", .str "7318")]] 1000) 3

def filledBySync : List (Move ItemRequest) :=
  itemCall (.recordEnrichment serialGiven) 3 ++ itemCall (.syncAll [boltRow [("hsn_code", .str "7318")]] 2000) 3

/-- A new item says that it has nothing, and a sync that completes an item leaves it incomplete. -/
theorem stored_completeness_stale :
    ¬ (∀ first last : ItemWork, ItemsStart first → (∀ item ∈ first.store.items, TrueCompleteness item) →
      Reaches ItemWork.step (fun _ _ => True) first last → ∀ item ∈ last.store.items, TrueCompleteness item) ∧
    (createdBySync.foldl ItemWork.step noItems).store.items.map (fun item =>
      (item.get "completion_percentage", (completenessOf item).percentage)) = [(.num 0, 50)] ∧
    (filledBySync.foldl ItemWork.step labelledItem).store.items.map (fun item =>
      (item.get "data_complete", (completenessOf item).isComplete)) = [(.bool false, true)] := by
  refine ⟨?_, by decide +kernel, by decide +kernel⟩
  intro always
  have holds := always noItems _ noItems_start (fun _ member => absurd member List.not_mem_nil)
    (Reaches.foldl fun _ (move : Move ItemRequest) (_ : move ∈ createdBySync) => trivial)
  exact absurd holds (by decide +kernel)

end StockVerification
