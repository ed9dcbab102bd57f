import Mathlib.Algebra.BigOperators.Group.List.Basic
import StockVerification.Foundation.Run
import StockVerification.Store

/-!
# Stock from the ERP

Source: backend/services/sync/core_sync.py:26-233, 261-381 and 399-556, discovery.py:219-320,
nightly.py:243-318, realtime.py:214-262, backend/sql_server_connector.py:674-734 and 930-987,
backend/config/mappings.py:123-181 and 242-301.

Five syncs bring stock figures from the ERP into the item documents. The variance sync asks for the
sum of a code's batches. The full, the nightly and the discovery sync read one row for each batch
that has a barcode of six digits, and the single sync one such row. The full and the nightly sync
look items up in a copy of the collection that they took at their start. A sync that fails, or that
counts an error, has no result here. Statistics and logs are not modelled, quantities are exact.
-/
namespace StockVerification

open Foundation

/-- A row of `Products`, with the columns that other tables add to it. -/
structure ErpProduct where
  productId : Int
  productCode : String
  productName : String
  isActive : Bool
  columns : List (String × Value) := []

/-- A row of `ProductBatches`, with the columns that other tables add to it. -/
structure ErpBatch where
  productId : Int
  autoBarcode : Option String
  stock : Option ℚ
  columns : List (String × Value) := []

/-- The two tables, and the server's test for texts that read as numbers. -/
structure Erp where
  products : List ErpProduct
  batches : List ErpBatch
  isNumeric : String → Bool

namespace Erp

variable (erp : Erp)

def batchesOf (product : ErpProduct) : List ErpBatch :=
  erp.batches.filter fun batch => batch.productId == product.productId

/-- The stock of all batches of a code; a batch without a figure adds nothing. -/
def totalStock (code : String) : ℚ :=
  ((erp.products.filter fun product => product.productCode == code).flatMap fun product =>
    (erp.batchesOf product).map fun batch => batch.stock.getD 0).sum

/-- `LEN` of a text leaves out the blanks at its end. -/
def sqlLength (text : String) : Nat := (text.toList.reverse.dropWhile (· == ' ')).length

def hasItemBarcode (batch : ErpBatch) : Bool :=
  match batch.autoBarcode with
  | some barcode => sqlLength barcode == 6 && erp.isNumeric barcode
  | none => false

/-- The dictionary of a row. -/
def sqlItem (product : ErpProduct) (batch : ErpBatch) : Doc :=
  Doc.ofList ([("item_code", .str product.productCode), ("item_name", .str product.productName),
    ("barcode", (batch.autoBarcode.map Value.str).getD .null), ("stock_qty", (batch.stock.map Value.num).getD .null)] ++
    product.columns ++ batch.columns)

/-- The rows of `get_all_items` before they are ordered and cut off. Every batch is a row of its
own, its id being one of the columns. -/
def itemRows : List Doc :=
  (erp.products.filter (·.isActive)).flatMap fun product =>
    ((erp.batchesOf product).filter erp.hasItemBarcode).map (sqlItem product)

/-- What `get_all_items` may answer: the first rows in the order of the names, which leaves open
the order of rows with one name. -/
def AllItems (rows : List Doc) : Prop := ∃ ordered : List Doc, ordered.Perm erp.itemRows ∧ rows = ordered.take 50000

/-- The rows `get_item_by_barcode` fetches one of. -/
def barcodeRows (barcode : String) : List Doc :=
  erp.products.flatMap fun product =>
    ((erp.batchesOf product).filter fun batch =>
      batch.autoBarcode == some barcode && erp.hasItemBarcode batch).map (sqlItem product)

/-- What `get_item_by_barcode` may answer. -/
def ItemByBarcode (barcode : String) (row : Option Doc) : Prop :=
  match row with
  | some row => row ∈ erp.barcodeRows barcode
  | none => erp.barcodeRows barcode = []

/-- `get_item_quantities_only`: the totals of the codes that the ERP knows. -/
def getItemQuantitiesOnly (itemCodes : List String) : List (String × ℚ) :=
  (((erp.products.map (·.productCode)).dedup.filter fun code =>
    (itemCodes.take 1000).contains code && code != "").map fun code => (code, erp.totalStock code))

end Erp

inductive FieldConverter where
  | raw
  | str
  | num
  | date
  deriving DecidableEq

def newItemFields : List (String × String × FieldConverter) :=
  [("category", "category", .raw), ("subcategory", "subcategory", .raw), ("warehouse", "warehouse", .raw),
    ("uom_code", "uom_code", .raw), ("uom_name", "uom_name", .raw), ("hsn_code", "hsn_code", .str),
    ("gst_category", "gst_category", .str), ("gst_percent", "gst_percent", .num),
    ("sgst_percent", "sgst_percent", .num), ("cgst_percent", "cgst_percent", .num),
    ("igst_percent", "igst_percent", .num), ("barcode", "barcode", .raw), ("location", "location", .raw),
    ("floor", "floor", .raw), ("rack", "rack", .raw), ("mrp", "mrp", .num), ("sales_price", "sales_price", .num),
    ("sale_price", "sale_price", .num), ("standard_rate", "standard_rate", .num),
    ("last_purchase_rate", "last_purchase_rate", .num), ("last_purchase_price", "last_purchase_price", .num),
    ("brand_id", "brand_id", .raw), ("brand_name", "brand_name", .raw), ("brand_code", "brand_code", .raw),
    ("supplier_id", "supplier_id", .str), ("supplier_code", "supplier_code", .str),
    ("supplier_name", "supplier_name", .str), ("supplier_phone", "supplier_phone", .str),
    ("supplier_city", "supplier_city", .str), ("supplier_state", "supplier_state", .str),
    ("supplier_gst", "supplier_gst", .str), ("last_purchase_supplier", "last_purchase_supplier", .str),
    ("purchase_price", "purchase_price", .num), ("last_purchase_qty", "last_purchase_qty", .num),
    ("purchase_qty", "purchase_qty", .num), ("purchase_invoice_no", "purchase_invoice_no", .str),
    ("purchase_reference", "purchase_reference", .str), ("last_purchase_date", "last_purchase_date", .date),
    ("last_purchase_cost", "last_purchase_cost", .num), ("purchase_voucher_type", "purchase_voucher_type", .str),
    ("purchase_type", "purchase_type", .str), ("batch_id", "batch_id", .str), ("batch_no", "batch_no", .str),
    ("mfg_date", "manufacturing_date", .date), ("expiry_date", "expiry_date", .date)]

/-- `_apply_field_conversion` with `_safe_optional_str`, `_numeric_or_none` and
`_normalize_date`. -/
def applyFieldConversion (value : Value) : FieldConverter → Value
  | .raw => value
  | .num => (value.number.map Value.num).getD .null
  | .str | .date => if value == .null || value == .str "" then .null else .str value.text

def coerceQty (value : Value) : ℚ := value.number.getD 0

/-- `float(item.get("stock_qty", 0.0))`, none where the conversion raises. -/
def mongoStockQty (item : Doc) : Option ℚ :=
  match item "stock_qty" with
  | none => some 0
  | some value => value.number

def buildNewItemDict (sqlItem : Doc) (sqlQty : ℚ) (now : Int) : Doc :=
  Doc.ofList ([("item_code", (sqlItem "item_code").getD (.str "")), ("item_name", (sqlItem "item_name").getD (.str "")),
    ("stock_qty", .num sqlQty), ("sql_server_qty", .num sqlQty), ("serial_number", .null), ("condition", .null),
    ("data_complete", .bool false), ("completion_percentage", .num 0), ("missing_fields", .list [.str "serial_number"]),
    ("enrichment_history", .list []), ("last_synced", .date now), ("qty_changed_at", .null), ("created_at", .date now),
    ("updated_at", .date now), ("synced_from_sql", .bool true),
    ("category", (sqlItem "category").getD (.str "General")),
    ("warehouse", (sqlItem "warehouse").getD (.str "Main"))] ++
    newItemFields.map fun field => (field.2.1, applyFieldConversion (sqlItem.get field.1) field.2.2))

def buildMetadataCandidates (sqlItem : Doc) : List (String × Value) :=
  newItemFields.map fun field => (field.2.1, applyFieldConversion (sqlItem.get field.1) field.2.2)

/-- Whether `_compute_metadata_updates` takes a candidate. -/
def takesCandidate (mongoItem : Doc) (field : String) (value : Value) : Bool :=
  match value with
  | .null => false
  | .num _ | .bool _ => mongoItem.get field == .null
  | _ => field == "location" && value != mongoItem.get field || mongoItem.get field == .null ||
      mongoItem.get field == .str ""

def computeMetadataUpdates (candidates : List (String × Value)) (mongoItem : Doc) : List (String × Value) :=
  candidates.filter fun candidate => takesCandidate mongoItem candidate.1 candidate.2

def qtyDiffers (sqlQty mongoQty : ℚ) : Bool := decide (1 / 1000 < |sqlQty - mongoQty|)

def itemFilter (code : String) : Filter := .eq "item_code" (.str code)

/-- `update_one` by the item code, none where the database refuses it. -/
def updateItem (code : String) (fields : List (String × Value)) (items : List Doc) : Option (List Doc) :=
  match Collection.updateOne erpItemIndexes (itemFilter code) (.ofSet (Doc.ofList fields)) items with
  | .ok (_, items) => some items
  | .error _ => none

/-- `insert_one`, none where the database refuses it. -/
def insertItem (item : Doc) (items : List Doc) : Option (List Doc) :=
  (Collection.insertOne erpItemIndexes item items).toOption

/-- `_update_existing_item`. The later of two entries for a field counts, so they stand in
reverse. -/
def updateExistingItem (now : Int) (code : String) (sqlItem : Doc) (sqlQty : ℚ) (mongoItem : Doc) (items : List Doc) :
    Option (List Doc) := do
  let mongoQty ← mongoStockQty mongoItem
  let changed : List (String × Value) := if qtyDiffers sqlQty mongoQty then
      [("stock_qty", .num sqlQty), ("sql_server_qty", .num sqlQty), ("sql_sync_status", .str "MISMATCH"),
        ("qty_changed_at", .date now), ("qty_change_delta", .num (sqlQty - mongoQty))]
    else []
  updateItem code (computeMetadataUpdates (buildMetadataCandidates sqlItem) mongoItem ++ changed ++
    [("last_synced", .date now), ("updated_at", .date now), ("sql_sync_status", .str "MATCH"),
      ("sql_last_checked_at", .date now)]) items

def rowCode (sqlItem : Doc) : String := ((sqlItem "item_code").getD (.str "")).text

/-- `_sync_single_item`, with the item it has looked up. -/
def syncSingleItem (now : Int) (sqlItem : Doc) (mongoItem : Option Doc) (items : List Doc) : Option (List Doc) :=
  let sqlQty := coerceQty (sqlItem.get "stock_qty")
  match mongoItem with
  | none => insertItem (buildNewItemDict sqlItem sqlQty now) items
  | some item => updateExistingItem now (rowCode sqlItem) sqlItem sqlQty item items

def cachedItems (items : List Doc) : List Doc := items.filter fun item => (item.get "item_code").truthy

def cachedItem (cached : List Doc) (code : String) : Option Doc :=
  cached.reverse.find? fun item => item.get "item_code" == .str code

def codeText (item : Doc) : String := (item.get "item_code").text

/-- One figure of the variance sync. -/
def varianceEntry (now : Int) (cached : List Doc) (items : List Doc) (entry : String × ℚ) : Option (List Doc) :=
  let mongoQty := ((cachedItem cached entry.1).bind mongoStockQty).getD 0
  if qtyDiffers entry.2 mongoQty then
    updateItem entry.1 [("stock_qty", .num entry.2), ("sql_server_qty", .num entry.2), ("last_synced", .date now),
      ("qty_changed_at", .date now), ("qty_change_delta", .num (entry.2 - mongoQty)), ("updated_at", .date now)] items
  else some items

def codeBatches (codes : List String) : List (List String) :=
  (List.range ((codes.length + 499) / 500)).map fun i => (codes.drop (500 * i)).take 500

def varianceEntries (erp : Erp) (items : List Doc) : List (String × ℚ) :=
  (codeBatches ((cachedItems items).map codeText)).flatMap erp.getItemQuantitiesOnly

def syncVarianceOnly (erp : Erp) (now : Int) (items : List Doc) : Option (List Doc) := do
  let _ ← (cachedItems items).mapM mongoStockQty
  (varianceEntries erp items).foldlM (varianceEntry now (cachedItems items)) items

/-- `sync_quantities_only` and `nightly_full_sync`, on the rows of `get_all_items`. -/
def syncQuantitiesOnly (now : Int) (rows : List Doc) (items : List Doc) : Option (List Doc) :=
  rows.foldlM (fun after row => syncSingleItem now row (cachedItem (cachedItems items) (rowCode row)) after) items

/-- `_select_new_items`, with the codes already known and the number already taken. -/
def selectNewItems (limit : Int) : List Doc → List String → Nat → List Doc
  | [], _, _ => []
  | row :: rest, known, taken =>
    let code := Text.strip (rowCode row)
    if code = "" || known.contains code then selectNewItems limit rest known taken
    else if limit ≤ taken + 1 then [row]
    else row :: selectNewItems limit rest (known ++ [code]) (taken + 1)

def collectMongoItemCodes (items : List Doc) : List String :=
  items.filterMap fun item => if item.get "item_code" == .null then none else some (Text.strip (codeText item))

/-- `discover_new_items`, on the rows of `get_all_items`. -/
def discoverNewItems (now : Int) (limit : Int) (rows : List Doc) (items : List Doc) : Option (List Doc) :=
  (selectNewItems limit rows (collectMongoItemCodes items) 0).foldlM
    (fun items row => insertItem (buildNewItemDict row (coerceQty (row.get "stock_qty")) now) items) items

/-- `sync_single_item_by_barcode`, on the row of `get_item_by_barcode`. -/
def syncSingleItemByBarcode (now : Int) (row : Option Doc) (items : List Doc) : Option (List Doc) :=
  match row with
  | none => some items
  | some row => syncSingleItem now row (items.find? (itemFilter (rowCode row)).holds) items

/-- A sync, with what the ERP answers it. -/
inductive ErpSyncOp where
  | varianceOnly
  | full (rows : List Doc)
  | nightly (rows : List Doc)
  | discovery (limit : Int) (rows : List Doc)
  | byBarcode (barcode : String) (row : Option Doc)

namespace ErpSyncOp

/-- The answer is one that the ERP may give. -/
def Answered (erp : Erp) : ErpSyncOp → Prop
  | .varianceOnly => True
  | .full rows | .nightly rows | .discovery _ rows => erp.AllItems rows
  | .byBarcode barcode row => erp.ItemByBarcode barcode row

def run (erp : Erp) (now : Int) (items : List Doc) : ErpSyncOp → Option (List Doc)
  | .varianceOnly => syncVarianceOnly erp now items
  | .full rows => syncQuantitiesOnly now rows items
  | .nightly rows => syncQuantitiesOnly now rows items
  | .discovery limit rows => discoverNewItems now limit rows items
  | .byBarcode _ row => syncSingleItemByBarcode now row items

/-- The rows a sync works on. -/
def rows (items : List Doc) : ErpSyncOp → List Doc
  | .varianceOnly => []
  | .full rows | .nightly rows => rows
  | .discovery limit rows => selectNewItems limit rows (collectMongoItemCodes items) 0
  | .byBarcode _ row => row.toList

/-- The codes a sync compares or creates. -/
def syncedCodes (erp : Erp) (items : List Doc) : ErpSyncOp → List String
  | .varianceOnly => (varianceEntries erp items).map Prod.fst
  | op => (op.rows items).map rowCode

end ErpSyncOp

/-- The item collection, and the codes that some sync has dealt with. -/
structure SyncedItems where
  items : List Doc
  synced : List String := []

/-- One sync at its time. Without a result nothing is said about what it left. -/
def SyncedItems.step (erp : Erp) (s : SyncedItems) (op : ErpSyncOp × Int) : SyncedItems :=
  match op.1.run erp op.2 s.items with
  | none => s
  | some items => { items := items, synced := s.synced ++ op.1.syncedCodes erp s.items }

/-- The ERP answers the sync, and the sync ends without an error. -/
def SyncedItems.errorFree (erp : Erp) (s : SyncedItems) (op : ErpSyncOp × Int) : Prop :=
  op.1.Answered erp ∧ (op.1.run erp op.2 s.items).isSome = true

end StockVerification
