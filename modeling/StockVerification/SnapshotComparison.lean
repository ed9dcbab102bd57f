import StockVerification.Foundation.FieldPaths
import StockVerification.Foundation.KeyedLists

/-!
# Comparing snapshots of a report

Source: backend/services/reporting/query_builder.py:26-31, 97-98 and 225-257,
backend/services/reporting/snapshot_engine.py:47-75
and backend/services/reporting/compare_engine.py:58-61 and 143-238.

A report groups the documents of a collection and keeps the rows. Two snapshots are compared row by
row, under a key that is made of the fields of the grouping.
-/
namespace StockVerification

open Foundation

structure ReportSpec where
  groupBy : List String := []
  aggregations : List (String × String) := []

/-- `AGGREGATIONS`. -/
def reportAggregations : List String := ["sum", "avg", "min", "max", "count"]

/-- `_AGG_OPS`. -/
def aggregationOperators : List (String × String) := [("sum", "$sum"), ("avg", "$avg"), ("min", "$min"), ("max", "$max")]

/-- The expression under `_id` in the group stage. -/
def groupIdExpression (groupBy : List String) : Bson :=
  match groupBy with
  | [] => .doc []
  | [field] => .str ("$" ++ field)
  | fields => .doc (fields.foldl (fun id field => Fields.setField field (.str ("$" ++ field)) id) [])

/-- The name and the accumulator of one aggregation. -/
def groupAccumulator (field func : String) : Option (String × Bson) :=
  if func = "count" then some (field ++ "_" ++ func, .doc [("$sum", .num 1)])
  else (aggregationOperators.lookup func).map fun operator =>
    (field ++ "_" ++ func, .doc [(operator, .str ("$" ++ field))])

/-- `_build_group_stage`, the specification under `$group`. -/
def buildGroupStage (spec : ReportSpec) : Except String Fields :=
  spec.aggregations.foldlM (fun group aggregation =>
    if aggregation.2 ∉ reportAggregations then .error ("Invalid aggregation function: " ++ aggregation.2)
    else .ok (match groupAccumulator aggregation.1 aggregation.2 with
      | some (name, accumulator) => Fields.setField name accumulator group
      | none => group)) [("_id", groupIdExpression spec.groupBy)]

/-- What an expression under `_id` is for a document: the field it names, or null, or a document
with those of the named fields that are there. `path` reads a field path, with its dollar sign, from
a document. -/
def evaluateGroupId (path : String → Fields → Option Bson) (doc : Fields) : Bson → Bson
  | .str name => (path name doc).getD .null
  | .doc id => .doc (id.filterMap fun entry => match entry.2 with
    | .str name => (path name doc).map fun value => (entry.1, value)
    | _ => none)
  | _ => .null

/-- Rows that a pipeline can produce from some documents, in any order and after any limit:
documents with their ids, or one row for a group, with the group's id and the aggregated fields. -/
structure PipelineRows (path : String → Fields → Option Bson) (spec : ReportSpec) (docs rows : List Fields) : Prop where
  distinct : rows.Pairwise fun row other => row.lookup "_id" ≠ other.lookup "_id"
  plain : spec.groupBy = [] → spec.aggregations = [] → ∀ row ∈ rows, row ∈ docs
  grouped : ¬ (spec.groupBy = [] ∧ spec.aggregations = []) →
    ∃ group, buildGroupStage spec = .ok group ∧ ∀ row ∈ rows, row.map (·.1) = group.map (·.1) ∧
      ∃ doc ∈ docs, row.lookup "_id" = some (evaluateGroupId path doc (groupIdExpression spec.groupBy))

/-- The value of a grouping field in a row: the id for one field, and a part of the id for
several. -/
def groupValue (groupBy : List String) (row : Fields) (field : String) : Option Bson :=
  match groupBy, row.lookup "_id" with
  | [_], id => id
  | _, some (.doc id) => id.lookup field
  | _, _ => none

/-- The language's `==` on stored values. A value equals itself. -/
structure ValueEquality where
  same : Bson → Bson → Bool
  refl : ∀ value, same value value = true

structure FieldDiff where
  before : Bson
  after : Bson
  change : Option ℚ

structure ChangedRow where
  key : String
  baseline : Fields
  comparison : Fields
  diff : List (String × FieldDiff)

structure RowComparison where
  addedCount : ℕ
  removedCount : ℕ
  changedCount : ℕ
  unchangedCount : ℤ
  added : List Fields
  removed : List Fields
  changed : List ChangedRow

section

variable (str : Bson → String) (equal : ValueEquality)

/-- The key of a row in the lookup. `str` is the text of a value. -/
def rowKey (groupBy : List String) (row : Fields) : String :=
  if groupBy = [] then str (.doc row)
  else match row.lookup "_id" with
    | some (.doc id) => "|".intercalate (groupBy.map fun field => str ((id.lookup field).getD (.str "")))
    | _ => "|".intercalate (groupBy.map fun field => str ((row.lookup field).getD (.str "")))

def createRowLookup (rows : List Fields) (groupBy : List String) : List (String × Fields) :=
  rows.foldl (fun lookup row => Table.upsert (·.1) (rowKey str groupBy row, row) lookup) []

/-- `_calculate_row_diff`, over the names of both rows. -/
def calculateRowDiff (rowA rowB : Fields) : List (String × FieldDiff) :=
  ((rowA ++ rowB).map (·.1)).dedup.filterMap fun name =>
    let valueA := (rowA.lookup name).getD .null
    let valueB := (rowB.lookup name).getD .null
    if equal.same valueA valueB then none
    else some (name, ⟨valueA, valueB, do pure ((← Bson.number valueB) - (← Bson.number valueA))⟩)

def compareRows (rowsA rowsB : List Fields) (groupBy : List String) : RowComparison :=
  let lookupA := createRowLookup str rowsA groupBy
  let lookupB := createRowLookup str rowsB groupBy
  let added := (lookupB.filter fun entry => entry.1 ∉ lookupA.map (·.1)).map (·.2)
  let changed := lookupB.filterMap fun entry => (Table.find (·.1) lookupA entry.1).bind fun entryA =>
    if equal.same (.doc entryA.2) (.doc entry.2) then none
    else some ⟨entry.1, entryA.2, entry.2, calculateRowDiff equal entryA.2 entry.2⟩
  let removed := (lookupA.filter fun entry => entry.1 ∉ lookupB.map (·.1)).map (·.2)
  { addedCount := added.length
    removedCount := removed.length
    changedCount := changed.length
    unchangedCount := (lookupA.length : ℤ) - removed.length - changed.length
    added := added.take 100
    removed := removed.take 100
    changed := changed.take 100 }

/-- Every row is counted once, rows are only matched within a group, and nothing differs between a
list and itself. -/
structure RowsAccounted (groupBy : List String) (rowsA rowsB : List Fields) : Prop where
  second : ((compareRows str equal rowsA rowsB groupBy).addedCount : ℤ) +
    (compareRows str equal rowsA rowsB groupBy).changedCount +
      (compareRows str equal rowsA rowsB groupBy).unchangedCount = rowsB.length
  first : ((compareRows str equal rowsA rowsB groupBy).removedCount : ℤ) +
    (compareRows str equal rowsA rowsB groupBy).changedCount +
      (compareRows str equal rowsA rowsB groupBy).unchangedCount = rowsA.length
  matched : ∀ key rowA rowB, (key, rowA) ∈ createRowLookup str rowsA groupBy →
    (key, rowB) ∈ createRowLookup str rowsB groupBy →
      ∀ field ∈ groupBy, groupValue groupBy rowA field = groupValue groupBy rowB field
  itself : (compareRows str equal rowsA rowsA groupBy).addedCount = 0 ∧
    (compareRows str equal rowsA rowsA groupBy).removedCount = 0 ∧
      (compareRows str equal rowsA rowsA groupBy).changedCount = 0

/-- Keys tell the rows of a list apart, and rows of both lists with one key belong to one group. -/
structure KeysTell (groupBy : List String) (rowsA rowsB : List Fields) : Prop where
  firstApart : (rowsA.map (rowKey str groupBy)).Nodup
  secondApart : (rowsB.map (rowKey str groupBy)).Nodup
  sameGroup : ∀ rowA ∈ rowsA, ∀ rowB ∈ rowsB, rowKey str groupBy rowA = rowKey str groupBy rowB →
    ∀ field ∈ groupBy, groupValue groupBy rowA field = groupValue groupBy rowB field

end

section

variable {str : Bson → String} {equal : ValueEquality} {groupBy : List String} {rowsA rowsB : List Fields}

def keyedRow (str : Bson → String) (groupBy : List String) (row : Fields) : String × Fields :=
  (rowKey str groupBy row, row)

variable (rows : List Fields)

theorem createRowLookup_eq : createRowLookup str rows groupBy =
    (rows.map (keyedRow str groupBy)).foldl (fun lookup entry => Table.upsert (·.1) entry lookup) [] := by
  rw [createRowLookup, List.foldl_map]
  rfl

theorem lookup_nodup (str : Bson → String) (groupBy : List String) (rows : List Fields) :
    ((createRowLookup str rows groupBy).map (·.1)).Nodup := by
  rw [createRowLookup_eq]
  exact Table.nodup_upserts _ List.nodup_nil

theorem lookup_length_iff : (createRowLookup str rows groupBy).length = rows.length ↔
    (rows.map (rowKey str groupBy)).Nodup := by
  have start : (([] : List (String × Fields)).map (·.1)).Nodup := List.nodup_nil
  have counted := Table.length_upserts_iff (fun entry : String × Fields => entry.1)
    (rows.map (keyedRow str groupBy)) start
  rw [← createRowLookup_eq, List.length_nil, Nat.zero_add, List.length_map, List.nil_append, List.map_map] at counted
  exact counted

theorem mem_lookup_iff {rows : List Fields} (apart : (rows.map (rowKey str groupBy)).Nodup) {key : String}
    {row : Fields} : (key, row) ∈ createRowLookup str rows groupBy ↔ row ∈ rows ∧ key = rowKey str groupBy row := by
  have distinct : ((([] : List (String × Fields)) ++ rows.map (keyedRow str groupBy)).map (·.1)).Nodup := by
    rw [List.nil_append, List.map_map]
    exact apart
  rw [createRowLookup_eq, Table.upserts_fresh distinct, List.nil_append, List.mem_map]
  constructor
  · rintro ⟨found, member, same⟩
    obtain ⟨rfl, rfl⟩ := Prod.mk.inj same
    exact ⟨member, rfl⟩
  · rintro ⟨member, rfl⟩
    exact ⟨row, member, rfl⟩

theorem common_keys {keysA keysB : List String} (distinctA : keysA.Nodup) (distinctB : keysB.Nodup) :
    (keysA.filter (· ∈ keysB)).length = (keysB.filter (· ∈ keysA)).length := by
  refine ((List.perm_ext_iff_of_nodup (distinctA.filter _) (distinctB.filter _)).mpr fun key => ?_).length_eq
  simp only [List.mem_filter, decide_eq_true_eq, and_comm]

theorem length_outside (entries : List (String × Fields)) (keys : List String) :
    (entries.filter fun entry => entry.1 ∉ keys).length + ((entries.map (·.1)).filter (· ∈ keys)).length =
      entries.length := by
  induction entries with
  | nil => rfl
  | cons entry rest ih =>
    by_cases known : entry.1 ∈ keys
    · rw [List.filter_cons_of_neg (by simpa using known), List.map_cons, List.filter_cons_of_pos (by simpa using known),
        List.length_cons, List.length_cons]
      omega
    · rw [List.filter_cons_of_pos (by simpa using known), List.map_cons, List.filter_cons_of_neg (by simpa using known),
        List.length_cons, List.length_cons]
      omega

theorem counts_second : ((compareRows str equal rowsA rowsB groupBy).addedCount : ℤ) +
    (compareRows str equal rowsA rowsB groupBy).changedCount +
      (compareRows str equal rowsA rowsB groupBy).unchangedCount = (createRowLookup str rowsB groupBy).length := by
  have outA := length_outside (createRowLookup str rowsA groupBy) ((createRowLookup str rowsB groupBy).map (·.1))
  have outB := length_outside (createRowLookup str rowsB groupBy) ((createRowLookup str rowsA groupBy).map (·.1))
  have common := common_keys (lookup_nodup str groupBy rowsA) (lookup_nodup str groupBy rowsB)
  simp only [compareRows, List.length_map]
  omega

theorem counts_first : ((compareRows str equal rowsA rowsB groupBy).removedCount : ℤ) +
    (compareRows str equal rowsA rowsB groupBy).changedCount +
      (compareRows str equal rowsA rowsB groupBy).unchangedCount = (createRowLookup str rowsA groupBy).length := by
  simp only [compareRows]
  omega

theorem compareRows_self : (compareRows str equal rows rows groupBy).addedCount = 0 ∧
    (compareRows str equal rows rows groupBy).removedCount = 0 ∧
      (compareRows str equal rows rows groupBy).changedCount = 0 := by
  have known : (createRowLookup str rows groupBy).filter
      (fun entry => entry.1 ∉ (createRowLookup str rows groupBy).map (·.1)) = [] := by
    rw [List.filter_eq_nil_iff]
    intro entry member
    simpa using ⟨entry.2, member⟩
  refine ⟨?_, ?_, ?_⟩
  · simp only [compareRows, known, List.map_nil, List.length_nil]
  · simp only [compareRows, known, List.map_nil, List.length_nil]
  · simp only [compareRows, List.length_eq_zero_iff, List.filterMap_eq_nil_iff]
    intro entry member
    rw [Table.find_of_mem (lookup_nodup str groupBy rows) member, Option.bind_some, if_pos (equal.refl _)]

end

/-- The comparison of two lists of rows accounts for every row exactly if the keys tell the rows of
each list apart and rows of both lists with one key belong to one group. -/
theorem rows_accounted_iff (str : Bson → String) (equal : ValueEquality) (groupBy : List String)
    (rowsA rowsB : List Fields) : RowsAccounted str equal groupBy rowsA rowsB ↔ KeysTell str groupBy rowsA rowsB := by
  constructor
  · intro accounted
    have firstApart := accounted.first
    have secondApart := accounted.second
    rw [counts_first, Int.natCast_inj, lookup_length_iff] at firstApart
    rw [counts_second, Int.natCast_inj, lookup_length_iff] at secondApart
    refine ⟨firstApart, secondApart, fun rowA memberA rowB memberB same => ?_⟩
    exact accounted.matched _ rowA rowB ((mem_lookup_iff firstApart).mpr ⟨memberA, rfl⟩)
      ((mem_lookup_iff secondApart).mpr ⟨memberB, same⟩)
  · intro tell
    refine ⟨?_, ?_, fun key rowA rowB foundA foundB => ?_, compareRows_self rowsA⟩
    · rw [counts_second, Int.natCast_inj, lookup_length_iff]
      exact tell.secondApart
    · rw [counts_first, Int.natCast_inj, lookup_length_iff]
      exact tell.firstApart
    · obtain ⟨memberA, keyA⟩ := (mem_lookup_iff tell.firstApart).mp foundA
      obtain ⟨memberB, keyB⟩ := (mem_lookup_iff tell.secondApart).mp foundB
      exact tell.sameGroup rowA memberA rowB memberB (keyA.symm.trans keyB)

/-- Counted quantities by rack. -/
def rackReport : ReportSpec where
  groupBy := ["rack_no"]
  aggregations := [("counted_qty", "sum")]

def countsOnTwoRacks : List Fields :=
  [[("_id", .num 1), ("rack_no", .str "A1"), ("counted_qty", .num 3)],
    [("_id", .num 2), ("rack_no", .str "B2"), ("counted_qty", .num 4)]]

def rowsOfTwoRacks : List Fields :=
  [[("_id", .str "A1"), ("counted_qty_sum", .num 3)], [("_id", .str "B2"), ("counted_qty_sum", .num 4)]]

def rackPath (name : String) (doc : Fields) : Option Bson := if name = "$rack_no" then doc.lookup "rack_no" else none

/-- The text of a text is the text itself; no other value is asked for its text here. -/
def textOfValue : Bson → String
  | .str text => text
  | _ => ""

/-- Every pair that a list leads to with itself is a row and the same row. -/
def rowWithItself : ValueEquality := ⟨fun _ _ => true, fun _ => rfl⟩

/-- The report has two rows, and the comparison with itself knows one of them. -/
theorem racks_counted_once : PipelineRows rackPath rackReport countsOnTwoRacks rowsOfTwoRacks ∧
    ¬ RowsAccounted textOfValue rowWithItself ["rack_no"] rowsOfTwoRacks rowsOfTwoRacks := by
  refine ⟨⟨?_, ?_, ?_⟩, fun accounted => absurd accounted.second (by decide +kernel)⟩
  · simp [rowsOfTwoRacks]
  · intro ungrouped
    cases ungrouped
  · intro _
    refine ⟨_, rfl, fun row member => ?_⟩
    rcases List.mem_pair.mp member with rfl | rfl
    · exact ⟨rfl, _, List.mem_cons_self, rfl⟩
    · exact ⟨rfl, _, List.mem_cons_of_mem _ List.mem_cons_self, rfl⟩

end StockVerification
