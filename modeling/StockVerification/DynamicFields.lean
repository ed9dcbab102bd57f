import StockVerification.Foundation.Collection
import StockVerification.Foundation.Interleaving
import StockVerification.Foundation.Tables

/-!
# Values of dynamic fields

Source: backend/services/dynamic_fields_service.py:182-258 and 329-412.

A call of `set_field_value` reads the definition of the field and the record of the item's
value, and then updates the record or inserts one. After an insertion it writes the mapped
column of the item, if the field has one. Calls interleave. The write of the column may fail,
which is logged and ends the call.
-/
namespace StockVerification

open Foundation

/-- A document of `dynamic_field_definitions`; `minimum` and `maximum` are its rules for numbers. -/
structure FieldDefinition where
  fieldName : String
  fieldType : String
  dbMapping : String := ""
  options : List Value := []
  minimum : Option ℚ := none
  maximum : Option ℚ := none

/-- A document of `dynamic_field_values`, the history without its stamps. -/
structure FieldRecord where
  id : Nat
  itemCode : String
  fieldName : String
  value : Value
  history : List Value
  deriving DecidableEq

/-- The three collections, and the values written, in their order. -/
structure FieldStore where
  definitions : List FieldDefinition
  records : List FieldRecord := []
  items : List Doc
  nextId : Nat := 0
  written : List ((String × String) × Value) := []

def validateNumber (field : FieldDefinition) (value : Value) : Option Value := do
  let number ← value.number
  if field.minimum.any (number < ·) || field.maximum.any (· < number) then none else some (.num number)

def validateSelect (field : FieldDefinition) (value : Value) : Option Value :=
  if field.fieldType = "select" then if field.options.contains value then some value else none
  else match value with
    | .list items => if items.all fun item => field.options.contains item.toValue then some value else none
    | .rows [] => some value
    | _ => none

/-- `_validate_field_value`, none where it raises; which texts are dates in ISO format is the
language's. -/
def validateFieldValue (fromIsoFormat : String → Bool) (field : FieldDefinition) (value : Value) : Option Value :=
  if field.fieldType = "number" then validateNumber field value
  else if field.fieldType = "boolean" then
    match value with
    | .bool _ => some value
    | _ => none
  else if field.fieldType = "select" ∨ field.fieldType = "multiselect" then validateSelect field value
  else if field.fieldType = "date" ∨ field.fieldType = "datetime" then
    match value with
    | .str text => if fromIsoFormat text then some value else none
    | _ => some value
  else some value

namespace FieldStore

def findDefinition (s : FieldStore) (fieldName : String) : Option FieldDefinition :=
  s.definitions.find? fun field => field.fieldName == fieldName

def recordsOf (s : FieldStore) (key : String × String) : List FieldRecord :=
  s.records.filter fun record => record.itemCode == key.1 && record.fieldName == key.2

def valuesOf (s : FieldStore) (key : String × String) : List Value :=
  (s.written.filter fun entry => entry.1 == key).map Prod.snd

/-- The `db_mapping` of a field, if it has one. -/
def mappingOf (s : FieldStore) (fieldName : String) : Option String :=
  (s.findDefinition fieldName).bind fun field => if field.dbMapping = "" then none else some field.dbMapping

def columnOf (s : FieldStore) (itemCode column : String) : Option Value :=
  (s.items.find? (Filter.eq "item_code" (.str itemCode)).holds).map (·.get column)

/-- `find_one_and_update` by the id: the value read before goes into the history. -/
def updateRecord (s : FieldStore) (id : Nat) (key : String × String) (old value : Value) : FieldStore :=
  { s with
    records := Table.modify FieldRecord.id id
      (fun record => { record with value := value, history := record.history ++ [old] }) s.records
    written := s.written ++ [(key, value)] }

/-- `insert_one` of a first value. -/
def insertRecord (s : FieldStore) (key : String × String) (value : Value) : FieldStore :=
  { s with
    records := s.records ++ [⟨s.nextId, key.1, key.2, value, []⟩]
    nextId := s.nextId + 1
    written := s.written ++ [(key, value)] }

def updateDbMapping (s : FieldStore) (itemCode column : String) (value : Value) : FieldStore :=
  let named := (Filter.eq "item_code" (.str itemCode)).holds
  match s.items.find? named with
  | none => s
  | some item => { s with items := Collection.replaceFirst named (item.set column value) s.items }

end FieldStore

structure SetFieldValue where
  itemCode : String
  fieldName : String
  value : Value

inductive FieldTask where
  | define (call : SetFieldValue)
  | find (key : String × String) (field : FieldDefinition) (value : Value)
  | update (id : Nat) (key : String × String) (old value : Value)
  | insert (key : String × String) (field : FieldDefinition) (value : Value)
  | map (itemCode column : String) (value : Value)

/-- One database call of `set_field_value` and what follows it. -/
def resumeField (fromIsoFormat : String → Bool) (s : FieldStore) : FieldTask → FieldStore × Option FieldTask
  | .define call =>
    match s.findDefinition call.fieldName with
    | none => (s, none)
    | some field =>
      match validateFieldValue fromIsoFormat field call.value with
      | none => (s, none)
      | some value => (s, some (.find (call.itemCode, call.fieldName) field value))
  | .find key field value =>
    match (s.recordsOf key).head? with
    | some existing => (s, some (.update existing.id key existing.value value))
    | none => (s, some (.insert key field value))
  | .update id key old value => (s.updateRecord id key old value, none)
  | .insert key field value =>
    (s.insertRecord key value, if field.dbMapping = "" then none else some (.map key.1 field.dbMapping value))
  | .map itemCode column value => (s.updateDbMapping itemCode column value, none)

abbrev SettingFields := Concurrent FieldStore FieldTask

def SettingFields.step (fromIsoFormat : String → Bool) : SettingFields → Move SetFieldValue → SettingFields :=
  Concurrent.step (fun _ call => some (.define call)) (resumeField fromIsoFormat)

/-- An update finds the value that the call has read, and sets no other value to a field with a
mapping; an insertion finds no record; the item of a mapped column is there, and its write is not
lost. -/
def fieldUndisturbed (c : SettingFields) : Move SetFieldValue → Bool
  | .start _ _ => true
  | .resume slot =>
    match c.task slot with
    | some (.update id key old value) =>
      ((Table.find FieldRecord.id c.store.records id).all fun record => record.value == old) &&
        ((c.store.mappingOf key.2).isNone || old == value)
    | some (.insert key _ _) => (c.store.recordsOf key).isEmpty
    | some (.map itemCode _ _) => (c.store.items.find? (Filter.eq "item_code" (.str itemCode)).holds).isSome
    | _ => true
  | .abandon slot =>
    match c.task slot with
    | some (.map _ _ _) => false
    | _ => true

/-- No two fields are mapped to one column, and none to the code of the item. -/
structure MappingsApart (s : FieldStore) : Prop where
  distinct : ∀ first second column, s.mappingOf first = some column →
    s.mappingOf second = some column → first = second
  notCode : ∀ fieldName, s.mappingOf fieldName ≠ some "item_code"

variable {key : String × String} {record : FieldRecord}

namespace FieldStore

theorem mem_recordsOf {s : FieldStore} :
    record ∈ s.recordsOf key ↔ record ∈ s.records ∧ (record.itemCode, record.fieldName) = key := by
  simp [recordsOf, Prod.ext_iff]

theorem recordsOf_update (s : FieldStore) (id : Nat) (key other : String × String) (old value : Value) :
    (s.updateRecord id key old value).recordsOf other = (s.recordsOf other).map fun record =>
      if record.id = id then { record with value := value, history := record.history ++ [old] } else record := by
  unfold recordsOf updateRecord Table.modify
  rw [List.filter_map]
  congr 1
  apply List.filter_congr
  intro record _
  dsimp only [Function.comp]
  split
  · rfl
  · rfl

theorem recordsOf_insert (s : FieldStore) (key other : String × String) (value : Value) :
    (s.insertRecord key value).recordsOf other =
      s.recordsOf other ++ if key = other then [⟨s.nextId, key.1, key.2, value, []⟩] else [] := by
  unfold recordsOf insertRecord
  rw [List.filter_append]
  by_cases here : key = other
  · subst here
    simp
  · rw [if_neg here]
    have apart : (key.1 == other.1 && key.2 == other.2) = false := by
      rw [Bool.eq_false_iff]
      intro same
      rw [Bool.and_eq_true, beq_iff_eq, beq_iff_eq] at same
      exact here (Prod.ext same.1 same.2)
    simp [apart]

theorem valuesOf_append (s : FieldStore) (records : List FieldRecord) (nextId : Nat)
    (key other : String × String) (value : Value) :
    valuesOf { s with records := records, nextId := nextId, written := s.written ++ [(key, value)] } other =
      s.valuesOf other ++ if key = other then [value] else [] := by
  unfold valuesOf
  rw [List.filter_append, List.map_append]
  by_cases here : key = other
  · simp [here]
  · simp [here]

end FieldStore

/-- Every field of an item has one record with all its values in their order, or no record and no
value. -/
structure FieldsKept (s : FieldStore) : Prop where
  ids : (s.records.map FieldRecord.id).Nodup
  below : ∀ record ∈ s.records, record.id < s.nextId
  faithful : ∀ key, (s.recordsOf key).map (fun record => record.history ++ [record.value]) =
    if s.valuesOf key = [] then [] else [s.valuesOf key]
  apart : MappingsApart s
  coded : ∀ item ∈ s.items, ∃ code, item "item_code" = some (.str code)

variable {s : FieldStore} {id : Nat} {value : Value}

section

variable (kept : FieldsKept s)
include kept

theorem FieldsKept.only (member : record ∈ s.recordsOf key) :
    s.recordsOf key = [record] ∧ record.history ++ [record.value] = s.valuesOf key := by
  have faithful := kept.faithful key
  split at faithful
  · rw [List.map_eq_nil_iff] at faithful
    rw [faithful] at member
    cases member
  · obtain ⟨only, single, values⟩ := List.map_eq_singleton_iff.mp faithful
    rw [single] at member
    rw [List.mem_singleton.mp member]
    exact ⟨single, values⟩

theorem FieldsKept.unwritten (nobody : s.recordsOf key = []) : s.valuesOf key = [] := by
  have faithful := kept.faithful key
  rw [nobody] at faithful
  by_contra some
  rw [if_neg some] at faithful
  cases faithful

theorem FieldsKept.same_of_id {first second : FieldRecord} (isFirst : first ∈ s.records)
    (isSecond : second ∈ s.records) (same : first.id = second.id) : first = second :=
  List.inj_on_of_nodup_map kept.ids isFirst isSecond same

/-- An update over the value that the call has read. -/
theorem FieldsKept.update
    (member : record ∈ s.recordsOf key) (named : record.id = id) :
    FieldsKept (s.updateRecord id key record.value value) := by
  obtain ⟨stored, isKey⟩ := FieldStore.mem_recordsOf.mp member
  have sameIds : (s.updateRecord id key record.value value).records.map FieldRecord.id = s.records.map FieldRecord.id := by
    apply Table.map_modify
    intro _
    rfl
  refine ⟨?_, ?_, ?_, ⟨kept.apart.distinct, kept.apart.notCode⟩, kept.coded⟩
  · rw [sameIds]
    exact kept.ids
  · intro new isNew
    have listed : new.id ∈ s.records.map FieldRecord.id := by
      rw [← sameIds]
      exact List.mem_map_of_mem isNew
    obtain ⟨old, isOld, same⟩ := List.mem_map.mp listed
    rw [← same]
    exact kept.below old isOld
  · intro other
    rw [FieldStore.recordsOf_update, show (s.updateRecord id key record.value value).valuesOf other =
      s.valuesOf other ++ if key = other then [value] else [] from FieldStore.valuesOf_append s _ s.nextId key other value]
    by_cases here : key = other
    · subst here
      obtain ⟨single, values⟩ := kept.only member
      rw [single, if_pos rfl, if_neg (by simp), ← values]
      simp [named]
    · rw [if_neg here, List.append_nil, ← kept.faithful other]
      rw [List.map_map]
      apply List.map_congr_left
      intro old isOld
      obtain ⟨oldStored, oldKey⟩ := FieldStore.mem_recordsOf.mp isOld
      have different : old.id ≠ id := by
        intro same
        rw [kept.same_of_id oldStored stored (same.trans named.symm)] at oldKey
        exact here (isKey.symm.trans oldKey)
      simp [different]

/-- A first value. -/
theorem FieldsKept.insert (value : Value) (nobody : s.recordsOf key = []) :
    FieldsKept (s.insertRecord key value) := by
  refine ⟨?_, ?_, ?_, ⟨kept.apart.distinct, kept.apart.notCode⟩, kept.coded⟩
  · simp only [FieldStore.insertRecord, List.map_append, List.map_singleton]
    rw [List.nodup_append]
    refine ⟨kept.ids, List.nodup_singleton _, ?_⟩
    intro id listed new isNew same
    obtain ⟨record, stored, rfl⟩ := List.mem_map.mp listed
    have less := kept.below record stored
    rw [same, List.mem_singleton.mp isNew] at less
    exact Nat.lt_irrefl _ less
  · intro record member
    rcases List.mem_append.mp member with stored | isNew
    · exact Nat.lt_succ_of_lt (kept.below record stored)
    · rw [List.mem_singleton.mp isNew]
      exact Nat.lt_succ_self _
  · intro other
    rw [FieldStore.recordsOf_insert, show (s.insertRecord key value).valuesOf other = s.valuesOf other ++ if key = other
      then [value] else [] from FieldStore.valuesOf_append s _ (s.nextId + 1) key other value]
    by_cases here : key = other
    · subst here
      rw [nobody, kept.unwritten nobody]
      simp
    · rw [if_neg here, if_neg here, List.append_nil, List.append_nil]
      exact kept.faithful other

end

theorem code_holds {item : Doc} {code other : String} (coded : item "item_code" = some (.str code)) :
    (Filter.eq "item_code" (.str other)).holds item = (code == other) := by
  rw [Filter.holds, Filter.fieldIs_str coded]

variable {itemCode column : String}

/-- The write of a column changes that column of that item. -/
theorem FieldStore.columnOf_updateDbMapping
    (coded : ∀ item ∈ s.items, ∃ code, item "item_code" = some (.str code)) (notCode : column ≠ "item_code")
    (present : (s.items.find? (Filter.eq "item_code" (.str itemCode)).holds).isSome = true)
    (otherCode otherColumn : String) :
    (s.updateDbMapping itemCode column value).columnOf otherCode otherColumn =
      if otherCode = itemCode ∧ otherColumn = column then some value else s.columnOf otherCode otherColumn := by
  obtain ⟨item, found⟩ := Option.isSome_iff_exists.mp present
  obtain ⟨code, isCode⟩ := coded item (List.mem_of_find?_eq_some found)
  have named := List.find?_some found
  rw [code_holds isCode, beq_iff_eq] at named
  subst named
  have newCode : (item.set column value) "item_code" = some (.str code) := by
    rw [Doc.set_other item value notCode.symm, isCode]
  unfold updateDbMapping columnOf
  dsimp only
  rw [found]
  dsimp only
  by_cases sameCode : otherCode = code
  · subst sameCode
    rw [Collection.find_replaceFirst_same found (by rw [code_holds newCode]; exact beq_self_eq_true _), found]
    by_cases sameColumn : otherColumn = column
    · subst sameColumn
      simp [Doc.get]
    · have same : (item.set column value).get otherColumn = item.get otherColumn :=
        Doc.get_congr (Doc.set_other item value sameColumn)
      simp [sameColumn, same]
  · have unnamed : ∀ doc : Doc, doc "item_code" = some (.str code) →
        (Filter.eq "item_code" (.str otherCode)).holds doc = false := by
      intro doc isDoc
      rw [code_holds isDoc, beq_eq_false_iff_ne]
      exact Ne.symm sameCode
    rw [Collection.find_replaceFirst_other found (unnamed item isCode) (unnamed _ newCode)]
    simp [sameCode]

theorem FieldsKept.map (kept : FieldsKept s) (value : Value)
    (notCode : column ≠ "item_code") : FieldsKept (s.updateDbMapping itemCode column value) := by
  unfold FieldStore.updateDbMapping
  dsimp only
  split
  · exact kept
  · next item found =>
    refine { kept with apart := ⟨kept.apart.distinct, kept.apart.notCode⟩, coded := ?_ }
    intro doc member
    rcases Collection.mem_replaceFirst member with stored | isNew
    · exact kept.coded doc stored
    · obtain ⟨code, isCode⟩ := kept.coded item (List.mem_of_find?_eq_some found)
      rw [isNew]
      exact ⟨code, by rw [Doc.set_other item value notCode.symm, isCode]⟩

/-- What a call relies on: the definition is the field's, the record it updates is the field's, and
the column it writes is that of a record with the value. -/
def FieldTask.Knows (s : FieldStore) : FieldTask → Prop
  | .define _ => True
  | .find key field _ | .insert key field _ => s.findDefinition key.2 = some field
  | .update id key _ _ => ∃ record ∈ s.recordsOf key, record.id = id
  | .map itemCode column value => ∃ record ∈ s.records, record.itemCode = itemCode ∧
      s.mappingOf record.fieldName = some column ∧ record.value = value

/-- Each mapped column has the value of its record, or is about to get it. -/
def ColumnsMapped (s : FieldStore) (task : Nat → Option FieldTask) : Prop :=
  ∀ record ∈ s.records, ∀ column, s.mappingOf record.fieldName = some column →
    s.columnOf record.itemCode column = some record.value ∨
      ∃ slot, task slot = some (.map record.itemCode column record.value)

structure FieldsSound (c : SettingFields) : Prop where
  sound : Concurrent.Sound FieldsKept FieldTask.Knows c
  mapped : ColumnsMapped c.store c.task

/-- A write that keeps the definitions, leaves every record its key and id, and leaves every mapped
record its value, leaves what the calls know. -/
theorem FieldTask.Knows.mono {t : FieldStore} {task : FieldTask} (knows : task.Knows s)
    (definitions : t.definitions = s.definitions)
    (records : ∀ record ∈ s.records, ∃ after ∈ t.records, after.id = record.id ∧ after.itemCode = record.itemCode ∧
      after.fieldName = record.fieldName ∧ (s.mappingOf record.fieldName ≠ none → after.value = record.value)) :
    task.Knows t := by
  have sameDefinition : ∀ name, t.findDefinition name = s.findDefinition name := by
    intro name
    rw [FieldStore.findDefinition, definitions, FieldStore.findDefinition]
  have sameMapping : ∀ name, t.mappingOf name = s.mappingOf name := by
    intro name
    rw [FieldStore.mappingOf, sameDefinition, FieldStore.mappingOf]
  cases task with
  | define call => trivial
  | find key field value | insert key field value => exact (sameDefinition key.2).trans knows
  | update id key old value =>
    obtain ⟨record, member, named⟩ := knows
    obtain ⟨stored, isKey⟩ := FieldStore.mem_recordsOf.mp member
    obtain ⟨after, isAfter, sameId, sameItem, sameField, _⟩ := records record stored
    refine ⟨after, FieldStore.mem_recordsOf.mpr ⟨isAfter, ?_⟩, sameId.trans named⟩
    rw [sameItem, sameField]
    exact isKey
  | map itemCode column value =>
    obtain ⟨record, stored, isItem, isMapped, isValue⟩ := knows
    obtain ⟨after, isAfter, _, sameItem, sameField, sameValue⟩ := records record stored
    refine ⟨after, isAfter, sameItem.trans isItem, ?_, (sameValue (by rw [isMapped]; simp)).trans isValue⟩
    rw [sameField, sameMapping]
    exact isMapped

/-- The records after an update. -/
theorem FieldsKept.updated_records (kept : FieldsKept s) (member : record ∈ s.recordsOf key)
    (named : record.id = id) (same : s.mappingOf key.2 = none ∨ record.value = value) :
    (∀ old ∈ s.records, ∃ after ∈ (s.updateRecord id key record.value value).records, after.id = old.id ∧
      after.itemCode = old.itemCode ∧ after.fieldName = old.fieldName ∧
      (s.mappingOf old.fieldName ≠ none → after.value = old.value)) ∧
    ∀ after ∈ (s.updateRecord id key record.value value).records, ∃ old ∈ s.records,
      after.itemCode = old.itemCode ∧ after.fieldName = old.fieldName ∧
      (s.mappingOf old.fieldName ≠ none → after.value = old.value) := by
  obtain ⟨stored, isKey⟩ := FieldStore.mem_recordsOf.mp member
  have each : ∀ old ∈ s.records, ∃ after, (if old.id = id then { old with
      value := value
      history := old.history ++ [record.value] } else old) = after ∧ after.id = old.id ∧
      after.itemCode = old.itemCode ∧ after.fieldName = old.fieldName ∧
      (s.mappingOf old.fieldName ≠ none → after.value = old.value) := by
    intro old isOld
    by_cases here : old.id = id
    · rw [if_pos here]
      refine ⟨_, rfl, rfl, rfl, rfl, fun isMapped => ?_⟩
      have isRecord := kept.same_of_id isOld stored (here.trans named.symm)
      rcases same with unmapped | sameValue
      · rw [← isKey] at unmapped
        rw [isRecord] at isMapped
        exact absurd unmapped isMapped
      · rw [isRecord]
        exact sameValue.symm
    · rw [if_neg here]
      exact ⟨old, rfl, rfl, rfl, rfl, fun _ => rfl⟩
  constructor
  · intro old isOld
    obtain ⟨after, made, rest⟩ := each old isOld
    exact ⟨after, List.mem_map.mpr ⟨old, isOld, made⟩, rest⟩
  · intro after isAfter
    obtain ⟨old, isOld, made⟩ := List.mem_map.mp isAfter
    obtain ⟨other, made', _, rest⟩ := each old isOld
    rw [← made, made']
    exact ⟨old, isOld, rest⟩

section

variable {fromIsoFormat : String → Bool}

structure FieldGoesOn (c : SettingFields) (slot : Nat) (after : FieldStore × Option FieldTask) : Prop where
  kept : FieldsKept after.1
  own : ∀ next, after.2 = some next → next.Knows after.1
  others : ∀ u : FieldTask, u.Knows c.store → u.Knows after.1
  mapped : ColumnsMapped after.1 (Function.update c.task slot after.2)

variable {c : SettingFields} {task : FieldTask}

section

variable (sound : FieldsSound c) {slot : Nat} (held : c.task slot = some task)
  (noMap : ∀ itemCode column value, task ≠ .map itemCode column value)
include sound held noMap

theorem ColumnsMapped.replaced (next : Option FieldTask) :
    ColumnsMapped c.store (Function.update c.task slot next) := by
  intro record stored column isMapped
  rcases sound.mapped record stored column isMapped with set | ⟨other, pending⟩
  · exact .inl set
  · refine .inr ⟨other, ?_⟩
    have different : other ≠ slot := by
      intro same
      subst same
      rw [held] at pending
      exact noMap _ _ _ (Option.some.inj pending)
    rw [Function.update_of_ne different]
    exact pending

theorem FieldsSound.reads {next : Option FieldTask} (knows : ∀ t, next = some t → t.Knows c.store) :
    FieldGoesOn c slot (c.store, next) where
  kept := sound.sound.store
  own := knows
  others _ fact := fact
  mapped := ColumnsMapped.replaced sound held noMap next

end

theorem FieldsSound.updates (sound : FieldsSound c) {slot : Nat} {old : Value}
    (held : c.task slot = some (.update id key old value)) (quiet : fieldUndisturbed c (.resume slot) = true) :
    FieldGoesOn c slot (c.store.updateRecord id key old value, none) := by
  obtain ⟨record, member, named⟩ := sound.sound.tasks slot _ held
  have stored := (FieldStore.mem_recordsOf.mp member).1
  have found : Table.find FieldRecord.id c.store.records id = some record := by
    rw [← named]
    exact Table.find_of_mem sound.sound.store.ids stored
  simp only [fieldUndisturbed, held, found, Option.all_some, Bool.and_eq_true, Bool.or_eq_true,
    beq_iff_eq, Option.isNone_iff_eq_none] at quiet
  obtain ⟨rfl, same⟩ := quiet
  obtain ⟨forth, back⟩ := sound.sound.store.updated_records member named same
  refine ⟨sound.sound.store.update member named, ?_, ?_, ?_⟩
  · intro next ended
    cases ended
  · intro u fact
    exact fact.mono rfl forth
  · intro after isAfter column isMapped
    obtain ⟨before, isBefore, sameItem, sameField, sameValue⟩ := back after isAfter
    have wasMapped : c.store.mappingOf before.fieldName = some column := by
      rw [← sameField]
      exact isMapped
    rw [sameItem, sameValue (by rw [wasMapped]; simp)]
    exact ColumnsMapped.replaced sound held nofun none before isBefore column wasMapped

section

variable (sound : FieldsSound c) {slot : Nat}
include sound

theorem FieldsSound.inserts {field : FieldDefinition}
    (held : c.task slot = some (.insert key field value)) (quiet : fieldUndisturbed c (.resume slot) = true) :
    FieldGoesOn c slot (resumeField fromIsoFormat c.store (.insert key field value)) := by
  have defined : c.store.findDefinition key.2 = some field := sound.sound.tasks slot _ held
  simp only [fieldUndisturbed, held, List.isEmpty_iff] at quiet
  have listed : ∀ record ∈ c.store.records, record ∈ (c.store.insertRecord key value).records :=
    fun record member => List.mem_append_left _ member
  have new : (⟨c.store.nextId, key.1, key.2, value, []⟩ : FieldRecord) ∈ (c.store.insertRecord key value).records :=
    List.mem_append_right _ (List.mem_singleton.mpr rfl)
  have mapping : c.store.mappingOf key.2 = if field.dbMapping = "" then none else some field.dbMapping := by
    rw [FieldStore.mappingOf, defined, Option.bind_some]
  refine ⟨sound.sound.store.insert value quiet, ?_, ?_, ?_⟩
  · intro next goesOn
    simp only [resumeField] at goesOn
    split at goesOn
    · cases goesOn
    · next isMapped =>
      cases goesOn
      rw [if_neg isMapped] at mapping
      exact ⟨_, new, rfl, mapping, rfl⟩
  · intro u fact
    exact fact.mono rfl fun record member => ⟨record, listed record member, rfl, rfl, rfl, fun _ => rfl⟩
  · intro record member column isMapped
    rcases List.mem_append.mp member with stored | isNew
    · exact ColumnsMapped.replaced sound held nofun _ record stored column isMapped
    · rw [List.mem_singleton.mp isNew] at isMapped ⊢
      refine .inr ⟨slot, ?_⟩
      rw [Function.update_self]
      have there : c.store.mappingOf key.2 = some column := isMapped
      rw [mapping] at there
      split at there
      · cases there
      · next named =>
        simp only [resumeField, if_neg named]
        rw [Option.some.inj there]

theorem FieldsSound.maps
    (held : c.task slot = some (.map itemCode column value)) (quiet : fieldUndisturbed c (.resume slot) = true) :
    FieldGoesOn c slot (c.store.updateDbMapping itemCode column value, none) := by
  have kept := sound.sound.store
  obtain ⟨own, isOwn, isItem, isMapped, isValue⟩ := sound.sound.tasks slot _ held
  have notCode : column ≠ "item_code" := by
    intro same
    rw [same] at isMapped
    exact kept.apart.notCode own.fieldName isMapped
  simp only [fieldUndisturbed, held] at quiet
  have columns : ∀ otherCode otherColumn, (c.store.updateDbMapping itemCode column value).columnOf otherCode otherColumn =
      if otherCode = itemCode ∧ otherColumn = column then some value else c.store.columnOf otherCode otherColumn :=
    FieldStore.columnOf_updateDbMapping kept.coded notCode quiet
  have sameRest : (c.store.updateDbMapping itemCode column value).definitions = c.store.definitions ∧
      (c.store.updateDbMapping itemCode column value).records = c.store.records := by
    unfold FieldStore.updateDbMapping
    dsimp only
    split
    · exact ⟨rfl, rfl⟩
    · exact ⟨rfl, rfl⟩
  refine ⟨kept.map value notCode, ?_, ?_, ?_⟩
  · intro next ended
    cases ended
  · intro u fact
    apply fact.mono sameRest.1
    intro record stored
    rw [sameRest.2]
    exact ⟨record, stored, rfl, rfl, rfl, fun _ => rfl⟩
  · intro record member other otherMapped
    rw [sameRest.2] at member
    have wasMapped : c.store.mappingOf record.fieldName = some other := by
      rw [← otherMapped, FieldStore.mappingOf, FieldStore.mappingOf, FieldStore.findDefinition,
        FieldStore.findDefinition, sameRest.1]
    rw [columns]
    by_cases here : record.itemCode = itemCode ∧ other = column
    · -- the same column of the same item belongs to the same field, which has one record
      obtain ⟨sameItem, rfl⟩ := here
      have sameField := kept.apart.distinct _ _ other wasMapped isMapped
      have ownKey : own ∈ c.store.recordsOf (own.itemCode, own.fieldName) :=
        FieldStore.mem_recordsOf.mpr ⟨isOwn, rfl⟩
      have among : record ∈ c.store.recordsOf (own.itemCode, own.fieldName) :=
        FieldStore.mem_recordsOf.mpr ⟨member, by rw [sameItem, sameField, isItem]⟩
      rw [(kept.only ownKey).1] at among
      rw [if_pos ⟨sameItem, rfl⟩, List.mem_singleton.mp among, isValue]
      exact .inl rfl
    · rw [if_neg here]
      rcases sound.mapped record member other wasMapped with set | ⟨place, pending⟩
      · exact .inl set
      · refine .inr ⟨place, ?_⟩
        have different : place ≠ slot := by
          intro same
          subst same
          rw [held] at pending
          cases pending
          exact here ⟨rfl, rfl⟩
        rw [Function.update_of_ne different]
        exact pending

theorem FieldsSound.resumed (held : c.task slot = some task) (quiet : fieldUndisturbed c (.resume slot) = true) :
    FieldGoesOn c slot (resumeField fromIsoFormat c.store task) := by
  cases task with
  | define call =>
    simp only [resumeField]
    split
    · exact sound.reads held nofun nofun
    · next field defined =>
      split
      · exact sound.reads held nofun nofun
      · apply sound.reads held nofun
        intro t goesOn
        cases goesOn
        exact defined
  | find key field value =>
    have defined : c.store.findDefinition key.2 = some field := sound.sound.tasks slot _ held
    simp only [resumeField]
    split
    · next existing first =>
      apply sound.reads held nofun
      intro t goesOn
      cases goesOn
      exact ⟨existing, List.mem_of_head? first, rfl⟩
    · apply sound.reads held nofun
      intro t goesOn
      cases goesOn
      exact defined
  | update id key old value => exact sound.updates held quiet
  | insert key field value => exact sound.inserts held quiet
  | map itemCode column value => exact sound.maps held quiet

end

theorem FieldsSound.step {move : Move SetFieldValue} (sound : FieldsSound c) (quiet : fieldUndisturbed c move = true) :
    FieldsSound (SettingFields.step fromIsoFormat c move) := by
  constructor
  · apply sound.sound.step
    · intro slot call t _ begun
      cases begun
      trivial
    · intro slot task isResume held _
      subst isResume
      have on : FieldGoesOn c slot (resumeField fromIsoFormat c.store task) := sound.resumed held quiet
      exact ⟨on.kept, on.own, fun _ u _ _ fact => on.others u fact⟩
  · rcases Concurrent.step_cases (fun _ call => some (.define call)) (resumeField fromIsoFormat) c move with
      nothing | ⟨slot, call, rfl, free, after⟩ | ⟨slot, task, rfl, held, after⟩ | ⟨slot, rfl, after⟩
    · rw [SettingFields.step, nothing]
      exact sound.mapped
    · rw [SettingFields.step, after]
      intro record stored column isMapped
      rcases sound.mapped record stored column isMapped with set | ⟨place, pending⟩
      · exact .inl set
      · refine .inr ⟨place, ?_⟩
        have different : place ≠ slot := by
          intro same
          subst same
          rw [free] at pending
          cases pending
        dsimp only
        rw [Function.update_of_ne different]
        exact pending
    · rw [SettingFields.step, after]
      exact (sound.resumed held quiet).mapped
    · rw [SettingFields.step, after]
      cases held : c.task slot with
      | none =>
        rw [← held, Function.update_eq_self]
        exact sound.mapped
      | some task =>
        apply ColumnsMapped.replaced sound held
        intro itemCode column value isMap
        simp [fieldUndisturbed, held, isMap] at quiet

end

/-- Every field of an item has at most one record. It holds the value written last, and the earlier
ones in their order; when no call is in flight the mapped column has that value too. -/
structure FieldsInStep (c : SettingFields) : Prop where
  atMostOne : ∀ key, (c.store.recordsOf key).length ≤ 1
  stored : ∀ key, c.store.valuesOf key ≠ [] → c.store.recordsOf key ≠ []
  values : ∀ record ∈ c.store.records,
    c.store.valuesOf (record.itemCode, record.fieldName) = record.history ++ [record.value]
  columns : (∀ slot, c.task slot = none) → ∀ record ∈ c.store.records, ∀ column,
    c.store.mappingOf record.fieldName = some column →
    c.store.columnOf record.itemCode column = some record.value

/-- Before the first call: no value is stored, and the items have their codes. -/
structure FieldStart (c : SettingFields) : Prop where
  noRecords : c.store.records = []
  unwritten : c.store.written = []
  apart : MappingsApart c.store
  coded : ∀ item ∈ c.store.items, ∃ code, item "item_code" = some (.str code)
  idle : ∀ slot, c.task slot = none

theorem FieldStart.sound {c : SettingFields} (start : FieldStart c) : FieldsSound c := by
  refine ⟨⟨⟨?_, ?_, ?_, start.apart, start.coded⟩, ?_⟩, ?_⟩
  · rw [start.noRecords]
    exact List.nodup_nil
  · intro record member
    rw [start.noRecords] at member
    cases member
  · intro key
    simp [FieldStore.recordsOf, FieldStore.valuesOf, start.noRecords, start.unwritten]
  · intro slot task held
    rw [start.idle] at held
    cases held
  · intro record member
    rw [start.noRecords] at member
    cases member

/-- Calls that are not disturbed, and that set a mapped field only once, keep records, values and
columns in step. -/
theorem fields_in_step {fromIsoFormat : String → Bool} {first last : SettingFields} (start : FieldStart first)
    (run : Reaches (SettingFields.step fromIsoFormat) (fun c move => fieldUndisturbed c move = true) first last) :
    FieldsInStep last := by
  have sound : FieldsSound last := run.invariant start.sound fun c move kept quiet => kept.step quiet
  have kept := sound.sound.store
  refine ⟨?_, ?_, ?_, ?_⟩
  · intro key
    have same := congrArg List.length (kept.faithful key)
    rw [List.length_map] at same
    rw [same]
    split
    · exact Nat.zero_le 1
    · exact Nat.le_refl 1
  · intro key some nobody
    exact some (kept.unwritten nobody)
  · intro record member
    exact (kept.only (FieldStore.mem_recordsOf.mpr ⟨member, rfl⟩)).2.symm
  · intro idle record member column isMapped
    rcases sound.mapped record member column isMapped with set | ⟨slot, pending⟩
    · exact set
    · rw [idle] at pending
      cases pending

/-- An item, a field mapped to its shelf and a field without a mapping. -/
def itemWithFields : SettingFields where
  store :=
    { definitions := [{ fieldName := "shelf", fieldType := "text", dbMapping := "rack" },
        { fieldName := "warranty", fieldType := "number", minimum := some 0 }]
      items := [Doc.ofList [("item_code", .str "I1"), ("rack", .str "A0")]] }

theorem itemWithFields_start : FieldStart itemWithFields := by
  have mapped : ∀ name column, itemWithFields.store.mappingOf name = some column → name = "shelf" ∧ column = "rack" := by
    intro name column isMapped
    simp only [FieldStore.mappingOf, FieldStore.findDefinition, itemWithFields, List.find?_cons] at isMapped
    by_cases shelf : name = "shelf"
    · subst shelf
      exact ⟨rfl, (Option.some.inj isMapped).symm⟩
    · have notShelf : ("shelf" == name) = false := by simpa using Ne.symm shelf
      rw [notShelf] at isMapped
      by_cases warranty : name = "warranty"
      · subst warranty
        cases isMapped
      · have notWarranty : ("warranty" == name) = false := by simpa using Ne.symm warranty
        rw [notWarranty] at isMapped
        cases isMapped
  refine ⟨rfl, rfl, ⟨?_, ?_⟩, ?_, fun _ => rfl⟩
  · intro one two column isOne isTwo
    rw [(mapped one column isOne).1, (mapped two column isTwo).1]
  · intro name isMapped
    have same := (mapped name _ isMapped).2
    revert same
    decide
  · intro item member
    rw [List.mem_singleton.mp member]
    exact ⟨"I1", rfl⟩

def setShelf (shelf : String) : SetFieldValue := ⟨"I1", "shelf", .str shelf⟩

def setWarranty (years : ℚ) : SetFieldValue := ⟨"I1", "warranty", .num years⟩

/-- The shelf is set once, and the warranty twice, the first call of it between two steps of the
other. -/
def fieldsInTurn : List (Move SetFieldValue) :=
  [.start 0 (setShelf "A1"), .resume 0, .start 1 (setWarranty 1), .resume 1, .resume 0, .resume 1,
    .resume 1, .resume 0, .resume 0, .start 1 (setWarranty 2), .resume 1, .resume 1, .resume 1]

theorem fields_in_step_in_turn :
    FieldsInStep (fieldsInTurn.foldl (SettingFields.step fun _ => true) itemWithFields) ∧
      (fieldsInTurn.foldl (SettingFields.step fun _ => true) itemWithFields).store.valuesOf ("I1", "warranty") =
        [.num 1, .num 2] := by
  refine ⟨fields_in_step itemWithFields_start (Reaches.of_admitted ?_), ?_⟩
  · decide
  · decide

def shelfTwice : List (Move SetFieldValue) :=
  .start 0 (setShelf "A1") :: List.replicate 4 (.resume 0) ++ .start 0 (setShelf "A2") :: List.replicate 3 (.resume 0)

def warrantyAtOnce : List (Move SetFieldValue) :=
  [.start 0 (setWarranty 1), .start 1 (setWarranty 2), .resume 0, .resume 1, .resume 0, .resume 1, .resume 0, .resume 1]

/-- The second setting of a mapped field leaves the column behind, and two first settings at once
leave two records. -/
theorem fields_out_of_step :
    ¬ (∀ (fromIsoFormat : String → Bool) (first last : SettingFields), FieldStart first →
      Reaches (SettingFields.step fromIsoFormat) (fun _ _ => True) first last → FieldsInStep last) ∧
    (shelfTwice.foldl (SettingFields.step fun _ => true) itemWithFields).store.columnOf "I1" "rack" = some (.str "A1") ∧
    ((shelfTwice.foldl (SettingFields.step fun _ => true) itemWithFields).store.recordsOf ("I1", "shelf")).map (·.value) =
      [.str "A2"] ∧
    ((warrantyAtOnce.foldl (SettingFields.step fun _ => true) itemWithFields).store.recordsOf
      ("I1", "warranty")).length = 2 := by
  have two : ((warrantyAtOnce.foldl (SettingFields.step fun _ => true) itemWithFields).store.recordsOf
      ("I1", "warranty")).length = 2 := by
    decide
  refine ⟨?_, by decide, by decide, two⟩
  intro always
  have inStep := always (fun _ => true) itemWithFields _ itemWithFields_start
    (Reaches.foldl fun _ (move : Move SetFieldValue) (_ : move ∈ warrantyAtOnce) => trivial)
  have one := inStep.atMostOne ("I1", "warranty")
  rw [two] at one
  exact absurd one (by decide)

end StockVerification
