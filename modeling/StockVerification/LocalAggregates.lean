import StockVerification.LocalInventory

/-!
# The local tables as aggregates of the recorded lines

An event that is applied adds one line, and to every aggregate what the line contributes to it. A
serial number that is taken fails the whole transaction. A rebuild starts from empty tables, so
the same step lemma serves it.
-/
namespace StockVerification

open Foundation Foundation.Action

variable {js : JsRuntime}

def eventSerials (js : JsRuntime) (event : LineEvent) : List SerialRow :=
  (extractSerials js.upper event.payload).map (serialRow event)

/-- The serial numbers of an event are new to the registry, and each stands once. -/
def SerialsFree (js : JsRuntime) (event : LineEvent) (db : LocalDb) : Prop :=
  ((db.serialRegistry ++ eventSerials js event).map SerialRow.key).Nodup

def addBatches (js : JsRuntime) (rows : List BatchRecord) (records : List BatchRecord) : List BatchRecord :=
  records.foldl (fun rows record => Table.put BatchRecord.key rows (addedBatch js rows record)) rows

/-- The tables once an event is applied. -/
def appliedDb (js : JsRuntime) (event : LineEvent) (db : LocalDb) : LocalDb :=
  { db with
    eventApplied := db.eventApplied ++ [event.id]
    countLineRecords :=
      Table.put CountLineRecord.eventId db.countLineRecords (buildProjectedCountLineRecord event)
    itemsSnapshot := Table.put ItemSnapshot.key db.itemsSnapshot
      (buildProjectedItemSnapshot js event
        (Table.find ItemSnapshot.key db.itemsSnapshot (event.payload.sessionId, event.payload.itemCode)))
    batchRecords := addBatches js db.batchRecords (toBatchRecords event.payload)
    serialRegistry := db.serialRegistry ++ eventSerials js event }

variable {db t : LocalDb} {event : LineEvent}

theorem upsertBatchRecords_ok {u : Unit} : upsertBatchRecords js event db = .ok u t ↔
      t = { db with batchRecords := addBatches js db.batchRecords (toBatchRecords event.payload) } := by
  rw [upsertBatchRecords, forM_writes_ok]
  generalize toBatchRecords event.payload = records
  induction records generalizing db with
  | nil =>
    rw [List.foldlM_nil]
    exact ⟨fun same => (Except.ok.inj same).symm, fun same => congrArg Except.ok same.symm⟩
  | cons record rest ih =>
    rw [List.foldlM_cons]
    exact ih

/-- The inserts succeed exactly if no key of them is taken. -/
theorem upsertSerialRegistry_ok {u : Unit} (distinct : (db.serialRegistry.map SerialRow.key).Nodup) :
    upsertSerialRegistry js event db = .ok u t ↔ SerialsFree js event db ∧
        t = { db with serialRegistry := db.serialRegistry ++ eventSerials js event } := by
  rw [upsertSerialRegistry, forM_writes_ok, SerialsFree, eventSerials]
  generalize extractSerials js.upper event.payload = serials
  induction serials generalizing db with
  | nil =>
    rw [List.foldlM_nil]
    simp only [List.map_nil, List.append_nil]
    exact ⟨fun same => ⟨distinct, (Except.ok.inj same).symm⟩, fun both => congrArg Except.ok both.2.symm⟩
  | cons serial rest ih =>
    rw [List.foldlM_cons]
    by_cases taken : (serialRow event serial).key ∈ db.serialRegistry.map SerialRow.key
    · have refused : Table.insertNew SerialRow.key db.serialRegistry (serialRow event serial) = none := by
        rw [Table.insertNew, if_pos taken]
      simp only [refused]
      constructor
      · nofun
      · rintro ⟨nodup, _⟩
        exfalso
        rw [List.map_append, List.map_cons, List.map_cons, List.nodup_append] at nodup
        exact nodup.2.2 _ taken _ (List.mem_cons_self ..) rfl
    · have inserted : Table.insertNew SerialRow.key db.serialRegistry (serialRow event serial) =
          some (db.serialRegistry ++ [serialRow event serial]) :=
        Table.insertNew_eq_some.mpr ⟨taken, rfl⟩
      have still : ((db.serialRegistry ++ [serialRow event serial]).map SerialRow.key).Nodup := by
        rw [List.map_append, List.nodup_append]
        refine ⟨distinct, List.nodup_singleton _, ?_⟩
        intro key member other isNew same
        rw [List.map_singleton, List.mem_singleton] at isNew
        subst isNew
        rw [same] at member
        exact taken member
      simp only [inserted]
      have later := @ih { db with serialRegistry := db.serialRegistry ++ [serialRow event serial] } still
      simp only [List.append_assoc, List.singleton_append] at later
      exact later

/-- What applying an event does. -/
theorem applyInventoryEvent_ok {answer : Bool} (distinct : (db.serialRegistry.map SerialRow.key).Nodup) :
    applyInventoryEvent js event db = .ok answer t ↔ event.id ∈ db.eventApplied ∧ answer = false ∧ t = db ∨
      event.id ∉ db.eventApplied ∧ answer = true ∧ SerialsFree js event db ∧ t = appliedDb js event db := by
  simp only [applyInventoryEvent, markEventApplied, bind_ok, transacts_ok]
  by_cases known : event.id ∈ db.eventApplied
  · simp only [known, if_true, not_true_eq_false, false_and, or_false, true_and]
    constructor
    · rintro ⟨_, _, same, ran⟩
      cases same
      simp only [Bool.false_eq_true, if_false, pure_ok] at ran
      exact ⟨ran.1.symm, ran.2.symm⟩
    · rintro ⟨rfl, rfl⟩
      exact ⟨false, t, rfl, by simp⟩
  · simp only [known, if_false, not_false_eq_true, true_and, false_and, false_or]
    constructor
    · rintro ⟨_, _, same, ran⟩
      cases same
      simp only [if_true, bind_ok, upsertCountLineRecord, upsertItemSnapshot, writes_ok, upsertBatchRecords_ok] at ran
      obtain ⟨_, _, ⟨⟩, _, _, counted, _, _, batched, _, _, registered, ran⟩ := ran
      cases counted
      subst batched
      obtain ⟨free, rfl⟩ := (upsertSerialRegistry_ok (by exact distinct)).mp registered
      obtain ⟨rfl, rfl⟩ := pure_ok.mp ran
      exact ⟨rfl, free, rfl⟩
    · rintro ⟨rfl, free, rfl⟩
      refine ⟨true, _, rfl, ?_⟩
      simp only [if_true, bind_ok, upsertCountLineRecord, upsertItemSnapshot, writes_ok, upsertBatchRecords_ok]
      exact ⟨(), _, rfl, (), _, rfl, (), _, rfl, (), _,
        (upsertSerialRegistry_ok (by exact distinct)).mpr ⟨free, rfl⟩, pure_ok.mpr ⟨rfl, rfl⟩⟩

def pairLines (records : List CountLineRecord) (session item : String) : List CountLineRecord :=
  records.filter fun record => record.sessionId = session ∧ record.itemCode = item

/-- Quantity, damage and number of the lines; none where there are no lines. -/
def lineTotals (js : JsRuntime) : List CountLineRecord → Option (ℚ × ℚ × Nat)
  | [] => none
  | lines =>
    some (roundedSum js.round (lines.map (·.countedQty)), roundedSum js.round (lines.map (·.damagedQty)), lines.length)

def snapshotTotals (row : ItemSnapshot) : ℚ × ℚ × Nat := (row.totalQty, row.totalDamageQty, row.lineCount)

/-- The first of its names that is not empty. -/
def batchNumber (line : LinePayload) (batch : LineBatch) : Option String :=
  [batch.batchNo, batch.batchNumber, line.batchId, batch.barcode].reduceOption.find? (· ≠ "")

/-- What a line counts of a batch: in its list of batches, or else under its own batch. -/
def countedOfBatch (number : String) (line : LinePayload) : List ℚ :=
  if line.batches = [] then if line.batchId = some number ∧ number ≠ "" then [line.countedQty] else []
  else (line.batches.filter fun batch => batchNumber line batch = some number).map (·.quantity.getD 0)

/-- The quantities added up; none where there are none. -/
def addedUp (js : JsRuntime) (quantities : List ℚ) : Option ℚ :=
  if quantities = [] then none else some (roundedSum js.round quantities)

def storedQty (rows : List BatchRecord) (key : String × String × String) : Option ℚ :=
  (Table.find BatchRecord.key rows key).map (·.qty)

/-- The line was given the text of a serial number. -/
def GivenSerial (given : String) (line : LinePayload) : Prop :=
  given ∈ line.serialNumbers ∨ some given ∈ line.serialEntries

/-- The tables are the aggregates of the recorded lines, added up in the order of the lines. -/
structure LocalAggregates (js : JsRuntime) (db : LocalDb) : Prop where
  snapshots : ∀ session item,
    (Table.find ItemSnapshot.key db.itemsSnapshot (session, item)).map snapshotTotals =
      lineTotals js (pairLines db.countLineRecords session item)
  batches : ∀ session item number,
    storedQty db.batchRecords (session, item, number) =
      addedUp js ((pairLines db.countLineRecords session item).flatMap fun line => countedOfBatch number line.payloadJson)
  serials : ∀ session item serial, (session, item, serial) ∈ db.serialRegistry.map SerialRow.key ↔
    ∃ line ∈ pairLines db.countLineRecords session item, ∃ given,
      GivenSerial given line.payloadJson ∧ js.upper (trim given) = serial ∧ serial ≠ ""
  once : (db.serialRegistry.map SerialRow.key).Nodup

theorem lineTotals_append (lines : List CountLineRecord) (line : CountLineRecord) : lineTotals js (lines ++ [line]) =
      some (js.round (((lineTotals js lines).map (·.1)).getD 0 + line.countedQty),
        js.round (((lineTotals js lines).map (·.2.1)).getD 0 + line.damagedQty),
        ((lineTotals js lines).map (·.2.2)).getD 0 + 1) := by
  cases lines with
  | nil => simp [lineTotals, roundedSum]
  | cons first rest => simp [lineTotals, roundedSum]

/-- One more quantity. -/
def oneMore (js : JsRuntime) (stored : Option ℚ) (quantity : ℚ) : Option ℚ :=
  some (js.round (stored.getD 0 + quantity))

theorem addedUp_append (js : JsRuntime) (counted added : List ℚ) :
    addedUp js (counted ++ added) = added.foldl (oneMore js) (addedUp js counted) := by
  induction added generalizing counted with
  | nil => rw [List.append_nil, List.foldl_nil]
  | cons quantity rest ih =>
    have whole : counted ++ quantity :: rest = (counted ++ [quantity]) ++ rest := by
      rw [List.append_assoc, List.singleton_append]
    have step : addedUp js (counted ++ [quantity]) = oneMore js (addedUp js counted) quantity := by
      cases counted with
      | nil => simp [addedUp, oneMore, roundedSum]
      | cons first others => simp [addedUp, oneMore, roundedSum]
    rw [whole, ih, step, List.foldl_cons]

theorem storedQty_put (rows : List BatchRecord) (record : BatchRecord) (key : String × String × String) :
    storedQty (Table.put BatchRecord.key rows (addedBatch js rows record)) key =
      if record.key = key then oneMore js (storedQty rows key) record.qty else storedQty rows key := by
  have named : (addedBatch js rows record).key = record.key := rfl
  rw [storedQty, Table.find_put, named]
  by_cases here : record.key = key
  · subst here
    simp [storedQty, addedBatch, oneMore]
  · simp [here, storedQty]

theorem storedQty_addBatches (rows records : List BatchRecord) (key : String × String × String) :
    storedQty (addBatches js rows records) key =
      ((records.filter (·.key = key)).map (·.qty)).foldl (oneMore js) (storedQty rows key) := by
  induction records generalizing rows with
  | nil => rfl
  | cons record rest ih =>
    have step : addBatches js rows (record :: rest) =
        addBatches js (Table.put BatchRecord.key rows (addedBatch js rows record)) rest := rfl
    rw [step, ih, storedQty_put]
    by_cases here : record.key = key
    · simp [here]
    · simp [here]

theorem firstFilled_find (texts : List (Option String)) : firstFilled texts = texts.reduceOption.find? (· ≠ "") := by
  induction texts with
  | nil => rfl
  | cons text rest ih =>
    rw [firstFilled] at ih ⊢
    cases text with
    | none => simpa using ih
    | some text =>
      by_cases empty : text = ""
      · simpa [empty] using ih
      · simp [empty]

theorem normalizeBatchRecord_eq (line : LinePayload) (batch : LineBatch) : normalizeBatchRecord line batch =
    (batchNumber line batch).map fun number =>
      ⟨line.sessionId, line.itemCode, number, batch.quantity.getD 0, batch.mrp.or line.mrpCounted, line.countedAt⟩ := by
  rw [normalizeBatchRecord, firstFilled_find]
  rfl

/-- The records of a line count what the line counts of each batch. -/
theorem toBatchRecords_counted (line : LinePayload) (session item number : String) :
    ((toBatchRecords line).filter (·.key = (session, item, number))).map (·.qty) =
      if line.sessionId = session ∧ line.itemCode = item then countedOfBatch number line else [] := by
  unfold toBatchRecords countedOfBatch
  by_cases single : line.batches = []
  · simp only [single, ne_eq, not_true_eq_false, if_true, if_false]
    split
    · next none => simp [none]
    · next blank => simp [blank, eq_comm]
    · next own filled named =>
      have nonblank : own ≠ "" := filled
      simp only [named, Option.some.injEq, List.filter_cons, List.filter_nil, BatchRecord.key, Prod.mk.injEq]
      by_cases here : line.sessionId = session ∧ line.itemCode = item
      · by_cases same : own = number
        · simp [here, same, same ▸ nonblank]
        · simp [here, same]
      · by_cases first : line.sessionId = session
        · have second : line.itemCode ≠ item := fun same => here ⟨first, same⟩
          simp [first, second]
        · simp [first]
  · simp only [single, ne_eq, not_false_eq_true, if_true, if_false]
    induction line.batches with
    | nil => simp
    | cons batch rest ih =>
      rw [List.filterMap_cons, normalizeBatchRecord_eq]
      cases name : batchNumber line batch with
      | none => simpa [name] using ih
      | some own =>
        by_cases same : own = number
        · by_cases here : line.sessionId = session ∧ line.itemCode = item
          · simpa [name, same, here, BatchRecord.key] using ih
          · by_cases first : line.sessionId = session
            · have second : line.itemCode ≠ item := fun same => here ⟨first, same⟩
              simpa [name, same, first, second, BatchRecord.key] using ih
            · simpa [name, same, first, BatchRecord.key] using ih
        · simpa [name, same, BatchRecord.key] using ih

theorem mem_eventSerials {session item serial : String} :
    (session, item, serial) ∈ (eventSerials js event).map SerialRow.key ↔
      (event.payload.sessionId = session ∧ event.payload.itemCode = item) ∧ ∃ given,
        GivenSerial given event.payload ∧ js.upper (trim given) = serial ∧ serial ≠ "" := by
  simp only [eventSerials, extractSerials, List.map_map, List.mem_map, List.mem_filter, List.mem_append,
    List.mem_filterMap, id_eq, exists_eq_right, Function.comp_apply, SerialRow.key, serialRow, Prod.mk.injEq, bne_iff_ne]
  constructor
  · rintro ⟨_, ⟨⟨given, origin, rfl⟩, filled⟩, rfl, rfl, rfl⟩
    exact ⟨⟨rfl, rfl⟩, given, origin, rfl, filled⟩
  · rintro ⟨⟨rfl, rfl⟩, given, origin, rfl, filled⟩
    exact ⟨_, ⟨⟨given, origin, rfl⟩, filled⟩, rfl, rfl, rfl⟩

variable (records : List CountLineRecord)

theorem pairLines_append (line : CountLineRecord) (session item : String) :
    pairLines (records ++ [line]) session item =
      if line.sessionId = session ∧ line.itemCode = item then pairLines records session item ++ [line]
      else pairLines records session item := by
  rw [pairLines, List.filter_append]
  by_cases here : line.sessionId = session ∧ line.itemCode = item
  · simp [here, pairLines]
  · simp [here, pairLines]

/-- An applied event adds its line to every aggregate. -/
theorem LocalAggregates.applied (sound : LocalAggregates js db)
    (fresh : event.id ∉ db.countLineRecords.map (·.eventId)) (free : SerialsFree js event db) :
    LocalAggregates js (appliedDb js event db) := by
  have appended : (appliedDb js event db).countLineRecords =
      db.countLineRecords ++ [buildProjectedCountLineRecord event] := Table.put_fresh fresh
  constructor
  · intro session item
    rw [appended, pairLines_append]
    change (Table.find ItemSnapshot.key (Table.put ItemSnapshot.key _ _) (session, item)).map _ = _
    have totals := sound.snapshots session item
    rw [Table.find_put]
    change Option.map _ (if (event.payload.sessionId, event.payload.itemCode) = (session, item) then _ else _) =
      lineTotals js (if event.payload.sessionId = session ∧ event.payload.itemCode = item then _ else _)
    simp only [Prod.mk.injEq]
    by_cases here : event.payload.sessionId = session ∧ event.payload.itemCode = item
    · rw [if_pos here, if_pos here, lineTotals_append, ← totals]
      obtain ⟨rfl, rfl⟩ := here
      simp only [Option.map_some, Option.map_map]
      rfl
    · rw [if_neg here, if_neg here]
      exact totals
  · intro session item number
    rw [appended, pairLines_append]
    change storedQty (addBatches js db.batchRecords (toBatchRecords event.payload)) _ = _
    rw [storedQty_addBatches, sound.batches, toBatchRecords_counted, ← addedUp_append]
    change _ = addedUp js (List.flatMap _ (if event.payload.sessionId = session ∧ event.payload.itemCode = item then _
      else _))
    by_cases here : event.payload.sessionId = session ∧ event.payload.itemCode = item
    · rw [if_pos here, if_pos here, List.flatMap_append, List.flatMap_singleton]
      rfl
    · rw [if_neg here, if_neg here, List.append_nil]
  · intro session item serial
    rw [appended, pairLines_append]
    change _ ∈ (db.serialRegistry ++ eventSerials js event).map SerialRow.key ↔ ∃ line ∈
      if event.payload.sessionId = session ∧ event.payload.itemCode = item then _ else _, _
    rw [List.map_append, List.mem_append, sound.serials, mem_eventSerials]
    by_cases here : event.payload.sessionId = session ∧ event.payload.itemCode = item
    · simp only [here, and_self, true_and, if_true, List.mem_append, List.mem_singleton,
        or_and_right, exists_or, exists_eq_left]
      rfl
    · simp only [here, false_and, or_false, if_false]
  · exact free

def bareLine (record : CountLineRecord) : CountLineRecord :=
  { record with syncStatus := .pending, serverLineId := none }

theorem pairLines_bare (session item : String) :
    (pairLines records session item).map bareLine = pairLines (records.map bareLine) session item := by
  rw [pairLines, pairLines, List.filter_map]
  rfl

theorem lineTotals_bare (lines : List CountLineRecord) : lineTotals js (lines.map bareLine) = lineTotals js lines := by
  cases lines with
  | nil => rfl
  | cons first rest => simp [lineTotals, bareLine, Function.comp_def]

/-- The aggregates do not depend on the marks. -/
theorem LocalAggregates.marked (sound : LocalAggregates js db)
    (bare : t.countLineRecords.map bareLine = db.countLineRecords.map bareLine)
    (snapshots : t.itemsSnapshot = db.itemsSnapshot) (batches : t.batchRecords = db.batchRecords)
    (serials : t.serialRegistry = db.serialRegistry) : LocalAggregates js t := by
  have lines : ∀ session item, (pairLines t.countLineRecords session item).map bareLine =
      (pairLines db.countLineRecords session item).map bareLine := by
    intro session item
    rw [pairLines_bare, pairLines_bare, bare]
  constructor
  · intro session item
    rw [snapshots, sound.snapshots, ← lineTotals_bare, ← lines, lineTotals_bare]
  · intro session item number
    have same := congrArg (fun lines => addedUp js (lines.flatMap fun line => countedOfBatch number line.payloadJson))
      (lines session item)
    simp only [List.flatMap_map] at same
    rw [batches, sound.batches]
    exact same.symm
  · intro session item serial
    have same := congrArg (fun lines => ∃ line ∈ lines, ∃ given,
      GivenSerial given line.payloadJson ∧ js.upper (trim given) = serial ∧ serial ≠ "") (lines session item)
    simp only [List.mem_map, exists_exists_and_eq_and] at same
    rw [serials, sound.serials]
    exact (iff_of_eq same).symm
  · rw [serials]
    exact sound.once

def applyLineEvents (js : JsRuntime) (events : List LineEvent) (db : LocalDb) : LocalDb :=
  events.foldl (fun db event => appliedDb js event db) db

/-- The aggregates, with what a further event relies on: what is applied is what is recorded, and
every event stands once in the log. -/
structure LocalSound (js : JsRuntime) (db : LocalDb) : Prop where
  aggregates : LocalAggregates js db
  applied : db.eventApplied = db.countLineRecords.map (·.eventId)
  logged : ∀ id ∈ db.eventApplied, id ∈ db.inventoryEvents.map rowId
  distinct : (db.inventoryEvents.map rowId).Nodup

theorem LocalAggregates.empty (snapshots : db.itemsSnapshot = []) (batches : db.batchRecords = [])
    (serials : db.serialRegistry = []) (lines : db.countLineRecords = []) : LocalAggregates js db := by
  constructor
  · intro session item
    rw [snapshots, lines]
    rfl
  · intro session item batch
    rw [batches, lines]
    rfl
  · intro session item serial
    rw [serials, lines]
    simp [pairLines]
  · rw [serials]
    exact List.nodup_nil

theorem LocalSound.init : LocalSound js {} := by
  constructor
  · exact LocalAggregates.empty rfl rfl rfl rfl
  · rfl
  · intro id applied
    cases applied
  · exact List.nodup_nil

theorem LocalSound.applied_event (sound : LocalSound js db) (fresh : event.id ∉ db.eventApplied)
    (logged : event.id ∈ db.inventoryEvents.map rowId) (free : SerialsFree js event db) :
    LocalSound js (appliedDb js event db) := by
  have new : event.id ∉ db.countLineRecords.map (·.eventId) := by
    rw [← sound.applied]
    exact fresh
  have appended : (appliedDb js event db).countLineRecords =
      db.countLineRecords ++ [buildProjectedCountLineRecord event] := Table.put_fresh new
  constructor
  · exact sound.aggregates.applied new free
  · rw [appended, List.map_append, ← sound.applied]
    rfl
  · intro id applied
    rcases List.mem_append.mp applied with earlier | now
    · exact sound.logged id earlier
    · rw [List.mem_singleton.mp now]
      exact logged
  · exact sound.distinct

/-- What recording an event does: nothing where the event is known, and nothing where a serial
number is taken. -/
theorem recordInventoryEvent_ok (sound : LocalSound js db) {answer : Bool}
    (ran : recordInventoryEvent js event db = .ok answer t) : answer = false ∧ t = db ∨
      answer = true ∧ event.id ∉ db.inventoryEvents.map rowId ∧ SerialsFree js event db ∧
        t = appliedDb js event (logEvent event db) := by
  rw [recordInventoryEvent, transaction_ok, bind_ok] at ran
  obtain ⟨inserted, v, insert, ran⟩ := ran
  rw [insertInventoryEvent, transacts_ok] at insert
  by_cases known : event.id ∈ db.inventoryEvents.map rowId
  · left
    rw [if_pos (by exact known)] at insert
    cases insert
    obtain ⟨answered, same⟩ := pure_ok.mp ran
    exact ⟨answered.symm, same.symm⟩
  · right
    rw [if_neg (by exact known)] at insert
    cases insert
    rw [if_pos rfl, bind_ok] at ran
    obtain ⟨_, w, applied, ran⟩ := ran
    obtain ⟨rfl, rfl⟩ := pure_ok.mp ran
    rcases (applyInventoryEvent_ok (by exact sound.aggregates.once)).mp applied with
      ⟨earlier, _⟩ | ⟨_, _, free, rfl⟩
    · exact absurd (sound.logged _ earlier) known
    · exact ⟨rfl, known, free, rfl⟩

theorem recordInventoryEvent_final (event : LineEvent) (sound : LocalSound js db) :
    (recordInventoryEvent js event).final db = db ∨
      event.id ∉ db.inventoryEvents.map rowId ∧ SerialsFree js event db ∧
        (recordInventoryEvent js event).final db = appliedDb js event (logEvent event db) := by
  cases ran : recordInventoryEvent js event db with
  | error e t =>
    left
    rw [final, ran]
    exact transaction_error ran
  | ok answer t =>
    rw [final_of_ok ran]
    exact (recordInventoryEvent_ok sound ran).imp And.right And.right

theorem LocalSound.logEvent (sound : LocalSound js db)
    (fresh : event.id ∉ db.inventoryEvents.map rowId) : LocalSound js (logEvent event db) := by
  constructor
  · exact sound.aggregates.marked rfl rfl rfl rfl
  · exact sound.applied
  · intro id applied
    change id ∈ (db.inventoryEvents ++ _).map rowId
    rw [List.map_append, List.mem_append]
    exact .inl (sound.logged id applied)
  · change ((db.inventoryEvents ++ [_]).map rowId).Nodup
    rw [List.map_append, List.map_singleton, ← List.concat_eq_append]
    exact sound.distinct.concat fresh

theorem LocalSound.record (sound : LocalSound js db) :
    LocalSound js ((recordInventoryEvent js event).final db) := by
  rcases recordInventoryEvent_final event sound with same | ⟨fresh, free, applied⟩
  · rw [same]
    exact sound
  · rw [applied]
    apply (sound.logEvent fresh).applied_event
    · intro earlier
      exact fresh (sound.logged _ earlier)
    · change event.id ∈ (db.inventoryEvents ++ [_]).map rowId
      rw [List.map_append, List.mem_append]
      exact .inr (List.mem_singleton.mpr rfl)
    · exact free

/-- Events that are new apply one after another exactly if their serial numbers do not clash. -/
theorem applyLineEvents_ok (js : JsRuntime) {events : List LineEvent} (db : LocalDb) {u : PUnit}
    (distinct : (db.serialRegistry.map SerialRow.key).Nodup) (once : (events.map (·.id)).Nodup)
    (fresh : ∀ event ∈ events, event.id ∉ db.eventApplied) :
    (events.forM fun event => do let _ ← applyInventoryEvent js event) db = .ok u t ↔
      ((db.serialRegistry ++ events.flatMap (eventSerials js)).map SerialRow.key).Nodup ∧
        t = applyLineEvents js events db := by
  induction events generalizing db with
  | nil =>
    change (pure PUnit.unit : Statement PUnit) db = .ok u t ↔ _
    rw [pure_ok]
    simp only [List.flatMap_nil, List.append_nil, distinct, true_and, applyLineEvents, List.foldl_nil]
    exact eq_comm
  | cons event rest ih =>
    have step : applyLineEvents js (event :: rest) db =
        applyLineEvents js rest (appliedDb js event db) := rfl
    have all : db.serialRegistry ++ (event :: rest).flatMap (eventSerials js) =
        (appliedDb js event db).serialRegistry ++ rest.flatMap (eventSerials js) := by
      change _ = db.serialRegistry ++ eventSerials js event ++ _
      rw [List.flatMap_cons, List.append_assoc]
    have others : ∀ later ∈ rest, later.id ∉ (appliedDb js event db).eventApplied := by
      intro later member applied
      rcases List.mem_append.mp applied with earlier | now
      · exact fresh later (List.mem_cons_of_mem _ member) earlier
      · rw [List.map_cons, List.nodup_cons] at once
        apply once.1
        rw [← List.mem_singleton.mp now]
        exact List.mem_map_of_mem member
    have laterOnce : (rest.map (·.id)).Nodup := by
      rw [List.map_cons, List.nodup_cons] at once
      exact once.2
    change ((applyInventoryEvent js event >>= fun _ => pure PUnit.unit) >>= fun _ =>
      rest.forM fun event => do let _ ← applyInventoryEvent js event) db = .ok u t ↔ _
    rw [step, all]
    constructor
    · intro ran
      obtain ⟨_, v, first, later⟩ := bind_ok.mp ran
      obtain ⟨_, w, applied, done⟩ := bind_ok.mp first
      obtain ⟨_, rfl⟩ := pure_ok.mp done
      rcases (applyInventoryEvent_ok distinct).mp applied with ⟨earlier, _⟩ | ⟨_, _, free, rfl⟩
      · exact absurd earlier (fresh event (List.mem_cons_self ..))
      · exact (ih _ (by exact free) laterOnce others).mp later
    · rintro ⟨free, rfl⟩
      have first : SerialsFree js event db := by
        rw [List.map_append] at free
        exact (List.nodup_append.mp free).1
      apply bind_ok.mpr
      refine ⟨PUnit.unit, appliedDb js event db, ?_, (ih _ (by exact first) laterOnce others).mpr ⟨free, rfl⟩⟩
      apply bind_ok.mpr
      refine ⟨true, appliedDb js event db, ?_, pure_ok.mpr ⟨rfl, rfl⟩⟩
      exact (applyInventoryEvent_ok distinct).mpr (.inr ⟨fresh event (List.mem_cons_self ..), rfl, first, rfl⟩)

theorem LocalSound.applyLineEvents {events : List LineEvent} (sound : LocalSound js db)
    (once : (events.map (·.id)).Nodup) (fresh : ∀ event ∈ events, event.id ∉ db.eventApplied)
    (logged : ∀ event ∈ events, event.id ∈ db.inventoryEvents.map rowId)
    (free : ((db.serialRegistry ++ events.flatMap (eventSerials js)).map SerialRow.key).Nodup) :
    LocalSound js (applyLineEvents js events db) := by
  induction events generalizing db with
  | nil => exact sound
  | cons event rest ih =>
    rw [List.map_cons, List.nodup_cons] at once
    rw [List.flatMap_cons, ← List.append_assoc] at free
    have first : SerialsFree js event db := by
      rw [List.map_append] at free
      exact (List.nodup_append.mp free).1
    change LocalSound js (StockVerification.applyLineEvents js rest (appliedDb js event db))
    apply ih
    · exact sound.applied_event (fresh event (List.mem_cons_self ..)) (logged event (List.mem_cons_self ..)) first
    · exact once.2
    · intro later member applied
      rcases List.mem_append.mp applied with earlier | now
      · exact fresh later (List.mem_cons_of_mem _ member) earlier
      · apply once.1
        rw [← List.mem_singleton.mp now]
        exact List.mem_map_of_mem member
    · intro later member
      exact logged later (List.mem_cons_of_mem _ member)
    · exact free

/-- The serial numbers of the events that were not rejected clash. -/
def SerialsClash (js : JsRuntime) (db : LocalDb) : Prop :=
  ¬ (((liveEvents db).flatMap (eventSerials js)).map SerialRow.key).Nodup

def rebuiltDb (js : JsRuntime) (db : LocalDb) : LocalDb :=
  applyLineEvents js (liveEvents db) (clearProjections db)

theorem mem_liveEvents :
    event ∈ liveEvents db ↔ ∃ row ∈ db.inventoryEvents, row.syncStatus ≠ .failed ∧ row.event = event := by
  rw [liveEvents, List.mem_mergeSort, List.mem_map]
  simp only [List.mem_filter, bne_iff_ne, ne_eq, and_assoc]

theorem liveEvents_once (distinct : (db.inventoryEvents.map rowId).Nodup) : ((liveEvents db).map (·.id)).Nodup := by
  have sorted := List.mergeSort_perm
    ((db.inventoryEvents.filter fun row => row.syncStatus != .failed).map (·.event)) fun a b => decide (a.ts ≤ b.ts)
  rw [liveEvents, (sorted.map _).nodup_iff, List.map_map]
  exact distinct.sublist (List.Sublist.map _ List.filter_sublist)

theorem liveEvents_logged (live : event ∈ liveEvents db) : event.id ∈ db.inventoryEvents.map rowId := by
  obtain ⟨row, member, _, rfl⟩ := mem_liveEvents.mp live
  exact List.mem_map_of_mem member

/-- What a rebuild does. -/
theorem rebuild_final (js : JsRuntime) (distinct : (db.inventoryEvents.map rowId).Nodup) :
    SerialsClash js db ∧ (rebuildInventoryProjections js).final db = db ∨
      ¬ SerialsClash js db ∧ (rebuildInventoryProjections js).final db = rebuiltDb js db := by
  have replay : ∀ u t, (rebuildInventoryProjections js db = .ok u t ↔
      ¬ SerialsClash js db ∧ t = rebuiltDb js db) := by
    intro u t
    have loop := applyLineEvents_ok js (clearProjections db) (t := t) (u := u)
      List.nodup_nil (liveEvents_once distinct) (fun _ _ applied => nomatch applied)
    rw [rebuildInventoryProjections, transaction_ok]
    rw [SerialsClash, not_not]
    constructor
    · intro ran
      obtain ⟨_, v, cleared, ran⟩ := bind_ok.mp ran
      cases writes_ok.mp cleared
      obtain ⟨_, w, listed, ran⟩ := bind_ok.mp ran
      obtain ⟨listed, rfl⟩ := reads_ok.mp listed
      cases listed
      exact loop.mp ran
    · intro both
      apply bind_ok.mpr
      refine ⟨(), clearProjections db, writes_ok.mpr rfl, ?_⟩
      apply bind_ok.mpr
      exact ⟨liveEvents db, clearProjections db, reads_ok.mpr ⟨rfl, rfl⟩, loop.mpr both⟩
  cases ran : rebuildInventoryProjections js db with
  | ok u t =>
    right
    obtain ⟨free, rfl⟩ := (replay u t).mp ran
    exact ⟨free, final_of_ok ran⟩
  | error e t =>
    left
    constructor
    · by_contra free
      rw [(replay () _).mpr ⟨free, rfl⟩] at ran
      cases ran
    · rw [final, ran]
      exact transaction_error ran

theorem LocalSound.rebuild (sound : LocalSound js db) :
    LocalSound js ((rebuildInventoryProjections js).final db) := by
  rcases rebuild_final js sound.distinct with ⟨_, same⟩ | ⟨free, rebuilt⟩
  · rw [same]
    exact sound
  · rw [rebuilt]
    have cleared : LocalSound js (clearProjections db) := by
      constructor
      · exact LocalAggregates.empty rfl rfl rfl rfl
      · rfl
      · intro id applied
        cases applied
      · exact sound.distinct
    apply cleared.applyLineEvents
    · exact liveEvents_once sound.distinct
    · intro event _ applied
      cases applied
    · intro event live
      exact liveEvents_logged live
    · exact not_not.mp free

/-- The calls on the local tables. -/
inductive LocalOp where
  | record (event : LineEvent)
  | synced (eventId : String)
  | bind (eventId : String) (serverLineId : Option String)
  | retry (eventId errorMessage : String)
  | failed (eventId errorMessage : String)
  | rebuild

def LocalOp.statement (js : JsRuntime) : LocalOp → Statement Unit
  | .record event => do
    let _ ← recordInventoryEvent js event
  | .synced eventId => markInventoryEventSynced eventId
  | .bind eventId serverLineId => bindInventoryServerLineId eventId serverLineId
  | .retry eventId errorMessage => markInventoryEventRetry eventId errorMessage
  | .failed eventId errorMessage => markInventoryEventFailed eventId errorMessage
  | .rebuild => rebuildInventoryProjections js

def LocalDb.step (js : JsRuntime) (db : LocalDb) (op : LocalOp) : LocalDb :=
  (op.statement js).final db

/-- A call that only marks: the log keeps its events, and the lines are the same but for the
marks. -/
structure OnlyMarks (db t : LocalDb) : Prop where
  events : t.inventoryEvents.map (·.event) = db.inventoryEvents.map (·.event)
  lines : t.countLineRecords.map bareLine = db.countLineRecords.map bareLine
  applied : t.eventApplied = db.eventApplied
  snapshots : t.itemsSnapshot = db.itemsSnapshot
  batches : t.batchRecords = db.batchRecords
  serials : t.serialRegistry = db.serialRegistry

variable (eventId : String)

theorem onlyMarks_event (status : EventStatus) (error : Option String) (retried : Bool)
    (db : LocalDb) : OnlyMarks db (markInventoryEvent eventId status error retried db) := by
  constructor
  · apply Table.map_modify
    intro row
    rfl
  all_goals rfl

theorem onlyMarks_record (status : EventStatus) (db : LocalDb) :
    OnlyMarks db (markRecord eventId status db) := by
  constructor
  · rfl
  · apply Table.map_modify
    intro record
    rfl
  all_goals rfl

theorem OnlyMarks.trans {s : LocalDb} (first : OnlyMarks db s) (second : OnlyMarks s t) : OnlyMarks db t where
  events := second.events.trans first.events
  lines := second.lines.trans first.lines
  applied := second.applied.trans first.applied
  snapshots := second.snapshots.trans first.snapshots
  batches := second.batches.trans first.batches
  serials := second.serials.trans first.serials

theorem onlyMarks_bind (serverLineId : Option String) (db : LocalDb) :
    OnlyMarks db ((bindInventoryServerLineId eventId serverLineId).final db) := by
  have unbound : OnlyMarks db db := ⟨rfl, rfl, rfl, rfl, rfl, rfl⟩
  unfold bindInventoryServerLineId
  split
  · exact unbound
  · exact unbound
  · constructor
    · rfl
    · apply Table.map_modify
      intro record
      rfl
    all_goals rfl

/-- Every call records, rebuilds or only marks. -/
theorem LocalDb.step_cases (js : JsRuntime) (db : LocalDb) (op : LocalOp) :
    (∃ event, op = .record event ∧ db.step js op = (recordInventoryEvent js event).final db) ∨
      op = .rebuild ∧ db.step js op = (rebuildInventoryProjections js).final db ∨
      OnlyMarks db (db.step js op) := by
  cases op with
  | record event =>
    refine .inl ⟨event, rfl, ?_⟩
    rcases final_bind (recordInventoryEvent js event) (fun _ => (pure () : Statement Unit)) db with
      ⟨answer, t, ran, after⟩ | after
    · rw [final_of_ok ran]
      exact after
    · exact after
  | rebuild => exact .inr (.inl ⟨rfl, rfl⟩)
  | synced eventId | retry eventId errorMessage => exact .inr (.inr ((onlyMarks_event ..).trans (onlyMarks_record ..)))
  | failed eventId errorMessage => exact .inr (.inr (onlyMarks_event ..))
  | bind eventId serverLineId => exact .inr (.inr (onlyMarks_bind ..))

theorem map_rowId (rows : List LineEventRow) : rows.map rowId = (rows.map (·.event)).map (·.id) := by
  rw [List.map_map]
  rfl

theorem map_eventId :
    records.map (·.eventId) = (records.map bareLine).map (·.eventId) := by
  rw [List.map_map]
  rfl

theorem LocalSound.marked (sound : LocalSound js db) (marks : OnlyMarks db t) : LocalSound js t := by
  have ids : t.inventoryEvents.map rowId = db.inventoryEvents.map rowId := by
    rw [map_rowId, marks.events, ← map_rowId]
  constructor
  · exact sound.aggregates.marked marks.lines marks.snapshots marks.batches marks.serials
  · rw [marks.applied, sound.applied, map_eventId, ← marks.lines, ← map_eventId]
  · rw [marks.applied, ids]
    exact sound.logged
  · rw [ids]
    exact sound.distinct

theorem LocalSound.step (sound : LocalSound js db) (op : LocalOp) : LocalSound js (db.step js op) := by
  rcases db.step_cases js op with ⟨event, _, recorded⟩ | ⟨_, rebuilt⟩ | marks
  · rw [recorded]
    exact sound.record
  · rw [rebuilt]
    exact sound.rebuild
  · exact sound.marked marks

abbrev LocalReaches (js : JsRuntime) : LocalDb → Prop :=
  Reaches (LocalDb.step js) (fun _ _ => True) {}

theorem LocalSound.reaches (run : LocalReaches js db) : LocalSound js db :=
  run.invariant LocalSound.init fun _ op sound _ => sound.step op

/-- After any calls the tables are the aggregates of the recorded lines. A recording adds its line
unless the event is known, and one that fails leaves every table as it is. -/
theorem localTables_aggregate (js : JsRuntime) (db : LocalDb) (run : LocalReaches js db) :
    LocalAggregates js db ∧
      (∀ event answer after, recordInventoryEvent js event db = .ok answer after →
        if answer then after.countLineRecords = db.countLineRecords ++ [buildProjectedCountLineRecord event]
        else after = db) ∧
      ∀ event error after, recordInventoryEvent js event db = .error error after → after = db := by
  have sound := LocalSound.reaches run
  refine ⟨sound.aggregates, fun event answer after recorded => ?_, fun event error after failed => ?_⟩
  · rcases recordInventoryEvent_ok sound recorded with ⟨rfl, same⟩ | ⟨rfl, fresh, _, rfl⟩
    · exact same
    · refine Table.put_fresh fun taken => fresh (sound.logged _ ?_)
      rw [sound.applied]
      exact taken
  · exact transaction_error failed

def sampleLine (id serial : String) : LineEvent where
  id := id
  ts := 0
  payload :=
    { sessionId := "s", itemCode := "i", countedQty := 2, countedBy := "u", countedAt := "t"
      batches := [{ batchNo := some "", barcode := some "b", quantity := some (1 / 10) }]
      serialNumbers := [serial], serialEntries := [none, some (serial ++ "-2")] }

def sampleLocalRun : List LocalOp :=
  [.record (sampleLine "a" "n"), .record (sampleLine "b" "n"), .synced "a", .bind "a" (some "1"),
    .rebuild, .record (sampleLine "c" "m")]

def jsDoubles : JsRuntime := ⟨Text.upper, nearestDouble⟩

/-- The second recording fails on its serial number. -/
theorem localTables_aggregate_sample :
    LocalAggregates jsDoubles (sampleLocalRun.foldl (LocalDb.step jsDoubles) {}) ∧
      (sampleLocalRun.foldl (LocalDb.step jsDoubles) {}).countLineRecords.map (·.eventId) = ["a", "c"] ∧
      (recordInventoryEvent jsDoubles (sampleLine "b" "n")).succeeds (sampleLocalRun.foldl (LocalDb.step jsDoubles) {}) =
        false := by
  refine ⟨?_, by decide +kernel, by decide +kernel⟩
  exact (localTables_aggregate jsDoubles _ (Reaches.foldl fun _ _ _ => trivial)).1

end StockVerification
