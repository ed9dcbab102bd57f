import StockVerification.EventMirror
import StockVerification.ProjectionReplay

/-!
# Projections and live lines

The count of an item in the projections is the sum of the increments of its events, and the
count of the live lines is the sum over the lines that are not superseded. A mirrored change
keeps the two equal where every change of a quantity becomes exactly one new event. No event
tells that a line was superseded, a change that also verifies the line is counted twice, and
an event whose key or fingerprint is known is dropped.

The router returns no verified flag on either route; the flags of the projections are those
of `verified_items_projection`.
-/
namespace StockVerification

open Foundation Foundation.Action Projection

def snapshotTotal (p : Projections) (sessionId itemCode : String) : ℚ :=
  asFloat ((found p .itemsSnapshot (itemIs sessionId itemCode)).get "counted_qty")

def projectedFlag (p : Projections) (lineId : String) : Option Value :=
  ((p .verifiedItems).find? (lineIs lineId).holds).map (·.get "verified")

def lineFlag (line : Doc) : Bool :=
  (line.get "verified").truthy || Text.upper (line.get "approval_status").textOrEmpty == "APPROVED"

/-- The rows of items and lines stand under texts. -/
structure KeyedRows (p : Projections) : Prop where
  items : ∀ row ∈ p .itemsSnapshot, ∃ sessionId itemCode,
    row "session_id" = some (.str sessionId) ∧ row "item_code" = some (.str itemCode)
  lines : ∀ row ∈ p .verifiedItems, ∃ lineId, row "count_line_id" = some (.str lineId)

theorem normalizeString_ne_empty {s : String} (plain : normalizeString (.str s) = some s) : s ≠ "" := by
  rintro rfl
  revert plain
  decide +kernel

variable {itemCode sessionId : String} {row : Doc}

theorem itemIs_holds (session : row "session_id" = some (.str sessionId))
    (code : row "item_code" = some (.str itemCode)) (askedSession askedCode : String) :
    (itemIs askedSession askedCode).holds row = (sessionId == askedSession && itemCode == askedCode) := by
  simp only [itemIs, sessionIs, Filter.holds, Filter.fieldIs_str session, Filter.fieldIs_str code]

variable {lineId : String}

theorem lineIs_holds (stored : row "count_line_id" = some (.str lineId)) (asked : String) :
    (lineIs asked).holds row = (lineId == asked) := by
  simp only [lineIs, Filter.holds, Filter.fieldIs_str stored]

variable {p : Projections}

theorem key_of_itemIs (keyed : KeyedRows p) (member : row ∈ p .itemsSnapshot)
    (matched : (itemIs sessionId itemCode).holds row = true) :
    row "session_id" = some (.str sessionId) ∧ row "item_code" = some (.str itemCode) := by
  obtain ⟨s, i, session, code⟩ := keyed.items row member
  rw [itemIs_holds session code, Bool.and_eq_true, beq_iff_eq, beq_iff_eq] at matched
  rw [← matched.1, ← matched.2]
  exact ⟨session, code⟩

section

variable {e : ProjectionEvent} {line : Doc} {item : EventItem} {delta : EventDelta}

/-- The update of the item row sets its key and increments its count. -/
theorem snapshotUpdate_applied {old new : Doc}
    (applied : Update.apply
      { set := snapshotFields e line item
        inc := [("counted_qty", delta.counted), ("damaged_qty", delta.damaged),
          ("serial_count", (delta.serials : ℚ))] } old = some new) :
    new "session_id" = some (.str item.sessionId) ∧ new "item_code" = some (.str item.itemCode) ∧
      asFloat (new.get "counted_qty") = asFloat (old.get "counted_qty") + delta.counted := by
  refine ⟨Update.apply_set applied (by simp [snapshotFields]),
    Update.apply_set applied (by simp [snapshotFields]), ?_⟩
  have incremented : ([("counted_qty", delta.counted), ("damaged_qty", delta.damaged),
      ("serial_count", (delta.serials : ℚ))] : List (String × ℚ)) =
      [] ++ ("counted_qty", delta.counted) :: [("damaged_qty", delta.damaged),
        ("serial_count", (delta.serials : ℚ))] := rfl
  obtain ⟨q, start, grown⟩ := Update.apply_inc applied incremented (by simp) (by simp)
  have before : asFloat (old.get "counted_qty") = q := by
    rcases start with ⟨absent, rfl⟩ | present
    · rw [Doc.get_eq, absent]
      rfl
    · rw [Doc.get_of_some present]
      rfl
  rw [Doc.get_of_some grown, before]
  rfl

/-- The write of the item row: the row of the item grows by the increment, and no other row
changes. -/
theorem snapshotWrite_effect {q : Projections} (counts : eventDelta e line = some delta)
    (keyed : KeyedRows p) (ran : (snapshotWrite e line item).run p = some q) :
    KeyedRows q ∧ ∀ sessionId itemCode, snapshotTotal q sessionId itemCode = snapshotTotal p sessionId itemCode +
        if sessionId = item.sessionId ∧ itemCode = item.itemCode then delta.counted else 0 := by
  simp only [snapshotWrite, RowWrite.run, counts] at ran
  obtain ⟨rows, stored, rfl⟩ := Option.map_eq_some_iff.mp ran
  constructor
  · constructor
    · intro row member
      rw [Tables.put_same] at member
      rcases Collection.mem_upsertOne stored member with stays | ⟨old, _, applied⟩
      · exact keyed.items row stays
      · obtain ⟨session, code, _⟩ := snapshotUpdate_applied applied
        exact ⟨item.sessionId, item.itemCode, session, code⟩
    · intro row member
      rw [Tables.put_other p rows (by decide)] at member
      exact keyed.lines row member
  · intro sessionId itemCode
    by_cases asked : sessionId = item.sessionId ∧ itemCode = item.itemCode
    · obtain ⟨rfl, rfl⟩ := asked
      rw [if_pos ⟨rfl, rfl⟩]
      obtain ⟨new, applied, foundNew⟩ := Collection.upsertOne_find stored (fun old new applied => by
        obtain ⟨session, code, _⟩ := snapshotUpdate_applied applied
        rw [itemIs_holds session code]
        simp)
      have grown := (snapshotUpdate_applied applied).2.2
      rw [snapshotTotal, found, Tables.put_same, foundNew, Option.getD_some, grown, snapshotTotal, found]
      cases (p .itemsSnapshot).find? (itemIs item.sessionId item.itemCode).holds with
      | none => rfl
      | some old => rfl
    · rw [if_neg asked, add_zero, snapshotTotal, snapshotTotal, found, found, Tables.put_same]
      have differs : (item.sessionId == sessionId && item.itemCode == itemCode) = false := by
        rw [← Bool.not_eq_true, Bool.and_eq_true, beq_iff_eq, beq_iff_eq]
        rintro ⟨rfl, rfl⟩
        exact asked ⟨rfl, rfl⟩
      rw [Collection.upsertOne_find_other stored]
      · intro d member matched
        obtain ⟨session, code⟩ := key_of_itemIs keyed member matched
        rw [itemIs_holds session code, differs]
      · intro old new applied
        obtain ⟨session, code, _⟩ := snapshotUpdate_applied applied
        rw [itemIs_holds session code, differs]

end

variable {e : ProjectionEvent} {q : Projections}

/-- The write of a line's row: the flag of the line is the new one, and no other flag
changes. -/
theorem verifiedWrite_effect {line : Doc} (keyed : KeyedRows p)
    (ran : (verifiedWrite e line lineId sessionId itemCode).run p = some q) :
    KeyedRows q ∧ projectedFlag q lineId = some (.bool (lineFlag line)) ∧
      ∀ other, other ≠ lineId → projectedFlag q other = projectedFlag p other := by
  simp only [verifiedWrite, RowWrite.run] at ran
  obtain ⟨rows, stored, rfl⟩ := Option.map_eq_some_iff.mp ran
  have stamps : ∀ old new : Doc, Update.apply (.ofSet (verifiedDoc e line lineId sessionId itemCode
      (found p .sessionDashboard (sessionIs sessionId)))) old = some new →
      new "count_line_id" = some (.str lineId) ∧ new "verified" = some (.bool (lineFlag line)) := by
    intro old new applied
    exact ⟨Update.apply_set applied (by simp [Update.ofSet, verifiedDoc]),
      Update.apply_set applied (by simp [Update.ofSet, verifiedDoc, lineFlag])⟩
  refine ⟨⟨?_, ?_⟩, ?_, ?_⟩
  · intro row member
    rw [Tables.put_other p rows (by decide)] at member
    exact keyed.items row member
  · intro row member
    rw [Tables.put_same] at member
    rcases Collection.mem_upsertOne stored member with stays | ⟨old, _, applied⟩
    · exact keyed.lines row stays
    · exact ⟨lineId, (stamps old row applied).1⟩
  · obtain ⟨new, applied, foundNew⟩ := Collection.upsertOne_find stored (fun old new applied => by
      rw [lineIs_holds (stamps old new applied).1]
      simp)
    rw [projectedFlag, Tables.put_same, foundNew, Option.map_some, Doc.get_of_some (stamps _ new applied).2]
  · intro other differs
    rw [projectedFlag, projectedFlag, Tables.put_same, Collection.upsertOne_find_other stored]
    · intro d member matched
      obtain ⟨known, named⟩ := keyed.lines d member
      rw [lineIs_holds named, beq_iff_eq] at matched
      rw [lineIs_holds named, matched]
      simpa using differs.symm
    · intro old new applied
      rw [lineIs_holds (stamps old new applied).1]
      simpa using differs.symm

/-- The deletion of a line's row changes no other flag. -/
theorem deleteLine_effect (keyed : KeyedRows p) :
    KeyedRows (p.put .verifiedItems (Collection.deleteOne (lineIs lineId) (p .verifiedItems))) ∧
    ∀ other, other ≠ lineId → projectedFlag
      (p.put .verifiedItems (Collection.deleteOne (lineIs lineId) (p .verifiedItems))) other =
        projectedFlag p other := by
  refine ⟨⟨?_, ?_⟩, ?_⟩
  · intro row member
    rw [Tables.put_other p _ (by decide)] at member
    exact keyed.items row member
  · intro row member
    rw [Tables.put_same] at member
    exact keyed.lines row (List.mem_of_mem_eraseP member)
  · intro other differs
    rw [projectedFlag, projectedFlag, Tables.put_same, Collection.deleteOne, Collection.find_eraseP_other]
    intro d member matched
    obtain ⟨known, named⟩ := keyed.lines d member
    rw [lineIs_holds named, beq_iff_eq] at matched
    rw [lineIs_holds named, matched]
    simpa using differs.symm

/-- The parts of the projections that are read do not change. -/
structure SameViews (p q : Projections) : Prop where
  items : q .itemsSnapshot = p .itemsSnapshot
  lines : q .verifiedItems = p .verifiedItems

section

variable (same : SameViews p q)
include same

theorem SameViews.keyed (keyed : KeyedRows p) : KeyedRows q := by
  constructor
  · rw [same.items]
    exact keyed.items
  · rw [same.lines]
    exact keyed.lines

theorem SameViews.total (sessionId itemCode : String) :
    snapshotTotal q sessionId itemCode = snapshotTotal p sessionId itemCode := by
  rw [snapshotTotal, snapshotTotal, found, found, same.items]

theorem SameViews.flag (lineId : String) : projectedFlag q lineId = projectedFlag p lineId := by
  rw [projectedFlag, projectedFlag, same.lines]

end

theorem sameViews_of_tables {writes : List Write} (ran : RowWrite.runAll writes p = some q)
    (others : ∀ w ∈ writes, w.table ≠ .itemsSnapshot ∧ w.table ≠ .verifiedItems) : SameViews p q :=
  ⟨RowWrite.runAll_other ran fun w member => (others w member).1.symm,
    RowWrite.runAll_other ran fun w member => (others w member).2.symm⟩

structure MirroredEvent (e : ProjectionEvent) (line : Doc) (lineId sessionId itemCode : String)
    (counted : ℚ) : Prop where
  held : e.payload.line = some line
  named : lineIdentifier line = some lineId
  session : e.lineSession line = some sessionId
  item : ∃ item, eventItem e line = some item ∧ item.sessionId = sessionId ∧ item.itemCode = itemCode
  counts : ∃ delta, eventDelta e line = some delta ∧ delta.counted = counted
  code : normalizeString ((line.get "item_code").orElse (e.field "item_id")) = some itemCode

/-- What an event does to the views: the count of its item grows, and the flag of its line
is the line's. -/
structure EventEffect (e : ProjectionEvent) (line : Doc) (lineId sessionId itemCode : String)
    (counted : ℚ) (p q : Projections) : Prop where
  keyed : KeyedRows q
  total : ∀ s i, snapshotTotal q s i = snapshotTotal p s i + if s = sessionId ∧ i = itemCode then counted else 0
  flag : isRemoval e line = false → projectedFlag q lineId = some (.bool (lineFlag line))
  others : ∀ other, other ≠ lineId → projectedFlag q other = projectedFlag p other

section MirroredEvents

variable {line : Doc} {counted : ℚ}

section

variable (mirrored : MirroredEvent e line lineId sessionId itemCode counted)
include mirrored

theorem projectVerifiedItem_eq : projectVerifiedItem e = verifiedItemWrites e line lineId sessionId := by
  simp only [projectVerifiedItem, mirrored.held, mirrored.named, mirrored.session, Option.some_or]

/-- The row of the line alone. -/
theorem projectVerifiedItem_effect (keyed : KeyedRows p) (ran : RowWrite.runAll (projectVerifiedItem e) p = some q) :
    EventEffect e line lineId sessionId itemCode 0 p q := by
  rw [projectVerifiedItem_eq mirrored, verifiedItemWrites, mirrored.code] at ran
  have unchanged : ∀ t : Projections, t .itemsSnapshot = p .itemsSnapshot →
      ∀ s i, snapshotTotal t s i = snapshotTotal p s i + if s = sessionId ∧ i = itemCode then (0 : ℚ) else 0 := by
    intro t same s i
    rw [ite_self, add_zero, snapshotTotal, snapshotTotal, found, found, same]
  by_cases removal : isRemoval e line = true
  · rw [if_pos removal, RowWrite.runAll_cons, Option.bind_eq_some_iff] at ran
    obtain ⟨middle, ⟨⟩, rest⟩ := ran
    obtain ⟨keyedNow, others⟩ := deleteLine_effect keyed
    have same := sameViews_of_tables rest (by simp [RowWrite.table, refreshSessionDashboard, refreshFinancial])
    refine ⟨same.keyed keyedNow, unchanged q ?_, fun kept => ?_, fun other differs => ?_⟩
    · rw [same.items]
      exact Tables.put_other p _ (by decide)
    · rw [removal] at kept
      cases kept
    · rw [same.flag, others other differs]
  · rw [if_neg removal, RowWrite.runAll_cons, Option.bind_eq_some_iff] at ran
    obtain ⟨middle, first, rest⟩ := ran
    obtain ⟨keyedNow, flag, others⟩ := verifiedWrite_effect keyed first
    have summaryTable : (summaryWrite e line lineId sessionId itemCode).table = .varianceSummary := by
      unfold summaryWrite
      split <;> rfl
    have same := sameViews_of_tables rest (by
      simp [summaryTable]
      simp [RowWrite.table, refreshSessionDashboard, refreshFinancial])
    refine ⟨same.keyed keyedNow, unchanged q ?_, fun _ => ?_, fun other differs => ?_⟩
    · rw [same.items]
      have elsewhere : ProjectionCollection.itemsSnapshot ≠ .verifiedItems := by decide
      exact RowWrite.run_other first elsewhere
    · rw [same.flag, flag]
    · rw [same.flag, others other differs]

theorem projectLog_effect (keyed : KeyedRows p) {target : ProjectionCollection} {key : String}
    {details : Doc → List (String × Value)} (elsewhere : target ≠ .itemsSnapshot ∧ target ≠ .verifiedItems)
    {eventId : String} (identified : e.eventId = some eventId)
    (ran : RowWrite.runAll (projectLog e target key details) p = some q) :
    EventEffect e line lineId sessionId itemCode 0 p q := by
  simp only [projectLog, mirrored.held, identified] at ran
  rw [RowWrite.runAll_cons, Option.bind_eq_some_iff] at ran
  obtain ⟨middle, first, rest⟩ := ran
  have same : SameViews p middle :=
    ⟨RowWrite.run_other first elsewhere.1.symm, RowWrite.run_other first elsewhere.2.symm⟩
  have effect := projectVerifiedItem_effect mirrored (same.keyed keyed) rest
  refine ⟨effect.keyed, fun s i => ?_, effect.flag, fun other differs => ?_⟩
  · rw [effect.total, same.total]
  · rw [effect.others other differs, same.flag]

end

theorem batchWrite_table {item : EventItem} {before after : List BatchState} {batchId : String} {w : Write}
    (changed : batchWrite e line item before after batchId = some w) : w.table = .batchRecords := by
  unfold batchWrite at changed
  simp only at changed
  split at changed
  · cases changed
  · cases changed
    rfl

/-- The collections an inventory event writes between the item row and the line's row. -/
def betweenTables : List ProjectionCollection :=
  [.batchRecords, .serialRecords, .serialRegistry, .itemSerials, .erpSnapshot]

section

variable {item : EventItem} {w : Write}
  (member : w ∈ batchWrites e line item ++ serialWrites e line item ++ [erpWrite e line item])
include member

theorem inventory_tables : w.table ∈ betweenTables := by
  simp only [List.mem_append, List.mem_singleton] at member
  rcases member with (batched | serialized) | rfl
  · obtain ⟨batchId, _, changed⟩ := List.mem_filterMap.mp batched
    rw [batchWrite_table changed]
    decide
  · have tables : ∀ target ∈ serialTables, target.1 ∈ betweenTables := by decide
    simp only [serialWrites, List.mem_append, List.mem_flatMap, List.mem_map] at serialized
    rcases serialized with ⟨serial, _, target, into, rfl⟩ | ⟨serial, _, target, into, rfl⟩
    · exact tables target into
    · exact tables target into
  · have table : (erpWrite e line item).table = .erpSnapshot := rfl
    rw [table]
    decide

theorem inventory_between : w.table ≠ .itemsSnapshot ∧ w.table ≠ .verifiedItems := by
  have elsewhere : ∀ table ∈ betweenTables, table ≠ .itemsSnapshot ∧ table ≠ .verifiedItems := by decide
  exact elsewhere w.table (inventory_tables member)

end

/-- Inventory events count. -/
theorem projectInventory_effect (mirrored : MirroredEvent e line lineId sessionId itemCode counted)
    (keyed : KeyedRows p) (ran : RowWrite.runAll (projectInventoryEvent e) p = some q) :
    EventEffect e line lineId sessionId itemCode counted p q := by
  obtain ⟨item, about, rfl, rfl⟩ := mirrored.item
  obtain ⟨delta, counts, rfl⟩ := mirrored.counts
  simp only [projectInventoryEvent, mirrored.held, about, List.append_assoc, List.cons_append, List.nil_append] at ran
  rw [RowWrite.runAll_cons, Option.bind_eq_some_iff] at ran
  obtain ⟨first, wrote, ran⟩ := ran
  obtain ⟨keyedFirst, total⟩ := snapshotWrite_effect counts keyed wrote
  have grouped : batchWrites e line item ++ (serialWrites e line item ++ erpWrite e line item ::
      projectVerifiedItem e) = batchWrites e line item ++ serialWrites e line item ++
        [erpWrite e line item] ++ projectVerifiedItem e := by
    simp only [List.append_assoc, List.cons_append, List.nil_append]
  rw [grouped, RowWrite.runAll_append, Option.bind_eq_some_iff] at ran
  obtain ⟨middle, between, last⟩ := ran
  have same := sameViews_of_tables between fun w member => inventory_between member
  have effect := projectVerifiedItem_effect mirrored (same.keyed keyedFirst) last
  refine ⟨effect.keyed, fun s i => ?_, effect.flag, fun other differs => ?_⟩
  · rw [effect.total, same.total, total, ite_self, add_zero]
  · rw [effect.others other differs, same.flag, projectedFlag, projectedFlag]
    have elsewhere : ProjectionCollection.verifiedItems ≠ .itemsSnapshot := by decide
    rw [RowWrite.run_other wrote elsewhere]

end MirroredEvents

def countingTypes : List String :=
  ["SCAN_ADDED", "QUANTITY_ADJUSTED", "COUNT_LINE_REMOVED", "COUNT_VERIFIED", "COUNT_UNVERIFIED"]

def loggedTypes : List String :=
  ["VARIANCE_DETECTED", "DAMAGE_MARKED", "APPROVAL_GRANTED", "RECOUNT_REQUESTED"]

theorem eventWrites_counting (listed : e.eventType ∈ countingTypes) :
    inventoryEvents.contains e.kind = true ∧ eventWrites e = projectInventoryEvent e := by
  have kinds : ∀ eventType ∈ countingTypes, sessionEvents.contains (Text.upper (Text.strip eventType)) = false ∧
        inventoryEvents.contains (Text.upper (Text.strip eventType)) = true := by
    decide +kernel
  obtain ⟨noSession, inventory⟩ := kinds e.eventType listed
  refine ⟨inventory, ?_⟩
  rw [eventWrites, ProjectionEvent.kind, noSession, inventory]
  rfl

/-- A logged event goes to one of the logs. -/
theorem eventWrites_logged (listed : e.eventType ∈ loggedTypes) :
    eventWrites e = projectDamageLog e ∨ eventWrites e = projectVarianceLog e ∨
      eventWrites e = projectApproval e := by
  have kinds : ∀ eventType ∈ loggedTypes, sessionEvents.contains (Text.upper (Text.strip eventType)) = false ∧
        inventoryEvents.contains (Text.upper (Text.strip eventType)) = false ∧
        (Text.upper (Text.strip eventType) = "DAMAGE_MARKED" ∨
          ["VARIANCE_DETECTED", "RECOUNT_REQUESTED"].contains (Text.upper (Text.strip eventType)) = true ∨
          Text.upper (Text.strip eventType) = "APPROVAL_GRANTED") := by
    decide +kernel
  have noSession : sessionEvents.contains e.kind = false := (kinds e.eventType listed).1
  have noInventory : inventoryEvents.contains e.kind = false := (kinds e.eventType listed).2.1
  have kind : e.kind = "DAMAGE_MARKED" ∨ ["VARIANCE_DETECTED", "RECOUNT_REQUESTED"].contains e.kind = true ∨
    e.kind = "APPROVAL_GRANTED" := (kinds e.eventType listed).2.2
  simp only [eventWrites, noSession, noInventory, Bool.false_eq_true, if_false]
  split
  · exact .inl rfl
  · next damage =>
    split
    · exact .inr (.inl rfl)
    · next variance =>
      have approval := (kind.resolve_left damage).resolve_left variance
      exact .inr (.inr (if_pos approval))

section

variable {line : Doc} {eventId : String}

theorem projectLog_mirrored {counted : ℚ} (mirrored : MirroredEvent e line lineId sessionId itemCode counted)
    (counts : Countable p) (keyed : KeyedRows p) (identified : e.eventId = some eventId) {target : ProjectionCollection}
    {key : String} {details : Doc → List (String × Value)} (writes : eventWrites e = projectLog e target key details)
    (elsewhere : target ≠ .itemsSnapshot ∧ target ≠ .verifiedItems ∧ target ≠ .batchRecords) :
    ∃ q, project e p = some q ∧ Countable q ∧ EventEffect e line lineId sessionId itemCode 0 p q := by
  rw [project, writes]
  obtain ⟨q, ran, countsNow⟩ := runAll_goesThrough counts fun w member =>
    goesThrough_log member ⟨elsewhere.1, elsewhere.2.2⟩
  exact ⟨q, ran, countsNow, projectLog_effect mirrored keyed ⟨elsewhere.1, elsewhere.2.1⟩ identified ran⟩

theorem project_mirrored {counted grown : ℚ} (mirrored : MirroredEvent e line lineId sessionId itemCode counted)
    (counts : Countable p) (keyed : KeyedRows p) (identified : e.eventId = some eventId)
    (listed : e.eventType ∈ countingTypes ∧ grown = counted ∨ e.eventType ∈ loggedTypes ∧ grown = 0) :
    ∃ q, project e p = some q ∧ Countable q ∧ EventEffect e line lineId sessionId itemCode grown p q := by
  rcases listed with ⟨counting, rfl⟩ | ⟨logged, rfl⟩
  · obtain ⟨delta, increments, _⟩ := mirrored.counts
    obtain ⟨kind, writes⟩ := eventWrites_counting counting
    rw [project, writes]
    obtain ⟨q, ran, countsNow⟩ := runAll_goesThrough counts fun w member =>
      goesThrough_inventory kind mirrored.held increments member
    exact ⟨q, ran, countsNow, projectInventory_effect mirrored keyed ran⟩
  · rcases eventWrites_logged logged with writes | writes | writes
    · exact projectLog_mirrored mirrored counts keyed identified writes (by decide)
    · exact projectLog_mirrored mirrored counts keyed identified writes (by decide)
    · exact projectLog_mirrored mirrored counts keyed identified writes (by decide)

end

end StockVerification
