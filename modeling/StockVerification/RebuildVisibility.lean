import StockVerification.LocalAggregates

/-!
# What a rebuild of the local tables changes

A recorded line comes from its event, and the sync marks it afterwards: with a status, and with the
line of the server. The marks stand in the line alone, so a rebuild from the events loses them, and
it drops the lines of the rejected events.
-/
namespace StockVerification

open Foundation Foundation.Action

variable {js : JsRuntime}

/-- Every line comes from an event of the log. -/
def LinesOfEvents (db : LocalDb) : Prop :=
  ∀ record ∈ db.countLineRecords, ∃ row ∈ db.inventoryEvents,
    bareLine record = bareLine (buildProjectedCountLineRecord row.event)

variable {db : LocalDb}

theorem applyLineEvents_lines {events : List LineEvent} (once : (events.map (·.id)).Nodup)
    (fresh : ∀ event ∈ events, event.id ∉ db.countLineRecords.map (·.eventId)) :
    (applyLineEvents js events db).countLineRecords =
      db.countLineRecords ++ events.map buildProjectedCountLineRecord := by
  induction events generalizing db with
  | nil =>
    rw [List.map_nil, List.append_nil]
    rfl
  | cons event rest ih =>
    rw [List.map_cons, List.nodup_cons] at once
    have appended : (appliedDb js event db).countLineRecords =
        db.countLineRecords ++ [buildProjectedCountLineRecord event] :=
      Table.put_fresh (fresh event (List.mem_cons_self ..))
    change (applyLineEvents js rest (appliedDb js event db)).countLineRecords = _
    rw [ih once.2, appended, List.map_cons, List.append_assoc, List.singleton_append]
    intro later member
    rw [appended, List.map_append, List.mem_append, not_or]
    constructor
    · exact fresh later (List.mem_cons_of_mem _ member)
    · intro now
      apply once.1
      rw [List.map_singleton, List.mem_singleton] at now
      change later.id = event.id at now
      rw [← now]
      exact List.mem_map_of_mem member

theorem rebuiltDb_lines (distinct : (db.inventoryEvents.map rowId).Nodup) :
    (rebuiltDb js db).countLineRecords = (liveEvents db).map buildProjectedCountLineRecord := by
  rw [rebuiltDb, applyLineEvents_lines (liveEvents_once distinct)]
  · rfl
  · intro event _ recorded
    cases recorded

theorem rebuiltDb_events (db : LocalDb) : (rebuiltDb js db).inventoryEvents = db.inventoryEvents := by
  have kept : ∀ (events : List LineEvent) (s : LocalDb),
      (applyLineEvents js events s).inventoryEvents = s.inventoryEvents := by
    intro events
    induction events with
    | nil =>
      intro s
      rfl
    | cons event rest ih =>
      intro s
      exact ih (appliedDb js event s)
  exact kept (liveEvents db) (clearProjections db)

theorem LinesOfEvents.marked {t : LocalDb} (lines : LinesOfEvents db) (marks : OnlyMarks db t) : LinesOfEvents t := by
  intro record member
  have stands : bareLine record ∈ db.countLineRecords.map bareLine := by
    rw [← marks.lines]
    exact List.mem_map_of_mem member
  obtain ⟨older, was, same⟩ := List.mem_map.mp stands
  obtain ⟨row, logged, built⟩ := lines older was
  have event : row.event ∈ t.inventoryEvents.map (·.event) := by
    rw [marks.events]
    exact List.mem_map_of_mem logged
  obtain ⟨newer, stays, eq⟩ := List.mem_map.mp event
  refine ⟨newer, stays, ?_⟩
  rw [eq, ← built, same]

theorem LinesOfEvents.step (lines : LinesOfEvents db) (sound : LocalSound js db) (op : LocalOp) :
    LinesOfEvents (db.step js op) := by
  rcases db.step_cases js op with ⟨event, _, recorded⟩ | ⟨_, rebuilt⟩ | marks
  · rcases recordInventoryEvent_final event sound with same | ⟨fresh, _, applied⟩
    · rw [recorded, same]
      exact lines
    · rw [recorded, applied]
      have new : event.id ∉ db.countLineRecords.map (·.eventId) := by
        rw [← sound.applied]
        intro earlier
        exact fresh (sound.logged _ earlier)
      intro record member
      change record ∈ Table.put _ _ _ at member
      rw [Table.put_fresh (by exact new)] at member
      rcases List.mem_append.mp member with earlier | now
      · obtain ⟨row, logged, built⟩ := lines record earlier
        exact ⟨row, List.mem_append_left _ logged, built⟩
      · rw [List.mem_singleton.mp now]
        exact ⟨_, List.mem_append_right _ (List.mem_singleton.mpr rfl), rfl⟩
  · rcases rebuild_final js sound.distinct with ⟨_, same⟩ | ⟨_, replayed⟩
    · rw [rebuilt, same]
      exact lines
    · rw [rebuilt, replayed]
      intro record member
      rw [rebuiltDb_lines sound.distinct] at member
      obtain ⟨event, live, rfl⟩ := List.mem_map.mp member
      obtain ⟨row, logged, _, rfl⟩ := mem_liveEvents.mp live
      rw [rebuiltDb_events]
      exact ⟨row, logged, rfl⟩
  · exact lines.marked marks

theorem LinesOfEvents.reaches (run : LocalReaches js db) : LocalSound js db ∧ LinesOfEvents db := by
  apply run.invariant (P := fun db => LocalSound js db ∧ LinesOfEvents db)
  · refine ⟨LocalSound.init, ?_⟩
    intro record member
    cases member
  · intro s op both _
    exact ⟨both.1.step op, both.2.step both.1 op⟩

def lineOf (db : LocalDb) (eventId : String) : Option CountLineRecord :=
  Table.find CountLineRecord.eventId db.countLineRecords eventId

/-- A rejected event has no line, and the line of any other event has the status the event was
recorded with and is bound to no line of the server. -/
def Unmarked (db : LocalDb) (row : LineEventRow) : Prop :=
  if row.syncStatus = .failed then lineOf db row.event.id = none
  else ∃ record, lineOf db row.event.id = some record ∧
    record.syncStatus = row.event.payload.syncStatus ∧ record.serverLineId = none

theorem eq_of_bareLine {record built : CountLineRecord} (bare : bareLine record = bareLine built)
    (status : record.syncStatus = built.syncStatus)
    (server : record.serverLineId = built.serverLineId) : record = built := by
  cases record
  cases built
  simp_all [bareLine]

variable {row : LineEventRow}

theorem row_unique {rows : List LineEventRow} {other : LineEventRow} (distinct : (rows.map rowId).Nodup)
    (member : row ∈ rows) (stands : other ∈ rows) (same : other.event.id = row.event.id) : other = row := by
  have first := Table.find_of_mem distinct member
  have second := Table.find_of_mem distinct stands
  rw [show rowId other = rowId row from same, first] at second
  exact (Option.some.inj second).symm

/-- The line that a rebuild leaves under an event of the log. -/
theorem lineOf_rebuilt (distinct : (db.inventoryEvents.map rowId).Nodup) (member : row ∈ db.inventoryEvents) :
    lineOf (rebuiltDb js db) row.event.id =
      if row.syncStatus = .failed then none else some (buildProjectedCountLineRecord row.event) := by
  rw [lineOf, rebuiltDb_lines distinct]
  have ids : ((liveEvents db).map buildProjectedCountLineRecord).map CountLineRecord.eventId =
      (liveEvents db).map (·.id) := by
    rw [List.map_map]
    rfl
  by_cases rejected : row.syncStatus = .failed
  · rw [if_pos rejected, Table.find_eq_none, ids]
    intro stands
    obtain ⟨event, live, same⟩ := List.mem_map.mp stands
    obtain ⟨other, logged, alive, rfl⟩ := mem_liveEvents.mp live
    rw [row_unique distinct member logged same] at alive
    exact alive rejected
  · rw [if_neg rejected]
    have live : row.event ∈ liveEvents db := mem_liveEvents.mpr ⟨row, member, rejected, rfl⟩
    change Table.find _ _ (CountLineRecord.eventId (buildProjectedCountLineRecord row.event)) = _
    apply Table.find_of_mem
    · rw [ids]
      exact liveEvents_once distinct
    · exact List.mem_map_of_mem live

section

variable {id : String} (sound : LocalSound js db) (unknown : id ∉ db.inventoryEvents.map rowId)
include sound unknown

theorem lineOf_unlogged : lineOf db id = none := by
  rw [lineOf, Table.find_eq_none]
  intro stands
  apply unknown
  apply sound.logged
  rw [sound.applied]
  exact stands

theorem lineOf_rebuilt_unlogged : lineOf (rebuiltDb js db) id = none := by
  rw [lineOf, Table.find_eq_none, rebuiltDb_lines sound.distinct]
  intro stands
  obtain ⟨record, built, rfl⟩ := List.mem_map.mp stands
  obtain ⟨event, live, rfl⟩ := List.mem_map.mp built
  exact unknown (liveEvents_logged live)

end

theorem lineOf_built_iff (sound : LocalSound js db) (lines : LinesOfEvents db) (member : row ∈ db.inventoryEvents) :
    lineOf db row.event.id = some (buildProjectedCountLineRecord row.event) ↔
      ∃ record, lineOf db row.event.id = some record ∧
        record.syncStatus = row.event.payload.syncStatus ∧ record.serverLineId = none := by
  constructor
  · intro built
    exact ⟨_, built, rfl, rfl⟩
  · rintro ⟨record, found, status, server⟩
    obtain ⟨stands, named⟩ := Table.mem_of_find found
    obtain ⟨other, logged, bare⟩ := lines record stands
    have same : other.event.id = row.event.id := by
      rw [← named]
      exact (congrArg CountLineRecord.eventId bare).symm
    rw [row_unique sound.distinct member logged same] at bare
    rw [found, eq_of_bareLine bare status server]

/-- In every state reached, a rebuild leaves every line as it was exactly if it fails on a serial
number, or no event has marks that differ from what it was recorded with. -/
theorem rebuild_invisible_iff (js : JsRuntime) (db : LocalDb) (run : LocalReaches js db) :
    (∀ eventId, lineOf (db.step js .rebuild) eventId = lineOf db eventId) ↔
      SerialsClash js db ∨ ∀ row ∈ db.inventoryEvents, Unmarked db row := by
  obtain ⟨sound, lines⟩ := LinesOfEvents.reaches run
  change (∀ eventId, lineOf ((rebuildInventoryProjections js).final db) eventId = _) ↔ _
  rcases rebuild_final js sound.distinct with ⟨clash, same⟩ | ⟨free, replayed⟩
  · rw [same]
    exact ⟨fun _ => .inl clash, fun _ _ => rfl⟩
  · rw [replayed]
    have each : ∀ row ∈ db.inventoryEvents,
        (lineOf (rebuiltDb js db) row.event.id = lineOf db row.event.id ↔ Unmarked db row) := by
      intro row member
      rw [lineOf_rebuilt sound.distinct member, Unmarked]
      by_cases rejected : row.syncStatus = .failed
      · rw [if_pos rejected, if_pos rejected, eq_comm]
      · rw [if_neg rejected, if_neg rejected, eq_comm]
        exact lineOf_built_iff sound lines member
    constructor
    · intro invisible
      right
      intro row member
      exact (each row member).mp (invisible row.event.id)
    · rintro (clash | unmarked) eventId
      · exact absurd clash free
      · by_cases known : eventId ∈ db.inventoryEvents.map rowId
        · obtain ⟨row, member, rfl⟩ := List.mem_map.mp known
          exact (each row member).mpr (unmarked row member)
        · rw [lineOf_rebuilt_unlogged sound known, lineOf_unlogged sound known]

/-- The first line is bound to a line of the server, the second one is rejected. -/
def rejectedAfterBind : List LocalOp :=
  [.record (sampleLine "a" "n"), .synced "a", .bind "a" (some "1"), .record (sampleLine "b" "m"), .failed "b" "rejected"]

theorem rebuild_visible :
    (¬ ∀ db, LocalReaches jsDoubles db → ∀ eventId, lineOf (db.step jsDoubles .rebuild) eventId = lineOf db eventId) ∧
      ((lineOf (rejectedAfterBind.foldl (LocalDb.step jsDoubles) {}) "a").map fun record =>
        (record.syncStatus, record.serverLineId)) = some (.synced, some "1") ∧
      ((lineOf ((rejectedAfterBind.foldl (LocalDb.step jsDoubles) {}).step jsDoubles .rebuild) "a").map fun record =>
        (record.syncStatus, record.serverLineId)) = some (.pending, none) := by
  have before : ((lineOf (rejectedAfterBind.foldl (LocalDb.step jsDoubles) {}) "a").map fun record =>
      (record.syncStatus, record.serverLineId)) = some (.synced, some "1") := by decide +kernel
  have after : ((lineOf ((rejectedAfterBind.foldl (LocalDb.step jsDoubles) {}).step jsDoubles .rebuild)
    "a").map fun record =>
      (record.syncStatus, record.serverLineId)) = some (.pending, none) := by decide +kernel
  refine ⟨?_, before, after⟩
  intro all
  rw [all _ (Reaches.foldl fun _ _ _ => trivial), before] at after
  cases after

/-- A line that is not marked yet. -/
theorem rebuild_invisible_iff_sample :
    lineOf ((LocalDb.step jsDoubles {} (.record (sampleLine "a" "n"))).step jsDoubles .rebuild) "a" =
      lineOf (LocalDb.step jsDoubles {} (.record (sampleLine "a" "n"))) "a" := by
  apply (rebuild_invisible_iff jsDoubles _ (.next (.record (sampleLine "a" "n")) .start trivial)).mpr
  right
  intro row member
  have only : row ∈ [({ event := sampleLine "a" "n", syncStatus := .pending } : LineEventRow)] := member
  rw [List.mem_singleton.mp only]
  exact ⟨buildProjectedCountLineRecord (sampleLine "a" "n"), rfl, rfl, rfl⟩

end StockVerification
