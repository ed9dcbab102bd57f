import StockVerification.Foundation.Run
import StockVerification.Projections

/-!
# Deliveries of events

Events are delivered to the projection service again and again, and any application can
fail at any of its writes. In a transaction nothing of a failed application stays, and the
marker of an applied event turns a repeated delivery away.
-/
namespace StockVerification

open Foundation Projection

def counterFields : List String := ["counted_qty", "damaged_qty", "serial_count"]

def CounterRow (d : Doc) : Prop := ∀ field ∈ counterFields, d field = none ∨ ∃ q, d field = some (.num q)

def Countable (p : Projections) : Prop :=
  ∀ table, table = .itemsSnapshot ∨ table = .batchRecords → ∀ d ∈ p table, CounterRow d

variable {d : Doc}

theorem applyInc_counter {entry : String × ℚ} (counters : CounterRow d) (known : entry.1 ∈ counterFields) :
    ∃ new, Update.applyInc d entry = some new ∧ CounterRow new := by
  have stays : ∀ q, CounterRow (d.set entry.1 (.num q)) := by
    intro q field member
    by_cases same : field = entry.1
    · rw [same, Doc.set_same]
      exact .inr ⟨q, rfl⟩
    · rw [Doc.set_other d _ same]
      exact counters field member
  unfold Update.applyInc
  rcases counters entry.1 known with absent | ⟨q, stored⟩
  · rw [absent]
    exact ⟨_, rfl, stays _⟩
  · rw [stored]
    exact ⟨_, rfl, stays _⟩

theorem foldlM_counters {entries : List (String × ℚ)} (counters : CounterRow d)
    (known : ∀ entry ∈ entries, entry.1 ∈ counterFields) :
    ∃ new, entries.foldlM Update.applyInc d = some new ∧ CounterRow new := by
  induction entries generalizing d with
  | nil => exact ⟨d, rfl, counters⟩
  | cons entry rest ih =>
    obtain ⟨next, first, nextCounters⟩ := applyInc_counter counters (known entry (by simp))
    obtain ⟨new, later, newCounters⟩ := ih nextCounters fun e member => known e (by simp [member])
    refine ⟨new, ?_, newCounters⟩
    rw [List.foldlM_cons, first]
    exact later

/-- An increment of counters goes through on a row that counts. -/
theorem apply_counters {u : Update} (counters : CounterRow d) (noPush : u.push = [])
    (plain : ∀ field ∈ counterFields, u.set field = none) (known : ∀ entry ∈ u.inc, entry.1 ∈ counterFields) :
    ∃ new, u.apply d = some new ∧ CounterRow new := by
  have consistent : u.conflicting = false := by
    rw [Update.conflicting, noPush, List.any_nil, Bool.or_false, List.any_eq_false]
    intro entry member
    rw [Doc.has, plain entry.1 (known entry member)]
    decide
  have updated : CounterRow (d.update u.set) := by
    intro field member
    rw [Doc.update_apply, plain field member]
    exact counters field member
  obtain ⟨new, incremented, newCounters⟩ := foldlM_counters updated known
  refine ⟨new, ?_, newCounters⟩
  rw [Update.apply, consistent, noPush, incremented]
  rfl

/-- The write goes through wherever the counters hold numbers, and keeps them so. -/
def GoesThrough (w : Write) : Prop := ∀ p, Countable p → ∃ q, w.run p = some q ∧ Countable q

variable {p : Projections}

theorem Countable.put {table : ProjectionCollection} {rows : List Doc} (counted : Countable p)
    (fresh : table = .itemsSnapshot ∨ table = .batchRecords → ∀ d ∈ rows, CounterRow d) :
    Countable (p.put table rows) := by
  intro other counting d member
  by_cases here : other = table
  · subst here
    rw [Tables.put_same] at member
    exact fresh counting d member
  · rw [Tables.put_other p rows here] at member
    exact counted other counting d member

theorem goesThrough_delete (table : ProjectionCollection) (query : Filter) : GoesThrough (.delete table query) := by
  intro p counted
  refine ⟨_, rfl, counted.put fun counting d member => ?_⟩
  exact counted table counting d (List.mem_of_mem_eraseP member)

section

variable {table : ProjectionCollection} {query : Filter} {seed : Doc}

/-- Setting fields of other collections never fails. -/
theorem goesThrough_set {plan : Projections → Planned}
    (planned : ∀ p, plan p = .nothing ∨ ∃ fields, plan p = .update (.ofSet fields))
    (elsewhere : table ≠ .itemsSnapshot ∧ table ≠ .batchRecords) : GoesThrough (.upsert table query seed plan) := by
  intro p counted
  simp only [RowWrite.run]
  rcases planned p with nothing | ⟨fields, set⟩
  · rw [nothing]
    exact ⟨p, rfl, counted⟩
  · rw [set]
    have fresh : ∀ rows : List Doc, Countable (p.put table rows) := fun rows =>
      counted.put fun counting => by
        rcases counting with here | here
        · exact absurd here elsewhere.1
        · exact absurd here elsewhere.2
    simp only [Collection.upsertOne, Update.apply_ofSet, Option.map_some]
    split
    · exact ⟨_, rfl, fresh _⟩
    · exact ⟨_, rfl, fresh _⟩

/-- Increments of counters. -/
theorem goesThrough_counters {u : Update} (seedCounters : CounterRow seed) (noPush : u.push = [])
    (plain : ∀ field ∈ counterFields, u.set field = none) (known : ∀ entry ∈ u.inc, entry.1 ∈ counterFields)
    (counting : table = .itemsSnapshot ∨ table = .batchRecords) :
    GoesThrough (.upsert table query seed fun _ => .update u) := by
  intro p counted
  simp only [RowWrite.run, Collection.upsertOne]
  split
  · next old found =>
    have oldCounters := counted table counting old (List.mem_of_find?_eq_some found)
    obtain ⟨new, applied, newCounters⟩ := apply_counters oldCounters noPush plain known
    rw [applied]
    refine ⟨_, rfl, counted.put fun _ d member => ?_⟩
    rcases Collection.mem_replaceFirst member with stays | rfl
    · exact counted table counting d stays
    · exact newCounters
  · obtain ⟨new, applied, newCounters⟩ := apply_counters seedCounters noPush plain known
    rw [applied]
    refine ⟨_, rfl, counted.put fun _ d member => ?_⟩
    rcases List.mem_append.mp member with stays | added
    · exact counted table counting d stays
    · rw [List.mem_singleton.mp added]
      exact newCounters

end

theorem goesThrough_dashboard (sessionId : String) : GoesThrough (refreshSessionDashboard sessionId) := by
  refine goesThrough_set (fun p => ?_) (by decide)
  split
  · exact .inr ⟨_, rfl⟩
  · exact .inl rfl

variable {e : ProjectionEvent} {w : Write} {line : Doc}

theorem goesThrough_verifiedItem {lineId sessionId : String}
    (member : w ∈ verifiedItemWrites e line lineId sessionId) : GoesThrough w := by
  have financial : GoesThrough (refreshFinancial sessionId) :=
    goesThrough_set (fun p => .inr ⟨_, rfl⟩) (by decide)
  unfold verifiedItemWrites at member
  split at member
  · rcases mem_four.mp member with rfl | rfl | rfl | rfl
    · exact goesThrough_delete _ _
    · exact goesThrough_delete _ _
    · exact goesThrough_dashboard sessionId
    · exact financial
  · split at member
    · cases member
    · rcases mem_four.mp member with rfl | rfl | rfl | rfl
      · exact goesThrough_set (fun p => .inr ⟨_, rfl⟩) (by decide)
      · unfold summaryWrite
        split
        · exact goesThrough_set (fun p => .inr ⟨_, rfl⟩) (by decide)
        · exact goesThrough_delete _ _
      · exact goesThrough_dashboard sessionId
      · exact financial

theorem goesThrough_batch {item : EventItem} {before after : List BatchState} {batchId : String}
    (changed : batchWrite e line item before after batchId = some w) : GoesThrough w := by
  unfold batchWrite at changed
  simp only at changed
  split at changed
  · cases changed
  · cases changed
    refine goesThrough_counters ?_ rfl ?_ ?_ (.inr rfl)
    · intro field member
      rcases mem_three.mp member with rfl | rfl | rfl <;> simp
    · intro field member
      rcases mem_three.mp member with rfl | rfl | rfl <;> simp
    · simp [counterFields]

theorem goesThrough_snapshot {item : EventItem} {delta : EventDelta}
    (counts : eventDelta e line = some delta) : GoesThrough (snapshotWrite e line item) := by
  unfold snapshotWrite
  rw [counts]
  refine goesThrough_counters ?_ rfl ?_ ?_ (.inl rfl)
  · intro field member
    rcases mem_three.mp member with rfl | rfl | rfl <;> simp
  · intro field member
    rcases mem_three.mp member with rfl | rfl | rfl <;> simp [snapshotFields]
  · simp [counterFields]

theorem goesThrough_projectVerifiedItem (member : w ∈ projectVerifiedItem e) : GoesThrough w := by
  unfold projectVerifiedItem at member
  split at member
  · cases member
  · split at member
    · exact goesThrough_verifiedItem member
    · cases member

theorem goesThrough_log {target : ProjectionCollection} {key : String}
    {details : Doc → List (String × Value)} (member : w ∈ projectLog e target key details)
    (elsewhere : target ≠ .itemsSnapshot ∧ target ≠ .batchRecords) : GoesThrough w := by
  unfold projectLog at member
  split at member
  · rcases List.mem_cons.mp member with rfl | verified
    · exact goesThrough_set (fun p => .inr ⟨_, rfl⟩) elsewhere
    · exact goesThrough_projectVerifiedItem verified
  · cases member

/-- Of an inventory event only the row of the item can refuse its write. -/
theorem goesThrough_inventory {delta : EventDelta} (kind : inventoryEvents.contains e.kind = true)
    (held : e.payload.line = some line) (counts : eventDelta e line = some delta)
    (member : w ∈ projectInventoryEvent e) : GoesThrough w := by
  cases writeOf_inventory kind member with
  | snapshot held' about =>
    rw [line_of_inventoryLine held', Option.some.injEq] at held
    subst held
    exact goesThrough_snapshot counts
  | batch _ about changed => exact goesThrough_batch changed
  | @serialSet line item serial target _ about listed into =>
    refine goesThrough_set (fun p => .inr ⟨_, rfl⟩) ?_
    rcases mem_three.mp into with rfl | rfl | rfl <;> exact ⟨by decide, by decide⟩
  | serialDrop _ about listed into => exact goesThrough_delete _ _
  | erp _ about | queue named => exact goesThrough_set (fun p => .inr ⟨_, rfl⟩) ⟨by decide, by decide⟩
  | line _ named session within => exact goesThrough_verifiedItem within
  | @log line eventId target key details _ identified into =>
    refine goesThrough_set (fun p => .inr ⟨_, rfl⟩) ?_
    simp only [logTables, List.mem_cons, Prod.mk.injEq, List.not_mem_nil, or_false] at into
    rcases into with ⟨rfl, _⟩ | ⟨rfl, _⟩ | ⟨rfl, _⟩ <;> exact ⟨by decide, by decide⟩

/-- The writes of an event all go through, or the first one is refused, or there is one
write, of the row of a session. -/
theorem eventWrites_shape (e : ProjectionEvent) : (∀ w ∈ eventWrites e, GoesThrough w) ∨
    (∃ first rest, eventWrites e = first :: rest ∧ ∀ p, first.run p = none) ∨
    ∃ sessionId, eventWrites e = [sessionWrite e sessionId] := by
  unfold eventWrites
  split
  · unfold projectSessionEvent
    split
    · exact .inl nofun
    · exact .inr (.inr ⟨_, rfl⟩)
  · split
    · next kind =>
      cases held : e.payload.line with
      | none =>
        refine .inl fun w member => ?_
        rw [projectInventoryEvent, held] at member
        cases member
      | some line =>
        cases counts : eventDelta e line with
        | some delta => exact .inl fun w member => goesThrough_inventory kind held counts member
        | none =>
          cases about : eventItem e line with
          | none =>
            refine .inl fun w member => ?_
            simp only [projectInventoryEvent, held, about] at member
            cases member
          | some item =>
            refine .inr (.inl ⟨snapshotWrite e line item, batchWrites e line item ++
              serialWrites e line item ++ [erpWrite e line item] ++ projectVerifiedItem e, ?_, ?_⟩)
            · simp only [projectInventoryEvent, held, about, List.cons_append, List.nil_append]
            · intro p
              simp only [snapshotWrite, counts, RowWrite.run]
    · refine .inl fun w member => ?_
      split at member
      · exact goesThrough_log member ⟨by decide, by decide⟩
      · split at member
        · exact goesThrough_log member ⟨by decide, by decide⟩
        · split at member
          · exact goesThrough_log member ⟨by decide, by decide⟩
          · split at member
            · unfold projectSyncQueue at member
              split at member
              · cases member
              · rw [List.mem_singleton.mp member]
                exact goesThrough_set (fun p => .inr ⟨_, rfl⟩) ⟨by decide, by decide⟩
            · cases member

theorem runAll_goesThrough {writes : List Write} (counted : Countable p) (each : ∀ w ∈ writes, GoesThrough w) :
    ∃ q, RowWrite.runAll writes p = some q ∧ Countable q := by
  induction writes generalizing p with
  | nil => exact ⟨p, rfl, counted⟩
  | cons w rest ih =>
    obtain ⟨next, first, nextCounted⟩ := each w (by simp) p counted
    obtain ⟨q, later, lastCounted⟩ := ih nextCounted fun w' member => each w' (by simp [member])
    refine ⟨q, ?_, lastCounted⟩
    rw [RowWrite.runAll_cons, first]
    exact later

theorem runUntil_refused {rest : List Write} (refused : w.run p = none) (done : ℕ) :
    RowWrite.runUntil done (w :: rest) p = p := by
  cases done with
  | zero => rfl
  | succ n => simp [RowWrite.runUntil, refused]

/-- An event that raises has written nothing. -/
theorem runUntil_of_project_none (counted : Countable p) (raised : project e p = none) (done : ℕ) :
    RowWrite.runUntil done (eventWrites e) p = p := by
  rcases eventWrites_shape e with through | ⟨first, rest, writes, refused⟩ | ⟨sessionId, writes⟩
  · obtain ⟨q, ran, _⟩ := runAll_goesThrough counted through
    rw [project, ran] at raised
    cases raised
  · rw [writes]
    exact runUntil_refused (refused p) done
  · rw [project, writes, RowWrite.runAll_cons] at raised
    rw [writes]
    apply runUntil_refused
    cases ran : (sessionWrite e sessionId).run p with
    | none => rfl
    | some q =>
      rw [ran] at raised
      cases raised

/-- The counters stay numbers. -/
theorem project_countable {q : Projections} (counted : Countable p)
    (projected : project e p = some q) : Countable q := by
  rcases eventWrites_shape e with through | ⟨first, rest, writes, refused⟩ | ⟨sessionId, writes⟩
  · obtain ⟨q', ran, lastCounted⟩ := runAll_goesThrough counted through
    rw [project, ran] at projected
    cases projected
    exact lastCounted
  · rw [project, writes, RowWrite.runAll_cons, refused] at projected
    cases projected
  · rw [project, writes, RowWrite.runAll_cons, Option.bind_eq_some_iff] at projected
    obtain ⟨q', ran, ⟨⟩⟩ := projected
    intro table counting d member
    have other : table ≠ .sessionDashboard := by rcases counting with rfl | rfl <;> decide
    rw [RowWrite.run_other ran other] at member
    exact counted table counting d member

theorem find_filter_marker (markers : List Marker) (eventId other : String) :
    (markers.filter (·.eventId != eventId)).find? (·.eventId == other) =
      if other = eventId then none else markers.find? (·.eventId == other) := by
  induction markers with
  | nil => simp
  | cons marker rest ih =>
    by_cases same : marker.eventId = eventId
    · rw [List.filter_cons_of_neg (by simp [same]), ih]
      by_cases asked : other = eventId
      · simp [asked]
      · have distinct : (marker.eventId == other) = false := by simpa [same] using Ne.symm asked
        rw [if_neg asked, if_neg asked, List.find?_cons, distinct]
    · rw [List.filter_cons_of_pos (by simpa using same), List.find?_cons, ih]
      by_cases asked : other = eventId
      · have distinct : (marker.eventId == other) = false := by simpa [asked] using same
        rw [if_pos asked, if_pos asked, distinct]
      · rw [if_neg asked, if_neg asked, List.find?_cons]

theorem isApplied_marked (db : ProjectionDb) (p : Projections) (eventId other : String)
    (session : Value) (applied : Bool) :
    ProjectionDb.isApplied ⟨p, db.unmarked eventId ++ [⟨eventId, session, applied⟩]⟩ other =
      if other = eventId then applied else db.isApplied other := by
  simp only [ProjectionDb.isApplied, ProjectionDb.unmarked, List.find?_append, find_filter_marker]
  by_cases asked : other = eventId
  · subst asked
    simp
  · have distinct : (eventId == other) = false := by simpa using Ne.symm asked
    simp [asked, distinct]

theorem isApplied_unmarked (db : ProjectionDb) (p : Projections) (eventId other : String) :
    ProjectionDb.isApplied ⟨p, db.unmarked eventId⟩ other =
      if other = eventId then false else db.isApplied other := by
  simp only [ProjectionDb.isApplied, ProjectionDb.unmarked, find_filter_marker]
  by_cases asked : other = eventId <;> simp [asked]

/-- What an application can do: leave everything as it is, or apply an event that was not
applied. -/
inductive ApplyEffect (e : ProjectionEvent) (db : ProjectionDb) (after : Applied) : Prop where
  | unchanged (incomplete : after.completed = false)
      (projections : after.db.projections = db.projections)
      (markers : ∀ eventId, after.db.isApplied eventId = db.isApplied eventId)
      (answered : ∀ answer, after.answer = .ok answer → ∃ eventId, e.eventId = some eventId ∧
        db.isApplied eventId = true)
  | applied {eventId : String} (complete : after.completed = true)
      (identified : e.eventId = some eventId) (fresh : db.isApplied eventId = false)
      (projected : project e db.projections = some after.db.projections)
      (markers : ∀ other, after.db.isApplied other = if other = eventId then true else db.isApplied other)

/-- The handlers stop before their first write, or not at all. -/
def Unbroken (fault : Option ApplyFault) (e : ProjectionEvent) (db : ProjectionDb) : Prop :=
  ∀ done caught, fault = some (.interrupted done caught) →
    done = 0 ∨ (eventWrites e).length < done ∨ ∃ eventId, e.eventId = some eventId ∧ db.isApplied eventId = true

variable {fault : Option ApplyFault}

/-- Where the handlers do not come to their end, they have written nothing. -/
theorem runHandlers_unbroken {db : ProjectionDb} {done : Nat} {caught : Bool} (counted : Countable db.projections)
    (unbroken : Unbroken fault e db) (fresh : ∀ eventId, e.eventId = some eventId → db.isApplied eventId = false)
    (stopped : runHandlers fault e db.projections = .error (done, caught)) :
    RowWrite.runUntil done (eventWrites e) db.projections = db.projections := by
  cases projected : project e db.projections with
  | none => exact runUntil_of_project_none counted projected done
  | some next =>
    unfold runHandlers at stopped
    dsimp only at stopped
    rw [projected] at stopped
    split at stopped
    · next cut cutCaught =>
      split at stopped
      · next inside =>
        simp only [Except.error.injEq, Prod.mk.injEq] at stopped
        rcases unbroken cut cutCaught rfl with rfl | outside | ⟨eventId, identified, already⟩
        · rw [← stopped.1]
          rfl
        · omega
        · rw [fresh eventId identified] at already
          cases already
      · cases stopped
    · cases stopped

theorem runHandlers_ok {next : Projections} (finished : runHandlers fault e p = .ok next) :
    project e p = some next := by
  cases projected : project e p with
  | none =>
    unfold runHandlers at finished
    dsimp only at finished
    rw [projected] at finished
    split at finished
    · split at finished <;> cases finished
    · cases finished
  | some other =>
    unfold runHandlers at finished
    dsimp only at finished
    rw [projected] at finished
    split at finished
    · split at finished
      · cases finished
      · cases finished
        rfl
    · cases finished
      rfl

/-- An application that comes to its end applied a fresh event. One that does not has
written nothing where it was not broken off between two writes. -/
theorem applyDirect_cases (fault : Option ApplyFault) (e : ProjectionEvent) (db : ProjectionDb) :
    (applyDirect fault e db).completed = true ∧ ApplyEffect e db (applyDirect fault e db) ∨
    (applyDirect fault e db).completed = false ∧
      (∀ answer, (applyDirect fault e db).answer = .ok answer → ∃ eventId, e.eventId = some eventId ∧
        db.isApplied eventId = true) ∧
      (Countable db.projections → Unbroken fault e db → (applyDirect fault e db).db.projections = db.projections ∧
        ∀ eventId, (applyDirect fault e db).db.isApplied eventId = db.isApplied eventId) := by
  unfold applyDirect
  cases identified : e.eventId with
  | none => exact .inr ⟨rfl, nofun, fun _ _ => ⟨rfl, fun _ => rfl⟩⟩
  | some eventId =>
    simp only
    cases applied : db.isApplied eventId with
    | true =>
      rw [if_pos rfl]
      exact .inr ⟨rfl, fun _ _ => ⟨eventId, rfl, applied⟩, fun _ _ => ⟨rfl, fun _ => rfl⟩⟩
    | false =>
      rw [if_neg (by simp)]
      split
      · next next finished =>
        refine .inl ⟨rfl, .applied rfl identified applied (runHandlers_ok finished) fun other => ?_⟩
        exact isApplied_marked db next eventId other _ true
      · next done caught stopped =>
        refine .inr ⟨rfl, nofun, fun counted unbroken => ?_⟩
        have fresh : ∀ id, e.eventId = some id → db.isApplied id = false := by
          intro id same
          rw [identified] at same
          cases same
          exact applied
        refine ⟨runHandlers_unbroken counted unbroken fresh stopped, fun other => ?_⟩
        -- a marker that is removed or still being applied counts for nothing
        have unmoved : (if other = eventId then false else db.isApplied other) = db.isApplied other := by
          by_cases asked : other = eventId
          · rw [if_pos asked, asked, applied]
          · rw [if_neg asked]
        cases caught with
        | true => exact (isApplied_unmarked db _ eventId other).trans unmoved
        | false => exact (isApplied_marked db _ eventId other _ false).trans unmoved

theorem applyEvent_effect {deployment : Deployment} {db : ProjectionDb} (counted : Countable db.projections)
    (whole : deployment = .transactional ∨ Unbroken fault e db) :
    ApplyEffect e db (applyEvent deployment fault e db) := by
  cases deployment with
  | standalone =>
    rcases applyDirect_cases fault e db with ⟨_, effect⟩ | ⟨incomplete, answered, unmoved⟩
    · exact effect
    · obtain ⟨projections, markers⟩ := unmoved counted (whole.resolve_left (by decide))
      exact .unchanged incomplete projections markers answered
  | transactional =>
    simp only [applyEvent]
    rcases applyDirect_cases fault e db with ⟨complete, effect⟩ | ⟨incomplete, answered, _⟩
    · rw [if_pos complete]
      exact effect
    · -- the transaction is rolled back
      rw [if_neg (by simp [incomplete])]
      exact .unchanged incomplete rfl (fun _ => rfl) answered

/-- The events whose application came to its end, in that order, and the deliveries that
were answered without an error. -/
structure Feed where
  db : ProjectionDb := {}
  history : List ProjectionEvent := []
  acknowledged : List ProjectionEvent := []

structure Delivery where
  deployment : Deployment
  event : ProjectionEvent
  fault : Option ApplyFault := none

def Feed.step (f : Feed) (d : Delivery) : Feed :=
  let ended := applyEvent d.deployment d.fault d.event f.db
  { db := ended.db
    history := if ended.completed then f.history ++ [d.event] else f.history
    acknowledged := match ended.answer with
      | .ok _ => f.acknowledged ++ [d.event]
      | .error _ => f.acknowledged }

/-- Nothing of a failed application stays: it runs in a transaction, or it does not stop
between two writes. -/
def Whole (f : Feed) (d : Delivery) : Prop :=
  d.deployment = .transactional ∨ Unbroken d.fault d.event f.db

/-- The projections that a list of events makes, each applied once. -/
def projectAll (events : List ProjectionEvent) (p : Projections) : Option Projections :=
  events.foldlM (fun now e => project e now) p

/-- The markers and the projections tell the events of the history. -/
structure FeedSound (f : Feed) : Prop where
  counted : Countable f.db.projections
  projected : projectAll f.history (fun _ => []) = some f.db.projections
  distinct : (f.history.map (·.eventId)).Nodup
  marked : ∀ eventId, f.db.isApplied eventId = true ↔ some eventId ∈ f.history.map (·.eventId)
  acknowledged : ∀ e ∈ f.acknowledged, e.eventId ∈ f.history.map (·.eventId)

theorem FeedSound.step {f : Feed} {d : Delivery} (before : FeedSound f) (whole : Whole f d) : FeedSound (f.step d) := by
  have effect := applyEvent_effect before.counted whole
  unfold Feed.step
  cases effect with
  | unchanged incomplete projections markers answered =>
    simp only [incomplete, Bool.false_eq_true, if_false]
    refine ⟨?_, ?_, before.distinct, ?_, ?_⟩
    · rw [projections]
      exact before.counted
    · rw [projections]
      exact before.projected
    · intro eventId
      rw [markers]
      exact before.marked eventId
    · intro e member
      split at member
      · next answer given =>
        rcases List.mem_append.mp member with earlier | now
        · exact before.acknowledged e earlier
        · obtain ⟨eventId, identified, applied⟩ := answered answer given
          rw [List.mem_singleton.mp now, identified]
          exact (before.marked eventId).mp applied
      · exact before.acknowledged e member
  | @applied eventId complete identified fresh projected markers =>
    simp only [complete, if_true]
    have unseen : some eventId ∉ f.history.map (·.eventId) := by
      intro member
      rw [← before.marked eventId, fresh] at member
      cases member
    have ids : (f.history ++ [d.event]).map (·.eventId) = f.history.map (·.eventId) ++ [some eventId] := by
      rw [List.map_append, List.map_singleton, identified]
    refine ⟨project_countable before.counted projected, ?_, ?_, ?_, ?_⟩
    · have earlier := before.projected
      unfold projectAll at earlier ⊢
      rw [List.foldlM_append, earlier]
      simpa using projected
    · rw [ids, List.nodup_append]
      refine ⟨before.distinct, List.nodup_singleton _, ?_⟩
      rintro a member b single rfl
      rw [List.mem_singleton.mp single] at member
      exact unseen member
    · intro other
      rw [markers, ids, List.mem_append, List.mem_singleton, ← before.marked other]
      by_cases asked : other = eventId
      · simp [asked]
      · simp [asked]
    · intro e member
      rw [ids, List.mem_append]
      split at member
      · rcases List.mem_append.mp member with earlier | now
        · exact .inl (before.acknowledged e earlier)
        · rw [List.mem_singleton.mp now, identified]
          exact .inr (List.mem_singleton.mpr rfl)
      · exact .inl (before.acknowledged e member)

theorem FeedSound.initial : FeedSound {} := by
  refine ⟨?_, rfl, List.nodup_nil, ?_, ?_⟩
  · nofun
  · intro eventId
    simp [ProjectionDb.isApplied]
  · nofun

/-- Repeated deliveries and failed applications do not show: the projections are those of
the applied events, each once, and every acknowledged event is among them. -/
theorem projections_exactly_once {f : Feed} (run : Reaches Feed.step Whole {} f) :
    projectAll f.history (fun _ => []) = some f.db.projections ∧
    (f.history.map (·.eventId)).Nodup ∧
    ∀ e ∈ f.acknowledged, e.eventId ∈ f.history.map (·.eventId) := by
  have sound : FeedSound f := run.invariant .initial fun _ _ before meets => before.step meets
  exact ⟨sound.projected, sound.distinct, sound.acknowledged⟩

/-- A count of three pieces, as a line and as the event of its scan. -/
def scannedLine : Doc :=
  Doc.ofList [("id", .str "line-1"), ("session_id", .str "S1"), ("item_code", .str "I1"),
    ("counted_qty", .num 3), ("erp_qty", .num 3), ("status", .str "pending")]

def scanAdded : ProjectionEvent where
  id := "E1"
  aggregateId := "I1"
  eventType := "SCAN_ADDED"
  payload :=
    { fields := Doc.ofList [("session_id", .str "S1"), ("item_id", .str "I1"), ("count_line_id", .str "line-1")]
      after := some scannedLine
      countLine := some scannedLine
      delta := Doc.ofList [("counted_qty", .num 3), ("damaged_qty", .num 0), ("serial_count", .num 0)] }
  timestamp := 1

/-- The scan is delivered and fails after two writes, is retried, and is delivered again. -/
def brokenThenRetried (deployment : Deployment) : List Delivery :=
  [{ deployment := deployment, event := scanAdded, fault := some (.interrupted 2 true) },
    { deployment := deployment, event := scanAdded }, { deployment := deployment, event := scanAdded }]

def countedQuantities (p : Projections) : List ℚ :=
  (p .itemsSnapshot).map fun row => asFloat (row.get "counted_qty")

theorem projections_exactly_once_retried :
    ((brokenThenRetried .transactional).foldl Feed.step {}).acknowledged.length = 2 ∧
    (projectAll ((brokenThenRetried .transactional).foldl Feed.step {}).history fun _ => []).map
      countedQuantities = some [3] ∧
    countedQuantities ((brokenThenRetried .transactional).foldl Feed.step {}).db.projections = [3] := by
  have run : Reaches Feed.step Whole {} ((brokenThenRetried .transactional).foldl Feed.step {}) := by
    apply Reaches.foldl
    intro f d member
    rcases mem_three.mp member with rfl | rfl | rfl <;> exact .inl rfl
  have counted : countedQuantities ((brokenThenRetried .transactional).foldl Feed.step {}).db.projections = [3] := by
    decide +kernel
  refine ⟨by decide +kernel, ?_, counted⟩
  rw [(projections_exactly_once run).1, Option.map_some, counted]

/-- Outside a transaction the increment of the failed application stays, and the retry
increments again. -/
theorem projections_doubled :
    ¬ (projectAll ((brokenThenRetried .standalone).foldl Feed.step {}).history (fun _ => []) =
      some ((brokenThenRetried .standalone).foldl Feed.step {}).db.projections) := by
  intro once
  have counted := congrArg (Option.map countedQuantities) once
  revert counted
  decide +kernel

end StockVerification
