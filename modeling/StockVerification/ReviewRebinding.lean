import StockVerification.Foundation.KeyedFolds
import StockVerification.LocalInventory
import StockVerification.ReviewAgreement

/-!
# Rebinding the review history of a line

Source: frontend/src/data/repositories/countLineReviewControlPlaneRepository.ts:42-51, 124-182,
206-257, 377-405, 446-475 and frontend/src/data/db/controlPlaneDb.ts:164-205.

A line that was counted offline gets its id from the server later. Its review events and its
projection are then moved to that id, where the table of projections takes one row for each line.
-/
namespace StockVerification

open Foundation Foundation.Action

/-- A row of `count_line_review_events`. The event carries the row's line id. -/
structure ReviewEventRow where
  eventId : String
  event : CountLineReviewEvent
  eventTs : Int
  syncStatus : String

structure ReviewTables where
  events : List ReviewEventRow := []
  applied : List String := []
  projection : List ProjectedCountLineReviewSnapshot := []

abbrev ReviewStatement := Action ReviewTables LocalError

def projectedLine (snapshot : ProjectedCountLineReviewSnapshot) : String := snapshot.lineId

def markReviewEventApplied (eventId : String) : ReviewStatement Bool :=
  transacts fun t =>
    if eventId ∈ t.applied then .ok (false, t) else .ok (true, { t with applied := t.applied ++ [eventId] })

/-- `applyReviewEvent`: the event is folded into the row of its line. -/
def applyReviewEvent (eventId : String) (event : CountLineReviewEvent) : ReviewStatement Bool := do
  let wasApplied ← markReviewEventApplied eventId
  if wasApplied then
    writes fun t =>
      let previous := Table.find projectedLine t.projection event.lineId
      .ok { t with
        projection := Table.put projectedLine t.projection (applyCountLineReviewEventToSnapshot event previous) }
    pure true
  else pure false

def insertReviewEvent (eventId : String) (event : CountLineReviewEvent) (ts : Int) : ReviewStatement Bool :=
  transacts fun t =>
    if eventId ∈ t.events.map (·.eventId) then .ok (false, t)
    else .ok (true, { t with events := t.events ++ [⟨eventId, event, ts, event.syncStatus⟩] })

def recordCountLineReviewEvent (eventId : String) (event : CountLineReviewEvent) (ts : Int) : ReviewStatement Bool :=
  transaction do
    let inserted ← insertReviewEvent eventId event ts
    if inserted then
      let _ ← applyReviewEvent eventId event
      pure true
    else pure false

def liveReviewEvents (t : ReviewTables) : List ReviewEventRow :=
  (t.events.filter fun row => row.syncStatus != "failed").mergeSort fun a b => a.eventTs ≤ b.eventTs

def rebuildCountLineReviewProjections : ReviewStatement Unit :=
  transaction do
    writes fun t => .ok { t with applied := [], projection := [] }
    let rows ← reads fun t => .ok (liveReviewEvents t)
    rows.forM fun row => do
      let _ ← applyReviewEvent row.eventId row.event

def ReviewEventRow.rebound (currentLineId serverLineId : String) (row : ReviewEventRow) : ReviewEventRow :=
  if row.event.lineId = currentLineId then { row with event := { row.event with lineId := serverLineId } } else row

/-- `UPDATE count_line_review_projection SET line_id = ?`: the line id is the primary key. -/
def rebindProjection (currentLineId serverLineId : String) : ReviewStatement Unit :=
  writes fun t =>
    if currentLineId ∈ t.projection.map projectedLine ∧ serverLineId ∈ t.projection.map projectedLine then
      .error (.constraint "count_line_review_projection")
    else .ok { t with
      projection := Table.modify projectedLine currentLineId (fun row => { row with lineId := serverLineId })
        t.projection }

def rebindCountLineReviewLineId (currentLineId serverLineId : String) : ReviewStatement Unit :=
  if currentLineId = "" ∨ serverLineId = "" ∨ currentLineId = serverLineId then pure ()
  else transaction do
    writes fun t => .ok { t with events := t.events.map (ReviewEventRow.rebound currentLineId serverLineId) }
    rebindProjection currentLineId serverLineId

inductive ReviewMove where
  | record (eventId : String) (event : CountLineReviewEvent) (ts : Int)
  | rebind
  | rebuild

/-- The tables, whether the line has been rebound, and whether a rebind has failed. -/
structure ReviewDevice where
  tables : ReviewTables := {}
  rebound : Bool := false
  failed : Bool := false

def ReviewDevice.step (localLineId serverLineId : String) (d : ReviewDevice) : ReviewMove → ReviewDevice
  | .record eventId event ts => { d with tables := (recordCountLineReviewEvent eventId event ts).final d.tables }
  | .rebind =>
    let rebind := rebindCountLineReviewLineId localLineId serverLineId
    { tables := rebind.final d.tables
      rebound := d.rebound || rebind.succeeds d.tables
      failed := d.failed || !rebind.succeeds d.tables }
  | .rebuild => { d with tables := rebuildCountLineReviewProjections.final d.tables }

def foldReviewEvents (events : List CountLineReviewEvent) : Option ProjectedCountLineReviewSnapshot :=
  Table.foldEvents applyCountLineReviewEventToSnapshot none events

/-- The events under either id in time order, all under the server's id. -/
def reviewHistory (localLineId serverLineId : String) (t : ReviewTables) : List CountLineReviewEvent :=
  ((t.events.filter fun row => row.event.lineId = localLineId ∨ row.event.lineId = serverLineId).mergeSort
    fun a b => a.eventTs ≤ b.eventTs).map fun row => { row.event with lineId := serverLineId }

/-- No rebind has failed, and a line that was rebound shows the fold of its whole history. -/
structure KeepsHistory (localLineId serverLineId : String) (d : ReviewDevice) : Prop where
  never : d.failed = false
  shown : d.rebound = true →
    Table.find projectedLine d.tables.projection serverLineId =
      foldReviewEvents (reviewHistory localLineId serverLineId d.tables)

/-- The tables after a new event was folded into its line. -/
def appliedReview (t : ReviewTables) (row : ReviewEventRow) : ReviewTables :=
  { t with
    applied := t.applied ++ [row.eventId]
    projection := Table.applyEvent projectedLine CountLineReviewEvent.lineId applyCountLineReviewEventToSnapshot
      t.projection row.event }

variable {t : ReviewTables}

theorem applyReviewEvent_fresh {row : ReviewEventRow} (fresh : row.eventId ∉ t.applied) :
    applyReviewEvent row.eventId row.event t = .ok true (appliedReview t row) := by
  have marked : markReviewEventApplied row.eventId t = .ok true { t with applied := t.applied ++ [row.eventId] } := by
    rw [markReviewEventApplied, transacts_ok, if_neg fresh]
  exact bind_ok.mpr ⟨true, _, marked, rfl⟩

/-- Events with new ids are applied one after another, by induction on their list. -/
theorem applyReviewEvents_fresh {rows : List ReviewEventRow} (t : ReviewTables)
    (distinct : (rows.map ReviewEventRow.eventId).Nodup) (fresh : ∀ row ∈ rows, row.eventId ∉ t.applied) :
    (rows.forM fun row => do let _ ← applyReviewEvent row.eventId row.event) t =
      .ok PUnit.unit (rows.foldl appliedReview t) := by
  induction rows generalizing t with
  | nil => rfl
  | cons row rest ih =>
    rw [List.map_cons, List.nodup_cons] at distinct
    have first : (do let _ ← applyReviewEvent row.eventId row.event : ReviewStatement PUnit) t =
        .ok PUnit.unit (appliedReview t row) :=
      bind_ok.mpr ⟨true, _, applyReviewEvent_fresh (fresh row List.mem_cons_self), rfl⟩
    apply bind_ok.mpr
    refine ⟨PUnit.unit, _, first, ?_⟩
    apply ih (appliedReview t row) distinct.2
    intro later member applied
    rcases List.mem_append.mp applied with earlier | now
    · exact fresh later (List.mem_cons_of_mem _ member) earlier
    · apply distinct.1
      rw [← List.mem_singleton.mp now]
      exact List.mem_map_of_mem member

theorem foldl_appliedReview (rows : List ReviewEventRow)
      (t : ReviewTables) : rows.foldl appliedReview t = { t with
        applied := t.applied ++ rows.map ReviewEventRow.eventId
        projection := (rows.map ReviewEventRow.event).foldl (Table.applyEvent projectedLine
          CountLineReviewEvent.lineId applyCountLineReviewEventToSnapshot) t.projection } := by
  induction rows generalizing t with
  | nil => simp
  | cons row rest ih =>
    rw [List.foldl_cons, ih]
    simp [appliedReview]

/-- Recording does nothing for a known event, and adds and folds a new one. -/
theorem record_final (eventId : String) (event : CountLineReviewEvent) (ts : Int)
    (logged : ∀ id ∈ t.applied, id ∈ t.events.map ReviewEventRow.eventId) :
    (recordCountLineReviewEvent eventId event ts).final t = t ∨ eventId ∉ t.events.map ReviewEventRow.eventId ∧
        (recordCountLineReviewEvent eventId event ts).final t =
          appliedReview { t with events := t.events ++ [⟨eventId, event, ts, event.syncStatus⟩] }
            ⟨eventId, event, ts, event.syncStatus⟩ := by
  by_cases known : eventId ∈ t.events.map ReviewEventRow.eventId
  · left
    have skipped : insertReviewEvent eventId event ts t = .ok false t := by
      rw [insertReviewEvent, transacts_ok, if_pos known]
    apply final_of_ok (a := false)
    rw [recordCountLineReviewEvent, transaction_ok]
    exact bind_ok.mpr ⟨false, t, skipped, rfl⟩
  · right
    refine ⟨known, ?_⟩
    have inserted : insertReviewEvent eventId event ts t =
        .ok true { t with events := t.events ++ [⟨eventId, event, ts, event.syncStatus⟩] } := by
      rw [insertReviewEvent, transacts_ok, if_neg known]
    have fresh : eventId ∉ t.applied := fun applied => known (logged eventId applied)
    apply final_of_ok (a := true)
    rw [recordCountLineReviewEvent, transaction_ok]
    refine bind_ok.mpr ⟨true, _, inserted, ?_⟩
    exact bind_ok.mpr ⟨true, _, @applyReviewEvent_fresh _ ⟨eventId, event, ts, event.syncStatus⟩ fresh, rfl⟩

/-- A rebuild folds the live events in time order. -/
theorem rebuild_final_review (distinct : (t.events.map ReviewEventRow.eventId).Nodup) :
    rebuildCountLineReviewProjections.final t =
      { t with
        applied := (liveReviewEvents t).map ReviewEventRow.eventId
        projection := ((liveReviewEvents t).map ReviewEventRow.event).foldl (Table.applyEvent projectedLine
          CountLineReviewEvent.lineId applyCountLineReviewEventToSnapshot) [] } := by
  have once : ((liveReviewEvents t).map ReviewEventRow.eventId).Nodup := by
    have sorted := (List.mergeSort_perm (t.events.filter fun row => row.syncStatus != "failed")
      fun a b => a.eventTs ≤ b.eventTs).map ReviewEventRow.eventId
    rw [liveReviewEvents, sorted.nodup_iff]
    exact distinct.sublist (List.filter_sublist.map _)
  have cleared : (writes fun t : ReviewTables => .ok { t with applied := [], projection := [] } : ReviewStatement Unit) t =
      .ok () { t with applied := [], projection := [] } := rfl
  have applied := applyReviewEvents_fresh { t with applied := [], projection := [] } once fun row _ listed => by
    cases listed
  rw [foldl_appliedReview] at applied
  apply final_of_ok (a := ())
  rw [rebuildCountLineReviewProjections, transaction_ok]
  refine bind_ok.mpr ⟨(), _, cleared, ?_⟩
  exact bind_ok.mpr ⟨liveReviewEvents t, _, rfl, applied⟩

theorem applyReview_keepsKey :
    Table.KeepsKey projectedLine CountLineReviewEvent.lineId applyCountLineReviewEventToSnapshot := by
  intro event row same
  have base : (row.getD (buildEmptySnapshot event)).lineId = event.lineId := by
    cases row with
    | none => rfl
    | some old => exact same old rfl
  unfold applyCountLineReviewEventToSnapshot projectedLine
  cases event.body <;> exact base

def lineEvents (lineId : String) (t : ReviewTables) : List CountLineReviewEvent :=
  (t.events.map ReviewEventRow.event).filter fun event => event.lineId = lineId

def ofEither (localLineId serverLineId : String) (row : ReviewEventRow) : Bool :=
  row.event.lineId = localLineId ∨ row.event.lineId = serverLineId

/-- The events of the two ids are live and stand in time order, and the row of each id is the fold
of its events. -/
structure FoldedReviews (localLineId serverLineId : String) (t : ReviewTables) : Prop where
  distinct : (t.events.map ReviewEventRow.eventId).Nodup
  logged : ∀ id ∈ t.applied, id ∈ t.events.map ReviewEventRow.eventId
  ordered : (t.events.filter (ofEither localLineId serverLineId)).Pairwise fun a b => a.eventTs ≤ b.eventTs
  live : ∀ row ∈ t.events, ofEither localLineId serverLineId row = true → row.syncStatus ≠ "failed"
  folded : ∀ lineId, lineId = localLineId ∨ lineId = serverLineId →
    Table.find projectedLine t.projection lineId = foldReviewEvents (lineEvents lineId t)

variable {localLineId serverLineId : String}

theorem FoldedReviews.init : FoldedReviews localLineId serverLineId {} := by
  constructor
  · exact List.nodup_nil
  · intro id listed
    cases listed
  · exact List.Pairwise.nil
  · intro row member
    cases member
  · intro lineId _
    rfl

theorem FoldedReviews.record {eventId : String} {event : CountLineReviewEvent} {ts : Int}
    (sound : FoldedReviews localLineId serverLineId t)
    (orderly : event.lineId = localLineId ∨ event.lineId = serverLineId → event.syncStatus ≠ "failed" ∧
      ∀ row ∈ t.events, ofEither localLineId serverLineId row = true → row.eventTs ≤ ts) :
    FoldedReviews localLineId serverLineId ((recordCountLineReviewEvent eventId event ts).final t) := by
  rcases record_final eventId event ts sound.logged with same | ⟨fresh, recorded⟩
  · rw [same]
    exact sound
  · rw [recorded]
    constructor
    · change ((t.events ++ [_]).map ReviewEventRow.eventId).Nodup
      rw [List.map_append, List.map_singleton, ← List.concat_eq_append]
      exact sound.distinct.concat fresh
    · intro id applied
      change id ∈ (t.events ++ [_]).map ReviewEventRow.eventId
      rw [List.map_append, List.mem_append]
      rcases List.mem_append.mp applied with earlier | now
      · exact .inl (sound.logged id earlier)
      · exact .inr (by simpa using now)
    · change ((t.events ++ [_]).filter _).Pairwise _
      rw [List.filter_append]
      apply List.pairwise_append.mpr
      refine ⟨sound.ordered, List.Pairwise.filter _ (List.pairwise_singleton _ _), ?_⟩
      intro earlier before later now
      obtain ⟨member, own⟩ := List.mem_filter.mp before
      obtain ⟨new, chosen⟩ := List.mem_filter.mp now
      rw [List.mem_singleton] at new
      subst new
      exact (orderly (by simpa [ofEither] using chosen)).2 earlier member own
    · intro row member own
      rcases List.mem_append.mp member with earlier | now
      · exact sound.live row earlier own
      · rw [List.mem_singleton] at now
        subst now
        exact (orderly (by simpa [ofEither] using own)).1
    · intro lineId either
      change Table.find projectedLine (Table.applyEvent _ _ _ _ _) lineId = _
      rw [Table.find_applyEvent applyReview_keepsKey, sound.folded lineId either]
      have split : lineEvents lineId (appliedReview
            { t with events := t.events ++ [⟨eventId, event, ts, event.syncStatus⟩] }
            ⟨eventId, event, ts, event.syncStatus⟩) =
          lineEvents lineId t ++ [event].filter fun event => event.lineId = lineId := by
        simp [lineEvents, appliedReview]
      rw [split, foldReviewEvents, foldReviewEvents, Table.foldEvents, Table.foldEvents, List.foldl_append]
      by_cases named : event.lineId = lineId
      · simp [named]
      · simp [named]

theorem FoldedReviews.rebuild (sound : FoldedReviews localLineId serverLineId t) :
    FoldedReviews localLineId serverLineId (rebuildCountLineReviewProjections.final t) := by
  rw [rebuild_final_review sound.distinct]
  constructor
  · exact sound.distinct
  · intro id applied
    obtain ⟨row, member, rfl⟩ := List.mem_map.mp applied
    have live := (List.mergeSort_perm _ _).mem_iff.mp member
    exact List.mem_map_of_mem (List.mem_of_mem_filter live)
  · exact sound.ordered
  · exact sound.live
  · intro lineId either
    change Table.find projectedLine (List.foldl _ _ _) lineId = _
    rw [Table.find_applyEvents applyReview_keepsKey]
    have own : ∀ row : ReviewEventRow, decide (row.event.lineId = lineId) = true →
        ofEither localLineId serverLineId row = true := by
      intro row named
      rw [decide_eq_true_eq] at named
      rw [ofEither, named]
      simpa using either
    have kept : (t.events.filter fun row => row.syncStatus != "failed").filter (fun row => row.event.lineId = lineId) =
        t.events.filter fun row => row.event.lineId = lineId := by
      rw [List.filter_filter]
      apply List.filter_congr
      intro row member
      by_cases named : row.event.lineId = lineId
      · have live := sound.live row member (own row (by simpa using named))
        simp [named, live]
      · simp [named]
    have ordered : ((t.events.filter fun row => row.syncStatus != "failed").filter
        fun row => row.event.lineId = lineId).Pairwise fun a b => decide (a.eventTs ≤ b.eventTs) = true := by
      rw [kept]
      have chosen := sound.ordered.sublist (List.monotone_filter_right t.events own)
      apply chosen.imp
      intro a b before
      simpa using before
    have sorted : (liveReviewEvents t).filter (fun row => row.event.lineId = lineId) =
        t.events.filter fun row => row.event.lineId = lineId := by
      rw [liveReviewEvents, filter_mergeSort _ _ _ ordered, kept]
      · intro a b c
        simp only [decide_eq_true_eq]
        omega
      · intro a b
        simp only [Bool.or_eq_true, decide_eq_true_eq]
        omega
    have events : ((liveReviewEvents t).map ReviewEventRow.event).filter (fun event => event.lineId = lineId) =
        lineEvents lineId t := by
      rw [lineEvents, List.filter_map, List.filter_map]
      change ((liveReviewEvents t).filter fun row => row.event.lineId = lineId).map _ = _
      rw [sorted]
      rfl
    rw [events]
    rfl

def moveEvent (serverLineId : String) (event : CountLineReviewEvent) : CountLineReviewEvent :=
  { event with lineId := serverLineId }

def moveSnapshot (serverLineId : String) (row : ProjectedCountLineReviewSnapshot) : ProjectedCountLineReviewSnapshot :=
  { row with lineId := serverLineId }

theorem applyReview_moves (serverLineId : String) (event : CountLineReviewEvent)
    (row : Option ProjectedCountLineReviewSnapshot) :
    applyCountLineReviewEventToSnapshot (moveEvent serverLineId event) (row.map (moveSnapshot serverLineId)) =
      moveSnapshot serverLineId (applyCountLineReviewEventToSnapshot event row) := by
  unfold applyCountLineReviewEventToSnapshot moveEvent
  cases row with
  | none | some old =>
    dsimp only
    cases event.body <;> rfl

theorem projected_iff (sound : FoldedReviews localLineId serverLineId t) {lineId : String}
    (either : lineId = localLineId ∨ lineId = serverLineId) :
    lineId ∈ t.projection.map projectedLine ↔ ∃ row ∈ t.events, row.event.lineId = lineId := by
  have absent : lineId ∉ t.projection.map projectedLine ↔ lineEvents lineId t = [] := by
    rw [← Table.find_eq_none, sound.folded lineId either, foldReviewEvents, Table.foldEvents_eq_none]
  rw [← not_iff_not, absent, lineEvents, List.filter_eq_nil_iff]
  simp

/-- The tables after a rebind that succeeds. -/
def reboundTables (localLineId serverLineId : String) (t : ReviewTables) : ReviewTables :=
  { t with
    events := t.events.map (ReviewEventRow.rebound localLineId serverLineId)
    projection := Table.modify projectedLine localLineId (moveSnapshot serverLineId) t.projection }

/-- Two ids that a rebind acts on. -/
structure Rebindable (localLineId serverLineId : String) : Prop where
  current : localLineId ≠ ""
  server : serverLineId ≠ ""
  different : localLineId ≠ serverLineId

theorem rebind_ok (ids : Rebindable localLineId serverLineId) (sound : FoldedReviews localLineId serverLineId t)
    (apart : ¬ ((∃ row ∈ t.events, row.event.lineId = localLineId) ∧ ∃ row ∈ t.events, row.event.lineId = serverLineId)) :
    rebindCountLineReviewLineId localLineId serverLineId t = .ok () (reboundTables localLineId serverLineId t) := by
  have guard : ¬ (localLineId = "" ∨ serverLineId = "" ∨ localLineId = serverLineId) := by
    rintro (empty | empty | same)
    · exact ids.current empty
    · exact ids.server empty
    · exact ids.different same
  have free : ¬ (localLineId ∈ t.projection.map projectedLine ∧ serverLineId ∈ t.projection.map projectedLine) := by
    rw [projected_iff sound (.inl rfl), projected_iff sound (.inr rfl)]
    exact apart
  rw [rebindCountLineReviewLineId, if_neg guard, transaction_ok]
  refine bind_ok.mpr ⟨(), _, rfl, ?_⟩
  rw [rebindProjection, writes_ok, if_neg (by exact free)]
  rfl

theorem lineEvents_rebound_local (different : localLineId ≠ serverLineId) (t : ReviewTables) :
    lineEvents localLineId (reboundTables localLineId serverLineId t) = [] := by
  rw [lineEvents, List.filter_eq_nil_iff]
  intro event member
  obtain ⟨row, inTable, rfl⟩ := List.mem_map.mp member
  obtain ⟨old, _, rfl⟩ := List.mem_map.mp inTable
  rw [ReviewEventRow.rebound]
  by_cases named : old.event.lineId = localLineId
  · simp [named, different.symm]
  · simp [named]

theorem lineEvents_rebound_server (t : ReviewTables) (fresh : ∀ row ∈ t.events, row.event.lineId ≠ serverLineId) :
    lineEvents serverLineId (reboundTables localLineId serverLineId t) =
      (lineEvents localLineId t).map (moveEvent serverLineId) := by
  unfold lineEvents reboundTables
  dsimp only
  generalize t.events = events at fresh
  induction events with
  | nil => rfl
  | cons row rest ih =>
    have later := ih fun other member => fresh other (List.mem_cons_of_mem _ member)
    have own := fresh row List.mem_cons_self
    simp only [List.map_cons, List.filter_cons, ReviewEventRow.rebound]
    by_cases named : row.event.lineId = localLineId
    · simp only [named, if_true, decide_true, List.map_cons, ← later]
      rfl
    · simp only [named, own, if_false, decide_false, Bool.false_eq_true]
      exact later

theorem ReviewEventRow.rebound_keeps (row : ReviewEventRow) :
    (row.rebound localLineId serverLineId).eventId = row.eventId ∧
      (row.rebound localLineId serverLineId).eventTs = row.eventTs ∧
      (row.rebound localLineId serverLineId).syncStatus = row.syncStatus := by
  unfold ReviewEventRow.rebound
  split
  · exact ⟨rfl, rfl, rfl⟩
  · exact ⟨rfl, rfl, rfl⟩

theorem ofEither_rebound (row : ReviewEventRow) :
    ofEither localLineId serverLineId (row.rebound localLineId serverLineId) =
      ofEither localLineId serverLineId row := by
  unfold ReviewEventRow.rebound ofEither
  by_cases named : row.event.lineId = localLineId
  · simp [named]
  · simp [named]

theorem eventIds_rebound (t : ReviewTables) :
    (reboundTables localLineId serverLineId t).events.map ReviewEventRow.eventId =
      t.events.map ReviewEventRow.eventId := by
  rw [reboundTables, List.map_map]
  apply List.map_congr_left
  intro row _
  exact row.rebound_keeps.1

theorem ofEither_reboundTables (t : ReviewTables) :
    (reboundTables localLineId serverLineId t).events.filter (ofEither localLineId serverLineId) =
      (t.events.filter (ofEither localLineId serverLineId)).map
        (ReviewEventRow.rebound localLineId serverLineId) := by
  rw [reboundTables, List.filter_map]
  congr 1
  apply List.filter_congr
  intro row _
  exact ofEither_rebound row

theorem events_unrebound (unreviewed : ¬ ∃ row ∈ t.events, row.event.lineId = localLineId) :
    (reboundTables localLineId serverLineId t).events = t.events := by
  rw [reboundTables]
  dsimp only
  conv_rhs => rw [← List.map_id t.events]
  apply List.map_congr_left
  intro row member
  have other : row.event.lineId ≠ localLineId := fun same => unreviewed ⟨row, member, same⟩
  rw [ReviewEventRow.rebound, if_neg other, id]

section

variable (ids : Rebindable localLineId serverLineId) (sound : FoldedReviews localLineId serverLineId t)
  (apart : ¬ ((∃ row ∈ t.events, row.event.lineId = localLineId) ∧ ∃ row ∈ t.events, row.event.lineId = serverLineId))
include ids sound apart

/-- Each of the two lines shows the fold of the events that the rebind leaves it. -/
theorem FoldedReviews.rebound_folded (lineId : String) (either : lineId = localLineId ∨ lineId = serverLineId) :
    Table.find projectedLine (reboundTables localLineId serverLineId t).projection lineId =
      foldReviewEvents (lineEvents lineId (reboundTables localLineId serverLineId t)) := by
  have moved : ∀ row, projectedLine (moveSnapshot serverLineId row) = serverLineId := fun _ => rfl
  by_cases reviewed : ∃ row ∈ t.events, row.event.lineId = serverLineId
  · -- the local id has no events, and nothing is moved
    have unreviewed : ¬ ∃ row ∈ t.events, row.event.lineId = localLineId := fun both => apart ⟨both, reviewed⟩
    have absent : localLineId ∉ t.projection.map projectedLine := by
      rw [projected_iff sound (.inl rfl)]
      exact unreviewed
    rw [lineEvents, events_unrebound unreviewed]
    change Table.find projectedLine (Table.modify projectedLine localLineId _ t.projection) lineId = _
    rw [Table.modify_absent absent]
    exact sound.folded lineId either
  · have fresh : ∀ row ∈ t.events, row.event.lineId ≠ serverLineId :=
      fun row member same => reviewed ⟨row, member, same⟩
    have free : serverLineId ∉ t.projection.map projectedLine := by
      rw [projected_iff sound (.inr rfl)]
      exact reviewed
    obtain ⟨found, gone⟩ := Table.find_rekey ids.different moved free
    rcases either with rfl | rfl
    · rw [lineEvents_rebound_local ids.different]
      exact gone
    · rw [lineEvents_rebound_server t fresh]
      change Table.find projectedLine (Table.modify projectedLine localLineId _ t.projection) lineId = _
      rw [found, sound.folded localLineId (.inl rfl), foldReviewEvents, foldReviewEvents]
      exact (Table.foldEvents_map (applyReview_moves lineId) (lineEvents localLineId t) none).symm

theorem FoldedReviews.rebind : FoldedReviews localLineId serverLineId (reboundTables localLineId serverLineId t) := by
  constructor
  · rw [eventIds_rebound]
    exact sound.distinct
  · rw [eventIds_rebound]
    exact sound.logged
  · rw [ofEither_reboundTables, List.pairwise_map]
    apply sound.ordered.imp
    intro a b before
    rw [a.rebound_keeps.2.1, b.rebound_keeps.2.1]
    exact before
  · intro row member own
    obtain ⟨old, inTable, rfl⟩ := List.mem_map.mp member
    rw [ofEither_rebound] at own
    rw [old.rebound_keeps.2.2]
    exact sound.live old inTable own
  · exact sound.rebound_folded ids apart

end

/-- What a step must meet: the events of the two ids come in time order and not as failed ones, none
comes under the local id after the rebind, and a rebind does not find events under both ids. -/
def ReviewDevice.Orderly (localLineId serverLineId : String) (d : ReviewDevice) : ReviewMove → Prop
  | .record _ event ts => event.lineId = localLineId ∨ event.lineId = serverLineId →
    (event.syncStatus ≠ "failed" ∧
        ∀ row ∈ d.tables.events, ofEither localLineId serverLineId row = true → row.eventTs ≤ ts) ∧
      (d.rebound = true → event.lineId = serverLineId)
  | .rebind => ¬ ((∃ row ∈ d.tables.events, row.event.lineId = localLineId) ∧
      ∃ row ∈ d.tables.events, row.event.lineId = serverLineId)
  | .rebuild => True

/-- The tables are folded, no rebind has failed, and a rebound line has left its local id. -/
structure ReboundReviews (localLineId serverLineId : String) (d : ReviewDevice) : Prop where
  tables : FoldedReviews localLineId serverLineId d.tables
  never : d.failed = false
  moved : d.rebound = true → ∀ row ∈ d.tables.events, row.event.lineId ≠ localLineId

theorem rebuild_events (t : ReviewTables) (distinct : (t.events.map ReviewEventRow.eventId).Nodup) :
    (rebuildCountLineReviewProjections.final t).events = t.events := by
  rw [rebuild_final_review distinct]

/-- One step keeps the invariant. -/
theorem ReboundReviews.step (ids : Rebindable localLineId serverLineId) {d : ReviewDevice} {move : ReviewMove}
    (sound : ReboundReviews localLineId serverLineId d) (orderly : d.Orderly localLineId serverLineId move) :
    ReboundReviews localLineId serverLineId (d.step localLineId serverLineId move) := by
  cases move with
  | record eventId event ts =>
    constructor
    · exact sound.tables.record fun either => (orderly either).1
    · exact sound.never
    · intro rebound row member
      change row ∈ ((recordCountLineReviewEvent eventId event ts).final d.tables).events at member
      rcases record_final eventId event ts sound.tables.logged with same | ⟨_, recorded⟩
      · rw [same] at member
        exact sound.moved rebound row member
      · rw [recorded] at member
        rcases List.mem_append.mp member with earlier | now
        · exact sound.moved rebound row earlier
        · rw [List.mem_singleton] at now
          subst now
          intro onLocal
          exact ids.different (onLocal.symm.trans ((orderly (.inl onLocal)).2 rebound))
  | rebind =>
    have rebound := rebind_ok ids sound.tables orderly
    have final := final_of_ok rebound
    have succeeds := succeeds_of_ok rebound
    constructor
    · change FoldedReviews _ _ ((rebindCountLineReviewLineId localLineId serverLineId).final d.tables)
      rw [final]
      exact sound.tables.rebind ids orderly
    · simp [ReviewDevice.step, succeeds, sound.never]
    · intro _ row member
      change row ∈ ((rebindCountLineReviewLineId localLineId serverLineId).final d.tables).events at member
      rw [final] at member
      obtain ⟨old, _, rfl⟩ := List.mem_map.mp member
      unfold ReviewEventRow.rebound
      by_cases named : old.event.lineId = localLineId
      · rw [if_pos named]
        exact ids.different.symm
      · rw [if_neg named]
        exact named
  | rebuild =>
    constructor
    · exact sound.tables.rebuild
    · exact sound.never
    · intro rebound row member
      change row ∈ (rebuildCountLineReviewProjections.final d.tables).events at member
      rw [rebuild_events _ sound.tables.distinct] at member
      exact sound.moved rebound row member

/-- Where all events of the two ids are under the server's id, its events are the history. -/
theorem reviewHistory_moved (sound : FoldedReviews localLineId serverLineId t)
    (moved : ∀ row ∈ t.events, row.event.lineId ≠ localLineId) :
    reviewHistory localLineId serverLineId t = lineEvents serverLineId t := by
  have chosen : (t.events.filter fun row => row.event.lineId = localLineId ∨ row.event.lineId = serverLineId) =
      t.events.filter fun row => row.event.lineId = serverLineId := by
    apply List.filter_congr
    intro row member
    simp [moved row member]
  have ordered : (t.events.filter fun row => row.event.lineId = serverLineId).Pairwise
      fun a b => decide (a.eventTs ≤ b.eventTs) = true := by
    rw [← chosen]
    apply sound.ordered.imp
    intro a b before
    simpa using before
  rw [reviewHistory, chosen, List.mergeSort_of_pairwise ordered, lineEvents, List.filter_map]
  change _ = (t.events.filter fun row => row.event.lineId = serverLineId).map ReviewEventRow.event
  apply List.map_congr_left
  intro row member
  have named : row.event.lineId = serverLineId := by simpa using (List.mem_filter.mp member).2
  rw [← named]

/-- In a run of orderly steps no rebind fails, and the projection of a rebound line is the fold of
its history. -/
theorem rebound_line_keeps_history (ids : Rebindable localLineId serverLineId) {last : ReviewDevice}
    (run : Reaches (ReviewDevice.step localLineId serverLineId) (ReviewDevice.Orderly localLineId serverLineId) {} last) :
    KeepsHistory localLineId serverLineId last := by
  have first : ReboundReviews localLineId serverLineId {} := by
    constructor
    · exact FoldedReviews.init
    · rfl
    · intro rebound
      cases rebound
  have sound := run.invariant first fun d move before meets => before.step ids meets
  constructor
  · exact sound.never
  · intro rebound
    rw [reviewHistory_moved sound.tables (sound.moved rebound)]
    exact sound.tables.folded serverLineId (.inr rfl)

def localApproval : CountLineReviewEvent where
  lineId := "l1"
  sessionId := none
  actor := "anna"
  at_ := 1
  body := .approved none

def serverCheck : CountLineReviewEvent where
  lineId := "s1"
  sessionId := none
  actor := "bob"
  at_ := 2
  body := .verified

def reviewedUnderBoth : ReviewDevice :=
  [ReviewMove.record "e1" localApproval 1, .record "e2" serverCheck 2, .rebind].foldl (ReviewDevice.step "l1" "s1") {}

theorem rebind_breaks_key :
    reviewedUnderBoth.failed = true ∧
      ¬ ∀ last, Reaches (ReviewDevice.step "l1" "s1") (fun _ _ => True) {} last → KeepsHistory "l1" "s1" last := by
  have failed : reviewedUnderBoth.failed = true := by decide +kernel
  refine ⟨failed, ?_⟩
  intro always
  have kept := (always reviewedUnderBoth (Reaches.foldl fun _ _ _ => trivial)).never
  rw [failed] at kept
  cases kept

/-- The same reviews with the rebind between them. -/
def reboundBetween : ReviewDevice :=
  [ReviewMove.record "e1" localApproval 1, .rebind, .record "e2" serverCheck 2, .rebuild].foldl
    (ReviewDevice.step "l1" "s1") {}

theorem rebound_line_between : reboundBetween.rebound = true ∧ KeepsHistory "l1" "s1" reboundBetween := by
  have recorded : (ReviewDevice.step "l1" "s1" {} (.record "e1" localApproval 1)).tables.events =
      [⟨"e1", localApproval, 1, "pending"⟩] := rfl
  have moved : ((ReviewDevice.step "l1" "s1" {} (.record "e1" localApproval 1)).step "l1" "s1" .rebind).tables.events =
      [⟨"e1", moveEvent "s1" localApproval, 1, "pending"⟩] := rfl
  refine ⟨by decide +kernel, rebound_line_keeps_history ⟨by decide, by decide, by decide⟩ ?_⟩
  refine .next ReviewMove.rebuild (.next (ReviewMove.record "e2" serverCheck 2) (.next ReviewMove.rebind
    (.next (ReviewMove.record "e1" localApproval 1) .start ?_) ?_) ?_) trivial
  · intro _
    refine ⟨⟨by decide, ?_⟩, ?_⟩
    · intro row member
      cases member
    · intro rebound
      cases rebound
  · rintro ⟨_, row, member, named⟩
    rw [recorded, List.mem_singleton] at member
    subst member
    revert named
    decide
  · intro _
    refine ⟨⟨by decide, ?_⟩, ?_⟩
    · intro row member _
      rw [moved, List.mem_singleton] at member
      subst member
      decide
    · intro _
      rfl

end StockVerification
