import StockVerification.ProjectionReplay

/-!
# Rebuilding the projections of one session

A rebuild clears the rows of a session and replays the events that name it. The serials
stand under their item, the lines and the conflicts under their own names, whatever the
session: the replay meets the rows of other sessions wherever the session shares such a
name with one of them. Where it shares none, its rows evolve by themselves.
-/
namespace StockVerification

open Foundation Projection

def Selected (sessionId : String) (e : ProjectionEvent) : Prop :=
  (sessionIs sessionId).holds e.payload.fields = true

instance (sessionId : String) : DecidablePred (Selected sessionId) := fun e =>
  inferInstanceAs (Decidable ((sessionIs sessionId).holds e.payload.fields = true))

/-- The event names the session, and so does the line it logs. -/
structure Names (e : ProjectionEvent) (sessionId : String) : Prop where
  payload : e.payload.fields "session_id" = some (.str sessionId)
  plain : normalizeString (.str sessionId) = some sessionId
  logged : ∀ line, loggedLine e = some line → (sessionIs sessionId).holds line = true

/-- Nothing that the event writes is about the session. -/
structure Elsewhere (e : ProjectionEvent) (sessionId : String) : Prop where
  unselected : ¬ Selected sessionId e
  target : sessionEvents.contains e.kind = true →
    normalizeString ((e.field "session_id").orElse (.str e.aggregateId)) ≠ some sessionId
  line : ∀ line, Projection.lineOf e = some line → e.lineSession line ≠ some sessionId
  logged : ∀ line, loggedLine e = some line → (sessionIs sessionId).holds line = false

variable (e : ProjectionEvent)

def lineIdOf : Option String :=
  (Projection.lineOf e).bind fun line => (lineIdentifier line).or (normalizeString (e.field "count_line_id"))

def serialsTouched : List String :=
  serialsOf e.payload.after ++ serialsOf e.payload.before

def itemOf : Option EventItem := (inventoryLine e).bind (eventItem e)

/-- Two events share no name that leads to a row of both. -/
structure Apart (a b : ProjectionEvent) : Prop where
  serials : ∀ serial ∈ serialsTouched a, serial ∈ serialsTouched b →
    ∀ i j, itemOf a = some i → itemOf b = some j → i.itemId ≠ j.itemId ∧ i.itemCode ≠ j.itemCode
  lines : ∀ lineId, lineIdOf a = some lineId → lineIdOf b ≠ some lineId
  queues : ∀ queued, queueOf a = some queued → queueOf b ≠ some queued

/-- A log in which the session shares no row with any other. -/
structure SessionScoped (log : List ProjectionEvent) (sessionId : String) : Prop where
  distinct : (log.map (·.eventId)).Nodup
  identified : ∀ e ∈ log, e.eventId ≠ none
  known : ∀ e ∈ log, eventWrites e = [] ∨ Names e sessionId ∨ Elsewhere e sessionId
  apart : ∀ a ∈ log, ∀ b ∈ log, Names a sessionId → Elsewhere b sessionId → Apart a b

theorem Apart.symm {a b : ProjectionEvent} (apart : Apart a b) : Apart b a where
  serials serial inB inA i j about other := by
    have differ := apart.serials serial inA inB j i other about
    exact ⟨differ.1.symm, differ.2.symm⟩
  lines lineId named other := apart.lines lineId other named
  queues queued named other := apart.queues queued other named

/-- A row of a serial says which item it belongs to. -/
def SerialKey (field : String) (row : Doc) : Prop :=
  ∃ serial ∈ serialsTouched e, ∃ item, itemOf e = some item ∧ row field = some (.str serial) ∧
    row "item_id" = some (.str item.itemId) ∧ row "item_code" = some (.str item.itemCode)

def NamedKey (name : Option String) (field : String) (row : Doc) : Prop :=
  ∃ value, name = some value ∧ row field = some (.str value)

def KeyOf (row : Doc) : ProjectionCollection → Prop
  | .serialRecords | .serialRegistry => SerialKey e "serial_no" row
  | .itemSerials => SerialKey e "serial_number" row
  | .verifiedItems | .varianceSummary => NamedKey (lineIdOf e) "count_line_id" row
  | .damageLogs | .varianceLogs => NamedKey e.eventId "event_id" row
  | .approvals => NamedKey e.eventId "approval_id" row
  | .syncQueue => NamedKey (queueOf e) "queue_id" row
  | _ => ∃ owner, row "session_id" = some (.str owner)

/-- The row belongs to the session where the event does, and stands under the event's names. -/
structure RowOf (e : ProjectionEvent) (sessionId : String) (table : ProjectionCollection) (row : Doc) : Prop where
  side : (sessionIs sessionId).holds row = true ↔ Selected sessionId e
  key : KeyOf e row table

/-- Every row comes from an event of the log. -/
def Sourced (log : List ProjectionEvent) (sessionId : String) (p : Projections) : Prop :=
  ∀ table, ∀ row ∈ p table, ∃ e ∈ log, (Names e sessionId ∨ Elsewhere e sessionId) ∧ RowOf e sessionId table row

/-- What a write needs to stay on its side of the session and to leave rows that come from the
log. -/
def Fits (sessionId : String) (p : Projections) : Write → Prop
  | .delete table query =>
    ∀ d ∈ p table, query.holds d = true → ((sessionIs sessionId).holds d = true ↔ Selected sessionId e)
  | .upsert table query seed plan =>
    (Selected sessionId e → plan (p.only (sessionIs sessionId).holds) = plan p) ∧
    (∀ d ∈ p table, query.holds d = true → ((sessionIs sessionId).holds d = true ↔ Selected sessionId e)) ∧
    ∀ u, plan p = .update u →
      ∀ d new, (d ∈ p table ∧ query.holds d = true ∨ d = seed) → u.apply d = some new → RowOf e sessionId table new

variable {log : List ProjectionEvent} {e : ProjectionEvent} {sessionId target : String} {p q : Projections} {w : Write}

theorem Names.selected (names : Names e sessionId) : Selected sessionId e := by
  simp only [Selected, sessionIs, Filter.holds, Filter.fieldIs_str names.payload, beq_self_eq_true]

theorem Names.orElse (names : Names e sessionId) (other : Value) :
    normalizeString ((e.field "session_id").orElse other) = some sessionId := by
  have nonblank : sessionId ≠ "" := by
    intro blank
    have plain := names.plain
    rw [blank] at plain
    revert plain
    decide
  have field : e.field "session_id" = .str sessionId := Doc.get_of_some names.payload
  rw [field, Value.orElse, Value.truthy_str, if_pos (by simpa using nonblank)]
  exact names.plain

/-- What the event writes about a session is about this one exactly where the event is. -/
def Sided (e : ProjectionEvent) (sessionId target : String) : Prop := target = sessionId ↔ Selected sessionId e

variable {line : Doc}

section Sides

variable (known : Names e sessionId ∨ Elsewhere e sessionId)
include known

theorem sided_line (held : Projection.lineOf e = some line)
    (session : e.lineSession line = some target) : Sided e sessionId target := by
  rcases known with names | other
  · rw [ProjectionEvent.lineSession, names.orElse, Option.some.injEq] at session
    exact iff_of_true session.symm names.selected
  · refine iff_of_false (fun same => ?_) other.unselected
    exact other.line line held (same ▸ session)

theorem sided_session (kind : sessionEvents.contains e.kind = true)
    (named : normalizeString ((e.field "session_id").orElse (.str e.aggregateId)) = some target) :
    Sided e sessionId target := by
  rcases known with names | other
  · rw [names.orElse, Option.some.injEq] at named
    exact iff_of_true named.symm names.selected
  · refine iff_of_false (fun same => ?_) other.unselected
    exact other.target kind (same ▸ named)

end Sides

variable {item : EventItem}

theorem eventItem_session (about : eventItem e line = some item) :
    e.lineSession line = some item.sessionId := by
  simp only [eventItem, Option.bind_eq_bind, Option.bind_eq_some_iff, Option.pure_def, Option.some.injEq] at about
  obtain ⟨owner, session, itemId, _, itemCode, _, rfl⟩ := about
  exact session

theorem Fits.confined (fits : Fits e sessionId p w) (selected : Selected sessionId e) :
    RowWrite.Confined (sessionIs sessionId).holds p w := by
  cases w with
  | delete table query => exact ⟨fun d member found => (fits d member found).mpr selected, trivial⟩
  | upsert table query seed plan =>
    obtain ⟨same, finds, makes⟩ := fits
    refine ⟨⟨fun d member found => (finds d member found).mpr selected, ?_⟩, same selected⟩
    exact fun u planned d new origin applied => (makes u planned d new origin applied).side.mpr selected

theorem Fits.within (fits : Fits e sessionId p w) (unselected : ¬ Selected sessionId e) :
    RowWrite.Within (fun d => !(sessionIs sessionId).holds d) p w := by
  have other : ∀ {d : Doc}, ((sessionIs sessionId).holds d = true ↔ Selected sessionId e) →
      (!(sessionIs sessionId).holds d) = true := by
    intro d side
    rw [Bool.not_eq_true', ← Bool.not_eq_true, side]
    exact unselected
  cases w with
  | delete table query => exact fun d member found => other (fits d member found)
  | upsert table query seed plan =>
    obtain ⟨_, finds, makes⟩ := fits
    refine ⟨fun d member found => other (finds d member found), ?_⟩
    exact fun u planned d new origin applied => other (makes u planned d new origin applied).side

theorem Fits.sourced (fits : Fits e sessionId p w) (logged : e ∈ log) (known : Names e sessionId ∨ Elsewhere e sessionId)
    (sourced : Sourced log sessionId p) (ran : w.run p = some q) : Sourced log sessionId q := by
  intro table row member
  rcases RowWrite.run_some ran with rfl | ⟨shape, rfl⟩ | ⟨seed, plan, u, rows, shape, planned, stored, rfl⟩
  · exact sourced table row member
  · by_cases here : table = w.table
    · subst here
      rw [Tables.put_same] at member
      exact sourced _ row (List.mem_of_mem_eraseP member)
    · rw [Tables.put_other p _ here] at member
      exact sourced table row member
  · by_cases here : table = w.table
    · subst here
      rw [Tables.put_same] at member
      rcases Collection.mem_upsertOne stored member with stays | ⟨old, origin, applied⟩
      · exact sourced _ row stays
      · rw [shape] at fits
        exact ⟨e, logged, known, fits.2.2 u planned old row origin applied⟩
    · rw [Tables.put_other p _ here] at member
      exact sourced table row member

variable {table : ProjectionCollection}

section SessionRows

theorem sessionDoc_session {current next : Doc} (made : sessionDoc e target current = some next) :
    next "session_id" = some (.str target) := by
  simp only [sessionDoc, Option.bind_eq_bind, Option.bind_eq_some_iff, Option.pure_def, Option.some.injEq] at made
  obtain ⟨itemCount, _, version, _, rfl⟩ := made
  have unchanged : ∀ status, Doc.ofList (sessionChanges e current status) "session_id" = none := by
    intro status
    unfold sessionChanges
    split
    · simp
    · simp only [Doc.ofList_cons]
      split
      · next wrong => exact absurd wrong (by decide)
      · split
        · simp
        · split
          · simp
          · split <;> simp
    · simp
    · simp
    · simp
  rw [List.append_assoc, Doc.ofList_append, unchanged]
  rfl

theorem rowOf_stamped (sided : Sided e sessionId target) {row : Doc}
    (stored : row "session_id" = some (.str target)) (key : KeyOf e row table) : RowOf e sessionId table row := by
  refine ⟨?_, key⟩
  simp only [sessionIs, Filter.holds, Filter.fieldIs_str stored, beq_iff_eq]
  exact sided

/-- A row whose session is the one of another document. -/
theorem holds_copied {row d : Doc} (stored : row "session_id" = some (d.get "session_id")) :
    (sessionIs sessionId).holds row = (sessionIs sessionId).holds d := by
  simp only [sessionIs, Filter.holds, Filter.fieldIs, stored, Doc.get_eq]
  cases d "session_id" with
  | none => rfl
  | some v => rfl

theorem itemIs_session (itemCode : String) (d : Doc)
    (found : (itemIs target itemCode).holds d = true) : (sessionIs target).holds d = true := by
  simp only [itemIs, Filter.holds, Bool.and_eq_true] at found
  exact found.1

variable {query : Filter}

theorem found_only
    (within : ∀ d, query.holds d = true → (sessionIs sessionId).holds d = true) :
    found (p.only (sessionIs sessionId).holds) table query = found p table query := by
  rw [found, found, Tables.only, Collection.find_filter fun d _ => within d]

theorem filter_only (table : ProjectionCollection) :
    (p.only (sessionIs sessionId).holds table).filter (sessionIs sessionId).holds =
      (p table).filter (sessionIs sessionId).holds := by
  simp [Tables.only, List.filter_filter]

variable (sided : Sided e sessionId target) (sourced : Sourced log sessionId p)
include sided sourced

theorem finds_session
    (keyed : ∀ o row, KeyOf o row table = ∃ owner, row "session_id" = some (.str owner))
    (within : ∀ d, query.holds d = true → (sessionIs target).holds d = true) :
    ∀ d ∈ p table, query.holds d = true → ((sessionIs sessionId).holds d = true ↔ Selected sessionId e) := by
  intro d member found
  obtain ⟨o, _, _, row⟩ := sourced table d member
  obtain ⟨owner, stored⟩ : ∃ owner, d "session_id" = some (.str owner) := keyed o d ▸ row.key
  have own := within d found
  simp only [sessionIs, Filter.holds, Filter.fieldIs_str stored, beq_iff_eq] at own ⊢
  rw [own]
  exact sided

theorem fits_fields {seed : Doc} {plan : Projections → Planned}
    (keyed : ∀ o row, KeyOf o row table = ∃ owner, row "session_id" = some (.str owner))
    (samePlan : target = sessionId → plan (p.only (sessionIs sessionId).holds) = plan p)
    (within : ∀ d, query.holds d = true → (sessionIs target).holds d = true)
    (stamped : ∀ u, plan p = .update u → u.set "session_id" = some (.str target)) :
    Fits e sessionId p (.upsert table query seed plan) := by
  refine ⟨fun selected => samePlan (sided.mpr selected), finds_session sided sourced keyed within, ?_⟩
  intro u planned d new _ applied
  have stored := Update.apply_set applied (stamped u planned)
  exact rowOf_stamped sided stored (keyed e new ▸ ⟨target, stored⟩)

theorem fits_sessionWrite : Fits e sessionId p (sessionWrite e target) := by
  refine fits_fields sided sourced (fun _ _ => rfl) ?_ (fun d found => found) ?_
  · rintro rfl
    rw [found_only fun d found => found]
  · intro u planned
    split at planned
    · next next made =>
      cases planned
      exact sessionDoc_session made
    · cases planned

theorem fits_financial : Fits e sessionId p (refreshFinancial target) := by
  refine fits_fields sided sourced (fun _ _ => rfl) ?_ (fun d found => found) ?_
  · rintro rfl
    have rows : ∀ row, financialRow (p.only (sessionIs target).holds) target row = financialRow p target row := by
      intro row
      simp only [financialRow, found_only (itemIs_session _)]
    simp only [financialFigures, filter_only, funext rows]
  · intro u planned
    cases planned
    simp [Update.ofSet, financialFigures]

/-- The refresh of the dashboard leaves the session of the row alone. -/
theorem fits_dashboard : Fits e sessionId p (refreshSessionDashboard target) := by
  refine ⟨fun selected => ?_, finds_session sided sourced (fun _ _ => rfl) fun d found => found,
    fun u planned d new origin applied => ?_⟩
  · have same := sided.mpr selected
    subst same
    have sameRow : (p.only (sessionIs target).holds .sessionDashboard).find? (sessionIs target).holds =
        (p .sessionDashboard).find? (sessionIs target).holds :=
      Collection.find_filter fun d _ found => found
    simp only [sameRow, dashboardFigures, filter_only]
  · have before : d "session_id" = some (.str target) := by
      rcases origin with ⟨member, found⟩ | rfl
      · obtain ⟨o, _, _, row⟩ := sourced .sessionDashboard d member
        obtain ⟨owner, stored⟩ : ∃ owner, d "session_id" = some (.str owner) := row.key
        simp only [sessionIs, Filter.holds, Filter.fieldIs_str stored, beq_iff_eq] at found
        rw [stored, found]
      · rfl
    have kept : new "session_id" = some (.str target) := by
      simp only at planned
      split at planned
      · cases planned
        cases applied
        rw [Doc.update_apply, before]
        simp [Update.ofSet, dashboardFigures]
      · cases planned
    exact rowOf_stamped sided kept ⟨target, kept⟩

end SessionRows

section ItemRows

variable (sided : Sided e sessionId item.sessionId) (sourced : Sourced log sessionId p)
include sided sourced

theorem fits_snapshot : Fits e sessionId p (snapshotWrite e line item) := by
  refine fits_fields sided sourced (fun _ _ => rfl) (fun _ => rfl) (itemIs_session item.itemCode) ?_
  intro u planned
  split at planned
  · cases planned
  · cases planned
    simp [snapshotFields]

theorem fits_erp : Fits e sessionId p (erpWrite e line item) := by
  refine fits_fields sided sourced (fun _ _ => rfl) (fun _ => rfl) (itemIs_session item.itemCode) ?_
  intro u planned
  cases planned
  simp [Update.ofSet]

theorem fits_batch {before after : List BatchState} {batchId : String}
    (changed : batchWrite e line item before after batchId = some w) : Fits e sessionId p w := by
  unfold batchWrite at changed
  simp only at changed
  split at changed
  · cases changed
  · cases changed
    refine fits_fields sided sourced (fun _ _ => rfl) (fun _ => rfl) ?_ ?_
    · intro d found
      simp only [batchIs, Filter.holds, Bool.and_eq_true] at found
      exact itemIs_session item.itemCode d (by simpa [Filter.holds] using found.1)
    · intro u planned
      cases planned
      simp

end ItemRows

variable {eventId : String}

section SharedNames

variable (within : SessionScoped log sessionId) (logged : e ∈ log)
  (known : Names e sessionId ∨ Elsewhere e sessionId) (sourced : Sourced log sessionId p)
include within logged known sourced

/-- A row that shares a name with an event stands on its side. -/
theorem same_side {d : Doc} (member : d ∈ p table)
    (shares : ∀ origin ∈ log, RowOf origin sessionId table d → ¬ Apart e origin ∨ origin = e) :
    (sessionIs sessionId).holds d = true ↔ Selected sessionId e := by
  obtain ⟨origin, originLogged, originKnown, row⟩ := sourced table d member
  refine row.side.trans ?_
  rcases shares origin originLogged row with meets | rfl
  · rcases known with names | other
    · rcases originKnown with originNames | originOther
      · exact iff_of_true originNames.selected names.selected
      · exact absurd (within.apart e logged origin originLogged names originOther) meets
    · rcases originKnown with originNames | originOther
      · exact absurd (within.apart origin originLogged e logged originNames other).symm meets
      · exact iff_of_false originOther.unselected other.unselected
  · exact Iff.rfl

theorem finds_serial {serial : String} (about : itemOf e = some item)
    (touched : serial ∈ serialsTouched e) {into : ProjectionCollection × String} (listed : into ∈ serialTables) :
    ∀ d ∈ p into.1, (serialIs item into.2 serial).holds d = true →
      ((sessionIs sessionId).holds d = true ↔ Selected sessionId e) := by
  intro d member found
  refine same_side within logged known sourced member fun origin _ row => .inl fun apart => ?_
  have key : SerialKey origin into.2 d := by
    have stored := row.key
    rcases mem_three.mp listed with rfl | rfl | rfl <;> exact stored
  obtain ⟨other, otherTouched, otherItem, otherAbout, stored, storedId, storedCode⟩ := key
  simp only [serialIs, Filter.holds, Filter.fieldIs_str stored, Filter.fieldIs_str storedId,
    Filter.fieldIs_str storedCode, Bool.and_eq_true, Bool.or_eq_true, beq_iff_eq] at found
  obtain ⟨rfl, sameItem⟩ := found
  obtain ⟨otherId, otherCode⟩ := apart.serials other touched otherTouched item otherItem about otherAbout
  rcases sameItem with sameId | sameCode
  · exact otherId sameId.symm
  · exact otherCode sameCode.symm

theorem finds_line {lineId : String} (named : lineIdOf e = some lineId)
    (lines : table = .verifiedItems ∨ table = .varianceSummary) :
    ∀ d ∈ p table, (lineIs lineId).holds d = true →
      ((sessionIs sessionId).holds d = true ↔ Selected sessionId e) := by
  intro d member found
  refine same_side within logged known sourced member fun origin _ row => .inl fun apart => ?_
  have key : NamedKey (lineIdOf origin) "count_line_id" d := by
    have stored := row.key
    rcases lines with rfl | rfl <;> exact stored
  obtain ⟨other, otherNamed, stored⟩ := key
  simp only [lineIs, Filter.holds, Filter.fieldIs_str stored, beq_iff_eq] at found
  subst found
  exact apart.lines other named otherNamed

theorem finds_queue {queued : String} (named : queueOf e = some queued) :
    ∀ d ∈ p .syncQueue, (Filter.eq "queue_id" (.str queued)).holds d = true →
      ((sessionIs sessionId).holds d = true ↔ Selected sessionId e) := by
  intro d member found
  refine same_side within logged known sourced member fun origin _ row => .inl fun apart => ?_
  obtain ⟨other, otherNamed, stored⟩ : NamedKey (queueOf origin) "queue_id" d := row.key
  simp only [Filter.holds, Filter.fieldIs_str stored, beq_iff_eq] at found
  subst found
  exact apart.queues other named otherNamed

/-- The logs stand under the identifiers of the events, which are all different. -/
theorem finds_log (identified : e.eventId = some eventId)
    {key : String} (into : (table, key) ∈ logTables) :
    ∀ d ∈ p table, (Filter.eq key (.str eventId)).holds d = true →
      ((sessionIs sessionId).holds d = true ↔ Selected sessionId e) := by
  intro d member found
  refine same_side within logged known sourced member fun origin originLogged row => .inr ?_
  have named : NamedKey origin.eventId key d := by
    have stored := row.key
    simp only [logTables, List.mem_cons, Prod.mk.injEq, List.not_mem_nil, or_false] at into
    rcases into with ⟨rfl, rfl⟩ | ⟨rfl, rfl⟩ | ⟨rfl, rfl⟩ <;> exact stored
  obtain ⟨other, otherNamed, stored⟩ := named
  simp only [Filter.holds, Filter.fieldIs_str stored, beq_iff_eq] at found
  subst found
  exact List.inj_on_of_nodup_map within.distinct originLogged logged (otherNamed.trans identified.symm)

theorem fits_serialUpsert {serial : String} {into : ProjectionCollection × String}
    (held : inventoryLine e = some line) (about : eventItem e line = some item)
    (touched : serial ∈ serialsOf e.payload.after) (listed : into ∈ serialTables) :
    Fits e sessionId p (serialUpsert e line item serial into) := by
  have itemEq : itemOf e = some item := by rw [itemOf, held, Option.bind_some, about]
  have among : serial ∈ serialsTouched e := List.mem_append_left _ touched
  have sided := sided_line known (lineOf_of_inventory held) (eventItem_session about)
  refine ⟨fun _ => rfl, finds_serial within logged known sourced itemEq among listed, fun u planned d new _ applied => ?_⟩
  cases planned
  cases applied
  rcases mem_three.mp listed with rfl | rfl | rfl
  · refine rowOf_stamped sided ?_ ⟨serial, among, item, itemEq, ?_, ?_, ?_⟩ <;> simp [Update.ofSet, serialFields]
  · refine rowOf_stamped sided ?_ ⟨serial, among, item, itemEq, ?_, ?_, ?_⟩ <;> simp [Update.ofSet, serialFields]
  · refine rowOf_stamped sided ?_ ⟨serial, among, item, itemEq, ?_, ?_, ?_⟩ <;> simp [Update.ofSet, serialFields]

theorem fits_line {lineId : String} (held : Projection.lineOf e = some line)
    (named : (lineIdentifier line).or (normalizeString (e.field "count_line_id")) = some lineId)
    (session : e.lineSession line = some target)
    (member : w ∈ verifiedItemWrites e line lineId target) : Fits e sessionId p w := by
  have lineEq : lineIdOf e = some lineId := by rw [lineIdOf, held, Option.bind_some, named]
  have sided := sided_line known held session
  have verified := finds_line within logged known sourced lineEq (.inl rfl)
  have summary := finds_line within logged known sourced lineEq (.inr rfl)
  have sameSession : Selected sessionId e →
    found (p.only (sessionIs sessionId).holds) .sessionDashboard (sessionIs target) =
      found p .sessionDashboard (sessionIs target) := by
    intro selected
    rw [sided.mpr selected, found_only fun d found => found]
  unfold verifiedItemWrites at member
  split at member
  · rcases mem_four.mp member with rfl | rfl | rfl | rfl
    · exact verified
    · exact summary
    · exact fits_dashboard sided sourced
    · exact fits_financial sided sourced
  · split at member
    · cases member
    · rcases mem_four.mp member with rfl | rfl | rfl | rfl
      · refine ⟨fun selected => by simp only [sameSession selected], verified, fun u planned d new _ applied => ?_⟩
        cases planned
        cases applied
        refine rowOf_stamped sided ?_ ⟨lineId, lineEq, ?_⟩ <;> simp [Update.ofSet, verifiedDoc]
      · unfold summaryWrite
        split
        · refine ⟨fun selected => by simp only [sameSession selected], summary, fun u planned d new _ applied => ?_⟩
          cases planned
          cases applied
          refine rowOf_stamped sided ?_ ⟨lineId, lineEq, ?_⟩ <;> simp [Update.ofSet, verifiedDoc, Doc.setAll]
        · exact summary
      · exact fits_dashboard sided sourced
      · exact fits_financial sided sourced

theorem fits_log {key : String}
    {details : List (String × Value)} (held : loggedLine e = some line) (identified : e.eventId = some eventId)
    (into : (table, key) ∈ logTables) : Fits e sessionId p (logWrite line eventId table key details) := by
  refine ⟨fun _ => rfl, finds_log within logged known sourced identified into, fun u planned d new _ applied => ?_⟩
  cases planned
  cases applied
  have side : (sessionIs sessionId).holds line = true ↔ Selected sessionId e := by
    rcases known with names | other
    · exact iff_of_true (names.logged line held) names.selected
    · exact iff_of_false (by rw [other.logged line held]; exact Bool.false_ne_true) other.unselected
  simp only [logTables, List.mem_cons, Prod.mk.injEq, List.not_mem_nil, or_false] at into
  rcases into with ⟨rfl, rfl⟩ | ⟨rfl, rfl⟩ | ⟨rfl, rfl⟩
  all_goals
    refine ⟨?_, eventId, identified, by simp [Update.ofSet]⟩
    rwa [holds_copied (d := line) (by simp [Update.ofSet])]

theorem fits_queue {queued : String} (named : queueOf e = some queued) :
    Fits e sessionId p (queueWrite e queued) := by
  refine ⟨fun _ => rfl, finds_queue within logged known sourced named, fun u planned d new _ applied => ?_⟩
  cases planned
  cases applied
  refine ⟨?_, queued, named, ?_⟩
  · rw [holds_copied (d := e.payload.fields) (by simp [Update.ofSet, ProjectionEvent.field])]
    exact Iff.rfl
  · simp [Update.ofSet]

/-- Every write of an event stays on the event's side. -/
theorem fits_of_mem (member : w ∈ eventWrites e) : Fits e sessionId p w := by
  rcases eventWrites_cases e with ⟨kind, owner, named, writes⟩ | made
  · rw [writes, List.mem_singleton] at member
    subst member
    exact fits_sessionWrite (sided_session known kind named) sourced
  · cases made w member with
    | snapshot held about =>
      exact fits_snapshot (sided_line known (lineOf_of_inventory held) (eventItem_session about)) sourced
    | batch held about changed =>
      exact fits_batch (sided_line known (lineOf_of_inventory held) (eventItem_session about)) sourced changed
    | serialSet held about listed into => exact fits_serialUpsert within logged known sourced held about listed into
    | @serialDrop line item serial into held about listed among =>
      have itemEq : itemOf e = some item := by rw [itemOf, held, Option.bind_some, about]
      exact finds_serial within logged known sourced itemEq (List.mem_append_right _ listed) among
    | erp held about =>
      exact fits_erp (sided_line known (lineOf_of_inventory held) (eventItem_session about)) sourced
    | line held named session member => exact fits_line within logged known sourced held named session member
    | log held identified into => exact fits_log within logged known sourced held identified into
    | queue named => exact fits_queue within logged known sourced named

end SharedNames

section Replay

theorem project_idle (idle : eventWrites e = []) (p : Projections) : project e p = some p := by
  rw [project, idle]
  rfl

variable (within : SessionScoped log sessionId)
include within

theorem writes_sourced (logged : e ∈ log) (known : Names e sessionId ∨ Elsewhere e sessionId) :
    ∀ w ∈ eventWrites e, ∀ s s', Sourced log sessionId s → w.run s = some s' → Sourced log sessionId s' :=
  fun _ member _ _ now ran => (fits_of_mem within logged known now member).sourced logged known now ran

theorem project_sourced (logged : e ∈ log) (sourced : Sourced log sessionId p)
    (projected : project e p = some q) : Sourced log sessionId q := by
  rcases within.known e logged with idle | known
  · rw [project_idle idle] at projected
    cases projected
    exact sourced
  · exact RowWrite.runAll_invariant projected sourced (writes_sourced within logged known)

/-- The events of the session act on its rows alone. -/
theorem project_selected (logged : e ∈ log) (selected : Selected sessionId e) (sourced : Sourced log sessionId p) :
    project e (p.only (sessionIs sessionId).holds) = (project e p).map (Tables.only (sessionIs sessionId).holds) ∧
    ∀ q, project e p = some q →
      q.only (fun d => !(sessionIs sessionId).holds d) = p.only fun d => !(sessionIs sessionId).holds d := by
  rcases within.known e logged with idle | known
  · rw [project_idle idle, project_idle idle]
    refine ⟨rfl, fun q projected => ?_⟩
    cases projected
    rfl
  · have kept := writes_sourced within logged known
    have confined := fun w member s now => (fits_of_mem within logged known (p := s) now (w := w) member).confined selected
    exact ⟨RowWrite.runAll_confined sourced kept confined, fun q projected =>
      RowWrite.runAll_within sourced kept (fun w member s now => (confined w member s now).within) projected⟩

/-- Any other event leaves the rows of the session alone. -/
theorem project_unselected (logged : e ∈ log) (unselected : ¬ Selected sessionId e) (sourced : Sourced log sessionId p)
    (projected : project e p = some q) : q.only (sessionIs sessionId).holds = p.only (sessionIs sessionId).holds := by
  rcases within.known e logged with idle | known
  · rw [project_idle idle] at projected
    cases projected
    rfl
  · have kept := writes_sourced within logged known
    have others := RowWrite.runAll_within sourced kept
      (fun w member s now => (fits_of_mem within logged known now member).within unselected) projected
    simpa only [Bool.not_not] using others

variable {events : List ProjectionEvent}

/-- The rows of a session are made by the events that name it. -/
theorem projectAll_session (logged : ∀ e ∈ events, e ∈ log) (sourced : Sourced log sessionId p)
    (projected : projectAll events p = some q) :
    Sourced log sessionId q ∧ projectAll (events.filter fun e => decide (Selected sessionId e))
      (p.only (sessionIs sessionId).holds) = some (q.only (sessionIs sessionId).holds) := by
  induction events generalizing p with
  | nil =>
    cases projected
    exact ⟨sourced, rfl⟩
  | cons e rest ih =>
    rw [projectAll, List.foldlM_cons, Option.bind_eq_bind, Option.bind_eq_some_iff] at projected
    obtain ⟨next, first, later⟩ := projected
    have here : e ∈ log := logged e (by simp)
    obtain ⟨sourcedLast, last⟩ := ih (fun e' member => logged e' (by simp [member]))
      (project_sourced within here sourced first) later
    refine ⟨sourcedLast, ?_⟩
    by_cases selected : Selected sessionId e
    · rw [List.filter_cons_of_pos (by simpa using selected), projectAll, List.foldlM_cons,
        (project_selected within here selected sourced).1, first]
      exact last
    · rw [List.filter_cons_of_neg (by simpa using selected), ← project_unselected within here selected sourced first]
      exact last

theorem projectAll_selected (logged : ∀ e ∈ events, e ∈ log ∧ Selected sessionId e) (sourced : Sourced log sessionId p) :
    projectAll events (p.only (sessionIs sessionId).holds) =
      (projectAll events p).map (Tables.only (sessionIs sessionId).holds) ∧
    ∀ q, projectAll events p = some q →
      q.only (fun d => !(sessionIs sessionId).holds d) = p.only fun d => !(sessionIs sessionId).holds d := by
  induction events generalizing p with
  | nil =>
    refine ⟨rfl, fun q projected => ?_⟩
    cases projected
    rfl
  | cons e rest ih =>
    obtain ⟨here, selected⟩ := logged e (by simp)
    obtain ⟨acts, others⟩ := project_selected within here selected sourced
    simp only [projectAll, List.foldlM_cons, acts]
    cases first : project e p with
    | none => exact ⟨rfl, nofun⟩
    | some next =>
      obtain ⟨restActs, restOthers⟩ := ih (fun e' member => logged e' (by simp [member]))
        (project_sourced within here sourced first)
      exact ⟨restActs, fun q projected => (restOthers q projected).trans (others next first)⟩

end Replay

theorem runHandlers_none (projected : project e p = some q) : runHandlers none e p = .ok q := by
  unfold runHandlers
  dsimp only
  rw [projected]

theorem runHandlers_raised (raised : project e p = none) :
    runHandlers none e p = .error ((eventWrites e).length, true) := by
  unfold runHandlers
  dsimp only
  rw [raised]

variable {db : ProjectionDb}

theorem applyEvent_fresh (deployment : Deployment) (identified : e.eventId = some eventId)
    (fresh : db.isApplied eventId = false) :
    (project e db.projections = none → (applyEvent deployment none e db).answer = .error ()) ∧
    ∀ q, project e db.projections = some q → applyEvent deployment none e db =
      { db := ⟨q, db.unmarked eventId ++ [⟨eventId, e.field "session_id", true⟩]⟩
        answer := .ok true, completed := true } := by
  have direct : ∀ q, project e db.projections = some q → applyDirect none e db =
      { db := ⟨q, db.unmarked eventId ++ [⟨eventId, e.field "session_id", true⟩]⟩
        answer := .ok true, completed := true } := by
    intro q projected
    unfold applyDirect
    simp only [identified, fresh, runHandlers_none projected, Bool.false_eq_true, if_false]
  constructor
  · intro raised
    have failed : (applyDirect none e db).answer = .error () ∧ (applyDirect none e db).completed = false := by
      unfold applyDirect
      simp only [identified, fresh, runHandlers_raised raised, Bool.false_eq_true, if_false, and_self]
    cases deployment with
    | standalone => exact failed.1
    | transactional =>
      simp only [applyEvent, failed.2, Bool.false_eq_true, if_false]
      exact failed.1
  · intro q projected
    cases deployment with
    | standalone => exact direct q projected
    | transactional =>
      simp only [applyEvent, direct q projected, if_true]

/-- Fresh events that are applied one after another make their projections and their
markers. -/
theorem applyAll_fresh (deployment : Deployment) {events : List ProjectionEvent}
    (distinct : (events.map (·.eventId)).Nodup) (identified : ∀ e ∈ events, e.eventId ≠ none)
    (fresh : ∀ e ∈ events, ∀ eventId, e.eventId = some eventId → db.isApplied eventId = false) :
    (∀ answer, (applyAll deployment events db).answer = .ok answer →
      (projectAll events db.projections).isSome = true) ∧
    ∀ q, projectAll events db.projections = some q → (applyAll deployment events db).answer = .ok true ∧
      (applyAll deployment events db).db.projections = q ∧
      ∀ marker ∈ (applyAll deployment events db).db.eventApplied, marker ∈ db.eventApplied ∨
        ∃ e ∈ events, e.eventId = some marker.eventId ∧ marker.sessionId = e.field "session_id" := by
  induction events generalizing db with
  | nil =>
    refine ⟨fun _ _ => rfl, fun q projected => ?_⟩
    cases projected
    exact ⟨rfl, rfl, fun marker member => .inl member⟩
  | cons e rest ih =>
    rw [List.map_cons, List.nodup_cons] at distinct
    obtain ⟨eventId, named⟩ := Option.ne_none_iff_exists'.mp (identified e (by simp))
    obtain ⟨raises, applies⟩ := applyEvent_fresh deployment named (fresh e (by simp) eventId named)
    simp only [applyAll, projectAll, List.foldlM_cons]
    cases first : project e db.projections with
    | none =>
      rw [raises first]
      refine ⟨fun answer answered => ?_, nofun⟩
      rw [raises first] at answered
      cases answered
    | some next =>
      rw [applies next first]
      have later := @ih ⟨next, db.unmarked eventId ++ [⟨eventId, e.field "session_id", true⟩]⟩
        distinct.2 (fun e' member => identified e' (by simp [member])) fun e' member id same => by
          rw [isApplied_marked]
          have differ : id ≠ eventId := by
            rintro rfl
            exact distinct.1 (named ▸ same ▸ List.mem_map_of_mem member)
          rw [if_neg differ]
          exact fresh e' (by simp [member]) id same
      refine ⟨later.1, fun q projected => ?_⟩
      obtain ⟨answered, projections, markers⟩ := later.2 q projected
      refine ⟨answered, projections, fun marker member => ?_⟩
      rcases markers marker member with known | ⟨e', listed, same, session⟩
      · rcases List.mem_append.mp known with old | new
        · exact .inl (List.mem_of_mem_filter old)
        · rw [List.mem_singleton] at new
          subst new
          exact .inr ⟨e, by simp, named, rfl⟩
      · exact .inr ⟨e', by simp [listed], same, session⟩

theorem ofSession_field (sessionId : String) (e : ProjectionEvent) :
    ofSession sessionId (e.field "session_id") = true ↔ Selected sessionId e := by
  rw [ofSession, Selected, ProjectionEvent.field, Doc.get_eq]
  cases stored : e.payload.fields "session_id" with
  | none | some v => simp [sessionIs, Filter.holds, Filter.fieldIs, stored]

theorem mem_selected (member : e ∈ log.filter fun e => decide (Selected sessionId e)) :
    e ∈ log ∧ Selected sessionId e := by
  obtain ⟨logged, selected⟩ := List.mem_filter.mp member
  exact ⟨logged, by simpa using selected⟩

theorem selectEvents_eq (log : List ProjectionEvent) (sessionId : String) :
    selectEvents log (some sessionId) = log.filter fun e => decide (Selected sessionId e) := by
  refine List.filter_congr fun e _ => ?_
  exact Bool.decide_eq_true.symm

/-- After the clearing the events of the session count as not applied. -/
theorem isApplied_cleared (distinct : (log.map (·.eventId)).Nodup)
    (markers : ∀ marker ∈ db.eventApplied, ∃ e ∈ log, e.eventId = some marker.eventId ∧ marker.sessionId = e.field
      "session_id")
    (logged : e ∈ log) (selected : Selected sessionId e) (identified : e.eventId = some eventId) :
    (db.clear (some sessionId)).isApplied eventId = false := by
  have unmarked : (db.clear (some sessionId)).eventApplied.find? (·.eventId == eventId) = none := by
    rw [List.find?_eq_none]
    intro marker member
    obtain ⟨stored, kept⟩ := List.mem_filter.mp member
    obtain ⟨e', logged', named, session⟩ := markers marker stored
    intro same
    rw [beq_iff_eq] at same
    have sameEvent : e' = e := List.inj_on_of_nodup_map distinct logged' logged (by rw [named, identified, same])
    rw [session, sameEvent, Bool.not_eq_true', ← Bool.not_eq_true, ofSession_field] at kept
    exact kept selected
  rw [ProjectionDb.isApplied, unmarked]
  rfl

/-- Replaying the events of a session over the rows of the others restores its rows. -/
theorem projectAll_cleared (within : SessionScoped log sessionId) (projected : projectAll log (fun _ => []) = some p) :
    ∃ q, projectAll (log.filter fun e => decide (Selected sessionId e))
        (p.only fun d => !(sessionIs sessionId).holds d) = some q ∧
      q.only (sessionIs sessionId).holds = p.only (sessionIs sessionId).holds ∧
      q.only (fun d => !(sessionIs sessionId).holds d) = p.only fun d => !(sessionIs sessionId).holds d := by
  obtain ⟨sourced, sessionRows⟩ := projectAll_session within (fun e member => member) (by nofun) projected
  have clearedSourced : Sourced log sessionId (p.only fun d => !(sessionIs sessionId).holds d) :=
    fun table row member => sourced table row (List.mem_of_mem_filter member)
  have clearedRows : (p.only fun d => !(sessionIs sessionId).holds d).only (sessionIs sessionId).holds =
      fun _ => [] := by
    funext table
    simp [Tables.only, List.filter_filter]
  obtain ⟨acts, others⟩ := projectAll_selected within (fun e member => mem_selected member) clearedSourced
  have emptied : Tables.only (sessionIs sessionId).holds (fun _ => []) = (fun _ => [] : Projections) := rfl
  rw [emptied] at sessionRows
  rw [clearedRows, sessionRows] at acts
  obtain ⟨q, replayed, ownRows⟩ := Option.map_eq_some_iff.mp acts.symm
  refine ⟨q, replayed, ownRows, ?_⟩
  rw [others q replayed]
  funext table
  simp [Tables.only, List.filter_filter]

def incrementalDb (deployment : Deployment) (log : List ProjectionEvent) : ProjectionDb :=
  (applyAll deployment log {}).db

def rebuilt (deployment : Deployment) (log : List ProjectionEvent) (sessionId : String) : Applied :=
  rebuildFromEventLog deployment log (some sessionId) true (incrementalDb deployment log)

/-- The rebuild of a session answers, gives its rows as the application of the whole log gives them,
and leaves every other row as it is. -/
def RebuildsExactly (deployment : Deployment) (log : List ProjectionEvent) (sessionId : String) : Prop :=
  (rebuilt deployment log sessionId).answer = .ok true ∧
    ∀ table,
      ((rebuilt deployment log sessionId).db.projections table).filter (sessionIs sessionId).holds =
        ((incrementalDb deployment log).projections table).filter (sessionIs sessionId).holds ∧
      ((rebuilt deployment log sessionId).db.projections table).filter
          (fun d => !(sessionIs sessionId).holds d) =
        ((incrementalDb deployment log).projections table).filter (fun d => !(sessionIs sessionId).holds d)

/-- The scan of a line, or its removal, as an event. -/
def lineEvent (id eventType sessionId lineId : String) (serials : List String) (timestamp : Int) :
    ProjectionEvent :=
  let line := Doc.ofList [("id", .str lineId), ("session_id", .str sessionId),
    ("item_code", .str "I1"), ("counted_qty", .num 1), ("serial_numbers", .list (serials.map .str))]
  let removed := eventType == "COUNT_LINE_REMOVED"
  { id := id
    aggregateId := "I1"
    eventType := eventType
    payload :=
      { fields := Doc.ofList [("session_id", .str sessionId), ("item_id", .str "I1"),
          ("count_line_id", .str lineId)]
        before := if removed then some line else none
        after := if removed then none else some line
        countLine := some line
        delta := Doc.ofList [("counted_qty", .num (if removed then -1 else 1))] }
    timestamp := timestamp }

/-- Three sessions count the same item, and only the other two share a serial of it. -/
def sharedSerialLog : List ProjectionEvent :=
  [lineEvent "E1" "SCAN_ADDED" "S1" "line-1" ["B1"] 1, lineEvent "E2" "SCAN_ADDED" "S2" "line-2" ["A1"] 2,
    lineEvent "E3" "SCAN_ADDED" "S3" "line-3" ["A1"] 3]

/-- A serial that was counted in one session, removed there and then counted in another. -/
def movedSerialLog : List ProjectionEvent :=
  [lineEvent "E1" "SCAN_ADDED" "S1" "line-1" ["A1"] 1,
    lineEvent "E2" "COUNT_LINE_REMOVED" "S1" "line-1" ["A1"] 2,
    lineEvent "E3" "SCAN_ADDED" "S2" "line-2" ["A1"] 3]

end StockVerification
