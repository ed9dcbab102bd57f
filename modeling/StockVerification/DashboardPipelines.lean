import StockVerification.ProjectionParity

/-!
# Two writers of one dashboard row

Source: backend/services/projections/core.py:534-607 and
backend/services/projections/writer.py:400-475.

The row of a session in `session_dashboard_projection` is written by the event projection, which
counts the rows of `verified_items_projection`, and by the projection writer, which folds the
count lines. The events of a session leave one row for each line that was not removed, made from
the last event of the line. The two figures differ in what they call active, verified and damaged,
and the writer reads at most 10000 lines.
-/
namespace StockVerification

open Foundation Foundation.Action Projection

abbrev Image := String × Doc

/-- The new image of a line takes the place of the old one. -/
def setImage (image : Image) : List Image → List Image
  | [] => [image]
  | known :: rest => if known.1 = image.1 then image :: rest else known :: setImage image rest

def dropImage (lineId : String) (images : List Image) : List Image :=
  images.eraseP fun image => image.1 == lineId

/-- What an event leaves of the lines. -/
def followEvent (images : List Image) (e : ProjectionEvent) : List Image :=
  match e.payload.line with
  | none => images
  | some line =>
    match lineIdentifier line with
    | none => images
    | some lineId =>
      if isRemoval e line then dropImage lineId images else setImage (lineId, line) images

def latestImages (log : List ProjectionEvent) : List Image := log.foldl followEvent []

/-- An event about a line of the session, of a type that the mirror emits. -/
def TellsLine (sessionId : String) (e : ProjectionEvent) : Prop :=
  ∃ line lineId itemCode counted eventId, MirroredEvent e line lineId sessionId itemCode counted ∧
    e.eventId = some eventId ∧ (e.eventType ∈ countingTypes ∨ e.eventType ∈ loggedTypes)

/-- The verified flag as the event projection counts it. -/
def eventVerified (line : Doc) : Bool :=
  lineFlag line ||
    ["locked", "approved"].contains (Text.lower (Text.strip (line.get "status").textOrEmpty)) ||
    Text.upper (Text.strip (line.get "approval_status").textOrEmpty) == "APPROVED"

def isDamaged (line : Doc) : Bool := decide (0 < asFloat (line.get "damaged_qty"))

/-- The row of a line says what the figures need of it. -/
structure TellsImage (sessionId : String) (row : Doc) (image : Image) : Prop where
  key : row "count_line_id" = some (.str image.1)
  session : row "session_id" = some (.str sessionId)
  present : row "is_removed" = some (.bool false)
  status : row "status" = some (image.2.get "status")
  approval : row "approval_status" = some (image.2.get "approval_status")
  verified : row "verified" = some (.bool (lineFlag image.2))
  damaged : row "damaged_qty" = some (.num (asFloat (image.2.get "damaged_qty")))

variable {e : ProjectionEvent} {line : Doc} {lineId sessionId : String}

theorem tellsImage_verifiedDoc {session old new : Doc} {itemCode : String}
    (applied : Update.apply (.ofSet (verifiedDoc e line lineId sessionId itemCode session)) old = some new) :
    TellsImage sessionId new (lineId, line) := by
  constructor <;> refine Update.apply_set applied ?_ <;> simp [Update.ofSet, verifiedDoc, lineFlag]

variable {image : Image} {row : Doc}

theorem TellsImage.matched (tells : TellsImage sessionId row image) :
    (lineIs lineId).holds row = (image.1 == lineId) :=
  lineIs_holds tells.key lineId

section

variable (tells : TellsImage sessionId row image)
include tells

theorem TellsImage.lineVerified : lineVerified row = eventVerified image.2 := by
  simp only [Projection.lineVerified, eventVerified, Doc.get_of_some tells.verified,
    Doc.get_of_some tells.status, Doc.get_of_some tells.approval]
  cases lineFlag image.2 <;> rfl

theorem TellsImage.lineActive : lineActive row = !lineStatusIsInactive (image.2.get "status") := by
  simp only [Projection.lineActive, Doc.get_of_some tells.present, Doc.get_of_some tells.status]
  rfl

theorem TellsImage.damagedRow : decide (0 < asFloat (row.get "damaged_qty")) = isDamaged image.2 := by
  have number : asFloat (.num (asFloat (image.2.get "damaged_qty"))) = asFloat (image.2.get "damaged_qty") := rfl
  rw [Doc.get_of_some tells.damaged, number, isDamaged]

end

variable {images : List Image} {rows : List Doc}

section

variable (tells : List.Forall₂ (TellsImage sessionId) rows images)
include tells

/-- The upsert of a line's row follows the image. -/
theorem upsertOne_follows {itemCode : String} {session seed : Doc} {after : List Doc}
   
    (upserted : Collection.upsertOne (lineIs lineId) seed (.ofSet (verifiedDoc e line lineId sessionId itemCode
      session)) rows = some after) :
    List.Forall₂ (TellsImage sessionId) after (setImage (lineId, line) images) := by
  induction tells generalizing after with
  | nil =>
    rw [Collection.upsertOne, List.find?_nil] at upserted
    obtain ⟨new, applied, rfl⟩ := Option.map_eq_some_iff.mp upserted
    exact .cons (tellsImage_verifiedDoc applied) .nil
  | @cons row image rows images first rest ih =>
    have matched : (lineIs lineId).holds row = (image.1 == lineId) := first.matched
    by_cases same : image.1 = lineId
    · have found : (lineIs lineId).holds row = true := by rw [matched, same, beq_self_eq_true]
      rw [Collection.upsertOne, List.find?_cons_of_pos found] at upserted
      obtain ⟨new, applied, rfl⟩ := Option.map_eq_some_iff.mp upserted
      rw [Collection.replaceFirst, if_pos found, setImage, if_pos same]
      exact .cons (tellsImage_verifiedDoc applied) rest
    · have other : ¬ (lineIs lineId).holds row = true := by rw [matched, beq_iff_eq]; exact same
      rw [setImage, if_neg same]
      rcases Collection.upsertOne_some upserted with ⟨old, new, found, applied, rfl⟩ | ⟨new, absent, applied, rfl⟩
      · rw [List.find?_cons_of_neg other] at found
        rw [Collection.replaceFirst, if_neg other]
        refine .cons first (ih ?_)
        rw [Collection.upsertOne, found]
        exact Option.map_eq_some_iff.mpr ⟨new, applied, rfl⟩
      · rw [List.find?_cons_of_neg other] at absent
        refine .cons first (ih ?_)
        rw [Collection.upsertOne, absent]
        exact Option.map_eq_some_iff.mpr ⟨new, applied, rfl⟩

theorem deleteOne_follows :
    List.Forall₂ (TellsImage sessionId) (Collection.deleteOne (lineIs lineId) rows) (dropImage lineId images) := by
  unfold Collection.deleteOne dropImage
  induction tells with
  | nil => exact .nil
  | @cons row image rows images first rest ih =>
    have matched : (lineIs lineId).holds row = (image.1 == lineId) := first.matched
    rw [List.eraseP_cons, List.eraseP_cons, matched]
    cases image.1 == lineId with
    | true => exact rest
    | false => exact .cons first ih

/-- The projections hold the rows of these lines, and a row of the session. -/
structure Projected (sessionId : String) (p : Projections) (images : List Image) : Prop where
  rows : List.Forall₂ (TellsImage sessionId) (p .verifiedItems) images
  active : ∀ image ∈ images, lineStatusIsInactive (image.2.get "status") = false
  listed : ∃ row, (p .sessionDashboard).find? (sessionIs sessionId).holds = some row

/-- The figures of the session's row, as the event projection counts them. -/
def eventFigures (images : List Image) : List (String × Value) :=
  let verified := images.countP fun image => eventVerified image.2
  [("total_items", .num images.length), ("verified_items", .num verified),
    ("pending_items", .num (images.length - verified : ℕ)),
    ("damage_items", .num (images.countP fun image => isDamaged image.2))]

def StatesFigures (sessionId : String) (p : Projections) (images : List Image) : Prop :=
  ∀ entry ∈ eventFigures images, found p .sessionDashboard (sessionIs sessionId) entry.1 = some entry.2

theorem countP_follows {f : Doc → Bool} {g : Image → Bool}
   
    (same : ∀ row image, TellsImage sessionId row image → f row = g image) : rows.countP f = images.countP g := by
  induction tells with
  | nil => rfl
  | cons first _ ih => rw [List.countP_cons, List.countP_cons, ih, same _ _ first]

end

variable {p : Projections}

/-- Every row of the lines is one of the session's active rows. -/
theorem Projected.counted (projected : Projected sessionId p images) :
    ((p .verifiedItems).filter (sessionIs sessionId).holds).filter lineActive = p .verifiedItems := by
  have all : ∀ row ∈ p .verifiedItems, (sessionIs sessionId).holds row = true ∧ lineActive row = true := by
    intro row member
    obtain ⟨image, tells, inactive⟩ : ∃ image, TellsImage sessionId row image ∧
        lineStatusIsInactive (image.2.get "status") = false := by
      obtain ⟨rows, active, _⟩ := projected
      generalize p .verifiedItems = stored at rows member
      induction rows with
      | nil => cases member
      | cons first _ ih =>
        rcases List.mem_cons.mp member with rfl | later
        · exact ⟨_, first, active _ List.mem_cons_self⟩
        · exact ih (fun image known => active image (List.mem_cons_of_mem _ known)) later
    refine ⟨?_, ?_⟩
    · simp only [sessionIs, Filter.holds, Filter.fieldIs_str tells.session, beq_self_eq_true]
    · rw [tells.lineActive, inactive]
      rfl
  rw [List.filter_eq_self.mpr fun row member => (all row member).1,
    List.filter_eq_self.mpr fun row member => (all row member).2]

theorem Projected.figures (projected : Projected sessionId p images) :
    ∀ entry ∈ eventFigures images, dashboardFigures p sessionId entry.1 = some entry.2 := by
  have total := projected.rows.length_eq
  have verified : (p .verifiedItems).countP lineVerified = images.countP fun image => eventVerified image.2 :=
    countP_follows projected.rows fun _ _ tells => tells.lineVerified
  have damaged : ((p .verifiedItems).countP fun row => 0 < asFloat (row.get "damaged_qty")) =
      images.countP fun image => isDamaged image.2 :=
    countP_follows projected.rows fun _ _ tells => tells.damagedRow
  simp only [dashboardFigures, projected.counted, total, verified, damaged, eventFigures,
    List.mem_cons, List.not_mem_nil, or_false]
  rintro entry (rfl | rfl | rfl | rfl) <;> rfl

variable {q : Projections}

/-- The refresh writes the figures of the rows as they are. -/
theorem refreshSessionDashboard_effect
    (listed : ∃ row, (p .sessionDashboard).find? (sessionIs sessionId).holds = some row)
    (ran : (refreshSessionDashboard sessionId).run p = some q) :
    ∃ row, (q .sessionDashboard).find? (sessionIs sessionId).holds = some row ∧
      ∀ field v, dashboardFigures p sessionId field = some v → row field = some v := by
  obtain ⟨old, present⟩ := listed
  simp only [refreshSessionDashboard, RowWrite.run, present] at ran
  obtain ⟨rows, upserted, rfl⟩ := Option.map_eq_some_iff.mp ran
  rcases Collection.upsertOne_some upserted with ⟨old', new, found, applied, rfl⟩ | ⟨_, absent, _⟩
  · rw [present] at found
    cases found
    have session : new "session_id" = old "session_id" := by
      rw [Update.apply_field applied (by simp [Update.ofSet]) (by simp [Update.ofSet])]
      simp [Update.ofSet, dashboardFigures]
    have matched : (sessionIs sessionId).holds new = true := by
      have before := List.find?_some present
      simpa only [sessionIs, Filter.holds, Filter.fieldIs, Doc.get, session] using before
    refine ⟨new, ?_, fun field v figure => ?_⟩
    · rw [Tables.put_same]
      exact Collection.find_replaceFirst_same present matched
    · exact Update.apply_set applied figure
  · rw [present] at absent
    cases absent

/-- The writes of an event about a line before the row of the line. -/
theorem eventWrites_front (tells : TellsLine sessionId e) :
    ∃ front, eventWrites e = front ++ projectVerifiedItem e ∧
      ∀ w ∈ front, w.table ≠ .verifiedItems ∧ w.table ≠ .sessionDashboard := by
  obtain ⟨line, lineId, itemCode, counted, eventId, mirrored, identified, counting | logged⟩ := tells
  · obtain ⟨item, about, _, _⟩ := mirrored.item
    refine ⟨snapshotWrite e line item ::
      (batchWrites e line item ++ serialWrites e line item ++ [erpWrite e line item]), ?_, ?_⟩
    · simp only [eventWrites_counting counting, projectInventoryEvent, mirrored.held, about,
        List.append_assoc, List.cons_append, List.nil_append]
    · intro w member
      rcases List.mem_cons.mp member with rfl | between
      · exact ⟨(by decide : ProjectionCollection.itemsSnapshot ≠ .verifiedItems),
          (by decide : ProjectionCollection.itemsSnapshot ≠ .sessionDashboard)⟩
      · have elsewhere : ∀ table ∈ betweenTables, table ≠ .verifiedItems ∧ table ≠ .sessionDashboard := by
          decide
        exact elsewhere w.table (inventory_tables between)
  · have logs : ∀ target key details, target ∈ [ProjectionCollection.damageLogs, .varianceLogs, .approvals] →
        eventWrites e = projectLog e target key details → ∃ front, eventWrites e = front ++ projectVerifiedItem e ∧
          ∀ w ∈ front, w.table ≠ .verifiedItems ∧ w.table ≠ .sessionDashboard := by
      intro target key details into writes
      simp only [projectLog, mirrored.held, identified] at writes
      refine ⟨[logWrite line eventId target key (details line)], writes, ?_⟩
      have elsewhere : ∀ table ∈ [ProjectionCollection.damageLogs, .varianceLogs, .approvals],
          table ≠ .verifiedItems ∧ table ≠ .sessionDashboard := by decide
      intro w member
      rw [List.mem_singleton.mp member]
      exact elsewhere target into
    rcases eventWrites_logged logged with writes | writes | writes
    · exact logs _ _ _ (by decide) writes
    · exact logs _ _ _ (by decide) writes
    · exact logs _ _ _ (by decide) writes

theorem setImage_active (active : ∀ known ∈ images, lineStatusIsInactive (known.2.get "status") = false)
    (fresh : lineStatusIsInactive (image.2.get "status") = false) :
    ∀ known ∈ setImage image images, lineStatusIsInactive (known.2.get "status") = false := by
  induction images with
  | nil =>
    intro known member
    rw [List.mem_singleton.mp member]
    exact fresh
  | cons first rest ih =>
    have tail := ih fun known member => active known (List.mem_cons_of_mem _ member)
    intro known member
    unfold setImage at member
    split at member
    · rcases List.mem_cons.mp member with rfl | later
      · exact fresh
      · exact active known (List.mem_cons_of_mem _ later)
    · rcases List.mem_cons.mp member with rfl | later
      · exact active _ List.mem_cons_self
      · exact tail known later

/-- After the row of the line, the session's row is counted anew. -/
theorem projected_refresh {second : Write} (aside : second.table = .varianceSummary)
    (projected : Projected sessionId p images)
    (ran : RowWrite.runAll [second, refreshSessionDashboard sessionId, refreshFinancial sessionId] p = some q) :
    Projected sessionId q images ∧ StatesFigures sessionId q images := by
  simp only [RowWrite.runAll_cons, Option.bind_eq_some_iff, RowWrite.runAll_nil, Option.some.injEq] at ran
  obtain ⟨a, summarized, b, refreshed, c, valued, rfl⟩ := ran
  have rowsA : a .verifiedItems = p .verifiedItems := RowWrite.run_other summarized (by rw [aside]; decide)
  have dashboardA : a .sessionDashboard = p .sessionDashboard :=
    RowWrite.run_other summarized (by rw [aside]; decide)
  have middle : Projected sessionId a images :=
    ⟨rowsA ▸ projected.rows, projected.active, dashboardA ▸ projected.listed⟩
  obtain ⟨row, listed, figures⟩ := refreshSessionDashboard_effect middle.listed refreshed
  have other : ProjectionCollection.verifiedItems ≠ .sessionDashboard := by decide
  have rowsB : b .verifiedItems = a .verifiedItems := RowWrite.run_other refreshed other
  have notFinancial : ProjectionCollection.verifiedItems ≠ .financial ∧
      ProjectionCollection.sessionDashboard ≠ .financial := by decide
  have rowsC : c .verifiedItems = b .verifiedItems := RowWrite.run_other valued notFinancial.1
  have dashboardC : c .sessionDashboard = b .sessionDashboard := RowWrite.run_other valued notFinancial.2
  have listedC : (c .sessionDashboard).find? (sessionIs sessionId).holds = some row := dashboardC ▸ listed
  refine ⟨⟨?_, projected.active, row, listedC⟩, ?_⟩
  · rw [rowsC, rowsB]
    exact middle.rows
  · intro entry member
    rw [found, listedC]
    exact figures entry.1 entry.2 (middle.figures entry member)

theorem followEvent_eq (images : List Image) (held : e.payload.line = some line)
    (named : lineIdentifier line = some lineId) :
    followEvent images e = if isRemoval e line then dropImage lineId images else setImage (lineId, line) images := by
  simp only [followEvent, held, named]

/-- An event about a line of the session leaves the row of its line, and the figures. -/
theorem project_follows (tells : TellsLine sessionId e) (projected : Projected sessionId p images)
    (ran : project e p = some q) :
    Projected sessionId q (followEvent images e) ∧ StatesFigures sessionId q (followEvent images e) := by
  obtain ⟨front, writes, elsewhere⟩ := eventWrites_front tells
  rw [project, writes, RowWrite.runAll_append, Option.bind_eq_some_iff] at ran
  obtain ⟨a, before, ran⟩ := ran
  have rows : a .verifiedItems = p .verifiedItems :=
    RowWrite.runAll_other before fun w member => (elsewhere w member).1.symm
  have dashboard : a .sessionDashboard = p .sessionDashboard :=
    RowWrite.runAll_other before fun w member => (elsewhere w member).2.symm
  obtain ⟨line, lineId, itemCode, counted, eventId, mirrored, _, _⟩ := tells
  rw [projectVerifiedItem_eq mirrored, verifiedItemWrites, mirrored.code] at ran
  rw [followEvent_eq images mirrored.held mirrored.named]
  by_cases removal : isRemoval e line = true
  · rw [if_pos removal, RowWrite.runAll_cons, Option.bind_eq_some_iff] at ran
    obtain ⟨b, ⟨⟩, ran⟩ := ran
    rw [if_pos removal]
    refine projected_refresh rfl ⟨?_, ?_, ?_⟩ ran
    · rw [Tables.put_same, rows]
      exact deleteOne_follows projected.rows
    · exact fun image member => projected.active image (List.mem_of_mem_eraseP member)
    · rw [Tables.put_other a _ (by decide), dashboard]
      exact projected.listed
  · rw [if_neg removal, RowWrite.runAll_cons, Option.bind_eq_some_iff] at ran
    obtain ⟨b, first, ran⟩ := ran
    have summaryTable : (summaryWrite e line lineId sessionId itemCode).table = .varianceSummary := by
      unfold summaryWrite
      split <;> rfl
    have other : ProjectionCollection.sessionDashboard ≠ .verifiedItems := by decide
    have dashboardB : b .sessionDashboard = p .sessionDashboard :=
      (RowWrite.run_other first other).trans dashboard
    simp only [verifiedWrite, RowWrite.run] at first
    obtain ⟨stored, upserted, rfl⟩ := Option.map_eq_some_iff.mp first
    rw [if_neg removal]
    refine projected_refresh summaryTable ⟨?_, ?_, dashboardB ▸ projected.listed⟩ ran
    · rw [Tables.put_same]
      rw [rows] at upserted
      exact upsertOne_follows projected.rows upserted
    · apply setImage_active projected.active
      simp only [isRemoval, Bool.or_eq_true, not_or, Bool.not_eq_true] at removal
      exact removal.2

variable {log : List ProjectionEvent}

/-- The lines a log leaves on top of known ones. -/
theorem projectAll_follows (tells : ∀ e ∈ log, TellsLine sessionId e)
    (projected : Projected sessionId p images) (ran : projectAll log p = some q) :
    Projected sessionId q (log.foldl followEvent images) ∧
      (log ≠ [] → StatesFigures sessionId q (log.foldl followEvent images)) := by
  induction log generalizing p images with
  | nil =>
    cases ran
    exact ⟨projected, fun some_ => absurd rfl some_⟩
  | cons e rest ih =>
    simp only [projectAll, List.foldlM_cons, Option.bind_eq_bind, Option.bind_eq_some_iff] at ran
    obtain ⟨next, first, ran⟩ := ran
    obtain ⟨now, figures⟩ := project_follows (tells e List.mem_cons_self) projected first
    obtain ⟨last, lastFigures⟩ := ih (fun e' member => tells e' (List.mem_cons_of_mem _ member)) now ran
    refine ⟨last, fun _ => ?_⟩
    cases rest with
    | nil =>
      cases ran
      exact figures
    | cons e' rest' => exact lastFigures (List.cons_ne_nil _ _)

def unarchived (line : Doc) : Bool := (Filter.ne "archived" (.bool true)).holds line

def writerCounts (line : Doc) : Bool := unarchived line && !isSupersededCountLine line

def eventCounts (line : Doc) : Bool := !lineStatusIsInactive (line.get "status")

def figureNames : List String := ["total_items", "verified_items", "pending_items", "damage_items"]

/-- The figures of the session's row, as the projection writer folds them. -/
def writerFigures (lines : List Doc) : List (String × Value) :=
  let totals := SessionTotals.ofLines lines
  [("total_items", .num totals.totalItems), ("verified_items", .num totals.verifiedItems),
    ("pending_items", .num totals.pendingItems), ("damage_items", .num totals.damageItems)]

/-- The session's row as the projection writer leaves it. -/
def writerRow (env : Env) (sessionId : String) (s : Store) : Doc :=
  ((syncSession env s sessionId).sessionDashboard.find?
    (Filter.eq "session_id" (.str sessionId)).holds).getD Doc.empty

theorem find_upsert {f : Filter} {new : Option Doc → Doc} (docs : List Doc)
    (matches_ : ∀ old, f.holds (new old) = true) :
    ∃ old, (Collection.upsert f new docs).find? f.holds = some (new old) := by
  unfold Collection.upsert
  split
  · next absent =>
    refine ⟨none, ?_⟩
    rw [List.find?_append, absent, Option.none_or, List.find?_cons_of_pos (matches_ none)]
  · next old found => exact ⟨some old, Collection.find_replaceFirst_same found (matches_ (some old))⟩

variable {env : Env}

theorem writerRow_figures {s : Store} (known : (s.findSession sessionId).isSome = true) :
    ∀ entry ∈ writerFigures (loadActiveCountLines s sessionId), writerRow env sessionId s entry.1 = some entry.2 := by
  obtain ⟨session, found⟩ := Option.isSome_iff_exists.mp known
  have stated : ∀ old : Option Doc, (Filter.eq "session_id" (.str sessionId)).holds
      ((old.getD Doc.empty).update (sessionProjectionDoc env sessionId session
        (loadActiveCountLines s sessionId))) = true := by
    intro old
    have named : (old.getD Doc.empty).update (sessionProjectionDoc env sessionId session
        (loadActiveCountLines s sessionId)) "session_id" = some (.str sessionId) := by
      simp [sessionProjectionDoc]
    simp only [Filter.holds, Filter.fieldIs_str named, beq_self_eq_true]
  obtain ⟨old, row⟩ := find_upsert s.sessionDashboard stated
  have eq : writerRow env sessionId s = (old.getD Doc.empty).update (sessionProjectionDoc env sessionId session
      (loadActiveCountLines s sessionId)) := by
    rw [writerRow, syncSession, found]
    simp only [syncSingleSession, row, Option.getD_some]
  rw [eq]
  simp only [writerFigures, List.mem_cons, List.not_mem_nil, or_false]
  rintro entry (rfl | rfl | rfl | rfl) <;>
    simp [sessionProjectionDoc, computeAggregates_eq, SessionTotals.toFields, SessionTotals.pendingItems]

theorem loadActiveCountLines_eq (s : Store) (sessionId : String) : loadActiveCountLines s sessionId =
      (((s.sessionLines sessionId).filter unarchived).take 10000).filter fun line =>
        !isSupersededCountLine line := by
  have filters : s.countLines.filter
      (Filter.both (.eq "session_id" (.str sessionId)) (.ne "archived" (.bool true))).holds =
        (s.sessionLines sessionId).filter unarchived := by
    rw [Store.sessionLines, List.filter_filter]
    apply List.filter_congr
    intro line _
    simp only [Filter.holds, unarchived, Bool.and_comm]
  rw [loadActiveCountLines, filters]

def WithinLimit (lines : List Doc) : Prop :=
  ∀ line ∈ (lines.filter unarchived).drop 10000, isSupersededCountLine line = true

variable {lines : List Doc}

theorem loaded_of_withinLimit (within : WithinLimit lines) :
    ((lines.filter unarchived).take 10000).filter (fun line => !isSupersededCountLine line) =
      lines.filter writerCounts := by
  have whole : (lines.filter unarchived).filter (fun line => !isSupersededCountLine line) =
      lines.filter writerCounts := by
    rw [List.filter_filter]
    apply List.filter_congr
    intro line _
    rw [writerCounts, Bool.and_comm]
  have rest : ((lines.filter unarchived).drop 10000).filter (fun line => !isSupersededCountLine line) = [] := by
    rw [List.filter_eq_nil_iff]
    intro line member
    simp [within line member]
  conv at whole => lhs; rw [← List.take_append_drop 10000 (lines.filter unarchived)]
  rw [← whole, List.filter_append, rest, List.append_nil]

/-- The log is about the lines: its last images are the lines that have not left. -/
def Describes (log : List ProjectionEvent) (lines : List Doc) : Prop :=
  ((latestImages log).map Prod.snd).Perm (lines.filter eventCounts)

/-- Whatever the log of the lines, both pipelines state the same figures. -/
def PipelinesAgree (env : Env) (sessionId : String) (lines : List Doc) : Prop :=
  ∀ s log p q, s.sessionLines sessionId = lines → (s.findSession sessionId).isSome = true →
    log ≠ [] → (∀ e ∈ log, TellsLine sessionId e) → Describes log lines →
    Projected sessionId p [] → projectAll log p = some q →
    ∀ field ∈ figureNames, found q .sessionDashboard (sessionIs sessionId) field = writerRow env sessionId s field

/-- The two pipelines count a line alike. -/
structure LineAgrees (line : Doc) : Prop where
  active : writerCounts line = eventCounts line
  verified : eventCounts line = true → isCountLineEffectivelyReviewed line = eventVerified line
  damaged : eventCounts line = true → truncate (asFloat (line.get "damaged_qty")) = if isDamaged line then 1 else 0

structure SameNumbers (images : List Image) (lines : List Doc) : Prop where
  total : images.length = lines.length
  verified : (images.countP fun image => eventVerified image.2) = lines.countP isCountLineEffectivelyReviewed
  damaged : ((images.countP fun image => isDamaged image.2 : ℕ) : ℤ) =
    (lines.map fun line => truncate (asFloat (line.get "damaged_qty"))).sum

theorem num_inj {a b : ℚ} : Value.num a = Value.num b ↔ a = b := ⟨fun eq => by injection eq, congrArg _⟩

theorem figures_agree_iff {s : Store} (known : (s.findSession sessionId).isSome = true)
    (figures : StatesFigures sessionId q images) :
    (∀ field ∈ figureNames, found q .sessionDashboard (sessionIs sessionId) field = writerRow env sessionId s field) ↔
    SameNumbers images (loadActiveCountLines s sessionId) := by
  have writer := @writerRow_figures sessionId env s known
  simp only [StatesFigures, eventFigures, writerFigures, SessionTotals.ofLines, SessionTotals.pendingItems,
    List.forall_mem_cons, List.not_mem_nil, false_imp_iff, implies_true, and_true] at figures writer
  obtain ⟨total, verified, pending, damaged⟩ := figures
  obtain ⟨total', verified', pending', damaged'⟩ := writer
  simp only [figureNames, List.forall_mem_cons, List.not_mem_nil, false_imp_iff, implies_true, and_true, total,
    verified, pending, damaged, total', verified', pending', damaged', Option.some.injEq, num_inj]
  constructor
  · rintro ⟨sameTotal, sameVerified, _, sameDamaged⟩
    exact ⟨by exact_mod_cast sameTotal, by exact_mod_cast sameVerified, by exact_mod_cast sameDamaged⟩
  · rintro ⟨sameTotal, sameVerified, sameDamaged⟩
    rw [sameTotal, sameVerified, ← sameDamaged]
    exact ⟨rfl, rfl, rfl, by push_cast; rfl⟩

theorem projected_empty_follows (some_ : log ≠ []) (tells : ∀ e ∈ log, TellsLine sessionId e)
    (fresh : Projected sessionId p []) (ran : projectAll log p = some q) :
    StatesFigures sessionId q (latestImages log) :=
  (projectAll_follows tells fresh ran).2 some_

theorem countP_images (images : List Image) (f : Doc → Bool) :
    (images.countP fun image => f image.2) = (images.map Prod.snd).countP f := by
  rw [List.countP_map]
  rfl

/-- Lines that are counted alike give the same numbers. -/
theorem sameNumbers_of_agree (perm : (images.map Prod.snd).Perm lines)
    (verified : ∀ line ∈ lines, isCountLineEffectivelyReviewed line = eventVerified line)
    (damaged : ∀ line ∈ lines, truncate (asFloat (line.get "damaged_qty")) = if isDamaged line then 1 else 0) :
    SameNumbers images lines := by
  refine ⟨?_, ?_, ?_⟩
  · rw [← perm.length_eq, List.length_map]
  · rw [countP_images, perm.countP_eq]
    apply List.countP_congr
    intro line member
    rw [verified line member]
  · rw [countP_images, perm.countP_eq]
    clear perm verified
    induction lines with
    | nil => rfl
    | cons line rest ih =>
      have tail := ih fun other member => damaged other (List.mem_cons_of_mem _ member)
      rw [List.countP_cons, List.map_cons, List.sum_cons, ← tail, damaged line List.mem_cons_self]
      split <;> push_cast <;> omega

theorem pipelinesAgree_of_lines (agree : ∀ line ∈ lines, LineAgrees line)
    (within : WithinLimit lines) : PipelinesAgree env sessionId lines := by
  intro s log p q stored known some_ tells describes fresh ran
  rw [figures_agree_iff known (projected_empty_follows some_ tells fresh ran),
    loadActiveCountLines_eq, stored, loaded_of_withinLimit within]
  have counted : lines.filter writerCounts = lines.filter eventCounts :=
    List.filter_congr fun line member => (agree line member).active
  rw [counted]
  refine sameNumbers_of_agree describes ?_ ?_
  · intro line member
    obtain ⟨stored, counts⟩ := List.mem_filter.mp member
    exact (agree line stored).verified counts
  · intro line member
    obtain ⟨stored, counts⟩ := List.mem_filter.mp member
    exact (agree line stored).damaged counts

/-- A line of the session under plain texts. -/
structure KeyedLine (sessionId : String) (line : Doc) : Prop where
  named : (lineIdentifier line).isSome = true
  session : line "session_id" = some (.str sessionId)
  code : ∃ itemCode, line "item_code" = some (.str itemCode) ∧ normalizeString (.str itemCode) = some itemCode

def scanOf (line : Doc) : ProjectionEvent where
  id := "scan"
  aggregateId := "scan"
  eventType := "SCAN_ADDED"
  payload := { fields := Doc.ofList [("item_id", line.get "item_code")], after := some line }
  timestamp := 0

theorem isRemoval_scanOf (line : Doc) : isRemoval (scanOf line) line = !eventCounts line := by
  have kind : ["COUNT_LINE_REMOVED", "COUNT_LINE_SUPERSEDED"].contains (scanOf line).kind = false := by
    have kind : ["COUNT_LINE_REMOVED", "COUNT_LINE_SUPERSEDED"].contains
        (Text.upper (Text.strip "SCAN_ADDED")) = false := by decide +kernel
    exact kind
  rw [isRemoval, kind, eventCounts, Bool.not_not, Bool.false_or]

theorem tellsLine_scanOf (plain : normalizeString (.str sessionId) = some sessionId)
    (keyed : KeyedLine sessionId line) : TellsLine sessionId (scanOf line) := by
  obtain ⟨lineId, named⟩ := Option.isSome_iff_exists.mp keyed.named
  obtain ⟨itemCode, code, codePlain⟩ := keyed.code
  have codeTruthy : (Value.str itemCode).truthy = true := by simpa using normalizeString_ne_empty codePlain
  have item : (scanOf line).field "item_id" = .str itemCode := by
    simp [ProjectionEvent.field, scanOf, Doc.get, code]
  have session : (scanOf line).lineSession line = some sessionId := by
    have absent : (scanOf line).field "session_id" = .null := rfl
    rw [ProjectionEvent.lineSession, absent, Doc.get_of_some keyed.session]
    exact plain
  have first : ∀ other, normalizeString ((Value.str itemCode).orElse other) = some itemCode := by
    intro other
    rw [Value.orElse, if_pos codeTruthy, codePlain]
  refine ⟨line, lineId, itemCode, asFloat (line.get "counted_qty"), "scan",
    ⟨rfl, named, session, ⟨⟨sessionId, itemCode, itemCode⟩, ?_, rfl, rfl⟩, ⟨_, rfl, rfl⟩, ?_⟩, ?_, .inl ?_⟩
  · simp only [eventItem, session, item, Doc.get_of_some code, first, Option.bind_eq_bind,
      Option.bind_some, Option.pure_def]
  · rw [Doc.get_of_some code]
    exact first _
  · have identified : normalizeString (.str "scan") = some "scan" := by decide +kernel
    exact identified
  · have listed : "SCAN_ADDED" ∈ countingTypes := by decide
    exact listed

/-- Events about lines are always projected. -/
theorem exists_projectAll (tells : ∀ e ∈ log, TellsLine sessionId e) (counted : Countable p)
    (keyed : KeyedRows p) : ∃ q, projectAll log p = some q := by
  induction log generalizing p with
  | nil => exact ⟨p, rfl⟩
  | cons e rest ih =>
    obtain ⟨line, lineId, itemCode, quantity, eventId, mirrored, identified, kind⟩ := tells e List.mem_cons_self
    have projected : ∃ q, project e p = some q ∧ Countable q ∧ KeyedRows q := by
      rcases kind with counting | logged
      · obtain ⟨q, ran, now, effect⟩ := project_mirrored mirrored counted keyed identified (.inl ⟨counting, rfl⟩)
        exact ⟨q, ran, now, effect.keyed⟩
      · obtain ⟨q, ran, now, effect⟩ := project_mirrored mirrored counted keyed identified (.inr ⟨logged, rfl⟩)
        exact ⟨q, ran, now, effect.keyed⟩
    obtain ⟨next, first, countedNext, keyedNext⟩ := projected
    obtain ⟨q, later⟩ := ih (fun e' member => tells e' (List.mem_cons_of_mem _ member)) countedNext keyedNext
    refine ⟨q, ?_⟩
    simp only [projectAll, List.foldlM_cons, first]
    exact later

def imageOf (line : Doc) : Image := ((lineIdentifier line).getD "", line)

theorem setImage_fresh (fresh : ∀ known ∈ images, known.1 ≠ image.1) : setImage image images = images ++ [image] := by
  induction images with
  | nil => rfl
  | cons first rest ih =>
    rw [setImage, if_neg (fresh first List.mem_cons_self),
      ih fun known member => fresh known (List.mem_cons_of_mem _ member)]
    rfl

theorem dropImage_fresh (fresh : ∀ known ∈ images, known.1 ≠ lineId) :
    dropImage lineId images = images := by
  apply List.eraseP_of_forall_not
  intro known member
  simpa using fresh known member

section

variable (named : ∀ line ∈ lines, (lineIdentifier line).isSome = true) (distinct : (lines.map lineIdentifier).Nodup)
include named distinct

/-- The scans of distinct lines leave those of them that count. -/
theorem followEvent_scans (fresh : ∀ line ∈ lines, ∀ known ∈ images, some known.1 ≠ lineIdentifier line) :
    (lines.map scanOf).foldl followEvent images = images ++ (lines.filter eventCounts).map imageOf := by
  induction lines generalizing images with
  | nil => simp
  | cons line rest ih =>
    obtain ⟨lineId, identifier⟩ := Option.isSome_iff_exists.mp (named line List.mem_cons_self)
    rw [List.map_cons, List.nodup_cons] at distinct
    have unknown : ∀ known ∈ images, known.1 ≠ lineId := by
      intro known member same
      exact fresh line List.mem_cons_self known member (by rw [same, identifier])
    have later := fun (next : List Image) => @ih next
      (fun other member => named other (List.mem_cons_of_mem _ member)) distinct.2
    have step : followEvent images (scanOf line) = images ++ (if eventCounts line then [imageOf line] else []) := by
      rw [followEvent_eq images (show (scanOf line).payload.line = some line from rfl) identifier, isRemoval_scanOf]
      cases eventCounts line with
      | true =>
        rw [if_neg (by simp), setImage_fresh unknown, imageOf, identifier]
        rfl
      | false =>
        rw [if_pos (by simp), dropImage_fresh unknown]
        simp
    rw [List.map_cons, List.foldl_cons, step, later]
    · cases counts : eventCounts line with
      | true => simp [counts]
      | false => simp [counts]
    · intro other member known listed
      rcases List.mem_append.mp listed with old | new
      · exact fresh other (List.mem_cons_of_mem _ member) known old
      · have same : known = imageOf line := by
          revert new
          split
          · exact List.mem_singleton.mp
          · simp
        rw [same, imageOf, identifier, Option.getD_some, ← identifier]
        intro clash
        exact distinct.1 (List.mem_map.mpr ⟨other, member, clash.symm⟩)

theorem describes_scans : Describes (lines.map scanOf) lines := by
  have left : ((latestImages (lines.map scanOf)).map Prod.snd) = lines.filter eventCounts := by
    rw [latestImages, followEvent_scans named distinct (by simp), List.nil_append, List.map_map]
    have same : (Prod.snd ∘ imageOf : Doc → Doc) = id := rfl
    rw [same, List.map_id]
  rw [Describes, left]

end

def freshProjections (sessionId : String) : Projections :=
  Tables.put (fun _ => []) .sessionDashboard [Doc.ofList [("session_id", .str sessionId)]]

theorem projected_fresh (sessionId : String) : Projected sessionId (freshProjections sessionId) [] := by
  have rows : freshProjections sessionId .verifiedItems = [] := Tables.put_other _ _ (by decide)
  refine ⟨rows ▸ .nil, by simp, Doc.ofList [("session_id", .str sessionId)], ?_⟩
  rw [freshProjections, Tables.put_same, List.find?_cons_of_pos]
  have named : Doc.ofList [("session_id", .str sessionId)] "session_id" = some (.str sessionId) := by simp
  simp only [sessionIs, Filter.holds, Filter.fieldIs_str named, beq_self_eq_true]

/-- A store with one session and the given lines. -/
def storeOf (sessionId : String) (lines : List Doc) : Store where
  sessions := [Doc.ofList [("id", .str sessionId)]]
  countLines := lines

theorem findSession_storeOf (sessionId : String) (lines : List Doc) :
    ((storeOf sessionId lines).findSession sessionId).isSome = true := by
  have named : Doc.ofList [("id", .str sessionId)] "id" = some (.str sessionId) := by simp
  rw [Store.findSession, storeOf, List.find?_cons_of_pos]
  · rfl
  · simp only [sessionLookup, Filter.holds, Filter.fieldIs_str named, beq_self_eq_true, Bool.true_or]

theorem sessionLines_storeOf (keyed : ∀ line ∈ lines, KeyedLine sessionId line) :
    (storeOf sessionId lines).sessionLines sessionId = lines := by
  rw [Store.sessionLines, storeOf, List.filter_eq_self]
  intro line member
  simp only [Filter.holds, Filter.fieldIs_str (keyed line member).session, beq_self_eq_true]

/-- Pipelines that agree over some lines give them the same numbers. -/
theorem sameNumbers_of_pipelines (plain : normalizeString (.str sessionId) = some sessionId)
    (keyed : ∀ line ∈ lines, KeyedLine sessionId line) (distinct : (lines.map lineIdentifier).Nodup)
    (some_ : lines ≠ []) (agree : PipelinesAgree env sessionId lines) :
    SameNumbers ((lines.filter eventCounts).map imageOf)
      (((lines.filter unarchived).take 10000).filter fun line => !isSupersededCountLine line) := by
  have named : ∀ line ∈ lines, (lineIdentifier line).isSome = true := fun line member => (keyed line member).named
  have tells : ∀ e ∈ lines.map scanOf, TellsLine sessionId e := by
    intro e member
    obtain ⟨line, stored, rfl⟩ := List.mem_map.mp member
    exact tellsLine_scanOf plain (keyed line stored)
  have counted : Countable (freshProjections sessionId) := by
    intro table counting d member
    have other : table ≠ .sessionDashboard := by rcases counting with rfl | rfl <;> decide
    rw [freshProjections, Tables.put_other _ _ other] at member
    cases member
  have keyedRows : KeyedRows (freshProjections sessionId) := by
    constructor
    · intro row member
      rw [freshProjections, Tables.put_other _ _ (by decide)] at member
      cases member
    · intro row member
      rw [freshProjections, Tables.put_other _ _ (by decide)] at member
      cases member
  obtain ⟨q, ran⟩ := exists_projectAll tells counted keyedRows
  have nonempty : lines.map scanOf ≠ [] := by simpa using some_
  have figures := projected_empty_follows nonempty tells (projected_fresh sessionId) ran
  have known := findSession_storeOf sessionId lines
  have same := agree (storeOf sessionId lines) (lines.map scanOf) _ q (sessionLines_storeOf keyed) known nonempty
    tells (describes_scans named distinct) (projected_fresh sessionId) ran
  rw [figures_agree_iff known figures, loadActiveCountLines_eq, sessionLines_storeOf keyed] at same
  rwa [latestImages, followEvent_scans named distinct (by simp), List.nil_append] at same

/-- A line that is alone in its session. -/
theorem lineAgrees_of_numbers
    (same : SameNumbers (([line].filter eventCounts).map imageOf)
      ((([line].filter unarchived).take 10000).filter fun other => !isSupersededCountLine other)) :
    LineAgrees line := by
  have loaded : (([line].filter unarchived).take 10000).filter (fun other => !isSupersededCountLine other) =
      if writerCounts line then [line] else [] := by
    unfold writerCounts
    cases kept : unarchived line <;> cases gone : isSupersededCountLine line <;> simp [kept, gone]
  rw [loaded] at same
  obtain ⟨total, verified, damaged⟩ := same
  cases counts : eventCounts line with
  | false =>
    cases writes : writerCounts line with
    | false => exact ⟨by rw [writes, counts], by simp [counts], by simp [counts]⟩
    | true => simp [counts, writes] at total
  | true =>
    cases writes : writerCounts line with
    | false => simp [counts, writes] at total
    | true =>
      simp only [List.filter_cons_of_pos counts, List.filter_nil, writes, if_true, List.map_cons, List.map_nil,
        List.countP_cons, List.countP_nil, List.sum_cons, List.sum_nil, imageOf, Nat.zero_add, add_zero] at verified damaged
      refine ⟨by rw [writes, counts], fun _ => ?_, fun _ => ?_⟩
      · revert verified
        cases eventVerified line <;> cases isCountLineEffectivelyReviewed line <;> simp
      · rw [← damaged]
        split <;> rfl

theorem withinLimit_of_numbers (agree : ∀ line ∈ lines, LineAgrees line)
    (same : SameNumbers ((lines.filter eventCounts).map imageOf) (((lines.filter unarchived).take 10000).filter fun line
      => !isSupersededCountLine line)) :
    WithinLimit lines := by
  have counted : lines.filter eventCounts = (lines.filter unarchived).filter fun line =>
      !isSupersededCountLine line := by
    rw [List.filter_filter]
    apply List.filter_congr
    intro line member
    rw [← (agree line member).active, writerCounts, Bool.and_comm]
  have parts := congrArg List.length (List.filter_append (p := fun line => !isSupersededCountLine line)
    ((lines.filter unarchived).take 10000) ((lines.filter unarchived).drop 10000))
  rw [List.take_append_drop, ← counted, List.length_append] at parts
  have total := same.total
  rw [List.length_map] at total
  have nothing : (((lines.filter unarchived).drop 10000).filter fun line =>
      !isSupersededCountLine line).length = 0 := by omega
  rw [List.length_eq_zero_iff, List.filter_eq_nil_iff] at nothing
  intro line member
  simpa using nothing line member

/-- The pipelines state the same figures for every set of a session's lines exactly when they count
each of the lines alike, and no line that counts lies beyond the writer's limit. -/
theorem dashboard_pipelines_agree_iff {env : Env} {sessionId : String} {lines : List Doc}
    (plain : normalizeString (.str sessionId) = some sessionId)
    (keyed : ∀ line ∈ lines, KeyedLine sessionId line) (distinct : (lines.map lineIdentifier).Nodup) :
    (∀ sub, sub.Sublist lines → PipelinesAgree env sessionId sub) ↔
      (∀ line ∈ lines, LineAgrees line) ∧ WithinLimit lines := by
  constructor
  · intro agree
    have each : ∀ line ∈ lines, LineAgrees line := by
      intro line member
      have alone : [line].Sublist lines := List.singleton_sublist.mpr member
      apply lineAgrees_of_numbers
      apply sameNumbers_of_pipelines plain _ _ (List.cons_ne_nil _ _) (agree [line] alone)
      · intro other listed
        exact keyed other (alone.subset listed)
      · exact List.nodup_singleton _
    refine ⟨each, ?_⟩
    by_cases empty : lines = []
    · rw [empty]
      simp [WithinLimit]
    · exact withinLimit_of_numbers each
        (sameNumbers_of_pipelines plain keyed distinct empty (agree lines (List.Sublist.refl _)))
  · rintro ⟨each, within⟩ sub below
    apply pipelinesAgree_of_lines
    · exact fun line member => each line (below.subset member)
    · intro line member
      exact within line (((below.filter unarchived).drop 10000).subset member)

/-- A count with three damaged pieces, and one without. -/
def damagedCount (damaged : ℚ) : Doc := Doc.ofList
  [("id", .str "L1"), ("session_id", .str "S1"), ("item_code", .str "I1"), ("counted_qty", .num 10),
    ("damaged_qty", .num damaged), ("status", .str "approved"), ("verified", .bool true)]

theorem keyedLine_damagedCount (damaged : ℚ) : KeyedLine "S1" (damagedCount damaged) := by
  refine ⟨?_, rfl, "I1", rfl, by decide +kernel⟩
  have named : lineIdentifier (damagedCount damaged) = normalizeString (.str "L1") := rfl
  rw [named]
  decide +kernel

/-- Undamaged lines are counted alike. -/
theorem dashboard_pipelines_agree_undamaged : PipelinesAgree sampleEnv "S1" [damagedCount 0] := by
  have keyed : ∀ line ∈ [damagedCount 0], KeyedLine "S1" line := by
    intro line member
    rw [List.mem_singleton.mp member]
    exact keyedLine_damagedCount 0
  have distinct : ([damagedCount 0].map lineIdentifier).Nodup := List.nodup_singleton _
  apply (dashboard_pipelines_agree_iff (by decide +kernel) keyed distinct).mpr _ _ (List.Sublist.refl _)
  refine ⟨?_, ?_⟩
  · intro line member
    rw [List.mem_singleton.mp member]
    exact ⟨by decide +kernel, fun _ => by decide +kernel, fun _ => by decide +kernel⟩
  · have few := List.length_filter_le unarchived [damagedCount 0]
    have short : ([damagedCount 0].filter unarchived).drop 10000 = [] := by
      apply List.drop_eq_nil_of_le
      rw [List.length_singleton] at few
      omega
    rw [WithinLimit, short]
    simp

/-- Three damaged pieces on one line are one damaged item to the events and three to the writer. -/
theorem dashboard_pipelines_disagree_damaged :
    ¬ ∀ sub, sub.Sublist [damagedCount 3] → PipelinesAgree sampleEnv "S1" sub := by
  intro agree
  have keyed : ∀ line ∈ [damagedCount 3], KeyedLine "S1" line := by
    intro line member
    rw [List.mem_singleton.mp member]
    exact keyedLine_damagedCount 3
  have same := sameNumbers_of_pipelines (by decide +kernel) keyed (List.nodup_singleton _)
    (List.cons_ne_nil _ _) (agree _ (List.Sublist.refl _))
  have damaged := (lineAgrees_of_numbers same).damaged (by decide +kernel)
  revert damaged
  decide +kernel

end StockVerification
