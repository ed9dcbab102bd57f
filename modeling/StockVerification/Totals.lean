import StockVerification.Store
import Mathlib.Data.List.Sort
import Mathlib.Data.List.Dedup
import Mathlib.Algebra.BigOperators.Group.List.Basic
import Mathlib.Tactic.Ring

/-!
# Session totals and the dashboard projection

Source: backend/services/session_lifecycle_service.py:174-223 and
backend/services/count_lines/session_aggregator.py:303-359 (two copies of one
loop), backend/services/projections/writer.py:195-450.

The loop over the lines is modelled as written; `SessionTotals.ofLines` says
what it computes. The `last_activity` stamp is written by these functions and
read by none that is modelled, so it is left out.
-/
namespace StockVerification

open Foundation

structure SessionTotals where
  totalItems : Nat
  totalVariance : ℚ
  verifiedItems : Nat
  damageItems : Int
  deriving DecidableEq

namespace SessionTotals

def zero : SessionTotals := ⟨0, 0, 0, 0⟩

/-- `max(total_items - verified_items, 0)`. -/
def pendingItems (t : SessionTotals) : Nat := t.totalItems - t.verifiedItems

/-- What one active line adds, once its numbers are known. -/
def add (t : SessionTotals) (variance damaged : ℚ) (reviewed : Bool) : SessionTotals where
  totalItems := t.totalItems + 1
  totalVariance := t.totalVariance + variance
  verifiedItems := t.verifiedItems + if reviewed then 1 else 0
  damageItems := t.damageItems + truncate damaged

/-- The figures as fields of a document. -/
def toFields (t : SessionTotals) : List (String × Value) :=
  [("total_items", .num t.totalItems), ("total_variance", .num t.totalVariance),
    ("verified_items", .num t.verifiedItems), ("pending_items", .num t.pendingItems),
    ("damage_items", .num t.damageItems)]

def statedBy (d : Doc) (t : SessionTotals) : Prop :=
  ∀ field ∈ t.toFields, d field.1 = some field.2

end SessionTotals

/-- The loop body for one line; `none` is the failed number conversion. -/
def addLine (t : SessionTotals) (line : Doc) : Option SessionTotals :=
  if isSupersededCountLine line then some t
  else do
    let variance ← (line.get "variance").numberOrZero
    let damaged ← (line.get "damaged_qty").numberOrZero
    pure (t.add variance damaged (isCountLineEffectivelyReviewed line))

/-- `_compute_session_totals`, the loop over all lines of the session. -/
def computeSessionTotals (s : Store) (sessionId : String) : Except Error SessionTotals :=
  match (s.sessionLines sessionId).foldlM addLine SessionTotals.zero with
  | some totals => .ok totals
  | none => .error (.value "could not convert string to float")

/-- `_as_float` of the projection writer: no number reads as zero. -/
def asFloat (value : Value) : ℚ := (value.number).getD 0

/-- `_load_active_count_lines`: at most 10000 lines that are not archived. -/
def loadActiveCountLines (s : Store) (sessionId : String) : List Doc :=
  ((s.countLines.filter
    (Filter.both (.eq "session_id" (.str sessionId)) (.ne "archived" (.bool true))).holds).take
      10000).filter fun line => !isSupersededCountLine line

/-- The figures of `_compute_aggregates` before the sums are rounded. -/
def aggregateLine (t : SessionTotals) (line : Doc) : SessionTotals :=
  t.add (asFloat (line.get "variance")) (asFloat (line.get "damaged_qty")) (isCountLineEffectivelyReviewed line)

/-- `_compute_aggregates`: the variance sum is rounded to four places. -/
def computeAggregates (lines : List Doc) : SessionTotals :=
  let t := lines.foldl aggregateLine SessionTotals.zero
  { t with totalVariance := roundPlaces 4 t.totalVariance }

/-- Session fields the dashboard row repeats unchanged. -/
def projectedSessionFields : List String :=
  ["warehouse", "floor_no", "location_name", "location_type", "rack_no", "rack_id", "staff_user",
    "staff_name", "user_id", "status", "finalization_status", "started_at", "completed_at",
    "closed_at", "finalized_at", "finalized_by", "reconciled_at", "last_heartbeat",
    "snapshot_hash", "snapshot_item_count", "type"]

def sessionProjectionDoc (env : Env) (sessionId : String) (session : Doc) (lines : List Doc) : Doc :=
  Doc.ofList
    ([("session_id", .str sessionId)] ++ (computeAggregates lines).toFields ++
      [("version", .num (coerceVersion (session.get "version"))), ("archived", .bool false),
        ("updated_at", .date env.now)] ++
      projectedSessionFields.map fun field => (field, session.get field))

/-- `_sync_single_session`: upsert the session's dashboard row. -/
def syncSingleSession (env : Env) (sessionId : String) (session : Doc) (s : Store) : Store :=
  let fields := sessionProjectionDoc env sessionId session (loadActiveCountLines s sessionId)
  let rows := Collection.upsert (.eq "session_id" (.str sessionId))
    (fun old => (old.getD Doc.empty).update fields) s.sessionDashboard
  { s with sessionDashboard := rows }

/-- One round of the loop of `sync_for_sessions`: an unknown session is skipped. -/
def syncSession (env : Env) (s : Store) (sessionId : String) : Store :=
  match s.findSession sessionId with
  | none => s
  | some session => syncSingleSession env sessionId session s

def sortedTexts (texts : List String) : List String := texts.dedup.insertionSort (· ≤ ·)

/-- `sync_for_sessions`: ids are stripped, empty ones dropped. -/
def syncForSessions (env : Env) (sessionIds : List String) (s : Store) : Store :=
  let ids := sortedTexts ((sessionIds.map Text.strip).filter (· != ""))
  ids.foldl (syncSession env) s

def Store.activeLines (s : Store) (sessionId : String) : List Doc :=
  (s.sessionLines sessionId).filter fun line => !isSupersededCountLine line

/-- The fold over the session's current lines that are not superseded. -/
def SessionTotals.ofLines (lines : List Doc) : SessionTotals where
  totalItems := lines.length
  totalVariance := (lines.map fun line => asFloat (line.get "variance")).sum
  verifiedItems := lines.countP isCountLineEffectivelyReviewed
  damageItems := (lines.map fun line => truncate (asFloat (line.get "damaged_qty"))).sum

@[simp] theorem mem_sortedTexts {texts : List String} {t : String} : t ∈ sortedTexts texts ↔ t ∈ texts := by
  simp [sortedTexts]

theorem asFloat_of_numberOrZero {v : Value} {q : ℚ} (h : v.numberOrZero = some q) : asFloat v = q := by
  unfold Value.numberOrZero at h
  split at h
  · simp [asFloat, h]
  · next falsy =>
    have zero : asFloat v = 0 := by
      cases v with
      | bool b => cases b <;> simp_all [asFloat, Value.number]
      | num n => simp_all [Value.truthy, asFloat, Value.number]
      | str t =>
        have blank : t = "" := by simpa using falsy
        subst blank
        rfl
      | _ => rfl
    rw [zero]
    exact Option.some.inj h

theorem aggregateLine_foldl (lines : List Doc) (t : SessionTotals) : lines.foldl aggregateLine t =
      ⟨t.totalItems + (SessionTotals.ofLines lines).totalItems,
        t.totalVariance + (SessionTotals.ofLines lines).totalVariance,
        t.verifiedItems + (SessionTotals.ofLines lines).verifiedItems,
        t.damageItems + (SessionTotals.ofLines lines).damageItems⟩ := by
  induction lines generalizing t with
  | nil => simp [SessionTotals.ofLines]
  | cons line rest ih =>
    rw [List.foldl_cons, ih]
    simp only [aggregateLine, SessionTotals.add, SessionTotals.ofLines, List.length_cons,
      List.map_cons, List.sum_cons, List.countP_cons, SessionTotals.mk.injEq]
    refine ⟨by omega, by ring, ?_, by ring⟩
    split <;> omega

/-- The raising loop, where it returns, is the tolerant loop over the active lines. -/
theorem addLine_foldlM {lines : List Doc} {t after : SessionTotals} (success : lines.foldlM addLine t = some after) :
    after = (lines.filter fun line => !isSupersededCountLine line).foldl aggregateLine t := by
  induction lines generalizing t with
  | nil => simpa using success.symm
  | cons line rest ih =>
    rw [List.foldlM_cons, Option.bind_eq_bind, Option.bind_eq_some_iff] at success
    obtain ⟨next, added, success⟩ := success
    have tail := ih success
    unfold addLine at added
    split at added
    · next superseded =>
      cases added
      simpa [superseded] using tail
    · next active =>
      simp only [Option.bind_eq_bind, Option.bind_eq_some_iff] at added
      obtain ⟨variance, hvariance, damaged, hdamaged, added⟩ := added
      cases added
      have head : aggregateLine t line = t.add variance damaged (isCountLineEffectivelyReviewed line) := by
        simp only [aggregateLine, asFloat_of_numberOrZero hvariance, asFloat_of_numberOrZero hdamaged]
      rw [List.filter_cons_of_pos (by simpa using active), List.foldl_cons, head]
      exact tail

theorem computeSessionTotals_ok {s : Store} {sessionId : String} {totals : SessionTotals}
    (success : computeSessionTotals s sessionId = .ok totals) :
    totals = SessionTotals.ofLines (s.activeLines sessionId) := by
  unfold computeSessionTotals at success
  split at success
  · next folded =>
    cases success
    rw [addLine_foldlM folded, aggregateLine_foldl]
    simp [SessionTotals.zero, Store.activeLines]
  · cases success

theorem computeAggregates_eq (lines : List Doc) : computeAggregates lines =
      { SessionTotals.ofLines lines with
        totalVariance := roundPlaces 4 (SessionTotals.ofLines lines).totalVariance } := by
  simp [computeAggregates, aggregateLine_foldl, SessionTotals.zero]

section

variable (env : Env) (ids : List String) (s : Store)
include env ids s

theorem syncForSessions_eq : ∃ rows, syncForSessions env ids s = { s with sessionDashboard := rows } := by
  unfold syncForSessions
  generalize sortedTexts _ = sorted
  induction sorted generalizing s with
  | nil => exact ⟨s.sessionDashboard, rfl⟩
  | cons id rest ih =>
    obtain ⟨rows, eq⟩ := ih (syncSession env s id)
    rw [List.foldl_cons, eq]
    unfold syncSession
    split
    · exact ⟨rows, rfl⟩
    · exact ⟨rows, rfl⟩

@[simp] theorem syncForSessions_countLines : (syncForSessions env ids s).countLines = s.countLines := by
  obtain ⟨rows, eq⟩ := syncForSessions_eq env ids s
  rw [eq]

@[simp] theorem syncForSessions_sessions : (syncForSessions env ids s).sessions = s.sessions := by
  obtain ⟨rows, eq⟩ := syncForSessions_eq env ids s
  rw [eq]

end

end StockVerification
