import StockVerification.CountLineRoutes
import StockVerification.Foundation.Summation
import StockVerification.TotalsCopies

/-!
# Session statistics

Source: backend/api/session_management_api.py:121-136, 509-524, 1474-1538.

The lines of a session are counted and their damaged quantities are summed. The statistics add the
sum to the counts: what is scanned is a count of lines only as long as no damaged quantity is
reported. The sum is the runtime's sum of doubles and a parameter here: ten tenths add up to less
than one.
-/
namespace StockVerification

open Foundation

structure SessionStats where
  id : String
  totalItems : Int
  verifiedItems : Int
  damageItems : Int
  pendingItems : Int
  durationSeconds : ℚ
  itemsPerMinute : ℚ
  scannedItems : Int := 0
  remainingItems : Int := 0
  completionPercent : ℚ := 0
  estimatedTimeRemaining : ℚ := 0
  deriving DecidableEq

def sessionOwner (session : Doc) : String :=
  ((session.get "staff_user").orElse (session.get "user_id")).textOrEmpty

/-- What the clock says during one request: `_datetime_to_timestamp` and two calls of
`time.time()`. -/
structure StatsClock where
  datetimeToTimestamp : Value → Option ℚ
  now : ℚ
  later : ℚ

/-- `_datetime_to_timestamp(session.get("started_at")) or time.time()`. -/
def StatsClock.startedAt (clock : StatsClock) (session : Doc) : ℚ :=
  ((clock.datetimeToTimestamp (session.get "started_at")).filter (· != 0)).getD clock.now

/-- What `get_session_stats` works out from the summary and the duration. -/
def buildSessionStats (sessionId : String) (summary : SessionTotals) (duration : ℚ) : SessionStats :=
  let totalItems : Int := summary.totalItems
  let verifiedItems : Int := summary.verifiedItems
  let damageItems := summary.damageItems
  let pendingItems := summary.pendingItems
  let itemsPerMinute := if 0 < duration then verifiedItems / duration * 60 else 0
  let scannedItems := verifiedItems + damageItems + pendingItems
  let remainingItems := max (totalItems - scannedItems) 0
  let completionPercent : ℚ := if 0 < totalItems then scannedItems / totalItems * 100 else 0
  let estimatedTimeRemaining := if 0 < itemsPerMinute ∧ 0 < remainingItems then
      remainingItems / itemsPerMinute * 60
    else 0
  { id := sessionId
    totalItems := totalItems
    verifiedItems := verifiedItems
    damageItems := damageItems
    pendingItems := pendingItems
    durationSeconds := duration
    itemsPerMinute := roundPlaces 2 itemsPerMinute
    scannedItems := scannedItems
    remainingItems := remainingItems
    completionPercent := roundPlaces 2 completionPercent
    estimatedTimeRemaining := roundPlaces 2 estimatedTimeRemaining }

def getSessionStats (sum : List ℚ → ℚ) (user : User) (clock : StatsClock) (sessionId : String)
    (s : Store) : Except Error SessionStats :=
  if "offline_".toList.isPrefixOf sessionId.toList then
    .ok
      { id := sessionId
        totalItems := 0
        verifiedItems := 0
        damageItems := 0
        pendingItems := 0
        durationSeconds := 0
        itemsPerMinute := 0 }
  else
    match s.findSession sessionId with
    | none => .error (.http 404 ("Session " ++ sessionId ++ " not found"))
    | some session => do
      require (user.isPrivileged || sessionOwner session == user.username) (.http 403 "Access denied")
      match getSessionLineSummary sum (s.sessionLines sessionId) with
      | none => .error (.value "could not convert string to float")
      | some summary => pure (buildSessionStats sessionId summary (max (clock.later - clock.startedAt session) 0))

/-- The sum of the damaged quantities of the session's current lines. -/
def damagedTotal (sum : List ℚ → ℚ) (lines : List Doc) : ℚ := sum (damagedQuantities (getSessionCountLines lines))

variable {summary : SessionTotals}

theorem getSessionLineSummary_some {sum : List ℚ → ℚ} {lines : List Doc}
    (success : getSessionLineSummary sum lines = some summary) :
    summary.totalItems = (getSessionCountLines lines).length ∧ summary.verifiedItems ≤ summary.totalItems ∧
      summary.damageItems = truncate (damagedTotal sum lines) := by
  rw [getSessionLineSummary_eq] at success
  split at success
  · cases success
    exact ⟨rfl, List.countP_le_length, rfl⟩
  · cases success

/-- Nothing more is scanned than there is, and the percentage is one. -/
structure SessionStats.Proportional (stats : SessionStats) : Prop where
  scanned : stats.scannedItems ≤ stats.totalItems
  nonneg : 0 ≤ stats.completionPercent
  le_hundred : stats.completionPercent ≤ 100

theorem scannedItems_eq (sessionId : String) (duration : ℚ)
    (verified : summary.verifiedItems ≤ summary.totalItems) :
    (buildSessionStats sessionId summary duration).scannedItems = summary.totalItems + summary.damageItems := by
  simp only [buildSessionStats, SessionTotals.pendingItems]
  omega

theorem roundPlaces_percent_nonneg {total damage : Int} (positive : 0 < total) :
    0 ≤ roundPlaces 2 (((total + damage : Int) : ℚ) / total * 100) ↔ -total ≤ 20000 * (total + damage) := by
  have positive' : (0 : ℚ) < total := by exact_mod_cast positive
  rw [roundPlaces_nonneg]
  have scaled : ((total + damage : Int) : ℚ) / total * 100 * 10 ^ 2 = ((total + damage : Int) : ℚ) * 10000 / total := by
    ring
  rw [scaled, le_div_iff₀ positive']
  constructor
  · intro bound
    have integral : (-total : ℚ) ≤ 20000 * (total + damage : Int) := by linarith
    exact_mod_cast integral
  · intro bound
    have rational : (-total : ℚ) ≤ 20000 * (total + damage : Int) := by exact_mod_cast bound
    linarith

/-- The statistics are proportions exactly when the damaged quantities add up to no whole unit; a
negative sum must not take away more than the lines themselves, to the last decimal of the
percentage. -/
theorem buildSessionStats_proportional {sessionId : String} (duration : ℚ)
    (verified : summary.verifiedItems ≤ summary.totalItems) (empty : summary.totalItems = 0 → summary.damageItems = 0) :
    (buildSessionStats sessionId summary duration).Proportional ↔
      summary.damageItems ≤ 0 ∧ -(summary.totalItems : Int) ≤ 20000 * (summary.totalItems + summary.damageItems) := by
  have scanned := scannedItems_eq sessionId duration verified
  have total : (buildSessionStats sessionId summary duration).totalItems = summary.totalItems := rfl
  by_cases noLines : summary.totalItems = 0
  · have percent : (buildSessionStats sessionId summary duration).completionPercent = 0 := by
      simp only [buildSessionStats, noLines, Nat.cast_zero, lt_irrefl, if_false, roundPlaces_zero]
    have undamaged := empty noLines
    constructor
    · intro _
      omega
    · intro _
      constructor
      · omega
      · rw [percent]
      · rw [percent]
        norm_num
  · have positive : (0 : Int) < summary.totalItems := by omega
    have percent : (buildSessionStats sessionId summary duration).completionPercent =
        roundPlaces 2 (((summary.totalItems + summary.damageItems : Int) : ℚ) / (summary.totalItems : Int) * 100) := by
      rw [← scanned]
      simp only [buildSessionStats, positive, if_true]
    constructor
    · rintro ⟨below, nonneg, -⟩
      rw [percent, roundPlaces_percent_nonneg positive] at nonneg
      omega
    · rintro ⟨undamaged, nonneg⟩
      constructor
      · omega
      · rw [percent, roundPlaces_percent_nonneg positive]
        exact nonneg
      · have positive' : (0 : ℚ) < (summary.totalItems : Int) := by exact_mod_cast positive
        have share : ((summary.totalItems + summary.damageItems : Int) : ℚ) / (summary.totalItems : Int) ≤ 1 := by
          rw [div_le_one positive']
          exact_mod_cast (by omega : (summary.totalItems + summary.damageItems : Int) ≤ summary.totalItems)
        have whole : roundPlaces 2 (((100 : Nat) : ℚ)) = 100 := roundPlaces_natCast 2 100
        have rounded := roundPlaces_mono 2 (mul_le_mul_of_nonneg_right share (by norm_num : (0 : ℚ) ≤ 100))
        rw [one_mul] at rounded
        rw [percent]
        exact rounded.trans_eq whole

theorem cast_le_truncate (q : ℚ) (n : Nat) :
    -(n : Int) ≤ 20000 * (n + truncate q) ↔ -((n + n / 20000 : Nat) + 1 : ℚ) < q := by
  rw [← neg_le_truncate]
  omega

def currentLines (s : Store) (sessionId : String) : Nat := (getSessionCountLines (s.sessionLines sessionId)).length

/-- Lines that were counted once, each with the same damaged quantity. -/
def damagedStore (lines : ℕ) (damaged : ℚ) : Store :=
  { countingStore with
    countLines := List.replicate lines
      (Doc.ofList [("id", .str "L1"), ("session_id", .str "S1"), ("damaged_qty", .num damaged)]) }

def steadyClock : StatsClock where
  datetimeToTimestamp _ := none
  now := 0
  later := 60

/-- Their summary. -/
def damagedSummary (lines : ℕ) (damageItems : ℤ) : SessionTotals where
  totalItems := lines
  totalVariance := 0
  verifiedItems := lines
  damageItems := damageItems

theorem getSessionStats_damaged :
    getSessionStats (roundedSum nearestDouble) ⟨"bob", "supervisor"⟩ steadyClock "S1" (damagedStore 1 2) =
      .ok (buildSessionStats "S1" (damagedSummary 1 2) 60) := by
  decide +kernel

/-- Ten lines with a tenth each: the doubles add up to less than one, and no damaged item is
added. -/
theorem getSessionStats_tenths :
    getSessionStats (roundedSum nearestDouble) ⟨"bob", "supervisor"⟩ steadyClock "S1"
      (damagedStore 10 (nearestDouble (1 / 10))) = .ok (buildSessionStats "S1" (damagedSummary 10 0) 60) := by
  decide +kernel

end StockVerification
