import StockVerification.CachedBarcodes
import StockVerification.Foundation.PlainObjects
import StockVerification.LocalSessions

/-!
# The progress of racks without a connection

Source: frontend/src/services/api/sessionManagementApi.ts:422-514 and 517-520,
frontend/src/data/repositories/sessionControlPlaneRepository.ts:520-526 and
frontend/src/services/offline/offlineStorage.ts:806-832.

The cached lines of a session are grouped by their rack in a plain object, and the group of the
lines without a rack is left out at the end. The rounding of the runtime's additions is a parameter.
-/
namespace StockVerification

open Foundation

/-- A cached count line. Its cache holds it under its session. -/
structure CachedCountLine where
  itemCode : Option String := none
  countedQty : Option ℚ := none
  variance : Option ℚ := none
  countedAt : Option String := none
  rackNo : Option String := none
  rack : Option String := none
  rackId : Option String := none
  deriving DecidableEq

structure RackStats where
  counted : ℕ
  uniqueItems : List (Option String)
  totalQuantity : ℚ
  lastUpdated : String
  hasDiscrepancies : Bool

structure RackProgress where
  rack : String
  counted : ℕ
  countedQuantity : ℚ
  lastUpdated : String
  hasDiscrepancies : Bool
  status : String

structure RackSummary where
  totalRacks : ℕ
  totalCountedItems : ℕ
  totalCountedQuantity : ℚ
  racksWithDiscrepancies : ℕ

structure RackAnswer where
  data : List RackProgress
  summary : Option RackSummary := none

def resolveProjectionSessionIds (db : SessionDb) (sessionId : String) : List String :=
  match getSnapshotByAnyId db sessionId with
  | none => [sessionId]
  | some snapshot => [snapshot.localSessionId]

/-- `getCountLinesBySessionFromCache`. What is inherited under an id stands as a line without
fields. -/
def getCountLinesBySessionFromCache (cache : PlainObject (List CachedCountLine))
    (sessionIds : List String) : List CachedCountLine :=
  sessionIds.flatMap fun id => match cache.read id with
    | .own lines => lines
    | .inherited => [{}]
    | .missing => []

def CachedCountLine.namedRack (line : CachedCountLine) : Option String :=
  firstFilled [line.rackNo, line.rack, line.rackId]

def CachedCountLine.rackKey (line : CachedCountLine) : String := line.namedRack.getD "Unknown"

/-- `line.counted_qty || 1`. -/
def CachedCountLine.addedQuantity (line : CachedCountLine) : ℚ := ((line.countedQty).filter (· ≠ 0)).getD 1

/-- The statistics a rack starts with. -/
def startStats (now : String) (line : CachedCountLine) : RackStats where
  counted := 0
  uniqueItems := []
  totalQuantity := 0
  lastUpdated := (firstFilled [line.countedAt]).getD now
  hasDiscrepancies := false

variable (round : ℚ → ℚ)

/-- What a line adds to the statistics of its rack. -/
def addToRack (line : CachedCountLine) (stats : RackStats) : RackStats :=
  let seen := stats.uniqueItems.contains line.itemCode
  { counted := if seen then stats.counted else stats.counted + 1
    uniqueItems := if seen then stats.uniqueItems else stats.uniqueItems ++ [line.itemCode]
    totalQuantity := round (stats.totalQuantity + line.addedQuantity)
    lastUpdated := match line.countedAt with
      | some lineTime => if codeUnits stats.lastUpdated < codeUnits lineTime then lineTime else stats.lastUpdated
      | none => stats.lastUpdated
    hasDiscrepancies := stats.hasDiscrepancies || line.variance.any (· ≠ 0) }

def nextStats (now : String) (line : CachedCountLine) (stats : Option RackStats) : RackStats :=
  addToRack round line (stats.getD (startStats now line))

/-- One round of the loop. Inherited values have no set of items. -/
def countLine (now : String) (rackStats : PlainObject RackStats) (line : CachedCountLine) :
    Except String (PlainObject RackStats) :=
  match rackStats.read line.rackKey with
  | .own stats => .ok (rackStats.put line.rackKey (nextStats round now line (some stats)))
  | .inherited => .error "TypeError"
  | .missing => .ok (rackStats.put line.rackKey (nextStats round now line none))

def toProgress (entry : String × RackStats) : RackProgress where
  rack := entry.1
  counted := entry.2.counted
  countedQuantity := entry.2.totalQuantity
  lastUpdated := entry.2.lastUpdated
  hasDiscrepancies := entry.2.hasDiscrepancies
  status := if entry.2.hasDiscrepancies then "discrepancies" else "counting"

def summarize (rackProgress : List RackProgress) : RackSummary where
  totalRacks := rackProgress.length
  totalCountedItems := (rackProgress.map (·.counted)).sum
  totalCountedQuantity := roundedSum round (rackProgress.map (·.countedQuantity))
  racksWithDiscrepancies := rackProgress.countP (·.hasDiscrepancies)

/-- The answer for the lines of a session. `inOrder` is the comparison of two racks by
`localeCompare`. -/
def rackAnswer (inOrder : String → String → Bool) (now : String)
    (cachedLines : List CachedCountLine) : RackAnswer :=
  if cachedLines = [] then { data := [] }
  else match cachedLines.foldlM (countLine round now) PlainObject.empty with
    | .error _ => { data := [] }
    | .ok rackStats =>
      let rackProgress := ((rackStats.entries.filter fun entry => entry.1 ≠ "Unknown").map toProgress).mergeSort
        fun a b => inOrder a.rack b.rack
      { data := rackProgress, summary := some (summarize round rackProgress) }

/-- `getRackProgress` without a connection. -/
def getRackProgress (inOrder : String → String → Bool) (now : String) (db : SessionDb)
    (cache : PlainObject (List CachedCountLine)) (sessionId : String) : RackAnswer :=
  rackAnswer round inOrder now (getCountLinesBySessionFromCache cache (resolveProjectionSessionIds db sessionId))

def countedSum (lines : List CachedCountLine) : ℚ := (lines.map fun line => line.countedQty.getD 0).sum

def cachedLines (db : SessionDb) (cache : PlainObject (List CachedCountLine)) (sessionId : String) :
    List CachedCountLine :=
  (resolveProjectionSessionIds db sessionId).flatMap fun id => (cache.get id).getD []

/-- Every rack that a line names is reported once with the quantity of its lines, no other rack is,
and the racks together have the quantity of all lines. -/
structure RacksExact (lines : List CachedCountLine) (answer : RackAnswer) : Prop where
  racks : ∀ rack, (∃ line ∈ lines, line.namedRack = some rack) →
    (answer.data.filter fun progress => progress.rack = rack).map (·.countedQuantity) =
      [countedSum (lines.filter fun line => line.namedRack = some rack)]
  only : ∀ progress ∈ answer.data, ∃ line ∈ lines, line.namedRack = some progress.rack
  total : (answer.data.map (·.countedQuantity)).sum = countedSum lines

theorem racksExact_data {lines : List CachedCountLine} {answer other : RackAnswer}
    (same : answer.data = other.data) : RacksExact lines answer ↔ RacksExact lines other := by
  constructor
  · rintro ⟨racks, only, total⟩
    rw [same] at racks only total
    exact ⟨racks, only, total⟩
  · rintro ⟨racks, only, total⟩
    rw [← same] at racks only total
    exact ⟨racks, only, total⟩

/-- No rack has the name of the group without a rack or a name that objects inherit, a line with a
rack has a quantity other than 0, and the lines without a rack have quantities that add up to 0. -/
structure RacksPlain (lines : List CachedCountLine) : Prop where
  names : ∀ line ∈ lines, ∀ rack, line.namedRack = some rack → rack ≠ "Unknown" ∧ rack ∉ inheritedNames
  counts : ∀ line ∈ lines, line.namedRack ≠ none → line.countedQty ≠ none ∧ line.countedQty ≠ some 0
  rest : countedSum (lines.filter fun line => line.namedRack = none) = 0

variable {line : CachedCountLine}

section

variable {round : ℚ → ℚ} {now : String} {lines : List CachedCountLine}

theorem unknown_ordinary : "Unknown" ∉ inheritedNames := by decide

theorem rackKey_of_named {rack : String} (named : line.namedRack = some rack) :
    line.rackKey = rack := by
  rw [CachedCountLine.rackKey, named, Option.getD_some]

theorem namedRack_of_key (other : line.rackKey ≠ "Unknown") :
    line.namedRack = some line.rackKey := by
  unfold CachedCountLine.rackKey at *
  cases named : line.namedRack with
  | none =>
    rw [named] at other
    exact absurd rfl other
  | some rack => rfl

def countedIn (round : ℚ → ℚ) (now : String) (rackStats : PlainObject RackStats)
    (line : CachedCountLine) : PlainObject RackStats :=
  rackStats.put line.rackKey (nextStats round now line (rackStats.get line.rackKey))

theorem countLine_ordinary {rackStats : PlainObject RackStats}
    (ordinary : line.rackKey ∉ inheritedNames) :
    countLine round now rackStats line = .ok (countedIn round now rackStats line) := by
  rw [countLine, PlainObject.read_ordinary ordinary, countedIn]
  cases rackStats.get line.rackKey <;> rfl

theorem countLines_ordinary (ordinary : ∀ line ∈ lines, line.rackKey ∉ inheritedNames)
    (rackStats : PlainObject RackStats) :
    lines.foldlM (countLine round now) rackStats = .ok (lines.foldl (countedIn round now) rackStats) := by
  induction lines generalizing rackStats with
  | nil => rfl
  | cons line rest ih =>
    rw [List.foldlM_cons, countLine_ordinary (ordinary line List.mem_cons_self)]
    exact ih (fun later member => ordinary later (List.mem_cons_of_mem _ member)) _

/-- A rack with an inherited name ends the loop with an error. -/
theorem countLines_inherited (member : line ∈ lines)
    (inherited : line.rackKey ∈ inheritedNames) {rackStats : PlainObject RackStats}
    (fresh : ∀ name ∈ inheritedNames, rackStats.get name = none) :
    lines.foldlM (countLine round now) rackStats = .error "TypeError" := by
  induction lines generalizing rackStats with
  | nil => cases member
  | cons first rest ih =>
    rw [List.foldlM_cons]
    by_cases here : first.rackKey ∈ inheritedNames
    · rw [countLine, PlainObject.read, fresh _ here]
      simp only [if_pos here]
      rfl
    · rw [countLine_ordinary here]
      rcases List.mem_cons.mp member with rfl | later
      · exact absurd inherited here
      · refine ih later fun name listed => ?_
        rw [countedIn, PlainObject.get_put, if_neg fun same : first.rackKey = name => here (same ▸ listed)]
        exact fresh name listed

theorem total_nextStats (line : CachedCountLine) (stats : Option RackStats) : (nextStats id now line stats).totalQuantity =
    ((stats.map (·.totalQuantity)).getD 0) + line.addedQuantity := by
  cases stats <;> rfl

theorem total_foldEvents (stats : Option RackStats) :
    ((Table.foldEvents (nextStats id now) stats lines).map (·.totalQuantity)).getD 0 =
      (stats.map (·.totalQuantity)).getD 0 + (lines.map (·.addedQuantity)).sum := by
  induction lines generalizing stats with
  | nil => simp [Table.foldEvents]
  | cons line rest ih =>
    have onward := ih (some (nextStats id now line stats))
    rw [Option.map_some, Option.getD_some, total_nextStats] at onward
    rw [List.map_cons, List.sum_cons, ← add_assoc]
    exact onward

theorem total_counted (now : String) (lines : List CachedCountLine) (rackStats : PlainObject RackStats) :
    ((lines.foldl (countedIn id now) rackStats).entries.map (·.2.totalQuantity)).sum =
      (rackStats.entries.map (·.2.totalQuantity)).sum + (lines.map (·.addedQuantity)).sum := by
  induction lines generalizing rackStats with
  | nil => simp
  | cons line rest ih =>
    have written := Entries.sum_put (·.totalQuantity) line.rackKey
      (nextStats id now line (rackStats.get line.rackKey)) rackStats.ordered
    rw [total_nextStats] at written
    rw [List.foldl_cons, ih, countedIn, PlainObject.put, written, PlainObject.get, List.map_cons, List.sum_cons]
    ring

end

section

variable (round : ℚ → ℚ) (inOrder : String → String → Bool) (now : String) {lines : List CachedCountLine}

/-- The statistics of the racks that lines without inherited names lead to. -/
def rackStatsOf (round : ℚ → ℚ) (now : String) (lines : List CachedCountLine) : PlainObject RackStats :=
  lines.foldl (countedIn round now) PlainObject.empty

theorem get_rackStatsOf (lines : List CachedCountLine) (key : String) : (rackStatsOf round now lines).get key =
    Table.foldEvents (nextStats round now) none (lines.filter fun line => line.rackKey = key) := by
  rw [rackStatsOf, ← PlainObject.get_empty key]
  exact PlainObject.get_foldl_put (·.rackKey) (nextStats round now) lines PlainObject.empty key

theorem get_total (lines : List CachedCountLine) (key : String) :
    (((rackStatsOf id now lines).get key).map (·.totalQuantity)).getD 0 =
    ((lines.filter fun line => line.rackKey = key).map (·.addedQuantity)).sum := by
  rw [get_rackStatsOf, total_foldEvents, Option.map_none, Option.getD_none, zero_add]

theorem data_perm (ordinary : ∀ line ∈ lines, line.rackKey ∉ inheritedNames) :
    (rackAnswer round inOrder now lines).data.Perm
      (((rackStatsOf round now lines).entries.filter fun entry => entry.1 ≠ "Unknown").map toProgress) := by
  unfold rackAnswer
  split
  · next empty =>
    subst empty
    exact List.Perm.refl []
  · rw [countLines_ordinary ordinary]
    exact List.mergeSort_perm _ _

theorem data_inherited (member : line ∈ lines)
    (inherited : line.rackKey ∈ inheritedNames) : (rackAnswer round inOrder now lines).data = [] := by
  unfold rackAnswer
  split
  · rfl
  · rw [countLines_inherited member inherited fun _ _ => rfl]

theorem nextStats_exact {stats : Option RackStats}
    (unrounded : round ((stats.map (·.totalQuantity)).getD 0 + line.addedQuantity) =
      (stats.map (·.totalQuantity)).getD 0 + line.addedQuantity) :
    nextStats round now line stats = nextStats id now line stats := by
  cases stats with
  | none | some _ =>
    unfold nextStats addToRack
    simp only [startStats, Option.map_none, Option.map_some, Option.getD_none, Option.getD_some] at unrounded ⊢
    rw [unrounded, id]

/-- Where no sum of the added quantities is rounded, every line leaves the statistics of exact
additions. -/
theorem counted_exact (done : List CachedCountLine)
    (exact : SumsExactly round ((done ++ lines).map (·.addedQuantity))) :
    lines.foldl (countedIn round now) (rackStatsOf id now done) = rackStatsOf id now (done ++ lines) := by
  induction lines generalizing done with
  | nil => rw [List.append_nil, List.foldl_nil]
  | cons line rest ih =>
    have grouped : ((done.filter fun other => other.rackKey = line.rackKey) ++ [line]).Sublist (done ++ line :: rest) :=
      List.filter_sublist.append (List.singleton_sublist.mpr List.mem_cons_self)
    have unrounded := exact _ (grouped.map (·.addedQuantity)).subperm
    rw [List.map_append, List.sum_append, ← get_total now done line.rackKey, List.map_singleton,
      List.sum_singleton] at unrounded
    have here : countedIn round now (rackStatsOf id now done) line = rackStatsOf id now (done ++ [line]) := by
      rw [countedIn, nextStats_exact round now unrounded, rackStatsOf, rackStatsOf, List.foldl_append]
      rfl
    have onward := ih (done ++ [line]) (by rwa [List.append_assoc])
    rw [List.foldl_cons, here, onward, List.append_assoc]
    rfl

theorem data_exact (exact : SumsExactly round (lines.map (·.addedQuantity))) :
    (rackAnswer round inOrder now lines).data = (rackAnswer id inOrder now lines).data := by
  by_cases ordinary : ∀ line ∈ lines, line.rackKey ∉ inheritedNames
  · have same := counted_exact round now [] exact
    unfold rackAnswer
    rw [countLines_ordinary ordinary, countLines_ordinary ordinary]
    split
    · rfl
    · have racks : lines.foldl (countedIn round now) PlainObject.empty =
          lines.foldl (countedIn id now) PlainObject.empty := same
      rw [racks]
  · push Not at ordinary
    obtain ⟨line, member, inherited⟩ := ordinary
    rw [data_inherited round inOrder now member inherited, data_inherited id inOrder now member inherited]

/-- What is left of one rack's group at the end. -/
theorem reported_rack (rackStats : PlainObject RackStats) (rack : String) :
    (((rackStats.entries.filter fun entry => entry.1 ≠ "Unknown").map toProgress).filter
      fun progress => progress.rack = rack).map (·.countedQuantity) =
      if rack = "Unknown" then [] else ((rackStats.get rack).map (·.totalQuantity)).toList := by
  rw [List.filter_map, List.map_map, List.filter_filter]
  by_cases unknown : rack = "Unknown"
  · rw [if_pos unknown, List.map_eq_nil_iff, List.filter_eq_nil_iff]
    intro entry _
    simp only [Function.comp_apply, toProgress, unknown]
    grind
  · have alike : rackStats.entries.filter (fun entry =>
        ((fun progress => decide (RackProgress.rack progress = rack)) ∘ toProgress) entry &&
          decide (entry.1 ≠ "Unknown")) = rackStats.entries.filter (fun entry => entry.1 = rack) := by
      apply List.filter_congr
      intro entry _
      simp only [Function.comp_apply, toProgress]
      grind
    rw [if_neg unknown, alike, Entries.filter_key rackStats.ordered, ← PlainObject.get]
    cases rackStats.get rack <;> rfl

section

variable (ordinary : ∀ line ∈ lines, line.rackKey ∉ inheritedNames)
include ordinary

theorem data_rack (rack : String) :
    ((rackAnswer id inOrder now lines).data.filter fun progress => progress.rack = rack).map (·.countedQuantity) =
      if rack = "Unknown" then [] else (((rackStatsOf id now lines).get rack).map (·.totalQuantity)).toList := by
  have reported := ((data_perm id inOrder now ordinary).filter fun progress =>
    progress.rack = rack).map (·.countedQuantity)
  rw [reported_rack] at reported
  split at reported
  · next unknown => rw [if_pos unknown, List.perm_nil.mp reported]
  · next other =>
    rw [if_neg other]
    cases stats : (rackStatsOf id now lines).get rack with
    | none | some _ => simpa [stats] using reported

theorem data_named (member : line ∈ lines) (known : line.rackKey ≠ "Unknown") :
    ((rackAnswer id inOrder now lines).data.filter fun progress => progress.rack = line.rackKey).map (·.countedQuantity) =
      [((lines.filter fun other => other.rackKey = line.rackKey).map (·.addedQuantity)).sum] := by
  rw [data_rack inOrder now ordinary, if_neg known, ← get_total now lines]
  have counted : (rackStatsOf id now lines).get line.rackKey ≠ none := by
    rw [get_rackStatsOf, Ne, Table.foldEvents_eq_none, List.filter_eq_nil_iff]
    exact fun none_ => none_ line member (by simp)
  obtain ⟨stats, found⟩ := Option.ne_none_iff_exists'.mp counted
  rw [found]
  rfl

/-- The racks together have what the lines with a rack add. -/
theorem data_total : ((rackAnswer id inOrder now lines).data.map (·.countedQuantity)).sum =
      ((lines.filter fun line => !decide (line.rackKey = "Unknown")).map (·.addedQuantity)).sum := by
  have all := total_counted now lines PlainObject.empty
  have entries := (List.filter_append_perm (fun entry => decide (entry.1 ≠ "Unknown"))
    (rackStatsOf id now lines).entries).map (·.2.totalQuantity) |>.sum_eq
  have unknown : (rackStatsOf id now lines).entries.filter (fun entry => !decide (entry.1 ≠ "Unknown")) =
      (rackStatsOf id now lines).entries.filter (fun entry => entry.1 = "Unknown") := by
    apply List.filter_congr
    intro entry _
    simp
  have group := get_total now lines "Unknown"
  have reported := ((data_perm id inOrder now ordinary).map (·.countedQuantity)).sum_eq
  rw [unknown, Entries.filter_key (rackStatsOf id now lines).ordered, ← PlainObject.get,
    List.map_append, List.sum_append] at entries
  rw [List.map_map] at reported
  have single : (((((rackStatsOf id now lines).get "Unknown").map fun value => ("Unknown", value)).toList).map
      (·.2.totalQuantity)).sum = (((rackStatsOf id now lines).get "Unknown").map (·.totalQuantity)).getD 0 := by
    cases (rackStatsOf id now lines).get "Unknown" <;> simp
  rw [single, group] at entries
  rw [reported]
  have empty : ((PlainObject.empty : PlainObject RackStats).entries.map (·.2.totalQuantity)).sum = 0 := rfl
  rw [empty, zero_add] at all
  have parts := ((List.filter_append_perm (fun line : CachedCountLine => decide (line.rackKey = "Unknown")) lines).map
    (·.addedQuantity)).sum_eq
  rw [List.map_append, List.sum_append] at parts
  have sums := (entries.trans all).trans parts.symm
  rw [add_comm] at sums
  exact add_left_cancel sums

end

def CachedCountLine.isBlank (line : CachedCountLine) : Bool := line.countedQty = none ∨ line.countedQty = some 0

theorem added_eq (line : CachedCountLine) :
    line.addedQuantity = line.countedQty.getD 0 + if line.isBlank then 1 else 0 := by
  unfold CachedCountLine.addedQuantity CachedCountLine.isBlank
  cases line.countedQty with
  | none => simp
  | some quantity =>
    by_cases zero : quantity = 0
    · subst zero
      simp [Option.filter]
    · simp [Option.filter, zero]

theorem added_sum : (lines.map (·.addedQuantity)).sum = countedSum lines + lines.countP (·.isBlank) := by
  induction lines with
  | nil => simp [countedSum]
  | cons line rest ih =>
    rw [List.map_cons, List.sum_cons, ih, countedSum, countedSum, List.map_cons, List.sum_cons,
      List.countP_cons, added_eq]
    push_cast
    ring

theorem added_filled (filled : ∀ line ∈ lines, line.isBlank = false) :
    (lines.map (·.addedQuantity)).sum = countedSum lines := by
  have blank : lines.countP (·.isBlank) = 0 := by
    rw [List.countP_eq_zero]
    intro line member
    simp [filled line member]
  rw [added_sum, blank, Nat.cast_zero, add_zero]

theorem filled_of_sum (same : (lines.map (·.addedQuantity)).sum = countedSum lines) :
    ∀ line ∈ lines, line.isBlank = false := by
  rw [added_sum, add_eq_left, Nat.cast_eq_zero, List.countP_eq_zero] at same
  intro line member
  simpa using same line member

theorem countedSum_split (p : CachedCountLine → Bool) :
    countedSum (lines.filter p) + countedSum (lines.filter fun line => !p line) = countedSum lines := by
  have parts := ((List.filter_append_perm p lines).map fun line => line.countedQty.getD 0).sum_eq
  rwa [List.map_append, List.sum_append] at parts

theorem filter_named (rack : String) (known : rack ≠ "Unknown") :
    lines.filter (fun line => line.namedRack = some rack) = lines.filter fun line => line.rackKey = rack := by
  apply List.filter_congr
  intro line _
  rw [decide_eq_decide]
  constructor
  · exact rackKey_of_named
  · intro key
    rw [namedRack_of_key (by rwa [key]), key]

theorem filter_unnamed (named : ∀ line ∈ lines, ∀ rack, line.namedRack = some rack → rack ≠ "Unknown") :
    lines.filter (fun line => line.rackKey = "Unknown") = lines.filter fun line => line.namedRack = none := by
  apply List.filter_congr
  intro line member
  rw [decide_eq_decide]
  constructor
  · intro key
    by_contra filled
    obtain ⟨rack, found⟩ := Option.ne_none_iff_exists'.mp filled
    exact named line member rack found ((rackKey_of_named found).symm.trans key)
  · intro unnamed
    rw [CachedCountLine.rackKey, unnamed, Option.getD_none]

theorem data_total_named (ordinary : ∀ line ∈ lines, line.rackKey ∉ inheritedNames)
    (named : ∀ line ∈ lines, ∀ rack, line.namedRack = some rack → rack ≠ "Unknown")
    (filled : ∀ line ∈ lines, line.namedRack ≠ none → line.isBlank = false) :
    countedSum (lines.filter fun line => line.namedRack = none) +
      ((rackAnswer id inOrder now lines).data.map (·.countedQuantity)).sum = countedSum lines := by
  rw [← filter_unnamed named, data_total inOrder now ordinary, added_filled, countedSum_split]
  intro line chosen
  obtain ⟨member, known⟩ := List.mem_filter.mp chosen
  exact filled line member (by rw [namedRack_of_key (by simpa using known)]; exact Option.some_ne_none _)

theorem rackAnswer_exact (plain : RacksPlain lines) : RacksExact lines (rackAnswer id inOrder now lines) := by
  have ordinary : ∀ line ∈ lines, line.rackKey ∉ inheritedNames := by
    intro line member
    by_cases unknown : line.rackKey = "Unknown"
    · rw [unknown]
      exact unknown_ordinary
    · exact (plain.names line member _ (namedRack_of_key unknown)).2
  have filled : ∀ line ∈ lines, line.namedRack ≠ none → line.isBlank = false := by
    intro line member named
    simpa [CachedCountLine.isBlank] using plain.counts line member named
  refine ⟨?_, ?_, ?_⟩
  · rintro rack ⟨line, member, named⟩
    have known := (plain.names line member rack named).1
    have key := rackKey_of_named named
    have reported := data_named inOrder now ordinary member (by rwa [key])
    rw [key, ← filter_named rack known, added_filled] at reported
    · exact reported
    · intro other chosen
      obtain ⟨stands, sameRack⟩ := List.mem_filter.mp chosen
      rw [decide_eq_true_eq] at sameRack
      exact filled other stands (by simp [sameRack])
  · intro progress reported
    obtain ⟨entry, kept, rfl⟩ := List.mem_map.mp ((data_perm id inOrder now ordinary).mem_iff.mp reported)
    obtain ⟨stands, known⟩ := List.mem_filter.mp kept
    rw [decide_eq_true_eq] at known
    have found : (rackStatsOf id now lines).get entry.1 ≠ none := by
      intro missing
      exact Entries.get_eq_none.mp missing entry stands rfl
    rw [get_rackStatsOf, Ne, Table.foldEvents_eq_none, List.filter_eq_nil_iff] at found
    push Not at found
    obtain ⟨line, member, key⟩ := found
    rw [decide_eq_true_eq] at key
    exact ⟨line, member, by rw [namedRack_of_key (by rwa [key]), key]; rfl⟩
  · have total := data_total_named inOrder now ordinary
      (fun line member rack named => (plain.names line member rack named).1) filled
    rwa [plain.rest, zero_add] at total

theorem plain_of_exact (exactly : RacksExact lines (rackAnswer id inOrder now lines)) : RacksPlain lines := by
  have ordinary : ∀ line ∈ lines, line.rackKey ∉ inheritedNames := by
    intro line member inherited
    have known : line.rackKey ≠ "Unknown" := fun key => unknown_ordinary (key ▸ inherited)
    have reported := exactly.racks line.rackKey ⟨line, member, namedRack_of_key known⟩
    rw [data_inherited id inOrder now member inherited] at reported
    cases reported
  have names : ∀ line ∈ lines, ∀ rack, line.namedRack = some rack → rack ≠ "Unknown" ∧ rack ∉ inheritedNames := by
    intro line member rack named
    have key := rackKey_of_named named
    refine ⟨fun unknown => ?_, key ▸ ordinary line member⟩
    have reported := exactly.racks rack ⟨line, member, named⟩
    rw [data_rack inOrder now ordinary, if_pos unknown] at reported
    cases reported
  have filled : ∀ line ∈ lines, line.namedRack ≠ none → line.isBlank = false := by
    intro line member named
    obtain ⟨rack, found⟩ := Option.ne_none_iff_exists'.mp named
    have known := (names line member rack found).1
    have key := rackKey_of_named found
    have reported := exactly.racks rack ⟨line, member, found⟩
    have added := data_named inOrder now ordinary member (by rwa [key])
    rw [key, reported, filter_named rack known, List.singleton_inj] at added
    exact filled_of_sum added.symm line (List.mem_filter.mpr ⟨member, by simpa using key⟩)
  refine ⟨names, fun line member named => by simpa [CachedCountLine.isBlank] using filled line member named, ?_⟩
  have total := data_total_named inOrder now ordinary
    (fun line member rack named => (names line member rack named).1) filled
  rwa [exactly.total, add_eq_right] at total

end

theorem blank_answer (inOrder : String → String → Bool) (now : String) :
    (rackAnswer round inOrder now [{}]).data = [] := by
  have ordinary : ∀ line ∈ [({} : CachedCountLine)], line.rackKey ∉ inheritedNames := by
    intro line member
    rw [List.mem_singleton.mp member]
    exact unknown_ordinary
  have reported := data_perm round inOrder now ordinary
  have unknown : ((rackStatsOf round now [{}]).entries.filter fun entry => entry.1 ≠ "Unknown") = [] := rfl
  rw [unknown] at reported
  exact List.perm_nil.mp reported

/-- The progress of racks is exact for a session exactly if the lines cached for it have plain racks
and counts. No sum of their quantities is rounded. -/
theorem rack_progress_iff {round : ℚ → ℚ} (inOrder : String → String → Bool) (now : String)
    (db : SessionDb) (cache : PlainObject (List CachedCountLine)) (sessionId : String)
    (exact : SumsExactly round ((cachedLines db cache sessionId).map (·.addedQuantity))) :
    RacksExact (cachedLines db cache sessionId) (getRackProgress round inOrder now db cache sessionId) ↔
      RacksPlain (cachedLines db cache sessionId) := by
  have local_ : ∃ id, resolveProjectionSessionIds db sessionId = [id] := by
    unfold resolveProjectionSessionIds
    split <;> exact ⟨_, rfl⟩
  obtain ⟨localId, resolved⟩ := local_
  rw [cachedLines, resolved, List.flatMap_singleton] at exact
  rw [cachedLines, getRackProgress, getCountLinesBySessionFromCache, resolved,
    List.flatMap_singleton, List.flatMap_singleton, PlainObject.read]
  cases held : cache.get localId with
  | some lines =>
    rw [held, Option.getD_some] at exact
    rw [Option.getD_some, racksExact_data (data_exact round inOrder now exact)]
    exact ⟨plain_of_exact inOrder now, rackAnswer_exact inOrder now⟩
  | none =>
    have plain : RacksPlain [] := ⟨by simp, by simp, rfl⟩
    have nothing : RacksExact [] { data := [] } := ⟨by simp, by simp, rfl⟩
    refine iff_of_true ?_ plain
    by_cases inherited : localId ∈ inheritedNames
    · simp only [if_pos inherited]
      exact (racksExact_data (blank_answer round inOrder now)).mpr nothing
    · simp only [if_neg inherited]
      exact nothing

/-- Three lines on two racks, with quantities that a double holds. -/
def fractionCache : PlainObject (List CachedCountLine) :=
  PlainObject.empty.put "s1"
    [{ itemCode := "51001", countedQty := some (5 / 2), rackNo := "A1" },
      { itemCode := "51002", countedQty := some (1 / 4), rackNo := "B2" },
      { itemCode := "51003", countedQty := some 7, rackNo := "A1" }]

theorem rack_progress_fractions : RacksExact (cachedLines {} fractionCache "s1")
    (getRackProgress nearestDouble (fun a b => a ≤ b) "2026-01-10T10:00:00Z" {} fractionCache "s1") := by
  have quarters : SumsExactly nearestDouble ((cachedLines {} fractionCache "s1").map (·.addedQuantity)) :=
    sumsExactly_nearestDouble 2 [10, 1, 28] (by decide +kernel) (by decide)
  refine (rack_progress_iff _ _ _ _ _ quarters).mpr ⟨?_, ?_, ?_⟩
  all_goals decide +kernel

def zeroCache : PlainObject (List CachedCountLine) :=
  PlainObject.empty.put "s1" [{ itemCode := "51001", countedQty := some 0, rackNo := "A1" }]

/-- Nothing was counted on the rack, and one piece is reported. -/
theorem zero_counts_one : ¬ RacksExact (cachedLines {} zeroCache "s1")
    (getRackProgress nearestDouble (fun a b => a ≤ b) "2026-01-10T10:00:00Z" {} zeroCache "s1") := by
  intro exactly
  have reported := exactly.racks "A1" (by decide +kernel)
  exact absurd reported (by decide +kernel)

end StockVerification
