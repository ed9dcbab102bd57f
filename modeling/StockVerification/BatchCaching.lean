import StockVerification.Foundation.KeyedLists
import StockVerification.Foundation.PlainObjects
import StockVerification.StorageFaults

/-!
# Caching many records at once

Source: frontend/src/services/offline/offlineStorage.ts:174-193, 509-647, 660-684 and 710-819.

Count lines and sessions are cached one at a time, or many of them with one read and one write. The
caches are plain objects. The storage is taken to work.
-/
namespace StockVerification

open Foundation

/-- The stored count lines: an array for each session, without repeated ids. -/
structure CountLinesCache where
  sessions : PlainObject (List RecordData)
  distinct : ∀ session lines, sessions.get session = some lines → (lines.map fun line => line.field "_id").Nodup

section

def isValidCountLine (line : RecordData) : Bool := assertValidCachedCountLine line = []

/-- `String(countLine.session_id)`. -/
def lineSession (line : RecordData) : String := (line.field "session_id").text

def cachedLineId (line : RecordData) : Value := line.field "_id"

def stampLine (now : String) (line : RecordData) : RecordData := ("cached_at", .str now) :: line

/-- `findIndex`, and the replacement or the push behind it. -/
def updateOrAdd (sessionLines : List RecordData) (line : RecordData) : List RecordData :=
  match sessionLines.findIdx? fun other => cachedLineId other = cachedLineId line with
  | some existingIndex => sessionLines.set existingIndex line
  | none => sessionLines ++ [line]

/-- `cacheCountLine`: the cache, or the error it throws. An inherited value has no `findIndex`. -/
def cacheCountLine (now : String) (countLine : RecordData) (existingCache : PlainObject (List RecordData)) :
    Except String (PlainObject (List RecordData)) :=
  if isValidCountLine countLine = false then .ok existingCache
  else match existingCache.read (lineSession countLine) with
    | .inherited => .error "TypeError"
    | .own sessionLines =>
      .ok (existingCache.put (lineSession countLine) (updateOrAdd sessionLines (stampLine now countLine)))
    | .missing => .ok (existingCache.put (lineSession countLine) (updateOrAdd [] (stampLine now countLine)))

/-- `map.set(key, value)`. -/
def mapSet (entries : List (Value × RecordData)) (key : Value) (value : RecordData) : List (Value × RecordData) :=
  Table.upsert (·.1) (key, value) entries

/-- `new Map(lines.map(line => [line._id, line]))`. -/
def mapOfLines (lines : List RecordData) : List (Value × RecordData) :=
  lines.foldl (fun map line => mapSet map (cachedLineId line) line) []

/-- A round of the loop of `cacheCountLines`. An inherited value has no `set`. -/
def batchLine (now : String) (existingCache : PlainObject (List RecordData))
    (sessionMap : PlainObject (List (Value × RecordData))) (countLine : RecordData) :
    Except String (PlainObject (List (Value × RecordData))) :=
  let cachedCountLine := stampLine now countLine
  if isValidCountLine countLine = false then .ok sessionMap
  else match sessionMap.read (lineSession countLine) with
    | .inherited => .error "TypeError"
    | .own map => .ok (sessionMap.put (lineSession countLine) (mapSet map (cachedLineId cachedCountLine) cachedCountLine))
    | .missing =>
      let map := mapOfLines ((existingCache.get (lineSession countLine)).getD [])
      .ok (sessionMap.put (lineSession countLine) (mapSet map (cachedLineId cachedCountLine) cachedCountLine))

/-- `cacheCountLines`. An error is logged, and nothing is written. -/
def cacheCountLines (now : String) (countLines : List RecordData)
    (existingCache : PlainObject (List RecordData)) : PlainObject (List RecordData) :=
  if countLines = [] then existingCache
  else match countLines.foldlM (batchLine now existingCache) PlainObject.empty with
    | .error _ => existingCache
    | .ok sessionMap => existingCache.assignAll (sessionMap.map fun map => map.map (·.2))

/-- `cacheCountLine` on each line, at its own time. A call that throws leaves the cache as it is. -/
def cacheEachCountLine (calls : List (RecordData × String))
    (cache : PlainObject (List RecordData)) : PlainObject (List RecordData) :=
  calls.foldl (fun cache call =>
    match cacheCountLine call.2 call.1 cache with
    | .ok updatedCache => updatedCache
    | .error _ => cache) cache

def unstamped (line : RecordData) : RecordData := line.filter fun entry => entry.1 ≠ "cached_at"

def unstampedCache (cache : PlainObject (List RecordData)) : PlainObject (List RecordData) :=
  cache.map fun lines => lines.map unstamped

end

/-- `a || b || ... || last`. -/
def firstTruthy (values : List Value) (last : Value) : Value := (values.find? isTruthy).getD last

/-- `session.id || session._id || session.server_session_id || session._server_session_id`. -/
def displayId (session : RecordData) : Value :=
  firstTruthy [session.field "id", session.field "_id", session.field "server_session_id"]
    (session.field "_server_session_id")

def localSessionIdOf (session : RecordData) : Value :=
  firstTruthy [session.field "_local_session_id", session.field "local_session_id",
    session.field "session_id"] (displayId session)

/-- The fields of a cached session, with its id and the times taken from the clock. -/
def normalizeSession (id : Value) (startedAt cachedAt : String) (session : RecordData) : RecordData :=
  [("id", id), ("warehouse", session.field "warehouse"), ("status", session.field "status"),
    ("type", firstTruthy [session.field "type"] (.str "STANDARD")),
    ("staff_user", firstTruthy [session.field "staff_user", session.field "created_by"] (.str "unknown")),
    ("staff_name", firstTruthy [session.field "staff_name"] (.str "Staff")),
    ("started_at", firstTruthy [session.field "started_at", session.field "created_at"] (.str startedAt)),
    ("closed_at", session.field "closed_at"), ("reconciled_at", session.field "reconciled_at"),
    ("finalized_at", session.field "finalized_at"), ("location_type", session.field "location_type"),
    ("location_name", session.field "location_name"), ("rack_no", session.field "rack_no"),
    ("last_heartbeat", session.field "last_heartbeat"), ("finalization_status", session.field "finalization_status"),
    ("total_items", session.field "total_items"), ("total_variance", session.field "total_variance"),
    ("verified_items", session.field "verified_items"), ("pending_items", session.field "pending_items"),
    ("damage_items", session.field "damage_items"), ("notes", session.field "notes"),
    ("session_id", localSessionIdOf session), ("_local_session_id", localSessionIdOf session),
    ("_server_session_id", firstTruthy [session.field "_server_session_id", session.field "server_session_id",
      session.field "id", session.field "_id"] .null),
    ("_projection", .bool (isTruthy (session.field "_projection"))), ("_sync_status", session.field "_sync_status"),
    ("cached_at", .str cachedAt)]

/-- `getSessionsCache`, with the healed cache. -/
def getSessionsCache (cache : PlainObject RecordData) : PlainObject RecordData := cache.delete "undefined"

/-- The clock as one call of `cacheSession` reads it: the time in a temporary id, and two times as
texts. -/
structure SessionClock where
  millis : String
  startedAt : String
  cachedAt : String

def cacheSession (clock : SessionClock) (session : RecordData) (cache : PlainObject RecordData) :
    PlainObject RecordData :=
  let id := firstTruthy [displayId session] (.str ("temp_" ++ clock.millis))
  let normalizedSession := normalizeSession id clock.startedAt clock.cachedAt session
  if id = .str "undefined" then cache
  else ((getSessionsCache cache).put id.text normalizedSession).delete "undefined"

/-- A round of the loop of `cacheSessions`. -/
def batchSession (now : String) (updatedCache : PlainObject RecordData) (session : RecordData) :
    PlainObject RecordData :=
  if isTruthy (displayId session) = false ∨ displayId session = .str "undefined" then updatedCache
  else updatedCache.assign (displayId session).text (normalizeSession (displayId session) now now session)

def cacheSessions (now : String) (sessions : List RecordData) (cache : PlainObject RecordData) :
    PlainObject RecordData :=
  if sessions = [] then cache
  else (sessions.foldl (batchSession now) (getSessionsCache cache)).delete "undefined"

/-- `cacheSession` on each session, with its own clock. -/
def cacheEachSession (calls : List (RecordData × SessionClock)) (cache : PlainObject RecordData) :
    PlainObject RecordData :=
  calls.foldl (fun cache call => cacheSession call.2 call.1 cache) cache

section

variable {now : String} {line : RecordData} {lines : List RecordData} {cache : PlainObject (List RecordData)}

theorem updateOrAdd_eq (sessionLines : List RecordData) (line : RecordData) :
    updateOrAdd sessionLines line = Table.upsert cachedLineId line sessionLines := by
  unfold updateOrAdd
  induction sessionLines with
  | nil => rfl
  | cons old rest ih =>
    rw [List.findIdx?_cons, Table.upsert]
    by_cases here : cachedLineId old = cachedLineId line
    · simp [here]
    · simp only [here, decide_false, Bool.false_eq_true, if_false] at ih ⊢
      rw [← ih]
      cases rest.findIdx? fun other => cachedLineId other = cachedLineId line <;> rfl

def keyed (line : RecordData) : Value × RecordData := (cachedLineId line, line)

theorem mapSet_keyed (lines : List RecordData) (line : RecordData) :
    mapSet (lines.map keyed) (cachedLineId line) line = (Table.upsert cachedLineId line lines).map keyed := by
  have named (line : RecordData) : (keyed line).1 = cachedLineId line := rfl
  exact (Table.upsert_map named line lines).symm

theorem mapOfLines_eq (distinct : (lines.map cachedLineId).Nodup) : mapOfLines lines = lines.map keyed := by
  have all : ((([] : List (Value × RecordData)) ++ lines.map keyed).map (·.1)).Nodup := by
    rw [List.nil_append, List.map_map]
    exact distinct
  have added := Table.upserts_fresh all
  rw [List.foldl_map, List.nil_append] at added
  exact added

theorem lookup_unstamped (name : String) (other : name ≠ "cached_at") (line : RecordData) :
    (unstamped line).field name = line.field name := by
  unfold RecordData.field
  congr 1
  induction line with
  | nil => rfl
  | cons entry rest ih =>
    obtain ⟨field, value⟩ := entry
    unfold unstamped at ih ⊢
    by_cases stamp : field = "cached_at"
    · rw [List.filter_cons_of_neg (by simpa using stamp), ih, List.lookup_cons, stamp, beq_false_of_ne other]
    · rw [List.filter_cons_of_pos (by simpa using stamp), List.lookup_cons, List.lookup_cons, ih]

theorem cachedLineId_unstamped (line : RecordData) : cachedLineId (unstamped line) = cachedLineId line :=
  lookup_unstamped "_id" (by decide) line

theorem unstamped_stamp : unstamped (stampLine now line) = unstamped line := rfl

/-- What one cached line changes, where an array may also be found in a second object. -/
def addStamped (now : String) (base cache : PlainObject (List RecordData)) (line : RecordData) :
    PlainObject (List RecordData) :=
  if isValidCountLine line = false then cache
  else cache.put (lineSession line) (Table.upsert cachedLineId (stampLine now line)
    (((cache.get (lineSession line)).or (base.get (lineSession line))).getD []))

theorem addStamped_putAll (base new : PlainObject (List RecordData)) (line : RecordData) :
    base.putAll (addStamped now base new line) = addStamped now PlainObject.empty (base.putAll new) line := by
  unfold addStamped
  split
  · rfl
  · rw [PlainObject.putAll_put, PlainObject.get_putAll, PlainObject.get_empty, Option.or_none]

/-- The maps of a batch hold the lines of the arrays that it writes, by induction on the lines. -/
theorem batchLines_eq (distinct : ∀ session held, cache.get session = some held → (held.map cachedLineId).Nodup)
    (ordinary : ∀ line ∈ lines, isValidCountLine line = true → lineSession line ∉ inheritedNames)
    (touched : PlainObject (List RecordData)) :
    lines.foldlM (batchLine now cache) (touched.map fun held => held.map keyed) =
      .ok ((lines.foldl (addStamped now cache) touched).map fun held => held.map keyed) := by
  induction lines generalizing touched with
  | nil => rfl
  | cons line rest ih =>
    have onward := ih (fun later member => ordinary later (List.mem_cons_of_mem _ member))
      (addStamped now cache touched line)
    have step : batchLine now cache (touched.map fun held => held.map keyed) line =
        .ok ((addStamped now cache touched line).map fun held => held.map keyed) := by
      unfold batchLine addStamped
      cases valid : isValidCountLine line with
      | false => rfl
      | true =>
        simp only [Bool.true_eq_false, if_false]
        rw [PlainObject.read_ordinary (ordinary line List.mem_cons_self valid), PlainObject.get_map,
          PlainObject.map_put]
        cases found : touched.get (lineSession line) with
        | some held =>
          simp only [Option.map_some, mapSet_keyed, Option.some_or, Option.getD_some]
        | none =>
          simp only [Option.map_none, Option.none_or]
          have opened : mapOfLines ((cache.get (lineSession line)).getD []) =
              ((cache.get (lineSession line)).getD []).map keyed := by
            apply mapOfLines_eq
            cases base : cache.get (lineSession line) with
            | none => exact List.nodup_nil
            | some held => exact distinct _ _ base
          rw [opened, mapSet_keyed]
    rw [List.foldlM_cons, step]
    exact onward

theorem addStamped_foldl (touched : PlainObject (List RecordData)) :
    cache.putAll (lines.foldl (addStamped now cache) touched) =
      lines.foldl (addStamped now PlainObject.empty) (cache.putAll touched) := by
  induction lines generalizing touched with
  | nil => rfl
  | cons line rest ih => rw [List.foldl_cons, ih, addStamped_putAll, List.foldl_cons]

/-- No array is written under an inherited name. -/
theorem addStamped_inherited (now : String) (cache : PlainObject (List RecordData))
    (ordinary : ∀ line ∈ lines, isValidCountLine line = true → lineSession line ∉ inheritedNames) (name : String)
    (inherited : name ∈ inheritedNames) {touched : PlainObject (List RecordData)} (missing : touched.get name = none) :
    (lines.foldl (addStamped now cache) touched).get name = none := by
  induction lines generalizing touched with
  | nil => exact missing
  | cons line rest ih =>
    refine ih (fun later member => ordinary later (List.mem_cons_of_mem _ member)) ?_
    unfold addStamped
    split
    · exact missing
    · next valid =>
      rw [Bool.not_eq_false] at valid
      rw [PlainObject.get_put, if_neg]
      · exact missing
      · intro same
        exact ordinary line List.mem_cons_self valid (same ▸ inherited)

/-- A batch without inherited names is one line after another. -/
theorem cacheCountLines_eq (distinct : ∀ session held, cache.get session = some held → (held.map cachedLineId).Nodup)
    (ordinary : ∀ line ∈ lines, isValidCountLine line = true → lineSession line ∉ inheritedNames) :
    cacheCountLines now lines cache = lines.foldl (addStamped now PlainObject.empty) cache := by
  unfold cacheCountLines
  by_cases empty : lines = []
  · rw [if_pos empty, empty]
    rfl
  · have maps : lines.foldlM (batchLine now cache) PlainObject.empty = _ :=
      batchLines_eq distinct ordinary PlainObject.empty
    have values (touched : PlainObject (List RecordData)) :
        (touched.map fun held => held.map keyed).map (fun map => map.map (·.2)) = touched := by
      apply PlainObject.ext
      simp [PlainObject.map, keyed, Function.comp_def]
    have proto := addStamped_inherited now cache ordinary "__proto__" (by decide) (PlainObject.get_empty _)
    rw [if_neg empty, maps]
    dsimp only
    rw [values, PlainObject.assignAll_ordinary proto, addStamped_foldl]
    rfl

/-- The array of a session after one more line, without the times. -/
def nextLines (line : RecordData) (held : Option (List RecordData)) : List RecordData :=
  Table.upsert cachedLineId (unstamped line) (held.getD [])

def writeLine (cache : PlainObject (List RecordData)) (line : RecordData) : PlainObject (List RecordData) :=
  cache.put (lineSession line) (nextLines line (cache.get (lineSession line)))

theorem unstamped_addStamped (valid : isValidCountLine line = true) :
    unstampedCache (addStamped now PlainObject.empty cache line) = writeLine (unstampedCache cache) line := by
  rw [addStamped, if_neg (by simp [valid]), unstampedCache, PlainObject.map_put,
    Table.upsert_map cachedLineId_unstamped, unstamped_stamp, PlainObject.get_empty, Option.or_none, writeLine,
    nextLines, unstampedCache, PlainObject.get_map]
  cases cache.get (lineSession line) <;> rfl

theorem unstamped_addStampeds (cache : PlainObject (List RecordData)) :
    unstampedCache (lines.foldl (addStamped now PlainObject.empty) cache) =
      (lines.filter isValidCountLine).foldl writeLine (unstampedCache cache) := by
  induction lines generalizing cache with
  | nil => rfl
  | cons line rest ih =>
    rw [List.foldl_cons, ih]
    cases valid : isValidCountLine line with
    | false => rw [List.filter_cons_of_neg (by simp [valid]), addStamped, if_pos valid]
    | true => rw [List.filter_cons_of_pos valid, unstamped_addStamped valid, List.foldl_cons]

/-- A single call caches the line: it is valid, and its session has an array or no inherited
name. -/
def isCacheable (cache : PlainObject (List RecordData)) (line : RecordData) : Bool :=
  isValidCountLine line && (decide (lineSession line ∉ inheritedNames) || (cache.get (lineSession line)).isSome)

theorem cacheCountLine_cacheable (cacheable : isCacheable cache line = true) :
    cacheCountLine now line cache = .ok (addStamped now PlainObject.empty cache line) := by
  simp only [isCacheable, Bool.and_eq_true, Bool.or_eq_true, decide_eq_true_eq] at cacheable
  obtain ⟨valid, own⟩ := cacheable
  have kept : ¬ isValidCountLine line = false := by simp [valid]
  rw [cacheCountLine, if_neg kept, addStamped, if_neg kept, PlainObject.get_empty, Option.or_none, PlainObject.read]
  cases held : cache.get (lineSession line) with
  | some array => simp only [updateOrAdd_eq, Option.getD_some]
  | none =>
    rw [held] at own
    simp only [if_neg (own.resolve_right (by simp)), updateOrAdd_eq, Option.getD_none]

theorem cacheCountLine_other (other : isCacheable cache line = false) :
    (match cacheCountLine now line cache with
    | .ok updatedCache => updatedCache
    | .error _ => cache) = cache := by
  cases valid : isValidCountLine line with
  | false => rw [cacheCountLine, if_pos valid]
  | true =>
    simp only [isCacheable, valid, Bool.true_and, Bool.or_eq_false_iff, decide_eq_false_iff_not,
      not_not, Option.isSome_eq_false_iff, Option.isNone_iff_eq_none] at other
    rw [cacheCountLine, if_neg (by simp [valid]), PlainObject.read, other.2]
    simp only [if_pos other.1]

/-- On a storage that works, `DeviceStorage.cacheCountLine` keeps the same lines of every
session. -/
theorem cacheCountLine_stored {s : DeviceStorage} (ordinary : lineSession line ∉ inheritedNames)
    (same : ∀ session, cache.get session = s.countLinesCache.lookup session) :
    ∃ after, cacheCountLine now line cache = .ok after ∧
      ∀ session, after.get session = (s.cacheCountLine line now {}).2.countLinesCache.lookup session := by
  by_cases valid : assertValidCachedCountLine line = []
  · refine ⟨cache.put (lineSession line) (updateOrAdd ((cache.get (lineSession line)).getD []) (stampLine now line)),
      ?_, fun session => ?_⟩
    · rw [cacheCountLine, if_neg (by simp [isValidCountLine, valid]), PlainObject.read]
      cases cache.get (lineSession line) with
      | none => simp only [if_neg ordinary, Option.getD_none]
      | some lines => rfl
    · have stored : (s.cacheCountLine line now {}).2.countLinesCache =
          (lineSession line, updateOrAdd ((s.countLinesCache.lookup (lineSession line)).getD []) (stampLine now line)) ::
            s.countLinesCache.filter (·.1 != lineSession line) := by
        rw [DeviceStorage.cacheCountLine, if_neg (not_not.mpr valid)]
        rfl
      rw [stored, PlainObject.get_put, List.lookup_cons, same]
      by_cases here : session = lineSession line
      · simp [here]
      · rw [if_neg (Ne.symm here), beq_eq_false_iff_ne.mpr here, lookup_filter_other here, same]
  · exact ⟨cache, by simp [cacheCountLine, isValidCountLine, valid], by simpa [DeviceStorage.cacheCountLine, valid]⟩

theorem isCacheable_addStamped (now : String) (cacheable : isCacheable cache line = true) (other : RecordData) :
    isCacheable (addStamped now PlainObject.empty cache line) other = isCacheable cache other := by
  unfold addStamped
  split
  · rfl
  · unfold isCacheable at cacheable ⊢
    rw [PlainObject.get_put]
    by_cases same : lineSession line = lineSession other
    · rw [if_pos same, Option.isSome_some, Bool.or_true]
      rw [Bool.and_eq_true, same] at cacheable
      rw [cacheable.2]
    · rw [if_neg same]

/-- The single calls write the lines that can be cached, by induction on the calls. -/
theorem unstamped_cacheEach (calls : List (RecordData × String)) (cache : PlainObject (List RecordData)) :
    unstampedCache (cacheEachCountLine calls cache) =
      ((calls.map (·.1)).filter (isCacheable cache)).foldl writeLine (unstampedCache cache) := by
  induction calls generalizing cache with
  | nil => rfl
  | cons call rest ih =>
    rw [cacheEachCountLine, List.foldl_cons, List.map_cons]
    cases cacheable : isCacheable cache call.1 with
    | false =>
      rw [cacheCountLine_other cacheable, List.filter_cons_of_neg (by simp [cacheable])]
      exact ih cache
    | true =>
      have onward := ih (addStamped call.2 PlainObject.empty cache call.1)
      have alike := funext (isCacheable_addStamped call.2 cacheable)
      have valid : isValidCountLine call.1 = true := (Bool.and_eq_true _ _ ▸ cacheable).1
      rw [alike, unstamped_addStamped valid] at onward
      rw [cacheCountLine_cacheable cacheable, List.filter_cons_of_pos cacheable]
      exact onward

theorem get_writeLines (lines : List RecordData) (cache : PlainObject (List RecordData))
    (session : String) : (lines.foldl writeLine cache).get session =
      Table.foldEvents nextLines (cache.get session) (lines.filter fun line => lineSession line = session) :=
  PlainObject.get_foldl_put lineSession nextLines lines cache session

theorem foldEvents_upsert (lines held : List RecordData) : Table.foldEvents nextLines (some held) lines =
      some ((lines.map unstamped).foldl (fun rows row => Table.upsert cachedLineId row rows) held) := by
  induction lines generalizing held with
  | nil => rfl
  | cons line rest ih => exact ih (nextLines line (some held))

theorem last_unstamped (lines : List RecordData) (id : Value) :
    ((lines.map unstamped).filter fun row => cachedLineId row = id).getLast? =
      ((lines.filter fun line => cachedLineId line = id).getLast?).map unstamped := by
  rw [List.filter_map, List.getLast?_map]
  simp only [Function.comp_def, cachedLineId_unstamped]

/-- The last of some lines for its session and id. -/
def IsLastLine (lines : List RecordData) (line : RecordData) : Prop :=
  (lines.filter fun other => lineSession other = lineSession line ∧ cachedLineId other = cachedLineId line).getLast? =
    some line

theorem writeLines_keys (known : ∀ line ∈ lines, cache.get (lineSession line) ≠ none) :
    (lines.foldl writeLine cache).entries.map (·.1) = cache.entries.map (·.1) := by
  induction lines generalizing cache with
  | nil => rfl
  | cons line rest ih =>
    have kept := Entries.keys_put (nextLines line (cache.get (lineSession line))) cache.ordered
      (known line List.mem_cons_self)
    rw [List.foldl_cons, ih]
    · exact kept
    · intro later member
      rw [writeLine, PlainObject.get_put]
      split
      · exact Option.some_ne_none _
      · exact known later (List.mem_cons_of_mem _ member)

theorem filter_session_id (lines : List RecordData) (session : String) (id : Value) :
    lines.filter (fun line => lineSession line = session ∧ cachedLineId line = id) =
      (lines.filter fun line => lineSession line = session).filter fun line => cachedLineId line = id := by
  rw [List.filter_filter]
  simp only [Bool.decide_and, Bool.and_comm]

theorem last_of_mem (member : line ∈ lines) : ∃ last, IsLastLine lines last ∧
    lineSession last = lineSession line ∧ cachedLineId last = cachedLineId line := by
  have filled : lines.filter (fun other => lineSession other = lineSession line ∧
      cachedLineId other = cachedLineId line) ≠ [] := List.ne_nil_of_mem (List.mem_filter.mpr ⟨member, by simp⟩)
  obtain ⟨_, named⟩ := List.mem_filter.mp (List.getLast_mem filled)
  rw [decide_eq_true_eq] at named
  refine ⟨_, ?_, named⟩
  rw [IsLastLine, named.1, named.2]
  exact List.getLast?_eq_some_getLast filled

/-- Where lines leave a cache as it is, the last one for each session and id is already there. -/
theorem last_there (distinct : ∀ session held, cache.get session = some held → (held.map cachedLineId).Nodup)
    (same : lines.foldl writeLine cache = cache) (last : IsLastLine lines line) :
    ∃ held, cache.get (lineSession line) = some held ∧ unstamped line ∈ held := by
  have read := get_writeLines lines cache (lineSession line)
  rw [same] at read
  rw [IsLastLine, filter_session_id] at last
  have member := (List.mem_filter.mp (List.mem_of_getLast? last)).1
  cases found : cache.get (lineSession line) with
  | none =>
    rw [found, eq_comm, Table.foldEvents_eq_none] at read
    rw [read] at member
    cases member
  | some held =>
    rw [found, foldEvents_upsert, Option.some.injEq] at read
    refine ⟨held, rfl, (Table.upserts_eq_iff (distinct _ _ found)).mp read.symm _ ?_⟩
    rw [cachedLineId_unstamped, last_unstamped, last]
    rfl

/-- Lines leave the array of a session as it is if the last one for each id is already there. -/
theorem array_stays {session : String} {held : List RecordData} (distinct : (held.map cachedLineId).Nodup)
    (found : cache.get session = some held) (filled : (lines.filter fun line => lineSession line = session) ≠ [])
    (there : ∀ line, lineSession line = session → IsLastLine lines line → unstamped line ∈ held) :
    (lines.foldl writeLine cache).get session = some held := by
  rw [get_writeLines]
  cases named : lines.filter fun line => lineSession line = session with
  | nil => exact absurd named filled
  | cons first rest =>
    rw [found, foldEvents_upsert, Option.some.injEq, Table.upserts_eq_iff distinct, ← named]
    intro row last
    rw [last_unstamped, Option.map_eq_some_iff] at last
    obtain ⟨line, isLast, rfl⟩ := last
    obtain ⟨stands, _⟩ := List.mem_filter.mp (List.mem_of_getLast? isLast)
    have lineOfSession := (List.mem_filter.mp stands).2
    rw [decide_eq_true_eq] at lineOfSession
    refine there line lineOfSession ?_
    rw [IsLastLine, filter_session_id, lineOfSession, ← isLast, cachedLineId_unstamped]

/-- Lines leave a cache as it is exactly if the last one for each session and id is already
there. -/
theorem writeLines_eq_iff (distinct : ∀ session held, cache.get session = some held → (held.map cachedLineId).Nodup) :
    lines.foldl writeLine cache = cache ↔
      ∀ line, IsLastLine lines line → ∃ held, cache.get (lineSession line) = some held ∧ unstamped line ∈ held := by
  constructor
  · exact fun same line last => last_there distinct same last
  · intro there
    have filled : ∀ line ∈ lines, cache.get (lineSession line) ≠ none := by
      intro line member
      obtain ⟨last, isLast, session, _⟩ := last_of_mem member
      obtain ⟨held, found, _⟩ := there last isLast
      rw [← session, found]
      exact Option.some_ne_none _
    refine PlainObject.eq_of_get (writeLines_keys filled) fun session => ?_
    by_cases named : (lines.filter fun line => lineSession line = session) = []
    · rw [get_writeLines, named]
      rfl
    · obtain ⟨first, chosen⟩ := List.exists_mem_of_ne_nil _ named
      obtain ⟨member, ofSession⟩ := List.mem_filter.mp chosen
      rw [decide_eq_true_eq] at ofSession
      obtain ⟨held, found⟩ := Option.ne_none_iff_exists'.mp (filled first member)
      rw [ofSession] at found
      rw [array_stays (distinct _ _ found) found named, found]
      intro line lineOfSession last
      obtain ⟨array, read, inside⟩ := there line last
      rw [lineOfSession, found, Option.some.injEq] at read
      exact read ▸ inside

end

structure IdentifiedSession where
  fields : RecordData
  id : String
  named : displayId fields = .str id
  filled : id ≠ ""
  valid : id ≠ "undefined"

/-- Two cached values differ in nothing but times taken from the clock. -/
def SameSession (cached other : RecordData) : Prop :=
  cached = other ∨ ∃ id session startedAt cachedAt startedAt' cachedAt',
    cached = normalizeSession id startedAt cachedAt session ∧ other = normalizeSession id startedAt' cachedAt' session

/-- Caches of sessions with the same keys in the same order, and the same values but for the
times. -/
def SessionsMatch (cache other : PlainObject RecordData) : Prop :=
  List.Forall₂ (fun entry entry' => entry.1 = entry'.1 ∧ SameSession entry.2 entry'.2) cache.entries other.entries

theorem SessionsMatch.refl (cache : PlainObject RecordData) : SessionsMatch cache cache :=
  List.forall₂_same.mpr fun _ _ => ⟨rfl, .inl rfl⟩

theorem batchSession_identified (now : String) (session : IdentifiedSession) (cache : PlainObject RecordData) :
    batchSession now cache session.fields =
      cache.assign session.id (normalizeSession (.str session.id) now now session.fields) := by
  have truthy : isTruthy (.str session.id) = true := by simpa [isTruthy] using session.filled
  have valid : ¬ Value.str session.id = .str "undefined" := fun same => session.valid (Value.str.inj same)
  rw [batchSession, session.named, if_neg (by simp [truthy, valid])]
  rfl

theorem cacheSession_identified (clock : SessionClock) (session : IdentifiedSession) {cache : PlainObject RecordData} :
    cacheSession clock session.fields cache = (getSessionsCache cache).put session.id
      (normalizeSession (.str session.id) clock.startedAt clock.cachedAt session.fields) := by
  have truthy : isTruthy (.str session.id) = true := by simpa [isTruthy] using session.filled
  have id : firstTruthy [displayId session.fields] (.str ("temp_" ++ clock.millis)) = .str session.id := by
    simp [firstTruthy, session.named, truthy]
  have valid : ¬ Value.str session.id = .str "undefined" := fun same => session.valid (Value.str.inj same)
  rw [cacheSession]
  simp only [id, if_neg valid]
  apply PlainObject.delete_missing
  rw [PlainObject.get_put]
  exact (if_neg session.valid).trans (PlainObject.get_delete cache "undefined")

theorem cacheEachSession_eq (calls : List (IdentifiedSession × SessionClock))
    {cache : PlainObject RecordData} (healed : cache.get "undefined" = none) :
    cacheEachSession (calls.map fun call => (call.1.fields, call.2)) cache =
      calls.foldl (fun cache call => cache.put call.1.id
        (normalizeSession (.str call.1.id) call.2.startedAt call.2.cachedAt call.1.fields)) cache := by
  induction calls generalizing cache with
  | nil => rfl
  | cons call rest ih =>
    rw [List.map_cons, cacheEachSession, List.foldl_cons, cacheSession_identified, getSessionsCache,
      PlainObject.delete_missing healed]
    refine ih ?_
    rw [PlainObject.get_put, if_neg call.1.valid, healed]

section

variable {now : String} {cache other : PlainObject RecordData}

theorem SessionsMatch.get_eq_none (same : SessionsMatch cache other) (key : String) :
    cache.get key = none ↔ other.get key = none := by
  have keys := Entries.keys_of_forall₂ same
  have named (object : PlainObject RecordData) : object.get key = none ↔ key ∉ object.entries.map (·.1) := by
    rw [PlainObject.get, Entries.get_eq_none, List.mem_map]
    grind
  rw [named, named, keys]

section

variable (calls : List (IdentifiedSession × SessionClock))
include calls

/-- A batch assigns the values under the same ids as the single calls, by induction on the calls. -/
theorem batchSessions_same (ordinary : (∀ call ∈ calls, call.1.id ≠ "__proto__") ∨ cache.get "__proto__" ≠ none)
    (same : SessionsMatch cache other) :
    SessionsMatch ((calls.map fun call => call.1.fields).foldl (batchSession now) cache)
      (calls.foldl (fun cache call => cache.put call.1.id
        (normalizeSession (.str call.1.id) call.2.startedAt call.2.cachedAt call.1.fields)) other) := by
  induction calls generalizing cache other with
  | nil => exact same
  | cons call rest ih =>
    have assigned := ordinary.imp_left fun apart => apart call List.mem_cons_self
    have own : call.1.id ≠ "__proto__" ∨ cache.get call.1.id ≠ none := by
      by_cases proto : call.1.id = "__proto__"
      · rw [proto]
        exact .inr (assigned.resolve_left (absurd proto))
      · exact .inl proto
    rw [List.map_cons, List.foldl_cons, List.foldl_cons, batchSession_identified, PlainObject.assign_ordinary own]
    refine ih ?_ (Entries.put_forall₂ (.inr ⟨_, _, _, _, _, _, rfl, rfl⟩) same)
    rcases ordinary with apart | held
    · exact .inl fun later member => apart later (List.mem_cons_of_mem _ member)
    · refine .inr ?_
      rw [PlainObject.get_put]
      split
      · exact Option.some_ne_none _
      · exact held

/-- An assignment makes no entry under another key, nor under the inherited name of the
prototype. -/
theorem batchSessions_missing {key : String} (missing : cache.get key = none)
    (apart : key = "__proto__" ∨ ∀ call ∈ calls, call.1.id ≠ key) :
    ((calls.map fun call => call.1.fields).foldl (batchSession now) cache).get key = none := by
  induction calls generalizing cache with
  | nil => exact missing
  | cons call rest ih =>
    refine ih ?_ (apart.imp_right fun all later member => all later (List.mem_cons_of_mem _ member))
    rw [batchSession_identified, PlainObject.assign]
    split
    · exact missing
    · next own =>
      rw [PlainObject.get_put, if_neg]
      · exact missing
      · intro here
        rcases apart with proto | all
        · exact own ⟨here.trans proto, here ▸ missing⟩
        · exact all call List.mem_cons_self here

theorem put_sessions_held {key : String} (named : (∃ call ∈ calls, call.1.id = key) ∨ cache.get key ≠ none) :
    (calls.foldl (fun cache call => cache.put call.1.id
      (normalizeSession (.str call.1.id) call.2.startedAt call.2.cachedAt call.1.fields)) cache).get key ≠ none := by
  induction calls generalizing cache with
  | nil => exact named.resolve_left (by simp)
  | cons call rest ih =>
    refine ih ?_
    rw [PlainObject.get_put]
    by_cases here : call.1.id = key
    · exact .inr (by simp [here])
    · rw [if_neg here]
      refine named.imp_left ?_
      rintro ⟨found, member, isKey⟩
      exact ⟨found, (List.mem_cons.mp member).resolve_left fun first => here (first ▸ isKey), isKey⟩

/-- Batch caching of sessions and single calls lead to the same sessions exactly if no session has
the inherited name of the prototype, or the cache has an entry of that name. -/
theorem sessions_same_iff : SessionsMatch (cacheSessions now (calls.map fun call => call.1.fields) cache)
      (cacheEachSession (calls.map fun call => (call.1.fields, call.2)) cache) ↔
      (∀ call ∈ calls, call.1.id ≠ "__proto__") ∨ cache.get "__proto__" ≠ none := by
  cases calls with
  | nil => exact iff_of_true (SessionsMatch.refl cache) (.inl (by simp))
  | cons first rest =>
    have healed : (cache.delete "undefined").get "undefined" = none := PlainObject.get_delete cache "undefined"
    have proto : (cache.delete "undefined").get "__proto__" = cache.get "__proto__" :=
      PlainObject.get_delete_other (by decide) cache
    have batch : cacheSessions now ((first :: rest).map fun call => call.1.fields) cache =
        ((first :: rest).map fun call => call.1.fields).foldl (batchSession now) (cache.delete "undefined") := by
      rw [cacheSessions, if_neg (by simp)]
      exact PlainObject.delete_missing (batchSessions_missing _ healed (.inr fun call _ => call.1.valid))
    have single : cacheEachSession ((first :: rest).map fun call => (call.1.fields, call.2)) cache =
        cacheEachSession ((first :: rest).map fun call => (call.1.fields, call.2)) (cache.delete "undefined") := by
      rw [List.map_cons, cacheEachSession, cacheEachSession, List.foldl_cons, List.foldl_cons, cacheSession_identified,
        cacheSession_identified, getSessionsCache, getSessionsCache, PlainObject.delete_missing healed]
    rw [batch, single, cacheEachSession_eq _ healed, ← proto]
    constructor
    · intro same
      by_contra lost
      rw [not_or, not_not] at lost
      obtain ⟨named, missing⟩ := lost
      push Not at named
      have gone := (same.get_eq_none "__proto__").mp (batchSessions_missing _ missing (.inl rfl))
      exact put_sessions_held _ (.inl named) gone
    · intro ordinary
      exact batchSessions_same _ ordinary (SessionsMatch.refl _)

end

end

/-- A batch leaves the lines that single calls leave, in the same order, up to the times. -/
def LinesAlike (now : String) (calls : List (RecordData × String)) (cache : CountLinesCache) : Prop :=
  unstampedCache (cacheCountLines now (calls.map (·.1)) cache.sessions) =
    unstampedCache (cacheEachCountLine calls cache.sessions)

/-- A batch leaves the sessions that single calls leave, in the same order, up to the times. -/
def SessionsAlike (now : String) (calls : List (IdentifiedSession × SessionClock))
    (cache : PlainObject RecordData) : Prop :=
  SessionsMatch (cacheSessions now (calls.map fun call => call.1.fields) cache)
    (cacheEachSession (calls.map fun call => (call.1.fields, call.2)) cache)

/-- No valid line has a session with an inherited name, or single calls would only cache what is
cached: the last line for each session and id, of those that a single call caches, is there
already. -/
def LinesBatchable (lines : List RecordData) (cache : PlainObject (List RecordData)) : Prop :=
  (∀ line ∈ lines, isValidCountLine line = true → lineSession line ∉ inheritedNames) ∨
    ∀ line, IsLastLine (lines.filter (isCacheable cache)) line →
      ∃ held, cache.get (lineSession line) = some held ∧ ∃ old ∈ held, unstamped old = unstamped line

section

variable {now : String} {lines : List RecordData} {cache : PlainObject (List RecordData)}

/-- A round for another session leaves the objects of the batch without inherited names. -/
theorem batchLine_goesOn {line : RecordData} {maps : PlainObject (List (Value × RecordData))}
    (ordinary : ¬ (isValidCountLine line = true ∧ lineSession line ∈ inheritedNames))
    (fresh : ∀ name ∈ inheritedNames, maps.get name = none) :
    ∃ after, batchLine now cache maps line = .ok after ∧ ∀ name ∈ inheritedNames, after.get name = none := by
  unfold batchLine
  cases kept : isValidCountLine line with
  | false => exact ⟨maps, rfl, fresh⟩
  | true =>
    have own : lineSession line ∉ inheritedNames := fun name => ordinary ⟨kept, name⟩
    have still (map : List (Value × RecordData)) : ∀ name ∈ inheritedNames,
        (maps.put (lineSession line) map).get name = none := by
      intro name listed
      rw [PlainObject.get_put, if_neg fun same : lineSession line = name => own (same ▸ listed)]
      exact fresh name listed
    rw [if_neg (by simp), PlainObject.read_ordinary own]
    cases maps.get (lineSession line) with
    | some map | none => exact ⟨_, rfl, still _⟩

section

variable {line : RecordData} (member : line ∈ lines) (valid : isValidCountLine line = true)
  (inherited : lineSession line ∈ inheritedNames)
include member valid inherited

/-- The rounds of a batch end with the first session that has an inherited name. -/
theorem batchLines_inherited {maps : PlainObject (List (Value × RecordData))}
    (fresh : ∀ name ∈ inheritedNames, maps.get name = none) :
    lines.foldlM (batchLine now cache) maps = .error "TypeError" := by
  induction lines generalizing maps with
  | nil => cases member
  | cons first rest ih =>
    rw [List.foldlM_cons]
    by_cases here : isValidCountLine first = true ∧ lineSession first ∈ inheritedNames
    · have stops : batchLine now cache maps first = .error "TypeError" := by
        unfold batchLine
        rw [if_neg (by simp [here.1]), PlainObject.read, fresh _ here.2]
        simp only [if_pos here.2]
      rw [stops]
      rfl
    · have later : line ∈ rest := by
        rcases List.mem_cons.mp member with rfl | later
        · exact absurd ⟨valid, inherited⟩ here
        · exact later
      obtain ⟨after, step, stillFresh⟩ := batchLine_goesOn here fresh
      rw [step]
      exact ih later stillFresh

theorem cacheCountLines_inherited : cacheCountLines now lines cache = cache := by
  unfold cacheCountLines
  split
  · rfl
  · rw [batchLines_inherited member valid inherited fun _ _ => rfl]

end

theorem lines_alike_iff (now : String) (calls : List (RecordData × String)) (cache : CountLinesCache) :
    LinesAlike now calls cache ↔ LinesBatchable (calls.map (·.1)) cache.sessions := by
  unfold LinesAlike LinesBatchable
  rw [unstamped_cacheEach]
  by_cases ordinary : ∀ line ∈ calls.map (·.1), isValidCountLine line = true → lineSession line ∉ inheritedNames
  · refine iff_of_true ?_ (.inl ordinary)
    rw [cacheCountLines_eq cache.distinct ordinary, unstamped_addStampeds]
    congr 1
    apply List.filter_congr
    intro line member
    cases valid : isValidCountLine line with
    | false => simp [isCacheable, valid]
    | true => simp [isCacheable, valid, ordinary line member valid]
  · have stopped := ordinary
    push Not at stopped
    obtain ⟨line, member, valid, inherited⟩ := stopped
    have distinct : ∀ session held, (unstampedCache cache.sessions).get session = some held →
        (held.map cachedLineId).Nodup := by
      intro session held found
      rw [unstampedCache, PlainObject.get_map, Option.map_eq_some_iff] at found
      obtain ⟨array, read, rfl⟩ := found
      rw [List.map_map]
      have sameIds : cachedLineId ∘ unstamped = cachedLineId := funext cachedLineId_unstamped
      rw [sameIds]
      exact cache.distinct session array read
    rw [cacheCountLines_inherited member valid inherited, eq_comm, writeLines_eq_iff distinct, or_iff_right ordinary]
    simp only [unstampedCache, PlainObject.get_map, Option.map_eq_some_iff, exists_exists_and_eq_and, List.mem_map]

end

/-- Batch caching is caching one by one: for count lines exactly if they can be cached as a batch,
for sessions with ids exactly if none has the inherited name of the prototype or the cache has an
entry of that name. -/
theorem batch_caching_iff (now : String) (lineCalls : List (RecordData × String)) (lines : CountLinesCache)
    (sessionCalls : List (IdentifiedSession × SessionClock)) (sessions : PlainObject RecordData) :
    (LinesAlike now lineCalls lines ↔ LinesBatchable (lineCalls.map (·.1)) lines.sessions) ∧
      (SessionsAlike now sessionCalls sessions ↔
        (∀ call ∈ sessionCalls, call.1.id ≠ "__proto__") ∨ sessions.get "__proto__" ≠ none) :=
  ⟨lines_alike_iff now lineCalls lines, sessions_same_iff sessionCalls⟩

def fourPieces (id session : String) : RecordData :=
  [("_id", .str id), ("session_id", .str session), ("item_code", .str "51001"), ("counted_qty", .num 4)]

/-- A batch with a line of a session named constructor loses the line of another session. -/
theorem constructor_loses_batch : ¬ LinesAlike "2026-01-10T10:00:00Z"
    [(fourPieces "l1" "s1", "2026-01-10T10:00:01Z"), (fourPieces "l2" "constructor", "2026-01-10T10:00:02Z")]
    ⟨PlainObject.empty, fun _ _ found => nomatch found⟩ := by
  intro alike
  have read := congrArg (fun cache => (cache.get "s1").isSome) alike
  exact absurd read (by decide +kernel)

end StockVerification
