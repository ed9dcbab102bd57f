import StockVerification.Fingerprints
import StockVerification.PlaceInvariant

/-!
# Telling counts apart

Source: backend/services/count_lines/validation.py:67-88,
backend/services/canonical_inventory.py:170-204 and
backend/api/count_lines_routes.py:538-670.

A count of an item may be refused for another one by three checks. The lookup compares the floor and
the rack, the fingerprint also the location, the barcode and the quantity, and the locks the ids of
the place and the product. Each reads the request in its own way.
-/
namespace StockVerification

open Foundation Foundation.Action

/-- A creation that replaces no line, and the line that a governed insert stored for it. -/
structure StoredCount where
  request : Creation
  session : Doc
  admission : Admission
  document : Doc
  built : buildCountLineDocument request.env request.user request.line admission none = .ok document
  before : Store
  line : Doc
  inserted : InsertedLine request.env (persistContext request.user.username session) before document line

/-- `acquire_lock` on its own. -/
def acquireLock (owner : String) (locks : List Lock) (key : String) : Option (List Lock) :=
  match insertLock key owner locks with
  | some taken => some taken
  | none => if (inspectLock key owner locks).1 then some (inspectLock key owner locks).2 else none

namespace StoredCount

/-- The locks that a creation asks for. -/
def lockKeys (setup : LockSetup) (c : StoredCount) : List String :=
  if setup.lockService then
    (if setup.variantService then c.request.line.variantKey c.admission.erpItem else none).toList ++
      [c.request.line.lockKey]
  else []

def heldLocks (setup : LockSetup) (c : StoredCount) : List Lock :=
  (c.lockKeys setup).map fun key => { key := key, owner := c.request.user.username }

/-- The place by which the lookup searches. -/
def lookedUp (c : StoredCount) : Place :=
  (.str c.request.line.sessionId, .str c.request.line.itemCode,
    normalizeLocationValue (optionalText c.request.line.floorNo),
    normalizeLocationValue (optionalText c.request.line.rackNo))

/-- What the fingerprint covers of a creation. -/
def fingerprint (c : StoredCount) : SemanticPayload where
  sessionId := c.request.line.sessionId
  itemId := c.request.line.itemCode
  locationId := (optionalText c.request.line.locationId).textOrEmpty
  floorNo := ((optionalText c.request.line.floorNo).orElse (optionalText c.request.line.floorId)).textOrEmpty
  rackNo := ((optionalText c.request.line.rackNo).orElse (optionalText c.request.line.rackId)).textOrEmpty
  barcode := ((optionalText c.request.line.barcode).orElse (c.admission.erpItem.get "barcode")).textOrEmpty
  countedQty := c.request.line.countedQty
  version := 1

/-- The second creation is not refused for the line of the first or for its locks. -/
structure PassesBeside (setup : LockSetup) (first second : StoredCount) : Prop where
  lookup : resolveRecountTarget second.request.line { countLines := [first.line] } = .ok none
  hash : ∀ hash, insertHash second.request.env second.document = .ok hash →
    [first.line].any (Filter.eq "semantic_hash" hash).holds = false
  locks : ((second.lockKeys setup).foldlM (acquireLock second.request.user.username)
    (first.heldLocks setup)).isSome = true

theorem optionalText_plain (text : Option String) (items : List Atom) : optionalText text ≠ .list items := by
  cases text with
  | none => simp [optionalText]
  | some t => simp [optionalText]

theorem orElse_plain {a b : Value} (first : ∀ items, a ≠ .list items)
    (second : ∀ items, b ≠ .list items) (items : List Atom) : a.orElse b ≠ .list items := by
  unfold Value.orElse
  split
  · exact first items
  · exact second items

variable (c : StoredCount)

theorem placeOf_line : placeOf c.line = c.request.place := by
  have fields := buildCountLineDocument_ok c.built
  have same : ∀ field ∈ ["session_id", "item_code", "floor_no", "rack_no"], c.line.get field = c.document.get field := by
    intro field member
    apply Doc.get_congr
    apply c.inserted.other field
    · revert field
      decide
    · revert field
      decide
  rw [placeOf, same "session_id" (by simp), same "item_code" (by simp), same "floor_no" (by simp),
    same "rack_no" (by simp), Doc.get_of_some fields.session, Doc.get_of_some fields.item,
    Doc.get_of_some fields.floor, Doc.get_of_some fields.rack]
  rfl

theorem line_status : c.line.get "status" = .str "pending" ∨ c.line.get "status" = .str "approved" := by
  have counted : c.document.has "counted_qty" = true := by
    rw [Doc.has, (buildCountLineDocument_ok c.built).counted]
    rfl
  obtain ⟨_, e, _, decided⟩ := c.inserted.decided counted rfl
  rw [Doc.get_of_some decided.status, GovernanceDecision.status]
  split
  · exact Or.inl rfl
  · exact Or.inr rfl

theorem line_active : isSupersededCountLine c.line = false := by
  have mark : c.line.get "superseded_by_version_id" = .null := by
    rw [Doc.get, c.inserted.other _ (by decide) (by decide), built_other c.built _ (by decide)]
    rfl
  have time : c.line.get "superseded_at" = .null := by
    rw [Doc.get, c.inserted.other _ (by decide) (by decide), built_other c.built _ (by decide)]
    rfl
  rw [isSupersededCountLine, mark, time]
  rcases c.line_status with pending | approved
  · rw [pending]
    decide
  · rw [approved]
    decide

theorem duplicateFilter_line (first second : StoredCount) :
    (buildCountLineDuplicateFilter second.request.line.payload).holds first.line = true ↔
      first.request.place = second.lookedUp := by
  have place := first.placeOf_line
  rw [duplicateFilter_iff, place]
  · rfl
  · simp only [placeOf, Creation.place, Prod.mk.injEq] at place
    obtain ⟨session, code, floor, rack⟩ := place
    simp [session, code, floor, rack, orElse_plain, optionalText_plain]

/-- The lookup finds the line exactly where it searches for the place that is stored. -/
theorem lookup_passes_iff (first second : StoredCount) :
    resolveRecountTarget second.request.line { countLines := [first.line] } = .ok none ↔
      first.request.place ≠ second.lookedUp := by
  have found : findDuplicateCountLine [first.line] second.request.line.payload =
      if first.request.place = second.lookedUp then some first.line else none := by
    rw [findDuplicateCountLine, List.find?_singleton, first.line_active, Bool.not_false, Bool.and_true]
    by_cases same : first.request.place = second.lookedUp
    · rw [if_pos same, if_pos ((duplicateFilter_line first second).mpr same)]
    · rw [if_neg same, if_neg fun holds => same ((duplicateFilter_line first second).mp holds)]
  have fresh : canReuseRejectedCountLine first.line second.request.line.payload = false := by
    have status : (normalizeCountLineStatus (first.line.get "status") == "rejected") = false := by
      rcases first.line_status with pending | approved
      · rw [pending]
        decide
      · rw [approved]
        decide
    rw [canReuseRejectedCountLine, status]
    split
    · rfl
    · split
      · rfl
      · rfl
  rw [resolveRecountTarget]
  dsimp only
  rw [found]
  by_cases same : first.request.place = second.lookedUp
  · rw [if_pos same]
    simp [fresh, same]
  · rw [if_neg same]
    simp [same]

theorem fingerprint_document : semanticPayload c.document = .ok c.fingerprint := by
  have fields := buildCountLineDocument_ok c.built
  have built := c.built
  simp only [buildCountLineDocument, bind_success, pure_success] at built
  obtain ⟨version, versionEq, iteration, _, same⟩ := built
  have first : version = 1 := by
    have default_ : intOrError ((none : Option Doc).getD Doc.empty |>.get "version") 1 = .ok 1 := rfl
    rw [default_] at versionEq
    exact (Except.ok.inj versionEq).symm
  subst first
  have location : c.document.get "location_id" = optionalText c.request.line.locationId := by rw [← same]; rfl
  have floorId : c.document.get "floor_id" = optionalText c.request.line.floorId := by rw [← same]; rfl
  have rackId : c.document.get "rack_id" = optionalText c.request.line.rackId := by rw [← same]; rfl
  have number : c.document.get "version" = .num 1 := by rw [← same]; rfl
  have twice : ∀ a b : Value, ((a.orElse b).orElse b) = a.orElse b := by
    intro a b
    unfold Value.orElse
    by_cases filled : a.truthy = true
    · rw [if_pos filled, if_pos filled]
    · rw [if_neg filled]
      split
      · rfl
      · rfl
  have item : ((Value.str c.request.line.itemCode).orElse (c.document.get "item_id")).textOrEmpty =
      c.request.line.itemCode := by
    by_cases blank : c.request.line.itemCode = ""
    · have absent : c.document.get "item_id" = .null := by
        rw [Doc.get, built_other c.built _ (by decide)]
        rfl
      rw [absent, blank]
      rfl
    · have filled : (Value.str c.request.line.itemCode).truthy = true := by simp [blank]
      rw [Value.orElse, if_pos filled, Value.textOrEmpty_str]
  have whole : intOrError (.num 1) 1 = .ok 1 := by decide +kernel
  rw [semanticPayload, number, whole, location, floorId, rackId, Doc.get_of_some fields.session,
    Doc.get_of_some fields.item, item, Doc.get_of_some fields.floor, Doc.get_of_some fields.rack, twice, twice,
    Doc.get_of_some fields.counted, (built_unhashed c.built).2, Value.textOrEmpty_str]
  rfl

theorem insertHash_document :
    insertHash c.request.env c.document = .ok (.str (c.request.env.digest c.fingerprint)) := by
  rw [insertHash, (built_unhashed c.built).1, buildSemanticHash, c.fingerprint_document]
  rfl

theorem hash_passes_iff {digest : SemanticPayload → String}
    (collisionFree : Function.Injective digest) {first second : StoredCount}
    (ofFirst : first.request.env.digest = digest) (ofSecond : second.request.env.digest = digest) :
    (∀ hash, insertHash second.request.env second.document = .ok hash →
      [first.line].any (Filter.eq "semantic_hash" hash).holds = false) ↔ first.fingerprint ≠ second.fingerprint := by
  obtain ⟨stored, computed, _, isStored⟩ := first.inserted.hashed
  rw [first.insertHash_document, ofFirst] at computed
  cases computed
  have holds : (Filter.eq "semantic_hash" (.str (digest second.fingerprint))).holds first.line =
      (digest first.fingerprint == digest second.fingerprint) := Filter.fieldIs_str isStored
  rw [second.insertHash_document, ofSecond]
  simp only [Except.ok.injEq, forall_eq', List.any_cons, List.any_nil, Bool.or_false]
  rw [holds, beq_eq_false_iff_ne]
  exact not_congr ⟨fun same => collisionFree same, fun same => congrArg digest same⟩

/-- A lock is taken unless another user holds its key. -/
theorem acquireLock_eq {owner : String} {locks : List Lock}
    (valid : ∀ lock ∈ locks, lock.expired = false) (key : String) : acquireLock owner locks key =
      match locks.find? (·.key == key) with
      | none => some (locks ++ [{ key := key, owner := owner }])
      | some lock => if lock.owner = owner then some locks else none := by
  unfold acquireLock insertLock inspectLock
  cases found : locks.find? (·.key == key) with
  | none =>
    have free : locks.any (·.key == key) = false := by
      rw [List.any_eq_false]
      exact List.find?_eq_none.mp found
    rw [free, if_neg (by simp)]
  | some lock =>
    have taken : locks.any (·.key == key) = true := by
      rw [List.any_eq_true]
      exact ⟨lock, List.mem_of_find?_eq_some found, List.find?_some (p := fun lock : Lock => lock.key == key) found⟩
    have current := valid lock (List.mem_of_find?_eq_some found)
    rw [taken, if_pos rfl]
    simp [current]

theorem acquireLocks_iff {owner : String} {keys : List String} {locks : List Lock}
    (valid : ∀ lock ∈ locks, lock.expired = false) :
    (keys.foldlM (acquireLock owner) locks).isSome = true ↔
      ∀ key ∈ keys, ∀ lock, locks.find? (·.key == key) = some lock → lock.owner = owner := by
  induction keys generalizing locks with
  | nil => simp
  | cons key rest ih =>
    rw [List.foldlM_cons, acquireLock_eq valid]
    cases found : locks.find? (·.key == key) with
    | none =>
      have grown : ∀ lock ∈ locks ++ [{ key := key, owner := owner : Lock }], lock.expired = false := by
        intro lock member
        rcases List.mem_append.mp member with old | new
        · exact valid lock old
        · rw [List.mem_singleton.mp new]
      change (rest.foldlM (acquireLock owner) _).isSome = true ↔ _
      rw [ih grown]
      constructor
      · intro others later member lock held
        rcases List.mem_cons.mp member with isFirst | isRest
        · rw [isFirst, found] at held
          cases held
        · apply others later isRest lock
          rw [List.find?_append, held]
          rfl
      · intro others later member lock held
        rw [List.find?_append] at held
        cases old : locks.find? (·.key == later) with
        | some other =>
          rw [old] at held
          cases held
          exact others later (by simp [member]) lock old
        | none =>
          rw [old, Option.none_or, List.find?_singleton] at held
          split at held
          · cases held
            rfl
          · cases held
    | some lock =>
      dsimp only
      by_cases own : lock.owner = owner
      · rw [if_pos own]
        change (rest.foldlM (acquireLock owner) locks).isSome = true ↔ _
        rw [ih valid]
        constructor
        · intro others later member other held
          rcases List.mem_cons.mp member with isFirst | isRest
          · rw [isFirst, found] at held
            cases held
            exact own
          · exact others later isRest other held
        · exact fun others later member => others later (by simp [member])
      · rw [if_neg own]
        constructor
        · nofun
        · intro others
          exact absurd (others key (by simp) lock found) own

/-- Locks stand between the counts of two users that have a key in common. -/
theorem locks_pass_iff (setup : LockSetup) (first second : StoredCount) :
    ((second.lockKeys setup).foldlM (acquireLock second.request.user.username) (first.heldLocks setup)).isSome =
        true ↔
      first.request.user.username = second.request.user.username ∨
        ∀ key ∈ first.lockKeys setup, key ∉ second.lockKeys setup := by
  have valid : ∀ lock ∈ first.heldLocks setup, lock.expired = false := by
    intro lock member
    obtain ⟨key, _, rfl⟩ := List.mem_map.mp member
    rfl
  rw [acquireLocks_iff valid]
  constructor
  · intro granted
    by_cases same : first.request.user.username = second.request.user.username
    · exact Or.inl same
    · right
      intro key isFirst isSecond
      cases found : (first.heldLocks setup).find? (·.key == key) with
      | none =>
        have absent := List.find?_eq_none.mp found _ (List.mem_map_of_mem isFirst)
        simp at absent
      | some lock =>
        obtain ⟨_, _, rfl⟩ := List.mem_map.mp (List.mem_of_find?_eq_some found)
        exact same (granted key isSecond _ found)
  · rintro apart key isSecond lock found
    obtain ⟨other, isFirst, rfl⟩ := List.mem_map.mp (List.mem_of_find?_eq_some found)
    rcases apart with same | different
    · exact same
    · have isKey : other = key := by simpa using List.find?_some (p := fun lock : Lock => lock.key == key) found
      rw [isKey] at isFirst
      exact absurd isSecond (different key isFirst)

end StoredCount

/-- Two counts pass beside each other exactly when the lookup of neither searches for the place that
the other is stored at, their fingerprints cover something that differs, and they have one user or
no lock in common. -/
theorem counts_told_apart_iff {digest : SemanticPayload → String}
    (collisionFree : Function.Injective digest) (setup : LockSetup) {a b : StoredCount}
    (ofA : a.request.env.digest = digest) (ofB : b.request.env.digest = digest) :
    a.PassesBeside setup b ∧ b.PassesBeside setup a ↔
      a.request.place ≠ b.lookedUp ∧ b.request.place ≠ a.lookedUp ∧ a.fingerprint ≠ b.fingerprint ∧
        (a.request.user.username = b.request.user.username ∨ ∀ key ∈ a.lockKeys setup, key ∉ b.lockKeys setup) := by
  constructor
  · rintro ⟨second, first⟩
    exact ⟨(StoredCount.lookup_passes_iff a b).mp second.lookup, (StoredCount.lookup_passes_iff b a).mp first.lookup,
      (StoredCount.hash_passes_iff collisionFree ofA ofB).mp second.hash,
      (StoredCount.locks_pass_iff setup a b).mp second.locks⟩
  · rintro ⟨placeA, placeB, fingerprints, locks⟩
    constructor
    · exact ⟨(StoredCount.lookup_passes_iff a b).mpr placeA,
        (StoredCount.hash_passes_iff collisionFree ofA ofB).mpr fingerprints,
        (StoredCount.locks_pass_iff setup a b).mpr locks⟩
    · refine ⟨(StoredCount.lookup_passes_iff b a).mpr placeB,
        (StoredCount.hash_passes_iff collisionFree ofB ofA).mpr (Ne.symm fingerprints),
        (StoredCount.locks_pass_iff setup b a).mpr ?_⟩
      rcases locks with same | different
      · exact Or.inl same.symm
      · right
        intro key isB isA
        exact different key isA isB

/-- A creation on its own up to the insertion of its line. -/
def storeAlone (r : Creation) (s : Store) : Except Error (WriteResult × Store) := do
  let session ← getMutableSession r.line.sessionId s
  let admission ← assessCountLine r.line session s
  let document ← buildCountLineDocument r.env r.user r.line admission none
  let p ← prepareWrite r.env (persistContext r.user.username session) (.insertOne document) s
  executeCountLineOperation r.env p.op s

theorem exists_storedCount {r : Creation} {s : Store} (alone : (storeAlone r s).toBool = true) :
    ∃ c : StoredCount, c.request = r := by
  cases stored : storeAlone r s with
  | error e =>
    rw [stored] at alone
    cases alone
  | ok answer =>
    obtain ⟨result, t⟩ := answer
    simp only [storeAlone, bind_success] at stored
    obtain ⟨session, _, admission, _, document, built, p, prepared, executed⟩ := stored
    obtain ⟨line, inserted, _⟩ := insertOne_effect (buildCountLineDocument_ok built).noId prepared executed
    exact ⟨{ request := r, session := session, admission := admission, document := document, built := built
             before := s, line := line, inserted := inserted }, rfl⟩

def countOf (username : String) (body : CountLineCreate) : Creation where
  env := hashingEnv
  user := { username := username, role := "staff" }
  body := body

/-- One user counts an item on two racks. -/
theorem counts_told_apart_racks : ∃ a b : StoredCount,
    a.request = countOf "asha" exactCount ∧ b.request = countOf "asha" { exactCount with rackNo := some "R2" } ∧
      a.PassesBeside {} b ∧ b.PassesBeside {} a := by
  obtain ⟨a, isA⟩ := exists_storedCount (r := countOf "asha" exactCount) (s := countingStore) (by decide +kernel)
  obtain ⟨b, isB⟩ := exists_storedCount (r := countOf "asha" { exactCount with rackNo := some "R2" })
    (s := countingStore) (by decide +kernel)
  refine ⟨a, b, isA, isB, (counts_told_apart_iff payloadText_injective {} (by rw [isA]; rfl) (by rw [isB]; rfl)).mpr ?_⟩
  refine ⟨?_, ?_, ?_, Or.inl (by rw [isA, isB]; rfl)⟩
  · rw [StoredCount.lookedUp, isA, isB]
    decide +kernel
  · rw [StoredCount.lookedUp, isA, isB]
    decide +kernel
  · intro same
    have racks : ((optionalText a.request.line.rackNo).orElse (optionalText a.request.line.rackId)).textOrEmpty =
        ((optionalText b.request.line.rackNo).orElse (optionalText b.request.line.rackId)).textOrEmpty :=
      congrArg SemanticPayload.rackNo same
    rw [isA, isB] at racks
    exact absurd racks (by decide +kernel)

/-- Counts that differ in the barcode, or in the location, but not in the numbers of floor and
rack. -/
theorem batches_and_locations_collapse :
    (¬ ∀ (digest : SemanticPayload → String) (setup : LockSetup) (a b : StoredCount), Function.Injective digest →
      a.request.env.digest = digest → b.request.env.digest = digest →
      a.request.line.sessionId = b.request.line.sessionId → a.request.line.itemCode = b.request.line.itemCode →
      a.request.line.barcode ≠ b.request.line.barcode → a.PassesBeside setup b ∧ b.PassesBeside setup a) ∧
    (¬ ∀ (digest : SemanticPayload → String) (setup : LockSetup) (a b : StoredCount), Function.Injective digest →
      a.request.env.digest = digest → b.request.env.digest = digest →
      a.request.line.sessionId = b.request.line.sessionId → a.request.line.itemCode = b.request.line.itemCode →
      a.request.line.locationId ≠ b.request.line.locationId → a.PassesBeside setup b ∧ b.PassesBeside setup a) := by
  obtain ⟨plain, isPlain⟩ := exists_storedCount (r := countOf "asha" exactCount)
    (s := countingStore) (by decide +kernel)
  constructor
  · obtain ⟨batch, isBatch⟩ := exists_storedCount (r := countOf "asha" { exactCount with barcode := some "890002" })
      (s := countingStore) (by decide +kernel)
    intro always
    have apart := (always payloadText {} plain batch payloadText_injective (by rw [isPlain]; rfl) (by rw [isBatch]; rfl)
      (by rw [isPlain, isBatch]; rfl) (by rw [isPlain, isBatch]; rfl) (by rw [isPlain, isBatch]; decide)).1
    apply (StoredCount.lookup_passes_iff plain batch).mp apart.lookup
    rw [StoredCount.lookedUp, isPlain, isBatch]
    decide +kernel
  · obtain ⟨moved, isMoved⟩ := exists_storedCount (r := countOf "asha" { exactCount with locationId := some "W2" })
      (s := countingStore) (by decide +kernel)
    intro always
    have apart := (always payloadText {} plain moved payloadText_injective (by rw [isPlain]; rfl) (by rw [isMoved]; rfl)
      (by rw [isPlain, isMoved]; rfl) (by rw [isPlain, isMoved]; rfl) (by rw [isPlain, isMoved]; decide +kernel)).1
    apply (StoredCount.lookup_passes_iff plain moved).mp apart.lookup
    rw [StoredCount.lookedUp, isPlain, isMoved]
    decide +kernel

end StockVerification
