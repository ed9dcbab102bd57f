import StockVerification.SqlVerification
import StockVerification.Store

/-!
# Verification of one item

Source: backend/services/sql_verification_service.py:38-61, 100-311 and 314-408.

A verification looks for its item by two fields, takes the stored stock for a number and writes
under the condition that the stored stock is this number. Events and the times of conflict records
are left out. `toFloat` is the conversion of a stored number: a double stays as it is, an integer
may be rounded.
-/
namespace StockVerification

open Foundation

structure VerifyError where
  errorCode : String
  message : String
  statusCode : Nat
  itemCode : String
  status : Option String := none
  deriving DecidableEq

structure VerificationConflict where
  originalItemId : Value
  itemCode : String
  attemptedSqlQty : ℚ
  mongoQtyAtRead : ℚ
  mongoQtyCurrent : Value
  deriving DecidableEq

structure ItemLedger where
  items : List Doc
  conflicts : List VerificationConflict := []

structure VerifySuccess where
  itemCode : String
  sqlQty : ℚ
  mongoQty : ℚ
  variance : ℚ
  verifiedAt : Int
  mismatch : Bool
  seq : Int
  latencyMs : ℚ
  deriving DecidableEq

structure LoadedItem where
  id : Value
  mongoQty : ℚ
  currentSeq : Int
  deriving DecidableEq

/-- `_validate_sql_qty_or_error`. -/
def validateSqlQty (itemCode : String) (sqlQty : ℚ) : Except VerifyError Unit :=
  if 0 ≤ sqlQty then .ok ()
  else .error ⟨"SQL_NEGATIVE_QTY", "Governance rejection: negative SQL quantity", 422, itemCode, none⟩

def carriesCode (itemCode : String) : Doc → Bool :=
  (Filter.either (.eq "item_code" (.str itemCode)) (.eq "barcode" (.str itemCode))).holds

/-- `_load_mongo_item_snapshot`: the first document that carries the code. -/
def loadMongoItemSnapshot (items : List Doc) (itemCode : String) : Except VerifyError Doc :=
  match items.find? (carriesCode itemCode) with
  | some item => .ok item
  | none => .error ⟨"ITEM_NOT_FOUND", "Item not found in MongoDB", 404, itemCode, none⟩

/-- `_variance_threshold_error`. -/
def checkVariance (policy : VerifyPolicy) (itemCode : String) (variance : ℚ) : Except VerifyError Unit :=
  if policy.strict && decide (policy.maxVariance < |variance|) then
    .error ⟨"SQL_VARIANCE_THRESHOLD", "Variance exceeds governance threshold", 422, itemCode, some "ERROR"⟩
  else .ok ()

section

variable (toFloat : ℚ → ℚ) (policy : VerifyPolicy) (itemCode : String) (reading : SqlReading)

def normalizeMongoQtyOrError (item : Doc) : Except VerifyError ℚ :=
  match normalizeMongoQty item with
  | some stored => .ok (toFloat stored)
  | none =>
    .error ⟨"MONGO_NON_NUMERIC_QTY", "Governance rejection: non-numeric Mongo quantity", 422, itemCode, none⟩

/-- The sequence number of an item. A conversion that raises ends in the outermost handler. -/
def currentSeqOrError (item : Doc) : Except VerifyError Int :=
  match readVerificationSeq item with
  | some seq => .ok seq
  | none =>
    .error ⟨"VERIFICATION_INTERNAL_ERROR", "Verification failed due to an internal error", 500, itemCode, none⟩

/-- `_verify_item_with_sql_qty` up to the update. -/
def takeSnapshot (items : List Doc) : Except VerifyError LoadedItem := do
  validateSqlQty itemCode reading.sqlQty
  let item ← loadMongoItemSnapshot items itemCode
  let mongoQty ← normalizeMongoQtyOrError toFloat itemCode item
  let currentSeq ← currentSeqOrError itemCode item
  checkVariance policy itemCode (reading.sqlQty - mongoQty)
  return ⟨item.get "_id", mongoQty, currentSeq⟩

/-- The filter of the update: the item, with the stock that was read. -/
def unchangedItem (snapshot : LoadedItem) : Doc → Bool :=
  (Filter.both (.eq "_id" snapshot.id) (.eq "stock_qty" (.num snapshot.mongoQty))).holds

/-- The update of `_apply_sql_verification_update`, none where it modifies no document. -/
def writeVerification (snapshot : LoadedItem) (items : List Doc) : Option (List Doc) :=
  let fields := buildSqlUpdateData reading snapshot.mongoQty (snapshot.currentSeq + 1)
  match items.find? (unchangedItem snapshot) with
  | some item =>
    if fields.any fun field => item field.1 != some field.2 then
      some (Collection.replaceFirst (unchangedItem snapshot) (item.setAll fields) items)
    else none
  | none => none

def lostError : VerifyError := ⟨"ITEM_LOST", "Item lost during update", 404, itemCode, none⟩

def conflictError : VerifyError :=
  ⟨"VERIFICATION_CONFLICT", "State conflict: data changed during verification", 409, itemCode, some "conflict"⟩

def handleUpdateConflictOrLoss (snapshot : LoadedItem) (s : ItemLedger) : ItemLedger × VerifyError :=
  match s.items.find? (Filter.eq "_id" snapshot.id).holds with
  | some item =>
    if item.get "stock_qty" != .num snapshot.mongoQty then
      ({ s with conflicts := s.conflicts ++
          [⟨snapshot.id, itemCode, reading.sqlQty, snapshot.mongoQty, item.get "stock_qty"⟩] }, conflictError itemCode)
    else (s, lostError itemCode)
  | none => (s, lostError itemCode)

def verifySuccess (snapshot : LoadedItem) : VerifySuccess where
  itemCode := itemCode
  sqlQty := reading.sqlQty
  mongoQty := snapshot.mongoQty
  variance := reading.sqlQty - snapshot.mongoQty
  verifiedAt := reading.verifiedAt
  mismatch := reading.sqlQty - snapshot.mongoQty != 0
  seq := snapshot.currentSeq + 1
  latencyMs := reading.latencyMs

/-- `_verify_item_with_sql_qty`, while no one else writes. -/
def verifyItemWithSqlQty (s : ItemLedger) : ItemLedger × Except VerifyError VerifySuccess :=
  match takeSnapshot toFloat policy itemCode reading s.items with
  | .error error => (s, .error error)
  | .ok snapshot =>
    match writeVerification reading snapshot s.items with
    | some items => ({ s with items := items }, .ok (verifySuccess itemCode reading snapshot))
    | none =>
      let (after, error) := handleUpdateConflictOrLoss itemCode reading snapshot s
      (after, .error error)

end

/-- Every document has an id of its own, which is no array. -/
structure DistinctIds (items : List Doc) : Prop where
  present : ∀ item ∈ items, ∃ id, item "_id" = some id ∧ ∀ elements, id ≠ .list elements
  distinct : (items.map (·.get "_id")).Nodup

structure IdentifiedItems where
  items : List Doc
  identified : DistinctIds items

namespace DistinctIds

variable {items : List Doc} {item other : Doc}

section

variable (identified : DistinctIds items)
include identified

theorem idIs_iff (member : item ∈ items) {id : Value} : Filter.fieldIs item "_id" id = true ↔ item.get "_id" = id := by
  obtain ⟨own, stored, single⟩ := identified.present item member
  rw [Doc.get_of_some stored, Filter.fieldIs, stored]
  cases own with
  | list elements => exact absurd rfl (single elements)
  | _ => exact beq_iff_eq

theorem same_of_id (member : item ∈ items) (otherMember : other ∈ items)
    (same : item.get "_id" = other.get "_id") : item = other :=
  List.inj_on_of_nodup_map identified.distinct member otherMember same

theorem nodup : items.Nodup := List.Nodup.of_map _ identified.distinct

theorem find_id (member : item ∈ items) : items.find? (Filter.eq "_id" (item.get "_id")).holds = some item := by
  cases found : items.find? (Filter.eq "_id" (item.get "_id")).holds with
  | none =>
    have unmatched := List.find?_eq_none.mp found item member
    exact absurd ((identified.idIs_iff member).mpr rfl) unmatched
  | some other =>
    have otherMember := List.mem_of_find?_eq_some found
    have matched := List.find?_some found
    rw [Filter.holds, identified.idIs_iff otherMember] at matched
    rw [identified.same_of_id otherMember member matched]

end

end DistinctIds

section

variable {toFloat : ℚ → ℚ} {policy : VerifyPolicy} {itemCode : String} {reading : SqlReading}

def WithinPolicy (policy : VerifyPolicy) (variance : ℚ) : Prop :=
  policy.strict = true → |variance| ≤ policy.maxVariance

/-- What a verification takes along from a document. -/
structure TakenFrom (toFloat : ℚ → ℚ) (policy : VerifyPolicy) (reading : SqlReading) (item : Doc)
    (snapshot : LoadedItem) : Prop where
  id : snapshot.id = item.get "_id"
  quantity : ∃ stored, normalizeMongoQty item = some stored ∧ snapshot.mongoQty = toFloat stored
  seq : readVerificationSeq item = some snapshot.currentSeq
  notNegative : 0 ≤ reading.sqlQty
  within : WithinPolicy policy (reading.sqlQty - snapshot.mongoQty)

theorem validateSqlQty_ok_iff {sqlQty : ℚ} {done : Unit} : validateSqlQty itemCode sqlQty = .ok done ↔ 0 ≤ sqlQty := by
  unfold validateSqlQty
  by_cases notNegative : 0 ≤ sqlQty
  · simp [notNegative]
  · simp [notNegative]

variable {items : List Doc} {item : Doc}

theorem loadMongoItemSnapshot_ok_iff :
    loadMongoItemSnapshot items itemCode = .ok item ↔ items.find? (carriesCode itemCode) = some item := by
  unfold loadMongoItemSnapshot
  split
  · next found => simp [found]
  · next nothing => simp [nothing]

theorem normalizeMongoQtyOrError_ok_iff {mongoQty : ℚ} :
    normalizeMongoQtyOrError toFloat itemCode item = .ok mongoQty ↔
      ∃ stored, normalizeMongoQty item = some stored ∧ mongoQty = toFloat stored := by
  unfold normalizeMongoQtyOrError
  split
  · next stored normal => simp [normal, eq_comm]
  · next refused => simp [refused]

theorem currentSeqOrError_ok_iff {seq : Int} :
    currentSeqOrError itemCode item = .ok seq ↔ readVerificationSeq item = some seq := by
  unfold currentSeqOrError
  split
  · next counted => simp [counted]
  · next refused => simp [refused]

theorem checkVariance_ok_iff {variance : ℚ} {done : Unit} :
    checkVariance policy itemCode variance = .ok done ↔ WithinPolicy policy variance := by
  rw [checkVariance, WithinPolicy]
  cases policy.strict with
  | false => simp
  | true => simp [not_lt]

variable {snapshot : LoadedItem}

theorem takeSnapshot_ok_iff :
    takeSnapshot toFloat policy itemCode reading items = .ok snapshot ↔
      ∃ item, items.find? (carriesCode itemCode) = some item ∧ TakenFrom toFloat policy reading item snapshot := by
  simp only [takeSnapshot, bind_success, validateSqlQty_ok_iff, loadMongoItemSnapshot_ok_iff,
    normalizeMongoQtyOrError_ok_iff, currentSeqOrError_ok_iff, checkVariance_ok_iff]
  constructor
  · rintro ⟨-, notNegative, item, found, mongoQty, quantity, seq, counted, -, within, taken⟩
    cases taken
    exact ⟨item, found, rfl, quantity, counted, notNegative, within⟩
  · rintro ⟨item, found, taken⟩
    refine ⟨(), taken.notNegative, item, found, snapshot.mongoQty, taken.quantity,
      snapshot.currentSeq, taken.seq, (), taken.within, ?_⟩
    rw [← taken.id]
    rfl

/-- The interleaved verifications of one item read what `takeSnapshot` reads. -/
theorem loadSnapshot_taken (carries : carriesCode itemCode item = true) (nonneg : 0 ≤ reading.sqlQty) :
    loadSnapshot policy reading item = (takeSnapshot id policy itemCode reading [item]).toOption.map fun snapshot =>
      .apply reading snapshot.mongoQty snapshot.currentSeq := by
  simp only [loadSnapshot, takeSnapshot, bind, Except.bind, validateSqlQty, if_pos nonneg, loadMongoItemSnapshot,
    List.find?_cons_of_pos carries, normalizeMongoQtyOrError, currentSeqOrError, checkVariance]
  cases normalizeMongoQty item with
  | none => rfl
  | some qty =>
    cases readVerificationSeq item with
    | none => rfl
    | some seq =>
      dsimp only [Option.bind, id]
      split <;> rfl

theorem seq_differs {seq : Int} (counted : readVerificationSeq item = some seq) :
    item "sql_verification_seq" ≠ some (.num (seq + 1 : Int)) := by
  intro stored
  rw [readVerificationSeq_num stored, Option.some.injEq] at counted
  omega

theorem unchangedItem_iff : unchangedItem snapshot item = true ↔
    Filter.fieldIs item "_id" snapshot.id = true ∧ Filter.fieldIs item "stock_qty" (.num snapshot.mongoQty) = true :=
  Bool.and_eq_true_iff

theorem stock_unchanged_iff {stored : ℚ} (normal : normalizeMongoQty item = some stored) :
    Filter.fieldIs item "stock_qty" (.num (toFloat stored)) = true ↔
      ∃ qty, item "stock_qty" = some (.num qty) ∧ toFloat qty = qty := by
  constructor
  · intro matched
    have kept := stock_of_fieldIs (normalizeMongoQty_plain normal) matched
    rw [normalizeMongoQty, Doc.get_of_some kept, Option.some.injEq] at normal
    exact ⟨toFloat stored, kept, by rw [normal]; exact normal⟩
  · rintro ⟨qty, kept, same⟩
    rw [normalizeMongoQty, Doc.get_of_some kept, Option.some.injEq] at normal
    subst normal
    rw [Filter.fieldIs, kept, same]
    exact beq_self_eq_true _

/-- The update finds the document that was read, or none. -/
theorem find_unchanged (identified : DistinctIds items) (member : item ∈ items)
    (read : snapshot.id = item.get "_id") : items.find? (unchangedItem snapshot) =
      if Filter.fieldIs item "stock_qty" (.num snapshot.mongoQty) = true then some item else none := by
  have only : ∀ other ∈ items, unchangedItem snapshot other = true →
      other = item ∧ Filter.fieldIs item "stock_qty" (.num snapshot.mongoQty) = true := by
    intro other otherMember matched
    obtain ⟨id, stock⟩ := unchangedItem_iff.mp matched
    rw [read] at id
    obtain rfl := identified.same_of_id otherMember member ((identified.idIs_iff otherMember).mp id)
    exact ⟨rfl, stock⟩
  split
  · next stock =>
    cases found : items.find? (unchangedItem snapshot) with
    | none =>
      have unmatched := List.find?_eq_none.mp found item member
      exact absurd (unchangedItem_iff.mpr ⟨(identified.idIs_iff member).mpr read.symm, stock⟩) unmatched
    | some other => rw [(only other (List.mem_of_find?_eq_some found) (List.find?_some found)).1]
  · next stock =>
    rw [List.find?_eq_none]
    exact fun other otherMember matched => stock (only other otherMember matched).2

def writtenFields (reading : SqlReading) (snapshot : LoadedItem) : List (String × Value) :=
  buildSqlUpdateData reading snapshot.mongoQty (snapshot.currentSeq + 1)

def isModified (reading : SqlReading) (snapshot : LoadedItem) (item : Doc) : Bool :=
  (writtenFields reading snapshot).any fun field => item field.1 != some field.2

theorem writeVerification_found
    (found : items.find? (unchangedItem snapshot) = some item) : writeVerification reading snapshot items =
      if isModified reading snapshot item = true
      then some (Collection.replaceFirst (unchangedItem snapshot) (item.setAll (writtenFields reading snapshot)) items)
      else none := by
  unfold writeVerification
  rw [found]
  rfl

theorem writeVerification_unfound (unfound : items.find? (unchangedItem snapshot) = none) :
    writeVerification reading snapshot items = none := by
  unfold writeVerification
  rw [unfound]

theorem writeVerification_eq (identified : DistinctIds items) (member : item ∈ items)
    (read : snapshot.id = item.get "_id") : writeVerification reading snapshot items =
      if Filter.fieldIs item "stock_qty" (.num snapshot.mongoQty) = true ∧ isModified reading snapshot item = true
      then some (Collection.replaceFirst (unchangedItem snapshot) (item.setAll (writtenFields reading snapshot)) items)
      else none := by
  have hit := find_unchanged identified member read
  by_cases stock : Filter.fieldIs item "stock_qty" (.num snapshot.mongoQty) = true
  · rw [if_pos stock] at hit
    simp only [writeVerification_found hit, stock, true_and]
  · rw [if_neg stock] at hit
    rw [writeVerification_unfound hit, if_neg fun both => stock both.1]

/-- The interleaved verifications of one item write what `writeVerification` writes. -/
theorem applySqlVerificationUpdate_written {s : VerifiedItem}
    (identified : DistinctIds [s.item]) (read : snapshot.id = s.item.get "_id") :
    [(applySqlVerificationUpdate s reading snapshot.mongoQty snapshot.currentSeq).item] =
      (writeVerification reading snapshot [s.item]).getD [s.item] := by
  have unchanged : unchangedItem snapshot s.item = Filter.fieldIs s.item "stock_qty" (.num snapshot.mongoQty) := by
    simp [unchangedItem, Filter.holds, (identified.idIs_iff List.mem_cons_self).mpr read.symm]
  unfold applySqlVerificationUpdate writeVerification
  rw [List.find?_cons, unchanged]
  cases stock : Filter.fieldIs s.item "stock_qty" (.num snapshot.mongoQty) with
  | false => rfl
  | true =>
    dsimp only
    rw [Bool.true_and]
    split
    · rw [Option.getD_some, Collection.replaceFirst, unchanged, if_pos stock]
    · rfl

theorem isModified_of_seq
    (counted : readVerificationSeq item = some snapshot.currentSeq) : isModified reading snapshot item = true := by
  refine List.any_eq_true.mpr ⟨("sql_verification_seq", .num (snapshot.currentSeq + 1 : Int)), ?_, ?_⟩
  · simp [writtenFields, buildSqlUpdateData]
  · exact bne_iff_ne.mpr (seq_differs counted)

/-- The quantity is not negative, the stored stock is a number, null or absent, and their difference
is within the policy. -/
def AcceptableQty (toFloat : ℚ → ℚ) (policy : VerifyPolicy) (reading : SqlReading) (item : Doc) : Prop :=
  0 ≤ reading.sqlQty ∧ ∃ stored, normalizeMongoQty item = some stored ∧
    WithinPolicy policy (reading.sqlQty - toFloat stored)

def OnlyChanges (item : Doc) (before after : List Doc) : Prop :=
  ∃ front back changed, before = front ++ item :: back ∧ after = front ++ changed :: back

/-- A verification by the code succeeds and changes the item only. -/
def VerifiesItem (toFloat : ℚ → ℚ) (policy : VerifyPolicy) (itemCode : String)
    (reading : SqlReading) (items : List Doc) (item : Doc) : Prop :=
  ∃ after success, verifyItemWithSqlQty toFloat policy itemCode reading { items := items } = (after, .ok success) ∧
    OnlyChanges item items after.items

/-- No document before the item carries the code, the stock is stored as a number that the
conversion leaves alone, and the sequence number can be read. -/
structure Verifiable (toFloat : ℚ → ℚ) (itemCode : String) (items : List Doc) (item : Doc) : Prop where
  first : ∀ front back, items = front ++ item :: back → ∀ other ∈ front, carriesCode itemCode other = false
  stock : ∃ qty, item "stock_qty" = some (.num qty) ∧ toFloat qty = qty
  seq : (readVerificationSeq item).isSome = true

theorem verifyItemWithSqlQty_ok_iff {s after : ItemLedger} {success : VerifySuccess} :
    verifyItemWithSqlQty toFloat policy itemCode reading s = (after, .ok success) ↔
      ∃ snapshot items, takeSnapshot toFloat policy itemCode reading s.items = .ok snapshot ∧
        writeVerification reading snapshot s.items = some items ∧
        success = verifySuccess itemCode reading snapshot ∧ after = { s with items := items } := by
  unfold verifyItemWithSqlQty
  constructor
  · intro ran
    split at ran
    · cases (Prod.mk.inj ran).2
    · next snapshot taken =>
      split at ran
      · next items written =>
        cases ran
        exact ⟨snapshot, items, taken, written, rfl, rfl⟩
      · cases (Prod.mk.inj ran).2
  · rintro ⟨snapshot, items, taken, written, rfl, rfl⟩
    rw [taken]
    simp only [written]

/-- Where a document has become another one, it is the only one that may have. -/
theorem OnlyChanges.written {after front back : List Doc} {found new : Doc}
    (changes : OnlyChanges item items after) (distinct : items.Nodup) (before : items = front ++ found :: back)
    (made : after = front ++ new :: back) (different : new ≠ found) : found = item := by
  obtain ⟨ahead, behind, changed, split, result⟩ := changes
  by_contra other
  have member : found ∈ ahead ++ item :: behind := by
    rw [← split, before]
    simp
  have stays : found ∈ after := by
    rw [result]
    simp only [List.mem_append, List.mem_cons] at member ⊢
    tauto
  have gone : found ∉ after := by
    rw [before, List.nodup_middle, List.nodup_cons] at distinct
    rw [made]
    simp only [List.mem_append, List.mem_cons] at distinct ⊢
    rintro (ahead | same | behind)
    · exact distinct.1 (.inl ahead)
    · exact different same.symm
    · exact distinct.1 (.inr behind)
  exact gone stays

theorem carriesCode_own (coded : item "item_code" = some (.str itemCode)) :
    carriesCode itemCode item = true := by
  simp [carriesCode, Filter.holds, Filter.fieldIs_str coded]

theorem written_differs
    (counted : readVerificationSeq item = some snapshot.currentSeq) :
    item.setAll (writtenFields reading snapshot) ≠ item := by
  intro same
  have written := Doc.setAll_named item
    (buildSqlUpdateData_fields reading snapshot.mongoQty (snapshot.currentSeq + 1)).2.2
  rw [← writtenFields, same] at written
  exact seq_differs counted written

/-- An item is found by its code exactly if no document before it carries the code. -/
theorem found_iff (distinct : items.Nodup) (member : item ∈ items)
    (carries : carriesCode itemCode item = true) : items.find? (carriesCode itemCode) = some item ↔
      ∀ front back, items = front ++ item :: back → ∀ other ∈ front, carriesCode itemCode other = false := by
  constructor
  · rintro found front back rfl other otherMember
    rw [List.find?_append] at found
    cases ahead : front.find? (carriesCode itemCode) with
    | none => simpa using List.find?_eq_none.mp ahead other otherMember
    | some earlier =>
      rw [ahead, Option.some_or, Option.some.injEq] at found
      rw [List.nodup_middle, List.nodup_cons, List.mem_append] at distinct
      exact absurd (.inl (found ▸ List.mem_of_find?_eq_some ahead)) distinct.1
  · intro first
    obtain ⟨front, back, split⟩ := List.mem_iff_append.mp member
    have before : front.find? (carriesCode itemCode) = none := by
      rw [List.find?_eq_none]
      exact fun other otherMember => by simp [first front back split other otherMember]
    rw [split, List.find?_append, before, Option.none_or, List.find?_cons_of_pos carries]

theorem verifies_found (identified : DistinctIds items) {found : Doc} (member : found ∈ items)
    (held : TakenFrom toFloat policy reading found snapshot)
    (stock : Filter.fieldIs found "stock_qty" (.num snapshot.mongoQty) = true) :
    ∃ front back, items = front ++ found :: back ∧ writeVerification reading snapshot items =
      some (front ++ found.setAll (writtenFields reading snapshot) :: back) := by
  have hit := (find_unchanged identified member held.id).trans (if_pos stock)
  obtain ⟨front, back, split, matched, before⟩ := Collection.find_split hit
  refine ⟨front, back, split, ?_⟩
  rw [writeVerification_eq identified member held.id, if_pos ⟨stock, isModified_of_seq held.seq⟩]
  conv_lhs => rw [split]
  rw [Collection.replaceFirst_split matched before]

/-- A verification with an acceptable quantity succeeds and changes the item only, exactly if the
item is verifiable. -/
theorem verifies_item_iff {store : IdentifiedItems} {item : Doc} (member : item ∈ store.items)
    (coded : item "item_code" = some (.str itemCode)) (acceptable : AcceptableQty toFloat policy reading item) :
    VerifiesItem toFloat policy itemCode reading store.items item ↔ Verifiable toFloat itemCode store.items item := by
  obtain ⟨notNegative, stored, normal, within⟩ := acceptable
  have identified := store.identified
  have isFirst := found_iff identified.nodup member (carriesCode_own coded)
  constructor
  · rintro ⟨after, success, ran, changes⟩
    obtain ⟨snapshot, items, taken, written, -, rfl⟩ := verifyItemWithSqlQty_ok_iff.mp ran
    obtain ⟨found, located, held⟩ := takeSnapshot_ok_iff.mp taken
    have foundMember := List.mem_of_find?_eq_some located
    have stock : Filter.fieldIs found "stock_qty" (.num snapshot.mongoQty) = true := by
      rw [writeVerification_eq identified foundMember held.id] at written
      split at written
      · next guard => exact guard.1
      · cases written
    obtain ⟨front, back, split, made⟩ := verifies_found identified foundMember held stock
    have result := Option.some.inj (written.symm.trans made)
    obtain rfl := changes.written identified.nodup split result (written_differs held.seq)
    obtain ⟨read, same, quantity⟩ := held.quantity
    rw [quantity] at stock
    exact ⟨isFirst.mp located, (stock_unchanged_iff same).mp stock, by rw [held.seq]; rfl⟩
  · rintro ⟨first, stock, seq⟩
    obtain ⟨currentSeq, counted⟩ := Option.isSome_iff_exists.mp seq
    have held : TakenFrom toFloat policy reading item ⟨item.get "_id", toFloat stored, currentSeq⟩ :=
      ⟨rfl, ⟨stored, normal, rfl⟩, counted, notNegative, within⟩
    obtain ⟨front, back, split, written⟩ :=
      verifies_found identified member held ((stock_unchanged_iff normal).mpr stock)
    have taken := takeSnapshot_ok_iff.mpr ⟨item, isFirst.mpr first, held⟩
    exact ⟨_, _, verifyItemWithSqlQty_ok_iff.mpr ⟨_, _, taken, written, rfl, rfl⟩, front, back, _, split, rfl⟩

end

def shelfItem (id itemCode barcode : String) (stock : List (String × Value)) : Doc :=
  Doc.ofList ([("_id", .oid id), ("item_code", .str itemCode), ("barcode", .str barcode)] ++ stock)

/-- An item with a stock of five. -/
def stockedShelf : IdentifiedItems where
  items := [shelfItem "a1" "I1" "890001" [("stock_qty", .num 5)]]
  identified := by
    refine ⟨fun item member => ?_, List.nodup_singleton _⟩
    obtain rfl := List.mem_singleton.mp member
    exact ⟨.oid "a1", rfl, nofun⟩

def fiveCounted : SqlReading where
  sqlQty := 5
  latencyMs := 12
  verifiedAt := 1000

theorem verifies_stocked_item :
    VerifiesItem id {} "I1" fiveCounted stockedShelf.items (shelfItem "a1" "I1" "890001" [("stock_qty", .num 5)]) := by
  refine (verifies_item_iff (List.mem_singleton_self _) rfl ⟨by decide, 5, rfl, fun _ => by decide +kernel⟩).mpr
    ⟨fun front back split other member => ?_, ⟨5, rfl, rfl⟩, by decide +kernel⟩
  have length := congrArg List.length split
  rw [List.length_append, List.length_cons, stockedShelf, List.length_singleton] at length
  have empty : front = [] := List.eq_nil_of_length_eq_zero (by omega)
  rw [empty] at member
  cases member

/-- An item that has no stock yet. -/
def newShelf : IdentifiedItems where
  items := [shelfItem "a1" "I1" "890001" []]
  identified := by
    refine ⟨fun item member => ?_, List.nodup_singleton _⟩
    obtain rfl := List.mem_singleton.mp member
    exact ⟨.oid "a1", rfl, nofun⟩

/-- The update asks for a stock of zero, which an absent stock is not. -/
theorem absent_stock_conflicts : ¬ ∀ (toFloat : ℚ → ℚ) (policy : VerifyPolicy) (store : IdentifiedItems)
    (itemCode : String) (reading : SqlReading), ∀ item ∈ store.items, item "item_code" = some (.str itemCode) →
      AcceptableQty toFloat policy reading item → VerifiesItem toFloat policy itemCode reading store.items item := by
  intro always
  obtain ⟨after, success, ran, -⟩ := always id {} newShelf "I1" fiveCounted _ (List.mem_singleton_self _) rfl
    ⟨by decide, 0, rfl, fun _ => by decide +kernel⟩
  have failed : (verifyItemWithSqlQty id {} "I1" fiveCounted { items := newShelf.items }).2.toOption = none := by
    decide +kernel
  rw [ran] at failed
  cases failed

/-- An item is verified by the code of a later one that stands in its barcode. -/
example : (verifyItemWithSqlQty id {} "I1" fiveCounted { items := [shelfItem "a0" "I0" "I1" [("stock_qty", .num 4)],
    shelfItem "a1" "I1" "890001" [("stock_qty", .num 5)]] }).1.items.map (·.get "sql_verified_qty") =
      [.num 5, .null] := by decide +kernel

end StockVerification
