import StockVerification.Foundation.Collection
import StockVerification.Foundation.Interleaving

/-!
# Verification against the SQL server

Source: backend/services/sql_verification_service.py:100-422 and 762-830,
backend/config/governance.py:22-30.

A verification comes with the quantity that the SQL server answered. It reads the item and
then writes back under the condition that the stock has stayed. A batch runs the
verifications of its items at once, each as a single call does. Stock updates of the item
may fall between the two steps. Refused verifications leave only log entries, which are not
modelled.
-/
namespace StockVerification

open Foundation

/-- `SQL_VERIFY_STRICT` and `SQL_MAX_VARIANCE`. -/
structure VerifyPolicy where
  strict : Bool := true
  maxVariance : ℚ := 10000

/-- The quantity the server answered, the latency of the query and the time of the write. -/
structure SqlReading where
  sqlQty : ℚ
  latencyMs : ℚ
  verifiedAt : Int

/-- `_normalize_mongo_qty_or_error` of the stored stock, none where it is refused. -/
def normalizeMongoQty (item : Doc) : Option ℚ :=
  match item.get "stock_qty" with
  | .null => some 0
  | .num q => some q
  | _ => none

/-- `int(mongo_item.get("sql_verification_seq", 0) or 0)`, none where the conversion raises. -/
def readVerificationSeq (item : Doc) : Option Int :=
  ((item.get "sql_verification_seq").orElse (.num 0)).integer

/-- `_build_sql_update_data`, with the next sequence number. -/
def buildSqlUpdateData (reading : SqlReading) (mongoQty : ℚ) (newSeq : Int) : List (String × Value) :=
  let variance := reading.sqlQty - mongoQty
  [("sql_verified_qty", .num reading.sqlQty), ("last_sql_verified_at", .date reading.verifiedAt),
    ("variance", .num variance), ("mongo_cached_qty_previous", .num mongoQty),
    ("sql_qty_mismatch_flag", .bool (variance != 0)),
    ("sql_verification_status", .str (if variance = 0 then "MATCH" else "MISMATCH")),
    ("sql_verification_seq", .num newSeq), ("sql_verification_source", .str "SQL_SERVER"),
    ("sql_verification_latency_ms", .num (roundPlaces 2 reading.latencyMs))]

/-- What a successful verification has answered and stored, and the stock at that moment. -/
structure SqlVerified where
  seq : Int
  sqlQty : ℚ
  variance : Value
  stock : Value

structure VerifiedItem where
  item : Doc
  verified : List SqlVerified := []

inductive VerifyRequest where
  | verify (reading : SqlReading)
  | stock (qty : ℚ)

inductive VerifyTask where
  | load (reading : SqlReading)
  | apply (reading : SqlReading) (mongoQty : ℚ) (currentSeq : Int)
  | stock (qty : ℚ)

/-- A negative quantity is refused before the item is read. -/
def startVerify (_ : VerifiedItem) : VerifyRequest → Option VerifyTask
  | .verify reading => if 0 ≤ reading.sqlQty then some (.load reading) else none
  | .stock qty => some (.stock qty)

/-- What a verification makes of the item that it has read. -/
def loadSnapshot (policy : VerifyPolicy) (reading : SqlReading) (item : Doc) : Option VerifyTask := do
  let mongoQty ← normalizeMongoQty item
  let currentSeq ← readVerificationSeq item
  if policy.strict && decide (policy.maxVariance < |reading.sqlQty - mongoQty|) then none
  else some (.apply reading mongoQty currentSeq)

/-- `_apply_sql_verification_update`: the update is conditional on the stock, and counts as made
when it changes the item. -/
def applySqlVerificationUpdate (s : VerifiedItem) (reading : SqlReading) (mongoQty : ℚ)
    (currentSeq : Int) : VerifiedItem :=
  let fields := buildSqlUpdateData reading mongoQty (currentSeq + 1)
  if Filter.fieldIs s.item "stock_qty" (.num mongoQty) && fields.any (fun field => s.item field.1 != some field.2) then
    { item := s.item.setAll fields
      verified := s.verified ++
        [⟨currentSeq + 1, reading.sqlQty, (s.item.setAll fields).get "variance", s.item.get "stock_qty"⟩] }
  else s

def resumeVerify (policy : VerifyPolicy) (s : VerifiedItem) : VerifyTask → VerifiedItem × Option VerifyTask
  | .load reading => (s, loadSnapshot policy reading s.item)
  | .apply reading mongoQty currentSeq => (applySqlVerificationUpdate s reading mongoQty currentSeq, none)
  | .stock qty => ({ s with item := s.item.set "stock_qty" (.num qty) }, none)

abbrev Verifying := Concurrent VerifiedItem VerifyTask

def Verifying.step (policy : VerifyPolicy) : Verifying → Move VerifyRequest → Verifying :=
  Concurrent.step startVerify (resumeVerify policy)

/-- A verification that is about to write finds the sequence number that it has read. -/
def seqUndisturbed (c : Verifying) : Move VerifyRequest → Bool
  | .resume slot =>
    match c.task slot with
    | some (.apply _ _ currentSeq) => readVerificationSeq c.store.item == some currentSeq
    | _ => true
  | _ => true

theorem buildSqlUpdateData_fields (reading : SqlReading) (mongoQty : ℚ) (newSeq : Int) :
    Doc.ofList (buildSqlUpdateData reading mongoQty newSeq) "stock_qty" = none ∧
    Doc.ofList (buildSqlUpdateData reading mongoQty newSeq) "variance" = some (.num (reading.sqlQty - mongoQty)) ∧
    Doc.ofList (buildSqlUpdateData reading mongoQty newSeq) "sql_verification_seq" = some (.num newSeq) := by
  refine ⟨?_, ?_, ?_⟩
  · apply Doc.ofList_other
    simp [buildSqlUpdateData]
  · simp [buildSqlUpdateData]
  · simp [buildSqlUpdateData]

variable {item : Doc}

theorem readVerificationSeq_num {seq : Int} (stored : item "sql_verification_seq" = some (.num seq)) :
    readVerificationSeq item = some seq := by
  rw [readVerificationSeq, Doc.get_of_some stored]
  by_cases zero : seq = 0
  · subst zero
    rfl
  · have counted : truncate (seq : ℚ) = seq := by
      unfold truncate
      split
      · exact Int.floor_intCast seq
      · exact Int.ceil_intCast seq
    simp [Value.orElse, Value.truthy, zero, Value.integer, counted]

/-- An update is made or not, and if it is made the item has the stock the verification has read. -/
theorem applySqlVerificationUpdate_cases (s : VerifiedItem) (reading : SqlReading) (mongoQty : ℚ) (currentSeq : Int) :
    applySqlVerificationUpdate s reading mongoQty currentSeq = s ∨
    ∃ item, applySqlVerificationUpdate s reading mongoQty currentSeq = { item := item, verified := s.verified ++
          [⟨currentSeq + 1, reading.sqlQty, .num (reading.sqlQty - mongoQty), s.item.get "stock_qty"⟩] } ∧
      item "stock_qty" = s.item "stock_qty" ∧ readVerificationSeq item = some (currentSeq + 1) ∧
      Filter.fieldIs s.item "stock_qty" (.num mongoQty) = true := by
  obtain ⟨stock, variance, seq⟩ := buildSqlUpdateData_fields reading mongoQty (currentSeq + 1)
  unfold applySqlVerificationUpdate
  dsimp only
  split
  · next made =>
    rw [Bool.and_eq_true] at made
    refine .inr ⟨s.item.setAll (buildSqlUpdateData reading mongoQty (currentSeq + 1)), ?_, ?_, ?_, made.1⟩
    · rw [Doc.get_of_some (Doc.setAll_named s.item variance)]
    · rw [Doc.setAll, Doc.update_apply, stock, Option.none_or]
    · exact readVerificationSeq_num (Doc.setAll_named s.item seq)
  · exact .inl rfl

/-- Every success has stored the variance against the stock of that moment. -/
def VariancesCurrent (s : VerifiedItem) : Prop :=
  ∀ done ∈ s.verified, ∃ stock, done.stock = .num stock ∧ done.variance = .num (done.sqlQty - stock)

/-- Once a verification has taken the stock for a number, it is no list. -/
def VerifyTask.StockPlain (s : VerifiedItem) : VerifyTask → Prop
  | .apply _ _ _ => ∀ items, s.item "stock_qty" ≠ some (.list items)
  | _ => True

variable {policy : VerifyPolicy}

theorem loadSnapshot_some {reading : SqlReading} {task : VerifyTask}
    (loaded : loadSnapshot policy reading item = some task) :
    ∃ mongoQty currentSeq, task = .apply reading mongoQty currentSeq ∧ normalizeMongoQty item = some mongoQty := by
  unfold loadSnapshot at loaded
  obtain ⟨mongoQty, normal, loaded⟩ := Option.bind_eq_some_iff.mp loaded
  obtain ⟨currentSeq, counted, loaded⟩ := Option.bind_eq_some_iff.mp loaded
  split at loaded
  · cases loaded
  · exact ⟨mongoQty, currentSeq, (Option.some.inj loaded).symm, normal⟩

theorem normalizeMongoQty_plain {mongoQty : ℚ} (normal : normalizeMongoQty item = some mongoQty)
    (items : List Atom) : item "stock_qty" ≠ some (.list items) := by
  intro isList
  rw [normalizeMongoQty, Doc.get_of_some isList] at normal
  cases normal

theorem stock_of_fieldIs {qty : ℚ} (plain : ∀ items, item "stock_qty" ≠ some (.list items))
    (matched : Filter.fieldIs item "stock_qty" (.num qty) = true) : item "stock_qty" = some (.num qty) := by
  unfold Filter.fieldIs at matched
  split at matched
  · cases matched
  · next items isList => exact absurd isList (plain items)
  · next stored _ isStored => rw [isStored, beq_iff_eq.mp matched]

/-- In every run, whatever the order of its steps. -/
theorem variances_current {ok : Verifying → Move VerifyRequest → Prop} {first last : Verifying}
    (new : first.store.verified = []) (idle : ∀ slot, first.task slot = none)
    (run : Reaches (Verifying.step policy) ok first last) : VariancesCurrent last.store := by
  have kept : Concurrent.Sound VariancesCurrent VerifyTask.StockPlain last := by
    apply run.invariant
    · refine ⟨fun done member => ?_, fun slot task held => ?_⟩
      · rw [new] at member
        cases member
      · rw [idle] at held
        cases held
    · intro c move sound _
      apply sound.step
      · intro slot request task _ begun
        cases request with
        | verify reading =>
          simp only [startVerify] at begun
          split at begun
          · cases begun
            trivial
          · cases begun
        | stock qty =>
          cases begun
          trivial
      · intro slot task _ _ plain
        cases task with
        | load reading =>
          refine ⟨sound.store, fun next loaded => ?_, fun _ _ _ _ fact => fact⟩
          obtain ⟨mongoQty, currentSeq, rfl, normal⟩ := loadSnapshot_some loaded
          exact normalizeMongoQty_plain normal
        | apply reading mongoQty currentSeq =>
          refine ⟨?_, fun next ended => ?_, fun other u _ _ fact => ?_⟩
          · rcases applySqlVerificationUpdate_cases c.store reading mongoQty currentSeq with
              same | ⟨item, made, _, _, matched⟩
            · rw [resumeVerify, same]
              exact sound.store
            · rw [resumeVerify, made]
              intro done member
              rcases List.mem_append.mp member with earlier | isNew
              · exact sound.store done earlier
              · cases List.mem_singleton.mp isNew
                exact ⟨mongoQty, Doc.get_of_some (stock_of_fieldIs plain matched), rfl⟩
          · cases ended
          · rcases applySqlVerificationUpdate_cases c.store reading mongoQty currentSeq with
              same | ⟨item, made, stock, _, _⟩
            · rw [resumeVerify, same]
              exact fact
            · rw [resumeVerify, made]
              cases u with
              | apply _ _ _ =>
                intro items isList
                exact fact items (stock.symm.trans isList)
              | load _ => trivial
              | stock _ => trivial
        | stock qty =>
          refine ⟨sound.store, fun next ended => ?_, fun other u _ _ fact => ?_⟩
          · cases ended
          cases u with
          | apply _ _ _ =>
            intro items isList
            have stored : some (Value.num qty) = some (.list items) := isList
            cases stored
          | load _ => trivial
          | stock _ => trivial
  exact kept.store

/-- The stored number has grown with the successes, which have answered the numbers one by one. -/
structure SeqsCounted (first : Doc) (s : VerifiedItem) : Prop where
  stored : readVerificationSeq s.item = (readVerificationSeq first).map fun seq => seq + (s.verified.length : Int)
  answered : s.verified.map (·.seq) =
    (List.range s.verified.length).map fun n : Nat => (readVerificationSeq first).getD 0 + n + 1

/-- A write that counts from the stored number. -/
theorem SeqsCounted.write {first : Doc} {s : VerifiedItem} (counted : SeqsCounted first s) {reading : SqlReading}
    {mongoQty : ℚ} {currentSeq : Int} (current : readVerificationSeq s.item = some currentSeq) :
    SeqsCounted first (applySqlVerificationUpdate s reading mongoQty currentSeq) := by
  rcases applySqlVerificationUpdate_cases s reading mongoQty currentSeq with same | ⟨item, made, _, seq, _⟩
  · rw [same]
    exact counted
  · rw [made]
    have stored := counted.stored
    rw [current] at stored
    obtain ⟨before, start, sum⟩ := Option.map_eq_some_iff.mp stored.symm
    constructor
    · rw [seq, start, Option.map_some, List.length_append, List.length_singleton, ← sum]
      congr 1
      push_cast
      omega
    · have answered := counted.answered
      rw [start, Option.getD_some] at answered ⊢
      rw [List.map_append, answered, List.length_append, List.length_singleton, List.range_succ,
        List.map_append, List.map_singleton, List.map_singleton, ← sum]

theorem readVerificationSeq_stock (item : Doc) (qty : ℚ) :
    readVerificationSeq (item.set "stock_qty" (.num qty)) = readVerificationSeq item := by
  have same : (item.set "stock_qty" (.num qty)).get "sql_verification_seq" = item.get "sql_verification_seq" :=
    Doc.get_congr (Doc.set_other item _ (by decide))
  rw [readVerificationSeq, same, readVerificationSeq]

theorem SeqsCounted.step {first : Doc} {c : Verifying} {move : Move VerifyRequest}
    (counted : SeqsCounted first c.store) (quiet : seqUndisturbed c move = true) :
    SeqsCounted first (Verifying.step policy c move).store := by
  rcases Concurrent.step_cases startVerify (resumeVerify policy) c move with
    nothing | ⟨slot, request, rfl, _, after⟩ | ⟨slot, task, rfl, held, after⟩ | ⟨slot, rfl, after⟩
  · rw [Verifying.step, nothing]
    exact counted
  · rw [Verifying.step, after]
    exact counted
  · rw [Verifying.step, after]
    cases task with
    | load reading => exact counted
    | apply reading mongoQty currentSeq =>
      simp only [seqUndisturbed, held, beq_iff_eq] at quiet
      exact counted.write quiet
    | stock qty => exact ⟨(readVerificationSeq_stock c.store.item qty).trans counted.stored, counted.answered⟩
  · rw [Verifying.step, after]
    exact counted

/-- No two successes have answered the same sequence number, the item's number has grown by as many
as there were, and each has stored the variance against the stock it found. -/
structure VerificationsLinear (first last : VerifiedItem) : Prop where
  distinct : (last.verified.map (·.seq)).Nodup
  grown : readVerificationSeq last.item = (readVerificationSeq first.item).map fun seq => seq + (last.verified.length : Int)
  current : VariancesCurrent last

/-- Verifications that write over the sequence number they have read are linear. -/
theorem verifications_linear {policy : VerifyPolicy} {first last : Verifying}
    (new : first.store.verified = []) (idle : ∀ slot, first.task slot = none)
    (run : Reaches (Verifying.step policy) (fun c move => seqUndisturbed c move = true) first last) :
    VerificationsLinear first.store last.store := by
  have counted : SeqsCounted first.store.item last.store := by
    apply run.invariant
    · constructor
      · rw [new]
        simp
      · rw [new]
        rfl
    · intro c move kept quiet
      exact kept.step quiet
  refine ⟨?_, counted.stored, variances_current new idle run⟩
  rw [counted.answered]
  apply List.Nodup.map _ List.nodup_range
  intro n m same
  simp only at same
  omega

def itemOnStock : Verifying where
  store := { item := Doc.ofList [("_id", .oid "a1"), ("item_code", .str "I1"), ("stock_qty", .num 5)] }

def readingOf (qty : ℚ) : VerifyRequest := .verify { sqlQty := qty, latencyMs := 12, verifiedAt := 1000 }

/-- A verification, a stock update and a batch that names the item by its code and its barcode. -/
def verifiedInTurn : List (Move VerifyRequest) :=
  [.start 0 (readingOf 5), .resume 0, .resume 0, .start 1 (.stock 7), .resume 1,
    .start 2 (readingOf 8), .start 3 (readingOf 7), .resume 2, .resume 2, .resume 3, .resume 3]

theorem verifications_linear_in_turn :
    VerificationsLinear itemOnStock.store (verifiedInTurn.foldl (Verifying.step {}) itemOnStock).store ∧
      (verifiedInTurn.foldl (Verifying.step {}) itemOnStock).store.verified.length = 3 := by
  refine ⟨verifications_linear rfl (fun _ => rfl) (Reaches.of_admitted ?_), ?_⟩
  · decide +kernel
  · decide +kernel

def verifiedAtOnce : List (Move VerifyRequest) :=
  [.start 0 (readingOf 5), .start 1 (readingOf 6), .resume 0, .resume 1, .resume 0, .resume 1]

/-- Both succeed with sequence number 1. -/
theorem verifications_at_once :
    ¬ ∀ (policy : VerifyPolicy) (first last : Verifying), first.store.verified = [] → (∀ slot, first.task slot = none) →
      Reaches (Verifying.step policy) (fun _ _ => True) first last → VerificationsLinear first.store last.store := by
  intro always
  have linear := always {} itemOnStock _ rfl (fun _ => rfl)
    (Reaches.foldl fun _ (move : Move VerifyRequest) (_ : move ∈ verifiedAtOnce) => trivial)
  exact absurd linear.distinct (by decide +kernel)

end StockVerification
