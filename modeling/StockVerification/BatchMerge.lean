import StockVerification.Foundation.FirstByKey
import StockVerification.ResolutionGovernance

/-!
# The batches of a resolved line

Source: backend/services/sync_conflicts_service.py:73-91 and 463-526.

A resolution normalises the batches of the line and those of its data. Where the data brings a new
id, the line gets both lists merged. Otherwise the data's own list is written as it is, where there
is one.
-/
namespace StockVerification

open Foundation Action

/-- The records in a list of batches. -/
def batchRows : Value → List Row
  | .rows rows => rows
  | _ => []

@[simp] theorem batchRows_rows (rows : List Row) : batchRows (.rows rows) = rows := rfl

def normalizedBatch (row : Row) : Row := ("batch_id", .str (batchId row)) :: row.filter (·.1 != "batch_id")

def SameRow (a b : Row) : Prop := ∀ field, a.lookup field = b.lookup field

def SameBatch (a b : Row) : Prop :=
  batchId a = batchId b ∧ ∀ field, field ≠ "batch_id" → a.lookup field = b.lookup field

/-- The stored batches are there unchanged, as is each incoming batch with a new id, and no id comes
twice. -/
structure BatchesKept (stored incoming after : List Row) : Prop where
  unchanged : ∀ row ∈ stored, ∃ kept ∈ after, SameRow kept row
  added : ∀ row ∈ incoming, (∀ other ∈ stored, batchId other ≠ batchId row) → ∃ kept ∈ after, SameBatch kept row
  distinct : (after.map batchId).Nodup

def OnlyKnown (stored incoming : List Row) : Prop := ∀ row ∈ incoming, ∃ other ∈ stored, batchId other = batchId row

/-- Data without batches is for a line whose ids differ. Data without a new id repeats the stored
batches and no id. Where the data brings a new id, the stored batches carry their ids as they are,
and batches of one id agree. -/
structure BatchesFit (line : Doc) (data : List (String × Value)) : Prop where
  unmentioned : data.lookup "batches" = none → ((batchRows (line.get "batches")).map batchId).Nodup
  known : ∀ v, data.lookup "batches" = some v → OnlyKnown (batchRows (line.get "batches")) (batchRows v) →
    (∀ row ∈ batchRows (line.get "batches"), ∃ same ∈ batchRows v, SameRow same row) ∧
      ((batchRows v).map batchId).Nodup
  fresh : ∀ v, data.lookup "batches" = some v → ¬ OnlyKnown (batchRows (line.get "batches")) (batchRows v) →
    (∀ row ∈ batchRows (line.get "batches"), row.lookup "batch_id" = some (.str (batchId row)) ∧
      ∀ other ∈ batchRows (line.get "batches"), batchId other = batchId row → SameRow other row) ∧
    ∀ row ∈ batchRows v, (∀ known ∈ batchRows (line.get "batches"), batchId known ≠ batchId row) →
      ∀ other ∈ batchRows v, batchId other = batchId row → SameBatch other row

section Rows

variable {a b c row : Row}

theorem SameRow.symm (same : SameRow a b) : SameRow b a := fun field => (same field).symm

theorem SameRow.trans (first : SameRow a b) (second : SameRow b c) : SameRow a c :=
  fun field => (first field).trans (second field)

theorem SameRow.batchId (same : SameRow a b) : batchId a = batchId b := by
  simp only [StockVerification.batchId, same "batch_id", same "batch_no"]

theorem SameBatch.symm (same : SameBatch a b) : SameBatch b a :=
  ⟨same.1.symm, fun field other => (same.2 field other).symm⟩

theorem SameBatch.trans (first : SameBatch a b) (second : SameBatch b c) : SameBatch a c :=
  ⟨first.1.trans second.1, fun field other => (first.2 field other).trans (second.2 field other)⟩

theorem normalizedBatch_id (row : Row) : (normalizedBatch row).lookup "batch_id" = some (.str (batchId row)) := by
  rw [normalizedBatch, List.lookup_cons_self]

theorem normalizedBatch_other {field : String} (other : field ≠ "batch_id") (row : Row) :
    (normalizedBatch row).lookup field = row.lookup field := by
  rw [normalizedBatch, List.lookup_cons, beq_eq_false_iff_ne.mpr other]
  exact lookup_filter_other other row

theorem batchId_of_text {id : String} (stated : row.lookup "batch_id" = some (.str id))
    (filled : id ≠ "") : batchId row = Text.strip id := by
  simp [batchId, stated, Atom.toValue, Value.orElse, Value.truthy, Value.textOrEmpty, Value.text, filled]

theorem batchId_stripped (row : Row) : Text.strip (batchId row) = batchId row := Text.strip_strip _

theorem batchId_normalizedBatch (filled : batchId row ≠ "") : batchId (normalizedBatch row) = batchId row := by
  rw [batchId_of_text (normalizedBatch_id row) filled, batchId_stripped]

theorem normalizedBatch_same (filled : batchId row ≠ "") : SameBatch (normalizedBatch row) row :=
  ⟨batchId_normalizedBatch filled, fun _ other => normalizedBatch_other other row⟩

theorem normalizedBatch_sameRow (stated : row.lookup "batch_id" = some (.str (batchId row))) :
    SameRow (normalizedBatch row) row := by
  intro field
  by_cases isId : field = "batch_id"
  · subst isId
    rw [normalizedBatch_id, stated]
  · exact normalizedBatch_other isId row

end Rows

/-- The list that `_normalize_batches` answers. -/
abbrev normalizedRows (rows : List Row) : List Row := firstByKey batchId normalizedBatch rows

theorem batchRows_others {v : Value} (others : ∀ rows, v ≠ .rows rows) : batchRows v = [] := by
  cases v with
  | rows rows => exact absurd rfl (others rows)
  | _ => rfl

theorem normalizeBatches_ok {d : Doc} {rows : List Row} (success : normalizeBatches d = .ok rows) :
    (∀ row ∈ batchRows (d.get "batches"), batchId row ≠ "") ∧ rows = normalizedRows (batchRows (d.get "batches")) := by
  unfold normalizeBatches at success
  split at success
  · next given isRows =>
    simp only [bind_success, require_ok, pure_success] at success
    obtain ⟨_, filled, rfl⟩ := success
    rw [isRows, batchRows_rows]
    constructor
    · intro row member
      simpa using List.all_eq_true.mp filled row member
    · rfl
  · next noRows =>
    have others : batchRows (d.get "batches") = [] := batchRows_others noRows
    rw [others]
    constructor
    · simp
    · exact (Except.ok.inj success).symm

def additiveRows (stored incoming : List Row) : List Row :=
  incoming.filter fun row => !stored.any fun other => batchId other == batchId row

variable {data : List (String × Value)} {env : Env} {line fields : Doc}

/-- The batches of the `$set` document. -/
theorem resolvedLineFields_batches (success : resolvedLineFields env line data = .ok fields) :
    ∃ stored offered, normalizeBatches line = .ok stored ∧
      normalizeBatches (Doc.ofList (sanitizeFields blockedLineFields data)) = .ok offered ∧
      fields "batches" = if (additiveRows stored offered).isEmpty then data.lookup "batches"
        else some (.rows (stored ++ additiveRows stored offered)) := by
  simp only [resolvedLineFields, bind_success, pure_success] at success
  obtain ⟨current, _, incoming, _, _, _, stored, storedEq, offered, offeredEq, rfl⟩ := success
  refine ⟨stored, offered, storedEq, offeredEq, ?_⟩
  have counted : ∀ d : Doc, (if incoming = current then d else d.set "counted_qty" (.num incoming)) "batches" =
      d "batches" := by
    intro d
    split
    · rfl
    · exact Doc.set_other _ _ (by decide)
  rw [Doc.set_other _ _ (by decide), Doc.set_other _ _ (by decide), counted]
  unfold additiveRows
  split
  · rw [Doc.erase_other _ (by decide), Doc.erase_other _ (by decide), ofList_sanitizeFields, if_neg (by decide)]
  · exact Doc.set_same _ _ _

/-- Governance changes no batches. -/
theorem resolvedLine_batches {s t : Store} {entityId : String}
    (found : s.countLines.find? (entityLookup entityId).holds = some line)
    (fieldsEq : resolvedLineFields env line data = .ok fields)
    (step : WriteStep env (resolverContext line) (.updateOne (entityLookup entityId) (.ofSet fields)) s t) :
    ∃ u new, UpdatedLine (entityLookup entityId) u s t line new ∧
      new "batches" = (fields "batches").or (line "batches") := by
  obtain ⟨q, _, ⟨_, absent⟩ | ⟨_, present⟩⟩ := resolvedLineFields_qty fieldsEq
  · obtain ⟨stamped, old, new, updated, applied, _, _⟩ := setOne_effect rfl absent step
    rw [updated.found] at found
    cases found
    exact ⟨stamped, new, updated, applied _ (by decide)⟩
  · obtain ⟨final, checked, old, new, updated, same, ⟨e, _, setEq⟩, applied⟩ :=
      setOne_governed rfl (by simp [Doc.has, present]) step
    rw [updated.found] at found
    cases found
    refine ⟨final, new, updated, ?_⟩
    rw [applied, setEq, applyAuthoritativeFields_other (by decide),
      copyBaselineFields_other (by decide) (by decide), same _ (by decide)]

section Merge

variable {stored incoming : List Row}

theorem merged_nodup (filledStored : ∀ row ∈ stored, batchId row ≠ "")
    (filledIncoming : ∀ row ∈ incoming, batchId row ≠ "") :
    ((normalizedRows stored ++ additiveRows (normalizedRows stored) (normalizedRows incoming)).map batchId).Nodup := by
  have first : ((normalizedRows stored).map batchId).Nodup :=
    firstByKey_nodup fun row member => batchId_normalizedBatch (filledStored row member)
  have second : ((normalizedRows incoming).map batchId).Nodup :=
    firstByKey_nodup fun row member => batchId_normalizedBatch (filledIncoming row member)
  rw [List.map_append, List.nodup_append]
  refine ⟨first, second.sublist (List.filter_sublist.map _), fun id inStored id' inAdded same => ?_⟩
  obtain ⟨row, member, rfl⟩ := List.mem_map.mp inStored
  obtain ⟨new, isNew, rfl⟩ := List.mem_map.mp inAdded
  have unknown := (List.mem_filter.mp isNew).2
  simp only [Bool.not_eq_true', List.any_eq_false, beq_iff_eq] at unknown
  exact unknown row member same

theorem normalizedRows_id (filled : ∀ row ∈ stored, batchId row ≠ "") {id : String} :
    (∃ kept ∈ normalizedRows stored, batchId kept = id) ↔ ∃ row ∈ stored, batchId row = id := by
  constructor
  · rintro ⟨kept, member, rfl⟩
    obtain ⟨row, isRow, rfl⟩ := mem_firstByKey member
    exact ⟨row, isRow, (batchId_normalizedBatch (filled row isRow)).symm⟩
  · rintro ⟨row, member, rfl⟩
    exact firstByKey_covers (fun row member => batchId_normalizedBatch (filled row member)) member

section

variable (filledStored : ∀ row ∈ stored, batchId row ≠ "") (filledIncoming : ∀ row ∈ incoming, batchId row ≠ "")
include filledStored filledIncoming

/-- Nothing is added exactly when every incoming id is known. -/
theorem additiveRows_empty :
    (additiveRows (normalizedRows stored) (normalizedRows incoming)).isEmpty = true ↔ OnlyKnown stored incoming := by
  rw [List.isEmpty_iff, additiveRows, List.filter_eq_nil_iff]
  constructor
  · intro nothing row member
    obtain ⟨kept, isKept, same⟩ := (normalizedRows_id filledIncoming).mpr ⟨row, member, rfl⟩
    have known := nothing kept isKept
    simp only [Bool.not_eq_true', Bool.not_eq_false, List.any_eq_true, beq_iff_eq] at known
    obtain ⟨other, isOther, again⟩ := known
    exact (normalizedRows_id filledStored).mp ⟨other, isOther, again.trans same⟩
  · intro known row member
    obtain ⟨source, isSource, same⟩ := (normalizedRows_id filledIncoming).mp ⟨row, member, rfl⟩
    obtain ⟨other, isOther, again⟩ := known source isSource
    obtain ⟨kept, isKept, itsId⟩ := (normalizedRows_id filledStored).mpr ⟨other, isOther, rfl⟩
    simp only [Bool.not_eq_true', Bool.not_eq_false, List.any_eq_true, beq_iff_eq]
    exact ⟨kept, isKept, itsId.trans (again.trans same)⟩

theorem merged_source {kept : Row}
    (member : kept ∈ normalizedRows stored ++ additiveRows (normalizedRows stored) (normalizedRows incoming)) :
    kept.lookup "batch_id" = some (.str (batchId kept)) ∧ batchId kept ≠ "" := by
  have form : ∃ row, batchId row ≠ "" ∧ kept = normalizedBatch row := by
    rcases List.mem_append.mp member with old | new
    · obtain ⟨row, isRow, same⟩ := mem_firstByKey old
      exact ⟨row, filledStored row isRow, same⟩
    · obtain ⟨row, isRow, same⟩ := mem_firstByKey (List.mem_filter.mp new).1
      exact ⟨row, filledIncoming row isRow, same⟩
  obtain ⟨row, filled, rfl⟩ := form
  rw [batchId_normalizedBatch filled]
  exact ⟨normalizedBatch_id row, filled⟩

/-- With a new id, the merged list keeps the batches exactly when the stored ones carry their ids
and those of one id agree. -/
theorem merged_kept_iff : BatchesKept stored incoming
        (normalizedRows stored ++ additiveRows (normalizedRows stored) (normalizedRows incoming)) ↔
      (∀ row ∈ stored, row.lookup "batch_id" = some (.str (batchId row)) ∧
        ∀ other ∈ stored, batchId other = batchId row → SameRow other row) ∧
      ∀ row ∈ incoming, (∀ known ∈ stored, batchId known ≠ batchId row) →
        ∀ other ∈ incoming, batchId other = batchId row → SameBatch other row := by
  have distinct := merged_nodup filledStored filledIncoming
  constructor
  · intro kept
    refine ⟨fun row member => ?_, fun row member unknown other isOther same => ?_⟩
    · obtain ⟨first, isFirst, sameFirst⟩ := kept.unchanged row member
      have stated := (merged_source filledStored filledIncoming isFirst).1
      refine ⟨?_, fun other isOther same => ?_⟩
      · rw [← sameFirst "batch_id", stated, sameFirst.batchId]
      · obtain ⟨second, isSecond, sameSecond⟩ := kept.unchanged other isOther
        have equal : second = first := by
          apply List.inj_on_of_nodup_map distinct isSecond isFirst
          rw [sameSecond.batchId, same, sameFirst.batchId]
        rw [equal] at sameSecond
        exact sameSecond.symm.trans sameFirst
    · obtain ⟨first, isFirst, sameFirst⟩ := kept.added row member unknown
      obtain ⟨second, isSecond, sameSecond⟩ := kept.added other isOther (by rw [same]; exact unknown)
      have equal : second = first := by
        apply List.inj_on_of_nodup_map distinct isSecond isFirst
        rw [sameSecond.1, same, sameFirst.1]
      rw [equal] at sameSecond
      exact sameSecond.symm.trans sameFirst
  · rintro ⟨plain, agree⟩
    refine ⟨fun row member => ?_, fun row member unknown => ?_, distinct⟩
    · obtain ⟨kept, isKept, same⟩ := (normalizedRows_id filledStored).mpr ⟨row, member, rfl⟩
      obtain ⟨source, isSource, rfl⟩ := mem_firstByKey isKept
      rw [batchId_normalizedBatch (filledStored source isSource)] at same
      have form := normalizedBatch_sameRow (plain source isSource).1
      exact ⟨_, List.mem_append_left _ isKept, form.trans ((plain row member).2 source isSource same)⟩
    · obtain ⟨kept, isKept, same⟩ := (normalizedRows_id filledIncoming).mpr ⟨row, member, rfl⟩
      have isNew : kept ∈ additiveRows (normalizedRows stored) (normalizedRows incoming) := by
        apply List.mem_filter.mpr
        refine ⟨isKept, ?_⟩
        simp only [Bool.not_eq_true', List.any_eq_false, beq_iff_eq]
        intro other isOther again
        obtain ⟨known, isKnown, itsId⟩ := (normalizedRows_id filledStored).mp ⟨other, isOther, again.trans same⟩
        exact unknown known isKnown itsId
      obtain ⟨source, isSource, rfl⟩ := mem_firstByKey isKept
      have filled := filledIncoming source isSource
      rw [batchId_normalizedBatch filled] at same
      exact ⟨_, List.mem_append_right _ isNew,
        (normalizedBatch_same filled).trans (agree row member unknown source isSource same)⟩

end

end Merge

/-- The batches of the line after a resolution. -/
theorem BatchesFit.iff_of_written {new : Doc} (fieldsEq : resolvedLineFields env line data = .ok fields)
    (written : new "batches" = (fields "batches").or (line "batches")) :
    BatchesKept (batchRows (line.get "batches")) (batchRows ((data.lookup "batches").getD .null))
        (batchRows (new.get "batches")) ↔ BatchesFit line data := by
  obtain ⟨stored, offered, storedEq, offeredEq, fieldEq⟩ := resolvedLineFields_batches fieldsEq
  obtain ⟨filledStored, rfl⟩ := normalizeBatches_ok storedEq
  obtain ⟨filledIncoming, rfl⟩ := normalizeBatches_ok offeredEq
  have given : (Doc.ofList (sanitizeFields blockedLineFields data)).get "batches" =
      (data.lookup "batches").getD .null := by
    rw [Doc.get, ofList_sanitizeFields, if_neg (by decide)]
  rw [given] at fieldEq filledIncoming
  have batches : new.get "batches" = ((fields "batches").or (line "batches")).getD .null := by
    rw [Doc.get, written]
  cases mentioned : data.lookup "batches" with
  | none =>
    -- no incoming batch, and the line's own list
    rw [mentioned] at fieldEq
    rw [batches, fieldEq]
    constructor
    · intro kept
      refine ⟨fun _ => kept.distinct, fun v again => ?_, fun v again => ?_⟩
      · rw [mentioned] at again
        cases again
      · rw [mentioned] at again
        cases again
    · intro fit
      refine ⟨fun row member => ⟨row, member, fun _ => rfl⟩, fun row member => ?_, fit.unmentioned mentioned⟩
      cases member
  | some v =>
    rw [mentioned] at fieldEq filledIncoming
    simp only [Option.getD_some] at fieldEq filledIncoming ⊢
    by_cases known : OnlyKnown (batchRows (line.get "batches")) (batchRows v)
    · -- the data's list as it is
      rw [if_pos ((additiveRows_empty filledStored filledIncoming).mpr known)] at fieldEq
      rw [batches, fieldEq, Option.some_or, Option.getD_some]
      constructor
      · intro kept
        refine ⟨fun absent => ?_, fun w again _ => ?_, fun w again unknown => ?_⟩
        · rw [mentioned] at absent
          cases absent
        · cases mentioned.symm.trans again
          exact ⟨kept.unchanged, kept.distinct⟩
        · cases mentioned.symm.trans again
          exact absurd known unknown
      · intro fit
        obtain ⟨unchanged, distinct⟩ := fit.known v mentioned known
        refine ⟨unchanged, fun row member unknown => ?_, distinct⟩
        obtain ⟨other, isOther, same⟩ := known row member
        exact absurd same (unknown other isOther)
    · have fresh : ¬ (additiveRows (normalizedRows (batchRows (line.get "batches")))
          (normalizedRows (batchRows v))).isEmpty = true :=
        fun empty => known ((additiveRows_empty filledStored filledIncoming).mp empty)
      rw [if_neg fresh] at fieldEq
      rw [batches, fieldEq, Option.some_or, Option.getD_some, batchRows_rows,
        merged_kept_iff filledStored filledIncoming]
      constructor
      · intro agree
        refine ⟨fun absent => ?_, fun w again isKnown => ?_, fun w again _ => ?_⟩
        · rw [mentioned] at absent
          cases absent
        · cases mentioned.symm.trans again
          exact absurd isKnown known
        · cases mentioned.symm.trans again
          exact agree
      · exact fun fit => fit.fresh v mentioned known

/-- A resolution that is applied to a stored line keeps its batches exactly when data and line
fit. -/
theorem batches_kept_iff {env : Env} {committed s t : Store} {entityId : String} {data : List (String × Value)}
    {line : Doc} (found : s.countLines.find? (entityLookup entityId).holds = some line)
    (success : applyResolvedData env committed "count_line" entityId data s = .ok () t) :
    (∃ new, t.countLines = Collection.replaceFirst (entityLookup entityId).holds new s.countLines ∧
      BatchesKept (batchRows (line.get "batches")) (batchRows ((data.lookup "batches").getD .null))
        (batchRows (new.get "batches"))) ↔ BatchesFit line data := by
  obtain ⟨fields, u, fieldsEq, step, same⟩ := applyResolvedData_line found success
  obtain ⟨_, new, updated, written⟩ := resolvedLine_batches found fieldsEq step
  have lines : t.countLines = Collection.replaceFirst (entityLookup entityId).holds new s.countLines := by
    rw [same, updated.stored]
    rfl
  constructor
  · rintro ⟨other, otherLines, kept⟩
    have equal : other = new := replaceFirst_inj found (otherLines.symm.trans lines)
    rw [equal] at kept
    exact (BatchesFit.iff_of_written fieldsEq written).mp kept
  · intro fit
    exact ⟨new, lines, (BatchesFit.iff_of_written fieldsEq written).mpr fit⟩

def storedBatch (id : String) (quantity : ℚ) : Row := [("batch_id", .str id), ("counted_qty", .num quantity)]

def batchedLine : Doc := shortLine.set "batches" (.rows [storedBatch "B1" 1, storedBatch "B2" 3])

def batchedStore : Store := { countingStore with countLines := [batchedLine] }

def batchData (rows : List Row) : List (String × Value) := [("counted_qty", .num 4), ("batches", .rows rows)]

def applyBatches (rows : List Row) : Request Unit :=
  applyResolvedData sampleEnv batchedStore "count_line" "L1" (batchData rows)

theorem batchedLine_rows : batchRows (batchedLine.get "batches") = [storedBatch "B1" 1, storedBatch "B2" 3] := rfl

/-- A third batch is added. -/
theorem batches_kept_added : ∃ t, applyBatches [storedBatch "B3" 2] batchedStore = .ok () t ∧
    ∃ new, t.countLines = Collection.replaceFirst (entityLookup "L1").holds new batchedStore.countLines ∧
      BatchesKept [storedBatch "B1" 1, storedBatch "B2" 3] [storedBatch "B3" 2] (batchRows (new.get "batches")) := by
  obtain ⟨_, t, ran⟩ := exists_ok
    (show (applyBatches [storedBatch "B3" 2]).succeeds batchedStore = true by decide +kernel)
  have stated : ∀ row ∈ [storedBatch "B1" 1, storedBatch "B2" 3],
      row.lookup "batch_id" = some (.str (batchId row)) := by decide +kernel
  have ids : ([storedBatch "B1" 1, storedBatch "B2" 3].map batchId).Nodup := by decide +kernel
  refine ⟨t, ran, (batches_kept_iff (show _ = some batchedLine from rfl) ran).mpr ?_⟩
  constructor
  · intro absent
    cases absent
  · intro v mentioned known
    cases mentioned
    obtain ⟨other, isStored, same⟩ := known (storedBatch "B3" 2) (by decide)
    have unknown : ∀ row ∈ [storedBatch "B1" 1, storedBatch "B2" 3], batchId row ≠ batchId (storedBatch "B3" 2) := by
      decide +kernel
    rw [batchedLine_rows] at isStored
    exact absurd same (unknown other isStored)
  · intro v mentioned _
    cases mentioned
    rw [batchedLine_rows]
    refine ⟨fun row member => ⟨stated row member, fun other isStored same => ?_⟩, fun row member _ other isOther _ => ?_⟩
    · rw [List.inj_on_of_nodup_map ids isStored member same]
      exact fun _ => rfl
    · cases List.mem_singleton.mp member
      cases List.mem_singleton.mp isOther
      exact ⟨rfl, fun _ _ => rfl⟩

/-- Data with one of the two batches replaces both. -/
theorem batches_lost : ∃ t, applyBatches [storedBatch "B1" 5] batchedStore = .ok () t ∧
    t.countLines.map (·.get "batches") = [.rows [storedBatch "B1" 5]] ∧
    ¬ ∃ new, t.countLines = Collection.replaceFirst (entityLookup "L1").holds new batchedStore.countLines ∧
      BatchesKept [storedBatch "B1" 1, storedBatch "B2" 3] [storedBatch "B1" 5] (batchRows (new.get "batches")) := by
  obtain ⟨_, t, ran⟩ := exists_ok
    (show (applyBatches [storedBatch "B1" 5]).succeeds batchedStore = true by decide +kernel)
  have lists : ((applyBatches [storedBatch "B1" 5]).final batchedStore).countLines.map (·.get "batches") =
      [.rows [storedBatch "B1" 5]] := by decide +kernel
  rw [final_of_ok ran] at lists
  refine ⟨t, ran, lists, ?_⟩
  rintro ⟨new, lines, kept⟩
  have only : Collection.replaceFirst (entityLookup "L1").holds new batchedStore.countLines = [new] :=
    @Collection.replaceFirst_split _ batchedLine new [] [] (by decide +kernel) (by simp)
  rw [lines, only] at lists
  have batches : new.get "batches" = .rows [storedBatch "B1" 5] := by simpa using lists
  rw [batches] at kept
  obtain ⟨row, member, same⟩ := kept.unchanged (storedBatch "B2" 3) (by decide)
  cases List.mem_singleton.mp member
  exact absurd (same "batch_id") (by decide)

end StockVerification
