import StockVerification.MergeConservation

/-!
# What post-write validation reads

`_run_post_write_validation` looks the changed lines up again, after the write and with the
payload's own filter. An update that changes a field of its filter hides its line from that
lookup, and the bulk lookup stops at 5000 lines. The module names the lines a governed write
puts into the store and the lines it hands to the validator, and says when the second list
has all of the first.
-/

namespace StockVerification

open Foundation Action

/-- The stored lines an update selects. -/
def matchedLines (op : WriteOp) (lines : List Doc) : List Doc :=
  match op with
  | .updateOne f _ => (lines.find? f.holds).toList
  | .findOneAndUpdate f _ => (lines.find? f.holds).toList
  | .updateMany f _ => lines.filter f.holds
  | _ => []

/-- The lines a write puts into the store, in their new form. -/
def writtenLines (op : WriteOp) (result : WriteResult) (lines : List Doc) : List Doc :=
  match op with
  | .insertOne _ => result.after.toList
  | .updateOne _ u => (matchedLines op lines).filterMap u.apply
  | .findOneAndUpdate _ u => (matchedLines op lines).filterMap u.apply
  | .updateMany _ u => (matchedLines op lines).filterMap u.apply
  | _ => []

/-- The lines `_run_post_write_validation` reads back from the written store. -/
def validatedLines (ctx : WriteContext) (op : WriteOp) (result : WriteResult) (lines : List Doc) :
    List Doc :=
  if ctx.repairSkipValidation then []
  else match op with
    | .insertOne _ => result.after.toList
    | .updateOne f _ => (lines.find? f.holds).toList
    | .findOneAndUpdate f _ => (lines.find? f.holds).toList
    | .updateMany f _ => (lines.filter f.holds).take 5000
    | _ => []

/-- The store the validator looks items and records up in. -/
def validationView (env : Env) (committed s : Store) : Store :=
  match env.deployment with
  | .transactional => committed
  | .standalone => s

/-- One round of the validation loop. -/
def validateWrittenLine (env : Env) (view : Store) (line : Doc) : Except Error Unit := do
  let errors ← validateCountLine view line
  require (!(env.strictValidation && !errors.isEmpty))
    (.governance ("Validation failed for count_line: " ++ String.intercalate "; " errors))

theorem runPostWriteValidation_eq (env : Env) (committed : Store) (ctx : WriteContext)
    (op : WriteOp) (result : WriteResult) (s : Store) :
    runPostWriteValidation env committed ctx op result s = (validatedLines ctx op result s.countLines).forM
        (validateWrittenLine env (validationView env committed s)) := by
  unfold runPostWriteValidation validatedLines
  cases ctx.repairSkipValidation <;> rfl

theorem forM_success {ε α : Type} {step : α → Except ε Unit} {xs : List α}
    (success : xs.forM step = .ok ()) : ∀ x ∈ xs, step x = .ok () := by
  induction xs with
  | nil => simp
  | cons y rest ih =>
    simp only [List.forM, bind_success] at success
    obtain ⟨_, first, others⟩ := success
    intro x member
    rw [List.mem_cons] at member
    obtain rfl | later := member
    · exact first
    · exact ih others x later

variable {env : Env}

theorem validateWrittenLine_strict {view : Store} {line : Doc} (strict : env.strictValidation = true)
    (success : validateWrittenLine env view line = .ok ()) : validateCountLine view line = .ok [] := by
  simp only [validateWrittenLine, bind_success, require_ok, strict, Bool.true_and, Bool.not_not] at success
  obtain ⟨errors, validated, clean⟩ := success
  rw [validated, List.isEmpty_iff.mp clean]

variable {ctx : WriteContext} {result : WriteResult} {s : Store} {op : WriteOp}

theorem validated_of_strict {committed : Store} (strict : env.strictValidation = true)
    (success : runPostWriteValidation env committed ctx op result s = .ok ()) :
    ∀ line ∈ validatedLines ctx op result s.countLines,
      validateCountLine (validationView env committed s) line = .ok [] := by
  rw [runPostWriteValidation_eq] at success
  intro line member
  exact validateWrittenLine_strict strict (forM_success success line member)

/-- Every line the update changes still answers to the filter that selected it. -/
def KeepsFilter (op : WriteOp) (lines : List Doc) : Prop :=
  match op with
  | .updateOne f u | .findOneAndUpdate f u | .updateMany f u =>
    ∀ old ∈ matchedLines op lines, ∀ new, u.apply old = some new → f.holds new = true
  | _ => True

/-- The payload is an update or a deletion and selects no line to change. -/
def ChangesNothing (op : WriteOp) (lines : List Doc) : Prop :=
  match op with
  | .insertOne _ => False
  | _ => matchedLines op lines = []

/-- The write changes no line, or validation is not skipped, the update keeps its own filter
true and at most 5000 lines match. -/
def LookupCovers (ctx : WriteContext) (op : WriteOp) (lines : List Doc) : Prop :=
  ChangesNothing op lines ∨
    (ctx.repairSkipValidation = false ∧ KeepsFilter op lines ∧ (matchedLines op lines).length ≤ 5000)

theorem subperm_take_filter {α : Type} {p : α → Bool} {bound : Nat} {xs : List α} :
    xs.Subperm ((xs.filter p).take bound) ↔ (∀ x ∈ xs, p x = true) ∧ xs.length ≤ bound := by
  constructor
  · intro within
    have short := within.length_le
    rw [List.length_take] at short
    have fewer := List.length_filter_le p xs
    have all : (xs.filter p).length = xs.length := by omega
    exact ⟨List.length_filter_eq_length_iff.mp all, by omega⟩
  · rintro ⟨all, short⟩
    rw [List.filter_eq_self.mpr all, List.take_of_length_le short]

variable {lines : List Doc} {f : Filter}

theorem subperm_find_replaceFirst {old new : Doc} (found : lines.find? f.holds = some old) :
    [new].Subperm ((Collection.replaceFirst f.holds new lines).find? f.holds).toList ↔ f.holds new = true := by
  rw [List.singleton_subperm_iff, Option.mem_toList]
  constructor
  · intro answered
    exact List.find?_some answered
  · intro matched
    exact Collection.find_replaceFirst_same found matched

variable {after : List Doc} {u : Update}

/-- What a bulk update leaves: the changed lines are the ones the filter can still find, and
every other line is as it was. -/
theorem updateMany_ok (success : Collection.updateMany f u lines = .ok after) :
    after.filter f.holds = ((lines.filter f.holds).filterMap u.apply).filter f.holds ∧
      ((lines.filter f.holds).filterMap u.apply).length = (lines.filter f.holds).length ∧
      (∀ line ∈ after, line ∈ lines ∨ line ∈ (lines.filter f.holds).filterMap u.apply) ∧
      (∀ line ∈ (lines.filter f.holds).filterMap u.apply, line ∈ after) := by
  unfold Collection.updateMany at success
  split at success
  · next mapped =>
    cases success
    induction lines generalizing after with
    | nil =>
      cases mapped
      simp
    | cons d rest ih =>
      simp only [List.mapM_cons, Option.bind_eq_bind, Option.bind_eq_some_iff, Option.pure_def,
        Option.some.injEq] at mapped
      obtain ⟨head, first, tail, others, rfl⟩ := mapped
      obtain ⟨same, sizes, sources, kept⟩ := ih others
      by_cases matched : f.holds d = true
      · rw [if_pos matched] at first
        simp only [List.filter_cons_of_pos matched, List.filterMap_cons, first, List.length_cons, sizes, List.mem_cons]
        refine ⟨?_, trivial, ?_, ?_⟩
        · simp only [List.filter_cons, same]
        · rintro line (rfl | later)
          · exact .inr (.inl rfl)
          · exact (sources line later).imp .inr .inr
        · rintro line (rfl | later)
          · exact .inl rfl
          · exact .inr (kept line later)
      · rw [if_neg matched] at first
        cases first
        rw [List.filter_cons_of_neg matched, List.filter_cons_of_neg matched]
        refine ⟨same, sizes, ?_, fun line member => List.mem_cons_of_mem _ (kept line member)⟩
        intro line member
        rw [List.mem_cons] at member
        obtain rfl | later := member
        · exact .inl List.mem_cons_self
        · exact (sources line later).imp (List.mem_cons_of_mem _) id
  · cases success

/-- How the lines after a write relate to the lines before it. -/
structure WriteTrace (ctx : WriteContext) (op : WriteOp) (result : WriteResult)
    (lines after : List Doc) : Prop where
  sources : ∀ line ∈ after, line ∈ lines ∨ line ∈ writtenLines op result lines
  stored : ∀ line ∈ writtenLines op result lines, line ∈ after
  covered : (writtenLines op result lines).Subperm (validatedLines ctx op result after) ↔ LookupCovers ctx op lines

/-- A single update, under either of its names. -/
theorem writeTrace_single {answer : Option (Doc × Doc)}
    (single : op = .updateOne f u ∨ op = .findOneAndUpdate f u)
    (updated : Collection.updateOne countLineIndexes f u lines = .ok (answer, after)) :
    WriteTrace ctx op result lines after := by
  have selected : matchedLines op lines = (lines.find? f.holds).toList := by
    rcases single with rfl | rfl <;> rfl
  have written : writtenLines op result lines = (matchedLines op lines).filterMap u.apply := by
    rcases single with rfl | rfl <;> rfl
  have validated : validatedLines ctx op result after =
      if ctx.repairSkipValidation then [] else (after.find? f.holds).toList := by
    rcases single with rfl | rfl <;> rfl
  have nothing : ChangesNothing op lines ↔ matchedLines op lines = [] := by
    rcases single with rfl | rfl <;> rfl
  have keeps : KeepsFilter op lines ↔ ∀ old ∈ matchedLines op lines, ∀ new, u.apply old = some new →
      f.holds new = true := by
    rcases single with rfl | rfl <;> rfl
  obtain ⟨absent, _, unchanged⟩ | ⟨old, new, found, applied, _, _, rfl⟩ := Collection.updateOne_ok updated
  · have empty : matchedLines op lines = [] := by rw [selected, absent]; rfl
    have silent : writtenLines op result lines = [] := by rw [written, empty]; rfl
    refine ⟨fun line member => .inl (unchanged ▸ member), by simp [silent], ?_⟩
    rw [silent]
    exact iff_of_true List.nil_subperm (.inl (nothing.mpr empty))
  · have only : matchedLines op lines = [old] := by rw [selected, found]; rfl
    have wrote : writtenLines op result lines = [new] := by
      rw [written, only, List.filterMap_cons, applied, List.filterMap_nil]
    refine ⟨?_, ?_, ?_⟩
    · intro line member
      rw [wrote, List.mem_singleton]
      exact Collection.mem_replaceFirst member
    · intro line member
      rw [wrote, List.mem_singleton] at member
      rw [member]
      exact Collection.mem_replaceFirst_of_find found
    · rw [wrote, validated, LookupCovers, nothing, keeps, only]
      cases ctx.repairSkipValidation with
      | true => simp
      | false =>
        rw [if_neg (by decide), subperm_find_replaceFirst found]
        simp [applied]

theorem writeTrace_many (updated : Collection.updateMany f u lines = .ok after) :
    WriteTrace ctx (.updateMany f u) result lines after := by
  obtain ⟨same, sizes, sources, kept⟩ := updateMany_ok updated
  refine ⟨sources, kept, ?_⟩
  simp only [writtenLines, validatedLines, matchedLines, LookupCovers, ChangesNothing, KeepsFilter]
  cases ctx.repairSkipValidation with
  | true =>
    rw [if_pos rfl, List.subperm_nil, ← List.length_eq_zero_iff, sizes, List.length_eq_zero_iff]
    simp
  | false =>
    rw [if_neg (by decide), same, subperm_take_filter, sizes]
    constructor
    · rintro ⟨all, short⟩
      refine .inr ⟨rfl, ?_, short⟩
      intro old member new applied
      exact all new (List.mem_filterMap.mpr ⟨old, member, applied⟩)
    · rintro (empty | ⟨_, keeps, short⟩)
      · simp [empty]
      · refine ⟨?_, short⟩
        intro new member
        obtain ⟨old, selected, applied⟩ := List.mem_filterMap.mp member
        exact keeps old selected new applied

theorem mem_upsert {new line : Doc} (member : line ∈ Collection.upsert f (fun _ => new) lines) :
    line ∈ lines ∨ line = new := by
  unfold Collection.upsert at member
  split at member
  · simpa using member
  · exact Collection.mem_replaceFirst member

theorem mem_upsert_new (f : Filter) (new : Doc) (lines : List Doc) :
    new ∈ Collection.upsert f (fun _ => new) lines := by
  unfold Collection.upsert
  split
  · simp
  · next old found => exact Collection.mem_replaceFirst_of_find found

theorem saveCountLine_mem {document stored : Doc} (success : saveCountLine env document lines = .ok (stored, after)) :
    (∀ line ∈ after, line ∈ lines ∨ line = stored) ∧ stored ∈ after := by
  unfold saveCountLine at success
  split at success
  · simp only at success
    split at success
    · cases success
    · cases success
      exact ⟨fun line member => mem_upsert member, mem_upsert_new _ _ _⟩
  · simp only [bind_success, pure_success, Prod.mk.injEq] at success
    obtain ⟨saved, inserted, rfl, rfl⟩ := success
    obtain ⟨_, rfl⟩ := Collection.insertOne_ok inserted
    exact ⟨by simp, by simp⟩

theorem writeTrace_insert {document : Doc}
    (executed : executeOnLines env (.insertOne document) lines = .ok (result, after)) :
    WriteTrace ctx (.insertOne document) result lines after := by
  simp only [executeOnLines, bind_success, pure_success, Prod.mk.injEq] at executed
  obtain ⟨⟨stored, saved⟩, success, rfl, rfl⟩ := executed
  obtain ⟨sources, kept⟩ := saveCountLine_mem success
  refine ⟨by simpa [writtenLines] using sources, by simpa [writtenLines] using kept, ?_⟩
  simp only [writtenLines, validatedLines, LookupCovers, ChangesNothing, KeepsFilter, matchedLines]
  cases ctx.repairSkipValidation <;> simp

theorem writeTrace_silent (silent : writtenLines op result lines = [])
    (nothing : ChangesNothing op lines) (within : ∀ line ∈ after, line ∈ lines) :
    WriteTrace ctx op result lines after := by
  refine ⟨fun line member => .inl (within line member), by simp [silent], ?_⟩
  rw [silent]
  exact iff_of_true List.nil_subperm (.inl nothing)

theorem writeTrace_execute (executed : executeOnLines env op lines = .ok (result, after)) :
    WriteTrace ctx op result lines after := by
  cases op with
  | insertOne document => exact writeTrace_insert executed
  | updateOne f u | findOneAndUpdate f u =>
    simp only [executeOnLines, bind_success, pure_success, Prod.mk.injEq] at executed
    obtain ⟨⟨answer, saved⟩, updated, rfl, rfl⟩ := executed
    exact writeTrace_single (by simp) updated
  | updateMany f u =>
    simp only [executeOnLines, bind_success, pure_success, Prod.mk.injEq] at executed
    obtain ⟨saved, updated, rfl, rfl⟩ := executed
    exact writeTrace_many updated
  | deleteOne f =>
    cases executed
    exact writeTrace_silent rfl rfl fun line member => List.mem_of_mem_eraseP member
  | deleteMany f =>
    cases executed
    exact writeTrace_silent rfl rfl fun line member => List.mem_of_mem_filter member
  | unsupported name =>
    cases executed
    exact writeTrace_silent rfl rfl fun line member => member

/-- The lookup of the payload that the checks leave of `op` covers what it writes. -/
def PostWriteCovered (env : Env) (ctx : WriteContext) (op : WriteOp) (s : Store) : Prop :=
  ∀ p, prepareWrite env ctx op s = .ok p → LookupCovers ctx p.op s.countLines

theorem processWriteCore_validated {committed u : Store}
    (success : processWriteCore env committed ctx op s = .ok result u) :
    ∃ p t, prepareWrite env ctx op s = .ok p ∧ executeCountLineOperation env p.op s = .ok (result, t) ∧
      runPostWriteValidation env committed ctx p.op result t = .ok () ∧
      u.countLines = t.countLines := by
  obtain ⟨p, t, prepared, executed, later⟩ := processWriteCore_ok success
  refine ⟨p, t, prepared, executed, ?_, later.countLines⟩
  simp only [processWriteCore, bind_ok, reads_ok, transacts_ok] at success
  obtain ⟨p', _, ⟨prepared', rfl⟩, result', t', executed', _, _, ⟨validated, _⟩, _⟩ := success
  rw [prepared] at prepared'
  cases prepared'
  rw [executed] at executed'
  cases executed'
  exact validated

/-- A successful governed write in strict mode: what it stored, what it validated, and that
the second has all of the first exactly when the lookup covers the write. -/
theorem post_write_validation_covers {env : Env} {committed s u : Store} {ctx : WriteContext}
    {op : WriteOp} {result : WriteResult} (strict : env.strictValidation = true)
    (success : processWriteCore env committed ctx op s = .ok result u) :
    ∃ p t, prepareWrite env ctx op s = .ok p ∧
      executeCountLineOperation env p.op s = .ok (result, t) ∧ u.countLines = t.countLines ∧
      (∀ line ∈ u.countLines, line ∈ s.countLines ∨ line ∈ writtenLines p.op result s.countLines) ∧
      (∀ line ∈ writtenLines p.op result s.countLines, line ∈ u.countLines) ∧
      (∀ line ∈ validatedLines ctx p.op result t.countLines,
        validateCountLine (validationView env committed t) line = .ok []) ∧
      ((writtenLines p.op result s.countLines).Subperm
          (validatedLines ctx p.op result t.countLines) ↔ PostWriteCovered env ctx op s) := by
  obtain ⟨p, t, prepared, executed, validated, same⟩ := processWriteCore_validated success
  obtain ⟨lines, ran, rfl⟩ := executeCountLineOperation_ok executed
  have trace : WriteTrace ctx p.op result s.countLines lines := writeTrace_execute ran
  refine ⟨p, _, prepared, executed, same, ?_, ?_, validated_of_strict strict validated, ?_⟩
  · rw [same]
    exact trace.sources
  · rw [same]
    exact trace.stored
  · rw [PostWriteCovered, prepared]
    simp only [Except.ok.injEq, forall_eq']
    exact trace.covered

def strictEnv : Env := { sampleEnv with strictValidation := true }

def changedLine : Doc := (twoLineStore 4).countLines.headD Doc.empty

def changedLineContext : WriteContext :=
  lineContext counter changedLine (countingStore.sessions.headD Doc.empty) none

/-- The route's payload for a recount to 7: the filter names the version that the
update increments. -/
def versionedChange : WriteOp :=
  .findOneAndUpdate (versionedLineFilter changedLine)
    { set := Doc.ofList [("counted_qty", .num 7), ("variance", .num (-5)),
        ("updated_at", .date strictEnv.now), ("updated_by", .str counter.username)]
      inc := [("version", 1)] }

/-- The same change, selected by the object id alone. -/
def plainChange : WriteOp :=
  .findOneAndUpdate (.eq "_id" (.oid "b1"))
    { set := Doc.ofList [("counted_qty", .num 7), ("variance", .num (-5)),
        ("updated_at", .date strictEnv.now), ("updated_by", .str counter.username)]
      inc := [("version", 1)] }

/-- How many lines a write stores and how many of the stored ones it validates. -/
def lookupSizes (env : Env) (ctx : WriteContext) (op : WriteOp) (s : Store) : Option (Nat × Nat) :=
  match prepareWrite env ctx op s with
  | .ok p => match executeCountLineOperation env p.op s with
    | .ok (result, t) => some ((writtenLines p.op result s.countLines).length,
        (validatedLines ctx p.op result t.countLines).length)
    | .error _ => none
  | .error _ => none

theorem lookupSizes_of_ok {t : Store} {p : Prepared} (prepared : prepareWrite env ctx op s = .ok p)
    (executed : executeCountLineOperation env p.op s = .ok (result, t)) :
    lookupSizes env ctx op s = some ((writtenLines p.op result s.countLines).length,
      (validatedLines ctx p.op result t.countLines).length) := by
  simp only [lookupSizes, prepared, executed]

def runChange (op : WriteOp) : Request WriteResult :=
  processWriteCore strictEnv (twoLineStore 4) changedLineContext op

/-- Selected by its object id, the line is found again and validated. -/
theorem post_write_validation_plainChange : ∃ result u p t,
    runChange plainChange (twoLineStore 4) = .ok result u ∧
    prepareWrite strictEnv changedLineContext plainChange (twoLineStore 4) = .ok p ∧
    executeCountLineOperation strictEnv p.op (twoLineStore 4) = .ok (result, t) ∧
    ((writtenLines p.op result (twoLineStore 4).countLines).Subperm
        (validatedLines changedLineContext p.op result t.countLines) ↔
      PostWriteCovered strictEnv changedLineContext plainChange (twoLineStore 4)) := by
  obtain ⟨result, u, ran⟩ := exists_ok
    (show (runChange plainChange).succeeds (twoLineStore 4) = true by decide +kernel)
  obtain ⟨p, t, prepared, executed, _, _, _, _, covered⟩ :=
    post_write_validation_covers (show strictEnv.strictValidation = true from rfl) ran
  exact ⟨result, u, p, t, ran, prepared, executed, covered⟩

/-- The write of `update_count_line` succeeds in strict mode and validates no line. -/
theorem post_write_validation_misses_versioned : ∃ result u,
    runChange versionedChange (twoLineStore 4) = .ok result u ∧
    ¬ ∃ p t, prepareWrite strictEnv changedLineContext versionedChange (twoLineStore 4) = .ok p ∧
      executeCountLineOperation strictEnv p.op (twoLineStore 4) = .ok (result, t) ∧
      (writtenLines p.op result (twoLineStore 4).countLines).Subperm
        (validatedLines changedLineContext p.op result t.countLines) := by
  obtain ⟨result, u, ran⟩ := exists_ok
    (show (runChange versionedChange).succeeds (twoLineStore 4) = true by decide +kernel)
  refine ⟨result, u, ran, ?_⟩
  rintro ⟨p, t, prepared, executed, within⟩
  have sizes : lookupSizes strictEnv changedLineContext versionedChange (twoLineStore 4) =
      some (1, 0) := by decide +kernel
  rw [lookupSizes_of_ok prepared executed, Option.some.injEq, Prod.mk.injEq] at sizes
  have fits := within.length_le
  omega

end StockVerification
