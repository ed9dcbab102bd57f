import StockVerification.Durability
import StockVerification.LineEffects
import StockVerification.Foundation.Run

/-!
# The variance invariant

A line that carries an expected quantity states the difference to its count, and
the expected quantity is the one frozen for its item. The write core stamps both
on inserts and on `update_one`; `find_one_and_update` is passed through, so
`update_count_line` (which measures against the live stock) and
`merge_count_lines` (which leaves the variance alone) keep the invariant only
under the conditions stated here.
-/
namespace StockVerification

open Foundation Foundation.Action

/-- The operations that change counted quantities. -/
inductive CountOp where
  | create (user : User) (body : CountLineCreate)
  | addQuantity (user : User) (lineId : String) (change : QuantityChange)
  | update (user : User) (lineId : String) (change : QuantityChange)
  | merge (user : User) (sourceIds : List String) (targetId : String)
  | syncBatch (rackOwner : String → Option String) (user : User) (records : List (Env × SyncRecord))
  | resolve (conflictId resolvedBy : String) (resolution : ConflictResolution)
      (merged : List (String × Value))

/-- The store after one operation, successful or not. -/
def CountOp.step (s : Store) (op : Env × CountOp) : Store :=
  match op.2 with
  | .create user body => (createCountLine op.1 user body).final s
  | .addQuantity user lineId change => (addQuantityToCountLine op.1 user lineId change).final s
  | .update user lineId change => (updateCountLine op.1 user lineId change).final s
  | .merge user sourceIds targetId => (mergeCountLines op.1 user sourceIds targetId).final s
  | .syncBatch rackOwner user records => (StockVerification.syncBatch rackOwner user records).final s
  | .resolve conflictId resolvedBy resolution merged =>
      (resolveConflict op.1 conflictId resolvedBy resolution merged).final s

def CarriesErpQty (line : Doc) : Prop := line.get "erp_qty" ≠ .null

/-- The variance is the difference, and the expected quantity is the frozen one
where the session has a baseline. -/
def VarianceExact (s : Store) (line : Doc) : Prop :=
  CarriesErpQty line → ∃ e, line.get "erp_qty" = .num e ∧
    line.get "variance" = .num (asFloat (line.get "counted_qty") - e) ∧
    ∀ frozen, frozenQty s (line.get "session_id").textOrEmpty
      (Text.strip (line.get "item_code").textOrEmpty) = some frozen → e = frozen

def IsNamed (sessionId : String) : Prop := sessionId ≠ "" ∧ Text.strip sessionId = sessionId

/-- What the run maintains of a line: it also names its session properly. -/
structure LineSound (s : Store) (line : Doc) : Prop where
  named : ∃ sessionId, line.get "session_id" = .str sessionId ∧ IsNamed sessionId
  exact : VarianceExact s line

def VarianceSound (s : Store) : Prop := ∀ line ∈ s.countLines, LineSound s line

variable {s : Store}

theorem LineSound.congr {a b : Doc} (sound : LineSound s a) (erp : b "erp_qty" = a "erp_qty")
    (variance : b "variance" = a "variance") (counted : asFloat (b.get "counted_qty") = asFloat (a.get "counted_qty"))
    (session : b "session_id" = a "session_id") (item : b "item_code" = a "item_code") : LineSound s b := by
  refine ⟨?_, ?_⟩
  · rw [Doc.get_congr session]
    exact sound.named
  · intro carries
    rw [CarriesErpQty, Doc.get_congr erp] at carries
    rw [Doc.get_congr erp, Doc.get_congr variance, counted, Doc.get_congr session, Doc.get_congr item]
    exact sound.exact carries

variable {t : Store}

theorem frozenQty_congr (snapshots : t.sessionSnapshots = s.sessionSnapshots)
    (stocks : t.stockSnapshots = s.stockSnapshots) (sessionId itemCode : String) :
    frozenQty t sessionId itemCode = frozenQty s sessionId itemCode := by
  simp only [frozenQty, resolveBaseline, snapshots, stocks]

variable {line : Doc}

theorem LineSound.store (sound : LineSound s line) (snapshots : t.sessionSnapshots = s.sessionSnapshots)
    (stocks : t.stockSnapshots = s.stockSnapshots) : LineSound t line := by
  refine ⟨sound.named, fun carries => ?_⟩
  obtain ⟨e, erp, variance, frozen⟩ := sound.exact carries
  refine ⟨e, erp, variance, fun q found => frozen q ?_⟩
  rw [← found]
  exact (frozenQty_congr snapshots stocks _ _).symm

theorem ofLines_varianceSound : OfLines VarianceSound := by
  rintro s t ⟨_, _, _, _, _, _, rfl⟩ sound line member
  exact (sound line member).store rfl rfl

variable {f : Filter} {old new : Doc}

theorem VarianceSound.updated (sound : VarianceSound s) {u : Update}
    (line : UpdatedLine f u s t old new) (newSound : LineSound s new) : VarianceSound t := by
  intro other member
  rw [line.stored] at member ⊢
  rcases Collection.mem_replaceFirst member with kept | rfl
  · exact (sound other kept).store rfl rfl
  · exact newSound.store rfl rfl

theorem textOrEmpty_orElse_null (v : Value) : (v.orElse .null).textOrEmpty = v.textOrEmpty := by
  by_cases h : v.truthy
  · simp [Value.orElse, h]
  · simp [Value.orElse, Value.textOrEmpty, h]

theorem floatOrError_num (q : ℚ) : floatOrError (.num q) = .ok q := by
  simp [floatOrError]

variable {ctx : WriteContext} {document : Doc} {sessionId : String}

theorem governedSessionId_named
    (session : document.get "session_id" = .str sessionId) (named : IsNamed sessionId) :
    governedSessionId document ctx = sessionId := by
  have truthy : (Value.str sessionId).truthy = true := by simp [named.1]
  simp only [governedSessionId, session, Value.orElse, truthy, if_true, Value.textOrEmpty, Value.text]
  exact named.2

theorem governedItemCode_plain (plain : ctx.itemCode = .null) :
    governedItemCode document ctx = Text.strip (document.get "item_code").textOrEmpty := by
  rw [governedItemCode, plain, textOrEmpty_orElse_null]

variable {q : ℚ}

theorem evaluateGovernance_variance {e : Evaluation}
    (plain : ctx.itemCode = .null) (session : document.get "session_id" = .str sessionId) (named : IsNamed sessionId)
    (counted : document.get "counted_qty" = .num q) (success : evaluateGovernanceForDocument s ctx document = .ok e) :
    ∃ expected, e.document "erp_qty" = some (.num expected) ∧ e.decision.variance = q - expected ∧
      frozenQty s sessionId (Text.strip (document.get "item_code").textOrEmpty) = some expected := by
  obtain ⟨countedQty, expected, countedEq, _, stamped, decided⟩ :=
    evaluateGovernanceForDocument_ok success
  rw [governedSessionId_named session named, governedItemCode_plain plain] at stamped
  obtain ⟨frozen, erp⟩ := stampBaseline_session named.1 stamped
  rw [counted, floatOrError_num] at countedEq
  cases countedEq
  exact ⟨expected, erp, (evaluatePolicy_ok decided).1, frozen⟩

variable {env : Env}

/-- A governed insert into a named session stores a sound line. -/
theorem VarianceSound.insert (sound : VarianceSound s)
    (plain : ctx.itemCode = .null) (noId : document "_id" = none)
    (session : document "session_id" = some (.str sessionId)) (named : IsNamed sessionId)
    (counted : document "counted_qty" = some (.num q))
    (step : WriteStep env ctx (.insertOne document) s t) : VarianceSound t := by
  obtain ⟨p, result, prepared, executed⟩ := step
  obtain ⟨line, inserted, rfl, _, _, _⟩ := insertOne_effect noId prepared executed
  have hasQty : document.has "counted_qty" = true := by simp [Doc.has, counted]
  obtain ⟨hash, e, evaluated, fields⟩ := inserted.governed hasQty
  have sessionEq : (document.set "semantic_hash" hash).get "session_id" = .str sessionId := by
    rw [Doc.get_eq, Doc.set_other _ _ (by decide), session, Option.getD_some]
  have countedEq : (document.set "semantic_hash" hash).get "counted_qty" = .num q := by
    rw [Doc.get_eq, Doc.set_other _ _ (by decide), counted, Option.getD_some]
  obtain ⟨expected, erp, variance, frozen⟩ :=
    evaluateGovernance_variance plain sessionEq named countedEq evaluated
  have lineErp : line.get "erp_qty" = .num expected := by
    refine Doc.get_of_some ?_
    rw [fields "erp_qty" (by decide), applyAuthoritativeFields_other (by decide), erp]
  have lineVariance : line.get "variance" = .num (q - expected) := by
    refine Doc.get_of_some ?_
    rw [fields "variance" (by decide), ← variance]
    exact applyAuthoritativeFields_decided (by simp [decisionFields])
  have lineCounted : line.get "counted_qty" = .num q := by
    refine Doc.get_of_some ?_
    rw [inserted.other _ (by decide) (by decide), counted]
  have lineSession : line.get "session_id" = .str sessionId := by
    refine Doc.get_of_some ?_
    rw [inserted.other _ (by decide) (by decide), session]
  have lineItem : line.get "item_code" = (document.set "semantic_hash" hash).get "item_code" := by
    rw [Doc.get_eq, Doc.get_eq, inserted.other _ (by decide) (by decide), Doc.set_other _ _ (by decide)]
  have lineSound : LineSound s line := by
    refine ⟨⟨sessionId, lineSession, named⟩, fun _ => ⟨expected, lineErp, ?_, ?_⟩⟩
    · rw [lineVariance, lineCounted]
      rfl
    · intro other found
      rw [lineSession, lineItem] at found
      rw [Value.textOrEmpty_str, frozen] at found
      exact Option.some.inj found
  intro other member
  simp only [Store.withLines, List.mem_append, List.mem_singleton] at member
  rcases member with kept | rfl
  · exact (sound other kept).store rfl rfl
  · exact lineSound.store rfl rfl

def varianceNames : List String := ["erp_qty", "variance", "counted_qty", "session_id", "item_code"]

theorem VarianceSound.supersede {username : String} {successor : Doc} (sound : VarianceSound s)
    (plain : ctx.transition = none)
    (step : WriteStep env ctx (.updateOne f (.ofSet (supersededFields env username successor))) s t) :
    VarianceSound t := by
  obtain ⟨stamped, old, new, line, kept, _, _⟩ := supersede_effect plain step
  have same : ∀ field ∈ varianceNames, new field = old field := by
    intro field member
    refine kept field ?_ ?_ <;> (revert field; decide)
  refine sound.updated line ((sound old line.mem).congr (same _ (by decide)) (same _ (by decide)) ?_
    (same _ (by decide)) (same _ (by decide)))
  rw [Doc.get_congr (same "counted_qty" (by decide))]

theorem LineSound.remeasured (sound : LineSound s old) (erp : new "erp_qty" = old "erp_qty")
    (session : new "session_id" = old "session_id") (item : new "item_code" = old "item_code")
    (counted : asFloat (new.get "counted_qty") = q)
    (variance : ∀ e, old.get "erp_qty" = .num e → old.get "variance" = .num (asFloat (old.get "counted_qty") - e) →
      new.get "variance" = .num (q - e)) :
    LineSound s new := by
  refine ⟨?_, fun carries => ?_⟩
  · rw [Doc.get_congr session]
    exact sound.named
  · rw [CarriesErpQty, Doc.get_congr erp] at carries
    obtain ⟨e, erpEq, exact, frozen⟩ := sound.exact carries
    rw [Doc.get_congr erp, Doc.get_congr session, Doc.get_congr item, counted]
    exact ⟨e, erpEq, variance e erpEq exact, frozen⟩

variable {user : User}

theorem VarianceSound.added {qty : ℚ} {change : QuantityChange} (sound : VarianceSound s)
    (step : WriteStep env ctx (.findOneAndUpdate f (addQuantityUpdate env user qty change)) s t) : VarianceSound t := by
  obtain ⟨stamped, old, new, line, kept, counted, variance⟩ := addQuantity_effect step
  refine sound.updated line ((sound old line.mem).remeasured
    (q := asFloat (old.get "counted_qty") + qty) (kept _ (by decide)) (kept _ (by decide))
    (kept _ (by decide)) (by rw [counted]; rfl) ?_)
  intro e _ exact
  rw [variance, exact]
  simp only [asFloat, Value.number, Option.getD_some, Value.num.injEq]
  ring

/-- A restated quantity, with the variance measured against the line's own expected
quantity. -/
theorem VarianceSound.restated {fields : Doc} {change : QuantityChange} (sound : VarianceSound s)
    (agrees : change.qty = none ∨ ∀ old e, s.countLines.find? f.holds = some old → old.get "erp_qty" = .num e →
      liveErpQty (erpItemForExistingLine s line) line = .ok e)
    (fieldsEq : updateCountLineFields env user line change s = .ok fields)
    (step : WriteStep env ctx (.findOneAndUpdate f { set := fields, inc := [("version", 1)] }) s t) :
    VarianceSound t := by
  obtain ⟨stamped, old, new, updated, kept, unchanged | changed⟩ := updateCountLine_effect fieldsEq step
  · obtain ⟨_, counted, variance⟩ := unchanged
    exact sound.updated updated ((sound old updated.mem).congr (kept _ (by decide)) variance
      (by rw [Doc.get_congr counted]) (kept _ (by decide)) (kept _ (by decide)))
  · obtain ⟨qty, measured, given, measuredEq, counted, variance⟩ := changed
    refine sound.updated updated ((sound old updated.mem).remeasured (q := qty) (kept _ (by decide))
      (kept _ (by decide)) (kept _ (by decide)) (by rw [Doc.get_of_some counted]; rfl) ?_)
    intro e erp _
    have same : measured = e := by
      rw [agrees.resolve_left (by simp [given]) old e updated.found erp] at measuredEq
      exact (Except.ok.inj measuredEq).symm
    rw [Doc.get_of_some variance, same]

def ExpectsNothing (targetId : String) (s : Store) : Prop :=
  ∀ line ∈ s.countLines, (Filter.eq "id" (.str targetId)).holds line → ¬ CarriesErpQty line

variable {targetId : String}

theorem ExpectsNothing.updated {u : Update} (nothing : ExpectsNothing targetId s)
    (line : UpdatedLine f u s t old new) (id : new "id" = old "id")
    (erp : new "erp_qty" = old "erp_qty") : ExpectsNothing targetId t := by
  rw [line.stored]
  intro other member matched
  rcases Collection.mem_replaceFirst member with kept | rfl
  · exact nothing other kept matched
  · rw [CarriesErpQty, Doc.get_congr erp]
    exact nothing old line.mem (by rwa [← holds_eq_congr id])

/-- What a merge needs: nothing is stored, the target expects nothing, or the sources
of its session are empty. -/
def MergeNeutral (env : Env) (sourceIds : List String) (targetId : String) (s : Store) : Prop :=
  env.deployment = .transactional ∨ ExpectsNothing targetId s ∨
    ∀ target, s.countLines.find? (Filter.eq "id" (.str targetId)).holds = some target →
      EmptySources sourceIds targetId (target.get "session_id").textOrEmpty s

/-- A target that expects nothing may take any quantity. -/
theorem mergeKeeps_expectsNothing {sourceId : String} {target targetSession : Doc} :
    MergeKeeps (fun t => VarianceSound t ∧ ExpectsNothing targetId t) env user targetId sourceId target
      targetSession s where
  target := by
    rintro t t' source qty - - - - - - ⟨sound, nothing⟩ step
    obtain ⟨stamped, old, new, line, kept, _, _⟩ := mergeTarget_effect step
    have free : ¬ CarriesErpQty new := by
      rw [CarriesErpQty, Doc.get_congr (kept "erp_qty" (by decide))]
      exact nothing old line.mem (List.find?_some line.found)
    refine ⟨sound.updated line ⟨?_, fun carries => absurd carries free⟩,
      nothing.updated line (kept _ (by decide)) (kept _ (by decide))⟩
    rw [Doc.get_congr (kept "session_id" (by decide))]
    exact (sound old line.mem).named
  source := by
    rintro t t' source - ⟨sound, nothing⟩ step
    obtain ⟨f, stamped, old, new, line, kept⟩ := mergeSource_effect step
    refine ⟨sound.updated line ((sound old line.mem).congr (kept _ (by decide)) (kept _ (by decide)) ?_
      (kept _ (by decide)) (kept _ (by decide))),
      nothing.updated line (kept _ (by decide)) (kept _ (by decide))⟩
    rw [Doc.get_congr (kept "counted_qty" (by decide))]

theorem VarianceSound.merge {sourceIds : List String} (sound : VarianceSound s)
    (neutral : MergeNeutral env sourceIds targetId s) :
    VarianceSound ((mergeCountLines env user sourceIds targetId).final s) := by
  rcases neutral with transactional | nothing | empty
  · exact final_mergeTransactional ofLines_varianceSound sound transactional
  · have free : OfLines (ExpectsNothing targetId) := by
      rintro s t ⟨_, _, _, _, _, _, rfl⟩ holds
      exact holds
    exact (final_mergeRounds (ofLines_varianceSound.and free) ⟨sound, nothing⟩
      fun _ _ _ _ _ _ => mergeKeeps_expectsNothing).1
  · refine final_mergeEmpty ofLines_varianceSound sound empty ?_
    intro f u t t' old new line kept counted soundT
    exact soundT.updated line ((soundT old line.mem).congr (kept _ (by decide)) (kept _ (by decide))
      counted (kept _ (by decide)) (kept _ (by decide)))

/-- What a resolution needs of the line it changes: a new quantity (the write core
stamps the rest), or a line that expects nothing, or data that repeats the line's
variance and item. -/
def ResolutionNeutral (line : Doc) (data : List (String × Value)) : Prop :=
  ChangesQuantity line data ∨ ¬ CarriesErpQty line ∨
    ∀ field ∈ ["variance", "item_code"], ∀ v, data.lookup field = some v → line field = some v

/-- A governed `update_one` of a line in a named session restamps it. -/
theorem LineSound.governed {checked set : Doc} (sound : LineSound s old) (plain : ctx.itemCode = .null)
    (counted : checked "counted_qty" = some (.num q)) (noErp : checked "erp_qty" = none)
    (noSession : checked "session_id" = none) (governed : GovernedSet env ctx s old checked set)
    (applied : ∀ field, new field = (set field).or (old field)) : LineSound s new := by
  obtain ⟨e, evaluated, rfl⟩ := governed.evaluated
  obtain ⟨sessionId, session, named⟩ := sound.named
  have mergedSession : (old.update checked).get "session_id" = .str sessionId := by
    rw [← session, Doc.get_eq, Doc.update_apply, noSession]
    rfl
  have mergedCounted : (old.update checked).get "counted_qty" = .num q := by
    rw [Doc.get_eq, Doc.update_apply, counted]
    rfl
  obtain ⟨expected, erp, variance, frozen⟩ :=
    evaluateGovernance_variance plain mergedSession named mergedCounted evaluated
  have newErp : new.get "erp_qty" = .num expected := by
    refine Doc.get_of_some ?_
    rw [applied, applyAuthoritativeFields_other (by decide), copyBaselineFields_erp noErp erp]
    rfl
  have newVariance : new.get "variance" = .num (q - expected) := by
    refine Doc.get_of_some ?_
    rw [applied, ← variance,
      applyAuthoritativeFields_decided (v := .num e.decision.variance) (by simp [decisionFields])]
    rfl
  have newOther : ∀ field ∈ ["counted_qty", "session_id", "item_code"],
      new.get field = (old.update checked).get field := by
    intro field member
    have other : field ∉ authoritativeNames ∧ field ≠ "erp_qty" ∧ field ≠ "baseline_hash" := by
      revert field
      decide
    refine Doc.get_congr ?_
    rw [applied, applyAuthoritativeFields_other other.1, copyBaselineFields_other other.2.1 other.2.2]
    rfl
  have newSession : new.get "session_id" = .str sessionId := by
    rw [newOther _ (by simp), mergedSession]
  refine ⟨⟨sessionId, newSession, named⟩, fun _ => ⟨expected, newErp, ?_, ?_⟩⟩
  · rw [newVariance, newOther "counted_qty" (by simp), mergedCounted]
    rfl
  · intro other found
    rw [newSession, newOther "item_code" (by simp), Value.textOrEmpty_str, frozen] at found
    exact (Option.some.inj found)

/-- Resolving a conflict on a line keeps the invariant. -/
theorem VarianceSound.resolved {entityId : String} {fields : Doc} {data : List (String × Value)}
    (sound : VarianceSound s) (found : s.countLines.find? (entityLookup entityId).holds = some line)
    (neutral : ResolutionNeutral line data) (fieldsEq : resolvedLineFields env line data = .ok fields)
    (step : WriteStep env (resolverContext line) (.updateOne (entityLookup entityId) (.ofSet fields)) s t) :
    VarianceSound t := by
  obtain ⟨u, new, updated, effect⟩ := resolve_effect found fieldsEq step
  have lineSound := sound line updated.mem
  refine sound.updated updated ?_
  rcases effect with ⟨q, checked, counted, named, governed, applied⟩ | ⟨unchanged, counted, fields⟩
  · refine lineSound.governed rfl counted ?_ ?_ governed applied
    · rw [named _ (by decide) (by decide), if_pos (by decide)]
    · rw [named _ (by decide) (by decide), if_pos (by decide)]
  · have erp : new "erp_qty" = line "erp_qty" := by
      rw [fields _ (by decide) (by decide), if_pos (by decide)]
      rfl
    have session : new "session_id" = line "session_id" := by
      rw [fields _ (by decide) (by decide), if_pos (by decide)]
      rfl
    rcases neutral.resolve_left unchanged with nothing | repeats
    · refine ⟨?_, fun carries => absurd carries ?_⟩
      · rw [Doc.get_congr session]
        exact lineSound.named
      · rwa [CarriesErpQty, Doc.get_congr erp]
    · have kept : ∀ field ∈ ["variance", "item_code"], new field = line field := by
        intro field member
        have known : field ∉ reworkedNames ∧ field ≠ "semantic_hash" ∧ field ∉ blockedLineFields := by
          revert field
          decide
        rw [fields field known.1 known.2.1, if_neg known.2.2]
        cases stated : data.lookup field with
        | none => rfl
        | some v => exact (repeats field member v stated).symm
      exact lineSound.congr erp (kept _ (by simp)) (by rw [Doc.get_congr counted]) session (kept _ (by simp))

/-- The live stock `update_count_line` would measure against is the expected quantity
of the line it addresses. -/
def LiveStockAgrees (s : Store) (lineId : String) : Prop :=
  ∀ line old e, findCountLine s lineId = some line →
    s.countLines.find? (versionedLineFilter line).holds = some old → old.get "erp_qty" = .num e →
    liveErpQty (erpItemForExistingLine s line) line = .ok e

/-- What an operation needs of the store it runs on. -/
def KeepsVariance (s : Store) (op : Env × CountOp) : Prop :=
  match op.2 with
  | .create _ body => IsNamed body.sessionId
  | .addQuantity .. => True
  | .update _ lineId change => change.qty = none ∨ LiveStockAgrees s lineId
  | .merge _ sourceIds targetId => MergeNeutral op.1 sourceIds targetId s
  | .syncBatch _ _ records => ∀ entry ∈ records, IsNamed entry.2.sessionId
  | .resolve conflictId _ resolution merged => ∀ conflict data line,
      s.syncConflicts.find? (·.id == Text.lower conflictId) = some conflict →
      resolvedData conflict merged resolution = .ok data → conflict.entityType = "count_line" →
      s.countLines.find? (entityLookup conflict.entityId).holds = some line →
      ResolutionNeutral line data

theorem OnlySessions.erpItems (h : OnlySessions s t) : t.erpItems = s.erpItems := by
  obtain ⟨_, _, rfl⟩ := h
  rfl

theorem erpItemForExistingLine_congr (items : t.erpItems = s.erpItems) (line : Doc) :
    erpItemForExistingLine t line = erpItemForExistingLine s line := by
  simp only [erpItemForExistingLine, findErpItem, items]

theorem VarianceSound.create {body : CountLineCreate} (sound : VarianceSound s)
    (named : IsNamed body.sessionId) : VarianceSound ((createCountLine env user body).final s) := by
  refine final_createCountLine ofLines_varianceSound ⟨?_, ?_⟩ sound
  · intro t t' session a target document _ _ _ _ built soundT step
    have built := buildCountLineDocument_ok built
    exact soundT.insert rfl built.noId built.session named built.counted step
  · intro t t' session document old _ soundT step
    exact soundT.supersede rfl step

theorem VarianceSound.step {op : Env × CountOp} (sound : VarianceSound s)
    (meets : KeepsVariance s op) : VarianceSound (CountOp.step s op) := by
  obtain ⟨env, op⟩ := op
  cases op with
  | create user body => exact sound.create meets
  | addQuantity user lineId change =>
    refine final_addQuantityToCountLine ofLines_varianceSound sound ?_
    intro t t' line session _ _ soundT _ step
    exact soundT.added step
  | update user lineId change =>
    refine final_updateCountLine ofLines_varianceSound sound ?_
    intro t t' line session fields touched found soundT fieldsEq step
    refine soundT.restated ?_ fieldsEq step
    rcases meets with noQty | agrees
    · exact .inl noQty
    · refine .inr fun old e present erp => ?_
      rw [erpItemForExistingLine_congr touched.erpItems]
      exact agrees line old e found (by rwa [← touched.countLines]) erp
  | merge user sourceIds targetId => exact sound.merge meets
  | syncBatch rackOwner user records =>
    refine final_syncBatch ofLines_varianceSound ?_ sound
    intro entry member t t' session floorId rackId locationId countedAt updatedAt _ _ _ soundT step
    exact soundT.insert rfl rfl rfl (meets entry member) rfl step
  | resolve conflictId resolvedBy resolution merged =>
    refine final_resolveConflict ofLines_varianceSound ⟨?_, ?_⟩ sound
    · intro t t' conflict data line fields same found resolved isLine present fieldsEq soundT step
      refine soundT.resolved present ?_ fieldsEq step
      exact meets conflict data line found resolved isLine (by rwa [← same.countLines])
    · intro t items conflict data _ _ _ _ soundT line member
      exact (soundT line member).store rfl rfl

/-- The operations of the samples: a count, an addition to it, and its correction. -/
def countThen (op : CountOp) : Store :=
  CountOp.step (CountOp.step countingStore (standaloneEnv, .create counter exactCount)) (standaloneEnv, op)

end StockVerification
