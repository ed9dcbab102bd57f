import StockVerification.FinalizationGate
import StockVerification.RecountRuns

/-!
# Fingerprints

The fingerprint of a line is computed before the write core stamps its own fields. One
of these is covered by it: an item's barcode is filled in where the document has none.
The stored fingerprint is then that of another document. The unique index keeps equal
fingerprints out, so lines with equal keys are ruled out only as long as every
fingerprint is the line's own.
-/
namespace StockVerification

open Foundation Foundation.Action

/-- The fields of the key but for the barcode. -/
def keyNames : List String :=
  ["session_id", "item_code", "item_id", "location_id", "floor_no", "floor_id", "rack_no",
    "rack_id", "counted_qty", "version"]

variable {a b : Doc}

theorem semanticPayload_congr (same : ∀ field ∈ keyNames, a field = b field)
    (barcode : (a.get "barcode").textOrEmpty = (b.get "barcode").textOrEmpty) :
    semanticPayload a = semanticPayload b := by
  have read : ∀ field ∈ keyNames, a.get field = b.get field := fun field member =>
    Doc.get_congr (same field member)
  simp only [semanticPayload, read "session_id" (by decide), read "item_code" (by decide), read "item_id" (by decide),
    read "location_id" (by decide), read "floor_no" (by decide), read "floor_id" (by decide), read "rack_no" (by
    decide), read "rack_id" (by decide), read "counted_qty" (by decide), read "version" (by decide), barcode]

/-- The line carries a quantity and the fingerprint of its own key. -/
structure LinePrint (digest : SemanticPayload → String) (line : Doc) : Prop where
  counted : line.has "counted_qty" = true
  exact : ∃ payload, semanticPayload line = .ok payload ∧ line "semantic_hash" = some (.str (digest payload))

structure FingerprintsSound (digest : SemanticPayload → String) (s : Store) : Prop where
  lines : EachLine (LinePrint digest) s
  distinct : (s.countLines.map fun line => line "semantic_hash").Nodup

theorem ofLines_fingerprintsSound (digest : SemanticPayload → String) : OfLines (FingerprintsSound digest) := by
  rintro s t ⟨_, _, _, _, _, _, rfl⟩ sound
  exact ⟨sound.lines, sound.distinct⟩

variable {digest : SemanticPayload → String} {s : Store}

theorem FingerprintsSound.keys_distinct (sound : FingerprintsSound digest s) :
    (s.countLines.map semanticPayload).Nodup := by
  have printed : ∀ line ∈ s.countLines, line "semantic_hash" =
      match semanticPayload line with
      | .ok payload => some (.str (digest payload))
      | .error _ => none := by
    intro line member
    obtain ⟨payload, read, stored⟩ := (sound.lines line member).exact
    rw [stored, read]
  have distinct := sound.distinct
  rw [List.map_congr_left printed] at distinct
  exact List.Nodup.of_map (fun key : Except Error SemanticPayload => match key with
    | .ok payload => some (Value.str (digest payload))
    | .error _ => none) (by rwa [List.map_map])

def AgreeOff (name : String) (a b : Doc) : Prop := ∀ field, field ≠ name → a field = b field

/-- The value after an increment as the checks see it. -/
def incremented (amount : ℚ) : Value → Value
  | .num q => .num (q + amount)
  | .bool b => .num ((if b then 1 else 0) + amount)
  | _ => .num amount

def mergedInc (acc : Doc) (entry : String × ℚ) : Doc :=
  acc.set entry.1 (incremented entry.2 (acc.get entry.1))

def mergedPush (acc : Doc) (entry : String × Pushed) : Doc :=
  acc.set entry.1 ((entry.2.onto (acc.get entry.1)).getD entry.2.alone)

theorem applyUpdateToMerged_folds (d : Doc) (u : Update) :
    applyUpdateToMerged d u = u.push.foldl mergedPush (u.inc.foldl mergedInc (d.update u.set)) := by
  have increments : (fun (acc : Doc) (entry : String × ℚ) => match acc.get entry.1 with
      | .num q => acc.set entry.1 (.num (q + entry.2))
      | .bool b => acc.set entry.1 (.num ((if b then 1 else 0) + entry.2))
      | _ => acc.set entry.1 (.num entry.2)) = mergedInc := by
    funext acc entry
    rw [mergedInc]
    cases acc.get entry.1 <;> rfl
  rw [← increments]
  rfl

variable {d d' : Doc}

theorem mergedInc_apply {entry : String × ℚ} (success : Update.applyInc d entry = some d') :
    mergedInc d entry = d' := by
  unfold Update.applyInc at success
  unfold mergedInc
  split at success
  · next absent =>
    cases success
    rw [Doc.get_eq, absent]
    rfl
  · next q stored =>
    cases success
    rw [Doc.get_of_some stored]
    rfl
  · cases success

theorem mergedPush_apply {entry : String × Pushed} (success : Update.applyPush d entry = some d') :
    mergedPush d entry = d' := by
  unfold Update.applyPush at success
  unfold mergedPush
  split at success
  · next absent =>
    cases success
    have nothing : entry.2.onto .null = none := by cases entry.2 <;> rfl
    rw [Doc.get_eq, absent, Option.getD_none, nothing, Option.getD_none]
  · next stored present =>
    obtain ⟨grown, appended, rfl⟩ := Option.map_eq_some_iff.mp success
    rw [Doc.get_of_some present, appended, Option.getD_some]

variable {β : Type} {entries : List β}

theorem foldl_of_foldlM {step : Doc → β → Option Doc} {merged : Doc → β → Doc}
    (each : ∀ d d' entry, step d entry = some d' → merged d entry = d')
    (success : entries.foldlM step d = some d') : entries.foldl merged d = d' := by
  induction entries generalizing d with
  | nil =>
    cases success
    rfl
  | cons entry rest ih =>
    rw [List.foldlM_cons, Option.bind_eq_bind, Option.bind_eq_some_iff] at success
    obtain ⟨middle, first, success⟩ := success
    rw [List.foldl_cons, each d middle entry first]
    exact ih success

variable {u : Update}

theorem applyUpdateToMerged_apply (applied : u.apply d = some d') : applyUpdateToMerged d u = d' := by
  unfold Update.apply at applied
  split at applied
  · cases applied
  · rw [Option.bind_eq_bind, Option.bind_eq_some_iff] at applied
    obtain ⟨incremented, incs, pushes⟩ := applied
    rw [applyUpdateToMerged_folds, foldl_of_foldlM (fun _ _ _ => mergedInc_apply) incs]
    exact foldl_of_foldlM (fun _ _ _ => mergedPush_apply) pushes

variable {name : String}

theorem AgreeOff.set (agree : AgreeOff name a b) (field : String) {v w : Value}
    (same : field ≠ name → v = w) : AgreeOff name (a.set field v) (b.set field w) := by
  intro other notName
  by_cases here : other = field
  · subst here
    rw [Doc.set_same, Doc.set_same, same notName]
  · rw [Doc.set_other _ _ here, Doc.set_other _ _ here]
    exact agree other notName

theorem AgreeOff.foldl {step : Doc → β → Doc}
    (each : ∀ a b entry, AgreeOff name a b → AgreeOff name (step a entry) (step b entry))
    (agree : AgreeOff name a b) : AgreeOff name (entries.foldl step a) (entries.foldl step b) := by
  induction entries generalizing a b with
  | nil => exact agree
  | cons entry rest ih => exact ih (each a b entry agree)

theorem AgreeOff.mergedInc (agree : AgreeOff name a b) (entry : String × ℚ) :
    AgreeOff name (mergedInc a entry) (mergedInc b entry) := by
  refine agree.set entry.1 fun notName => ?_
  rw [Doc.get_congr (agree _ notName)]

theorem AgreeOff.mergedPush (agree : AgreeOff name a b) (entry : String × Pushed) :
    AgreeOff name (mergedPush a entry) (mergedPush b entry) := by
  refine agree.set entry.1 fun notName => ?_
  rw [Doc.get_congr (agree _ notName)]

variable {env : Env} {old new : Doc}

theorem Fingerprinted.agree {stamped : Update} (fingerprinted : Fingerprinted env old u stamped)
    (applied : stamped.apply old = some new) : AgreeOff "semantic_hash" new (applyUpdateToMerged old u) := by
  rw [← applyUpdateToMerged_apply applied, applyUpdateToMerged_folds, applyUpdateToMerged_folds,
    fingerprinted.inc, fingerprinted.push]
  refine AgreeOff.foldl (fun _ _ entry agree => agree.mergedPush entry) ?_
  refine AgreeOff.foldl (fun _ _ entry agree => agree.mergedInc entry) ?_
  intro field notHash
  rw [Doc.update_apply, Doc.update_apply, fingerprinted.set field notHash]

theorem AgreeOff.payload (agree : AgreeOff "semantic_hash" a b) : semanticPayload a = semanticPayload b := by
  refine semanticPayload_congr (fun field member => agree field ?_) ?_
  · rintro rfl
    revert member
    decide
  · rw [Doc.get_congr (agree "barcode" (by decide))]

variable {field : String}

theorem mergedSet_has (present : d.has field = true) (other : String) (v : Value) :
    (d.set other v).has field = true := by
  by_cases here : field = other
  · simp [Doc.has, here]
  · rwa [Doc.has, Doc.set_other _ _ here]

theorem foldl_has {step : Doc → β → Doc}
    (each : ∀ d entry, d.has field = true → (step d entry).has field = true)
    (present : d.has field = true) : (entries.foldl step d).has field = true := by
  induction entries generalizing d with
  | nil => exact present
  | cons entry rest ih => exact ih (each d entry present)

theorem applyUpdateToMerged_has (u : Update) (present : d.has field = true) :
    (applyUpdateToMerged d u).has field = true := by
  rw [applyUpdateToMerged_folds]
  refine foldl_has (fun _ _ has => mergedSet_has has _ _) (foldl_has (fun _ _ has =>
    mergedSet_has has _ _) ?_)
  rw [Doc.has, Doc.update_apply]
  cases u.set field with
  | none => exact present
  | some v => rfl

/-- A collision-free new value at the place of an old one. -/
theorem UpdatedLine.distinct {f : Filter} {t : Store} {v : Value} (line : UpdatedLine f u s t old new)
    (hashed : new "semantic_hash" = some v) (distinct : (s.countLines.map fun line => line "semantic_hash").Nodup) :
    (t.countLines.map fun line => line "semantic_hash").Nodup := by
  obtain ⟨front, back, split, matched, before⟩ := Collection.find_split line.found
  have others : s.countLines.eraseP f.holds = front ++ back := by
    rw [split, List.eraseP_append_right _ (by simpa using before), List.eraseP_cons_of_pos matched]
  have fresh : ∀ d ∈ front ++ back, d "semantic_hash" ≠ new "semantic_hash" := by
    intro d member same
    have free := List.find?_eq_none.mp line.free { field := "semantic_hash" } (by simp [countLineIndexes])
    refine free (List.any_eq_true.mpr ⟨d, by rwa [others], ?_⟩)
    simp [Collection.sameEntry, Doc.has, hashed, same]
  rw [line.stored]
  simp only [Store.withLines, split, Collection.replaceFirst_split matched before, List.map_append,
    List.map_cons] at distinct ⊢
  rw [List.nodup_middle, List.nodup_cons] at distinct ⊢
  refine ⟨fun member => ?_, distinct.2⟩
  rw [← List.map_append] at member
  obtain ⟨d, stored, same⟩ := List.mem_map.mp member
  exact fresh d stored same

variable {fields : Doc}

section updates

variable {ctx : WriteContext} {t : Store} {f : Filter}

section

variable (sound : FingerprintsSound digest s)
include sound

theorem FingerprintsSound.updated {hash : String}
    (line : UpdatedLine f u s t old new) (counted : new.has "counted_qty" = true)
    (exact : ∃ payload, semanticPayload new = .ok payload ∧ hash = digest payload)
    (stored : new "semantic_hash" = some (.str hash)) : FingerprintsSound digest t := by
  obtain ⟨payload, read, rfl⟩ := exact
  exact ⟨sound.lines.updated line ⟨counted, payload, read, stored⟩, line.distinct stored sound.distinct⟩

theorem FingerprintsSound.stamped (digestEq : env.digest = digest)
    {stamped : Update} (fingerprinted : Fingerprinted env old u stamped)
    (line : UpdatedLine f stamped s t old new) : FingerprintsSound digest t := by
  have merged := applyUpdateToMerged_has u (sound.lines old line.mem).counted
  have agree := fingerprinted.agree line.applied
  obtain ⟨hash, computed, set⟩ := fingerprinted.exact merged
  rw [buildSemanticHash, digestEq] at computed
  obtain ⟨payload, read, rfl⟩ := map_success.mp computed
  refine sound.updated line ?_ ⟨payload, agree.payload.trans read, rfl⟩ (Update.apply_set line.applied set)
  rw [Doc.has, agree _ (by decide)]
  exact merged

theorem FingerprintsSound.findOneAndUpdate (digestEq : env.digest = digest)
    (step : WriteStep env ctx (.findOneAndUpdate f u) s t) : FingerprintsSound digest t := by
  obtain ⟨p, result, prepared, executed⟩ := step
  obtain ⟨stamped, old, new, fingerprinted, line, _⟩ := findOneAndUpdate_effect prepared executed
  exact sound.stamped digestEq fingerprinted line

theorem FingerprintsSound.setOne (digestEq : env.digest = digest)
    (plain : ctx.transition = none) (uncounted : fields "counted_qty" = none)
    (step : WriteStep env ctx (.updateOne f (.ofSet fields)) s t) : FingerprintsSound digest t := by
  obtain ⟨p, result, prepared, executed⟩ := step
  obtain ⟨stamped, final, old, new, fingerprinted, line, _, _, ungoverned, _⟩ :=
    updateOne_effect plain prepared executed
  have same : final = stamped := ungoverned (by simp [Update.ofSet, Doc.has, uncounted])
  subst same
  exact sound.stamped digestEq fingerprinted line

end

end updates

/-- The barcode is filled in only where the document has none and its item has one. -/
theorem applyAuthoritativeFields_keepsBarcode {ctx : WriteContext} {session : Option Doc} {target item : Doc}
    {d : GovernanceDecision} (settled : (target.get "barcode").truthy = true ∨ (item.get "barcode").truthy = false) :
    applyAuthoritativeFields env ctx session target d item "barcode" = target "barcode" := by
  have nothing : (!(target.get "barcode").truthy && (item.get "barcode").truthy) = false := by
    rcases settled with given | without
    · simp [given]
    · simp [without]
  refine Doc.setAll_other _ fun member => ?_
  simp only [List.map_append, List.mem_append, descriptiveFields, nothing, Bool.false_eq_true,
    if_false, List.map_nil, List.not_mem_nil, or_false] at member
  rcases member with (decided | reset) | descriptive | placed
  · unfold decisionFields at decided
    split at decided <;> simp at decided
  · unfold reviewResetFields at reset
    split at reset <;> simp at reset
  · simp at descriptive
  · unfold placementFields at placed
    split at placed <;> simp at placed

variable {document : Doc}

theorem FingerprintsSound.insert {ctx : WriteContext} {t : Store} (sound : FingerprintsSound digest s)
    (digestEq : env.digest = digest) (noId : document "_id" = none) (counted : document.has "counted_qty" = true)
    (unhashed : (document.get "semantic_hash").truthy = false)
    (settled : (document.get "barcode").truthy = true ∨ ((resolveErpItem s ctx.erpItem document (governedItemCode
      document ctx)).get "barcode").truthy = false)
    (step : WriteStep env ctx (.insertOne document) s t) : FingerprintsSound digest t := by
  obtain ⟨p, result, prepared, executed⟩ := step
  obtain ⟨line, inserted, rfl, _, _, free⟩ := insertOne_effect noId prepared executed
  obtain ⟨hash, hashEq, _, stored⟩ := inserted.hashed
  rw [insertHash, unhashed, if_neg Bool.false_ne_true, buildSemanticHash, digestEq] at hashEq
  obtain ⟨text, computed, rfl⟩ := map_success.mp hashEq
  obtain ⟨payload, read, rfl⟩ := map_success.mp computed
  have barcode : line "barcode" = document "barcode" := by
    obtain ⟨other, e, evaluated, fields⟩ := inserted.governed counted
    obtain ⟨_, _, _, itemEq, stamped, _⟩ := evaluateGovernanceForDocument_ok evaluated
    have sameBarcode : e.document "barcode" = document "barcode" := by
      rw [stampBaseline_other stamped (by decide) (by decide), Doc.set_other _ _ (by decide)]
    have sameItem : e.erpItem = resolveErpItem s ctx.erpItem document (governedItemCode document ctx) := by
      rw [itemEq]
      simp only [resolveErpItem, governedItemCode,
        Doc.get_congr (Doc.set_other document other (show "barcode" ≠ "semantic_hash" by decide)),
        Doc.get_congr (Doc.set_other document other (show "item_code" ≠ "semantic_hash" by decide))]
    rw [fields _ (by decide), applyAuthoritativeFields_keepsBarcode, sameBarcode]
    rw [Doc.get_congr sameBarcode, sameItem]
    exact settled
  have sameKey : semanticPayload line = semanticPayload document := by
    refine semanticPayload_congr (fun field member => ?_) (by rw [Doc.get_congr barcode])
    have plain : field ∉ stampedFields ∧ field ≠ "_id" := by
      revert field
      decide
    exact inserted.other field plain.1 plain.2
  have lineCounted : line.has "counted_qty" = true := by
    rw [Doc.has, inserted.other _ (by decide) (by decide)]
    exact counted
  refine ⟨sound.lines.append ⟨lineCounted, payload, sameKey.trans read, stored⟩, ?_⟩
  simp only [Store.withLines, List.map_append, List.map_cons, List.map_nil, List.nodup_append]
  refine ⟨sound.distinct, by simp, ?_⟩
  intro print member other single same
  obtain ⟨d, storedLine, rfl⟩ := List.mem_map.mp member
  rw [List.mem_singleton] at single
  have clash := List.find?_eq_none.mp free { field := "semantic_hash" } (by simp [countLineIndexes])
  refine clash (List.any_eq_true.mpr ⟨d, storedLine, ?_⟩)
  simp [Collection.sameEntry, Doc.has, stored, same.trans single]

/-- What a resolution needs: no new quantity, or data with a barcode, or an item whose
barcode is missing or the line's own. -/
def ResolutionSettled (s : Store) (line : Doc) (data : List (String × Value)) : Prop :=
  ¬ ChangesQuantity line data ∨ ((Doc.ofList data).get "barcode").truthy = true ∨
    ((lineItem s (line.update (Doc.ofList data))).get "barcode").truthy = false ∨
    ((lineItem s (line.update (Doc.ofList data))).get "barcode").textOrEmpty =
      ((line.update (Doc.ofList data)).get "barcode").textOrEmpty

/-- A resolution with a new quantity is governed and may fill in a barcode. -/
theorem FingerprintsSound.governed {t : Store} {f : Filter} {line : Doc}
    (sound : FingerprintsSound digest s) (digestEq : env.digest = digest)
    (found : s.countLines.find? f.holds = some line) (counted : fields.has "counted_qty" = true)
    (settled : (fields.get "barcode").truthy = true ∨ ((lineItem s (line.update fields)).get "barcode").truthy = false ∨
      ((lineItem s (line.update fields)).get "barcode").textOrEmpty = ((line.update fields).get "barcode").textOrEmpty)
    (step : WriteStep env (resolverContext line) (.updateOne f (.ofSet fields)) s t) :
    FingerprintsSound digest t := by
  obtain ⟨p, result, prepared, executed⟩ := step
  obtain ⟨stamped, final, old, new, fingerprinted, updated, noInc, noPush, _, governed⟩ :=
    updateOne_effect rfl prepared executed
  rw [updated.found] at found
  cases found
  obtain ⟨e, evaluated, setEq⟩ := (governed counted).evaluated
  have mergedCounted := applyUpdateToMerged_has (.ofSet fields) (sound.lines line updated.mem).counted
  obtain ⟨hash, computed, set⟩ := fingerprinted.exact mergedCounted
  have mergedEq : applyUpdateToMerged line (.ofSet fields) = line.update fields := rfl
  rw [mergedEq] at mergedCounted
  rw [mergedEq, buildSemanticHash, digestEq] at computed
  obtain ⟨payload, read, rfl⟩ := map_success.mp computed
  have applied : ∀ field, new field = (final.set field).or (line field) := fun field =>
    Update.apply_field updated.applied (by rw [noInc]; simp [Update.ofSet]) (by rw [noPush]; simp [Update.ofSet])
  have kept : ∀ field, field ∉ authoritativeNames → field ≠ "erp_qty" → field ≠ "baseline_hash" →
      final.set field = stamped.set field := by
    intro field other notQty notHash
    rw [setEq, applyAuthoritativeFields_other other, copyBaselineFields_other notQty notHash]
  have keyFields : ∀ field ∈ keyNames, new field = (line.update fields) field := by
    intro field member
    have plain : field ∉ authoritativeNames ∧ field ≠ "erp_qty" ∧ field ≠ "baseline_hash" ∧
        field ≠ "semantic_hash" := by
      revert field
      decide
    rw [applied, kept field plain.1 plain.2.1 plain.2.2.1, fingerprinted.set field plain.2.2.2]
    rfl
  have stampedBarcode : stamped.set "barcode" = fields "barcode" := fingerprinted.set _ (by decide)
  have item : e.erpItem = lineItem s (line.update fields) := by
    obtain ⟨_, _, _, itemEq, _, _⟩ := evaluateGovernanceForDocument_ok evaluated
    have sameBarcode : (line.update stamped.set).get "barcode" = (line.update fields).get "barcode" :=
      Doc.get_congr (by rw [Doc.update_apply, stampedBarcode]; rfl)
    have sameCode : (line.update stamped.set).get "item_code" = (line.update fields).get "item_code" :=
      Doc.get_congr (by rw [Doc.update_apply, fingerprinted.set _ (by decide)]; rfl)
    rw [itemEq, governedItemCode_plain rfl]
    simp only [lineItem, resolveErpItem, resolverContext, sameBarcode, sameCode]
  have barcode : (new.get "barcode").textOrEmpty = ((line.update fields).get "barcode").textOrEmpty := by
    have baseline : copyBaselineFields e.document stamped.set "barcode" = fields "barcode" := by
      rw [copyBaselineFields_other (by decide) (by decide), stampedBarcode]
    have same : final.set "barcode" = fields "barcode" →
        (new.get "barcode").textOrEmpty = ((line.update fields).get "barcode").textOrEmpty := by
      intro unchanged
      have newEq : new "barcode" = (line.update fields) "barcode" := by
        rw [applied, unchanged]
        rfl
      rw [Doc.get_congr newEq]
    rcases settled with given | without | equal
    · refine same ?_
      rw [setEq, applyAuthoritativeFields_keepsBarcode (.inl (by rwa [Doc.get_congr baseline])), baseline]
    · refine same ?_
      rw [setEq, applyAuthoritativeFields_keepsBarcode (.inr (by rwa [item])), baseline]
    · rcases applyAuthoritativeFields_barcode env (resolverContext line)
        (resolveSessionDocument s (resolverContext line) e.document)
        (copyBaselineFields e.document stamped.set) e.erpItem e.decision with unchanged | ⟨taken, _⟩
      · exact same (by rw [setEq, unchanged, baseline])
      · have stored : new "barcode" = some (e.erpItem.get "barcode") := by
          rw [applied, setEq, taken]
          rfl
        rw [Doc.get_of_some stored, item, equal]
  refine sound.updated updated ?_ ⟨payload, (semanticPayload_congr keyFields barcode).trans read, rfl⟩ ?_
  · rw [Doc.has, keyFields _ (by decide)]
    exact mergedCounted
  · rw [applied, kept _ (by decide) (by decide) (by decide), set]
    rfl

theorem FingerprintsSound.resolved {t : Store} {entityId : String} {line : Doc} {data : List (String × Value)}
    (sound : FingerprintsSound digest s) (digestEq : env.digest = digest)
    (found : s.countLines.find? (entityLookup entityId).holds = some line) (settled : ResolutionSettled s line data)
    (fieldsEq : resolvedLineFields env line data = .ok fields)
    (step : WriteStep env (resolverContext line) (.updateOne (entityLookup entityId) (.ofSet fields)) s t) :
    FingerprintsSound digest t := by
  obtain ⟨others, quantity⟩ := resolvedLineFields_ok fieldsEq
  rcases quantity with ⟨⟨q, counted⟩, changes⟩ | ⟨uncounted, _⟩
  · have sameBarcode : fields "barcode" = Doc.ofList data "barcode" := others _ (by decide)
    have sameCode : fields "item_code" = Doc.ofList data "item_code" := others _ (by decide)
    have mergedBarcode : (line.update fields).get "barcode" = (line.update (Doc.ofList data)).get "barcode" :=
      Doc.get_congr (by rw [Doc.update_apply, sameBarcode]; rfl)
    have mergedCode : (line.update fields).get "item_code" = (line.update (Doc.ofList data)).get "item_code" :=
      Doc.get_congr (by rw [Doc.update_apply, sameCode]; rfl)
    have sameItem : lineItem s (line.update fields) = lineItem s (line.update (Doc.ofList data)) := by
      simp only [lineItem, resolveErpItem, mergedBarcode, mergedCode]
    refine sound.governed digestEq found (by simp [Doc.has, counted]) ?_ step
    rw [Doc.get_congr sameBarcode, sameItem, mergedBarcode]
    exact settled.resolve_left (not_not.mpr changes)
  · exact sound.setOne digestEq rfl uncounted step

def itemBarcode (s : Store) (code : String) : Value :=
  ((s.erpItems.find? (Filter.eq "item_code" (.str code)).holds).getD Doc.empty).get "barcode"

/-- What a creation needs: the document has a barcode, or the write core finds none. -/
def CreationSettled (s : Store) (line : CountLineCreate) : Prop :=
  Text.strip line.itemCode = line.itemCode ∨ (optionalText line.barcode).truthy = true ∨
    (itemBarcode s line.itemCode).truthy = true ∨
    (itemBarcode s (Text.strip line.itemCode)).truthy = false

/-- What an operation needs of the store it runs on: no barcode is filled in. -/
def KeepsFingerprints (s : Store) (op : Env × LineOp) : Prop :=
  match op.2 with
  | .count (.create _ body) => CreationSettled s body.normalizeLocationContext
  | .count (.syncBatch _ _ records) => ∀ entry ∈ records,
      (itemBarcode s (Text.strip entry.2.itemCode)).truthy = false
  | .count (.resolve conflictId _ resolution merged) => ∀ conflict data line,
      s.syncConflicts.find? (·.id == Text.lower conflictId) = some conflict →
      resolvedData conflict merged resolution = .ok data → conflict.entityType = "count_line" →
      s.countLines.find? (entityLookup conflict.entityId).holds = some line →
      ResolutionSettled s line data
  | _ => True

/-- Every write of the operation computes fingerprints with the one hash function. -/
def UsesDigest (digest : SemanticPayload → String) (op : Env × LineOp) : Prop :=
  op.1.digest = digest ∧ match op.2 with
    | .count (.syncBatch _ _ records) => ∀ entry ∈ records, entry.1.digest = digest
    | _ => True

theorem findErpItem_blank {barcode : Value} (blank : barcode.truthy = false) : findErpItem s barcode .null = none := by
  simp [findErpItem, blank]

theorem resolveErpItem_blank (code : String) (blank : (document.get "barcode").truthy = false) :
    (resolveErpItem s none document code).get "barcode" = itemBarcode s code := by
  have empty : Text.strip (document.get "barcode").textOrEmpty = "" := by
    rw [Value.textOrEmpty, blank, if_neg Bool.false_ne_true]
    decide
  simp [resolveErpItem, itemBarcode, empty]

theorem assessCountLine_blank {line : CountLineCreate} {session : Doc} {a : Admission}
    (assessed : assessCountLine line session s = .ok a) (blank : (optionalText line.barcode).truthy = false) :
    a.erpItem.get "barcode" = itemBarcode s line.itemCode := by
  simp only [assessCountLine, findErpItem_blank blank, Option.none_or] at assessed
  split at assessed
  · next item stored =>
    simp only [bind_success, pure_success, Except.ok.injEq] at assessed
    obtain ⟨_, rfl, _, _, _, _, rfl⟩ := assessed
    rw [itemBarcode, stored]
    rfl
  · simp only [bind_success] at assessed
    obtain ⟨_, ⟨⟩, _⟩ := assessed

variable {user : User}

theorem built_unhashed {line : CountLineCreate} {a : Admission} {target : Option Doc}
    (built : buildCountLineDocument env user line a target = .ok document) :
    document.get "semantic_hash" = .null ∧
      document.get "barcode" = (optionalText line.barcode).orElse (a.erpItem.get "barcode") := by
  have unhashed := built_other built "semantic_hash" (by decide)
  simp only [buildCountLineDocument, bind_success, pure_success] at built
  obtain ⟨version, _, iteration, _, rfl⟩ := built
  exact ⟨by rw [Doc.get_eq, unhashed]; rfl, rfl⟩

section runs

theorem FingerprintsSound.create {body : CountLineCreate} (sound : FingerprintsSound digest s)
    (digestEq : env.digest = digest) (settled : CreationSettled s body.normalizeLocationContext) :
    FingerprintsSound digest ((createCountLine env user body).final s) := by
  refine final_createCountLine (ofLines_fingerprintsSound digest) ⟨?_, ?_⟩ sound
  · intro t t' session a target document _ touched assessed _ built soundT step
    have facts := buildCountLineDocument_ok built
    obtain ⟨unhashed, barcode⟩ := built_unhashed built
    refine soundT.insert digestEq facts.noId (by simp [Doc.has, facts.counted]) (by rw [unhashed]; rfl) ?_ step
    by_cases blank : (document.get "barcode").truthy = true
    · exact .inl blank
    · rw [Bool.not_eq_true] at blank
      refine .inr ?_
      have code : governedItemCode document (persistContext user.username a.session) =
          Text.strip body.normalizeLocationContext.itemCode := by
        rw [governedItemCode_plain rfl, Doc.get_of_some facts.item, Value.textOrEmpty_str]
      have sameItems : ∀ code, itemBarcode t code = itemBarcode s code := by
        obtain ⟨_, _, rfl⟩ := touched
        exact fun _ => rfl
      change ((resolveErpItem t none document _).get "barcode").truthy = false
      rw [resolveErpItem_blank _ blank, code, sameItems]
      rw [barcode, Value.orElse] at blank
      split at blank
      · next given =>
        rw [given] at blank
        cases blank
      · next notGiven =>
        rw [Bool.not_eq_true] at notGiven
        rw [assessCountLine_blank assessed notGiven, sameItems] at blank
        rcases settled with same | given | stored | without
        · rwa [same]
        · rw [notGiven] at given
          cases given
        · rw [blank] at stored
          cases stored
        · exact without
  · intro t t' session document old _ soundT step
    exact soundT.setOne digestEq rfl rfl step

theorem FingerprintsSound.sync {rackOwner : String → Option String} {records : List (Env × SyncRecord)}
    (sound : FingerprintsSound digest s) (digestEq : ∀ entry ∈ records, entry.1.digest = digest)
    (without : ∀ entry ∈ records, (itemBarcode s (Text.strip entry.2.itemCode)).truthy = false) :
    FingerprintsSound digest ((syncBatch rackOwner user records).final s) := by
  have kept : FingerprintsSound digest ((syncBatch rackOwner user records).final s) ∧
      SameCatalog s ((syncBatch rackOwner user records).final s) := by
    refine final_syncBatch ((ofLines_fingerprintsSound digest).and (ofLines_sameCatalog s)) ?_
      ⟨sound, ⟨rfl, rfl, rfl, rfl⟩⟩
    intro entry member t t' session floorId rackId locationId countedAt updatedAt _ _ _ inv step
    obtain ⟨soundT, same⟩ := inv
    refine ⟨soundT.insert (digestEq entry member) rfl rfl ?_ (.inr ?_) step, ?_⟩
    · simp [syncDocument, Doc.get_eq]
    · have code : governedItemCode (syncDocument entry.1 user entry.2.normalized floorId rackId locationId
          countedAt updatedAt) (sessionContext user.username session) = Text.strip entry.2.itemCode := by
        rw [governedItemCode_plain rfl]
        exact congrArg Text.strip (Value.textOrEmpty_str entry.2.itemCode)
      have blank : ((syncDocument entry.1 user entry.2.normalized floorId rackId locationId countedAt
          updatedAt).get "barcode").truthy = false := by
        simp [syncDocument, Doc.get_eq]
      change ((resolveErpItem t none _ _).get "barcode").truthy = false
      rw [resolveErpItem_blank _ blank, code, itemBarcode, same.items]
      exact without entry member
    · obtain ⟨p, result, prepared, executed⟩ := step
      obtain ⟨line, _, rfl, _, _, _⟩ := insertOne_effect rfl prepared executed
      exact { same with }
  exact kept.1

theorem completionKeeps_fingerprintsSound (digestEq : env.digest = digest) (nonempty : ∀ payload, digest payload ≠ "") :
    CompletionKeeps (FingerprintsSound digest) env where
  insert := by
    intro t t' username counter qty session existing place successor _ stored built sound step
    have unhashed := recounted_unhashed stored (recountedLine_ok built) step
    obtain ⟨payload, _, hashed⟩ := (sound.lines existing stored).exact
    rw [Doc.get_of_some hashed, Value.truthy_str, bne_eq_false_iff_eq] at unhashed
    exact absurd unhashed (nonempty payload)
  supersede := by
    intro t t' username session successor existing _ sound step
    exact sound.setOne digestEq rfl rfl step

/-- The bulk lock of a finalization names no field of the key. -/
theorem FingerprintsSound.finalized (sound : FingerprintsSound digest s) (sessionId actor : String) (now : Int)
    (note : Option String) : FingerprintsSound digest (finalizeSessionCountLines sessionId actor now note s) := by
  have kept : ∀ line : Doc, ∀ field ∈ "semantic_hash" :: "barcode" :: keyNames,
      (line.update (lockedLineFields actor now note)) field = line field := by
    intro line field member
    have unnamed : lockedLineFields actor now note field = none := by
      refine Doc.ofList_other ?_
      revert field
      rw [List.map_append]
      split
      · split <;> (simp only [List.map_cons, List.map_nil]; decide)
      · simp only [List.map_cons, List.map_nil]
        decide
    rw [Doc.update_apply, unnamed]
    rfl
  have each : ∀ line : Doc, LinePrint digest line →
      LinePrint digest (line.update (lockedLineFields actor now note)) := by
    intro line print
    obtain ⟨payload, read, stored⟩ := print.exact
    refine ⟨?_, payload, ?_, ?_⟩
    · rw [Doc.has, kept line _ (by decide)]
      exact print.counted
    · rw [semanticPayload_congr (fun field member => kept line field (by simp [member])), read]
      rw [Doc.get_congr (kept line "barcode" (by decide))]
    · rw [kept line _ (by decide), stored]
  refine ⟨fun line member => ?_, ?_⟩
  · simp only [finalizeSessionCountLines, Store.withLines, Collection.setMany, List.mem_map] at member
    obtain ⟨old, oldMember, rfl⟩ := member
    split
    · exact each old (sound.lines old oldMember)
    · exact sound.lines old oldMember
  · have same : (finalizeSessionCountLines sessionId actor now note s).countLines.map
        (fun line => line "semantic_hash") = s.countLines.map fun line => line "semantic_hash" := by
      simp only [finalizeSessionCountLines, Store.withLines, Collection.setMany, List.map_map]
      refine List.map_congr_left fun line _ => ?_
      rw [Function.comp_apply]
      split
      · exact kept line _ (by decide)
      · rfl
    rw [same]
    exact sound.distinct

theorem FingerprintsSound.countStep {op : CountOp} (sound : FingerprintsSound digest s)
    (uses : UsesDigest digest (env, .count op)) (meets : KeepsFingerprints s (env, .count op)) :
    FingerprintsSound digest (CountOp.step s (env, op)) := by
  have free := ofLines_fingerprintsSound digest
  obtain ⟨digestEq, each⟩ := uses
  cases op with
  | create user body => exact sound.create digestEq meets
  | addQuantity user lineId change =>
    refine final_addQuantityToCountLine free sound ?_
    intro t t' line session _ _ soundT _ step
    exact soundT.findOneAndUpdate digestEq step
  | update user lineId change =>
    refine final_updateCountLine free sound ?_
    intro t t' line session fields _ _ soundT _ step
    exact soundT.findOneAndUpdate digestEq step
  | merge user sourceIds targetId =>
    refine final_mergeRounds free sound fun _ _ _ _ _ _ => ⟨?_, ?_⟩
    · intro t t' source qty _ _ _ _ _ _ soundT step
      exact soundT.findOneAndUpdate digestEq step
    · intro t t' source _ soundT step
      exact soundT.findOneAndUpdate digestEq step
  | syncBatch rackOwner user records => exact sound.sync each meets
  | resolve conflictId resolvedBy resolution merged =>
    refine final_resolveConflict free ⟨?_, ?_⟩ sound
    · intro t t' conflict data line fields same found resolved isLine present fieldsEq soundT step
      refine soundT.resolved digestEq present ?_ fieldsEq step
      have settled := meets conflict data line found resolved isLine (by rwa [← same.countLines])
      obtain ⟨_, _, _, _, _, _, rfl⟩ := same
      exact settled
    · intro t items conflict data _ _ _ _ soundT
      exact ⟨soundT.lines, soundT.distinct⟩

theorem FingerprintsSound.step {op : LineOp} (sound : FingerprintsSound digest s)
    (nonempty : ∀ payload, digest payload ≠ "") (uses : UsesDigest digest (env, op))
    (meets : KeepsFingerprints s (env, op)) : FingerprintsSound digest (LineOp.step s (env, op)) := by
  have free := ofLines_fingerprintsSound digest
  have digestEq : env.digest = digest := uses.1
  cases op with
  | count op => exact sound.countStep uses meets
  | recount user recountId notes resultQty =>
    exact final_completeRecount free (completionKeeps_fingerprintsSound digestEq nonempty) sound
  | review user lineId decision =>
    refine final_reviewCountLine free sound ?_
    intro t t' line _ _ soundT step
    refine soundT.setOne digestEq rfl ?_ step
    cases decision <;> simp [ReviewDecision.fields]
  | delete user lineId =>
    refine final_deleteCountLine free sound ?_
    intro t t' line _ _ soundT step
    rw [delete_effect rfl step]
    refine ⟨fun other member => soundT.lines other (List.mem_of_mem_eraseP member), ?_⟩
    exact soundT.distinct.sublist (List.eraseP_sublist.map _)
  | finalize hasFinalizer sessionId actor note =>
    refine final_finalizeSessionCanonical free (fun t soundT => ?_) sound
    exact soundT.finalized sessionId actor env.now note

end runs

/-- Along every run in which no barcode is filled in, each line carries the fingerprint
of its own key, and no two lines have the same key. -/
theorem fingerprints_exact_of_run {digest : SemanticPayload → String} {first last : Store}
    (nonempty : ∀ payload, digest payload ≠ "") (init : FingerprintsSound digest first)
    (run : Reaches LineOp.step (fun s op => UsesDigest digest op ∧ KeepsFingerprints s op) first last) :
    (∀ line ∈ last.countLines, ∃ payload, semanticPayload line = .ok payload ∧
      line.get "semantic_hash" = .str (digest payload)) ∧
    (last.countLines.map semanticPayload).Nodup := by
  have sound : FingerprintsSound digest last := by
    refine run.invariant init fun s op soundS meets => ?_
    obtain ⟨env, op⟩ := op
    exact soundS.step nonempty meets.1 meets.2
  refine ⟨fun line member => ?_, sound.keys_distinct⟩
  obtain ⟨payload, read, stored⟩ := (sound.lines line member).exact
  exact ⟨payload, read, Doc.get_of_some stored⟩

/-- Every character is announced, so the end of the text is seen. -/
def quoted (text : String) : List Char := text.toList.flatMap (fun c => ['+', c]) ++ ['.']

def unary (n : ℕ) : List Char := List.replicate n '+' ++ ['.']

def signed (z : Int) : List Char := (if z < 0 then '-' else '+') :: unary z.natAbs

/-- The canonical payload as one text. -/
def payloadText (p : SemanticPayload) : String :=
  String.ofList (quoted p.sessionId ++ (quoted p.itemId ++ (quoted p.locationId ++ (quoted p.floorNo ++
    (quoted p.rackNo ++ (quoted p.barcode ++ (signed p.countedQty.num ++ (unary p.countedQty.den ++
      signed p.version))))))))

variable {r t : List Char}

theorem quoted_append {a b : String} (same : quoted a ++ r = quoted b ++ t) : a = b ∧ r = t := by
  have chars : ∀ xs ys : List Char, (xs.flatMap (fun c => ['+', c]) ++ ['.']) ++ r =
      (ys.flatMap (fun c => ['+', c]) ++ ['.']) ++ t → xs = ys ∧ r = t := by
    intro xs
    induction xs with
    | nil =>
      intro ys equal
      cases ys with
      | nil => exact ⟨rfl, by simpa using equal⟩
      | cons y ys => simp at equal
    | cons x xs ih =>
      intro ys equal
      cases ys with
      | nil => simp at equal
      | cons y ys =>
        simp only [List.flatMap_cons, List.cons_append, List.nil_append, List.append_assoc,
          List.cons.injEq, true_and] at equal
        obtain ⟨rfl, rest⟩ := equal
        obtain ⟨rfl, tails⟩ := ih ys (by simpa using rest)
        exact ⟨rfl, tails⟩
  obtain ⟨texts, tails⟩ := chars a.toList b.toList same
  exact ⟨String.toList_inj.mp texts, tails⟩

theorem unary_append {m n : ℕ} (same : unary m ++ r = unary n ++ t) : m = n ∧ r = t := by
  induction m generalizing n with
  | zero =>
    cases n with
    | zero => exact ⟨rfl, by simpa [unary] using same⟩
    | succ n => simp [unary, List.replicate_succ] at same
  | succ m ih =>
    cases n with
    | zero => simp [unary, List.replicate_succ] at same
    | succ n =>
      obtain ⟨rfl, tails⟩ := ih (n := n) (by simpa [unary, List.replicate_succ] using same)
      exact ⟨rfl, tails⟩

theorem signed_append {y z : Int} (same : signed y ++ r = signed z ++ t) : y = z ∧ r = t := by
  rw [signed, signed, List.cons_append, List.cons_append, List.cons.injEq] at same
  obtain ⟨signs, rest⟩ := same
  obtain ⟨sizes, tails⟩ := unary_append rest
  refine ⟨?_, tails⟩
  by_cases first : y < 0 <;> by_cases second : z < 0 <;> simp [first, second] at signs <;> omega

theorem payloadText_injective : Function.Injective payloadText := by
  intro p q same
  obtain ⟨session, same⟩ := quoted_append (String.ofList_inj.mp same)
  obtain ⟨item, same⟩ := quoted_append same
  obtain ⟨location, same⟩ := quoted_append same
  obtain ⟨floor, same⟩ := quoted_append same
  obtain ⟨rack, same⟩ := quoted_append same
  obtain ⟨barcode, same⟩ := quoted_append same
  obtain ⟨num, same⟩ := signed_append same
  obtain ⟨den, same⟩ := unary_append same
  obtain ⟨version, _⟩ := signed_append (r := []) (t := []) (by simpa using same)
  have qty : p.countedQty = q.countedQty := Rat.ext num den
  cases p
  cases q
  simp_all

theorem payloadText_ne_empty (p : SemanticPayload) : payloadText p ≠ "" := by
  intro empty
  have chars := congrArg String.toList empty
  simp [payloadText, quoted] at chars

def hashingEnv : Env := { standaloneEnv with digest := payloadText }

def countWithBarcode : Env × LineOp := (hashingEnv, .count (.create counter exactCount))

def syncWithoutBarcode : Env × LineOp :=
  (hashingEnv, .count (.syncBatch (fun _ => none) counter [(hashingEnv, surplusRecord)]))

theorem fingerprintsSound_countingStore : FingerprintsSound payloadText countingStore :=
  ⟨fun line member => (by cases member), List.nodup_nil⟩

/-- A creation takes the barcode from the item before the fingerprint is computed. -/
theorem fingerprints_exact_created :
    (LineOp.step countingStore countWithBarcode).countLines.map (fun line => line.get "barcode") = [.str "890001"] ∧
    (∀ line ∈ (LineOp.step countingStore countWithBarcode).countLines, ∃ payload,
      semanticPayload line = .ok payload ∧ line.get "semantic_hash" = .str (payloadText payload)) ∧
    ((LineOp.step countingStore countWithBarcode).countLines.map semanticPayload).Nodup := by
  refine ⟨by decide +kernel, ?_⟩
  have run : Reaches LineOp.step (fun s op => UsesDigest payloadText op ∧ KeepsFingerprints s op)
      countingStore (LineOp.step countingStore countWithBarcode) := by
    refine .next _ .start ⟨⟨rfl, trivial⟩, .inl ?_⟩
    decide +kernel
  exact fingerprints_exact_of_run payloadText_ne_empty fingerprintsSound_countingStore run

/-- A record of a batch has no barcode. The write core fills in the item's after the
fingerprint of the record without one was computed. -/
theorem fingerprints_differ_synced :
    Function.Injective payloadText ∧ FingerprintsSound payloadText countingStore ∧
    Reaches LineOp.step (fun _ op => UsesDigest payloadText op) countingStore
      (LineOp.step countingStore syncWithoutBarcode) ∧
    ¬ ∀ line ∈ (LineOp.step countingStore syncWithoutBarcode).countLines, ∃ payload,
      semanticPayload line = .ok payload ∧ line.get "semantic_hash" = .str (payloadText payload) := by
  refine ⟨payloadText_injective, fingerprintsSound_countingStore, ?_, ?_⟩
  · refine .next _ .start ⟨rfl, ?_⟩
    intro entry member
    rw [List.mem_singleton.mp member]
    rfl
  · intro exact
    have stored : (LineOp.step countingStore syncWithoutBarcode).countLines.map (fun line =>
        (semanticPayload line).toOption.map fun payload =>
          (payload.barcode, decide (line.get "semantic_hash" = .str (payloadText payload)))) =
        [some ("890001", false)] := by
      decide +kernel
    obtain ⟨line, lines, fields⟩ := List.map_eq_singleton_iff.mp stored
    obtain ⟨payload, read, hashed⟩ := exact line (by rw [lines]; simp)
    rw [read] at fields
    simp [Except.toOption, hashed] at fields

end StockVerification
