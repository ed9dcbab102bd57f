import StockVerification.RouteEffects

/-!
# What a governed write does to its line

One lemma per kind of write the routes make: which line it addresses, which fields
it leaves alone and what it puts into the others.
-/
namespace StockVerification

open Foundation Foundation.Action

variable {u : Update} {s t : Store} {f : Filter} {old new : Doc}

theorem UpdatedLine.mem (line : UpdatedLine f u s t old new) : old ∈ s.countLines :=
  List.mem_of_find?_eq_some line.found

variable {env : Env}

theorem Fingerprinted.field {stamped : Update} {field : String}
    (fingerprinted : Fingerprinted env old u stamped) (applied : stamped.apply old = some new)
    (notHash : field ≠ "semantic_hash") (noInc : ∀ entry ∈ u.inc, entry.1 ≠ field)
    (noPush : ∀ entry ∈ u.push, entry.1 ≠ field) : new field = (u.set field).or (old field) := by
  rw [Update.apply_field applied (by rwa [fingerprinted.inc]) (by rwa [fingerprinted.push]),
    fingerprinted.set field notHash]

/-- An increment in terms of the numbers read. -/
theorem Fingerprinted.increment {stamped : Update} {field : String} {amount : ℚ}
    (fingerprinted : Fingerprinted env old u stamped) (applied : stamped.apply old = some new)
    (front : List (String × ℚ)) {back : List (String × ℚ)} (split : u.inc = front ++ (field, amount) :: back)
    (once : ∀ entry ∈ front ++ back, entry.1 ≠ field) (noPush : ∀ entry ∈ u.push, entry.1 ≠ field) :
    floatOrError (old.get field) = .ok (asFloat (old.get field)) ∧
      new.get field = .num (asFloat (old.get field) + amount) := by
  obtain ⟨q, start, grown⟩ := Update.apply_inc applied (by rw [fingerprinted.inc, split]) once
    (by rwa [fingerprinted.push])
  have read : old.get field = .null ∧ q = 0 ∨ old.get field = .num q := by
    rcases start with ⟨absent, rfl⟩ | stored
    · exact .inl ⟨by rw [Doc.get_eq, absent]; rfl, rfl⟩
    · exact .inr (Doc.get_of_some stored)
  have float : asFloat (old.get field) = q := by
    rcases read with ⟨null, rfl⟩ | num
    · rw [null]
      rfl
    · rw [num]
      rfl
  refine ⟨?_, by rw [Doc.get_of_some grown, float]⟩
  rw [float]
  rcases read with ⟨null, rfl⟩ | num
  · rw [null]
    rfl
  · simp [num, floatOrError]

variable {fields : Doc}

section

variable {ctx : WriteContext}

/-- An `update_one` that sets no quantity sets what it names, and the fingerprint of a
line that has one. -/
theorem setOne_effect (plain : ctx.transition = none) (uncounted : fields "counted_qty" = none)
    (step : WriteStep env ctx (.updateOne f (.ofSet fields)) s t) :
    ∃ stamped old new, UpdatedLine f stamped s t old new ∧
      (∀ field ≠ "semantic_hash", new field = (fields field).or (old field)) ∧
      (old.has "counted_qty" = true → ∃ payload, new "semantic_hash" = some (.str (env.digest payload))) ∧
      (old.has "counted_qty" = false → new "semantic_hash" = (fields "semantic_hash").or (old "semantic_hash")) := by
  obtain ⟨p, result, prepared, executed⟩ := step
  obtain ⟨stamped, final, old, new, fingerprinted, line, _, _, ungoverned, _⟩ :=
    updateOne_effect plain prepared executed
  have same : final = stamped := ungoverned (by simp [Update.ofSet, Doc.has, uncounted])
  subst same
  have merged : (applyUpdateToMerged old (.ofSet fields)).has "counted_qty" = old.has "counted_qty" := by
    simp [applyUpdateToMerged, Update.ofSet, Doc.has, uncounted]
  have hashed : new "semantic_hash" = (final.set "semantic_hash").or (old "semantic_hash") :=
    Update.apply_field line.applied (by simp [fingerprinted.inc, Update.ofSet])
      (by simp [fingerprinted.push, Update.ofSet])
  refine ⟨final, old, new, line, fun field notHash => ?_, fun counted => ?_, fun noQty => ?_⟩
  · exact fingerprinted.field line.applied notHash (by simp [Update.ofSet]) (by simp [Update.ofSet])
  · obtain ⟨payload, stamp⟩ := fingerprinted.hashed (by rw [merged, counted])
    exact ⟨payload, by rw [hashed, stamp]; rfl⟩
  · rw [hashed, fingerprinted.plain (by rw [merged, noQty])]
    rfl

theorem setOne_governed (plain : ctx.transition = none) (counted : fields.has "counted_qty" = true)
    (step : WriteStep env ctx (.updateOne f (.ofSet fields)) s t) :
    ∃ final checked old new, UpdatedLine f final s t old new ∧
      (∀ field ≠ "semantic_hash", checked field = fields field) ∧
      GovernedSet env ctx s old checked final.set ∧
      ∀ field, new field = (final.set field).or (old field) := by
  obtain ⟨p, result, prepared, executed⟩ := step
  obtain ⟨stamped, final, old, new, fingerprinted, line, noInc, noPush, _, governed⟩ :=
    updateOne_effect plain prepared executed
  refine ⟨final, stamped.set, old, new, line, fingerprinted.set, governed counted, fun field => ?_⟩
  exact Update.apply_field line.applied (by rw [noInc]; simp [Update.ofSet]) (by rw [noPush]; simp [Update.ofSet])

/-- The fields the mark on a replaced line sets. -/
def supersededNames : List String :=
  ["status", "superseded_at", "superseded_by", "superseded_by_version_id", "location_id", "floor_id", "rack_id"]

theorem supersede_effect {username : String} {successor : Doc} (plain : ctx.transition = none)
    (step : WriteStep env ctx (.updateOne f (.ofSet (supersededFields env username successor))) s t) :
    ∃ stamped old new, UpdatedLine f stamped s t old new ∧
      (∀ field, field ∉ supersededNames → field ≠ "semantic_hash" → new field = old field) ∧
      new "superseded_at" = some (.date env.now) ∧
      ((∃ payload, new "semantic_hash" = some (.str (env.digest payload))) ∨
        old.has "counted_qty" = false ∧ new "semantic_hash" = old "semantic_hash") := by
  obtain ⟨stamped, old, new, line, fields, hashed, unhashed⟩ := setOne_effect plain rfl step
  refine ⟨stamped, old, new, line, ?_, ?_, ?_⟩
  · intro field other notHash
    rw [fields field notHash]
    have absent : supersededFields env username successor field = none := Doc.ofList_other other
    rw [absent]
    rfl
  · rw [fields _ (by decide)]
    rfl
  · cases counted : old.has "counted_qty" with
    | true => exact .inl (hashed counted)
    | false => exact .inr ⟨rfl, unhashed counted⟩

end

theorem batchFields_names (change : QuantityChange) : ∀ name ∈ (batchFields change).map Prod.fst, name = "batches" := by
  unfold batchFields
  split <;> simp

variable {change : QuantityChange}

theorem changeStamp_other {user : User} {field : String}
    (other : field ∉ ["updated_at", "updated_by", "batches"]) :
    Doc.ofList ([("updated_at", .date env.now), ("updated_by", .str user.username)] ++
      batchFields change) field = none := by
  refine Doc.ofList_other fun member => other ?_
  simp only [List.map_append, List.mem_append] at member
  rcases member with stamp | batch
  · simp only [List.map_cons, List.map_nil] at stamp
    simp only [List.mem_cons] at stamp ⊢
    tauto
  · rw [batchFields_names change field batch]
    decide

/-- The fields `add_quantity_to_count_line` and `update_count_line` may change. -/
def changedNames : List String :=
  ["counted_qty", "variance", "version", "updated_at", "updated_by", "batches", "semantic_hash"]

variable {line : Doc}

section

variable {ctx : WriteContext} {user : User} {qty : ℚ}

theorem addQuantity_effect
    (step : WriteStep env ctx (.findOneAndUpdate f (addQuantityUpdate env user qty change)) s t) :
    ∃ stamped old new, UpdatedLine f stamped s t old new ∧ (∀ field, field ∉ changedNames → new field = old field) ∧
      new.get "counted_qty" = .num (asFloat (old.get "counted_qty") + qty) ∧
      new.get "variance" = .num (asFloat (old.get "variance") + qty) := by
  obtain ⟨p, result, prepared, executed⟩ := step
  obtain ⟨stamped, old, new, fingerprinted, line, _⟩ := findOneAndUpdate_effect prepared executed
  refine ⟨stamped, old, new, line, ?_, ?_, ?_⟩
  · intro field other
    simp only [changedNames, List.mem_cons, not_or] at other
    have unset : (addQuantityUpdate env user qty change).set field = none :=
      changeStamp_other (by simp only [List.mem_cons]; tauto)
    rw [fingerprinted.field line.applied (by tauto) (by simp [addQuantityUpdate]; tauto)
      (by simp [addQuantityUpdate]), unset]
    rfl
  · exact (fingerprinted.increment line.applied [] rfl (by simp)
      (by simp [addQuantityUpdate])).2
  · exact (fingerprinted.increment line.applied [("counted_qty", qty)] rfl (by simp)
      (by simp [addQuantityUpdate])).2

theorem updateCountLine_effect {r : Store}
    (fieldsEq : updateCountLineFields env user line change r = .ok fields)
    (step : WriteStep env ctx (.findOneAndUpdate f { set := fields, inc := [("version", 1)] }) s t) :
    ∃ stamped old new, UpdatedLine f stamped s t old new ∧ (∀ field, field ∉ changedNames → new field = old field) ∧
      (change.qty = none ∧ new "counted_qty" = old "counted_qty" ∧ new "variance" = old "variance" ∨
        ∃ qty measured, change.qty = some qty ∧ liveErpQty (erpItemForExistingLine r line) line = .ok measured ∧
          new "counted_qty" = some (.num qty) ∧ new "variance" = some (.num (qty - measured))) := by
  obtain ⟨p, result, prepared, executed⟩ := step
  obtain ⟨stamped, old, new, fingerprinted, updated, _⟩ := findOneAndUpdate_effect prepared executed
  have field : ∀ name, name ≠ "version" → name ≠ "semantic_hash" → new name = (fields name).or (old name) := by
    intro name notVersion notHash
    exact fingerprinted.field updated.applied notHash (by simpa using notVersion.symm) (by simp)
  unfold updateCountLineFields at fieldsEq
  refine ⟨stamped, old, new, updated, ?_, ?_⟩
  · intro name other
    simp only [changedNames, List.mem_cons, not_or] at other
    have stamp : name ∉ ["updated_at", "updated_by", "batches"] := by
      simp only [List.mem_cons]
      tauto
    rw [field name (by tauto) (by tauto)]
    split at fieldsEq
    · rw [← Except.ok.inj fieldsEq, changeStamp_other stamp]
      rfl
    · simp only [bind_success, pure_success] at fieldsEq
      obtain ⟨_, _, rfl⟩ := fieldsEq
      rw [List.append_assoc, List.cons_append, List.cons_append, List.nil_append, Doc.ofList_cons,
        Doc.ofList_cons, if_neg (by tauto), if_neg (by tauto), changeStamp_other stamp]
      rfl
  · rw [field "counted_qty" (by decide) (by decide), field "variance" (by decide) (by decide)]
    split at fieldsEq
    · next noQty =>
      refine .inl ⟨noQty, ?_, ?_⟩
      · rw [← Except.ok.inj fieldsEq, changeStamp_other (by decide)]
        rfl
      · rw [← Except.ok.inj fieldsEq, changeStamp_other (by decide)]
        rfl
    · next qty given =>
      simp only [bind_success, pure_success] at fieldsEq
      obtain ⟨measured, measuredEq, rfl⟩ := fieldsEq
      exact .inr ⟨qty, measured, given, measuredEq, rfl, rfl⟩

/-- The ids a line was merged from. -/
def mergedFrom (line : Doc) : List Atom :=
  match line.get "merged_from" with
  | .list items => items
  | _ => []

variable {targetId sourceId : String}

/-- The write to the target leaves everything but the count, the version and the list
of sources alone. -/
theorem mergeTarget_effect (step : WriteStep env ctx (mergeTargetWrite targetId sourceId qty) s t) :
    ∃ stamped old new, UpdatedLine (.eq "id" (.str targetId)) stamped s t old new ∧
      (∀ field, field ∉ ["counted_qty", "version", "merged_from", "semantic_hash"] → new field = old field) ∧
      floatOrError (old.get "counted_qty") = .ok (asFloat (old.get "counted_qty")) ∧
      new.get "counted_qty" = .num (asFloat (old.get "counted_qty") + qty) ∧
      mergedFrom new = mergedFrom old ++ [.str sourceId] := by
  obtain ⟨p, result, prepared, executed⟩ := step
  obtain ⟨stamped, old, new, fingerprinted, line, _⟩ := findOneAndUpdate_effect prepared executed
  obtain ⟨oldRead, counted⟩ := fingerprinted.increment line.applied [] rfl (by simp) (by simp)
  refine ⟨stamped, old, new, line, ?_, oldRead, counted, ?_⟩
  · intro field other
    simp only [List.mem_cons, not_or] at other
    rw [fingerprinted.field line.applied (by tauto) (by simp; tauto) (by simp; tauto)]
    rfl
  · have pushed := Update.apply_push line.applied fingerprinted.push
      (by rw [fingerprinted.inc]; simp)
    rcases pushed with ⟨absent, alone⟩ | ⟨stored, grown, present, appended, after⟩
    · simp only [mergedFrom, Doc.get_of_some alone, Doc.get_eq, absent]
      rfl
    · simp only [mergedFrom, Doc.get_of_some after, Doc.get_of_some present]
      rcases Pushed.onto_atom appended with ⟨items, rfl, rfl⟩ | ⟨rfl, rfl⟩
      · rfl
      · rfl

theorem mergeSource_effect {source : Doc}
    (step : WriteStep env ctx (mergeSourceWrite env targetId sourceId source) s t) :
    ∃ f stamped old new, UpdatedLine f stamped s t old new ∧
      ∀ field, field ∉ ["merged_into_id", "merged_at", "version", "semantic_hash"] → new field = old field := by
  obtain ⟨p, result, prepared, executed⟩ := step
  obtain ⟨stamped, old, new, fingerprinted, line, _⟩ := findOneAndUpdate_effect prepared executed
  refine ⟨_, stamped, old, new, line, ?_⟩
  intro field other
  simp only [List.mem_cons, List.not_mem_nil, or_false, not_or] at other
  rw [fingerprinted.field line.applied (by tauto) (by simp; tauto) (by simp)]
  simp [other.1, other.2.1]

end

variable {v : Value}

theorem holds_eq_congr {a b : Doc} {name : String} (same : a name = b name) :
    (Filter.eq name v).holds a = (Filter.eq name v).holds b := by
  simp only [Filter.holds, Filter.fieldIs, same]

/-- The source lines of the session hold no quantity. -/
def EmptySources (sourceIds : List String) (targetId sessionId : String) (s : Store) : Prop :=
  ∀ sourceId ∈ sourceIds, sourceId ≠ targetId → ∀ line ∈ s.countLines,
    (Filter.eq "id" (.str sourceId)).holds line →
    (line.get "session_id").textOrEmpty = sessionId →
    ∀ q, floatOrError (line.get "counted_qty") = .ok q → q = 0

theorem ofLines_emptySources (sourceIds : List String) (targetId sessionId : String) :
    OfLines (EmptySources sourceIds targetId sessionId) := by
  rintro s t ⟨_, _, _, _, _, _, rfl⟩ holds
  exact holds

theorem EmptySources.updated {sourceIds : List String} {targetId sessionId : String}
    (empty : EmptySources sourceIds targetId sessionId s) (line : UpdatedLine f u s t old new)
    (id : new "id" = old "id") (session : new "session_id" = old "session_id")
    (counted : floatOrError (new.get "counted_qty") = floatOrError (old.get "counted_qty")) :
    EmptySources sourceIds targetId sessionId t := by
  rw [line.stored]
  intro sourceId listed different other member matched inSession q read
  rcases Collection.mem_replaceFirst member with kept | rfl
  · exact empty sourceId listed different other kept matched inSession q read
  · exact empty sourceId listed different old line.mem (by rwa [← holds_eq_congr id])
      (by rwa [← Doc.get_congr session]) q (by rwa [← counted])

theorem OfLines.and {I J : Store → Prop} (first : OfLines I) (second : OfLines J) :
    OfLines fun s => I s ∧ J s := fun s t same both => ⟨first s t same both.1, second s t same both.2⟩

section

variable {I : Store → Prop} {user : User} {sourceIds : List String} {targetId : String} (free : OfLines I) (inv : I s)
include free inv

/-- Every round of the merge keeps `I`. -/
theorem final_mergeRounds
    (keeps : ∀ sourceId ∈ sourceIds, ∀ target targetSession t,
      s.countLines.find? (Filter.eq "id" (.str targetId)).holds = some target →
      MergeKeeps I env user targetId sourceId target targetSession t) :
    I ((mergeCountLines env user sourceIds targetId).final s) := by
  refine final_mergeCountLines free inv fun t target _ found _ invT => ?_
  refine final_mergeLoop (G := fun rest _ => ∀ sourceId ∈ rest, sourceId ∈ sourceIds) ?_ ?_
    (fun _ member => member) invT
  · intro sourceId rest t listed other member
    exact listed other (by simp [member])
  · intro sourceId rest t listed invRound
    exact final_mergeSource free (keeps sourceId (listed sourceId (by simp)) target _ t found) invRound

theorem final_mergeTransactional (transactional : env.deployment = .transactional) :
    I ((mergeCountLines env user sourceIds targetId).final s) := by
  refine final_mergeRounds free inv fun sourceId _ target targetSession t _ => ?_
  constructor
  · intro _ _ _ _ alone
    rw [transactional] at alone
    cases alone
  · intro _ _ _ alone
    rw [transactional] at alone
    cases alone

/-- Empty sources: the target's quantity stays what it was. -/
theorem final_mergeEmpty
    (empty : ∀ target, s.countLines.find? (Filter.eq "id" (.str targetId)).holds = some target →
      EmptySources sourceIds targetId (target.get "session_id").textOrEmpty s)
    (updated : ∀ f u t t' old new, UpdatedLine f u t t' old new →
      (∀ field, field ∉
        ["counted_qty", "version", "merged_from", "merged_into_id", "merged_at", "semantic_hash"] →
        new field = old field) →
      asFloat (new.get "counted_qty") = asFloat (old.get "counted_qty") → I t → I t') :
    I ((mergeCountLines env user sourceIds targetId).final s) := by
  cases present : s.countLines.find? (Filter.eq "id" (.str targetId)).holds with
  | none =>
    refine final_mergeRounds free inv fun sourceId _ target targetSession t found => ?_
    rw [present] at found
    cases found
  | some target =>
    refine (final_mergeRounds (free.and (ofLines_emptySources sourceIds targetId
      (target.get "session_id").textOrEmpty)) ⟨inv, empty target present⟩
      fun sourceId listed other targetSession r found => ?_).1
    rw [present] at found
    cases found
    constructor
    · rintro t t' source qty - touched different looked sameSession read ⟨invT, emptyT⟩ step
      obtain ⟨stamped, old, new, line, kept, oldRead, counted, _⟩ := mergeTarget_effect step
      have zero : qty = 0 := by
        rw [← touched.countLines] at looked
        exact emptyT sourceId listed different source (List.mem_of_find?_eq_some looked)
          (List.find?_some looked) sameSession qty read
      rw [zero, add_zero] at counted
      refine ⟨updated _ _ _ _ _ _ line (fun field other => kept field ?_) ?_ invT,
        emptyT.updated line (kept _ (by decide)) (kept _ (by decide)) ?_⟩
      · simp only [List.mem_cons, not_or] at other ⊢
        tauto
      · rw [counted]
        rfl
      · rw [counted, oldRead]
        simp [floatOrError]
    · rintro t t' source - ⟨invT, emptyT⟩ step
      obtain ⟨f, stamped, old, new, line, kept⟩ := mergeSource_effect step
      have sameCount : new "counted_qty" = old "counted_qty" := kept _ (by decide)
      refine ⟨updated _ _ _ _ _ _ line (fun field other => kept field ?_) ?_ invT,
        emptyT.updated line (kept _ (by decide)) (kept _ (by decide)) ?_⟩
      · simp only [List.mem_cons, not_or] at other ⊢
        tauto
      · rw [Doc.get_congr sameCount]
      · rw [Doc.get_congr sameCount]

end

theorem ofList_sanitizeFields (blocked : List String) (data : List (String × Value)) (field : String) :
    Doc.ofList (sanitizeFields blocked data) field = if field ∈ blocked then none else data.lookup field := by
  induction data with
  | nil => simp [sanitizeFields]
  | cons entry rest ih =>
    obtain ⟨name, v⟩ := entry
    simp only [sanitizeFields] at ih ⊢
    by_cases isBlocked : name ∈ blocked
    · rw [List.filter_cons_of_neg (by simpa using isBlocked), ih, List.lookup_cons]
      by_cases same : field = name
      · simp [same, isBlocked]
      · have distinct : (field == name) = false := by simpa using same
        simp [distinct]
    · rw [List.filter_cons_of_pos (by simpa using isBlocked), Doc.ofList_cons, ih, List.lookup_cons]
      by_cases same : field = name
      · simp [same, isBlocked]
      · have distinct : (field == name) = false := by simpa using same
        simp [same, distinct]

/-- The data states another quantity than the line holds. -/
def ChangesQuantity (line : Doc) (data : List (String × Value)) : Prop :=
  ∃ q, ((data.lookup "counted_qty").getD .null).number = some q ∧ floatOrError (line.get "counted_qty") ≠ .ok q

/-- The fields a resolution does not take from its data as they are. -/
def reworkedNames : List String :=
  ["serial_numbers", "serial_entries", "batches", "counted_qty", "updated_at", "conflict_resolved"]

variable {data : List (String × Value)}

/-- The fields a resolution sets: a new quantity, and of the rest what is not blocked. -/
theorem resolvedLineFields_ok (success : resolvedLineFields env line data = .ok fields) :
    (∀ field ∉ reworkedNames, fields field = if field ∈ blockedLineFields then none else data.lookup field) ∧
    ((∃ q, fields "counted_qty" = some (.num q)) ∧ ChangesQuantity line data ∨
      fields "counted_qty" = none ∧ ¬ ChangesQuantity line data) := by
  simp only [resolvedLineFields, bind_success, pure_success] at success
  obtain ⟨current, currentEq, incoming, incomingEq, _, _, stored, _, offered, _, rfl⟩ := success
  refine ⟨?_, ?_⟩
  · intro field other
    simp only [reworkedNames, List.mem_cons, not_or] at other
    rw [Doc.set_other _ _ (by tauto), Doc.set_other _ _ (by tauto), ← ofList_sanitizeFields]
    have plain : ∀ d : Doc, (if incoming = current then d else d.set "counted_qty" (.num incoming)) field
        = d field := by
      intro d
      split
      · rfl
      · exact Doc.set_other _ _ (by tauto)
    rw [plain]
    split
    · rw [Doc.erase_other _ (by tauto), Doc.erase_other _ (by tauto)]
    · rw [Doc.set_other _ _ (by tauto), Doc.erase_other _ (by tauto), Doc.erase_other _ (by tauto)]
  · rw [Doc.set_other _ _ (by decide), Doc.set_other _ _ (by decide)]
    split
    · next same =>
      refine .inr ⟨?_, ?_⟩
      · have absent : Doc.ofList (sanitizeFields blockedLineFields data) "counted_qty" = none := by
          rw [ofList_sanitizeFields, if_pos (by decide)]
        split
        · rw [Doc.erase_other _ (by decide), Doc.erase_other _ (by decide), absent]
        · rw [Doc.set_other _ _ (by decide), Doc.erase_other _ (by decide), Doc.erase_other _ (by decide), absent]
      · rintro ⟨q, stated, differs⟩
        rw [currentEq] at differs
        unfold incomingQty at incomingEq
        split at incomingEq
        · next null =>
          rw [null] at stated
          cases stated
        · rw [stated] at incomingEq
          have read : q = incoming := Except.ok.inj incomingEq
          exact differs (by rw [read, same])
    · next differs =>
      refine .inl ⟨⟨incoming, Doc.set_same _ _ _⟩, incoming, ?_, ?_⟩
      · unfold incomingQty at incomingEq
        split at incomingEq
        · exact absurd (Except.ok.inj incomingEq).symm differs
        · split at incomingEq
          · next q read => rw [read, Except.ok.inj incomingEq]
          · cases incomingEq
      · rw [currentEq]
        intro same
        exact differs (Except.ok.inj same).symm

variable {source : Doc}

theorem copyBaselineFields_other {target : Doc} {field : String} (notQty : field ≠ "erp_qty")
    (notHash : field ≠ "baseline_hash") : copyBaselineFields source target field = target field := by
  simp only [copyBaselineFields]
  cases source "erp_qty" <;> cases source "baseline_hash" <;>
    simp only [Doc.setDefault_other _ _ notHash, Doc.setDefault_other _ _ notQty]

theorem copyBaselineFields_erp {target : Doc} (free : target "erp_qty" = none) (stamped : source "erp_qty" = some v) :
    copyBaselineFields source target "erp_qty" = some v := by
  have missing : target.has "erp_qty" = false := by rw [Doc.has, free, Option.isSome_none]
  have first : target.setDefault "erp_qty" v "erp_qty" = some v := by
    simp [Doc.setDefault, missing]
  simp only [copyBaselineFields, stamped]
  cases source "baseline_hash" with
  | none => exact first
  | some hash => exact (Doc.setDefault_other _ hash (by decide)).trans first

/-- What resolving a conflict does to its line: a governed update with a new quantity,
or the data's own values. -/
theorem resolve_effect {entityId : String}
    (found : s.countLines.find? (entityLookup entityId).holds = some line)
    (fieldsEq : resolvedLineFields env line data = .ok fields)
    (step : WriteStep env (resolverContext line) (.updateOne (entityLookup entityId) (.ofSet fields)) s t) :
    ∃ u new, UpdatedLine (entityLookup entityId) u s t line new ∧
      ((∃ q checked, checked "counted_qty" = some (.num q) ∧
          (∀ field, field ∉ reworkedNames → field ≠ "semantic_hash" → checked field =
            if field ∈ blockedLineFields then none else data.lookup field) ∧
          GovernedSet env (resolverContext line) s line checked u.set ∧
          ∀ field, new field = (u.set field).or (line field)) ∨
        ¬ ChangesQuantity line data ∧ new "counted_qty" = line "counted_qty" ∧
          ∀ field, field ∉ reworkedNames → field ≠ "semantic_hash" → new field =
            (if field ∈ blockedLineFields then none else data.lookup field).or (line field)) := by
  obtain ⟨others, quantity⟩ := resolvedLineFields_ok fieldsEq
  rcases quantity with ⟨⟨q, counted⟩, _⟩ | ⟨uncounted, unchanged⟩
  · obtain ⟨final, checked, old, new, updated, same, governed, applied⟩ :=
      setOne_governed rfl (by simp [Doc.has, counted]) step
    rw [updated.found] at found
    cases found
    refine ⟨final, new, updated, .inl ⟨q, checked, ?_, ?_, governed, applied⟩⟩
    · rw [same _ (by decide), counted]
    · intro field other notHash
      rw [same field notHash, others field other]
  · obtain ⟨stamped, old, new, updated, applied, _, _⟩ := setOne_effect rfl uncounted step
    rw [updated.found] at found
    cases found
    refine ⟨stamped, new, updated, .inr ⟨unchanged, ?_, ?_⟩⟩
    · rw [applied _ (by decide), uncounted]
      rfl
    · intro field other notHash
      rw [applied field notHash, others field other]

theorem delete_effect {ctx : WriteContext} (plain : ctx.transition = none)
    (step : WriteStep env ctx (.deleteOne f) s t) : t = s.withLines (Collection.deleteOne f s.countLines) := by
  obtain ⟨p, result, prepared, executed⟩ := step
  obtain ⟨checked, moved, asserted, transitioned, enforced, _⟩ := prepareWrite_ok prepared
  have checkedEq : checked = .deleteOne f := by
    simp only [assertMandatoryWriteInvariants] at asserted
    split at asserted
    · cases asserted
    · simp only [bind_success, pure_success] at asserted
      obtain ⟨_, _, rfl⟩ := asserted
      rfl
  subst checkedEq
  simp only [applyStateTransition, plain, Except.ok.injEq] at transitioned
  subst transitioned
  have opEq : p.op = .deleteOne f := (Except.ok.inj enforced).symm
  rw [opEq] at executed
  obtain ⟨lines, onLines, stored⟩ := executeCountLineOperation_ok executed
  simp only [executeOnLines, Except.ok.injEq, Prod.mk.injEq] at onLines
  rw [stored, ← onLines.2]

def EachLine (P : Doc → Prop) (s : Store) : Prop := ∀ line ∈ s.countLines, P line

theorem ofLines_eachLine (P : Doc → Prop) : OfLines (EachLine P) := by
  rintro s t ⟨_, _, _, _, _, _, rfl⟩ each
  exact each

variable {P : Doc → Prop}

theorem EachLine.updated (each : EachLine P s) (line : UpdatedLine f u s t old new) (kept : P new) :
    EachLine P t := by
  rw [line.stored]
  intro other member
  rcases Collection.mem_replaceFirst member with stays | rfl
  · exact each other stays
  · exact kept

theorem EachLine.append (each : EachLine P s) (new : P line) :
    EachLine P (s.withLines (s.countLines ++ [line])) := by
  intro other member
  simp only [Store.withLines, List.mem_append, List.mem_singleton] at member
  rcases member with stays | rfl
  · exact each other stays
  · exact new

end StockVerification
