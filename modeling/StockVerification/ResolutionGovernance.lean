import StockVerification.LineEffects

/-!
# What a conflict resolution may put on a line

Source: backend/services/sync_conflicts_service.py:397-526 and
backend/services/count_lines/write_core.py:746-801.

The client's document passes a deny-list of fifteen names and is then written. Governance
runs over the result only where the quantity changes, and it reads the item, the barcode and
the floor from the merged document, so from the client. The module compares the written line
with what governance would say of the stored line and the resolved quantity alone.
-/

namespace StockVerification

open Foundation Action

/-- The line under another barcode, where one is named. -/
def withBarcode (line : Doc) (named : Option Value) : Doc :=
  match named with
  | some v => line.set "barcode" v
  | none => line

/-- What governance decides about a stored line with the given quantity, and for which item.
Whether a reason was given is no part of the decision, only of its acceptance. -/
def lineVerdict (s : Store) (line : Doc) (named : Option Value) (q : ℚ) :
    Except Error (GovernanceDecision × Doc) := do
  let document := (withBarcode line named).set "counted_qty" (.num q)
  let itemCode := governedItemCode document (resolverContext line)
  let item := resolveErpItem s none document itemCode
  let baseline ← stampBaseline s document item (governedSessionId document (resolverContext line)) itemCode
  let decision ← evaluatePolicy s.varianceThresholdConfigs
    { countedQty := q, expectedQty := baseline.1, item := item, location := line.get "floor_no"
      varianceReason := .str "stated", correctionReason := .null, requireCorrectionReason := false }
  pure (decision, item)

/-- The governance state the write core stamps with such a decision; a line without a
barcode takes the item's. -/
def verdictFields (d : GovernanceDecision) (item : Doc) (named : Option Value) :
    List (String × Value) :=
  [("variance", .num d.variance), ("approval_status", .str d.approvalStatus),
    ("approved_by", d.approvedBy), ("status", .str d.status), ("verified", .bool false),
    ("verified_by", .null)] ++
  if !(named.getD .null).truthy && (item.get "barcode").truthy then
    [("barcode", item.get "barcode")] else []

/-- The values governance computes from a stored line, a barcode and a quantity. -/
def governedFields (s : Store) (line : Doc) (named : Option Value) (q : ℚ) : Doc :=
  Doc.set (match lineVerdict s line named q with
    | .ok (d, item) => Doc.ofList (verdictFields d item named)
    | .error _ => Doc.empty) "counted_qty" (.num q)

variable {s : Store} {d : GovernanceDecision} {q : ℚ}

theorem governedFields_verdict {line item : Doc} {named : Option Value} {field : String}
    (verdict : lineVerdict s line named q = .ok (d, item)) (notQty : field ≠ "counted_qty") :
    governedFields s line named q field = Doc.ofList (verdictFields d item named) field := by
  rw [governedFields, Doc.set_other _ _ notQty, verdict]

def verdictNames : List String :=
  ["variance", "approval_status", "approved_by", "status", "verified", "verified_by", "barcode"]

/-- The other inputs of the fingerprint that the deny-list lets through, and the
idempotency key. -/
def identityNames : List String :=
  ["idempotency_key", "item_code", "item_id", "location_id", "floor_no", "floor_id", "rack_no", "rack_id"]

def protectedFields : List String :=
  verdictNames ++ identityNames ++ ["session_id", "version", "counted_qty"]

/-- A field keeps its stored value or takes the one governance computes. -/
def Allowed (s : Store) (line : Doc) (q : ℚ) (field : String) (v : Option Value) : Prop :=
  v = line field ∨ ∃ w, governedFields s line none q field = some w ∧ v = some w

def GovernanceKept (s : Store) (line : Doc) (q : ℚ) (new : Doc) : Prop :=
  ∀ field ∈ protectedFields, Allowed s line q field (new field)

/-- The quantity a resolution ends up with. -/
def resolvedQty (line : Doc) (data : List (String × Value)) : Except Error ℚ := do
  let current ← floatOrError (line.get "counted_qty")
  incomingQty data current

def QuantityStays (line : Doc) (q : ℚ) : Prop := floatOrError (line.get "counted_qty") = .ok q

/-- What a changed quantity leaves in a stamped field: governance's value for the line under
the barcode the data names. -/
def barcodeVerdict (s : Store) (line : Doc) (data : List (String × Value)) (q : ℚ)
    (field : String) : Option Value :=
  (governedFields s line (data.lookup "barcode") q field).or
    ((if field = "barcode" then data.lookup field else none).or (line field))

/-- Data that forges nothing. -/
structure HonestData (s : Store) (line : Doc) (q : ℚ) (data : List (String × Value)) : Prop where
  identity : ∀ field ∈ identityNames, data.lookup field = none ∨ data.lookup field = line field
  uncounted : QuantityStays line q → ∀ field ∈ verdictNames,
    data.lookup field = none ∨ Allowed s line q field (data.lookup field)
  counted : ¬ QuantityStays line q → ∀ field ∈ verdictNames,
    Allowed s line q field (barcodeVerdict s line data q field)

theorem evaluatePolicy_reason {configs : List Doc} {input : PolicyInput}
    (success : evaluatePolicy configs input = .ok d) :
    evaluatePolicy configs { input with
      varianceReason := .str "stated", correctionReason := .null, requireCorrectionReason := false } =
      .ok d := by
  simp only [evaluatePolicy, bind_success, pure_success] at success ⊢
  obtain ⟨_, _, ⟨required, violated⟩, checked, _, _, rfl⟩ := success
  have stated : (normalizeReason (.str "stated") != .null || Value.null.truthy) = true := by decide
  refine ⟨(), ?_, (required, violated), checked, (), ?_, rfl⟩
  · rw [require_ok]
    rfl
  · rw [require_ok, stated]
    simp

/-- The expected quantity depends on the document only through the quantity it states. -/
theorem stampBaseline_expected {a b item stamped : Doc} {sessionId itemCode : String} {expected : ℚ}
    (same : a.get "erp_qty" = b.get "erp_qty")
    (success : stampBaseline s a item sessionId itemCode = .ok (expected, stamped)) :
    ∃ other, stampBaseline s b item sessionId itemCode = .ok (expected, other) := by
  unfold stampBaseline at success ⊢
  split at success
  · next inSession =>
    rw [if_pos inSession]
    simp only [bind_success, pure_success, Prod.mk.injEq] at success ⊢
    obtain ⟨⟨qty, hash⟩, resolved, rfl, _⟩ := success
    exact ⟨_, (qty, hash), resolved, rfl, rfl⟩
  · next free =>
    rw [if_neg free, ← same]
    simp only [bind_success] at success ⊢
    obtain ⟨stated, statedEq, success⟩ := success
    split at success
    · next zero =>
      simp only [bind_success, pure_success, Prod.mk.injEq] at success
      obtain ⟨stock, stockEq, rfl, _⟩ := success
      refine ⟨b.setDefault "erp_qty" (.num stock), stated, statedEq, ?_⟩
      rw [if_pos zero]
      simp only [bind_success, pure_success, Prod.mk.injEq]
      exact ⟨stock, stockEq, rfl, rfl⟩
    · next nonzero =>
      simp only [pure_success, Prod.mk.injEq] at success
      refine ⟨b, stated, statedEq, ?_⟩
      rw [if_neg nonzero]
      simp only [pure, Except.pure, success.1]

/-- A merged document that keeps the line's item code and floor gets the verdict of the line
under the document's barcode. -/
theorem lineVerdict_of_evaluated {line merged : Doc} {named : Option Value} {e : Evaluation}
    (evaluated : evaluateGovernanceForDocument s (resolverContext line) merged = .ok e)
    (counted : merged "counted_qty" = some (.num q))
    (same : ∀ field ∈ ["item_code", "session_id", "erp_qty", "floor_no"], merged field = line field)
    (barcode : merged "barcode" = named.or (line "barcode")) :
    lineVerdict s line named q = .ok (e.decision, e.erpItem) := by
  obtain ⟨counted', expected, countedEq, itemEq, baseline, decided⟩ :=
    evaluateGovernanceForDocument_ok evaluated
  have quantity : counted' = q := by
    rw [Doc.get_of_some counted, floatOrError, Value.numberOrZero_num] at countedEq
    exact (Except.ok.inj countedEq).symm
  subst quantity
  -- The document the verdict is about reads like the merged one wherever governance looks.
  have reads : ∀ field ∈ ["item_code", "session_id", "erp_qty", "floor_no"],
      ((withBarcode line named).set "counted_qty" (.num counted')).get field = merged.get field := by
    intro field member
    have notQty : field ≠ "counted_qty" := by
      rintro rfl
      revert member
      decide
    have notBarcode : field ≠ "barcode" := by
      rintro rfl
      revert member
      decide
    apply Doc.get_congr
    rw [Doc.set_other _ _ notQty, same field member]
    cases named with
    | none => rfl
    | some v => exact Doc.set_other _ _ notBarcode
  have scanned : ((withBarcode line named).set "counted_qty" (.num counted')).get "barcode" =
      merged.get "barcode" := by
    apply Doc.get_congr
    rw [Doc.set_other _ _ (by decide), barcode]
    cases named with
    | none => rfl
    | some v => exact Doc.set_same _ _ _
  have codes : governedItemCode ((withBarcode line named).set "counted_qty" (.num counted'))
      (resolverContext line) = governedItemCode merged (resolverContext line) := by
    simp only [governedItemCode, reads "item_code" (by decide)]
  have sessions : governedSessionId ((withBarcode line named).set "counted_qty" (.num counted'))
      (resolverContext line) = governedSessionId merged (resolverContext line) := by
    simp only [governedSessionId, reads "session_id" (by decide)]
  have items : resolveErpItem s none ((withBarcode line named).set "counted_qty" (.num counted'))
      (governedItemCode merged (resolverContext line)) = e.erpItem := by
    rw [itemEq]
    simp only [resolveErpItem, resolverContext, scanned]
  obtain ⟨other, stampedEq⟩ := stampBaseline_expected (reads "erp_qty" (by decide)).symm baseline
  have floor : (resolverContext line).location.orElse (e.document.get "floor_no") = line.get "floor_no" := by
    have kept : e.document "floor_no" = merged "floor_no" :=
      stampBaseline_other baseline (by decide) (by decide)
    exact (Doc.get_congr kept).trans (Doc.get_congr (same "floor_no" (by decide)))
  have verdict := evaluatePolicy_reason decided
  rw [floor] at verdict
  simp only [lineVerdict, codes, sessions, items, bind_success, pure_success]
  exact ⟨_, stampedEq, e.decision, verdict, rfl⟩

variable {data : List (String × Value)} {env : Env}

theorem resolvedLineFields_qty {line fields : Doc} (success : resolvedLineFields env line data = .ok fields) :
    ∃ q, resolvedQty line data = .ok q ∧ (QuantityStays line q ∧ fields "counted_qty" = none ∨
        ¬ QuantityStays line q ∧ fields "counted_qty" = some (.num q)) := by
  have quantity := (resolvedLineFields_ok success).2
  simp only [resolvedLineFields, bind_success, pure_success] at success
  obtain ⟨current, currentEq, incoming, incomingEq, _, _, stored, _, offered, _, rfl⟩ := success
  refine ⟨incoming, ?_, ?_⟩
  · simp only [resolvedQty, bind_success]
    exact ⟨current, currentEq, incomingEq⟩
  · unfold QuantityStays
    rw [currentEq, Except.ok.injEq, Doc.set_other _ _ (by decide), Doc.set_other _ _ (by decide)]
    rw [Doc.set_other _ _ (by decide), Doc.set_other _ _ (by decide)] at quantity
    by_cases same : incoming = current
    · rw [if_pos same] at quantity ⊢
      refine .inl ⟨same.symm, ?_⟩
      rcases quantity with ⟨⟨q, set⟩, _⟩ | ⟨absent, _⟩
      · exfalso
        revert set
        split <;> simp [Doc.erase, Doc.set, ofList_sanitizeFields, blockedLineFields]
      · exact absent
    · rw [if_neg same]
      exact .inr ⟨fun eq => same eq.symm, Doc.set_same _ _ _⟩

theorem verdictFields_stamped (d : GovernanceDecision) (item : Doc) (named : Option Value)
    {field : String} (member : field ∈ verdictNames) (notBarcode : field ≠ "barcode") :
    ∃ v, Doc.ofList (verdictFields d item named) field = some v := by
  simp only [verdictNames, List.mem_cons, List.not_mem_nil, or_false] at member
  rcases member with rfl | rfl | rfl | rfl | rfl | rfl | rfl
  case inr.inr.inr.inr.inr.inr => exact absurd rfl notBarcode
  all_goals exact ⟨_, rfl⟩

/-- The verdict fields in the `$set` document of a governed write. -/
theorem applyAuthoritativeFields_verdict {ctx : WriteContext} {session : Option Doc} {target item : Doc}
    {field : String} {named : Option Value} (stamps : ctx.setStatusFromGovernance = true)
    (barcode : target "barcode" = named) (member : field ∈ verdictNames) :
    applyAuthoritativeFields env ctx session target d item field =
      (Doc.ofList (verdictFields d item named) field).or (target field) := by
  have places : ∀ name ∈ verdictNames, Doc.ofList (placementFields target item) name = none := by
    intro name listed
    apply Doc.ofList_other
    intro placed
    unfold placementFields at placed
    revert name
    split <;> simp only [List.map_cons, List.map_nil] <;> decide
  have named' : target.get "barcode" = named.getD .null := by rw [Doc.get, barcode]
  simp only [applyAuthoritativeFields, Doc.setAll, Doc.update_apply, Doc.ofList_append,
    descriptiveFields, places field member, Option.or_none, named', verdictFields]
  congr 1
  simp only [verdictNames, List.mem_cons, List.not_mem_nil, or_false] at member
  rcases member with rfl | rfl | rfl | rfl | rfl | rfl | rfl
  case inr.inr.inr.inr.inr.inr =>
    have undecided : Doc.ofList (decisionFields env ctx d) "barcode" = none := by
      simp [decisionFields, stamps]
    have unreset : Doc.ofList (reviewResetFields target) "barcode" = none := by
      apply Doc.ofList_other
      unfold reviewResetFields
      split <;> simp
    rw [undecided, unreset]
    simp
  all_goals simp [decisionFields, stamps, reviewResetFields]

/-- What a resolution leaves in the protected fields of its line. -/
structure ResolvedLine (s : Store) (line : Doc) (data : List (String × Value)) (q : ℚ) (new : Doc) :
    Prop where
  identity : ∀ field ∈ identityNames, new field = (data.lookup field).or (line field)
  kept : ∀ field ∈ ["session_id", "version"], new field = line field
  quantity : new "counted_qty" = line "counted_qty" ∨ new "counted_qty" = some (.num q)
  uncounted : QuantityStays line q → ∀ field ∈ verdictNames, new field = (data.lookup field).or (line field)
  counted : ¬ QuantityStays line q →
    (∀ field ∈ identityNames, data.lookup field = none ∨ data.lookup field = line field) →
    ∀ field ∈ verdictNames, new field = barcodeVerdict s line data q field

theorem ResolvedLine.ofSameVerdicts {a b : Store} {line new : Doc} (written : ResolvedLine a line data q new)
    (same : governedFields a = governedFields b) : ResolvedLine b line data q new := by
  refine { written with counted := ?_ }
  intro changed honest field member
  rw [written.counted changed honest field member, barcodeVerdict, barcodeVerdict, same]

theorem open_names_unblocked : ∀ field ∈ identityNames ++ verdictNames,
    field ∉ reworkedNames ∧ field ≠ "semantic_hash" ∧ field ∉ blockedLineFields := by decide

theorem ruled_names_blocked : ∀ field ∈ ["session_id", "version", "erp_qty"],
    field ∉ reworkedNames ∧ field ≠ "semantic_hash" ∧ field ∈ blockedLineFields := by decide

theorem identity_names_unstamped : ∀ field ∈ identityNames ++ ["session_id", "version", "counted_qty"],
    field ∉ authoritativeNames ∧ field ≠ "erp_qty" ∧ field ≠ "baseline_hash" := by decide

theorem or_eq_of_same {α : Type} {a b : Option α} (same : a = none ∨ a = b) : a.or b = b := by
  rcases same with rfl | rfl
  · rfl
  · exact Option.or_self

variable {t : Store} {entityId : String}

section

variable {line fields : Doc} (found : s.countLines.find? (entityLookup entityId).holds = some line)
  (fieldsEq : resolvedLineFields env line data = .ok fields)
include found fieldsEq

/-- A resolution with an unchanged quantity writes the data as it is. -/
theorem resolvedLine_uncounted (stays : QuantityStays line q) (absent : fields "counted_qty" = none)
    (step : WriteStep env (resolverContext line) (.updateOne (entityLookup entityId) (.ofSet fields)) s t) :
    ∃ u new, UpdatedLine (entityLookup entityId) u s t line new ∧ ResolvedLine s line data q new := by
  have others := (resolvedLineFields_ok fieldsEq).1
  obtain ⟨stamped, old, new, updated, applied, _, _⟩ := setOne_effect rfl absent step
  rw [updated.found] at found
  cases found
  have open_ : ∀ field ∈ identityNames ++ verdictNames, new field = (data.lookup field).or (line field) := by
    intro field member
    obtain ⟨plain, notHash, unblocked⟩ := open_names_unblocked field member
    rw [applied field notHash, others field plain, if_neg unblocked]
  refine ⟨stamped, new, updated, ⟨?_, ?_, ?_, ?_, ?_⟩⟩
  · exact fun field member => open_ field (List.mem_append_left _ member)
  · intro field member
    obtain ⟨plain, notHash, blocked⟩ := ruled_names_blocked field (List.mem_append_left ["erp_qty"] member)
    rw [applied field notHash, others field plain, if_pos blocked]
    rfl
  · left
    rw [applied _ (by decide), absent]
    rfl
  · exact fun _ field member => open_ field (List.mem_append_right _ member)
  · exact fun changed => absurd stays changed

/-- A resolution with a new quantity writes governance's verdict on the merged document. -/
theorem resolvedLine_counted (changed : ¬ QuantityStays line q) (present : fields "counted_qty" = some (.num q))
    (step : WriteStep env (resolverContext line) (.updateOne (entityLookup entityId) (.ofSet fields)) s t) :
    ∃ u new, UpdatedLine (entityLookup entityId) u s t line new ∧ ResolvedLine s line data q new := by
  have others := (resolvedLineFields_ok fieldsEq).1
  obtain ⟨final, checked, old, new, updated, same, ⟨e, evaluated, setEq⟩, applied⟩ :=
    setOne_governed rfl (by simp [Doc.has, present]) step
  rw [updated.found] at found
  cases found
  have open_ : ∀ field ∈ identityNames ++ verdictNames, checked field = data.lookup field := by
    intro field member
    obtain ⟨plain, notHash, unblocked⟩ := open_names_unblocked field member
    rw [same field notHash, others field plain, if_neg unblocked]
  have closed : ∀ field ∈ ["session_id", "version", "erp_qty"], checked field = none := by
    intro field member
    obtain ⟨plain, notHash, blocked⟩ := ruled_names_blocked field member
    rw [same field notHash, others field plain, if_pos blocked]
  have counted : checked "counted_qty" = some (.num q) := (same _ (by decide)).trans present
  have unstamped : ∀ field ∈ identityNames ++ ["session_id", "version", "counted_qty"],
      new field = (checked field).or (line field) := by
    intro field member
    obtain ⟨other, notQty, notHash⟩ := identity_names_unstamped field member
    rw [applied field, setEq, applyAuthoritativeFields_other other, copyBaselineFields_other notQty notHash]
  refine ⟨final, new, updated, ⟨?_, ?_, ?_, ?_, ?_⟩⟩
  · intro field member
    rw [unstamped field (List.mem_append_left _ member), open_ field (List.mem_append_left _ member)]
  · intro field member
    rw [unstamped field (List.mem_append_right _ (List.mem_append_left ["counted_qty"] member)),
      closed field (List.mem_append_left ["erp_qty"] member)]
    rfl
  · right
    rw [unstamped _ (by decide), counted]
    rfl
  · exact fun stays => absurd stays changed
  · intro _ honest field member
    have barcode : checked "barcode" = data.lookup "barcode" := open_ _ (by decide)
    have verdict : lineVerdict s line (data.lookup "barcode") q = .ok (e.decision, e.erpItem) := by
      refine lineVerdict_of_evaluated evaluated ?_ ?_ ?_
      · rw [Doc.update_apply, counted]
        rfl
      · intro name listed
        rw [Doc.update_apply]
        apply or_eq_of_same
        rcases mem_four.mp listed with rfl | rfl | rfl | rfl
        · rw [open_ "item_code" (by decide)]
          exact honest "item_code" (by decide)
        · exact .inl (closed "session_id" (by decide))
        · exact .inl (closed "erp_qty" (by decide))
        · rw [open_ "floor_no" (by decide)]
          exact honest "floor_no" (by decide)
      · rw [Doc.update_apply, barcode]
    have notQty : field ≠ "erp_qty" ∧ field ≠ "baseline_hash" ∧ field ≠ "counted_qty" := by
      revert field
      decide
    have target : copyBaselineFields e.document checked "barcode" = data.lookup "barcode" := by
      rw [copyBaselineFields_other (by decide) (by decide), barcode]
    rw [applied field, setEq, applyAuthoritativeFields_verdict rfl target member,
      copyBaselineFields_other notQty.1 notQty.2.1, open_ field (List.mem_append_right _ member),
      barcodeVerdict, governedFields_verdict verdict notQty.2.2]
    by_cases scanned : field = "barcode"
    · rw [if_pos scanned, Option.or_assoc]
    · obtain ⟨v, stamped⟩ := verdictFields_stamped e.decision e.erpItem (data.lookup "barcode")
        member scanned
      rw [if_neg scanned, stamped]
      rfl

theorem resolvedLine_of_step
    (step : WriteStep env (resolverContext line) (.updateOne (entityLookup entityId) (.ofSet fields)) s t) :
    ∃ q u new, resolvedQty line data = .ok q ∧ UpdatedLine (entityLookup entityId) u s t line new ∧
      ResolvedLine s line data q new := by
  obtain ⟨q, resolved, ⟨stays, absent⟩ | ⟨changed, present⟩⟩ := resolvedLineFields_qty fieldsEq
  · obtain ⟨u, new, updated, written⟩ := resolvedLine_uncounted found fieldsEq stays absent step
    exact ⟨q, u, new, resolved, updated, written⟩
  · obtain ⟨u, new, updated, written⟩ := resolvedLine_counted found fieldsEq changed present step
    exact ⟨q, u, new, resolved, updated, written⟩

end

theorem governedFields_identity (s : Store) (line : Doc) (named : Option Value) (q : ℚ) :
    ∀ field ∈ identityNames, governedFields s line named q field = none := by
  intro field member
  have notQty : field ≠ "counted_qty" := by
    revert field
    decide
  cases verdict : lineVerdict s line named q with
  | ok answer =>
    rw [governedFields_verdict verdict notQty]
    apply Doc.ofList_other
    unfold verdictFields
    split <;> simp only [List.append_nil, List.cons_append, List.nil_append, List.map_cons, List.map_nil] <;>
      revert field <;> decide
  | error e =>
    rw [governedFields, Doc.set_other _ _ notQty, verdict]
    rfl

theorem allowed_identity {line : Doc} {field : String} {v : Option Value}
    (member : field ∈ identityNames) : Allowed s line q field v ↔ v = line field := by
  simp [Allowed, governedFields_identity s line none q field member]

theorem allowed_stored (s : Store) (line : Doc) (q : ℚ) (field : String) :
    Allowed s line q field (line field) := .inl rfl

theorem allowed_or_stored {line : Doc} {field : String} {named : Option Value} :
    Allowed s line q field (named.or (line field)) ↔ named = none ∨ Allowed s line q field named := by
  cases named with
  | none => simp [allowed_stored]
  | some v => simp

/-- A written line keeps the governance state exactly when its data was honest. -/
theorem governanceKept_iff {line new : Doc} (written : ResolvedLine s line data q new) :
    GovernanceKept s line q new ↔ HonestData s line q data := by
  constructor
  · intro kept
    have identity : ∀ field ∈ identityNames, data.lookup field = none ∨ data.lookup field = line field := by
      intro field member
      have allowed := kept field (by simp [protectedFields, member])
      rw [written.identity field member, allowed_or_stored, allowed_identity member] at allowed
      exact allowed
    refine ⟨identity, ?_, ?_⟩
    · intro stays field member
      have allowed := kept field (by simp [protectedFields, member])
      rw [written.uncounted stays field member] at allowed
      exact allowed_or_stored.mp allowed
    · intro changed field member
      have allowed := kept field (by simp [protectedFields, member])
      rwa [written.counted changed identity field member] at allowed
  · intro honest field member
    simp only [protectedFields, List.mem_append, or_assoc] at member
    rcases member with stamped | plain | fixed
    · by_cases stays : QuantityStays line q
      · rw [written.uncounted stays field stamped]
        exact allowed_or_stored.mpr (honest.uncounted stays field stamped)
      · rw [written.counted stays honest.identity field stamped]
        exact honest.counted stays field stamped
    · rw [written.identity field plain, or_eq_of_same (honest.identity field plain)]
      exact allowed_stored s line q field
    · rcases mem_three.mp fixed with rfl | rfl | rfl
      · exact .inl (written.kept _ (by decide))
      · exact .inl (written.kept _ (by decide))
      · rcases written.quantity with same | stamped
        · exact .inl same
        · exact .inr ⟨.num q, Doc.set_same _ _ _, stamped⟩

/-- The resolution writes to its line: it is not IGNORE, has data, names an entity, and the line
is not one that is forked instead. -/
def ResolutionApplies (s : Store) (resolution : ConflictResolution) (conflict : SyncConflictRow)
    (data : List (String × Value)) : Prop :=
  resolution ≠ .ignore ∧ data ≠ [] ∧ conflict.entityId ≠ "" ∧ isForked s conflict.entityType conflict.entityId = false

/-- The line of a conflict is as it was, or changed without forging its governance state; no other
line changed. -/
def LineUnforged (s t : Store) (entityId : String) (line : Doc) (data : List (String × Value)) : Prop :=
  ∃ new, t.countLines = Collection.replaceFirst (entityLookup entityId).holds new s.countLines ∧
    (new = line ∨ ∃ q, resolvedQty line data = .ok q ∧ GovernanceKept s line q new)

theorem replaceFirst_self {p : Doc → Bool} {docs : List Doc} {old : Doc}
    (found : docs.find? p = some old) : Collection.replaceFirst p old docs = docs := by
  obtain ⟨front, back, rfl, matched, before⟩ := Collection.find_split found
  exact Collection.replaceFirst_split matched before

theorem replaceFirst_inj {p : Doc → Bool} {docs : List Doc} {old a b : Doc} (found : docs.find? p = some old)
    (same : Collection.replaceFirst p a docs = Collection.replaceFirst p b docs) : a = b := by
  obtain ⟨front, back, rfl, matched, before⟩ := Collection.find_split found
  rw [Collection.replaceFirst_split matched before, Collection.replaceFirst_split matched before] at same
  simpa using same

/-- Applying data to a stored line is one governed write. -/
theorem applyResolvedData_line {committed : Store} {line : Doc}
    (found : s.countLines.find? (entityLookup entityId).holds = some line)
    (success : applyResolvedData env committed "count_line" entityId data s = .ok () t) :
    ∃ fields u, resolvedLineFields env line data = .ok fields ∧
      WriteStep env (resolverContext line)
      (.updateOne (entityLookup entityId) (.ofSet fields)) s u ∧ t.countLines = u.countLines := by
  unfold applyResolvedData at success
  rw [if_neg (by decide), if_pos rfl, bind_ok] at success
  obtain ⟨present, _, looked, success⟩ := success
  obtain ⟨answered, rfl⟩ := reads_ok.mp looked
  have eq : present = some line := (Except.ok.inj answered).symm.trans found
  subst eq
  simp only [bind_ok, reads_ok, pure_ok] at success
  obtain ⟨fields, _, ⟨fieldsEq, rfl⟩, result, _, wrote, _, rfl⟩ := success
  obtain ⟨p, u, prepared, executed, later⟩ := processWriteCore_ok wrote
  exact ⟨fields, u, fieldsEq, ⟨p, result, prepared, executed⟩, later.countLines⟩

/-- The store with the conflict marked as settled. -/
def markedStore (conflictId resolvedBy : String) (resolution : ConflictResolution) (s : Store) : Store :=
  { s with
    syncConflicts := s.syncConflicts.map fun row =>
      if row.id = Text.lower conflictId then settledConflict resolvedBy resolution row else row }

theorem governedFields_marked (conflictId resolvedBy : String) (resolution : ConflictResolution) (s : Store) :
    governedFields (markedStore conflictId resolvedBy resolution s) = governedFields s := by
  have item : ∀ given document itemCode, resolveErpItem (markedStore conflictId resolvedBy resolution s) given document
      itemCode = resolveErpItem s given document itemCode := fun _ _ _ => rfl
  have baseline : ∀ document erpItem sessionId itemCode,
      stampBaseline (markedStore conflictId resolvedBy resolution s) document erpItem sessionId itemCode =
        stampBaseline s document erpItem sessionId itemCode := fun _ _ _ _ => rfl
  have configs : (markedStore conflictId resolvedBy resolution s).varianceThresholdConfigs =
      s.varianceThresholdConfigs := rfl
  funext line named q
  simp only [governedFields, lineVerdict, item, baseline, configs]

section

variable {conflictId resolvedBy : String} {resolution : ConflictResolution}

theorem markConflict_ok {answer : Unit} : markConflict conflictId resolvedBy resolution s = .ok answer t ↔
      t = markedStore conflictId resolvedBy resolution s := by
  rw [markConflict, writes_ok]
  exact ⟨fun marked => (Except.ok.inj marked).symm, fun eq => congrArg Except.ok eq.symm⟩

variable {merged : List (String × Value)} {conflict : SyncConflictRow} {line : Doc}
  (success : resolveConflict env conflictId resolvedBy resolution merged s = .ok () t)
  (stored : s.syncConflicts.find? (·.id == Text.lower conflictId) = some conflict)
  (isLine : conflict.entityType = "count_line")
  (found : s.countLines.find? (entityLookup conflict.entityId).holds = some line)
  (resolved : resolvedData conflict merged resolution = .ok data)
include success stored isLine found resolved

/-- A successful resolution of a line's conflict leaves the lines alone, or is one governed
write. -/
theorem resolveConflict_line :
    (¬ ResolutionApplies s resolution conflict data ∧ t.countLines = s.countLines) ∨
    (ResolutionApplies s resolution conflict data ∧ ∃ fields u, resolvedLineFields env line data = .ok fields ∧
      WriteStep env (resolverContext line)
        (.updateOne (entityLookup conflict.entityId) (.ofSet fields))
        (markedStore conflictId resolvedBy resolution s) u ∧ t.countLines = u.countLines) := by
  simp only [resolveConflict, bind_ok, reads_ok, stored, Except.ok.injEq] at success
  obtain ⟨_, _, ⟨rfl, rfl⟩, _, _, ⟨_, rfl⟩, _, _, ⟨again, rfl⟩, success⟩ := success
  rw [resolved] at again
  cases again
  unfold settleConflict at success
  split at success
  · next silent =>
    left
    rw [markConflict_ok] at success
    refine ⟨?_, by rw [success]; rfl⟩
    rintro ⟨wanted, stated, _, _⟩
    simp [wanted, stated] at silent
  · next loud =>
    rw [Bool.or_eq_true, not_or, beq_iff_eq, List.isEmpty_iff] at loud
    rw [withStore_ok, UnitOfWork.runCommitted_ok] at success
    simp only [resolutionBlock, bind_ok, reads_ok, markConflict_ok] at success
    obtain ⟨_, _, rfl, forked, _, ⟨forkedEq, rfl⟩, success⟩ := success
    have forks : isForked s conflict.entityType conflict.entityId = forked := Except.ok.inj forkedEq
    split at success
    · next skips =>
      left
      obtain ⟨_, rfl⟩ := pure_ok.mp success
      refine ⟨?_, rfl⟩
      rintro ⟨_, _, named, unforked⟩
      rw [← forks, unforked] at skips
      simp [isLine, named] at skips
    · next goes =>
      right
      simp only [Bool.or_eq_true, not_or, beq_iff_eq, Bool.not_eq_true] at goes
      refine ⟨⟨loud.1, loud.2, goes.2, forks.trans goes.1.1⟩, ?_⟩
      rw [isLine] at success
      exact applyResolvedData_line found success

/-- A successful resolution forges no governance state exactly when it does not write to the line
or its data is honest about it. -/
theorem resolution_unforged_iff :
    LineUnforged s t conflict.entityId line data ↔
      (ResolutionApplies s resolution conflict data →
        ∀ q, resolvedQty line data = .ok q → HonestData s line q data) := by
  rcases resolveConflict_line success stored isLine found resolved with
    ⟨silent, same⟩ | ⟨applies, fields, u, fieldsEq, step, same⟩
  · refine iff_of_true ⟨line, ?_, .inl rfl⟩ fun applies => absurd applies silent
    rw [same, replaceFirst_self found]
  · have marked : (markedStore conflictId resolvedBy resolution s).countLines.find?
        (entityLookup conflict.entityId).holds = some line := found
    obtain ⟨q, update, new, quantity, updated, written⟩ := resolvedLine_of_step marked fieldsEq step
    have lines : t.countLines = Collection.replaceFirst (entityLookup conflict.entityId).holds new s.countLines := by
      rw [same, updated.stored]
      rfl
    have exact_ : GovernanceKept s line q new ↔ HonestData s line q data :=
      governanceKept_iff (written.ofSameVerdicts (governedFields_marked ..))
    constructor
    · rintro ⟨other, otherLines, kept⟩ _ q' quantity'
      rw [quantity] at quantity'
      cases quantity'
      have eq : other = new := replaceFirst_inj found (otherLines.symm.trans lines)
      subst eq
      apply exact_.mp
      rcases kept with rfl | ⟨q', again, kept⟩
      · exact fun field _ => allowed_stored s _ q field
      · rw [quantity] at again
        cases again
        exact kept
    · intro honest
      exact ⟨new, lines, .inr ⟨q, quantity, exact_.mpr (honest applies q quantity)⟩⟩

end

/-- A pending line, 6 short of its baseline. -/
def shortLine : Doc := Doc.ofList
  [("_id", .oid "b1"), ("id", .str "L1"), ("session_id", .str "S1"), ("item_code", .str "I1"),
    ("location_id", .str "W1"), ("floor_id", .str "F1"), ("floor_no", .str "F1"), ("rack_id", .str "R1"),
    ("rack_no", .str "R1"), ("counted_qty", .num 4), ("variance", .num (-6)), ("status", .str "pending"),
    ("approval_status", .str "NEEDS_REVIEW"), ("version", .num 1)]

/-- A conflict on that line with the given local data. -/
def conflictOver (localData : List (String × Value)) : SyncConflictRow where
  id := "c1"
  entityType := "count_line"
  entityId := "L1"
  status := "pending"
  localData := localData
  serverData := []

def conflictStore (localData : List (String × Value)) : Store :=
  { countingStore with
    countLines := [shortLine]
    syncConflicts := [conflictOver localData] }

/-- The client's version of the line, approved and verified. -/
def selfApproval : List (String × Value) :=
  [("counted_qty", .num 4), ("status", .str "approved"), ("approval_status", .str "APPROVED"),
    ("approved_by", .str "meera"), ("verified", .bool true), ("variance", .num 0)]

def harmlessNote : List (String × Value) := [("counted_qty", .num 4), ("remark", .str "seen")]

def acceptLocal : Request Unit := resolveConflict sampleEnv "c1" "desk" .acceptLocal []

/-- A remark on the line changes nothing that governance guards. -/
theorem resolution_unforged_harmlessNote : ∃ t, acceptLocal (conflictStore harmlessNote) = .ok () t ∧
    LineUnforged (conflictStore harmlessNote) t "L1" shortLine harmlessNote := by
  obtain ⟨_, t, ran⟩ := exists_ok (show acceptLocal.succeeds (conflictStore harmlessNote) = true by decide +kernel)
  refine ⟨t, ran, (resolution_unforged_iff ran (show _ = some (conflictOver harmlessNote) from rfl)
    rfl rfl rfl).mpr ?_⟩
  intro _ q quantity
  have four : q = 4 := by
    have read : resolvedQty shortLine harmlessNote = .ok 4 := by decide +kernel
    exact Except.ok.inj (quantity.symm.trans read)
  subst four
  refine ⟨fun field member => .inl ?_, fun _ field member => .inl ?_, fun changed => absurd ?_ changed⟩
  · revert field
    decide
  · revert field
    decide
  · unfold QuantityStays
    decide +kernel

/-- The client's local data approves the line in another's name. -/
theorem resolution_forged_selfApproval : ∃ t, acceptLocal (conflictStore selfApproval) = .ok () t ∧
    ¬ LineUnforged (conflictStore selfApproval) t "L1" shortLine selfApproval := by
  obtain ⟨_, t, ran⟩ := exists_ok (show acceptLocal.succeeds (conflictStore selfApproval) = true by decide +kernel)
  refine ⟨t, ran, ?_⟩
  rintro ⟨new, lines, kept⟩
  have forged : (acceptLocal.final (conflictStore selfApproval)).countLines.map (fun line => line "approved_by") =
      [some (.str "meera")] := by decide +kernel
  have only : Collection.replaceFirst (entityLookup "L1").holds new (conflictStore selfApproval).countLines =
      [new] := @Collection.replaceFirst_split _ shortLine new [] [] (by decide +kernel) (by simp)
  rw [final_of_ok ran, lines, only] at forged
  simp only [List.map_cons, List.map_nil, List.cons.injEq, and_true] at forged
  have stored : shortLine "approved_by" = none := by decide
  rcases kept with rfl | ⟨q, quantity, kept⟩
  · rw [stored] at forged
    cases forged
  · have read : resolvedQty shortLine selfApproval = .ok 4 := by decide +kernel
    rw [read] at quantity
    cases quantity
    rcases kept "approved_by" (by decide) with same | ⟨w, governed, taken⟩
    · rw [forged, stored] at same
      cases same
    · have verdict : governedFields (conflictStore selfApproval) shortLine none 4 "approved_by" =
          some .null := by decide +kernel
      rw [forged] at taken
      rw [← taken, verdict] at governed
      cases governed

end StockVerification
