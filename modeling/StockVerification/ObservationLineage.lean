import StockVerification.Observations
import StockVerification.WriteCore
import StockVerification.Foundation.Ancestry

/-!
# The lineage of count observations

Source: backend/services/count_lines/observation.py:196-294.

A recount names its predecessor and takes over its lineage, with the predecessor's id at the end.
The lineage of a first count is the caller's, or its own id. The count line that is projected from
an observation is left out. A lineage is a list of plain values here.
-/
namespace StockVerification

open Foundation

/-- The document of a call, with the clock and the ids that are drawn for it. -/
structure ObservationDraft where
  document : Doc
  newId : String
  objectId : String
  now : Int

/-- The fields of the hash of `_build_count_observation_semantic_hash`. -/
structure ObservationPayload where
  sessionId : String
  itemCode : String
  qty : ℚ
  version : Int
  deriving DecidableEq

/-- The entries of `document.get("quantity_observation") or {}`. -/
def quantityEntries (value : Value) : Except Error (List (String × Atom)) :=
  match value with
  | .dict entries => .ok entries
  | _ => if value.truthy then .error (.value "object has no attribute 'get'") else .ok []

/-- The defaults of a document, without a time of observation. -/
def observationDefaults (draft : ObservationDraft) : Doc :=
  (((draft.document.setDefault "id" (.str draft.newId)).setDefault "version" (.num 1)).setDefault "status"
    (.str "draft")).setDefault "quantity_observation" (.dict [])

def withObservedAt (now : Int) (document : Doc) : Except Error Doc := do
  let quantityObs ← quantityEntries (document.get "quantity_observation")
  if !(rowField quantityObs "observed_at").truthy && !(document.get "submitted_at").truthy then
    .ok (document.set "quantity_observation"
      (.dict (quantityObs.filter (·.1 != "observed_at") ++ [("observed_at", .date now)])))
  else .ok document

/-- `previous_filter`, for the text of the previous version's id. -/
def isVersionNamed (text : String) (observation : Doc) : Bool :=
  observation.get "id" == .str text ||
    isObjectIdText text && observation.get "_id" == .oid (Text.lower text)

/-- `list(previous_doc.get("lineage") or [])`. -/
def lineageItems (value : Value) : Except Error (List Atom) :=
  match value with
  | .list items => .ok items
  | .dict entries => .ok (entries.map fun entry => .str entry.1)
  | .str text => .ok (text.toList.map fun c => .str (String.ofList [c]))
  | _ => if value.truthy then .error (.value "object is not iterable") else .ok []

/-- An id as an element of a lineage. -/
def idAtom : Value → Atom
  | .null => .null
  | .bool b => .bool b
  | .num q => .num q
  | .date t => .date t
  | value => .str value.text

/-- Version and lineage of a document. -/
def withLineage (stored : List Doc) (document : Doc) : Except Error Doc :=
  let previousVersionId := document.get "previous_version_id"
  if previousVersionId.truthy then
    match stored.find? (isVersionNamed previousVersionId.text) with
    | none => .error (.governance "CRITICAL: previous_version_id references missing count observation")
    | some previousDoc => do
      let incomingVersion ← intOrError (document.get "version") 0
      let previousVersion ← intOrError (previousDoc.get "version") 1
      if incomingVersion ≠ previousVersion + 1 then
        .error (.governance "CRITICAL: Invalid version progression for recount observation")
      else
        let lineage ← lineageItems (previousDoc.get "lineage")
        let previousId := (previousDoc.get "id").text
        .ok (((document.set "version" (.num (previousVersion + 1 : Int))).setDefault "parent_observation_id"
          (.str previousId)).set "lineage" (.list (lineage ++ [.str previousId])))
  else .ok (document.setDefault "lineage" (.list [idAtom (document.get "id")]))

section

variable (digest : ObservationPayload → String)

/-- `_build_count_observation_semantic_hash`. -/
def countObservationHash (document : Doc) : Except Error String := do
  let quantityObs ← match document.get "quantity_observation" with
    | .dict entries => Except.ok entries
    | _ => .error (.value "object has no attribute 'get'")
  let qty ← match (rowField quantityObs "quantity").numberOrZero with
    | some qty => Except.ok qty
    | none => .error (.value "could not convert string to float")
  let version ← intOrError (document.get "version") 1
  .ok (digest {
    sessionId := (document.get "session_id").textOrEmpty
    itemCode := ((document.get "item_code").orElse (document.get "item_id")).textOrEmpty
    qty := qty
    version := version })

/-- The document that `write_count_observation` inserts. -/
def writeCountObservation (draft : ObservationDraft) (stored : List Doc) : Except Error Doc := do
  let observed ← withObservedAt draft.now (observationDefaults draft)
  let document ← withLineage stored observed
  let semanticHash ← countObservationHash digest document
  let hashed := document.set "semantic_hash" (.str semanticHash)
  if stored.any fun other => other.get "semantic_hash" == .str semanticHash then
    .error (.governance "CRITICAL: Duplicate semantic hash for count observation")
  else if (hashed.get "idempotency_key").truthy &&
      stored.any (fun other => other.get "idempotency_key" == hashed.get "idempotency_key") then
    .error (.governance "CRITICAL: Duplicate idempotency_key for count observation")
  else
    let inserted := hashed.setDefault "_id" (.oid draft.objectId)
    if stored.any fun other => other.get "_id" == inserted.get "_id" then .error (.database (.duplicateKey "_id"))
    else .ok inserted

/-- A call; the collection stays as it is where the call raises. -/
def observationStep (stored : List Doc) (draft : ObservationDraft) : List Doc :=
  match writeCountObservation digest draft stored with
  | .ok inserted => stored ++ [inserted]
  | .error _ => stored

end

/-- The observation names the other one as its previous version. -/
def NamesPrevious (observation other : Doc) : Prop :=
  (observation.get "previous_version_id").truthy = true ∧
    isVersionNamed (observation.get "previous_version_id").text other = true

def Previous (stored : List Doc) (observation other : Doc) : Prop := other ∈ stored ∧ NamesPrevious observation other

def observationId (observation : Doc) : String := (observation.get "id").text

/-- The lineage and the version tell the predecessors. -/
def LineageExact (stored : List Doc) (observation : Doc) : Prop :=
  ∃ predecessors, Ancestry (Previous stored) observation predecessors ∧
    (predecessors.map observationId).Nodup ∧
    observation.get "lineage" = .list (predecessors.map fun other => .str (observationId other)) ∧
    observation.get "version" = .num (predecessors.length + 1)

/-- Lineages are exact, and no two observations have the same previous version. -/
structure LineagesExact (stored : List Doc) : Prop where
  recounts : ∀ observation ∈ stored, (observation.get "previous_version_id").truthy = true →
    LineageExact stored observation
  successors : stored.Pairwise fun a b => ∀ other ∈ stored, ¬ (NamesPrevious a other ∧ NamesPrevious b other)

def ObservationDraft.id (draft : ObservationDraft) : Value := (draft.document.setDefault "id" (.str draft.newId)).get "id"

def ObservationDraft.key (draft : ObservationDraft) : Value :=
  (draft.document.setDefault "_id" (.oid draft.objectId)).get "_id"

section

variable {digest : ObservationPayload → String} {stored : List Doc} {draft : ObservationDraft}
  {inserted : Doc} {field : String}

theorem observationDefaults_other
    (other : field ∉ ["id", "version", "status", "quantity_observation"]) :
    observationDefaults draft field = draft.document field := by
  simp only [List.mem_cons, List.not_mem_nil, or_false, not_or] at other
  rw [observationDefaults, Doc.setDefault_other _ _ other.2.2.2, Doc.setDefault_other _ _ other.2.2.1,
    Doc.setDefault_other _ _ other.2.1, Doc.setDefault_other _ _ other.1]

theorem observationDefaults_id : (observationDefaults draft).get "id" = draft.id := by
  rw [ObservationDraft.id]
  apply Doc.get_congr
  rw [observationDefaults, Doc.setDefault_other _ _ (by decide), Doc.setDefault_other _ _ (by decide),
    Doc.setDefault_other _ _ (by decide)]

theorem withObservedAt_other {now : Int} {document observed : Doc}
    (made : withObservedAt now document = .ok observed) (other : field ≠ "quantity_observation") :
    observed field = document field := by
  simp only [withObservedAt, bind_success] at made
  obtain ⟨entries, _, made⟩ := made
  split at made
  · cases made
    exact Doc.set_other _ _ other
  · cases made
    rfl

section

variable {document lined : Doc} (made : withLineage stored document = .ok lined)
include made

theorem withLineage_first (first : (document.get "previous_version_id").truthy = false)
    (other : field ≠ "lineage") : lined field = document field := by
  rw [withLineage, first] at made
  cases made
  exact Doc.setDefault_other _ _ other

theorem withLineage_recount (recount : (document.get "previous_version_id").truthy = true) :
    ∃ previous items version, stored.find? (isVersionNamed (document.get "previous_version_id").text) = some previous ∧
      lineageItems (previous.get "lineage") = .ok items ∧ intOrError (previous.get "version") 1 = .ok version ∧
      lined = ((document.set "version" (.num (version + 1 : Int))).setDefault "parent_observation_id"
        (.str (observationId previous))).set "lineage" (.list (items ++ [.str (observationId previous)])) := by
  rw [withLineage, if_pos recount] at made
  cases found : stored.find? (isVersionNamed (document.get "previous_version_id").text) with
  | none =>
    rw [found] at made
    cases made
  | some previous =>
    rw [found] at made
    simp only [bind_success] at made
    obtain ⟨incoming, _, version, isVersion, made⟩ := made
    split at made
    · cases made
    · rw [bind_success] at made
      obtain ⟨items, areItems, made⟩ := made
      cases made
      exact ⟨previous, items, version, rfl, areItems, isVersion, rfl⟩

theorem withLineage_other (other : field ∉ ["version", "parent_observation_id", "lineage"]) :
    lined field = document field := by
  simp only [List.mem_cons, List.not_mem_nil, or_false, not_or] at other
  cases recount : (document.get "previous_version_id").truthy with
  | false => exact withLineage_first made recount other.2.2
  | true =>
    obtain ⟨previous, items, version, _, _, _, rfl⟩ := withLineage_recount made recount
    rw [Doc.set_other _ _ other.2.2, Doc.setDefault_other _ _ other.2.1, Doc.set_other _ _ other.1]

end

theorem setDefault_congr {a b : Doc} {v : Value} (same : a field = b field) :
    a.setDefault field v field = b.setDefault field v field := by
  unfold Doc.setDefault Doc.has
  rw [same]
  split
  · exact same
  · rw [Doc.set_same, Doc.set_same]

structure Inserted (stored : List Doc) (draft : ObservationDraft) (inserted : Doc) : Prop where
  id : inserted.get "id" = draft.id
  key : inserted.get "_id" = draft.key
  previous : inserted.get "previous_version_id" = draft.document.get "previous_version_id"
  fresh : ∀ other ∈ stored, other.get "_id" ≠ inserted.get "_id"
  recount : (inserted.get "previous_version_id").truthy = true → ∃ previous items version,
    stored.find? (isVersionNamed (inserted.get "previous_version_id").text) = some previous ∧
      lineageItems (previous.get "lineage") = .ok items ∧ intOrError (previous.get "version") 1 = .ok version ∧
      inserted.get "lineage" = .list (items ++ [.str (observationId previous)]) ∧
      inserted.get "version" = .num (version + 1 : Int)

theorem writeCountObservation_ok (written : writeCountObservation digest draft stored = .ok inserted) :
    Inserted stored draft inserted := by
  simp only [writeCountObservation, bind_success] at written
  obtain ⟨observed, isObserved, document, lined, hash, _, written⟩ := written
  split at written
  · cases written
  · split at written
    · cases written
    · split at written
      · cases written
      · next unused =>
        cases written
        simp only [Bool.not_eq_true, List.any_eq_false, beq_iff_eq] at unused
        -- a field that neither the defaults nor the later steps write
        have plain : ∀ field, field ∉ ["id", "version", "status", "quantity_observation",
            "parent_observation_id", "lineage", "semantic_hash", "_id"] →
            ((document.set "semantic_hash" (.str hash)).setDefault "_id" (.oid draft.objectId)) field =
              draft.document field := by
          intro field other
          simp only [List.mem_cons, List.not_mem_nil, or_false, not_or] at other
          rw [Doc.setDefault_other _ _ (by tauto), Doc.set_other _ _ (by tauto),
            withLineage_other lined (by simp; tauto), withObservedAt_other isObserved (by tauto),
            observationDefaults_other (by simp; tauto)]
        have previous := Doc.get_congr (plain "previous_version_id" (by decide))
        have named : observed.get "previous_version_id" = draft.document.get "previous_version_id" := by
          apply Doc.get_congr
          rw [withObservedAt_other isObserved (by decide), observationDefaults_other (by decide)]
        constructor
        · rw [← observationDefaults_id]
          apply Doc.get_congr
          rw [Doc.setDefault_other _ _ (by decide), Doc.set_other _ _ (by decide), withLineage_other lined (by decide),
            withObservedAt_other isObserved (by decide)]
        · apply Doc.get_congr
          apply setDefault_congr
          rw [Doc.set_other _ _ (by decide), withLineage_other lined (by decide),
            withObservedAt_other isObserved (by decide), observationDefaults_other (by decide)]
        · exact previous
        · exact unused
        · intro recount
          rw [previous, ← named] at recount ⊢
          obtain ⟨before, items, version, found, areItems, isVersion, rfl⟩ := withLineage_recount lined recount
          refine ⟨before, items, version, found, areItems, isVersion, ?_, ?_⟩
          · apply Doc.get_of_some
            rw [Doc.setDefault_other _ _ (by decide), Doc.set_other _ _ (by decide), Doc.set_same]
          · apply Doc.get_of_some
            rw [Doc.setDefault_other _ _ (by decide), Doc.set_other _ _ (by decide), Doc.set_other _ _ (by decide),
              Doc.setDefault_other _ _ (by decide), Doc.set_same]

end

instance (observation other : Doc) : Decidable (NamesPrevious observation other) := inferInstanceAs (Decidable (_ ∧ _))

/-- The id, read as an object id, is the key. -/
def readsAsKey (id key : Value) : Bool :=
  match id with
  | .str text => isObjectIdText text && key == .oid (Text.lower text)
  | _ => false

def versionsApart (draft : ObservationDraft) (other : Doc) : Bool :=
  draft.id.text != observationId other && !readsAsKey draft.id (other.get "_id") && !readsAsKey (other.get "id") draft.key

/-- A first count that has no lineage and is version one. -/
def startsLineage (observation : Doc) : Bool :=
  !(observation.get "lineage").truthy &&
    match intOrError (observation.get "version") 1 with
    | .ok version => version == 1
    | .error _ => false

/-- The ids are new, a first count that is recounted starts a lineage, and the previous version has
no successor. -/
def lineageUndisturbed (stored : List Doc) (draft : ObservationDraft) : Bool :=
  stored.all (versionsApart draft) &&
    (!(draft.document.get "previous_version_id").truthy ||
      match stored.find? (isVersionNamed (draft.document.get "previous_version_id").text) with
      | none => true
      | some previous => ((previous.get "previous_version_id").truthy || startsLineage previous) &&
          stored.all fun other => !decide (NamesPrevious other previous))

structure LineageSound (stored : List Doc) : Prop where
  exact : LineagesExact stored
  ids : ∀ a ∈ stored, ∀ b ∈ stored, observationId a = observationId b → a = b
  names : ∀ a ∈ stored, ∀ b ∈ stored, ∀ text, isVersionNamed text a = true → isVersionNamed text b = true → a = b
  known : ∀ a ∈ stored, (a.get "previous_version_id").truthy = true → ∃ b ∈ stored, NamesPrevious a b

theorem lineageItems_falsy {value : Value} (falsy : value.truthy = false) : lineageItems value = .ok [] := by
  cases value with
  | list items =>
    cases items with
    | nil => rfl
    | cons _ _ => cases falsy
  | dict entries =>
    cases entries with
    | nil => rfl
    | cons _ _ => cases falsy
  | str text =>
    have blank : text = "" := by simpa using falsy
    rw [blank]
    rfl
  | null => rfl
  | _ => simp [lineageItems, falsy]

theorem intOrError_successor (n : Nat) : intOrError (.num (n + 1)) 1 = .ok (n + 1 : Int) := by
  have positive : (n + 1 : ℚ) ≠ 0 := by positivity
  have whole : truncate (n + 1 : ℚ) = n + 1 := by
    rw [truncate, if_pos (by positivity)]
    exact_mod_cast Int.floor_natCast (n + 1)
  simp [intOrError, Value.truthy, Value.integer, positive, whole]

section

variable {stored : List Doc} {draft : ObservationDraft} {inserted : Doc}

theorem Inserted.unshared (made : Inserted stored draft inserted) {other : Doc}
    (member : other ∈ stored) (apart : versionsApart draft other = true) (text : String) :
    ¬ (isVersionNamed text other = true ∧ isVersionNamed text inserted = true) := by
  simp only [versionsApart, Bool.and_eq_true, bne_iff_ne, Bool.not_eq_true'] at apart
  obtain ⟨⟨ids, forward⟩, back⟩ := apart
  simp only [isVersionNamed, Bool.or_eq_true, Bool.and_eq_true, beq_iff_eq, made.id, made.key]
  rintro ⟨otherId | ⟨isKey, otherKey⟩, newId | ⟨isNewKey, newKey⟩⟩
  · apply ids
    rw [newId, observationId, otherId]
  · rw [otherId] at back
    simp [readsAsKey, isNewKey, newKey] at back
  · rw [newId] at forward
    simp [readsAsKey, isKey, otherKey] at forward
  · apply made.fresh other member
    rw [otherKey, made.key, newKey]

/-- With the new observation in the collection the ids and names still tell all of them apart. -/
theorem Inserted.apart (made : Inserted stored draft inserted) (sound : LineageSound stored)
    (apart : ∀ other ∈ stored, versionsApart draft other = true) :
    (∀ a ∈ stored ++ [inserted], ∀ b ∈ stored ++ [inserted], observationId a = observationId b → a = b) ∧
      ∀ a ∈ stored ++ [inserted], ∀ b ∈ stored ++ [inserted], ∀ text, isVersionNamed text a = true →
        isVersionNamed text b = true → a = b := by
  have newId : ∀ other ∈ stored, observationId other ≠ observationId inserted := by
    intro other member same
    have differ := apart other member
    simp only [versionsApart, Bool.and_eq_true, bne_iff_ne] at differ
    apply differ.1.1
    rw [same, observationId, made.id]
  constructor
  · intro a left b right same
    rcases List.mem_append.mp left with leftOld | leftNew
    · rcases List.mem_append.mp right with rightOld | rightNew
      · exact sound.ids a leftOld b rightOld same
      · rw [List.mem_singleton.mp rightNew] at same
        exact absurd same (newId a leftOld)
    · rcases List.mem_append.mp right with rightOld | rightNew
      · rw [List.mem_singleton.mp leftNew] at same
        exact absurd same.symm (newId b rightOld)
      · rw [List.mem_singleton.mp leftNew, List.mem_singleton.mp rightNew]
  · intro a left b right text namesLeft namesRight
    rcases List.mem_append.mp left with leftOld | leftNew
    · rcases List.mem_append.mp right with rightOld | rightNew
      · exact sound.names a leftOld b rightOld text namesLeft namesRight
      · rw [List.mem_singleton.mp rightNew] at namesRight
        exact absurd ⟨namesLeft, namesRight⟩ (made.unshared leftOld (apart a leftOld) text)
    · rcases List.mem_append.mp right with rightOld | rightNew
      · rw [List.mem_singleton.mp leftNew] at namesLeft
        exact absurd ⟨namesRight, namesLeft⟩ (made.unshared rightOld (apart b rightOld) text)
      · rw [List.mem_singleton.mp leftNew, List.mem_singleton.mp rightNew]

section

variable (made : Inserted stored draft inserted) (sound : LineageSound stored)
  (apart : ∀ other ∈ stored, versionsApart draft other = true) {a : Doc} (member : a ∈ stored)
include made sound apart member

theorem Inserted.unnamed : ¬ NamesPrevious a inserted := by
  rintro ⟨recount, named⟩
  obtain ⟨b, isStored, namesB⟩ := sound.known a member recount
  exact made.unshared isStored (apart b isStored) _ ⟨namesB.2, named⟩

theorem Inserted.links (b : Doc) : Previous stored a b ↔ Previous (stored ++ [inserted]) a b := by
  constructor
  · rintro ⟨isStored, named⟩
    exact ⟨List.mem_append_left _ isStored, named⟩
  · rintro ⟨isStored, named⟩
    rcases List.mem_append.mp isStored with old | new
    · exact ⟨old, named⟩
    · rw [List.mem_singleton.mp new] at named
      exact absurd named (made.unnamed sound apart member)

end

theorem previous_functional {collection : List Doc}
    (names : ∀ a ∈ collection, ∀ b ∈ collection, ∀ text, isVersionNamed text a = true → isVersionNamed text b = true →
      a = b) (a p q : Doc) (left : Previous collection a p) (right : Previous collection a q) : p = q :=
  names p left.1 q right.1 _ left.2.2 right.2.2

theorem ancestry_stored {a : Doc} {predecessors : List Doc}
    (line : Ancestry (Previous stored) a predecessors) : ∀ p ∈ predecessors, p ∈ stored := by
  cases line with
  | root _ =>
    nofun
  | child step line =>
    intro p member
    rcases List.mem_append.mp member with older | last
    · exact line.within {a | a ∈ stored} (fun _ _ _ link => link.1) step.1 p older
    · rw [List.mem_singleton.mp last]
      exact step.1

/-- What the predecessor's lineage and version are, as the call reads them. -/
theorem LineageSound.predecessor (sound : LineageSound stored) {previous : Doc} (member : previous ∈ stored)
    (started : ((previous.get "previous_version_id").truthy || startsLineage previous) = true) :
    ∃ predecessors, Ancestry (Previous stored) previous predecessors ∧
      lineageItems (previous.get "lineage") = .ok (predecessors.map fun other => .str (observationId other)) ∧
      intOrError (previous.get "version") 1 = .ok (predecessors.length + 1 : Int) := by
  by_cases recount : (previous.get "previous_version_id").truthy = true
  · obtain ⟨predecessors, line, _, lineage, version⟩ := sound.exact.recounts previous member recount
    refine ⟨predecessors, line, ?_, ?_⟩
    · rw [lineage]
      rfl
    · rw [version]
      exact intOrError_successor _
  · have starts : startsLineage previous = true := by simpa [recount] using started
    rw [startsLineage, Bool.and_eq_true, Bool.not_eq_true'] at starts
    refine ⟨[], .root ?_, lineageItems_falsy starts.1, ?_⟩
    · rintro p ⟨_, named⟩
      exact recount named.1
    · have one := starts.2
      split at one
      · next version isVersion =>
        rw [isVersion]
        simpa using one
      · cases one

/-- The new observation's lineage and version tell its predecessors. -/
theorem Inserted.lineage (made : Inserted stored draft inserted) (sound : LineageSound stored)
    (apart : ∀ other ∈ stored, versionsApart draft other = true)
    (recount : (inserted.get "previous_version_id").truthy = true)
    (started : ∀ previous, stored.find? (isVersionNamed (inserted.get "previous_version_id").text) = some previous →
      ((previous.get "previous_version_id").truthy || startsLineage previous) = true) :
    LineageExact (stored ++ [inserted]) inserted := by
  obtain ⟨previous, items, version, found, areItems, isVersion, lineage, stamped⟩ := made.recount recount
  have isStored := List.mem_of_find?_eq_some found
  have named := List.find?_some found
  obtain ⟨predecessors, line, ownItems, ownVersion⟩ := sound.predecessor isStored (started previous found)
  cases areItems.symm.trans ownItems
  cases isVersion.symm.trans ownVersion
  obtain ⟨ids, names⟩ := made.apart sound apart
  have kept : Ancestry (Previous (stored ++ [inserted])) previous predecessors :=
    line.congr {a | a ∈ stored} (fun _ _ _ link => link.1)
      (fun a member b => made.links sound apart member b) isStored
  have whole : Ancestry (Previous (stored ++ [inserted])) inserted (predecessors ++ [previous]) :=
    .child ⟨List.mem_append_left _ isStored, recount, named⟩ kept
  refine ⟨predecessors ++ [previous], whole, ?_, ?_, ?_⟩
  · apply List.Nodup.map_on
    · intro a left b right same
      exact ids a (ancestry_stored whole a left) b (ancestry_stored whole b right) same
    · exact whole.nodup (previous_functional names)
  · rw [lineage, List.map_append, List.map_singleton]
  · rw [stamped, List.length_append, List.length_singleton]
    push_cast
    rfl

theorem LineageSound.grown (sound : LineageSound stored) (made : Inserted stored draft inserted)
    (undisturbed : lineageUndisturbed stored draft = true) : LineageSound (stored ++ [inserted]) := by
  rw [lineageUndisturbed, Bool.and_eq_true, List.all_eq_true, ← made.previous] at undisturbed
  obtain ⟨apart, undisturbed⟩ := undisturbed
  obtain ⟨ids, names⟩ := made.apart sound apart
  have free : ∀ recount : (inserted.get "previous_version_id").truthy = true, ∀ previous,
      stored.find? (isVersionNamed (inserted.get "previous_version_id").text) = some previous →
      ((previous.get "previous_version_id").truthy || startsLineage previous) = true ∧
        ∀ other ∈ stored, ¬ NamesPrevious other previous := by
    intro recount previous found
    rw [recount, found] at undisturbed
    simpa using undisturbed
  constructor
  · constructor
    · intro a member recount
      rcases List.mem_append.mp member with old | new
      · obtain ⟨predecessors, line, distinct, lineage, version⟩ := sound.exact.recounts a old recount
        have kept : Ancestry (Previous (stored ++ [inserted])) a predecessors :=
          line.congr {a | a ∈ stored} (fun _ _ _ link => link.1)
            (fun b isStored c => made.links sound apart isStored c) old
        exact ⟨predecessors, kept, distinct, lineage, version⟩
      · rw [List.mem_singleton.mp new] at recount ⊢
        exact made.lineage sound apart recount fun previous found => (free recount previous found).1
    · rw [List.pairwise_append]
      refine ⟨?_, List.pairwise_singleton _ _, ?_⟩
      · apply sound.exact.successors.imp_of_mem
        intro a b left right before other member
        rcases List.mem_append.mp member with old | new
        · exact before other old
        · rw [List.mem_singleton.mp new]
          exact fun both => made.unnamed sound apart left both.1
      · intro a left b right other member
        rw [List.mem_singleton.mp right]
        rintro ⟨namesA, recount, namesNew⟩
        obtain ⟨previous, _, _, found, _⟩ := made.recount recount
        -- the new observation names the previous version that it found, and that has no successor
        have same := names other member previous (List.mem_append_left _ (List.mem_of_find?_eq_some found)) _ namesNew
          (List.find?_some found)
        rw [same] at namesA
        exact (free recount previous found).2 a left namesA
  · exact ids
  · exact names
  · intro a member recount
    rcases List.mem_append.mp member with old | new
    · obtain ⟨b, isStored, named⟩ := sound.known a old recount
      exact ⟨b, List.mem_append_left _ isStored, named⟩
    · rw [List.mem_singleton.mp new] at recount ⊢
      obtain ⟨previous, _, _, found, _⟩ := made.recount recount
      exact ⟨previous, List.mem_append_left _ (List.mem_of_find?_eq_some found), recount, List.find?_some found⟩

theorem LineageSound.step {digest : ObservationPayload → String} (sound : LineageSound stored)
    (undisturbed : lineageUndisturbed stored draft = true) : LineageSound (observationStep digest stored draft) := by
  unfold observationStep
  split
  · next inserted written => exact sound.grown (writeCountObservation_ok written) undisturbed
  · exact sound

end

/-- The lineages are exact after every run of undisturbed calls. -/
theorem lineages_exact {digest : ObservationPayload → String} {stored : List Doc}
    (run : Reaches (observationStep digest) (fun stored draft => lineageUndisturbed stored draft = true) [] stored) :
    LineagesExact stored := by
  have start : LineageSound [] := by
    constructor
    · constructor
      · intro a member
        cases member
      · exact List.Pairwise.nil
    · intro a member
      cases member
    · intro a member
      cases member
    · intro a member
      cases member
  exact (run.invariant start fun _ _ sound undisturbed => sound.step undisturbed).exact

/-- A hash of the samples that keeps the item and the version apart. -/
def sampleDigest (payload : ObservationPayload) : String :=
  payload.itemCode ++ toString payload.qty.num ++ toString payload.version

/-- A count of an item, with the fields that the caller adds. -/
def countDraft (newId objectId : String) (quantity : ℚ) (fields : List (String × Value)) : ObservationDraft where
  document := Doc.ofList
    ([("item_code", .str "I1"), ("quantity_observation", .dict [("quantity", .num quantity)])] ++ fields)
  newId := newId
  objectId := objectId
  now := 0

/-- A first count without a lineage, its recount, and the recount of that one. -/
def countedThrice : List ObservationDraft :=
  [countDraft "O1" "a1" 4 [("lineage", .list [])],
    countDraft "O2" "a2" 5 [("version", .num 2), ("previous_version_id", .str "O1")],
    countDraft "O3" "a3" 4 [("version", .num 3), ("previous_version_id", .str "O2")]]

def lineages (stored : List Doc) : List (Value × Value × Value) :=
  stored.map fun observation => (observation.get "id", observation.get "lineage", observation.get "version")

theorem lineages_exact_in_turn :
    lineages (countedThrice.foldl (observationStep sampleDigest) []) =
        [(.str "O1", .list [], .num 1), (.str "O2", .list [.str "O1"], .num 2),
          (.str "O3", .list [.str "O1", .str "O2"], .num 3)] ∧
      LineagesExact (countedThrice.foldl (observationStep sampleDigest) []) :=
  ⟨by decide +kernel, lineages_exact (Reaches.of_admitted (by decide +kernel))⟩

/-- A first count with the lineage that it is given by default, and two recounts of it. -/
def recountedTwice : List ObservationDraft :=
  [countDraft "O1" "a1" 4 [],
    countDraft "O2" "a2" 5 [("version", .num 2), ("previous_version_id", .str "O1")],
    countDraft "O3" "a3" 6 [("version", .num 2), ("previous_version_id", .str "O1")]]

/-- Both recounts are stored as successors of the first count, whose id comes twice in their
lineages. -/
theorem lineages_doubled :
    lineages (recountedTwice.foldl (observationStep sampleDigest) []) =
        [(.str "O1", .list [.str "O1"], .num 1), (.str "O2", .list [.str "O1", .str "O1"], .num 2),
          (.str "O3", .list [.str "O1", .str "O1"], .num 2)] ∧
      ¬ ∀ stored, Reaches (observationStep sampleDigest) (fun _ _ => True) [] stored → LineagesExact stored := by
  constructor
  · decide +kernel
  · intro every
    have run : Reaches (observationStep sampleDigest) (fun _ _ => True) []
        (recountedTwice.foldl (observationStep sampleDigest) []) := Reaches.foldl fun _ _ _ => trivial
    have doubled : (recountedTwice.foldl (observationStep sampleDigest) []).any (fun observation =>
        observation.get "lineage" == .list [.str "O1", .str "O1"] &&
          (observation.get "previous_version_id").truthy) = true := by decide +kernel
    obtain ⟨observation, member, facts⟩ := List.any_eq_true.mp doubled
    rw [Bool.and_eq_true, beq_iff_eq] at facts
    obtain ⟨predecessors, _, distinct, lineage, _⟩ := (every _ run).recounts observation member facts.2
    rw [facts.1] at lineage
    have ids : predecessors.map observationId = ["O1", "O1"] := by
      have atoms : ["O1", "O1"].map Atom.str = (predecessors.map observationId).map Atom.str := by
        rw [List.map_map]
        exact Value.list.inj lineage
      exact (List.map_injective_iff.mpr (fun _ _ same => Atom.str.inj same) atoms).symm
    rw [ids] at distinct
    exact absurd distinct (by decide)

end StockVerification
