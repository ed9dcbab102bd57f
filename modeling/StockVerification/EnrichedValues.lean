import StockVerification.Enrichment

/-!
# Values that users have entered

Source: backend/services/sync/core_sync.py:173-213 and 427-556,
backend/services/enrichment_service.py:68-222.

What an enrichment has reported as updated is to stay in the item until an enrichment changes it.
The syncs are to leave it alone, whichever copy of the items they decide from.
-/
namespace StockVerification

open Foundation

/-- Every saved value is in its item. -/
def SavedKept (s : ItemStore) : Prop :=
  ∀ code field value, s.saved code field = some value →
    field ∈ enrichableFields ∧ ∃ item, itemAt code s.items = some item ∧ item.get field = value

/-- A row brings no value, other than the saved one, for a saved field that the copied item lacks,
and no other location for a saved one. -/
def sparesSaved (s : ItemStore) (row : Doc) (mongoItem : Option Doc) : Bool :=
  mongoItem.all fun item => (buildMetadataCandidates row).all fun candidate =>
    (s.saved (rowCode row) candidate.1).all fun value =>
      !takesCandidate item candidate.1 candidate.2 || candidate.2 == value

def savedUndisturbed (c : ItemWork) : Move ItemRequest → Bool
  | .resume slot =>
    match c.task slot with
    | some task => (task.rowWrite.map fun write => sparesSaved c.store write.2.1 write.2.2).getD true
    | none => true
  | _ => true

theorem enrichable_notBookkeeping {field : String} (enrichable : field ∈ enrichableFields) :
    field ∉ syncBookkeeping := by
  simp only [enrichableFields, List.mem_cons, List.not_mem_nil, or_false] at enrichable
  rcases enrichable with rfl | rfl | rfl | rfl | rfl | rfl | rfl <;> decide

/-- A row that spares the saved values leaves them in the item. -/
theorem RowWritten.saved {s : ItemStore} {now : Int} {row : Doc} {mongoItem : Option Doc}
    (written : RowWritten row mongoItem s.items (s.writeRow now row mongoItem).items)
    (spares : sparesSaved s row mongoItem = true) (kept : SavedKept s) : SavedKept (s.writeRow now row mongoItem) := by
  intro code field value saved
  obtain ⟨enrichable, item, found, holds⟩ := kept code field value saved
  refine ⟨enrichable, ?_⟩
  by_cases own : code = rowCode row
  · subst own
    rcases written.own with same | ⟨_, absent, _⟩ | ⟨looked, old, fields, rfl, present, made, named⟩
    · exact ⟨item, same.trans found, holds⟩
    · rw [found] at absent
      cases absent
    · rw [found] at present
      cases present
      refine ⟨_, made, ?_⟩
      rw [Doc.get, Doc.update_apply, named field (enrichable_notBookkeeping enrichable)]
      cases taken : (computeMetadataUpdates (buildMetadataCandidates row) looked).lookup field with
      | none => exact holds
      | some newValue =>
        obtain ⟨candidate, takes⟩ := lookup_metadataUpdates taken
        have each := List.all_eq_true.mp spares (field, newValue) candidate
        have same : s.saved (rowCode row) field = some value := saved
        simpa [same, takes] using each
  · exact ⟨item, (written.others code own).trans found, holds⟩

theorem EnrichmentCall.enrichable_of_given {call : EnrichmentCall} {field : String} {value : Value}
    (given : Doc.ofList call.given field = some value) : field ∈ enrichableFields := by
  by_contra other
  rw [call.given_enrichable field other] at given
  cases given

/-- What an enrichment saves is in the item, and what it is not given stays. -/
theorem SavedKept.save {s after : ItemStore} {call : EnrichmentCall} {existing old new : Doc}
    {read : Option Doc} (kept : SavedKept s) (present : itemAt call.itemCode s.items = some old)
    (applied : (call.update read).apply old = some new)
    (saved : after.saved = Function.update s.saved call.itemCode (s.savedAfter call existing))
    (others : ∀ code, code ≠ call.itemCode → itemAt code after.items = itemAt code s.items)
    (own : itemAt call.itemCode after.items = some new) : SavedKept after := by
  intro code field value holds
  by_cases here : code = call.itemCode
  · subst here
    rw [saved, Function.update_self] at holds
    have written : ∀ name, name ∈ enrichableFields → new name = (Doc.ofList call.given name).or (old name) := by
      intro name enrichable
      rw [EnrichmentCall.update_apply applied, call.update_enrichable _ enrichable]
      rintro rfl
      exact absurd enrichable (by decide)
    unfold ItemStore.savedAfter at holds
    split at holds
    · next ungiven =>
      obtain ⟨enrichable, item, found, itsValue⟩ := kept _ field value holds
      rw [present] at found
      cases found
      refine ⟨enrichable, new, own, ?_⟩
      rw [Doc.get, written field enrichable, ungiven]
      exact itsValue
    · next newValue given =>
      have enrichable := EnrichmentCall.enrichable_of_given given
      refine ⟨enrichable, new, own, ?_⟩
      split at holds
      · cases holds
        rw [Doc.get, written field enrichable, given]
        rfl
      · cases holds
  · rw [saved, Function.update_of_ne here] at holds
    obtain ⟨enrichable, item, found, itsValue⟩ := kept code field value holds
    exact ⟨enrichable, item, (others code here).trans found, itsValue⟩

theorem SavedKept.step {c : ItemWork} {move : Move ItemRequest} (sound : ItemsSound SavedKept c)
    (quiet : savedUndisturbed c move = true) : ItemsSound SavedKept (ItemWork.step c move) := by
  have kept := sound.store.2
  apply ItemsSound.step sound
  · intro slot call existing read old new _ _ present applied saved others own
    exact kept.save present applied saved others own
  · intro slot task now row mongoItem isResume held writes written
    subst isResume
    simp only [savedUndisturbed, held, writes, Option.map_some, Option.getD_some] at quiet
    exact written.saved quiet kept

/-- Where the syncs spare what is saved, every saved value is still in its item. -/
theorem saved_values_survive {first last : ItemWork} (start : ItemsStart first)
    (run : Reaches ItemWork.step (fun c move => savedUndisturbed c move = true) first last)
    {code field : String} {value : Value} (saved : last.store.saved code field = some value) :
    ∃ item, itemAt code last.store.items = some item ∧ item.get field = value := by
  have begins : ItemsSound SavedKept first := by
    apply start.sound
    intro code field value holds
    rw [start.unsaved] at holds
    cases holds
  have sound : ItemsSound SavedKept last := run.invariant begins fun c move kept quiet => SavedKept.step kept quiet
  exact (sound.store.2 code field value saved).2

/-- A location and an HSN code are entered, and a full sync, begun before, and a sync by barcode
that agree with them come after. -/
def syncedAroundEnrichment : List (Move ItemRequest) :=
  [.start 1 (.syncAll [boltRow [("location", .str "A1")]] 500), .resume 1] ++
    itemCall (.recordEnrichment serialGiven) 3 ++ [.resume 1, .resume 1] ++
    itemCall (.syncByBarcode (boltRow [("hsn_code", .str "7318")]) 3000) 2

theorem saved_values_survive_syncs :
    (∃ item, itemAt "I1" (syncedAroundEnrichment.foldl ItemWork.step labelledItem).store.items = some item ∧
      item.get "location" = .str "A1") ∧
    (syncedAroundEnrichment.foldl ItemWork.step labelledItem).store.items.map (·.get "hsn_code") = [.str "7318"] := by
  constructor
  · apply saved_values_survive labelledItem_start
    · apply Reaches.of_admitted
      decide +kernel
    · decide +kernel
  · decide +kernel

def locationSynced : List (Move ItemRequest) :=
  itemCall (.recordEnrichment serialGiven) 3 ++ itemCall (.syncAll [boltRow [("location", .str "R9")]] 2000) 3

/-- The price is entered between the copy of a full sync and the write of its row. -/
def pricedDuringSync : List (Move ItemRequest) :=
  [.start 1 (.syncAll [boltRow [("mrp", .num 20)]] 500), .resume 1] ++
    itemCall (.recordEnrichment serialGiven) 3 ++ [.resume 1, .resume 1]

/-- A sync replaces an entered location, and an entered price that its copy lacks. -/
theorem saved_values_overwritten :
    ¬ (∀ (first last : ItemWork) (code field : String) (value : Value), ItemsStart first →
      Reaches ItemWork.step (fun _ _ => True) first last → last.store.saved code field = some value →
      ∃ item, itemAt code last.store.items = some item ∧ item.get field = value) ∧
    ((locationSynced.foldl ItemWork.step labelledItem).store.saved "I1" "location",
      (locationSynced.foldl ItemWork.step labelledItem).store.items.map (·.get "location")) =
        (some (.str "A1"), [.str "R9"]) ∧
    ((pricedDuringSync.foldl ItemWork.step labelledItem).store.saved "I1" "mrp",
      (pricedDuringSync.foldl ItemWork.step labelledItem).store.items.map (·.get "mrp")) =
        (some (.num (25 / 2)), [.num 20]) := by
  refine ⟨?_, by decide +kernel, by decide +kernel⟩
  intro always
  obtain ⟨item, found, holds⟩ := always labelledItem _ "I1" "location" (.str "A1") labelledItem_start
    (Reaches.foldl fun _ (move : Move ItemRequest) (_ : move ∈ locationSynced) => trivial) (by decide +kernel)
  have moved : (itemAt "I1" (locationSynced.foldl ItemWork.step labelledItem).store.items).map (·.get "location") =
      some (.str "R9") := by
    decide +kernel
  rw [found, Option.map_some, holds] at moved
  revert moved
  decide

end StockVerification
