import Mathlib.Data.List.Dedup
import StockVerification.DynamicFields

/-!
# The search over dynamic fields

Source: backend/services/dynamic_fields_service.py:282-351.

The records of values are matched one by one, grouped by item in no particular order, cut, and
looked up.
-/
namespace StockVerification

open Foundation

/-- The `_id` of a group, and the item's document with its dictionary of fields. -/
structure FoundItem where
  itemCode : String
  item : Doc
  dynamicFields : String → Option Value

namespace FieldStore

/-- `find_one` on the items. -/
def itemOf (s : FieldStore) (code : String) : Option Doc := s.items.find? (Filter.eq "item_code" (.str code)).holds

end FieldStore

namespace FieldSearch

/-- The `$or` of the filters, where `equal` tells which stored values equal a given one; without
filters there is no match stage. -/
def matchesFilters (equal : Value → Value → Bool) (filters : List (String × Value)) (record : FieldRecord) : Bool :=
  filters.isEmpty || filters.any fun f => record.fieldName == f.1 && equal record.value f.2

/-- The last of several records of a field stays in the dictionary. -/
def latest (records : List FieldRecord) (code name : String) : Option FieldRecord :=
  (records.filter fun record => record.itemCode = code ∧ record.fieldName = name).getLast?

def dictionaryOf (records : List FieldRecord) (code name : String) : Option Value :=
  (latest records code name).map (·.value)

variable (equal : Value → Value → Bool) (s : FieldStore) (filters : List (String × Value))

def matchedRecords : List FieldRecord := s.records.filter (matchesFilters equal filters)

def groupCodes : List String := ((matchedRecords equal s filters).map (·.itemCode)).dedup

/-- The groups come in any order; a limit that is not positive is refused. -/
def getItemsWithFields (limit skip : Nat) (groups : List String) : Option (List FoundItem) :=
  if limit = 0 then none
  else
    some <| ((groups.drop skip).take limit).filterMap fun code => (s.itemOf code).map fun item =>
      { itemCode := code, item, dynamicFields := dictionaryOf (matchedRecords equal s filters) code }

/-- The item has every given value. -/
def HasValues (code : String) : Prop :=
  ∀ f ∈ filters, ∃ v, dictionaryOf s.records code f.1 = some v ∧ equal v f.2 = true

/-- The known items with every given value, each once and with all of its values. -/
structure ExactAnswer (answer : List FoundItem) : Prop where
  distinct : (answer.map (·.itemCode)).Nodup
  exactly : ∀ found, found ∈ answer ↔ s.itemOf found.itemCode = some found.item ∧
    HasValues equal s filters found.itemCode ∧ found.dynamicFields = dictionaryOf s.records found.itemCode

def SearchExact (limit : Nat) : Prop :=
  ∀ groups, groups.Perm (groupCodes equal s filters) →
    ∃ answer, getItemsWithFields equal s filters limit 0 groups = some answer ∧ ExactAnswer equal s filters answer

/-- Known items in a group have every given value, and of each of their fields the last record is a
matched one; without filters every known item has a record; and the limit is large enough for the
groups, unless no item of them is known. -/
structure EvenlyMatched (limit : Nat) : Prop where
  positive : 0 < limit
  unfiltered : filters = [] → ∀ code item, s.itemOf code = some item → ∃ record ∈ s.records, record.itemCode = code
  filtered : ∀ code ∈ groupCodes equal s filters, ∀ item, s.itemOf code = some item → HasValues equal s filters code ∧
    ∀ name record, latest s.records code name = some record → matchesFilters equal filters record = true
  room : (groupCodes equal s filters).length ≤ limit ∨ ∀ code ∈ groupCodes equal s filters, s.itemOf code = none

variable {equal s filters} {code : String}

theorem mem_groupCodes : code ∈ groupCodes equal s filters ↔
    ∃ record ∈ s.records, matchesFilters equal filters record = true ∧ record.itemCode = code := by
  simp [groupCodes, matchedRecords, and_assoc]

theorem latest_mem {records : List FieldRecord} {name : String} {record : FieldRecord}
    (last : latest records code name = some record) :
    record ∈ records ∧ record.itemCode = code ∧ record.fieldName = name := by
  have member := List.mem_filter.mp (List.mem_of_getLast? last)
  rwa [decide_eq_true_eq] at member

theorem latest_matched (code name : String) : latest (matchedRecords equal s filters) code name =
    ((s.records.filter fun record => record.itemCode = code ∧ record.fieldName = name).filter
      (matchesFilters equal filters)).getLast? := by
  rw [latest, matchedRecords, List.filter_filter, List.filter_filter]
  simp only [Bool.and_comm]

/-- Whether a record is matched depends on its name and its value. -/
theorem dictionary_matched_iff : dictionaryOf (matchedRecords equal s filters) code = dictionaryOf s.records code ↔
    ∀ name record, latest s.records code name = some record → matchesFilters equal filters record = true := by
  constructor
  · intro same name record last
    have value := congrFun same name
    rw [dictionaryOf, dictionaryOf, last, Option.map_some, Option.map_eq_some_iff] at value
    obtain ⟨matched, lastMatched, sameValue⟩ := value
    obtain ⟨member, _, matchedName⟩ := latest_mem lastMatched
    have holds := (List.mem_filter.mp member).2
    unfold matchesFilters at holds ⊢
    rw [← sameValue, (latest_mem last).2.2, ← matchedName]
    exact holds
  · intro each
    funext name
    have own := each name
    rw [dictionaryOf, dictionaryOf, latest_matched]
    unfold latest at own ⊢
    rcases List.eq_nil_or_concat (s.records.filter fun record => record.itemCode = code ∧ record.fieldName = name) with
      nobody | ⟨before, record, split⟩
    · rw [nobody]
      rfl
    · rw [split] at own ⊢
      rw [List.concat_eq_append] at own ⊢
      rw [List.filter_append, List.filter_singleton, own record List.getLast?_concat]
      simp

/-- An item with every given value is in a group, if there is a filter. -/
theorem HasValues.grouped (holds : HasValues equal s filters code) (filtered : filters ≠ []) :
    code ∈ groupCodes equal s filters := by
  obtain ⟨f, rest, rfl⟩ := List.exists_cons_of_ne_nil filtered
  obtain ⟨v, stored, equals⟩ := holds f List.mem_cons_self
  obtain ⟨record, last, rfl⟩ := Option.map_eq_some_iff.mp stored
  obtain ⟨member, coded, named⟩ := latest_mem last
  exact mem_groupCodes.mpr ⟨record, member, by simp [matchesFilters, named, equals], coded⟩

section

variable {limit : Nat} {groups : List String} {answer : List FoundItem}

theorem mem_answer (ran : getItemsWithFields equal s filters limit 0 groups = some answer) (found : FoundItem) :
    found ∈ answer ↔ found.itemCode ∈ groups.take limit ∧ s.itemOf found.itemCode = some found.item ∧
      found.dynamicFields = dictionaryOf (matchedRecords equal s filters) found.itemCode := by
  unfold getItemsWithFields at ran
  split at ran
  · cases ran
  · rw [← Option.some.inj ran, List.drop_zero, List.mem_filterMap]
    constructor
    · rintro ⟨code, inside, made⟩
      obtain ⟨item, known, rfl⟩ := Option.map_eq_some_iff.mp made
      exact ⟨inside, known, rfl⟩
    · rintro ⟨inside, known, fields⟩
      exact ⟨_, inside, Option.map_eq_some_iff.mpr ⟨_, known, by rw [← fields]⟩⟩

theorem answer_distinct (distinct : groups.Nodup)
    (ran : getItemsWithFields equal s filters limit 0 groups = some answer) :
    (answer.map (·.itemCode)).Nodup := by
  unfold getItemsWithFields at ran
  split at ran
  · cases ran
  · rw [← Option.some.inj ran, List.map_filterMap]
    refine ((List.take_sublist _ _).nodup (distinct.sublist (List.drop_sublist _ _))).filterMap fun code other both => ?_
    simp only [Option.map_map, Option.mem_def, Option.map_eq_some_iff, Function.comp_apply]
    rintro ⟨_, _, own⟩ ⟨_, _, rfl⟩
    exact own

/-- A known item of a group is in the answer to the order that begins with it, and so it has to meet
the filters. -/
theorem SearchExact.grouped (exact_ : SearchExact equal s filters limit) (grouped : code ∈ groupCodes equal s filters)
    {item : Doc} (known : s.itemOf code = some item) : HasValues equal s filters code ∧
      dictionaryOf (matchedRecords equal s filters) code = dictionaryOf s.records code := by
  obtain ⟨answer, ran, answered⟩ := exact_ _ (List.perm_cons_erase grouped).symm
  have positive : limit ≠ 0 := by
    rintro rfl
    cases ran
  obtain ⟨n, rfl⟩ := Nat.exists_eq_succ_of_ne_zero positive
  have member := (mem_answer ran ⟨code, item, dictionaryOf (matchedRecords equal s filters) code⟩).mpr
    ⟨List.mem_cons_self, known, rfl⟩
  exact ((answered.exactly _).mp member).2

/-- The search is exact, whatever the order of the groups, exactly if the records are evenly
matched. -/
theorem search_exact_iff (equal : Value → Value → Bool) (s : FieldStore) (filters : List (String × Value)) (limit : Nat) :
    SearchExact equal s filters limit ↔ EvenlyMatched equal s filters limit := by
  constructor
  · intro exact_
    obtain ⟨first, ran, answered⟩ := exact_ _ (List.Perm.refl _)
    refine ⟨Nat.pos_of_ne_zero ?_, fun unfiltered code item known => ?_, fun code grouped item known => ?_, ?_⟩
    · rintro rfl
      cases ran
    · -- without filters every known item is expected
      have expected := (answered.exactly ⟨code, item, dictionaryOf s.records code⟩).mpr
        ⟨known, by simp [HasValues, unfiltered], rfl⟩
      obtain ⟨record, member, _, coded⟩ := mem_groupCodes.mp (List.mem_of_mem_take ((mem_answer ran _).mp expected).1)
      exact ⟨record, member, coded⟩
    · obtain ⟨holds, same⟩ := exact_.grouped grouped known
      exact ⟨holds, dictionary_matched_iff.mp same⟩
    · -- otherwise a known item can come last, behind the limit
      by_contra neither
      push Not at neither
      obtain ⟨short, code, grouped, unknown⟩ := neither
      obtain ⟨item, known⟩ := Option.ne_none_iff_exists'.mp unknown
      obtain ⟨answer, ran, answered⟩ := exact_ ((groupCodes equal s filters).erase code ++ [code])
        ((List.perm_append_singleton _ _).trans (List.perm_cons_erase grouped).symm)
      have expected := (answered.exactly ⟨code, item, dictionaryOf s.records code⟩).mpr
        ⟨known, (exact_.grouped grouped known).1, rfl⟩
      have inside := ((mem_answer ran _).mp expected).1
      have lengths := List.length_erase_of_mem grouped
      rw [List.take_append_of_le_length (by omega)] at inside
      exact (List.nodup_dedup _).not_mem_erase (List.mem_of_mem_take inside)
  · intro even groups order
    obtain ⟨answer, ran⟩ : ∃ answer, getItemsWithFields equal s filters limit 0 groups = some answer :=
      ⟨_, if_neg even.positive.ne'⟩
    refine ⟨answer, ran, answer_distinct (order.nodup_iff.mpr (List.nodup_dedup _)) ran, fun found => ?_⟩
    rw [mem_answer ran]
    constructor
    · rintro ⟨inside, known, fields⟩
      obtain ⟨holds, each⟩ := even.filtered _ (order.mem_iff.mp (List.mem_of_mem_take inside)) _ known
      exact ⟨known, holds, fields.trans (dictionary_matched_iff.mpr each)⟩
    · rintro ⟨known, holds, fields⟩
      have grouped : found.itemCode ∈ groupCodes equal s filters := by
        by_cases unfiltered : filters = []
        · obtain ⟨record, member, coded⟩ := even.unfiltered unfiltered _ _ known
          exact mem_groupCodes.mpr ⟨record, member, by simp [matchesFilters, unfiltered], coded⟩
        · exact holds.grouped unfiltered
      obtain fits | nobody := even.room
      · rw [List.take_of_length_le (order.length_eq.trans_le fits), order.mem_iff, fields]
        exact ⟨grouped, known, (dictionary_matched_iff.mpr (even.filtered _ grouped _ known).2).symm⟩
      · rw [nobody _ grouped] at known
        cases known

end

/-- An item with a shelf and a warranty. -/
def shelvedItem : FieldStore where
  definitions := []
  records := [⟨0, "I1", "shelf", .str "A", []⟩, ⟨1, "I1", "warranty", .str "2 years", []⟩]
  items := [Doc.ofList [("item_code", .str "I1")]]

/-- The item is found by the field it has, without its other one, and by a second field that it does
not have. -/
theorem found_in_part : ¬ SearchExact (· == ·) shelvedItem [("shelf", .str "A"), ("warranty", .str "3 years")] 100 := by
  intro exact_
  have grouped : "I1" ∈ groupCodes (· == ·) shelvedItem [("shelf", .str "A"), ("warranty", .str "3 years")] := by
    decide
  obtain ⟨v, stored, equals⟩ := (exact_.grouped grouped rfl).1 ("warranty", .str "3 years") (by simp)
  have value : dictionaryOf shelvedItem.records "I1" "warranty" = some (.str "2 years") := by decide
  rw [value] at stored
  cases stored
  revert equals
  decide

end FieldSearch

end StockVerification
