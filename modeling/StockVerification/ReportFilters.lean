import Mathlib.Data.List.Nodup
import StockVerification.Foundation.FieldPaths

/-!
# The filters of a report

Source: backend/services/reporting/query_builder.py:15-43, 134-138, 159-181 and 183-223.

The filters of a report become one match stage. A filter is a value, or a dictionary of operators;
equality and the other operators of a field are written under the same name.
-/
namespace StockVerification

open Foundation

/-- `_SIMPLE_OPS`. -/
def simpleOps : List (String × String) :=
  [("ne", "$ne"), ("gt", "$gt"), ("gte", "$gte"), ("lt", "$lt"), ("lte", "$lte"), ("in", "$in"),
    ("nin", "$nin"), ("exists", "$exists")]

def allowedFilterKeys : List String :=
  ["warehouse", "status", "date_from", "date_to", "user_id", "session_id", "item_code", "barcode", "category",
    "subcategory", "floor", "rack", "rack_id", "started_at", "completed_at", "created_at", "updated_at", "verified",
    "verified_qty", "damaged_qty", "counted_qty"]

/-- The operators that the docstring of `_build_match_stage` lists. -/
def documentedOperators : List String :=
  ["eq", "ne", "gt", "gte", "lt", "lte", "in", "nin", "regex", "exists"]

def applyOperator (mongoCondition : Fields) (op : String) (value : Bson) : Fields :=
  match simpleOps.lookup op with
  | some name => Fields.setField name value mongoCondition
  | none =>
    if op = "regex" then Fields.setField "$options" (.str "i") (Fields.setField "$regex" value mongoCondition)
    else mongoCondition

/-- A round of the loop over the operators of a field: equality goes into the match conditions, the
others are collected. -/
def applyCondition (field : String) (state : Fields × Fields) (op : String × Bson) : Fields × Fields :=
  if op.1 = "eq" then (Fields.setField field op.2 state.1, state.2) else (state.1, applyOperator state.2 op.1 op.2)

/-- A round of the loop over the filters. -/
def applyFilter (matchConditions : Fields) (filter : String × Bson) : Fields :=
  if filter.1 ∉ allowedFilterKeys then matchConditions
  else match filter.2 with
    | .doc ops =>
      let looped := ops.foldl (applyCondition filter.1) (matchConditions, [])
      if looped.2.isEmpty then looped.1 else Fields.setField filter.1 (.doc looped.2) looped.1
    | condition => Fields.setField filter.1 condition matchConditions

/-- `_build_match_stage`, the conditions under `$match`. No conditions make no stage. -/
def buildMatchStage (filters : Fields) : Fields := filters.foldl applyFilter []

/-- The database's meaning of one operator, with its operand and the options beside it, for a field
of a document. An operand it refuses is met by no document. -/
structure MatchSemantics where
  operator : String → Bson → Option Bson → String → Fields → Bool

/-- A document is read as operators if its first name begins with a dollar sign and it is no
reference. -/
def readsAsOperators : Bson → Bool
  | .doc ((first, value) :: rest) =>
    first.toList.head? = some '$' &&
      !((((first, value) :: rest).lookup "$ref").isSome && (((first, value) :: rest).lookup "$id").isSome)
  | _ => false

namespace MatchSemantics

variable (sem : MatchSemantics)

/-- All operators of a field. Options belong to a regular expression. -/
def operatorsHold (ops : Fields) (field : String) (doc : Fields) : Bool :=
  ops.all fun op =>
    if op.1 = "$options" then (ops.lookup "$regex").isSome
    else sem.operator op.1 op.2 (if op.1 = "$regex" then ops.lookup "$options" else none) field doc

/-- What stands under a field in a match stage: operators, or a value to be equal to. -/
def conditionHolds (field : String) (condition : Bson) (doc : Fields) : Bool :=
  match condition with
  | .doc ops =>
    if readsAsOperators (.doc ops) then sem.operatorsHold ops field doc
    else sem.operator "$eq" (.doc ops) none field doc
  | value => sem.operator "$eq" value none field doc

def selects (matchConditions : Fields) (doc : Fields) : Bool :=
  matchConditions.all fun entry => sem.conditionHolds entry.1 entry.2 doc

/-- One condition of a filter; a regular expression does not tell cases apart. -/
def meets (field op : String) (value : Bson) (doc : Fields) : Bool :=
  if op = "eq" then sem.operator "$eq" value none field doc
  else if op = "regex" then sem.operator "$regex" value (some (.str "i")) field doc
  else sem.operator ("$" ++ op) value none field doc

end MatchSemantics

structure FilterSpec where
  filters : Fields
  distinct : (filters.map (·.1)).Nodup
  allowed : ∀ filter ∈ filters, filter.1 ∈ allowedFilterKeys
  operators : ∀ filter ∈ filters, ∀ ops, filter.2 = .doc ops →
    (ops.map (·.1)).Nodup ∧ ∀ op ∈ ops, op.1 ∈ documentedOperators

/-- The conditions that a filter lists, with their operators. -/
def listedConditions : Bson → Fields
  | .doc ops => ops
  | value => [("eq", value)]

def isLost (condition : Bson) (op : String) : Bool :=
  op = "eq" && (listedConditions condition).any fun other => other.1 ≠ "eq"

def isMisread (condition : Bson) (op : String) (value : Bson) : Bool :=
  op = "eq" && !isLost condition op && readsAsOperators value

variable (sem : MatchSemantics)

/-- A document meets the listed conditions that are chosen. -/
def MeetsThose (spec : FilterSpec) (chosen : Bson → String → Bson → Bool) (doc : Fields) : Prop :=
  ∀ filter ∈ spec.filters, ∀ op ∈ listedConditions filter.2, chosen filter.2 op.1 op.2 = true →
    sem.meets filter.1 op.1 op.2 doc = true

/-- The match stage selects the documents that meet every listed condition. -/
def FiltersExact (spec : FilterSpec) : Prop :=
  ∀ doc, sem.selects (buildMatchStage spec.filters) doc = true ↔ MeetsThose sem spec (fun _ _ _ => true) doc

/-- A document meets the operators that misread equalities read as. -/
def MeetsMisread (spec : FilterSpec) (doc : Fields) : Prop :=
  ∀ filter ∈ spec.filters, ∀ op ∈ listedConditions filter.2, isMisread filter.2 op.1 op.2 = true →
    sem.conditionHolds filter.1 op.2 doc = true

/-- Among the documents that meet the other conditions, the lost and the misread equalities hold
exactly where the operators do that the misread ones read as; with no lost and no misread equality
this is always so. -/
def LostWithoutEffect (spec : FilterSpec) : Prop :=
  ∀ doc, MeetsThose sem spec (fun condition op value => !isLost condition op && !isMisread condition op value) doc →
    (MeetsMisread sem spec doc ↔
      MeetsThose sem spec (fun condition op value => isLost condition op || isMisread condition op value) doc)

/-- The names under which an operator is collected. -/
def mongoNames (op : String) : List String :=
  match simpleOps.lookup op with
  | some name => [name]
  | none => if op = "regex" then ["$regex", "$options"] else []

/-- What is collected for an operator. -/
def mongoEntries (op : String × Bson) : Fields :=
  match simpleOps.lookup op.1 with
  | some name => [(name, op.2)]
  | none => if op.1 = "regex" then [("$regex", op.2), ("$options", .str "i")] else []

theorem names_mongoEntries (op : String × Bson) : (mongoEntries op).map (·.1) = mongoNames op.1 := by
  unfold mongoEntries mongoNames
  split
  · rfl
  · split <;> rfl

theorem applyOperator_eq (collected : Fields) (op : String × Bson) : applyOperator collected op.1 op.2 =
    (mongoEntries op).foldl (fun fields entry => Fields.setField entry.1 entry.2 fields) collected := by
  unfold applyOperator mongoEntries
  split
  · rfl
  · split <;> rfl

theorem mongoNames_nodup : ∀ op ∈ documentedOperators, (mongoNames op).Nodup := by decide

theorem mongoNames_apart : ∀ op ∈ documentedOperators, ∀ other ∈ documentedOperators, op ≠ other →
    ∀ name ∈ mongoNames op, name ∉ mongoNames other := by decide +kernel

theorem simple_name : ∀ op ∈ documentedOperators, ∀ name ∈ mongoNames op, op ≠ "regex" →
    name = "$" ++ op ∧ name ≠ "$options" ∧ name ≠ "$regex" := by decide +kernel

theorem mongoNames_filled : ∀ op ∈ documentedOperators, op ≠ "eq" → mongoNames op ≠ [] := by decide

theorem mongoNames_dollar : ∀ op ∈ documentedOperators, ∀ name ∈ mongoNames op,
    name.toList.head? = some '$' ∧ name ≠ "$ref" := by decide +kernel

section

variable {ops : Fields} {field : String} {sem : MatchSemantics} {doc : Fields}

theorem mongo_nodup (distinct : (ops.map (·.1)).Nodup) (documented : ∀ op ∈ ops, op.1 ∈ documentedOperators) :
    ((ops.flatMap mongoEntries).map (·.1)).Nodup := by
  rw [List.map_flatMap, List.nodup_flatMap]
  refine ⟨fun op member => ?_, ?_⟩
  · rw [names_mongoEntries]
    exact mongoNames_nodup op.1 (documented op member)
  · have apart := List.pairwise_map.mp distinct
    refine apart.imp_of_mem fun {op other} member otherMember different => ?_
    simp only [Function.onFun, names_mongoEntries]
    exact fun name named otherNamed =>
      mongoNames_apart op.1 (documented op member) other.1 (documented other otherMember) different name named otherNamed

theorem loop_eq (state : Fields × Fields) : ops.foldl (applyCondition field) state =
    (ops.foldl (fun conditions op => if op.1 = "eq" then Fields.setField field op.2 conditions else conditions) state.1,
      (ops.flatMap mongoEntries).foldl (fun fields entry => Fields.setField entry.1 entry.2 fields) state.2) := by
  induction ops generalizing state with
  | nil => rfl
  | cons op rest ih =>
    rw [List.foldl_cons, ih, List.foldl_cons, List.flatMap_cons, List.foldl_append, ← applyOperator_eq]
    unfold applyCondition
    by_cases equality : op.1 = "eq"
    · rw [if_pos equality, if_pos equality, equality]
      rfl
    · rw [if_neg equality, if_neg equality]

/-- With one value for each operator, the equality is the last and only one. -/
theorem equality_eq (distinct : (ops.map (·.1)).Nodup) (conditions : Fields) :
    ops.foldl (fun conditions op => if op.1 = "eq" then Fields.setField field op.2 conditions else conditions) conditions =
      match ops.lookup "eq" with
      | some value => Fields.setField field value conditions
      | none => conditions := by
  induction ops generalizing conditions with
  | nil => rfl
  | cons op rest ih =>
    obtain ⟨name, value⟩ := op
    rw [List.map_cons, List.nodup_cons] at distinct
    rw [List.foldl_cons, ih distinct.2, Fields.lookup_entry]
    by_cases equality : name = "eq"
    · have gone : rest.lookup "eq" = none := by
        rw [List.lookup_eq_none_iff]
        intro op member
        rw [bne_iff_ne]
        exact fun same => distinct.1 (List.mem_map.mpr ⟨op, member, same.symm.trans equality.symm⟩)
      rw [gone, if_pos equality, if_pos equality.symm]
    · rw [if_neg equality, if_neg (Ne.symm equality)]

/-- What stands under a field in the end. -/
def finalCondition : Bson → Option Bson
  | .doc ops => if (ops.flatMap mongoEntries).isEmpty then ops.lookup "eq" else some (.doc (ops.flatMap mongoEntries))
  | value => some value

theorem applyFilter_eq (conditions : Fields) {filter : String × Bson} (allowed : filter.1 ∈ allowedFilterKeys)
    (operators : ∀ ops, filter.2 = .doc ops → (ops.map (·.1)).Nodup ∧ ∀ op ∈ ops, op.1 ∈ documentedOperators) :
    applyFilter conditions filter = match finalCondition filter.2 with
      | some value => Fields.setField filter.1 value conditions
      | none => conditions := by
  obtain ⟨name, condition⟩ := filter
  rw [applyFilter, if_neg (not_not.mpr allowed)]
  cases condition with
  | doc ops =>
    obtain ⟨distinct, documented⟩ := operators ops rfl
    have collected : (([] ++ ops.flatMap mongoEntries : Fields).map (·.1)).Nodup := mongo_nodup distinct documented
    simp only [loop_eq, equality_eq distinct, Fields.setFields_fresh collected, List.nil_append, finalCondition]
    cases (ops.flatMap mongoEntries).isEmpty with
    | true => rfl
    | false =>
      simp only [Bool.false_eq_true, if_false]
      cases ops.lookup "eq" with
      | none => rfl
      | some value => exact Fields.setField_setField _ _ _ _
  | _ => rfl

variable (spec : FilterSpec)

/-- Each filter stands in the stage with its final condition, in the order of the filters. -/
theorem buildMatchStage_eq : buildMatchStage spec.filters =
    spec.filters.filterMap fun filter => (finalCondition filter.2).map fun value => (filter.1, value) := by
  have built (filters done : Fields) (within : ∀ filter ∈ filters, filter ∈ spec.filters)
      (distinct : (filters.map (·.1)).Nodup) (fresh : ∀ filter ∈ filters, filter.1 ∉ done.map (·.1)) :
      filters.foldl applyFilter done =
        done ++ filters.filterMap fun filter => (finalCondition filter.2).map fun value => (filter.1, value) := by
    induction filters generalizing done with
    | nil => simp
    | cons filter rest ih =>
      have listed := within filter List.mem_cons_self
      rw [List.map_cons, List.nodup_cons] at distinct
      have later := fun other member => within other (List.mem_cons_of_mem _ member)
      have step := applyFilter_eq done (spec.allowed filter listed) (spec.operators filter listed)
      rw [List.foldl_cons, step, List.filterMap_cons]
      cases finalCondition filter.2 with
      | none => exact ih done later distinct.2 fun other member => fresh other (List.mem_cons_of_mem _ member)
      | some value =>
        simp only [Option.map_some]
        rw [Fields.setField_fresh (fresh filter List.mem_cons_self), ih _ later distinct.2,
          List.append_assoc, List.singleton_append]
        intro other member known
        rw [List.map_append, List.mem_append] at known
        rcases known with old | new
        · exact fresh other (List.mem_cons_of_mem _ member) old
        · exact distinct.1 (List.mem_map.mpr ⟨other, member, by simpa using new⟩)
  exact built spec.filters [] (fun _ member => member) spec.distinct (by simp)

theorem selects_iff : sem.selects (buildMatchStage spec.filters) doc = true ↔
    ∀ filter ∈ spec.filters, ∀ value, finalCondition filter.2 = some value →
      sem.conditionHolds filter.1 value doc = true := by
  rw [MatchSemantics.selects, buildMatchStage_eq, List.all_eq_true]
  constructor
  · intro all filter member value final
    exact all (filter.1, value) (List.mem_filterMap.mpr ⟨filter, member, by rw [final, Option.map_some]⟩)
  · rintro all entry member
    obtain ⟨filter, stands, built⟩ := List.mem_filterMap.mp member
    obtain ⟨value, final, rfl⟩ := Option.map_eq_some_iff.mp built
    exact all filter stands value final

/-- Collected operators hold as they are listed. -/
theorem operatorsHold_iff (distinct : (ops.map (·.1)).Nodup) (documented : ∀ op ∈ ops, op.1 ∈ documentedOperators) :
    sem.operatorsHold (ops.flatMap mongoEntries) field doc = true ↔
      ∀ op ∈ ops, op.1 ≠ "eq" → sem.meets field op.1 op.2 doc = true := by
  have named := mongo_nodup distinct documented
  rw [MatchSemantics.operatorsHold, List.all_flatMap, List.all_eq_true]
  refine forall₂_congr fun op member => ?_
  have listed := documented op member
  by_cases equality : op.1 = "eq"
  · have none_ : mongoEntries op = [] := by rw [mongoEntries, equality]; rfl
    simp [none_, equality]
  · by_cases regex : op.1 = "regex"
    · have entries : mongoEntries op = [("$regex", op.2), ("$options", .str "i")] := by rw [mongoEntries, regex]; rfl
      have pattern : (ops.flatMap mongoEntries).lookup "$regex" = some op.2 :=
        Fields.lookup_of_mem named (List.mem_flatMap.mpr ⟨op, member, by simp [entries]⟩)
      have options : (ops.flatMap mongoEntries).lookup "$options" = some (.str "i") :=
        Fields.lookup_of_mem named (List.mem_flatMap.mpr ⟨op, member, by simp [entries]⟩)
      simp [entries, pattern, options, MatchSemantics.meets, regex]
    · have simple : ∃ name, mongoEntries op = [(name, op.2)] ∧ name ∈ mongoNames op.1 := by
        have filled := mongoNames_filled op.1 listed equality
        unfold mongoNames at filled ⊢
        unfold mongoEntries
        cases found : simpleOps.lookup op.1 with
        | some name => exact ⟨name, rfl, List.mem_singleton_self name⟩
        | none =>
          rw [found] at filled
          simp [regex] at filled
      obtain ⟨name, entries, isName⟩ := simple
      obtain ⟨rfl, noOptions, noRegex⟩ := simple_name op.1 listed name isName regex
      simp [entries, noOptions, noRegex, MatchSemantics.meets, equality, regex]

theorem conditionHolds_literal {value : Bson} (literal : readsAsOperators value = false) :
    sem.conditionHolds field value doc = sem.meets field "eq" value doc := by
  cases value with
  | doc inner =>
    rw [MatchSemantics.conditionHolds, if_neg (by simp [literal])]
    rfl
  | _ => rfl

theorem collected_reads (documented : ∀ op ∈ ops, op.1 ∈ documentedOperators)
    (filled : ops.flatMap mongoEntries ≠ []) : readsAsOperators (.doc (ops.flatMap mongoEntries)) = true := by
  have dollar : ∀ entry ∈ ops.flatMap mongoEntries, entry.1.toList.head? = some '$' ∧ entry.1 ≠ "$ref" := by
    intro entry member
    obtain ⟨op, listed, inside⟩ := List.mem_flatMap.mp member
    refine mongoNames_dollar op.1 (documented op listed) entry.1 ?_
    rw [← names_mongoEntries]
    exact List.mem_map_of_mem inside
  have noReference : (ops.flatMap mongoEntries).lookup "$ref" = none := by
    rw [List.lookup_eq_none_iff]
    intro entry member
    rw [bne_iff_ne]
    exact (dollar entry member).2.symm
  cases entries : ops.flatMap mongoEntries with
  | nil => exact absurd entries filled
  | cons entry rest =>
    rw [entries] at dollar noReference
    rw [readsAsOperators, (dollar entry List.mem_cons_self).1, noReference]
    rfl

theorem collected_empty (documented : ∀ op ∈ ops, op.1 ∈ documentedOperators) :
    (ops.flatMap mongoEntries).isEmpty = !ops.any fun op => op.1 ≠ "eq" := by
  rw [Bool.eq_iff_iff, List.isEmpty_iff, List.flatMap_eq_nil_iff, Bool.not_eq_true', List.any_eq_false]
  refine forall₂_congr fun op member => ?_
  rw [← List.map_eq_nil_iff (f := (·.1)), names_mongoEntries]
  by_cases equality : op.1 = "eq"
  · simp only [equality]
    decide
  · simp [equality, mongoNames_filled op.1 (documented op member) equality]

section

variable {value : Bson} (plain : ∀ ops, value ≠ .doc ops)
include plain

theorem value_holds_iff : (∀ final, finalCondition value = some final → sem.conditionHolds field final doc = true) ↔
      sem.meets field "eq" value doc = true := by
  cases value with
  | doc ops => exact absurd rfl (plain ops)
  | _ => simp only [finalCondition, Option.some.injEq, forall_eq']; rfl

theorem value_not_read : readsAsOperators value = false := by
  cases value with
  | doc ops => exact absurd rfl (plain ops)
  | _ => rfl

theorem listed_value : listedConditions value = [("eq", value)] := by
  cases value with
  | doc ops => exact absurd rfl (plain ops)
  | _ => rfl

/-- The final condition of a filter holds exactly if its other conditions and the operators of its
misread equality do. -/
def HoldsAsRead (sem : MatchSemantics) (field : String) (doc : Fields) (condition : Bson) : Prop :=
  (∀ value, finalCondition condition = some value → sem.conditionHolds field value doc = true) ↔
    (∀ op ∈ listedConditions condition, (!isLost condition op.1 && !isMisread condition op.1 op.2) = true →
      sem.meets field op.1 op.2 doc = true) ∧
    ∀ op ∈ listedConditions condition, isMisread condition op.1 op.2 = true → sem.conditionHolds field op.2 doc = true

theorem value_holdsAsRead : HoldsAsRead sem field doc value := by
  have notMisread : isMisread value "eq" value = false := by
    rw [isMisread, value_not_read plain, Bool.and_false]
  have notLost : isLost value "eq" = false := by simp [isLost, listed_value plain]
  simp [HoldsAsRead, value_holds_iff plain, listed_value plain, notMisread, notLost]

end

section

variable (distinct : (ops.map (·.1)).Nodup) (documented : ∀ op ∈ ops, op.1 ∈ documentedOperators)
include distinct documented

/-- Another operator overwrites the equality. -/
theorem operators_holdAsRead (beside : (ops.any fun op => op.1 ≠ "eq") = true) :
    HoldsAsRead sem field doc (.doc ops) := by
  have filled : (ops.flatMap mongoEntries).isEmpty = false := by
    rw [collected_empty documented, beside]
    rfl
  have reads := collected_reads documented (by simpa using filled)
  have final : finalCondition (.doc ops) = some (.doc (ops.flatMap mongoEntries)) := by
    rw [finalCondition, filled]
    rfl
  have lost (op : String) : isLost (.doc ops) op = decide (op = "eq") := by
    rw [isLost, listedConditions, beside, Bool.and_true]
  have notMisread (op : String × Bson) : isMisread (.doc ops) op.1 op.2 = false := by
    rw [isMisread, lost]
    cases decide (op.1 = "eq") <;> rfl
  simp only [HoldsAsRead, final, Option.some.injEq, forall_eq', MatchSemantics.conditionHolds,
    reads, if_true, operatorsHold_iff distinct documented, listedConditions, lost, notMisread]
  simp

/-- An equality with nothing beside it is all there is, and its value may read as operators. -/
theorem equality_holdsAsRead (nothing : (ops.any fun op => op.1 ≠ "eq") = false) :
    HoldsAsRead sem field doc (.doc ops) := by
  have alone : ∀ op ∈ ops, op.1 = "eq" := by simpa using nothing
  have notLost (op : String) : isLost (.doc ops) op = false := by
    rw [isLost, listedConditions, nothing, Bool.and_false]
  have final : finalCondition (.doc ops) = ops.lookup "eq" := by
    rw [finalCondition, if_pos (by rw [collected_empty documented, nothing]; rfl)]
  have misread : ∀ op ∈ ops, isMisread (.doc ops) op.1 op.2 = readsAsOperators op.2 := by
    intro op member
    rw [isMisread, notLost, alone op member]
    rfl
  have stands : ∀ op ∈ ops, ops.lookup "eq" = some op.2 := fun op member =>
    Fields.lookup_of_mem distinct (alone op member ▸ member)
  rw [HoldsAsRead, final]
  constructor
  · intro all
    refine ⟨fun op member literal => ?_, fun op member _ => all op.2 (stands op member)⟩
    rw [notLost, misread op member] at literal
    rw [alone op member, ← conditionHolds_literal (by simpa using literal)]
    exact all op.2 (stands op member)
  · rintro ⟨literal, read⟩ value found
    obtain ⟨front, back, split, _⟩ := List.lookup_eq_some_iff.mp found
    have member : ("eq", value) ∈ ops := by simp [split]
    cases reads : readsAsOperators value with
    | true => exact read _ member ((misread _ member).trans reads)
    | false =>
      rw [conditionHolds_literal reads]
      refine literal _ member ?_
      rw [notLost, misread _ member, reads]
      rfl

end

theorem filter_holds_iff {condition : Bson} (operators : ∀ ops, condition = .doc ops →
    (ops.map (·.1)).Nodup ∧ ∀ op ∈ ops, op.1 ∈ documentedOperators) : HoldsAsRead sem field doc condition := by
  by_cases plain : ∀ ops, condition ≠ .doc ops
  · exact value_holdsAsRead plain
  · obtain ⟨ops, rfl⟩ : ∃ ops, condition = .doc ops := by simpa using plain
    obtain ⟨distinct, documented⟩ := operators ops rfl
    cases beside : ops.any fun op => op.1 ≠ "eq" with
    | true => exact operators_holdAsRead distinct documented beside
    | false => exact equality_holdsAsRead distinct documented beside

theorem meetsAll_iff {spec : FilterSpec} : MeetsThose sem spec (fun _ _ _ => true) doc ↔
    MeetsThose sem spec (fun condition op value => !isLost condition op && !isMisread condition op value) doc ∧
      MeetsThose sem spec (fun condition op value => isLost condition op || isMisread condition op value) doc := by
  constructor
  · intro all
    exact ⟨fun filter member op listed _ => all filter member op listed rfl,
      fun filter member op listed _ => all filter member op listed rfl⟩
  · rintro ⟨others, affected⟩ filter member op listed -
    by_cases hit : (isLost filter.2 op.1 || isMisread filter.2 op.1 op.2) = true
    · exact affected filter member op listed hit
    · have spared : (!isLost filter.2 op.1 && !isMisread filter.2 op.1 op.2) = true := by
        rwa [← Bool.not_or, Bool.not_eq_true', ← Bool.not_eq_true]
      exact others filter member op listed spared

theorem stage_selects_iff : sem.selects (buildMatchStage spec.filters) doc = true ↔
    MeetsThose sem spec (fun condition op value => !isLost condition op && !isMisread condition op value) doc ∧
      MeetsMisread sem spec doc := by
  rw [selects_iff]
  constructor
  · intro all
    have single := fun filter member =>
      (filter_holds_iff (spec.operators filter member)).mp fun value final => all filter member value final
    exact ⟨fun filter member => (single filter member).1, fun filter member => (single filter member).2⟩
  · rintro ⟨others, misread⟩ filter member
    exact (filter_holds_iff (spec.operators filter member)).mpr ⟨others filter member, misread filter member⟩

end

/-- The match stage selects the documents that meet every listed condition exactly if the lost and
the misread equalities make no difference beside the other conditions. -/
theorem filters_exact_iff (spec : FilterSpec) :
    FiltersExact sem spec ↔ LostWithoutEffect sem spec := by
  unfold FiltersExact LostWithoutEffect
  refine forall_congr' fun doc => ?_
  rw [stage_selects_iff, meetsAll_iff]
  constructor
  · intro same others
    exact ⟨fun misread => (same.mp ⟨others, misread⟩).2, fun affected => (same.mpr ⟨others, affected⟩).2⟩
  · intro same
    exact and_congr_right same

/-- The comparison of a number in a document, and equality of other values. -/
def comparesNumbers : MatchSemantics where
  operator name operand _ field doc :=
    match name, operand, doc.lookup field with
    | "$eq", .num wanted, some (.num held) => wanted = held
    | "$gte", .num least, some (.num held) => least ≤ held
    | _, _, _ => false

/-- A quantity of five that is at least three: the equality is overwritten, and a quantity of four
is selected. -/
def fiveAndAtLeastThree : FilterSpec where
  filters := [("counted_qty", .doc [("eq", .num 5), ("gte", .num 3)])]
  distinct := by decide
  allowed := by decide
  operators := by
    rintro filter member ops same
    obtain rfl := List.mem_singleton.mp member
    obtain rfl : [("eq", Bson.num 5), ("gte", .num 3)] = ops := by simpa using same
    exact ⟨by decide, by decide⟩

theorem equality_overwritten :
    comparesNumbers.selects (buildMatchStage fiveAndAtLeastThree.filters)
    [("counted_qty", .num 4)] = true ∧ ¬ FiltersExact comparesNumbers fiveAndAtLeastThree := by
  have selected : comparesNumbers.selects (buildMatchStage fiveAndAtLeastThree.filters)
      [("counted_qty", .num 4)] = true := by decide +kernel
  refine ⟨selected, fun exactly => ?_⟩
  have met := (exactly _).mp selected ("counted_qty", _) List.mem_cons_self ("eq", .num 5) List.mem_cons_self rfl
  have unmet : comparesNumbers.meets "counted_qty" "eq" (.num 5) [("counted_qty", .num 4)] = false := by decide +kernel
  exact absurd (met.symm.trans unmet) (by decide)

end StockVerification
