import StockVerification.Foundation.Separators
import StockVerification.Foundation.Text

/-!
# Keys of bulk submissions

Source: frontend/src/features/inventory/hooks/scan/bulkBatchSubmission.ts:7-115.

A bulk submission makes one count line per batch that has a quantity. The key of a line joins the
session, the item, the batch and the quantity with colons. It names neither the place nor the
condition, and a code with a colon in it reads like two parts.
-/
namespace StockVerification

open Foundation

/-- The numbers of the client: how they are read, tested and put into a text. Different counted
quantities have different texts, without a colon. -/
structure ClientNumbers (ν : Type) where
  parseFloat : String → ν
  isFinite : ν → Bool
  isPositive : ν → Bool
  zero : ν
  text : ν → String
  text_injective : ∀ a b, isFinite a = true → isPositive a = true → isFinite b = true →
    isPositive b = true → text a = text b → a = b
  text_plain : ∀ a, isFinite a = true → isPositive a = true → ':' ∉ (text a).toList

structure BulkNewBatchInput where
  barcode : String
  mrp : String
  quantity : String
  clientId : Option String := none

/-- The batch a line comes from. -/
inductive BulkCountLineOrigin where
  | existing (barcode : String)
  | new (identity : String)
  deriving DecidableEq

namespace BulkCountLineOrigin

/-- The text that stands for the batch in the key. -/
def batch : BulkCountLineOrigin → String
  | existing barcode => barcode
  | new identity => identity

def kind : BulkCountLineOrigin → String
  | existing _ => "bulk"
  | new _ => "bulk-new"

end BulkCountLineOrigin

structure BulkCountLinePayload (ν : Type) where
  sessionId : String
  itemCode : String
  itemName : String
  countedQty : ν
  itemCondition : String
  floorNo : String
  rackNo : String
  remark : String
  mrpCounted : Option ν := none
  barcode : String
  idempotencyKey : String

structure BulkCountLineJob (ν : Type) where
  origin : BulkCountLineOrigin
  payload : BulkCountLinePayload ν

structure BulkItem where
  itemCode : Option String := none
  itemName : Option String := none
  name : Option String := none

structure BulkSubmission where
  item : Option BulkItem
  condition : String
  currentFloor : Option String := none
  currentRack : Option String := none
  batchCounts : List (String × String)
  newBatches : List BulkNewBatchInput

/-- `a || b` of texts. -/
def textOr (a : Option String) (b : String) : String := if a.getD "" = "" then b else a.getD ""

def resolveNewBatchIdentity (batch : BulkNewBatchInput) : String := textOr batch.clientId ("barcode:" ++ batch.barcode)

section

variable {ν : Type} (numbers : ClientNumbers ν)

def isPositiveQuantity (value : ν) : Bool := numbers.isFinite value && numbers.isPositive value

/-- The text of a key: the kind of line, the session, the item, the batch and the quantity. -/
def bulkKey (kind sessionId itemCode batch : String) (countedQty : ν) : String :=
  kind ++ ":" ++ sessionId ++ ":" ++ itemCode ++ ":" ++ batch ++ ":" ++ numbers.text countedQty

/-- The job of one batch, for a quantity that counts. -/
def batchJob (sessionId : String) (submission : BulkSubmission) (item : BulkItem) (origin : BulkCountLineOrigin)
    (barcode quantity remark : String) (mrpCounted : Option ν) : Option (BulkCountLineJob ν) :=
  let itemCode := item.itemCode.getD ""
  let countedQty := numbers.parseFloat quantity
  if isPositiveQuantity numbers countedQty then
    some
      { origin := origin
        payload :=
          { sessionId := sessionId
            itemCode := itemCode
            itemName := textOr item.itemName (item.name.getD "")
            countedQty := countedQty
            itemCondition := submission.condition
            floorNo := textOr submission.currentFloor "Unknown"
            rackNo := textOr submission.currentRack "Unknown"
            remark := remark
            mrpCounted := mrpCounted
            barcode := barcode
            idempotencyKey := bulkKey numbers origin.kind sessionId itemCode origin.batch countedQty } }
  else none

/-- The job of a batch that the item already has. -/
def existingBatchJob (sessionId : String) (submission : BulkSubmission) (item : BulkItem)
    (entry : String × String) : Option (BulkCountLineJob ν) :=
  batchJob numbers sessionId submission item (.existing entry.1) entry.1 entry.2 "bulk-batch-entry" none

/-- The job of a batch added by hand. -/
def newBatchJob (sessionId : String) (submission : BulkSubmission) (item : BulkItem)
    (newBatch : BulkNewBatchInput) : Option (BulkCountLineJob ν) :=
  let parsedMrp := numbers.parseFloat newBatch.mrp
  batchJob numbers sessionId submission item (.new (resolveNewBatchIdentity newBatch)) newBatch.barcode newBatch.quantity
    "bulk-new-batch-entry" (some (if numbers.isFinite parsedMrp then parsedMrp else numbers.zero))

def buildBulkCountLineJobs (sessionId : String) (submission : BulkSubmission) : List (BulkCountLineJob ν) :=
  match submission.item with
  | none => []
  | some item =>
    submission.batchCounts.filterMap (existingBatchJob numbers sessionId submission item) ++
      submission.newBatches.filterMap (newBatchJob numbers sessionId submission item)

end

/-- The two lines are about the same batch of the same item, at the same place and in the same
condition. -/
structure SameEntry {ν : Type} (j k : BulkCountLineJob ν) : Prop where
  item : j.payload.itemCode = k.payload.itemCode
  batch : j.origin = k.origin
  barcode : j.payload.barcode = k.payload.barcode
  floor : j.payload.floorNo = k.payload.floorNo
  rack : j.payload.rackNo = k.payload.rackNo
  condition : j.payload.itemCondition = k.payload.itemCondition

def BulkCountLineJob.named {ν : Type} (job : BulkCountLineJob ν) : String := job.payload.itemCode ++ ":" ++ job.origin.batch

section

variable {ν : Type} {numbers : ClientNumbers ν} {sessionId : String} {submission : BulkSubmission}

/-- A built job counts a positive number and its key is made of its own fields. -/
structure BuiltJob (numbers : ClientNumbers ν) (sessionId : String) (job : BulkCountLineJob ν) : Prop where
  finite : numbers.isFinite job.payload.countedQty = true
  positive : numbers.isPositive job.payload.countedQty = true
  key : job.payload.idempotencyKey =
    bulkKey numbers job.origin.kind sessionId job.payload.itemCode job.origin.batch job.payload.countedQty

variable {job : BulkCountLineJob ν}

theorem batchJob_built {item : BulkItem} {origin : BulkCountLineOrigin}
    {barcode quantity remark : String} {mrpCounted : Option ν}
    (made : batchJob numbers sessionId submission item origin barcode quantity remark mrpCounted = some job) :
    BuiltJob numbers sessionId job ∧ job.origin = origin := by
  unfold batchJob isPositiveQuantity at made
  dsimp only at made
  split at made
  · next counted =>
    cases made
    rw [Bool.and_eq_true] at counted
    exact ⟨⟨counted.1, counted.2, rfl⟩, rfl⟩
  · cases made

theorem buildBulkCountLineJobs_built
    (member : job ∈ buildBulkCountLineJobs numbers sessionId submission) : BuiltJob numbers sessionId job := by
  unfold buildBulkCountLineJobs at member
  split at member
  · cases member
  · rcases List.mem_append.mp member with old | new
    · obtain ⟨entry, _, made⟩ := List.mem_filterMap.mp old
      exact (batchJob_built made).1
    · obtain ⟨newBatch, _, made⟩ := List.mem_filterMap.mp new
      exact (batchJob_built made).1

theorem bulkKey_toList (kind itemCode batch : String) (qty : ν) :
    (bulkKey numbers kind sessionId itemCode batch qty).toList =
      kind.toList ++ ':' :: (sessionId.toList ++ ':' :: (itemCode ++ ":" ++ batch).toList) ++
        ':' :: (numbers.text qty).toList := by
  simp [bulkKey, String.toList_append, List.append_assoc]

theorem BulkCountLineOrigin.kind_plain (origin : BulkCountLineOrigin) : ':' ∉ origin.kind.toList := by
  cases origin with
  | existing barcode =>
    have plain : ':' ∉ "bulk".toList := by decide
    exact plain
  | new identity =>
    have plain : ':' ∉ "bulk-new".toList := by decide
    exact plain

/-- The last colon separates the quantity, and the first one the kind. -/
theorem bulkKey_eq_iff {j k : BulkCountLineJob ν} (first : BuiltJob numbers sessionId j)
    (second : BuiltJob numbers sessionId k) : j.payload.idempotencyKey = k.payload.idempotencyKey ↔
      j.origin.kind = k.origin.kind ∧ j.named = k.named ∧ j.payload.countedQty = k.payload.countedQty := by
  rw [first.key, second.key]
  constructor
  · intro same
    have chars := congrArg String.toList same
    rw [bulkKey_toList, bulkKey_toList] at chars
    obtain ⟨fronts, quantities⟩ := Separated.last_part (numbers.text_plain _ first.finite first.positive)
      (numbers.text_plain _ second.finite second.positive) chars
    obtain ⟨kinds, rest⟩ := Separated.first_part j.origin.kind_plain k.origin.kind_plain fronts
    have named := List.tail_eq_of_cons_eq (List.append_cancel_left rest)
    exact ⟨String.toList_inj.mp kinds, String.toList_inj.mp named, numbers.text_injective _ _ first.finite
      first.positive second.finite second.positive (String.toList_inj.mp quantities)⟩
  · rintro ⟨kind, named, qty⟩
    apply String.toList_inj.mp
    rw [bulkKey_toList, bulkKey_toList, kind, qty]
    rw [BulkCountLineJob.named, BulkCountLineJob.named] at named
    rw [named]

end

section

variable {ν : Type} (numbers : ClientNumbers ν) (sessionId : String)

def BulkSubmission.remaining (submission : BulkSubmission) (landed : BulkCountLineOrigin → Bool) : BulkSubmission :=
  { submission with
    batchCounts := submission.batchCounts.filter fun entry => !landed (.existing entry.1)
    newBatches := submission.newBatches.filter fun newBatch => !landed (.new (resolveNewBatchIdentity newBatch)) }

/-- Equal keys belong to one entry, and what is submitted again has the keys it had. -/
structure KeysIdentify (first second : BulkSubmission) : Prop where
  entries : ∀ j ∈ buildBulkCountLineJobs numbers sessionId first, ∀ k ∈ buildBulkCountLineJobs numbers sessionId second,
    j.payload.idempotencyKey = k.payload.idempotencyKey → SameEntry j k
  again : ∀ landed, buildBulkCountLineJobs numbers sessionId (first.remaining landed) =
    (buildBulkCountLineJobs numbers sessionId first).filter fun job => !landed job.origin

/-- Entries of one kind and one quantity whose item and batch read alike are the same entry. -/
def EntriesApart (first second : BulkSubmission) : Prop :=
  ∀ j ∈ buildBulkCountLineJobs numbers sessionId first, ∀ k ∈ buildBulkCountLineJobs numbers sessionId second,
    j.origin.kind = k.origin.kind → j.named = k.named → j.payload.countedQty = k.payload.countedQty → SameEntry j k

/-- Jobs that are made entry by entry are made of the entries that are left. -/
theorem filterMap_remaining {α β : Type} {make : α → Option β} {landed : β → Bool} {gone : α → Bool}
    (origin : ∀ entry job, make entry = some job → landed job = gone entry) (entries : List α) :
    (entries.filter fun entry => !gone entry).filterMap make = (entries.filterMap make).filter fun job => !landed job := by
  induction entries with
  | nil => rfl
  | cons entry rest ih =>
    cases made : make entry with
    | none =>
      rw [List.filterMap_cons_none made, ← ih]
      cases left : gone entry with
      | true => simp [left]
      | false => simp [left, made]
    | some job =>
      have same := origin entry job made
      rw [List.filterMap_cons_some made]
      cases left : gone entry with
      | true => simp [left, same, ih]
      | false => simp [left, same, made, ih]

theorem buildBulkCountLineJobs_remaining (submission : BulkSubmission) (landed : BulkCountLineOrigin → Bool) :
    buildBulkCountLineJobs numbers sessionId (submission.remaining landed) =
      (buildBulkCountLineJobs numbers sessionId submission).filter fun job => !landed job.origin := by
  unfold buildBulkCountLineJobs BulkSubmission.remaining
  cases submission.item with
  | none => rfl
  | some item =>
    dsimp only
    rw [List.filter_append]
    congr 1
    · apply filterMap_remaining
      intro entry job made
      rw [(batchJob_built made).2]
    · apply filterMap_remaining
      intro newBatch job made
      rw [(batchJob_built made).2]

/-- The keys of the jobs identify their entries exactly if entries of one kind, batch and quantity
are the same. -/
theorem keys_identify_iff (first second : BulkSubmission) :
    KeysIdentify numbers sessionId first second ↔ EntriesApart numbers sessionId first second := by
  constructor
  · intro identify j inFirst k inSecond kind named qty
    apply identify.entries j inFirst k inSecond
    exact (bulkKey_eq_iff (buildBulkCountLineJobs_built inFirst) (buildBulkCountLineJobs_built inSecond)).mpr
      ⟨kind, named, qty⟩
  · intro apart
    constructor
    · intro j inFirst k inSecond same
      obtain ⟨kind, named, qty⟩ := (bulkKey_eq_iff (buildBulkCountLineJobs_built inFirst)
        (buildBulkCountLineJobs_built inSecond)).mp same
      exact apart j inFirst k inSecond kind named qty
    · exact buildBulkCountLineJobs_remaining numbers sessionId first

end

/-- Whole numbers, read from the digits a text begins with. -/
def wholeNumbers : ClientNumbers Nat where
  parseFloat text := (text.toList.takeWhile Char.isDigit).foldl (fun n c => 10 * n + (c.toNat - 48)) 0
  isFinite _ := true
  isPositive n := decide (0 < n)
  zero := 0
  text n := toString n
  text_injective a b _ _ _ _ same := by
    have digits := congrArg (fun s : String => Nat.ofDigitChars 10 s.toList 0) same
    simpa [Nat.toString_eq_ofList_toDigits] using digits
  text_plain a _ _ := by
    rw [Nat.toString_eq_ofList_toDigits, String.toList_ofList]
    intro member
    have digit := Nat.isDigit_of_mem_toDigits (by decide) (by decide) member
    exact absurd digit (by decide)

/-- Three of a batch on one rack. -/
def countedOn (rack : String) : BulkSubmission where
  item := some { itemCode := some "SKU-1", itemName := some "Widget" }
  condition := "Good"
  currentFloor := some "F1"
  currentRack := some rack
  batchCounts := [("bar-1", "3")]
  newBatches := []

/-- The same batch counted on two racks has one key. -/
theorem racks_share_key :
    ¬ (∀ (ν : Type) (numbers : ClientNumbers ν) (sessionId : String) (first second : BulkSubmission),
      KeysIdentify numbers sessionId first second) ∧
    (buildBulkCountLineJobs wholeNumbers "S1" (countedOn "R1")).map (·.payload.idempotencyKey) =
      ["bulk:S1:SKU-1:bar-1:3"] ∧
    (buildBulkCountLineJobs wholeNumbers "S1" (countedOn "R2")).map (·.payload.idempotencyKey) =
      ["bulk:S1:SKU-1:bar-1:3"] := by
  refine ⟨?_, by decide +kernel, by decide +kernel⟩
  intro always
  have identify := always Nat wholeNumbers "S1" (countedOn "R1") (countedOn "R2")
  have same := identify.entries _ List.mem_cons_self _ List.mem_cons_self rfl
  exact absurd same.rack (by decide)

end StockVerification
