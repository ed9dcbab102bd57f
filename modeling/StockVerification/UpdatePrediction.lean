import Mathlib.Algebra.Ring.Rat
import Mathlib.Data.List.Pairwise
import Mathlib.Data.Option.Basic
import StockVerification.Foundation.FieldPaths

/-!
# Updates evaluated in place

Source: backend/services/count_lines/validation.py:91-157, 342-388.

The write path evaluates an update on a copy of the stored document and checks the copy. The
evaluation takes a key of an operator for the name of a field and gives arrays, `$each` and equality
the meaning that they have in its own language; the database follows paths and its own comparison.
-/
namespace StockVerification

open Foundation Foundation.Fields Foundation.Bson

mutual

/-- Equality of the language: truth values are numbers, and the order of fields does not count. -/
def languageEq : Bson → Bson → Bool
  | .null, .null => true
  | .bool a, .bool b => a == b
  | .bool a, .num q => (if a then 1 else 0) == q
  | .num q, .bool a => q == (if a then 1 else 0)
  | .num p, .num q => p == q
  | .str a, .str b => a == b
  | .date a, .date b => a == b
  | .oid a, .oid b => a == b
  | .array as, .array bs => languageEqAll as bs
  | .doc as, .doc bs => as.length == bs.length && languageEqFields as bs
  | _, _ => false

def languageEqAll : List Bson → List Bson → Bool
  | [], [] => true
  | a :: as, b :: bs => languageEq a b && languageEqAll as bs
  | _, _ => false

def languageEqFields : List (String × Bson) → List (String × Bson) → Bool
  | [], _ => true
  | (name, a) :: rest, bs =>
    (match bs.lookup name with
      | some b => languageEq a b
      | none => false) && languageEqFields rest bs

end

mutual

/-- Equality of the database: types are told apart, and documents are equal field by field in their
order. -/
def storeEq : Bson → Bson → Bool
  | .null, .null => true
  | .bool a, .bool b => a == b
  | .num p, .num q => p == q
  | .str a, .str b => a == b
  | .date a, .date b => a == b
  | .oid a, .oid b => a == b
  | .array as, .array bs => storeEqAll as bs
  | .doc as, .doc bs => storeEqFields as bs
  | _, _ => false

def storeEqAll : List Bson → List Bson → Bool
  | [], [] => true
  | a :: as, b :: bs => storeEq a b && storeEqAll as bs
  | _, _ => false

def storeEqFields : List (String × Bson) → List (String × Bson) → Bool
  | [], [] => true
  | (name, a) :: rest, (other, b) :: bs => name == other && storeEq a b && storeEqFields rest bs
  | _, _ => false

end

def among (equal : Bson → Bson → Bool) (value : Bson) (values : List Bson) : Bool := values.any (equal value)

/-- Values are added one after another unless they are there already. -/
def addAbsent (equal : Bson → Bson → Bool) (elements values : List Bson) : List Bson :=
  values.foldl (fun elements value => if among equal value elements then elements else elements ++ [value]) elements

/-- `str(key).startswith("$")`. -/
def isOperator (key : String) : Bool := key.toList.head? == some '$'

def normalizeUpdateArrayValues : Bson → List Bson
  | .doc fields =>
    match fields.lookup "$each" with
    | some (.array values) => values
    | _ => [.doc fields]
  | .array values => values
  | value => [value]

/-- `dict.update`. -/
def updateFields (document fields : Fields) : Fields :=
  fields.foldl (fun document entry => setField entry.1 entry.2 document) document

/-- An entry of `$inc`. -/
def incrementField (document : Fields) (entry : String × Bson) : Fields :=
  match (document.lookup entry.1).bind Bson.number, Bson.number entry.2 with
  | some current, some delta => setField entry.1 (.num (current + delta)) document
  | none, some _ => setField entry.1 entry.2 document
  | _, none => document

/-- The list that an entry of `$push` or `$addToSet` extends. -/
def existingList : Option Bson → List Bson
  | some (.array elements) => elements
  | none | some .null => []
  | some value => [value]

def pushField (document : Fields) (entry : String × Bson) : Fields :=
  setField entry.1 (.array (existingList (document.lookup entry.1) ++ normalizeUpdateArrayValues entry.2)) document

def addToSetField (document : Fields) (entry : String × Bson) : Fields :=
  setField entry.1
    (.array (addAbsent languageEq (existingList (document.lookup entry.1)) (normalizeUpdateArrayValues entry.2)))
    document

/-- The values that an entry of `$pull` removes. -/
def pullsValue (condition value : Bson) : Bool :=
  match condition with
  | .doc fields =>
    match fields.lookup "$in" with
    | some (.array disallowed) => among languageEq value disallowed
    | _ => languageEq value condition
  | _ => languageEq value condition

def pullField (document : Fields) (entry : String × Bson) : Fields :=
  match document.lookup entry.1 with
  | some (.array elements) =>
    setField entry.1 (.array (elements.filter fun value => !pullsValue entry.2 value)) document
  | _ => document

/-- The entries of an operator, if it has a document of them. -/
def operatorFields (update : Fields) (operator : String) : Fields :=
  match update.lookup operator with
  | some (.doc fields) => fields
  | _ => []

def applyUpdateDocumentToMerged (merged update : Fields) : Fields :=
  if !update.any (fun entry => isOperator entry.1) then updateFields merged update
  else
    let merged := updateFields merged (operatorFields update "$set")
    let merged := (operatorFields update "$inc").foldl incrementField merged
    let merged := (operatorFields update "$unset").foldl (fun document entry => dropField entry.1 document) merged
    let merged := (operatorFields update "$push").foldl pushField merged
    let merged := (operatorFields update "$addToSet").foldl addToSetField merged
    (operatorFields update "$pull").foldl pullField merged


/-- The operators that the evaluation reads, in its order. -/
inductive UpdateOperator where
  | set
  | inc
  | unset
  | push
  | addToSet
  | pull
  deriving DecidableEq

namespace UpdateOperator

def name : UpdateOperator → String
  | set => "$set"
  | inc => "$inc"
  | unset => "$unset"
  | push => "$push"
  | addToSet => "$addToSet"
  | pull => "$pull"

def all : List UpdateOperator := [set, inc, unset, push, addToSet, pull]

end UpdateOperator

/-- An operator with one of its keys. -/
structure UpdateEntry where
  operator : UpdateOperator
  key : String
  argument : Bson

def updateEntries (update : Fields) : List UpdateEntry :=
  UpdateOperator.all.flatMap fun operator =>
    (operatorFields update operator.name).map fun entry => ⟨operator, entry.1, entry.2⟩

/-- The keys of the operators that the evaluation does not read. -/
def otherEntries (update : Fields) : List (String × String × Bson) :=
  (update.filter fun entry => !(UpdateOperator.all.map UpdateOperator.name).contains entry.1).flatMap fun entry =>
    match entry.2 with
    | .doc fields => fields.map fun field => (entry.1, field.1, field.2)
    | _ => []

def fieldPath (key : String) : List String := (key.toList.splitOn '.').map String.ofList

/-- A key that names one field: without dots, and not reserved for operators and positions. -/
def isFieldName (key : String) : Bool := key != "" && !key.toList.contains '.' && !isOperator key

/-- What the documented operators leave to the server: which updates it refuses beyond them, the
modifiers of `$push`, the conditions of `$pull`, and the other operators and positional paths, by
the writes they make. -/
structure UpdateServer where
  accepts : Fields → Fields → Bool
  pushModified : Fields → List Bson → List Bson → Option (List Bson)
  pulls : Bson → Bson → Bool
  further : Fields → String → String → Bson → Option (List Touch)

/-- The array that an array operator works on; any other value is refused. -/
def storedList : Option Bson → Option (List Bson)
  | none => some []
  | some (.array elements) => some elements
  | some _ => none

/-- The values that `$push` and `$addToSet` add, with the modifiers beside `$each`. -/
def addedValues : Bson → Option (List Bson × Fields)
  | .doc fields =>
    match fields.lookup "$each" with
    | some (.array values) => some (values, dropField "$each" fields)
    | some _ => none
    | none => some ([.doc fields], [])
  | value => some ([value], [])

namespace UpdateServer

/-- What an operator does to the value at its path. -/
def change (server : UpdateServer) (inArray : Bool) (current : Option Bson) (argument : Bson) :
    UpdateOperator → Option Change
  | .set => some (.put argument)
  | .inc =>
    match current, argument with
    | none, .num _ => some (.put argument)
    | some (.num current), .num delta => some (.put (.num (current + delta)))
    | _, _ => none
  | .unset =>
    match current with
    | none => some .keep
    | some _ => some (if inArray then .put .null else .drop)
  | .push => do
    let elements ← storedList current
    let (values, modifiers) ← addedValues argument
    let extended ← if modifiers.isEmpty then some (elements ++ values) else server.pushModified modifiers elements values
    some (.put (.array extended))
  | .addToSet => do
    let elements ← storedList current
    let (values, modifiers) ← addedValues argument
    if modifiers.isEmpty then some (.put (.array (addAbsent storeEq elements values))) else none
  | .pull =>
    match current with
    | none => some .keep
    | some (.array elements) => some (.put (.array (elements.filter fun value => !server.pulls argument value)))
    | some _ => none

/-- The array at the end of a path takes nulls for what is removed. -/
def inArray (stored : Fields) (path : List String) : Bool :=
  match valueAt path.dropLast (.doc stored) with
  | some (.array _) => true
  | _ => false

def touch (server : UpdateServer) (stored : Fields) (path : List String) (entry : UpdateEntry) : Option Touch :=
  (server.change (inArray stored path) (valueAt path (.doc stored)) entry.argument entry.operator).map fun change =>
    ⟨path, change⟩

/-- The writes of a key that is a path, or has positions in it. -/
def pathTouches (server : UpdateServer) (stored : Fields) (entry : UpdateEntry) : Option (List Touch) :=
  if (fieldPath entry.key).all isFieldName then (server.touch stored (fieldPath entry.key) entry).map ([·])
  else server.further stored entry.operator.name entry.key entry.argument

/-- The writes at keys that name a field. -/
def plainTouches (server : UpdateServer) (stored update : Fields) : Option (List Touch) :=
  ((updateEntries update).filter fun entry => isFieldName entry.key).mapM fun entry =>
    server.touch stored [entry.key] entry

/-- The writes at all other keys, and of the other operators. -/
def furtherTouches (server : UpdateServer) (stored update : Fields) : Option (List Touch) := do
  let paths ← ((updateEntries update).filter fun entry => !isFieldName entry.key).mapM (server.pathTouches stored)
  let others ← (otherEntries update).mapM fun entry => server.further stored entry.1 entry.2.1 entry.2.2
  some (paths.flatten ++ others.flatten)

/-- No key is given twice, and no path is written to twice or within another. -/
def free (update : Fields) (touches : List Touch) : Bool :=
  decide ((updateEntries update).map UpdateEntry.key).Nodup &&
    touches.all (fun touch => !touch.path.isEmpty && touch.path.all isFieldName) &&
    decide (touches.Pairwise fun first second => PathsApart first.path second.path)

/-- The document after the update. The writes do not meet, so their order does not matter. -/
def apply (server : UpdateServer) (stored update : Fields) : Option Bson := do
  guard (update.all (fun entry => isOperator entry.1 && entry.2.isDoc) && server.accepts stored update)
  let plain ← server.plainTouches stored update
  let further ← server.furtherTouches stored update
  guard (free update (plain ++ further))
  Touch.applyAll (plain ++ further) (.doc stored)

end UpdateServer

/-- The values of `$addToSet` are taken for members by both equalities, or by neither. -/
def AddedAlike : List Bson → List Bson → Prop
  | _, [] => True
  | elements, value :: values =>
    among languageEq value elements = among storeEq value elements ∧
      AddedAlike (if among storeEq value elements then elements else elements ++ [value]) values

/-- An operator means the same on a field: `$push` of something else than a bare list, without
modifiers that matter; `$addToSet` of a bare list only if nothing is new; `$pull` where the
condition is met alike. -/
def AppliedAlike (server : UpdateServer) (elements : List Bson) (argument : Bson) : UpdateOperator → Prop
  | .set | .inc | .unset => True
  | .push => (∀ values, argument ≠ .array values) ∧ ∀ values modifiers, addedValues argument = some (values, modifiers) →
      modifiers.isEmpty = false → server.pushModified modifiers elements values = some (elements ++ values)
  | .addToSet =>
    match argument with
    | .array values => among storeEq argument elements = true ∧ ∀ value ∈ values, among languageEq value elements = true
    | _ => ∀ values modifiers, addedValues argument = some (values, modifiers) → AddedAlike elements values
  | .pull => ∀ value ∈ elements, server.pulls argument value = pullsValue argument value

/-- The evaluation leaves the field whose name is the key. -/
def LiteralKept (current : Option Bson) (argument : Bson) : UpdateOperator → Prop
  | .set => current = some argument
  | .unset => current = none
  | .inc => ∀ delta, Bson.number argument = some delta → delta = 0 ∧ ∃ q, current = some (.num q)
  | .push => (∃ elements, current = some (.array elements)) ∧ normalizeUpdateArrayValues argument = []
  | .addToSet => ∃ elements, current = some (.array elements) ∧
      ∀ value ∈ normalizeUpdateArrayValues argument, among languageEq value elements = true
  | .pull => ∀ elements, current = some (.array elements) → ∀ value ∈ elements, pullsValue argument value = false

/-- The key of each operator that names a field means the same; any other key, and any other
operator, changes nothing in the database, and the copy has that very field already as the
evaluation leaves it. -/
structure EvaluatedAlike (server : UpdateServer) (stored update : Fields) : Prop where
  plain : ∀ entry ∈ updateEntries update, isFieldName entry.key = true →
    AppliedAlike server (existingList (stored.lookup entry.key)) entry.argument entry.operator
  literal : ∀ entry ∈ updateEntries update, isFieldName entry.key = false →
    LiteralKept (stored.lookup entry.key) entry.argument entry.operator
  further : ∀ touches, server.furtherTouches stored update = some touches → ∀ touch ∈ touches, touch.Shown (.doc stored)

/-- What the evaluation makes of the field under the key. -/
def evaluateField (current : Option Bson) (argument : Bson) : UpdateOperator → Option Bson
  | .set => some argument
  | .inc =>
    match current.bind Bson.number, Bson.number argument with
    | some number, some delta => some (.num (number + delta))
    | none, some _ => some argument
    | _, none => current
  | .unset => none
  | .push => some (.array (existingList current ++ normalizeUpdateArrayValues argument))
  | .addToSet => some (.array (addAbsent languageEq (existingList current) (normalizeUpdateArrayValues argument)))
  | .pull =>
    match current with
    | some (.array elements) => some (.array (elements.filter fun value => !pullsValue argument value))
    | _ => current

def evaluateEntry (document : Fields) (entry : UpdateEntry) : Fields :=
  match entry.operator with
  | .set => setField entry.key entry.argument document
  | .inc => incrementField document (entry.key, entry.argument)
  | .unset => dropField entry.key document
  | .push => pushField document (entry.key, entry.argument)
  | .addToSet => addToSetField document (entry.key, entry.argument)
  | .pull => pullField document (entry.key, entry.argument)

section

variable {stored update document : Fields} {entry : UpdateEntry} {name : String}

theorem evaluateEntry_lookup (document : Fields) (entry : UpdateEntry) (name : String) :
    (evaluateEntry document entry).lookup name =
      if name = entry.key then evaluateField (document.lookup name) entry.argument entry.operator
      else document.lookup name := by
  by_cases same : name = entry.key
  · subst same
    rw [if_pos rfl]
    cases operator : entry.operator with
    | set => simp [evaluateEntry, operator, lookup_setField, evaluateField]
    | unset => simp [evaluateEntry, operator, lookup_dropField, evaluateField]
    | push => simp [evaluateEntry, operator, pushField, lookup_setField, evaluateField]
    | addToSet => simp [evaluateEntry, operator, addToSetField, lookup_setField, evaluateField]
    | inc =>
      simp only [evaluateEntry, operator, incrementField, evaluateField]
      cases (document.lookup entry.key).bind Bson.number with
      | none | some number => cases Bson.number entry.argument with
        | none => rfl
        | some delta => simp [lookup_setField]
    | pull =>
      simp only [evaluateEntry, operator, pullField, evaluateField]
      cases present : document.lookup entry.key with
      | none => exact present
      | some value =>
        cases value with
        | array elements => simp [lookup_setField]
        | _ => exact present
  · rw [if_neg same]
    cases operator : entry.operator with
    | set => simp [evaluateEntry, operator, lookup_setField, same]
    | unset => simp [evaluateEntry, operator, lookup_dropField, same]
    | push => simp [evaluateEntry, operator, pushField, lookup_setField, same]
    | addToSet => simp [evaluateEntry, operator, addToSetField, lookup_setField, same]
    | inc =>
      simp only [evaluateEntry, operator, incrementField]
      split <;> simp [lookup_setField, same]
    | pull =>
      simp only [evaluateEntry, operator, pullField]
      split <;> simp [lookup_setField, same]

theorem applyUpdateDocumentToMerged_eq (operators : update.any (fun entry => isOperator entry.1) = true) :
    applyUpdateDocumentToMerged stored update = (updateEntries update).foldl evaluateEntry stored := by
  simp only [applyUpdateDocumentToMerged, operators, updateEntries, UpdateOperator.all, UpdateOperator.name,
    List.flatMap_cons, List.flatMap_nil, List.append_nil, List.foldl_append, List.foldl_map, evaluateEntry, updateFields]
  rfl

theorem foldl_evaluateEntry_lookup (entries : List UpdateEntry) (document : Fields) (name : String) :
    (entries.foldl evaluateEntry document).lookup name = (entries.filter fun entry => entry.key == name).foldl
        (fun current entry => evaluateField current entry.argument entry.operator) (document.lookup name) := by
  induction entries generalizing document with
  | nil => rfl
  | cons entry rest ih =>
    rw [List.foldl_cons, ih, evaluateEntry_lookup]
    by_cases same : name = entry.key
    · rw [if_pos same, List.filter_cons_of_pos (by simp [same]), List.foldl_cons]
    · have other : ¬ (entry.key == name) = true := fun its => same (beq_iff_eq.mp its).symm
      rw [if_neg same, List.filter_cons_of_neg (by simpa using other)]

/-- With keys given once each, the entry of a key decides its field. -/
theorem evaluated_lookup (keys : ((updateEntries update).map UpdateEntry.key).Nodup)
    (member : entry ∈ updateEntries update) :
    ((updateEntries update).foldl evaluateEntry stored).lookup entry.key =
      evaluateField (stored.lookup entry.key) entry.argument entry.operator := by
  have only : (updateEntries update).filter (fun other => other.key == entry.key) = [entry] := by
    obtain ⟨front, back, split⟩ := List.append_of_mem member
    have others : ∀ other ∈ front ++ back, ¬ (other.key == entry.key) = true := by
      intro other among same
      have moved : (entry :: (front ++ back)).Perm (updateEntries update) := by
        rw [split]
        exact List.perm_middle.symm
      have distinct := (moved.map UpdateEntry.key).nodup_iff.mpr keys
      rw [List.map_cons, List.nodup_cons] at distinct
      exact distinct.1 (List.mem_map.mpr ⟨other, among, beq_iff_eq.mp same⟩)
    rw [split, List.filter_append, List.filter_cons_of_pos (by simp),
      List.filter_eq_nil_iff.mpr fun other among => others other (List.mem_append_left _ among),
      List.filter_eq_nil_iff.mpr fun other among => others other (List.mem_append_right _ among)]
    rfl
  rw [foldl_evaluateEntry_lookup, only]
  rfl

theorem evaluated_other (absent : ∀ entry ∈ updateEntries update, entry.key ≠ name) :
    ((updateEntries update).foldl evaluateEntry stored).lookup name = stored.lookup name := by
  have none_ : (updateEntries update).filter (fun entry => entry.key == name) = [] := by
    rw [List.filter_eq_nil_iff]
    intro entry member same
    exact absent entry member (beq_iff_eq.mp same)
  rw [foldl_evaluateEntry_lookup, none_]
  rfl

end

section

variable {server : UpdateServer} {elements values : List Bson} {argument value : Bson}
  {current : Option Bson} {modifiers : Fields} (equal : Bson → Bson → Bool)

theorem among_append (value : Bson) (first second : List Bson) :
    among equal value (first ++ second) = (among equal value first || among equal value second) := List.any_append

/-- What is added comes after what was there, and was not among it. -/
theorem addAbsent_extends (elements values : List Bson) : ∃ added,
    addAbsent equal elements values = elements ++ added ∧ ∀ value ∈ added, value ∈ values ∧
      among equal value elements = false := by
  induction values generalizing elements with
  | nil => exact ⟨[], (List.append_nil elements).symm, by simp⟩
  | cons value rest ih =>
    rw [addAbsent, List.foldl_cons]
    by_cases there : among equal value elements = true
    · obtain ⟨added, extends_, new⟩ := ih elements
      rw [if_pos there]
      exact ⟨added, extends_, fun other member => ⟨.tail _ (new other member).1, (new other member).2⟩⟩
    · obtain ⟨added, extends_, new⟩ := ih (elements ++ [value])
      rw [if_neg there]
      have whole : addAbsent equal (elements ++ [value]) rest = elements ++ value :: added := by
        rw [extends_, List.append_assoc]
        rfl
      refine ⟨value :: added, whole, ?_⟩
      intro other member
      rcases List.mem_cons.mp member with rfl | later
      · exact ⟨.head _, by simpa using there⟩
      · have apart := (new other later).2
        rw [among_append, Bool.or_eq_false_iff] at apart
        exact ⟨.tail _ (new other later).1, apart.1⟩

theorem addAbsent_cons : addAbsent equal elements (value :: values) =
    addAbsent equal (if among equal value elements then elements else elements ++ [value]) values := rfl

theorem addAbsent_differ {first second : Bson → Bson → Bool} (found : among first value elements = true) :
    addAbsent first elements values ≠ addAbsent second (elements ++ [value]) values := by
  intro same
  obtain ⟨added, fromFirst, new⟩ := addAbsent_extends first elements values
  obtain ⟨later, fromSecond, _⟩ := addAbsent_extends second (elements ++ [value]) values
  rw [fromFirst, fromSecond, List.append_assoc, List.append_cancel_left_eq] at same
  have own := (new value (by rw [same]; simp)).2
  rw [found] at own
  cases own

theorem addAbsent_eq_iff : addAbsent languageEq elements values = addAbsent storeEq elements values ↔
    AddedAlike elements values := by
  induction values generalizing elements with
  | nil => simp [addAbsent, AddedAlike]
  | cons value rest ih =>
    rw [addAbsent_cons, addAbsent_cons, AddedAlike, ← ih]
    cases byLanguage : among languageEq value elements with
    | true =>
      cases byStore : among storeEq value elements with
      | true => simp
      | false => simpa using addAbsent_differ byLanguage
    | false =>
      cases byStore : among storeEq value elements with
      | true => simpa using (addAbsent_differ byStore).symm
      | false => simp

theorem addAbsent_none_new :
    addAbsent equal elements values = elements ↔ ∀ value ∈ values, among equal value elements = true := by
  induction values with
  | nil => simp [addAbsent]
  | cons value rest ih =>
    rw [addAbsent_cons, List.forall_mem_cons]
    by_cases there : among equal value elements = true
    · rw [if_pos there, ih]
      simp [there]
    · obtain ⟨added, extends_, _⟩ := addAbsent_extends equal (elements ++ [value]) rest
      rw [if_neg there, extends_]
      simp [there]

theorem array_ne_of_mem (member : value ∈ values) : value ≠ .array values := by
  rintro rfl
  have smaller := List.sizeOf_lt_of_mem member
  simp only [Bson.array.sizeOf_spec] at smaller
  omega

/-- Apart from a bare list, both sides read the same values from the argument. -/
theorem addedValues_cases (added : addedValues argument = some (values, modifiers)) :
    (argument = .array (normalizeUpdateArrayValues argument) ∧ values = [argument] ∧ modifiers = []) ∨
      ((∀ list, argument ≠ .array list) ∧ normalizeUpdateArrayValues argument = values) := by
  cases argument with
  | array list =>
    cases added
    exact .inl ⟨rfl, rfl, rfl⟩
  | doc fields =>
    refine .inr ⟨by simp, ?_⟩
    simp only [addedValues] at added
    simp only [normalizeUpdateArrayValues]
    cases each : fields.lookup "$each" with
    | none =>
      rw [each] at added
      cases added
      rfl
    | some among_ =>
      rw [each] at added
      cases among_ with
      | array list =>
        cases added
        rfl
      | _ => cases added
  | _ =>
    cases added
    exact .inr ⟨by simp, rfl⟩

theorem storedList_existing (stored : storedList current = some elements) :
    existingList current = elements ∧ (current = none ∧ elements = [] ∨ current = some (.array elements)) := by
  cases current with
  | none =>
    cases stored
    exact ⟨rfl, .inl ⟨rfl, rfl⟩⟩
  | some held =>
    cases held with
    | array list =>
      cases stored
      exact ⟨rfl, .inr rfl⟩
    | _ => cases stored

/-- The field after a change. -/
def changedField (current : Option Bson) : Change → Option Bson
  | .keep => current
  | .put value => some value
  | .drop => none

variable {change : Change}

theorem pushed_alike_iff (changed : server.change false current argument .push = some change) :
    evaluateField current argument .push = changedField current change ↔
      AppliedAlike server (existingList current) argument .push := by
  simp only [UpdateServer.change, Option.bind_eq_bind, Option.bind_eq_some_iff, Prod.exists] at changed
  obtain ⟨elements, stored, values, modifiers, added, rest⟩ := changed
  obtain ⟨extended, extends_, rfl⟩ : ∃ extended, (if modifiers.isEmpty then some (elements ++ values)
      else server.pushModified modifiers elements values) = some extended ∧ change = .put (.array extended) := by
    cases plain : modifiers.isEmpty with
    | true => simpa [plain, eq_comm] using rest
    | false =>
      simp only [plain, Bool.false_eq_true, if_false, Option.bind_eq_some_iff, Option.some.injEq] at rest
      obtain ⟨extended, modified, made⟩ := rest
      exact ⟨extended, modified, made.symm⟩
  obtain ⟨existing, _⟩ := storedList_existing stored
  simp only [evaluateField, changedField, AppliedAlike, Option.some.injEq, Bson.array.injEq, existing]
  rcases addedValues_cases added with ⟨list, rfl, rfl⟩ | ⟨notList, same⟩
  · have whole : elements ++ [argument] = extended := by simpa using extends_
    constructor
    · intro equal
      rw [← whole, List.append_cancel_left_eq] at equal
      have within : argument ∈ normalizeUpdateArrayValues argument := by
        rw [equal]
        exact .head _
      exact absurd list (array_ne_of_mem within)
    · intro alike
      exact absurd list (alike.1 _)
  · rw [same]
    cases plain : modifiers.isEmpty with
    | true =>
      have whole : elements ++ values = extended := by simpa [plain] using extends_
      constructor
      · intro _
        refine ⟨notList, fun others beside again modified => ?_⟩
        rw [added] at again
        cases again
        rw [plain] at modified
        cases modified
      · exact fun _ => whole
    | false =>
      have modified : server.pushModified modifiers elements values = some extended := by simpa [plain] using extends_
      constructor
      · intro equal
        refine ⟨notList, fun others beside again _ => ?_⟩
        rw [added] at again
        cases again
        rw [modified, equal]
      · intro alike
        have asGiven := alike.2 values modifiers added plain
        rw [modified, Option.some.injEq] at asGiven
        exact asGiven.symm

theorem added_alike_iff (changed : server.change false current argument .addToSet = some change) :
    evaluateField current argument .addToSet = changedField current change ↔
      AppliedAlike server (existingList current) argument .addToSet := by
  simp only [UpdateServer.change, Option.bind_eq_bind, Option.bind_eq_some_iff, Prod.exists] at changed
  obtain ⟨elements, stored, values, modifiers, added, rest⟩ := changed
  obtain ⟨existing, _⟩ := storedList_existing stored
  have isAdded : change = .put (.array (addAbsent storeEq elements values)) := by
    cases plain : modifiers.isEmpty with
    | true => simpa [plain, eq_comm] using rest
    | false => simp [plain] at rest
  subst isAdded
  simp only [evaluateField, changedField, Option.some.injEq, Bson.array.injEq, existing]
  rcases addedValues_cases added with ⟨list, rfl, _⟩ | ⟨notList, same⟩
  · cases argument with
    | array values =>
      simp only [AppliedAlike]
      cases there : among storeEq (.array values) elements with
      | true =>
        have nothing : addAbsent storeEq elements [.array values] = elements := by
          rw [addAbsent_none_new]
          simpa using there
        rw [nothing, addAbsent_none_new]
        simp [normalizeUpdateArrayValues]
      | false =>
        have extended : addAbsent storeEq elements [.array values] = elements ++ [.array values] := by
          rw [addAbsent_cons, there]
          rfl
        obtain ⟨new, extends_, fromList⟩ := addAbsent_extends languageEq elements values
        have differ : addAbsent languageEq elements values ≠ elements ++ [.array values] := by
          rw [extends_]
          intro equal
          rw [List.append_cancel_left_eq] at equal
          have within := (fromList (.array values) (by simp [equal])).1
          exact array_ne_of_mem within rfl
        rw [extended]
        simp [normalizeUpdateArrayValues, differ]
    | _ => cases list
  · rw [same, addAbsent_eq_iff]
    cases argument with
    | array list => exact absurd rfl (notList list)
    | _ =>
      constructor
      · intro alike others beside again
        rw [added] at again
        cases again
        exact alike
      · exact fun alike => alike values modifiers added

theorem pulled_alike_iff (changed : server.change false current argument .pull = some change) :
    evaluateField current argument .pull = changedField current change ↔
      AppliedAlike server (existingList current) argument .pull := by
  simp only [UpdateServer.change] at changed
  split at changed
  · cases changed
    simp [evaluateField, changedField, AppliedAlike, existingList]
  · next elements =>
    cases changed
    simp only [evaluateField, changedField, AppliedAlike, existingList, Option.some.injEq, Bson.array.injEq]
    constructor
    · intro same value member
      have keeps : value ∈ elements.filter (fun value => !pullsValue argument value) ↔
          value ∈ elements.filter (fun value => !server.pulls argument value) := by rw [same]
      simp only [List.mem_filter, member, true_and] at keeps
      cases byLanguage : pullsValue argument value <;> cases byStore : server.pulls argument value <;> simp_all
    · intro alike
      apply List.filter_congr
      intro value member
      rw [alike value member]
  · cases changed

/-- An operator on a field: both sides agree exactly if it means the same. -/
theorem applied_alike_iff {operator : UpdateOperator}
    (changed : server.change false current argument operator = some change) :
    evaluateField current argument operator = changedField current change ↔
      AppliedAlike server (existingList current) argument operator := by
  cases operator with
  | set =>
    cases changed
    simp [evaluateField, changedField, AppliedAlike]
  | unset =>
    cases current with
    | none | some held =>
      cases changed
      simp [evaluateField, changedField, AppliedAlike]
  | inc =>
    simp only [UpdateServer.change] at changed
    split at changed
    · cases changed
      simp [evaluateField, changedField, AppliedAlike, Bson.number]
    · cases changed
      simp [evaluateField, changedField, AppliedAlike, Bson.number]
    · cases changed
  | push => exact pushed_alike_iff changed
  | addToSet => exact added_alike_iff changed
  | pull => exact pulled_alike_iff changed

end

/-- A key as a field of its own: the evaluation leaves the field exactly if there is nothing to
do. -/
theorem literal_kept_iff {current : Option Bson} {argument : Bson} {operator : UpdateOperator} :
    evaluateField current argument operator = current ↔ LiteralKept current argument operator := by
  cases operator with
  | set => exact eq_comm
  | unset => exact eq_comm
  | inc =>
    simp only [evaluateField, LiteralKept]
    cases given : Bson.number argument with
    | none => cases current.bind Bson.number <;> simp
    | some delta =>
      simp only [Option.some.injEq, forall_eq']
      cases current with
      | none => simp
      | some held =>
        cases held with
        | num q => simp [Bson.number, and_comm]
        | bool b => simp [Bson.number]
        | _ =>
          cases argument with
          | num q | bool b => simp [Bson.number]
          | _ => cases given
  | push =>
    simp only [evaluateField, LiteralKept]
    constructor
    · intro same
      refine ⟨⟨_, same.symm⟩, ?_⟩
      have extended : existingList (some (.array (existingList current ++ normalizeUpdateArrayValues argument))) =
          existingList current := by rw [same]
      exact List.append_right_eq_self.mp extended
    · rintro ⟨⟨elements, rfl⟩, nothing⟩
      simp [existingList, nothing]
  | addToSet =>
    simp only [evaluateField, LiteralKept]
    constructor
    · intro same
      refine ⟨existingList current, ?_, ?_⟩
      · have elements : addAbsent languageEq (existingList current)
            (normalizeUpdateArrayValues argument) = existingList current := by
          have read := congrArg existingList same
          exact read
        rw [← elements]
        exact same.symm
      · rw [← addAbsent_none_new]
        exact congrArg existingList same
    · rintro ⟨elements, rfl, nothing⟩
      rw [existingList, (addAbsent_none_new languageEq).mpr nothing]
  | pull =>
    simp only [evaluateField, LiteralKept]
    split
    · simp
    · next other =>
      simp only [true_iff]
      intro elements isList
      exact absurd isList (other elements)

section

variable {server : UpdateServer} {stored update : Fields} {after : Bson} {plain further : List Touch} {entry : UpdateEntry}

/-- The copy holds in each field what the stored document holds there. -/
def SameFields (fields : Fields) (b : Bson) : Prop := ∀ name, fields.lookup name = child b name

/-- The results of a list of partial steps, both ways. -/
theorem mapM_members {α β : Type} {f : α → Option β} {items : List α} {results : List β}
    (made : items.mapM f = some results) :
    (∀ item ∈ items, ∃ result ∈ results, f item = some result) ∧ ∀ result ∈ results, ∃ item ∈ items,
    f item = some result := by
  induction items generalizing results with
  | nil =>
    cases made
    simp
  | cons first rest ih =>
    simp only [List.mapM_cons, Option.bind_eq_bind, Option.bind_eq_some_iff, Option.pure_def, Option.some.injEq] at made
    obtain ⟨one, isOne, others, areOthers, rfl⟩ := made
    obtain ⟨forth, back⟩ := ih areOthers
    constructor
    · intro item member
      rcases List.mem_cons.mp member with rfl | later
      · exact ⟨one, .head _, isOne⟩
      · obtain ⟨result, among_, its⟩ := forth item later
        exact ⟨result, .tail _ among_, its⟩
    · intro result member
      rcases List.mem_cons.mp member with rfl | later
      · exact ⟨first, .head _, isOne⟩
      · obtain ⟨item, among_, its⟩ := back result later
        exact ⟨item, .tail _ among_, its⟩

structure Writes (server : UpdateServer) (stored update : Fields) (plain further : List Touch) (after : Bson) : Prop where
  operators : ∀ entry ∈ update, isOperator entry.1 = true
  keys : ((updateEntries update).map UpdateEntry.key).Nodup
  plainMade : server.plainTouches stored update = some plain
  furtherMade : server.furtherTouches stored update = some further
  named : ∀ touch ∈ plain ++ further, ∃ name, touch.path.head? = some name ∧ isFieldName name = true
  apart : (plain ++ further).Pairwise fun first second => PathsApart first.path second.path
  applied : Touch.applyAll (plain ++ further) (.doc stored) = some after

theorem apply_writes (applied : server.apply stored update = some after) :
    ∃ plain further, Writes server stored update plain further after := by
  simp only [UpdateServer.apply, Option.bind_eq_bind, Option.bind_eq_some_iff, Option.guard_eq_some', UpdateServer.free,
    Bool.and_eq_true, List.all_eq_true, decide_eq_true_eq] at applied
  obtain ⟨_, ⟨operators, _⟩, plain, isPlain, further, isFurther, _, ⟨⟨keys, named⟩, apart⟩, done⟩ := applied
  refine ⟨plain, further, fun entry member => (operators entry member).1, keys, isPlain, isFurther, ?_, apart, done⟩
  intro touch member
  obtain ⟨filled, names⟩ := named touch member
  cases path : touch.path with
  | nil => simp [path] at filled
  | cons name rest => exact ⟨name, rfl, names name (by simp [path])⟩

section

variable (writes : Writes server stored update plain further after)
include writes

theorem Writes.entry_touch (member : entry ∈ updateEntries update)
    (named : isFieldName entry.key = true) : ∃ change,
      server.change false (stored.lookup entry.key) entry.argument entry.operator = some change ∧
        ⟨[entry.key], change⟩ ∈ plain := by
  have kept : entry ∈ (updateEntries update).filter fun entry => isFieldName entry.key :=
    List.mem_filter.mpr ⟨member, named⟩
  obtain ⟨touch, among_, made⟩ := (mapM_members writes.plainMade).1 entry kept
  obtain ⟨change, changed, rfl⟩ := Option.map_eq_some_iff.mp made
  have current : valueAt [entry.key] (.doc stored) = stored.lookup entry.key := by
    simp only [valueAt, child]
    cases stored.lookup entry.key <;> rfl
  rw [current] at changed
  exact ⟨change, changed, among_⟩

theorem Writes.touch_entry {touch : Touch} (member : touch ∈ plain) :
    ∃ entry ∈ updateEntries update, isFieldName entry.key = true ∧ touch.path = [entry.key] := by
  obtain ⟨entry, kept, made⟩ := (mapM_members writes.plainMade).2 touch member
  obtain ⟨among_, named⟩ := List.mem_filter.mp kept
  obtain ⟨change, _, rfl⟩ := Option.map_eq_some_iff.mp made
  exact ⟨entry, among_, named, rfl⟩

theorem Writes.starts : ∀ touch ∈ plain ++ further, touch.path.head? ≠ none := by
  intro touch member
  obtain ⟨name, first, _⟩ := writes.named touch member
  simp [first]

theorem Writes.field_iff (name : String) :
    child after name = stored.lookup name ↔
      ∀ touch ∈ plain ++ further, touch.path.head? = some name → touch.Shown (.doc stored) :=
  Touch.applyAll_field_iff (b := .doc stored) rfl writes.starts writes.apart writes.applied

theorem Writes.document : after.isDoc = true :=
  Touch.applyAll_document (b := .doc stored) rfl writes.starts writes.applied

theorem Writes.only {touch own : Touch}
    (isOwn : own ∈ plain) (ownPath : own.path = [entry.key]) (member : touch ∈ plain ++ further)
    (here : touch.path.head? = some entry.key) : touch = own := by
  by_contra different
  have symmetric : Std.Symm fun first second : Touch => PathsApart first.path second.path := ⟨fun _ _ => PathsApart.symm⟩
  have apart := writes.apart.forall (List.mem_append_left _ isOwn) member (Ne.symm different)
  rw [ownPath] at apart
  obtain ⟨rest, isRest⟩ : ∃ rest, touch.path = entry.key :: rest := by
    cases path : touch.path with
    | nil => simp [path] at here
    | cons first rest =>
      simp only [path, List.head?_cons, Option.some.injEq] at here
      exact ⟨rest, by rw [here]⟩
  rw [isRest] at apart
  exact apart.1 (by simp)

theorem Writes.plain_after {change : Change}
    (member : ⟨[entry.key], change⟩ ∈ plain) :
    child after entry.key = changedField (stored.lookup entry.key) change := by
  have shown := Touch.applyAll_shown writes.apart writes.applied _ (List.mem_append_left _ member)
  cases change with
  | keep =>
    rw [changedField, writes.field_iff]
    intro touch among_ here
    rw [writes.only member rfl among_ here]
    trivial
  | put value | drop => exact (shows_field writes.document).mp shown

theorem Writes.evaluated :
    applyUpdateDocumentToMerged stored update = (updateEntries update).foldl evaluateEntry stored := by
  cases update with
  | nil => rfl
  | cons first rest =>
    apply applyUpdateDocumentToMerged_eq
    rw [List.any_cons, writes.operators first (.head _)]
    rfl

end

/-- The copy that is checked is the document that will be stored exactly if the update means the
same to both. -/
theorem predicted_iff (applied : server.apply stored update = some after) :
    SameFields (applyUpdateDocumentToMerged stored update) after ↔ EvaluatedAlike server stored update := by
  obtain ⟨plain, further, writes⟩ := apply_writes applied
  rw [writes.evaluated]
  -- no write starts at a key that is not the name of a field
  have elsewhere : ∀ name, isFieldName name = false → child after name = stored.lookup name := by
    intro name reserved
    rw [writes.field_iff]
    intro touch member here
    obtain ⟨first, isFirst, named⟩ := writes.named touch member
    rw [here, Option.some.injEq] at isFirst
    subst isFirst
    rw [reserved] at named
    cases named
  constructor
  · intro same
    constructor
    · intro entry member named
      obtain ⟨change, changed, touched⟩ := writes.entry_touch member named
      rw [← applied_alike_iff changed, ← evaluated_lookup writes.keys member, ← writes.plain_after touched]
      exact same entry.key
    · intro entry member reserved
      rw [← literal_kept_iff, ← evaluated_lookup writes.keys member, ← elsewhere entry.key reserved]
      exact same entry.key
    · intro touches made touch member
      rw [writes.furtherMade, Option.some.injEq] at made
      subst made
      have among_ : touch ∈ plain ++ further := List.mem_append_right _ member
      obtain ⟨name, first, named⟩ := writes.named touch among_
      -- the field where it starts is no key of the evaluation
      have unread : ∀ entry ∈ updateEntries update, entry.key ≠ name := by
        rintro entry listed rfl
        obtain ⟨change, _, touched⟩ := writes.entry_touch listed named
        have apart := (List.pairwise_append.mp writes.apart).2.2 _ touched touch member
        cases path : touch.path with
        | nil => simp [path] at first
        | cons head rest =>
          simp only [path, List.head?_cons, Option.some.injEq] at first
          rw [path, first] at apart
          exact apart.1 (by simp)
      have unchanged : child after name = stored.lookup name := by
        rw [← same name, evaluated_other unread]
      exact (writes.field_iff name).mp unchanged touch among_ first
  · intro alike name
    by_cases read : ∃ entry ∈ updateEntries update, entry.key = name
    · obtain ⟨entry, member, rfl⟩ := read
      rw [evaluated_lookup writes.keys member]
      cases named : isFieldName entry.key with
      | true =>
        obtain ⟨change, changed, touched⟩ := writes.entry_touch member named
        rw [writes.plain_after touched]
        exact (applied_alike_iff changed).mpr (alike.plain entry member named)
      | false =>
        rw [elsewhere entry.key named]
        exact literal_kept_iff.mpr (alike.literal entry member named)
    · have unread : ∀ entry ∈ updateEntries update, entry.key ≠ name := fun entry member its => read ⟨entry, member, its⟩
      rw [evaluated_other unread, eq_comm, writes.field_iff]
      intro touch member here
      rcases List.mem_append.mp member with isPlain | isFurther
      · obtain ⟨entry, listed, _, path⟩ := writes.touch_entry isPlain
        rw [path, List.head?_cons, Option.some.injEq] at here
        exact absurd here (unread entry listed)
      · exact alike.further further writes.furtherMade touch isFurther

end

/-- A server that compares by value and has no further operators. -/
def plainServer : UpdateServer where
  accepts _ _ := true
  pushModified _ _ _ := none
  pulls condition value := storeEq value condition
  further _ _ _ _ := none

def storedCount : Fields :=
  [("status", .str "pending"), ("version", .num 1), ("observation", .doc [("level", .str "low")]),
    ("history", .array [.str "counted"])]

def reviewUpdate : Fields :=
  [("$set", .doc [("status", .str "verified")]), ("$inc", .doc [("version", .num 1)]),
    ("$push", .doc [("history", .str "checked")])]

theorem predicted_fields : ∃ after, plainServer.apply storedCount reviewUpdate = some after ∧
    SameFields (applyUpdateDocumentToMerged storedCount reviewUpdate) after := by
  have applied : plainServer.apply storedCount reviewUpdate =
    some (.doc [("status", .str "verified"), ("version", .num (1 + 1)),
      ("observation", .doc [("level", .str "low")]), ("history", .array [.str "counted", .str "checked"])]) := by
    rfl
  refine ⟨_, applied, (predicted_iff applied).mpr ?_⟩
  have entries : updateEntries reviewUpdate = [⟨.set, "status", .str "verified"⟩,
      ⟨.inc, "version", .num 1⟩, ⟨.push, "history", .str "checked"⟩] := by rfl
  constructor
  · rw [entries]
    intro entry member _
    simp only [List.mem_cons, List.not_mem_nil, or_false] at member
    rcases member with rfl | rfl | rfl
    · trivial
    · trivial
    · constructor
      · simp
      · intro values modifiers added modified
        cases added
        cases modified
  · rw [entries]
    intro entry member reserved
    simp only [List.mem_cons, List.not_mem_nil, or_false] at member
    rcases member with rfl | rfl | rfl <;> cases reserved
  · intro touches made
    cases made
    simp

/-- A path is written into the document, and to the copy as a field of its own. -/
theorem predicted_path_differs : ¬ ∀ {server : UpdateServer} {stored update : Fields} {after : Bson},
    server.apply stored update = some after → SameFields (applyUpdateDocumentToMerged stored update) after := by
  intro predicts
  have applied : plainServer.apply storedCount [("$set", .doc [("observation.level", .str "high")])] =
      some (.doc [("status", .str "pending"), ("version", .num 1), ("observation", .doc [("level", .str "high")]),
        ("history", .array [.str "counted"])]) := by
    rfl
  have same := predicts applied "observation.level"
  cases same

end StockVerification
