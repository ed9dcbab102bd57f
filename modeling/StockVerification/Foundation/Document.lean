import StockVerification.Foundation.Text

/-!
# Schemaless documents

A document maps field names to values; an absent field and a field that holds
null are different, and reading an absent field gives null. Numbers are exact
rationals: the rounding of binary floating point is not modelled. Values nest
one level, which is as deep as any field read here.
-/
namespace StockVerification.Foundation

/-- Values that can stand inside a list or an embedded document. -/
inductive Atom where
  | null
  | bool (b : Bool)
  | num (q : ℚ)
  | str (s : String)
  | date (t : Int)
  deriving DecidableEq

/-- Field values. Dates are instants; an object id is its hexadecimal text. -/
inductive Value where
  | null
  | bool (b : Bool)
  | num (q : ℚ)
  | str (s : String)
  | date (t : Int)
  | oid (hex : String)
  | list (items : List Atom)
  | dict (entries : List (String × Atom))
  | rows (items : List (List (String × Atom)))
  deriving DecidableEq, Inhabited

section

variable {α : Type} {a b c d e : α}

theorem mem_three : a ∈ [b, c, d] ↔ a = b ∨ a = c ∨ a = d := by simp

theorem mem_four : a ∈ [b, c, d, e] ↔ a = b ∨ a = c ∨ a = d ∨ a = e := by simp

end

namespace Atom

def toValue : Atom → Value
  | .null => .null
  | .bool b => .bool b
  | .num q => .num q
  | .str s => .str s
  | .date t => .date t

end Atom

namespace Value

/-- The value's truth in a condition. -/
def truthy : Value → Bool
  | .null => false
  | .bool b => b
  | .num q => q != 0
  | .str s => s != ""
  | .date _ => true
  | .oid _ => true
  | .list items => !items.isEmpty
  | .dict entries => !entries.isEmpty
  | .rows items => !items.isEmpty

/-- `a or b`. -/
def orElse (a b : Value) : Value := if a.truthy then a else b

/-- Conversion to text. Numbers print as identifiers do, and different dates print
differently; the texts of composite values are never compared with anything. -/
def text : Value → String
  | .null => "None"
  | .bool b => if b then "True" else "False"
  | .num q => if q.den = 1 then toString q.num else toString q.num ++ "/" ++ toString q.den
  | .str s => s
  | .date t => "date " ++ toString t
  | .oid hex => hex
  | .list _ => "[list]"
  | .dict _ => "[dict]"
  | .rows _ => "[rows]"

/-- `str(value or "")`. -/
def textOrEmpty (v : Value) : String := if v.truthy then v.text else ""

/-- Conversion to a number, `none` where the language raises. -/
def number : Value → Option ℚ
  | .bool b => some (if b then 1 else 0)
  | .num q => some q
  | .str s => Text.number s
  | _ => none

/-- Conversion to an integer, `none` where the language raises. -/
def integer : Value → Option Int
  | .bool b => some (if b then 1 else 0)
  | .num q => some (truncate q)
  | .str s => Text.integer s
  | _ => none

/-- `float(value or 0.0)`, `none` where the conversion raises. -/
def numberOrZero (v : Value) : Option ℚ := if v.truthy then v.number else some 0

theorem textOrEmpty_str (text : String) : textOrEmpty (.str text) = text := by
  by_cases blank : text = ""
  · simp [textOrEmpty, truthy, blank]
  · simp [textOrEmpty, truthy, Value.text, blank]

@[simp] theorem truthy_str (s : String) : truthy (.str s) = (s != "") := rfl
@[simp] theorem truthy_date (t : Int) : truthy (.date t) = true := rfl
@[simp] theorem truthy_bool (b : Bool) : truthy (.bool b) = b := rfl
@[simp] theorem truthy_null : truthy .null = false := rfl

@[simp] theorem numberOrZero_num (q : ℚ) : numberOrZero (.num q) = some q := by
  by_cases h : q = 0 <;> simp [numberOrZero, truthy, number, h]

@[simp] theorem numberOrZero_null : numberOrZero .null = some 0 := rfl

end Value

/-- A document. -/
def Doc := String → Option Value

namespace Doc

@[ext] theorem ext {a b : Doc} (same : ∀ field, a field = b field) : a = b := funext same

def empty : Doc := fun _ => none

/-- Later entries of the literal do not override earlier ones. -/
def ofList (entries : List (String × Value)) : Doc := fun field => entries.lookup field

/-- Reading an absent field gives null. -/
def get (d : Doc) (field : String) : Value := (d field).getD .null

def has (d : Doc) (field : String) : Bool := (d field).isSome

def set (d : Doc) (field : String) (v : Value) : Doc :=
  fun other => if other = field then some v else d other

def erase (d : Doc) (field : String) : Doc :=
  fun other => if other = field then none else d other

def setDefault (d : Doc) (field : String) (v : Value) : Doc :=
  if d.has field then d else d.set field v

/-- The fields of `newer` replace those of `d`. -/
def update (d newer : Doc) : Doc := fun field => (newer field).or (d field)

def setAll (d : Doc) (entries : List (String × Value)) : Doc := d.update (ofList entries)

instance : Inhabited Doc := ⟨empty⟩

@[simp] theorem empty_apply (field : String) : empty field = none := rfl

@[simp] theorem set_same (d : Doc) (field : String) (v : Value) : d.set field v field = some v := by
  simp [set]

variable {field other : String}

theorem set_other (d : Doc) (v : Value) (different : other ≠ field) :
    d.set field v other = d other := by
  simp [set, different]

@[simp] theorem erase_same (d : Doc) (field : String) : d.erase field field = none := by
  simp [erase]

theorem erase_other (d : Doc) (different : other ≠ field) : d.erase field other = d other := by
  simp [erase, different]

theorem setDefault_other (d : Doc) (v : Value) (different : other ≠ field) :
    d.setDefault field v other = d other := by
  unfold setDefault
  split
  · rfl
  · exact set_other d v different

@[simp] theorem update_apply (d newer : Doc) (field : String) : d.update newer field = (newer field).or (d field) := rfl

@[simp] theorem update_empty (d : Doc) : d.update empty = d := by
  ext field
  simp

theorem get_eq (d : Doc) (field : String) : d.get field = (d field).getD .null := rfl

theorem get_congr {a b : Doc} (same : a field = b field) : a.get field = b.get field := by
  rw [get_eq, get_eq, same]

theorem get_of_some {d : Doc} {v : Value} (h : d field = some v) : d.get field = v := by
  rw [get_eq, h, Option.getD_some]

@[simp] theorem ofList_nil (field : String) : ofList [] field = none := rfl

@[simp] theorem ofList_cons (key : String) (v : Value) (rest : List (String × Value)) (field : String) :
    ofList ((key, v) :: rest) field = if field = key then some v else ofList rest field := by
  simp only [ofList, List.lookup_cons]
  by_cases h : field = key
  · simp [h]
  · have distinct : (field == key) = false := by simpa using h
    simp [distinct, h]

theorem ofList_append (front back : List (String × Value)) (field : String) :
    ofList (front ++ back) field = (ofList front field).or (ofList back field) := by
  induction front with
  | nil => rfl
  | cons entry rest ih =>
    rw [List.cons_append, ofList_cons, ofList_cons, ih]
    split <;> rfl

variable {entries : List (String × Value)}

theorem ofList_other
    (absent : field ∉ entries.map Prod.fst) : ofList entries field = none := by
  induction entries with
  | nil => rfl
  | cons entry rest ih =>
    simp only [List.map_cons, List.mem_cons, not_or] at absent
    rw [ofList_cons, if_neg absent.1]
    exact ih absent.2

theorem setAll_other (d : Doc)
    (absent : field ∉ entries.map Prod.fst) : d.setAll entries field = d field := by
  rw [setAll, update_apply, ofList_other absent]
  rfl

theorem setAll_named (d : Doc) {v : Value}
    (named : ofList entries field = some v) : d.setAll entries field = some v := by
  rw [setAll, update_apply, named]
  rfl

end Doc

theorem lookup_filter_other {α : Type} {field name : String} (other : field ≠ name) (entries : List (String × α)) :
    (entries.filter (·.1 != name)).lookup field = entries.lookup field := by
  induction entries with
  | nil => rfl
  | cons entry rest ih =>
    obtain ⟨first, value⟩ := entry
    by_cases here : first = name
    · subst here
      rw [List.filter_cons_of_neg (by simp), ih, List.lookup_cons, beq_eq_false_iff_ne.mpr other]
    · rw [List.filter_cons_of_pos (by simpa using here), List.lookup_cons, List.lookup_cons, ih]

end StockVerification.Foundation
