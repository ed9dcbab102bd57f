import Mathlib.Algebra.BigOperators.Group.List.Basic
import Mathlib.Tactic.Abel
import StockVerification.Foundation.KeyedFolds
import StockVerification.Foundation.Text

/-!
# Objects used as dictionaries

An object keeps its own entries in the order in which they are enumerated: keys that are array
indices come first and ascend, the others follow in the order of their creation. Every object also
has the names it inherits.
-/
namespace StockVerification.Foundation

/-- The names that every plain object inherits. -/
def inheritedNames : List String :=
  ["constructor", "hasOwnProperty", "isPrototypeOf", "propertyIsEnumerable", "toLocaleString", "toString", "valueOf",
    "__defineGetter__", "__defineSetter__", "__lookupGetter__", "__lookupSetter__", "__proto__"]

/-- The number of a key that is an array index. -/
def arrayIndex (key : String) : Option ℕ :=
  (Text.digits key.toList).bind fun read =>
    if Nat.toDigits 10 read.1 = key.toList ∧ read.1 < 2 ^ 32 - 1 then some read.1 else none

/-- A new key is enumerated before the other one, whatever the time of their creation. -/
def precedes (key other : String) : Bool :=
  match arrayIndex key, arrayIndex other with
  | some n, some m => decide (n < m)
  | some _, none => true
  | none, _ => false

theorem arrayIndex_inj {key other : String} {n : ℕ} (index : arrayIndex key = some n)
    (otherIndex : arrayIndex other = some n) : key = other := by
  have text {key : String} (index : arrayIndex key = some n) : Nat.toDigits 10 n = key.toList := by
    unfold arrayIndex at index
    obtain ⟨read, _, chosen⟩ := Option.bind_eq_some_iff.mp index
    split at chosen
    · next canonical =>
      rw [Option.some.injEq] at chosen
      rw [← chosen, canonical.1]
    · cases chosen
  exact String.toList_inj.mp ((text index).symm.trans (text otherIndex))

theorem precedes_iff {key other : String} : precedes key other = true ↔
    ∃ n, arrayIndex key = some n ∧ ∀ m, arrayIndex other = some m → n < m := by
  unfold precedes
  cases arrayIndex key <;> cases arrayIndex other <;> simp

theorem precedes_trans {a b c : String} (first : precedes a b = true)
    (second : precedes b c = true) : precedes a c = true := by
  rw [precedes_iff] at *
  obtain ⟨n, index, before⟩ := first
  obtain ⟨m, nextIndex, further⟩ := second
  have less := before m nextIndex
  exact ⟨n, index, fun k lastIndex => less.trans (further k lastIndex)⟩

/-- Two keys of which one is an array index are enumerated in a fixed order. -/
theorem precedes_swap {key other : String} (different : key ≠ other)
    (index : arrayIndex key ≠ none ∨ arrayIndex other ≠ none) : precedes key other = !precedes other key := by
  unfold precedes
  cases keyIndex : arrayIndex key with
  | none =>
    cases otherIndex : arrayIndex other with
    | none => exact (index.elim (absurd keyIndex) (absurd otherIndex))
    | some m => rfl
  | some n =>
    cases otherIndex : arrayIndex other with
    | none => rfl
    | some m =>
      have apart : n ≠ m := fun same => different (arrayIndex_inj keyIndex (same ▸ otherIndex))
      by_cases less : n < m
      · simp [less, Nat.lt_asymm less]
      · have more : m < n := by omega
        simp [less, more]

theorem precedes_index {key other : String} (first : precedes key other = true) : arrayIndex key ≠ none := by
  obtain ⟨n, index, _⟩ := Iff.mp precedes_iff first
  simp [index]

namespace Entries

variable {α β : Type}

/-- The entry under a key is replaced where it stands, and a new one is put in its place. -/
def put (key : String) (value : α) : List (String × α) → List (String × α)
  | [] => [(key, value)]
  | entry :: rest =>
    if entry.1 = key then (key, value) :: rest
    else if precedes key entry.1 then (key, value) :: entry :: rest
    else entry :: put key value rest

/-- The value under a key. -/
def get (key : String) : List (String × α) → Option α
  | [] => none
  | entry :: rest => if entry.1 = key then some entry.2 else get key rest

theorem get_put (key other : String) (value : α) (entries : List (String × α)) :
    get other (put key value entries) = if key = other then some value else get other entries := by
  induction entries with
  | nil => rfl
  | cons entry rest ih =>
    rw [put]
    by_cases here : entry.1 = key
    · rw [if_pos here, get, get, here]
      by_cases same : key = other
      · rw [if_pos same, if_pos same]
      · rw [if_neg same, if_neg same, if_neg same]
    · rw [if_neg here]
      split
      · rw [get]
      · rw [get, get, ih]
        by_cases same : key = other
        · rw [if_neg fun named => here (named.trans same.symm), if_pos same, if_pos same]
        · rw [if_neg same]
          simp only [if_neg same]

variable {entries : List (String × α)}

theorem mem_put {key : String} {value : α} {entry : String × α}
    (member : entry ∈ put key value entries) : entry = (key, value) ∨ entry ∈ entries := by
  induction entries with
  | nil => exact .inl (by simpa [put] using member)
  | cons first rest ih =>
    rw [put] at member
    split at member
    · rcases List.mem_cons.mp member with new | old
      · exact .inl new
      · exact .inr (List.mem_cons_of_mem _ old)
    · split at member
      · exact List.mem_cons.mp member
      · rcases List.mem_cons.mp member with same | later
        · exact .inr (same ▸ List.mem_cons_self)
        · exact (ih later).imp id (List.mem_cons_of_mem _)

/-- The order of enumeration, in which no key stands twice. -/
def Enumerated (entries : List (String × α)) : Prop :=
  entries.Pairwise fun entry later => later.1 ≠ entry.1 ∧ precedes later.1 entry.1 = false

/-- A key that comes before the first one is not among the entries. -/
theorem fresh_of_precedes {key : String} {entry : String × α} {rest : List (String × α)}
    (ordered : Enumerated (entry :: rest)) (here : entry.1 ≠ key)
    (first : precedes key entry.1 = true) : ∀ later ∈ entry :: rest, later.1 ≠ key := by
  obtain ⟨behind, _⟩ := List.pairwise_cons.mp ordered
  intro later member
  rcases List.mem_cons.mp member with rfl | old
  · exact here
  · intro same
    have notFirst := (behind later old).2
    rw [same, first] at notFirst
    cases notFirst

theorem get_eq_none {key : String} : get key entries = none ↔ ∀ entry ∈ entries, entry.1 ≠ key := by
  induction entries with
  | nil => simp [get]
  | cons entry rest ih =>
    by_cases here : entry.1 = key
    · simp [get, here]
    · simp [get, here, ih]

/-- The entries under a key are the one that is read there. -/
theorem filter_key (ordered : Enumerated entries) (key : String) :
    entries.filter (fun entry => entry.1 = key) = ((get key entries).map fun value => (key, value)).toList := by
  induction entries with
  | nil => rfl
  | cons entry rest ih =>
    obtain ⟨behind, tail⟩ := List.pairwise_cons.mp ordered
    obtain ⟨name, value⟩ := entry
    by_cases here : name = key
    · subst here
      have none_ : rest.filter (fun entry => entry.1 = name) = [] := by
        rw [List.filter_eq_nil_iff]
        intro later member
        simpa using (behind later member).1
      simp [get, none_]
    · simp [get, here, ih tail]

theorem put_enumerated {key : String} {value : α} (ordered : Enumerated entries) :
    Enumerated (put key value entries) := by
  induction entries with
  | nil => exact List.pairwise_singleton _ _
  | cons entry rest ih =>
    obtain ⟨behind, tail⟩ := List.pairwise_cons.mp ordered
    rw [put]
    by_cases here : entry.1 = key
    · rw [if_pos here]
      exact List.pairwise_cons.mpr ⟨fun later member => here ▸ behind later member, tail⟩
    · rw [if_neg here]
      by_cases before : precedes key entry.1 = true
      · rw [if_pos before]
        refine List.pairwise_cons.mpr ⟨fun later member => ?_, ordered⟩
        have index := precedes_index before
        rcases List.mem_cons.mp member with same | later'
        · subst same
          exact ⟨here, by simpa [before] using precedes_swap here (.inr index)⟩
        · obtain ⟨_, notBefore⟩ := behind later later'
          have apart : later.1 ≠ key := by
            intro same
            rw [same, before] at notBefore
            cases notBefore
          refine ⟨apart, ?_⟩
          by_contra early
          rw [Bool.not_eq_false] at early
          rw [precedes_trans early before] at notBefore
          cases notBefore
      · rw [if_neg before]
        refine List.pairwise_cons.mpr ⟨fun later member => ?_, ih tail⟩
        rcases mem_put member with rfl | old
        · exact ⟨Ne.symm here, by simpa using before⟩
        · exact behind later old

variable {a : α}

/-- Writes under two keys can change places if one of the keys is an array index, by induction on
the entries. -/
theorem put_comm_index {key other : String} {b : α} (different : key ≠ other)
    (index : arrayIndex key ≠ none ∨ arrayIndex other ≠ none) (entries : List (String × α)) :
    put key a (put other b entries) = put other b (put key a entries) := by
  have swap := precedes_swap different index
  have back : other ≠ key := different.symm
  induction entries with
  | nil => cases first : precedes other key <;> simp [put, different, back, swap, first]
  | cons entry rest ih =>
    obtain ⟨name, old⟩ := entry
    by_cases here : name = key
    · subst here
      cases first : precedes other name <;> simp [put, different, back, swap, first]
    · by_cases there : name = other
      · subst there
        cases first : precedes name key <;> simp [put, different, back, swap, first]
      · cases keyFirst : precedes key name with
        | false =>
          cases otherFirst : precedes other name with
          | false => simp [put, here, there, keyFirst, otherFirst, ih]
          | true =>
            have behind : precedes key other = false := by
              by_contra early
              rw [Bool.not_eq_false] at early
              rw [precedes_trans early otherFirst] at keyFirst
              cases keyFirst
            simp [put, here, there, keyFirst, otherFirst, back, behind]
        | true =>
          cases otherFirst : precedes other name with
          | false =>
            have behind : precedes other key = false := by
              by_contra early
              rw [Bool.not_eq_false] at early
              rw [precedes_trans early keyFirst] at otherFirst
              cases otherFirst
            simp [put, here, there, keyFirst, otherFirst, different, behind]
          | true =>
            cases first : precedes other key <;>
              simp [put, here, there, keyFirst, otherFirst, different, back, swap, first]

/-- A write to a key that is there can change places with any other. -/
theorem put_comm_held {key other : String} {b : α} (different : key ≠ other) (held : get key entries ≠ none) :
    put key a (put other b entries) = put other b (put key a entries) := by
  by_cases index : arrayIndex key ≠ none ∨ arrayIndex other ≠ none
  · exact put_comm_index different index entries
  · rw [not_or, not_not, not_not] at index
    have late (name : String) : precedes key name = false ∧ precedes other name = false := by
      simp [precedes, index.1, index.2]
    induction entries with
    | nil => exact absurd rfl held
    | cons entry rest ih =>
      by_cases here : entry.1 = key
      · simp [put, here, different, late]
      · rw [get, if_neg here] at held
        by_cases there : entry.1 = other
        · simp [put, there, different.symm, late]
        · simp [put, here, there, late, ih held]

theorem put_put (key : String) (a b : α) (entries : List (String × α)) :
    put key a (put key b entries) = put key a entries := by
  induction entries with
  | nil => simp [put]
  | cons entry rest ih =>
    by_cases here : entry.1 = key
    · simp [put, here]
    · cases first : precedes key entry.1 <;> simp [put, here, first, ih]

/-- All entries of the second list are written, one after another. -/
def putAll (entries new : List (String × α)) : List (String × α) :=
  new.foldl (fun done entry => put entry.1 entry.2 done) entries

theorem get_putAll {new : List (String × α)} (ordered : Enumerated new) (entries : List (String × α)) (key : String) :
    get key (putAll entries new) = (get key new).or (get key entries) := by
  induction new generalizing entries with
  | nil => rfl
  | cons entry rest ih =>
    obtain ⟨behind, tail⟩ := List.pairwise_cons.mp ordered
    have onward := ih tail (put entry.1 entry.2 entries)
    rw [get_put] at onward
    rw [get]
    by_cases here : entry.1 = key
    · have gone : get key rest = none := Iff.mpr get_eq_none fun later member => here ▸ (behind later member).1
      rw [gone, if_pos here] at onward
      rw [if_pos here]
      exact onward
    · rw [if_neg here] at onward
      rw [if_neg here]
      exact onward

/-- A write to a key that is there can follow or precede writes to other keys. -/
theorem put_putAll_held {key : String} (value : α) {new : List (String × α)} (apart : ∀ entry ∈ new, entry.1 ≠ key)
    (held : get key entries ≠ none) : put key value (putAll entries new) = putAll (put key value entries) new := by
  induction new generalizing entries with
  | nil => rfl
  | cons entry rest ih =>
    have different : key ≠ entry.1 := (apart entry List.mem_cons_self).symm
    have stillHeld : get key (put entry.1 entry.2 entries) ≠ none := by rwa [get_put, if_neg different.symm]
    have onward := ih (fun later member => apart later (List.mem_cons_of_mem _ member)) stillHeld
    rw [put_comm_held different held] at onward
    exact onward

theorem put_putAll_index {key : String} {value : α} (index : arrayIndex key ≠ none)
    {new : List (String × α)} (apart : ∀ entry ∈ new, entry.1 ≠ key) (entries : List (String × α)) :
    put key value (putAll entries new) = putAll (put key value entries) new := by
  induction new generalizing entries with
  | nil => rfl
  | cons entry rest ih =>
    have different : key ≠ entry.1 := (apart entry List.mem_cons_self).symm
    have onward := ih (fun later member => apart later (List.mem_cons_of_mem _ member)) (put entry.1 entry.2 entries)
    rw [put_comm_index different (.inl index)] at onward
    exact onward

/-- It is the same to write under one more key at once or after all others. -/
theorem putAll_put (key : String) (value : α) {new : List (String × α)} (ordered : Enumerated new)
    (entries : List (String × α)) : putAll entries (put key value new) = put key value (putAll entries new) := by
  induction new generalizing entries with
  | nil => rfl
  | cons entry rest ih =>
    obtain ⟨behind, tail⟩ := List.pairwise_cons.mp ordered
    rw [put]
    by_cases here : entry.1 = key
    · subst here
      rw [if_pos rfl]
      have held : get entry.1 (put entry.1 entry.2 entries) ≠ none := by simp [get_put]
      have last := put_putAll_held value (fun later member => (behind later member).1) held
      rw [put_put] at last
      exact last.symm
    · rw [if_neg here]
      by_cases first : precedes key entry.1 = true
      · rw [if_pos first]
        exact (put_putAll_index (precedes_index first) (fresh_of_precedes ordered here first) entries).symm
      · rw [if_neg first]
        exact ih tail (put entry.1 entry.2 entries)

/-- A write to a key that is there leaves the keys as they are. -/
theorem keys_put {key : String} (value : α) (ordered : Enumerated entries)
    (held : get key entries ≠ none) : (put key value entries).map (·.1) = entries.map (·.1) := by
  induction entries with
  | nil => exact absurd rfl held
  | cons entry rest ih =>
    rw [put]
    by_cases here : entry.1 = key
    · simp [here]
    · rw [if_neg here]
      by_cases first : precedes key entry.1 = true
      · exact absurd (Iff.mpr get_eq_none (fresh_of_precedes ordered here first)) held
      · rw [if_neg first, List.map_cons, List.map_cons, ih (List.pairwise_cons.mp ordered).2]
        rwa [get, if_neg here] at held

theorem put_map (f : α → β) (key : String) (value : α) (entries : List (String × α)) :
    (put key value entries).map (fun entry => (entry.1, f entry.2)) =
      put key (f value) (entries.map fun entry => (entry.1, f entry.2)) := by
  induction entries with
  | nil => rfl
  | cons entry rest ih =>
    rw [put, List.map_cons, put]
    split
    · rfl
    · split
      · rfl
      · rw [List.map_cons, ih]

theorem get_map (f : α → β) (key : String) (entries : List (String × α)) :
    get key (entries.map fun entry => (entry.1, f entry.2)) = (get key entries).map f := by
  induction entries with
  | nil => rfl
  | cons entry rest ih =>
    rw [List.map_cons, get, get, ih]
    split <;> rfl

theorem get_filter {key other : String} (different : key ≠ other) (entries : List (String × α)) :
    get other (entries.filter fun entry => entry.1 ≠ key) = get other entries := by
  induction entries with
  | nil => rfl
  | cons entry rest ih =>
    by_cases here : entry.1 = key
    · rw [List.filter_cons_of_neg (by simpa using here), ih, get, if_neg fun named => different (here.symm.trans named)]
    · rw [List.filter_cons_of_pos (by simpa using here), get, get, ih]

theorem keys_of_forall₂ {R : α → β → Prop} {others : List (String × β)}
    (alike : List.Forall₂ (fun entry other => entry.1 = other.1 ∧ R entry.2 other.2) entries others) :
    entries.map (·.1) = others.map (·.1) := by
  induction alike with
  | nil => rfl
  | cons head _ ih => rw [List.map_cons, List.map_cons, head.1, ih]

/-- Writes under the same key to objects whose entries correspond lead to entries that
correspond. -/
theorem put_forall₂ {R : α → β → Prop} {key : String} {b : β} (related : R a b) {others : List (String × β)}
    (alike : List.Forall₂ (fun entry other => entry.1 = other.1 ∧ R entry.2 other.2) entries others) :
    List.Forall₂ (fun entry other => entry.1 = other.1 ∧ R entry.2 other.2) (put key a entries) (put key b others) := by
  induction alike with
  | nil => exact .cons ⟨rfl, related⟩ .nil
  | cons head tail ih =>
    rw [put, put, ← head.1]
    split
    · exact .cons ⟨rfl, related⟩ tail
    · split
      · exact .cons ⟨rfl, related⟩ (.cons head tail)
      · exact .cons head ih

/-- Entries are determined by their keys and by what is read under them. -/
theorem eq_of_get {others : List (String × α)} (ordered : Enumerated entries)
    (keys : others.map (·.1) = entries.map (·.1)) (same : ∀ key, get key others = get key entries) :
    others = entries := by
  induction entries generalizing others with
  | nil => exact List.map_eq_nil_iff.mp keys
  | cons entry rest ih =>
    obtain ⟨behind, tail⟩ := List.pairwise_cons.mp ordered
    cases others with
    | nil => cases keys
    | cons other last =>
      rw [List.map_cons, List.map_cons, List.cons.injEq] at keys
      have head : other.2 = entry.2 := by simpa [get, keys.1] using same entry.1
      have tails : last = rest := by
        refine ih tail keys.2 fun key => ?_
        by_cases here : entry.1 = key
        · have gone : get key rest = none := Iff.mpr get_eq_none fun later member => here ▸ (behind later member).1
          have otherGone : get key last = none := by
            rw [get_eq_none]
            intro later member named
            have listed : key ∈ rest.map (·.1) := keys.2 ▸ List.mem_map.mpr ⟨later, member, named⟩
            obtain ⟨found, stands, named⟩ := List.mem_map.mp listed
            exact Iff.mp get_eq_none gone found stands named
          rw [gone, otherGone]
        · simpa [get, here, keys.1] using same key
      rw [tails, Prod.ext keys.1 head]

/-- What a write adds to a sum over the values. -/
theorem sum_put {M : Type} [AddCommGroup M] (f : α → M) (key : String) (value : α)
    (ordered : Enumerated entries) : ((put key value entries).map fun entry => f entry.2).sum =
      (entries.map fun entry => f entry.2).sum + (f value - ((get key entries).map f).getD 0) := by
  induction entries with
  | nil => simp [put, get]
  | cons entry rest ih =>
    obtain ⟨_, tail⟩ := List.pairwise_cons.mp ordered
    rw [put]
    by_cases here : entry.1 = key
    · simp only [if_pos here, get, List.map_cons, List.sum_cons, Option.map_some, Option.getD_some]
      abel
    · rw [if_neg here]
      by_cases first : precedes key entry.1 = true
      · rw [if_pos first, Iff.mpr get_eq_none (fresh_of_precedes ordered here first)]
        simp only [List.map_cons, List.sum_cons, Option.map_none, Option.getD_none]
        abel
      · rw [if_neg first, get, if_neg here, List.map_cons, List.sum_cons, ih tail, List.map_cons, List.sum_cons]
        abel

end Entries

/-- An object whose own entries have values of one type. -/
@[ext] structure PlainObject (α : Type) where
  entries : List (String × α)
  ordered : Entries.Enumerated entries

/-- What is read under a key. -/
inductive PropertyRead (α : Type) where
  | own (value : α)
  | inherited
  | missing

namespace PlainObject

variable {α ε : Type}

def empty : PlainObject α := ⟨[], List.Pairwise.nil⟩

/-- The own value under a key. -/
def get (object : PlainObject α) (key : String) : Option α := Entries.get key object.entries

def read (object : PlainObject α) (key : String) : PropertyRead α :=
  match object.get key with
  | some value => .own value
  | none => if key ∈ inheritedNames then .inherited else .missing

/-- An own entry is created or replaced, as by a computed key. -/
def put (object : PlainObject α) (key : String) (value : α) : PlainObject α :=
  ⟨Entries.put key value object.entries, Entries.put_enumerated object.ordered⟩

/-- An assignment. To the inherited `__proto__` it makes no entry. -/
def assign (object : PlainObject α) (key : String) (value : α) : PlainObject α :=
  if key = "__proto__" ∧ object.get key = none then object else object.put key value

/-- All entries of the second object are written to the first. -/
def putAll (object new : PlainObject α) : PlainObject α :=
  new.entries.foldl (fun done entry => done.put entry.1 entry.2) object

/-- Every value is replaced by its image. -/
def map {β : Type} (f : α → β) (object : PlainObject α) : PlainObject β :=
  ⟨object.entries.map fun entry => (entry.1, f entry.2), by
    unfold Entries.Enumerated
    rw [List.pairwise_map]
    exact object.ordered⟩

/-- `delete object[key]`. -/
def delete (object : PlainObject α) (key : String) : PlainObject α :=
  ⟨object.entries.filter fun entry => entry.1 ≠ key, object.ordered.filter _⟩

/-- All entries of the second object are assigned to the first. -/
def assignAll (object new : PlainObject α) : PlainObject α :=
  new.entries.foldl (fun done entry => done.assign entry.1 entry.2) object

@[simp] theorem get_empty (key : String) : (empty : PlainObject α).get key = none := rfl

theorem get_put (object : PlainObject α) (key other : String) (value : α) :
    (object.put key value).get other = if key = other then some value else object.get other :=
  Entries.get_put key other value object.entries

theorem get_map {β : Type} (f : α → β) (object : PlainObject α) (key : String) :
    (object.map f).get key = (object.get key).map f := Entries.get_map f key object.entries

theorem map_put {β : Type} (f : α → β) (object : PlainObject α) (key : String) (value : α) :
    (object.put key value).map f = (object.map f).put key (f value) :=
  PlainObject.ext (Entries.put_map f key value object.entries)

variable {object : PlainObject α}

theorem delete_missing {key : String} (missing : object.get key = none) : object.delete key = object := by
  apply PlainObject.ext
  rw [delete, List.filter_eq_self]
  intro entry member
  simpa using Iff.mp Entries.get_eq_none missing entry member

theorem get_delete (object : PlainObject α) (key : String) : (object.delete key).get key = none := by
  rw [get, Entries.get_eq_none]
  intro entry member
  simpa using (List.mem_filter.mp member).2

theorem get_delete_other {key other : String} (different : key ≠ other) (object : PlainObject α) :
    (object.delete key).get other = object.get other := Entries.get_filter different object.entries

theorem eq_of_get {other : PlainObject α} (keys : other.entries.map (·.1) = object.entries.map (·.1))
    (same : ∀ key, other.get key = object.get key) : other = object :=
  PlainObject.ext (Entries.eq_of_get object.ordered keys same)

theorem read_ordinary {key : String} (ordinary : key ∉ inheritedNames) :
    object.read key = match object.get key with
      | some value => .own value
      | none => .missing := by
  rw [read]
  cases object.get key with
  | some value => rfl
  | none => rw [if_neg ordinary]

theorem assign_ordinary {key : String} {value : α} (ordinary : key ≠ "__proto__" ∨ object.get key ≠ none) :
    object.assign key value = object.put key value := by
  rw [assign, if_neg]
  rintro ⟨named, missing⟩
  exact ordinary.elim (absurd named) (absurd missing)

theorem assignAll_ordinary {new : PlainObject α} (ordinary : new.get "__proto__" = none) :
    object.assignAll new = object.putAll new := by
  rw [get, Entries.get_eq_none] at ordinary
  exact List.foldl_ext _ _ _ fun done entry member => assign_ordinary (.inl (ordinary entry member))

theorem entries_putAll (object new : PlainObject α) :
    (object.putAll new).entries = Entries.putAll object.entries new.entries := by
  unfold putAll Entries.putAll
  induction new.entries generalizing object with
  | nil => rfl
  | cons entry rest ih => exact ih (object.put entry.1 entry.2)

theorem putAll_put (object new : PlainObject α) (key : String) (value : α) :
    object.putAll (new.put key value) = (object.putAll new).put key value := by
  apply PlainObject.ext
  have written := Entries.putAll_put key value new.ordered object.entries
  rw [← entries_putAll] at written
  rw [entries_putAll]
  exact written

theorem get_putAll (object new : PlainObject α) (key : String) :
    (object.putAll new).get key = (new.get key).or (object.get key) := by
  rw [get, entries_putAll]
  exact Entries.get_putAll new.ordered object.entries key

/-- The value under a key after writes that each replace what they find under their key. -/
theorem get_foldl_put (key : ε → String) (next : ε → Option α → α) (events : List ε)
    (object : PlainObject α) (k : String) :
    (events.foldl (fun object event => object.put (key event) (next event (object.get (key event)))) object).get k =
      Table.foldEvents next (object.get k) (events.filter fun event => key event = k) := by
  induction events generalizing object with
  | nil => rfl
  | cons event rest ih =>
    rw [List.foldl_cons, ih, get_put]
    by_cases named : key event = k
    · simp [named, Table.foldEvents]
    · simp [named]

end PlainObject

end StockVerification.Foundation
