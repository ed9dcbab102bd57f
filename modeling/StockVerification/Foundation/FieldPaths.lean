import Mathlib.Data.List.Basic
import Mathlib.Data.Rat.Defs

/-!
# Document trees and field paths

Documents that nest to any depth, and writes at paths into them. A write at a path leaves what
stands at every path that neither continues it nor is continued by it.
-/
namespace StockVerification.Foundation

/-- Stored values. Integers and floats are exact numbers, dates are instants in milliseconds. -/
inductive Bson where
  | null
  | bool (b : Bool)
  | num (q : ℚ)
  | str (s : String)
  | date (t : Int)
  | oid (hex : String)
  | array (elements : List Bson)
  | doc (fields : List (String × Bson))

/-- The number that a value is; a truth value is one too. -/
def Bson.number : Bson → Option ℚ
  | .num q => some q
  | .bool b => some (if b then 1 else 0)
  | _ => none

/-- The fields of a document in their order. -/
abbrev Fields := List (String × Bson)

namespace Fields

/-- A field set where it stands, or added at the end. -/
def setField (name : String) (value : Bson) : Fields → Fields
  | [] => [(name, value)]
  | (first, old) :: rest =>
    if first = name then (first, value) :: rest else (first, old) :: setField name value rest

def dropField (name : String) (fields : Fields) : Fields := fields.filter fun entry => entry.1 != name

section

variable {name other : String} {value : Bson} {fields : Fields}

theorem lookup_entry (name other : String) (value : Bson) (fields : Fields) :
    List.lookup other ((name, value) :: fields) = if other = name then some value else fields.lookup other := by
  by_cases same : other = name
  · subst same
    simp
  · have differs : (other == name) = false := beq_false_of_ne same
    simp [List.lookup_cons, differs, same]

theorem lookup_setField (name other : String) (value : Bson) (fields : Fields) :
    (setField name value fields).lookup other = if other = name then some value else fields.lookup other := by
  induction fields with
  | nil => rw [setField, lookup_entry]
  | cons entry rest ih =>
    obtain ⟨first, old⟩ := entry
    rw [setField]
    by_cases here : first = name
    · subst here
      rw [if_pos rfl, lookup_entry, lookup_entry]
      split <;> rfl
    · rw [if_neg here, lookup_entry, lookup_entry, ih]
      by_cases same : other = first
      · subst same
        simp [here]
      · simp [same]

theorem lookup_dropField (name other : String) (fields : Fields) :
    (dropField name fields).lookup other = if other = name then none else fields.lookup other := by
  induction fields with
  | nil => simp [dropField]
  | cons entry rest ih =>
    obtain ⟨first, old⟩ := entry
    rw [dropField] at ih ⊢
    by_cases here : first = name
    · subst here
      rw [List.filter_cons_of_neg (by simp), ih, lookup_entry]
      split <;> rfl
    · rw [List.filter_cons_of_pos (by simpa using here), lookup_entry, lookup_entry, ih]
      by_cases same : other = first
      · subst same
        simp [here]
      · simp [same]

/-- Setting a field to what it holds changes nothing. -/
theorem setField_same (held : fields.lookup name = some value) : setField name value fields = fields := by
  induction fields with
  | nil => cases held
  | cons entry rest ih =>
    obtain ⟨first, old⟩ := entry
    rw [lookup_entry] at held
    by_cases here : first = name
    · subst here
      rw [if_pos rfl, Option.some.injEq] at held
      rw [setField, if_pos rfl, held]
    · rw [if_neg (Ne.symm here)] at held
      rw [setField, if_neg here, ih held]

theorem setField_fresh (fresh : name ∉ fields.map (·.1)) : setField name value fields = fields ++ [(name, value)] := by
  induction fields with
  | nil => rfl
  | cons entry rest ih =>
    obtain ⟨first, old⟩ := entry
    rw [List.map_cons, List.mem_cons, not_or] at fresh
    rw [setField, if_neg (Ne.symm fresh.1), ih fresh.2, List.cons_append]

/-- Different new fields are added in their order. -/
theorem setFields_fresh {new : Fields} (distinct : ((fields ++ new).map (·.1)).Nodup) :
    new.foldl (fun fields entry => setField entry.1 entry.2 fields) fields = fields ++ new := by
  induction new generalizing fields with
  | nil => rw [List.foldl_nil, List.append_nil]
  | cons entry rest ih =>
    have fresh : entry.1 ∉ fields.map (·.1) := by
      rw [List.map_append, List.map_cons] at distinct
      exact fun known => (List.nodup_append.mp distinct).2.2 _ known _ List.mem_cons_self rfl
    rw [List.foldl_cons, setField_fresh fresh, ih, List.append_assoc, List.singleton_append]
    rwa [List.append_assoc, List.singleton_append]

theorem lookup_of_mem (distinct : (fields.map (·.1)).Nodup) (member : (name, value) ∈ fields) :
    fields.lookup name = some value := by
  induction fields with
  | nil => cases member
  | cons entry rest ih =>
    obtain ⟨first, old⟩ := entry
    rw [List.map_cons, List.nodup_cons] at distinct
    rw [lookup_entry]
    rcases List.mem_cons.mp member with same | later
    · obtain ⟨rfl, rfl⟩ := Prod.mk.inj same
      exact if_pos rfl
    · have different : name ≠ first := fun same =>
        distinct.1 (List.mem_map.mpr ⟨(name, value), later, same⟩)
      rw [if_neg different, ih distinct.2 later]

/-- The later of two values under one name is kept. -/
theorem setField_setField (name : String) (value old : Bson) (fields : Fields) :
    setField name value (setField name old fields) = setField name value fields := by
  induction fields with
  | nil => simp [setField]
  | cons entry rest ih =>
    obtain ⟨first, kept⟩ := entry
    by_cases here : first = name
    · simp [setField, here]
    · simp [setField, here, ih]

theorem dropField_absent (absent : fields.lookup name = none) : dropField name fields = fields := by
  rw [dropField, List.filter_eq_self]
  intro entry member
  have differs : (name == entry.1) = false := by simpa using List.lookup_eq_none_iff.mp absent entry member
  rw [bne_iff_ne]
  exact (beq_eq_false_iff_ne.mp differs).symm

end

end Fields

namespace Bson

open Fields

/-- The array index that a component of a path names, without leading zeros. -/
def indexOf (component : String) : Option Nat :=
  component.toNat?.filter fun index => toString index == component

theorem indexOf_inj {first second : String} {index : Nat} (isFirst : indexOf first = some index)
    (isSecond : indexOf second = some index) : first = second := by
  simp only [indexOf, Option.filter_eq_some_iff, beq_iff_eq] at isFirst isSecond
  rw [← isFirst.2, ← isSecond.2]

/-- What stands directly below a value under a component. -/
def child : Bson → String → Option Bson
  | doc fields, component => fields.lookup component
  | array elements, component => (indexOf component).bind fun index => elements[index]?
  | _, _ => none

/-- A value with another child. An array is filled up with nulls. -/
def setChild (component : String) (value : Bson) : Bson → Option Bson
  | doc fields => some (doc (setField component value fields))
  | array elements => (indexOf component).map fun index =>
      if index < elements.length then array (elements.set index value)
      else array (elements ++ List.replicate (index - elements.length) null ++ [value])
  | _ => none

def dropChild (component : String) : Bson → Option Bson
  | doc fields => some (doc (dropField component fields))
  | _ => none

def isDoc : Bson → Bool
  | doc _ => true
  | _ => false

section

variable {b after value inner : Bson} {component other : String}

section

variable (set : setChild component value b = some after)
include set

theorem child_setChild : child after component = some value := by
  cases b with
  | doc fields =>
    cases set
    rw [child, lookup_setField, if_pos rfl]
  | array elements =>
    obtain ⟨index, named, rfl⟩ := Option.map_eq_some_iff.mp set
    by_cases inside : index < elements.length
    · rw [if_pos inside, child, named, Option.bind_some, List.getElem?_set_self inside]
    · have reached : (elements ++ List.replicate (index - elements.length) null).length = index := by
        simp only [List.length_append, List.length_replicate]
        omega
      rw [if_neg inside, child, named, Option.bind_some, List.getElem?_append_right (by omega), reached]
      simp
  | _ => cases set

/-- What stands under another component stays. -/
theorem child_setChild_other (different : other ≠ component)
    (present : child b other = some inner) : child after other = some inner := by
  cases b with
  | doc fields =>
    cases set
    rw [child, lookup_setField, if_neg different]
    exact present
  | array elements =>
    obtain ⟨index, named, rfl⟩ := Option.map_eq_some_iff.mp set
    obtain ⟨place, its, at_⟩ := Option.bind_eq_some_iff.mp present
    have apart : index ≠ place := by
      intro same
      subst same
      exact different (indexOf_inj its named)
    by_cases inside : index < elements.length
    · rw [if_pos inside, child, its, Option.bind_some, List.getElem?_set_ne apart, at_]
    · have bound := (List.getElem?_eq_some_iff.mp at_).choose
      rw [if_neg inside, child, its, Option.bind_some, List.append_assoc, List.getElem?_append_left bound, at_]
  | _ => cases set

/-- In a document, what is absent under another component stays absent. -/
theorem absent_setChild_other (different : other ≠ component) (document : b.isDoc = true)
    (absent : child b other = none) : after.isDoc = true ∧ child after other = none := by
  cases b with
  | doc fields =>
    cases set
    refine ⟨rfl, ?_⟩
    rw [child, lookup_setField, if_neg different]
    exact absent
  | _ => cases document

end

theorem setChild_child (present : child b component = some inner) : setChild component inner b = some b := by
  cases b with
  | doc fields => rw [setChild, setField_same present]
  | array elements =>
    obtain ⟨place, its, at_⟩ := Option.bind_eq_some_iff.mp present
    obtain ⟨bound, rfl⟩ := List.getElem?_eq_some_iff.mp at_
    rw [setChild, its, Option.map_some, if_pos bound, List.set_getElem_self]
  | _ => cases present

theorem dropChild_eq (dropped : dropChild component b = some after) : b.isDoc = true ∧ after.isDoc = true ∧
    ∀ other, child after other = if other = component then none else child b other := by
  cases b with
  | doc fields =>
    cases dropped
    exact ⟨rfl, rfl, fun other => lookup_dropField component other fields⟩
  | _ => cases dropped

theorem dropChild_absent (document : b.isDoc = true) (absent : child b component = none) :
    dropChild component b = some b := by
  cases b with
  | doc fields => rw [dropChild, dropField_absent absent]
  | _ => cases document

end

/-- The value that makes a path below it hold a value. -/
def nest : List String → Bson → Bson
  | [], value => value
  | component :: rest, value => doc [(component, nest rest value)]

/-- What stands at a path. -/
def valueAt : List String → Bson → Option Bson
  | [], b => some b
  | component :: rest, b => (child b component).bind (valueAt rest)

/-- A new value at a path, or none to drop a field of a document. -/
def assign (new : Option Bson) : List String → Bson → Option Bson
  | [], _ => new
  | component :: rest, b =>
    if rest = [] ∧ new = none then dropChild component b
    else
      match child b component with
      | some inner => (assign new rest inner).bind fun written => setChild component written b
      | none => new.bind fun value => setChild component (nest rest value) b

/-- The path holds the new value already, or the field that is dropped is not there. -/
def Shows (new : Option Bson) : List String → Bson → Prop
  | [], b => new = some b
  | component :: rest, b =>
    match child b component with
    | some inner => Shows new rest inner
    | none => rest = [] ∧ new = none ∧ b.isDoc = true

/-- Neither path continues the other. -/
def PathsApart (first second : List String) : Prop := ¬ first <+: second ∧ ¬ second <+: first

instance (first second : List String) : Decidable (PathsApart first second) := inferInstanceAs (Decidable (_ ∧ _))

section

variable {new other : Option Bson} {b after value : Bson} {path second rest : List String} {component : String}

theorem PathsApart.symm (apart : PathsApart path second) : PathsApart second path := ⟨apart.2, apart.1⟩

theorem shows_below {inner : Bson} (present : child b component = some inner) :
    Shows new (component :: rest) b ↔ Shows new rest inner := by
  rw [Shows, present]

theorem shows_missing (missing : child b component = none) :
    Shows new (component :: rest) b ↔ rest = [] ∧ new = none ∧ b.isDoc = true := by
  rw [Shows, missing]

theorem nest_shows (path : List String) (value : Bson) : Shows (some value) path (nest path value) := by
  induction path with
  | nil => rfl
  | cons component rest ih =>
    have present : child (nest (component :: rest) value) component = some (nest rest value) := by
      simp [nest, child]
    exact (shows_below present).mpr ih

/-- A write shows afterwards. -/
theorem assign_shows (written : assign new path b = some after) : Shows new path after := by
  induction path generalizing b after with
  | nil => exact written
  | cons component rest ih =>
    rw [assign] at written
    split at written
    · next drops =>
      obtain ⟨_, document, children⟩ := dropChild_eq written
      exact (shows_missing (by rw [children, if_pos rfl])).mpr ⟨drops.1, drops.2, document⟩
    · cases present : child b component with
      | some inner =>
        rw [present] at written
        obtain ⟨below, deeper, set⟩ := Option.bind_eq_some_iff.mp written
        exact (shows_below (child_setChild set)).mpr (ih deeper)
      | none =>
        rw [present] at written
        obtain ⟨value, rfl, set⟩ := Option.bind_eq_some_iff.mp written
        exact (shows_below (child_setChild set)).mpr (nest_shows rest value)

/-- A write of what shows already changes nothing. -/
theorem shows_assign (shows : Shows new path b) : assign new path b = some b := by
  induction path generalizing b with
  | nil => exact shows
  | cons component rest ih =>
    rw [assign]
    cases present : child b component with
    | some inner =>
      rw [shows_below present] at shows
      have deeper : ¬ (rest = [] ∧ new = none) := by
        rintro ⟨rfl, rfl⟩
        cases shows
      rw [if_neg deeper]
      dsimp only
      rw [ih shows, Option.bind_some, setChild_child present]
    | none =>
      obtain ⟨last, drops, document⟩ := (shows_missing present).mp shows
      rw [if_pos ⟨last, drops⟩, dropChild_absent document present]

/-- A write leaves what shows at a path apart from its own. -/
theorem shows_kept (apart : PathsApart path second) (shows : Shows new path b)
    (written : assign other second b = some after) : Shows new path after := by
  induction path generalizing second b after with
  | nil => exact absurd List.nil_prefix apart.1
  | cons component rest ih =>
    cases second with
    | nil => exact absurd List.nil_prefix apart.2
    | cons name deeper =>
      rw [assign] at written
      by_cases same : component = name
      · subst same
        have below : PathsApart rest deeper := by
          constructor
          · exact fun before => apart.1 (List.cons_prefix_cons.mpr ⟨rfl, before⟩)
          · exact fun before => apart.2 (List.cons_prefix_cons.mpr ⟨rfl, before⟩)
        have notLast : deeper ≠ [] := by
          rintro rfl
          exact below.2 List.nil_prefix
        rw [if_neg fun drops => notLast drops.1] at written
        cases present : child b component with
        | some inner =>
          rw [present] at written
          obtain ⟨x, within, set⟩ := Option.bind_eq_some_iff.mp written
          exact (shows_below (child_setChild set)).mpr (ih below ((shows_below present).mp shows) within)
        | none =>
          obtain ⟨rfl, _, _⟩ := (shows_missing present).mp shows
          exact absurd List.nil_prefix below.1
      · have stays : (∀ inner, child b component = some inner → child after component = some inner) ∧
            (b.isDoc = true → child b component = none → after.isDoc = true ∧ child after component = none) := by
          split at written
          · obtain ⟨_, document, children⟩ := dropChild_eq written
            have unchanged : child after component = child b component := by rw [children, if_neg same]
            rw [unchanged]
            exact ⟨fun _ => id, fun _ absent => ⟨document, absent⟩⟩
          · obtain ⟨x, set⟩ : ∃ x, setChild name x b = some after := by
              split at written
              · obtain ⟨x, _, set⟩ := Option.bind_eq_some_iff.mp written
                exact ⟨x, set⟩
              · obtain ⟨value, _, set⟩ := Option.bind_eq_some_iff.mp written
                exact ⟨_, set⟩
            exact ⟨fun _ => child_setChild_other set same, absent_setChild_other set same⟩
        cases present : child b component with
        | some inner => exact (shows_below (stays.1 inner present)).mpr ((shows_below present).mp shows)
        | none =>
          obtain ⟨last, drops, document⟩ := (shows_missing present).mp shows
          obtain ⟨still, absent⟩ := stays.2 document present
          exact (shows_missing absent).mpr ⟨last, drops, still⟩

/-- A write into a document leaves the other fields. -/
theorem assign_fields (document : b.isDoc = true) (written : assign new (component :: rest) b = some after) :
    after.isDoc = true ∧ ∀ name, name ≠ component → child after name = child b name := by
  have set_fields : ∀ x, setChild component x b = some after →
      after.isDoc = true ∧ ∀ name, name ≠ component → child after name = child b name := by
    intro x set
    cases b with
    | doc fields =>
      cases set
      exact ⟨rfl, fun name different => by rw [child, lookup_setField, if_neg different, child]⟩
    | _ => cases document
  rw [assign] at written
  split at written
  · obtain ⟨_, still, children⟩ := dropChild_eq written
    exact ⟨still, fun name different => by rw [children, if_neg different]⟩
  · split at written
    · obtain ⟨x, _, set⟩ := Option.bind_eq_some_iff.mp written
      exact set_fields x set
    · obtain ⟨value, _, set⟩ := Option.bind_eq_some_iff.mp written
      exact set_fields _ set

theorem shows_congr (before : b.isDoc = true) (afterwards : after.isDoc = true)
    (same : child after component = child b component) :
    Shows new (component :: rest) after ↔ Shows new (component :: rest) b := by
  cases present : child b component with
  | some inner => rw [shows_below present, shows_below (same.trans present)]
  | none => rw [shows_missing present, shows_missing (same.trans present), before, afterwards]

theorem shows_field (document : b.isDoc = true) : Shows new [component] b ↔ child b component = new := by
  cases present : child b component with
  | some inner =>
    rw [shows_below present, Shows]
    exact eq_comm
  | none =>
    rw [shows_missing present]
    simp [document, eq_comm]

end

end Bson

/-- What is done to a path. -/
inductive Change where
  | keep
  | put (value : Bson)
  | drop

structure Touch where
  path : List String
  change : Change

namespace Touch

open Bson

def apply (touch : Touch) (b : Bson) : Option Bson :=
  match touch.change with
  | .keep => some b
  | .put value => assign (some value) touch.path b
  | .drop => assign none touch.path b

/-- The touch changes nothing. -/
def Shown (touch : Touch) (b : Bson) : Prop :=
  match touch.change with
  | .keep => True
  | .put value => Shows (some value) touch.path b
  | .drop => Shows none touch.path b

def applyAll (touches : List Touch) (b : Bson) : Option Bson := touches.foldlM (fun b touch => touch.apply b) b

section

variable {touch : Touch} {touches : List Touch} {b after : Bson} {name : String}

theorem apply_shown (applied : touch.apply b = some after) : touch.Shown after := by
  unfold apply at applied
  unfold Shown
  cases change : touch.change with
  | keep => trivial
  | put value | drop =>
    rw [change] at applied
    exact assign_shows applied

theorem shown_apply (shown : touch.Shown b) : touch.apply b = some b := by
  unfold Shown at shown
  unfold apply
  cases change : touch.change with
  | keep => rfl
  | put value | drop =>
    rw [change] at shown
    exact shows_assign shown

theorem apply_assign (applied : touch.apply b = some after) : after = b ∨ ∃ new, assign new touch.path b = some after := by
  unfold apply at applied
  cases change : touch.change with
  | keep =>
    rw [change] at applied
    exact .inl (Option.some.inj applied).symm
  | put value | drop =>
    rw [change] at applied
    exact .inr ⟨_, applied⟩

/-- A touch leaves what a touch apart from it has done. -/
theorem shown_kept {second : Touch} (apart : PathsApart touch.path second.path)
    (shown : touch.Shown b) (applied : second.apply b = some after) : touch.Shown after := by
  rcases apply_assign applied with rfl | ⟨new, written⟩
  · exact shown
  · unfold Shown at shown ⊢
    cases change : touch.change with
    | keep => trivial
    | put value | drop =>
      rw [change] at shown
      exact shows_kept apart shown written

theorem apply_fields (document : b.isDoc = true) (starts : touch.path.head? ≠ none)
    (applied : touch.apply b = some after) :
    after.isDoc = true ∧ ∀ name, touch.path.head? ≠ some name → child after name = child b name := by
  rcases apply_assign applied with rfl | ⟨new, written⟩
  · exact ⟨document, fun _ _ => rfl⟩
  · cases path : touch.path with
    | nil =>
      rw [path] at starts
      exact absurd rfl starts
    | cons component rest =>
      rw [path] at written
      obtain ⟨still, others⟩ := assign_fields document written
      refine ⟨still, fun name different => others name ?_⟩
      rintro rfl
      exact different rfl

theorem shown_congr (before : b.isDoc = true) (afterwards : after.isDoc = true) (starts : touch.path.head? = some name)
    (same : child after name = child b name) : touch.Shown after ↔ touch.Shown b := by
  cases path : touch.path with
  | nil =>
    rw [path] at starts
    cases starts
  | cons component rest =>
    rw [path] at starts
    cases starts
    unfold Shown
    cases touch.change with
    | keep => rfl
    | put value | drop =>
      rw [path]
      exact shows_congr before afterwards same

theorem applyAll_cons : applyAll (touch :: touches) b = some after ↔
    ∃ next, touch.apply b = some next ∧ applyAll touches next = some after := by
  rw [applyAll, List.foldlM_cons]
  exact Option.bind_eq_some_iff

/-- What shows stays through touches that are apart from it. -/
theorem applyAll_kept (apart : ∀ second ∈ touches, PathsApart touch.path second.path)
    (shown : touch.Shown b) (applied : applyAll touches b = some after) : touch.Shown after := by
  induction touches generalizing b with
  | nil =>
    cases applied
    exact shown
  | cons second rest ih =>
    obtain ⟨next, first, later⟩ := applyAll_cons.mp applied
    apply ih (fun third member => apart third (.tail _ member)) _ later
    exact shown_kept (apart second (.head _)) shown first

/-- Touches apart from each other all show in the end. -/
theorem applyAll_shown (apart : touches.Pairwise fun first second => PathsApart first.path second.path)
    (applied : applyAll touches b = some after) : ∀ touch ∈ touches, touch.Shown after := by
  induction touches generalizing b with
  | nil => simp
  | cons first rest ih =>
    obtain ⟨next, done, later⟩ := applyAll_cons.mp applied
    rw [List.pairwise_cons] at apart
    intro touch member
    rcases List.mem_cons.mp member with rfl | among
    · exact applyAll_kept apart.1 (apply_shown done) later
    · exact ih apart.2 later touch among

section

variable (document : b.isDoc = true) (starts : ∀ touch ∈ touches, touch.path.head? ≠ none)
include document starts

theorem applyAll_document (applied : applyAll touches b = some after) : after.isDoc = true := by
  induction touches generalizing b with
  | nil =>
    cases applied
    exact document
  | cons first rest ih =>
    obtain ⟨next, done, later⟩ := applyAll_cons.mp applied
    exact ih (apply_fields document (starts first (.head _)) done).1
      (fun touch member => starts touch (.tail _ member)) later

/-- A field where every touch of it changes nothing stays as it is. -/
theorem applyAll_unchanged (shown : ∀ touch ∈ touches, touch.path.head? = some name → touch.Shown b)
    (applied : applyAll touches b = some after) : child after name = child b name := by
  induction touches generalizing b with
  | nil =>
    cases applied
    rfl
  | cons first rest ih =>
    obtain ⟨next, done, later⟩ := applyAll_cons.mp applied
    obtain ⟨still, others⟩ := apply_fields document (starts first (.head _)) done
    have same : child next name = child b name := by
      by_cases here : first.path.head? = some name
      · have idle := (shown_apply (shown first (.head _) here)).symm.trans done
        rw [Option.some.inj idle]
      · exact others name here
    rw [← same]
    apply ih still (fun touch member => starts touch (.tail _ member)) _ later
    intro touch member here
    exact (shown_congr document still here same).mpr (shown touch (.tail _ member) here)

/-- A field is the same before and after exactly if each touch of it changes nothing. -/
theorem applyAll_field_iff (apart : touches.Pairwise fun first second => PathsApart first.path second.path)
    (applied : applyAll touches b = some after) :
    child after name = child b name ↔ ∀ touch ∈ touches, touch.path.head? = some name → touch.Shown b := by
  constructor
  · intro same touch member here
    have still := applyAll_document document starts applied
    exact (shown_congr document still here same).mp (applyAll_shown apart applied touch member)
  · intro shown
    exact applyAll_unchanged document starts shown applied

end

end

end Touch

end StockVerification.Foundation
