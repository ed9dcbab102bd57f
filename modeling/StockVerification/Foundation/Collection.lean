import StockVerification.Foundation.Document

/-!
# Collections of documents

A collection is the list of its documents in natural order. Filters and update
documents follow the database's matching and update rules: an equality filter
also matches inside an array field, null matches an absent field, an increment
of a field that holds no number is refused, and a unique index refuses a second
document with the same entry.
-/
namespace StockVerification.Foundation

inductive Filter where
  | anything
  | eq (field : String) (v : Value)
  | ne (field : String) (v : Value)
  | isIn (field : String) (vs : List Value)
  | notIn (field : String) (vs : List Value)
  | missing (field : String)
  /-- A dotted path into the rows of an embedded list. -/
  | inRows (field key : String) (v : Atom)
  | both (a b : Filter)
  | either (a b : Filter)

variable {d : Doc} {field : String}

namespace Filter

/-- Equality of a stored field with a value, arrays included. -/
def fieldIs (d : Doc) (field : String) (v : Value) : Bool :=
  match d field with
  | none => v == .null
  | some (.list items) => v == .list items || items.any fun item => item.toValue == v
  | some stored => stored == v

def holds : Filter → Doc → Bool
  | .anything, _ => true
  | .eq field v, d => fieldIs d field v
  | .ne field v, d => !fieldIs d field v
  | .isIn field vs, d => vs.any (fieldIs d field)
  | .notIn field vs, d => !vs.any (fieldIs d field)
  | .missing field, d => !d.has field
  | .inRows field key v, d =>
      match d field with
      | some (.rows items) => items.any fun row => row.lookup key == some v
      | some (.dict entries) => entries.lookup key == some v
      | _ => false
  | .both a b, d => a.holds d && b.holds d
  | .either a b, d => a.holds d || b.holds d

/-- The conjunction of a filter document's entries. -/
def all (filters : List Filter) : Filter := filters.foldr .both .anything

/-- A field that holds no list. -/
theorem fieldIs_get {v : Value} (plain : ∀ items, d.get field ≠ .list items) :
    fieldIs d field v = true ↔ d.get field = v := by
  rw [Doc.get_eq] at plain ⊢
  cases present : d field with
  | none =>
    rw [fieldIs, present, beq_iff_eq]
    exact eq_comm
  | some w =>
    rw [present] at plain
    cases w with
    | list items => exact absurd rfl (plain items)
    | _ => simp [fieldIs, present]

theorem fieldIs_str {s t : String} (h : d field = some (.str s)) :
    fieldIs d field (.str t) = (s == t) := by
  simp [fieldIs, h]

end Filter

/-- What `$push` appends: a plain value or an embedded document. -/
inductive Pushed where
  | atom (a : Atom)
  | row (entries : List (String × Atom))

/-- The list after the append. A list of plain values and one of embedded
documents do not mix. -/
def Pushed.onto (pushed : Pushed) (stored : Value) : Option Value :=
  match pushed, stored with
  | .atom a, .list items => some (.list (items ++ [a]))
  | .atom a, .rows [] => some (.list [a])
  | .row r, .list [] => some (.rows [r])
  | .row r, .rows rows => some (.rows (rows ++ [r]))
  | _, _ => none

def Pushed.alone : Pushed → Value
  | .atom a => .list [a]
  | .row r => .rows [r]

theorem Pushed.onto_atom {a : Atom} {stored grown : Value} (appended : (Pushed.atom a).onto stored = some grown) :
    (∃ items, stored = .list items ∧ grown = .list (items ++ [a])) ∨ stored = .rows [] ∧ grown = .list [a] := by
  unfold onto at appended
  split at appended
  · next items same =>
    cases same
    cases appended
    exact .inl ⟨items, rfl, rfl⟩
  · next same =>
    cases same
    cases appended
    exact .inr ⟨rfl, rfl⟩
  · next same => cases same
  · next same => cases same
  · cases appended

theorem Pushed.onto_row {row : List (String × Atom)} {stored grown : Value}
    (appended : (Pushed.row row).onto stored = some grown) :
    stored = .list [] ∧ grown = .rows [row] ∨ ∃ rows, stored = .rows rows ∧ grown = .rows (rows ++ [row]) := by
  unfold onto at appended
  split at appended
  · next same => cases same
  · next same => cases same
  · next same =>
    cases same
    cases appended
    exact .inl ⟨rfl, rfl⟩
  · next rows same =>
    cases same
    cases appended
    exact .inr ⟨rows, rfl, rfl⟩
  · cases appended

structure Update where
  set : Doc := Doc.empty
  inc : List (String × ℚ) := []
  push : List (String × Pushed) := []

namespace Update

/-- `$inc` starts an absent field at the amount and refuses any other type. -/
def applyInc (d : Doc) (entry : String × ℚ) : Option Doc :=
  match d entry.1 with
  | none => some (d.set entry.1 (.num entry.2))
  | some (.num q) => some (d.set entry.1 (.num (q + entry.2)))
  | some _ => none

/-- `$push` starts an absent field as a list of one and refuses what is no list. -/
def applyPush (d : Doc) (entry : String × Pushed) : Option Doc :=
  match d entry.1 with
  | none => some (d.set entry.1 entry.2.alone)
  | some stored => (entry.2.onto stored).map (d.set entry.1)

/-- Two operators of one update document may not name the same field. -/
def conflicting (u : Update) : Bool :=
  u.inc.any (fun entry => u.set.has entry.1) || u.push.any (fun entry => u.set.has entry.1)

def apply (u : Update) (d : Doc) : Option Doc :=
  if u.conflicting then none
  else do
    let incremented ← u.inc.foldlM applyInc (d.update u.set)
    u.push.foldlM applyPush incremented

def ofSet (fields : Doc) : Update := { set := fields }

@[simp] theorem apply_ofSet (fields d : Doc) : (ofSet fields).apply d = some (d.update fields) :=
  rfl

variable {d' : Doc}

theorem applyInc_other {entry : String × ℚ} (success : applyInc d entry = some d')
    (other : entry.1 ≠ field) : d' field = d field := by
  unfold applyInc at success
  split at success
  · cases success
    exact Doc.set_other d _ (Ne.symm other)
  · cases success
    exact Doc.set_other d _ (Ne.symm other)
  · cases success

theorem applyPush_other {entry : String × Pushed} (success : applyPush d entry = some d')
    (other : entry.1 ≠ field) : d' field = d field := by
  unfold applyPush at success
  split at success
  · cases success
    exact Doc.set_other d _ (Ne.symm other)
  · obtain ⟨appended, _, rfl⟩ := Option.map_eq_some_iff.mp success
    exact Doc.set_other d _ (Ne.symm other)

/-- A loop of one-field changes leaves the fields it does not name alone. -/
theorem foldlM_other {β : Type} {step : Doc → String × β → Option Doc}
    (each : ∀ d d' entry, step d entry = some d' → entry.1 ≠ field → d' field = d field) {entries : List (String × β)}
    (success : entries.foldlM step d = some d') (others : ∀ entry ∈ entries, entry.1 ≠ field) : d' field = d field := by
  induction entries generalizing d with
  | nil =>
    cases success
    rfl
  | cons entry rest ih =>
    rw [List.foldlM_cons, Option.bind_eq_bind, Option.bind_eq_some_iff] at success
    obtain ⟨middle, first, success⟩ := success
    rw [ih success fun e member => others e (by simp [member])]
    exact each d middle entry first (others entry (by simp))

variable {u : Update}

section

/-- A field named by no increment and no push is set by `$set` or kept. -/
theorem apply_field (success : u.apply d = some d') (noInc : ∀ entry ∈ u.inc, entry.1 ≠ field)
    (noPush : ∀ entry ∈ u.push, entry.1 ≠ field) : d' field = (u.set field).or (d field) := by
  unfold apply at success
  split at success
  · cases success
  · rw [Option.bind_eq_bind, Option.bind_eq_some_iff] at success
    obtain ⟨middle, incremented, pushed⟩ := success
    rw [foldlM_other (fun _ _ _ => applyPush_other) pushed noPush,
      foldlM_other (fun _ _ _ => applyInc_other) incremented noInc, Doc.update_apply]

theorem applyInc_same {amount : ℚ} (success : applyInc d (field, amount) = some d') :
    ∃ q, (d field = none ∧ q = 0 ∨ d field = some (.num q)) ∧ d' field = some (.num (q + amount)) := by
  unfold applyInc at success
  split at success
  · next absent =>
    cases success
    refine ⟨0, .inl ⟨absent, rfl⟩, ?_⟩
    rw [Doc.set_same, zero_add]
  · next q stored =>
    cases success
    exact ⟨q, .inr stored, Doc.set_same _ _ _⟩
  · cases success

/-- A field that one increment names, and nothing else of the update, grows by it;
an absent field counts as zero. -/
theorem apply_inc {amount : ℚ} {front back : List (String × ℚ)} (success : u.apply d = some d')
    (split : u.inc = front ++ (field, amount) :: back)
    (once : ∀ entry ∈ front ++ back, entry.1 ≠ field) (noPush : ∀ entry ∈ u.push, entry.1 ≠ field) :
    ∃ q, (d field = none ∧ q = 0 ∨ d field = some (.num q)) ∧ d' field = some (.num (q + amount)) := by
  unfold apply at success
  split at success
  · cases success
  · next compatible =>
    have notSet : u.set field = none := by
      have named : (field, amount) ∈ u.inc := by rw [split]; simp
      by_contra present
      refine compatible ?_
      simp only [conflicting, Bool.or_eq_true, List.any_eq_true]
      exact .inl ⟨_, named, by simpa [Doc.has, Option.isSome_iff_ne_none] using present⟩
    rw [Option.bind_eq_bind, Option.bind_eq_some_iff] at success
    obtain ⟨incremented, incs, pushed⟩ := success
    rw [split, List.foldlM_append, Option.bind_eq_bind, Option.bind_eq_some_iff] at incs
    obtain ⟨before, fronts, incs⟩ := incs
    rw [List.foldlM_cons, Option.bind_eq_bind, Option.bind_eq_some_iff] at incs
    obtain ⟨after, here, backs⟩ := incs
    obtain ⟨q, start, grown⟩ := applyInc_same here
    have beforeEq : before field = d field := by
      rw [foldlM_other (fun _ _ _ => applyInc_other) fronts
        (fun entry member => once entry (by simp [member])), Doc.update_apply, notSet]
      rfl
    rw [beforeEq] at start
    refine ⟨q, start, ?_⟩
    rw [foldlM_other (fun _ _ _ => applyPush_other) pushed noPush,
      foldlM_other (fun _ _ _ => applyInc_other) backs (fun entry member => once entry (by simp [member]))]
    exact grown

/-- What `$set` names is stored as it is named. -/
theorem apply_set {v : Value} (success : u.apply d = some d') (named : u.set field = some v) : d' field = some v := by
  have compatible : u.conflicting = false := by
    unfold apply at success
    split at success
    · cases success
    · next h => simpa using h
  simp only [conflicting, Bool.or_eq_false_iff, List.any_eq_false, Doc.has] at compatible
  have noInc : ∀ entry ∈ u.inc, entry.1 ≠ field := by
    rintro entry member rfl
    exact compatible.1 entry member (by rw [named, Option.isSome_some])
  have noPush : ∀ entry ∈ u.push, entry.1 ≠ field := by
    rintro entry member rfl
    exact compatible.2 entry member (by rw [named, Option.isSome_some])
  rw [apply_field success noInc noPush, named, Option.some_or]

/-- A field that one push names, and nothing else of the update. -/
theorem apply_push {pushed : Pushed} (success : u.apply d = some d')
    (only : u.push = [(field, pushed)]) (noInc : ∀ entry ∈ u.inc, entry.1 ≠ field) :
    d field = none ∧ d' field = some pushed.alone ∨
      ∃ stored grown, d field = some stored ∧ pushed.onto stored = some grown ∧ d' field = some grown := by
  unfold apply at success
  split at success
  · cases success
  · next compatible =>
    have notSet : u.set field = none := by
      by_contra present
      refine compatible ?_
      simp only [conflicting, only, Bool.or_eq_true, List.any_cons, List.any_nil]
      exact .inr (.inl (by simpa [Doc.has, Option.isSome_iff_ne_none] using present))
    rw [Option.bind_eq_bind, Option.bind_eq_some_iff] at success
    obtain ⟨incremented, incs, success⟩ := success
    have before : incremented field = d field := by
      rw [foldlM_other (fun _ _ _ => applyInc_other) incs noInc, Doc.update_apply, notSet]
      rfl
    rw [only, List.foldlM_cons, Option.bind_eq_bind, Option.bind_eq_some_iff] at success
    obtain ⟨after, pushedEq, ⟨⟩⟩ := success
    unfold applyPush at pushedEq
    split at pushedEq
    · next absent =>
      cases pushedEq
      exact .inl ⟨before ▸ absent, Doc.set_same _ _ _⟩
    · next stored present =>
      obtain ⟨grown, appended, rfl⟩ := Option.map_eq_some_iff.mp pushedEq
      exact .inr ⟨stored, grown, before ▸ present, appended, Doc.set_same _ _ _⟩

end

end Update

/-- What the database itself can refuse. -/
inductive WriteFault where
  | duplicateKey (field : String)
  | typeMismatch
  deriving DecidableEq, Repr

/-- A unique index. A sparse one leaves documents without the field alone; any
other one counts them as holding null. -/
structure UniqueIndex where
  field : String
  sparse : Bool := true
  deriving DecidableEq, Repr

namespace Collection

/-- The index entries of `d` and of a stored document are the same. -/
def sameEntry (index : UniqueIndex) (d stored : Doc) : Bool :=
  if index.sparse then d.has index.field && stored index.field == d index.field
  else stored.get index.field == d.get index.field

/-- The unique index on which `d` collides with a stored document. -/
def collision (indexed : List UniqueIndex) (docs : List Doc) (d : Doc) : Option UniqueIndex :=
  indexed.find? fun index => docs.any (sameEntry index d)

def replaceFirst (p : Doc → Bool) (new : Doc) : List Doc → List Doc
  | [] => []
  | d :: rest => if p d then new :: rest else d :: replaceFirst p new rest

def insertOne (indexed : List UniqueIndex) (d : Doc) (docs : List Doc) : Except WriteFault (List Doc) :=
  match collision indexed docs d with
  | some index => .error (.duplicateKey index.field)
  | none => .ok (docs ++ [d])

/-- Change the first matching document; the answer holds it before and after. -/
def updateOne (indexed : List UniqueIndex) (f : Filter) (u : Update) (docs : List Doc) :
    Except WriteFault (Option (Doc × Doc) × List Doc) :=
  match docs.find? f.holds with
  | none => .ok (none, docs)
  | some old =>
    match u.apply old with
    | none => .error .typeMismatch
    | some new =>
      match collision indexed (docs.eraseP f.holds) new with
      | some index => .error (.duplicateKey index.field)
      | none => .ok (some (old, new), replaceFirst f.holds new docs)

/-- Change every matching document. Callers name no uniquely indexed field. -/
def updateMany (f : Filter) (u : Update) (docs : List Doc) : Except WriteFault (List Doc) :=
  match docs.mapM fun d => if f.holds d then u.apply d else some d with
  | some changed => .ok changed
  | none => .error .typeMismatch

/-- Set the same fields in every matching document. -/
def setMany (f : Filter) (fields : Doc) (docs : List Doc) : List Doc :=
  docs.map fun d => if f.holds d then d.update fields else d

/-- Replace the first matching document or insert the new one. -/
def upsert (f : Filter) (new : Option Doc → Doc) (docs : List Doc) : List Doc :=
  match docs.find? f.holds with
  | none => docs ++ [new none]
  | some old => replaceFirst f.holds (new (some old)) docs

def deleteOne (f : Filter) (docs : List Doc) : List Doc := docs.eraseP f.holds

def deleteMany (f : Filter) (docs : List Doc) : List Doc := docs.filter fun d => !f.holds d

variable {p : Doc → Bool} {docs : List Doc} {old : Doc}

theorem find_split (found : docs.find? p = some old) :
    ∃ front back, docs = front ++ old :: back ∧ p old = true ∧ ∀ d ∈ front, p d = false := by
  obtain ⟨matched, front, back, rfl, before⟩ := List.find?_eq_some_iff_append.mp found
  refine ⟨front, back, rfl, matched, ?_⟩
  intro d member
  simpa using before d member

variable {new : Doc}

theorem replaceFirst_split {front back : List Doc} (matched : p old = true)
    (before : ∀ d ∈ front, p d = false) : replaceFirst p new (front ++ old :: back) = front ++ new :: back := by
  induction front with
  | nil => simp [replaceFirst, matched]
  | cons d rest ih =>
    have head : p d = false := before d (by simp)
    have tail := ih fun e member => before e (by simp [member])
    simp [replaceFirst, head, tail]

theorem mem_replaceFirst (member : d ∈ replaceFirst p new docs) : d ∈ docs ∨ d = new := by
  induction docs with
  | nil => simp [replaceFirst] at member
  | cons e rest ih =>
    simp only [replaceFirst] at member
    split at member
    · simp only [List.mem_cons] at member ⊢
      tauto
    · simp only [List.mem_cons] at member ⊢
      obtain rfl | later := member
      · exact .inl (.inl rfl)
      · obtain old | eq := ih later
        · exact .inl (.inr old)
        · exact .inr eq

theorem map_replaceFirst {α : Type} {f : Doc → α} (found : docs.find? p = some old)
    (same : f new = f old) : (replaceFirst p new docs).map f = docs.map f := by
  obtain ⟨front, back, rfl, matched, before⟩ := find_split found
  rw [replaceFirst_split matched before]
  simp [same]

theorem mem_replaceFirst_of_find (found : docs.find? p = some old) : new ∈ replaceFirst p new docs := by
  obtain ⟨front, back, rfl, matched, before⟩ := find_split found
  rw [replaceFirst_split matched before]
  simp

theorem find_replaceFirst_other {q : Doc → Bool} (found : docs.find? p = some old)
    (oldOther : q old = false) (newOther : q new = false) : (replaceFirst p new docs).find? q = docs.find? q := by
  obtain ⟨front, back, rfl, matched, before⟩ := find_split found
  rw [replaceFirst_split matched before, List.find?_append, List.find?_append, List.find?_cons,
    List.find?_cons, oldOther, newOther]

theorem find_replaceFirst_same (found : docs.find? p = some old) (matched : p new = true) :
    (replaceFirst p new docs).find? p = some new := by
  obtain ⟨front, back, rfl, oldMatched, before⟩ := find_split found
  have nobody : front.find? p = none := by
    rw [List.find?_eq_none]
    intro d member
    simp [before d member]
  rw [replaceFirst_split oldMatched before, List.find?_append, nobody, Option.none_or, List.find?_cons_of_pos matched]

theorem find_eraseP_other {q : Doc → Bool} (apart : ∀ d ∈ docs, p d = true → q d = false) :
    (docs.eraseP p).find? q = docs.find? q := by
  induction docs with
  | nil => rfl
  | cons d rest ih =>
    have tail := ih fun e member => apart e (by simp [member])
    by_cases held : p d = true
    · rw [List.eraseP_cons_of_pos held, List.find?_cons, apart d (by simp) held]
    · rw [List.eraseP_cons_of_neg held, List.find?_cons, List.find?_cons, tail]

theorem insertOne_ok {indexed : List UniqueIndex} {after : List Doc}
    (success : insertOne indexed d docs = .ok after) : collision indexed docs d = none ∧ after = docs ++ [d] := by
  unfold insertOne at success
  split at success
  · cases success
  · next free =>
    cases success
    exact ⟨free, rfl⟩

/-- A successful single-document update changed nothing, or replaced the first
match by its updated form, which collides with no other document. -/
theorem updateOne_ok {indexed : List UniqueIndex} {f : Filter} {u : Update} {after : List Doc}
    {answer : Option (Doc × Doc)} (success : updateOne indexed f u docs = .ok (answer, after)) :
    (docs.find? f.holds = none ∧ answer = none ∧ after = docs) ∨
    ∃ old new, docs.find? f.holds = some old ∧ u.apply old = some new ∧
      collision indexed (docs.eraseP f.holds) new = none ∧
      answer = some (old, new) ∧ after = replaceFirst f.holds new docs := by
  unfold updateOne at success
  split at success
  · next absent =>
    cases success
    exact .inl ⟨absent, rfl, rfl⟩
  · next old found =>
    split at success
    · cases success
    · next new applied =>
      split at success
      · cases success
      · next free =>
        cases success
        exact .inr ⟨old, new, found, applied, free, rfl, rfl⟩

variable {place : Nat}

/-- A search and the position it stops at. -/
theorem find_of_findIdx (located : docs.findIdx? p = some place) : docs.find? p = docs[place]? := by
  induction docs generalizing place with
  | nil => cases located
  | cons d rest ih =>
    rw [List.findIdx?_cons] at located
    by_cases matched : p d = true
    · rw [if_pos matched] at located
      cases located
      rw [List.find?_cons_of_pos matched]
      rfl
    · rw [if_neg matched] at located
      obtain ⟨later, found, rfl⟩ := Option.map_eq_some_iff.mp located
      rw [List.find?_cons_of_neg matched, List.getElem?_cons_succ]
      exact ih found

theorem replaceFirst_of_findIdx (located : docs.findIdx? p = some place) :
    replaceFirst p new docs = docs.set place new := by
  induction docs generalizing place with
  | nil => cases located
  | cons d rest ih =>
    rw [List.findIdx?_cons] at located
    by_cases matched : p d = true
    · rw [if_pos matched] at located
      cases located
      rw [replaceFirst, if_pos matched, List.set_cons_zero]
    · rw [if_neg matched] at located
      obtain ⟨later, found, rfl⟩ := Option.map_eq_some_iff.mp located
      rw [replaceFirst, if_neg matched, List.set_cons_succ, ih found]

/-- A change of a document that a search does not notice. -/
theorem findIdx_set (stored : docs[place]? = some old) (same : p new = p old) :
    (docs.set place new).findIdx? p = docs.findIdx? p := by
  induction docs generalizing place with
  | nil => cases stored
  | cons d rest ih =>
    cases place with
    | zero =>
      cases stored
      rw [List.set_cons_zero, List.findIdx?_cons, List.findIdx?_cons, same]
    | succ place =>
      rw [List.set_cons_succ, List.findIdx?_cons, List.findIdx?_cons, ih stored]

end Collection

end StockVerification.Foundation
