import StockVerification.Foundation.Collection

/-!
# Writes of single rows

Several collections are kept up to date by a program of single-row writes. What an
upsert sets may depend on what is stored when it runs. A program that runs outside a
transaction can stop between two writes, and the writes before stay.

The rows of one owner evolve by themselves where every write of a program is confined to
them: it finds, sets and reads rows of that owner only.
-/
namespace StockVerification.Foundation

abbrev Tables (κ : Type) := κ → List Doc

/-- What an upsert does with the stored rows: an update, nothing, or it stops on a value
it cannot convert. -/
inductive Planned where
  | update (u : Update)
  | nothing
  | refused

inductive RowWrite (κ : Type) where
  /-- `seed` holds the equalities of the query, from which a missing row is made. -/
  | upsert (table : κ) (query : Filter) (seed : Doc) (plan : Tables κ → Planned)
  | delete (table : κ) (query : Filter)

namespace Collection

/-- Update the first row that matches, or a new row made of the query. -/
def upsertOne (query : Filter) (seed : Doc) (u : Update) (docs : List Doc) : Option (List Doc) :=
  match docs.find? query.holds with
  | some old => (u.apply old).map fun new => replaceFirst query.holds new docs
  | none => (u.apply seed).map fun new => docs ++ [new]

variable {docs after : List Doc} {u : Update} {seed : Doc}

/-- What an upsert can do. -/
theorem upsertOne_some {query : Filter} (success : upsertOne query seed u docs = some after) :
    (∃ old new, docs.find? query.holds = some old ∧ u.apply old = some new ∧
      after = replaceFirst query.holds new docs) ∨
    ∃ new, docs.find? query.holds = none ∧ u.apply seed = some new ∧ after = docs ++ [new] := by
  unfold upsertOne at success
  split at success
  · next old found =>
    obtain ⟨new, applied, rfl⟩ := Option.map_eq_some_iff.mp success
    exact .inl ⟨old, new, found, applied, rfl⟩
  · next absent =>
    obtain ⟨new, applied, rfl⟩ := Option.map_eq_some_iff.mp success
    exact .inr ⟨new, absent, applied, rfl⟩

/-- A row after an upsert was there before, or comes from the row the query found or from
the seed. -/
theorem mem_upsertOne {query : Filter} {d : Doc}
    (success : upsertOne query seed u docs = some after) (member : d ∈ after) :
    d ∈ docs ∨ ∃ old, (old ∈ docs ∧ query.holds old = true ∨ old = seed) ∧ u.apply old = some d := by
  rcases upsertOne_some success with ⟨old, new, found, applied, rfl⟩ | ⟨new, _, applied, rfl⟩
  · rcases mem_replaceFirst member with stays | rfl
    · exact .inl stays
    · refine .inr ⟨old, .inl ⟨List.mem_of_find?_eq_some found, ?_⟩, applied⟩
      exact List.find?_some found
  · rcases List.mem_append.mp member with stays | added
    · exact .inl stays
    · rw [List.mem_singleton] at added
      exact .inr ⟨seed, .inr rfl, added ▸ applied⟩

/-- The row of an upsert is the row its query finds afterwards. -/
theorem upsertOne_find {query : Filter} (success : upsertOne query seed u docs = some after)
    (makes : ∀ old new, u.apply old = some new → query.holds new = true) :
    ∃ new, u.apply ((docs.find? query.holds).getD seed) = some new ∧ after.find? query.holds = some new := by
  rcases upsertOne_some success with ⟨old, new, found, applied, rfl⟩ | ⟨new, absent, applied, rfl⟩
  · refine ⟨new, by rw [found]; exact applied, ?_⟩
    exact find_replaceFirst_same found (makes old new applied)
  · refine ⟨new, by rw [absent]; exact applied, ?_⟩
    rw [List.find?_append, absent, Option.none_or, List.find?_cons_of_pos (makes seed new applied)]

theorem upsertOne_find_other {query : Filter} {other : Doc → Bool} (success : upsertOne query seed u docs = some after)
    (oldOther : ∀ d ∈ docs, query.holds d = true → other d = false)
    (newOther : ∀ old new, u.apply old = some new → other new = false) : after.find? other = docs.find? other := by
  rcases upsertOne_some success with ⟨old, new, found, applied, rfl⟩ | ⟨new, absent, applied, rfl⟩
  · have held := oldOther old (List.mem_of_find?_eq_some found) (List.find?_some found)
    exact find_replaceFirst_other found held (newOther old new applied)
  · rw [List.find?_append, List.find?_cons_of_neg (by simp [newOther seed new applied]), List.find?_nil, Option.or_none]

end Collection

namespace Tables

variable {κ : Type} [DecidableEq κ]

def put (t : Tables κ) (table : κ) (rows : List Doc) : Tables κ := Function.update t table rows

@[simp] theorem put_same (t : Tables κ) (table : κ) (rows : List Doc) : t.put table rows table = rows :=
  Function.update_self ..

theorem put_other (t : Tables κ) {table other : κ} (rows : List Doc) (different : other ≠ table) :
    t.put table rows other = t other :=
  Function.update_of_ne different ..

/-- The rows that satisfy a predicate, in every collection. -/
def only (own : Doc → Bool) (t : Tables κ) : Tables κ := fun table => (t table).filter own

end Tables

namespace RowWrite

variable {κ : Type}

def table : RowWrite κ → κ
  | .upsert table .. | .delete table _ => table

def query : RowWrite κ → Filter
  | .upsert _ query .. | .delete _ query => query

variable [DecidableEq κ]

def run (w : RowWrite κ) (t : Tables κ) : Option (Tables κ) :=
  match w with
  | .delete table query => some (t.put table (Collection.deleteOne query (t table)))
  | .upsert table query seed plan =>
    match plan t with
    | .refused => none
    | .nothing => some t
    | .update u => (Collection.upsertOne query seed u (t table)).map (t.put table)

def runAll (writes : List (RowWrite κ)) (t : Tables κ) : Option (Tables κ) :=
  writes.foldlM (fun now w => w.run now) t

/-- The collections after at most `n` writes; a refused write ends it as well. -/
def runUntil : Nat → List (RowWrite κ) → Tables κ → Tables κ
  | 0, _, t => t
  | _, [], t => t
  | n + 1, w :: rest, t =>
    match w.run t with
    | none => t
    | some next => runUntil n rest next

@[simp] theorem runAll_nil (t : Tables κ) : runAll [] t = some t := rfl

theorem runAll_cons (w : RowWrite κ) (rest : List (RowWrite κ)) (t : Tables κ) :
    runAll (w :: rest) t = (w.run t).bind (runAll rest) := rfl

theorem runAll_append (front back : List (RowWrite κ)) (t : Tables κ) :
    runAll (front ++ back) t = (runAll front t).bind (runAll back) := by
  induction front generalizing t with
  | nil => rfl
  | cons w rest ih =>
    rw [List.cons_append, runAll_cons, runAll_cons]
    cases w.run t with
    | none => rfl
    | some next => exact ih next

variable {t after : Tables κ}

/-- What every write keeps, a program keeps. -/
theorem runAll_invariant {P : Tables κ → Prop} {writes : List (RowWrite κ)} (success : runAll writes t = some after)
    (init : P t) (kept : ∀ w ∈ writes, ∀ s s', P s → w.run s = some s' → P s') : P after := by
  induction writes generalizing t with
  | nil =>
    cases success
    exact init
  | cons w rest ih =>
    rw [runAll_cons, Option.bind_eq_some_iff] at success
    obtain ⟨next, first, success⟩ := success
    exact ih success (kept w (by simp) t next init first) fun w' member => kept w' (by simp [member])

/-- A collection no write names stays as it is. -/
theorem run_other {w : RowWrite κ} {table : κ} (success : w.run t = some after)
    (other : table ≠ w.table) : after table = t table := by
  cases w with
  | delete target query =>
    cases success
    exact Tables.put_other t _ other
  | upsert target query seed plan =>
    simp only [run] at success
    split at success
    · cases success
    · cases success
      rfl
    · obtain ⟨rows, _, rfl⟩ := Option.map_eq_some_iff.mp success
      exact Tables.put_other t _ other

theorem runAll_other {writes : List (RowWrite κ)} {table : κ} (success : runAll writes t = some after)
    (others : ∀ w ∈ writes, table ≠ w.table) : after table = t table := by
  have kept : ∀ w ∈ writes, ∀ s s', s table = t table → w.run s = some s' → s' table = t table := by
    intro w member s s' before ran
    rw [run_other ran (others w member), before]
  exact runAll_invariant (P := fun s => s table = t table) success rfl kept

/-- What a write can do to its collection. -/
theorem run_some {w : RowWrite κ} (success : w.run t = some after) :
    after = t ∨ (w = .delete w.table w.query ∧ after = t.put w.table (Collection.deleteOne w.query (t w.table))) ∨
    ∃ seed plan u rows, w = .upsert w.table w.query seed plan ∧ plan t = .update u ∧
      Collection.upsertOne w.query seed u (t w.table) = some rows ∧ after = t.put w.table rows := by
  cases w with
  | delete target query =>
    cases success
    exact .inr (.inl ⟨rfl, rfl⟩)
  | upsert target query seed plan =>
    simp only [run] at success
    split at success
    · cases success
    · cases success
      exact .inl rfl
    · next u planned =>
      obtain ⟨rows, stored, rfl⟩ := Option.map_eq_some_iff.mp success
      exact .inr (.inr ⟨seed, plan, u, rows, rfl, planned, stored, rfl⟩)

end RowWrite

namespace Collection

variable {docs : List Doc} {own : Doc → Bool}

/-- A search that only an owner's rows can answer looks at the owner's rows. -/
theorem find_filter {p : Doc → Bool} (finds : ∀ d ∈ docs, p d = true → own d = true) :
    (docs.filter own).find? p = docs.find? p := by
  induction docs with
  | nil => rfl
  | cons d rest ih =>
    have tail := ih fun e member => finds e (by simp [member])
    by_cases held : p d = true
    · rw [List.filter_cons_of_pos (finds d (by simp) held), List.find?_cons_of_pos held, List.find?_cons_of_pos held]
    · rw [List.find?_cons_of_neg held, ← tail]
      cases owned : own d <;> simp [owned, held]

/-- An upsert that finds and makes rows of one owner is the upsert on the owner's rows. -/
theorem upsertOne_filter {query : Filter} {seed : Doc} {u : Update}
    (finds : ∀ d ∈ docs, query.holds d = true → own d = true)
    (makes : ∀ d new, (d ∈ docs ∧ query.holds d = true ∨ d = seed) → u.apply d = some new → own new = true) :
    upsertOne query seed u (docs.filter own) = (upsertOne query seed u docs).map (·.filter own) ∧
    ∀ after, upsertOne query seed u docs = some after →
      (after.filter fun d => !own d) = docs.filter fun d => !own d := by
  have sameFind := find_filter finds
  cases found : docs.find? query.holds with
  | none =>
    rw [upsertOne, upsertOne, sameFind, found]
    constructor
    · cases applied : u.apply seed with
      | none => rfl
      | some new =>
        have owned := makes seed new (.inr rfl) applied
        simp [owned]
    · intro after success
      obtain ⟨new, applied, rfl⟩ := Option.map_eq_some_iff.mp success
      have owned := makes seed new (.inr rfl) applied
      simp [owned]
  | some old =>
    obtain ⟨front, back, rfl, matched, before⟩ := find_split found
    have oldOwned : own old = true := finds old (by simp) matched
    rw [upsertOne, upsertOne, sameFind, found]
    have beforeOwned : ∀ d ∈ front.filter own, query.holds d = false :=
      fun d member => before d (List.mem_of_mem_filter member)
    have makesNew : ∀ new, u.apply old = some new → own new = true :=
      fun new applied => makes old new (.inl ⟨by simp, matched⟩) applied
    constructor
    · cases applied : u.apply old with
      | none => simp only [applied, Option.map_none]
      | some new =>
        have owned := makesNew new applied
        simp only [applied, Option.map_some, List.filter_append, List.filter_cons, oldOwned, if_true]
        rw [replaceFirst_split matched beforeOwned, replaceFirst_split matched before]
        simp [owned]
    · intro after success
      obtain ⟨new, applied, rfl⟩ := Option.map_eq_some_iff.mp success
      have owned := makesNew new applied
      rw [replaceFirst_split matched before]
      simp [owned, oldOwned]

theorem deleteOne_filter {query : Filter} (finds : ∀ d ∈ docs, query.holds d = true → own d = true) :
    deleteOne query (docs.filter own) = (deleteOne query docs).filter own ∧
    ((deleteOne query docs).filter fun d => !own d) = docs.filter fun d => !own d := by
  unfold deleteOne
  induction docs with
  | nil => exact ⟨rfl, rfl⟩
  | cons d rest ih =>
    obtain ⟨sameOwn, sameOther⟩ := ih fun e member => finds e (by simp [member])
    by_cases held : query.holds d = true
    · have owned : own d = true := finds d (by simp) held
      simp [held, owned]
    · cases owned : own d <;> simp [held, owned, sameOwn, sameOther]

end Collection

namespace RowWrite

variable {κ : Type} [DecidableEq κ]

/-- The write finds and makes rows of one owner only. -/
def Within (own : Doc → Bool) (t : Tables κ) : RowWrite κ → Prop
  | .delete table query => ∀ d ∈ t table, query.holds d = true → own d = true
  | .upsert table query seed plan =>
    (∀ d ∈ t table, query.holds d = true → own d = true) ∧
    ∀ u, plan t = .update u →
      ∀ d new, (d ∈ t table ∧ query.holds d = true ∨ d = seed) → u.apply d = some new → own new = true

def ReadsOnly (own : Doc → Bool) (t : Tables κ) : RowWrite κ → Prop
  | .delete .. => True
  | .upsert _ _ _ plan => plan (t.only own) = plan t

/-- It reads no other rows either. -/
structure Confined (own : Doc → Bool) (t : Tables κ) (w : RowWrite κ) : Prop where
  within : Within own t w
  reads : ReadsOnly own t w

theorem only_put (own : Doc → Bool) (t : Tables κ) (table : κ) (rows : List Doc) :
    (t.put table rows).only own = (t.only own).put table (rows.filter own) := by
  funext other
  by_cases here : other = table
  · subst here
    simp [Tables.only]
  · simp [Tables.only, Tables.put_other _ _ here]

theorem put_only (own : Doc → Bool) (t : Tables κ) (table : κ) :
    (t.only own).put table ((t table).filter own) = t.only own :=
  Function.update_eq_self ..

variable {own : Doc → Bool} {t after : Tables κ} {w : RowWrite κ}

/-- A write within an owner's rows leaves the other rows alone. -/
theorem Within.others (within : Within own t w) (ran : w.run t = some after) :
    after.only (fun d => !own d) = t.only fun d => !own d := by
  rcases run_some ran with rfl | ⟨shape, rfl⟩ | ⟨seed, plan, u, rows, shape, planned, stored, rfl⟩
  · rfl
  · rw [shape] at within
    rw [only_put, (Collection.deleteOne_filter within).2, put_only]
  · rw [shape] at within
    rw [only_put, (Collection.upsertOne_filter within.1 (within.2 u planned)).2 rows stored, put_only]

/-- A confined write acts on the owner's rows. -/
theorem Confined.run (confined : Confined own t w) : w.run (t.only own) = (w.run t).map (Tables.only own) := by
  obtain ⟨within, reads⟩ := confined
  cases w with
  | delete table query =>
    rw [RowWrite.run, RowWrite.run, Option.map_some, only_put, ← (Collection.deleteOne_filter within).1]
    rfl
  | upsert table query seed plan =>
    rw [ReadsOnly] at reads
    simp only [RowWrite.run, reads]
    cases planned : plan t with
    | refused | nothing => rfl
    | update u =>
      have sameOwn := (Collection.upsertOne_filter within.1 (within.2 u planned)).1
      change Option.map _ (Collection.upsertOne query seed u ((t table).filter own)) = _
      rw [sameOwn, Option.map_map, Option.map_map]
      congr 1
      funext rows
      exact (only_put own t table rows).symm

variable {P : Tables κ → Prop} {writes : List (RowWrite κ)} (init : P t)
  (kept : ∀ w ∈ writes, ∀ s s', P s → w.run s = some s' → P s')
include init kept

theorem runAll_within (within : ∀ w ∈ writes, ∀ s, P s → Within own s w) (ran : runAll writes t = some after) :
    after.only (fun d => !own d) = t.only fun d => !own d := by
  have both := runAll_invariant (P := fun s => P s ∧ s.only (fun d => !own d) = t.only fun d => !own d) ran ⟨init, rfl⟩
    fun w member s s' before ran =>
      ⟨kept w member s s' before.1 ran, ((within w member s before.1).others ran).trans before.2⟩
  exact both.2

/-- A program of confined writes acts on the owner's rows. -/
theorem runAll_confined (confined : ∀ w ∈ writes, ∀ s, P s → Confined own s w) :
    runAll writes (t.only own) = (runAll writes t).map (Tables.only own) := by
  induction writes generalizing t with
  | nil => rfl
  | cons w rest ih =>
    rw [runAll_cons, runAll_cons, (confined w (by simp) t init).run]
    cases first : w.run t with
    | none => rfl
    | some next =>
      exact ih (kept w (by simp) t next init first) (fun w' member => kept w' (by simp [member]))
        fun w' member => confined w' (by simp [member])

end RowWrite

end StockVerification.Foundation
