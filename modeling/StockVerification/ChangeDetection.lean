import Mathlib.Data.Rat.Floor
import StockVerification.Foundation.Interleaving
import StockVerification.Foundation.Tables

/-!
# Change detection

Source: backend/services/change_detection_sync.py:70-312.

A pass reads the rows that were modified since the last successful pass ended, updates the stored
products by barcode one operation after the other, and moves the watermark to its own end. It may
fail between any two of these. Modifications of the ERP fall anywhere. The modified-date column is
configured. Statistics are not modelled.
-/
namespace StockVerification

open Foundation

/-- A row of the ERP's items table, with the number of the modification that wrote it last. -/
structure ProductRow where
  itemCode : String
  itemName : Option String
  barcode : Option String
  mrp : Option ℚ
  modifiedAt : Int
  commit : Nat := 0
  deriving DecidableEq

structure StoredProduct where
  itemCode : String
  itemName : Option String
  barcode : Option String
  mrp : Option ℚ
  lastUpdated : Option Int := none
  deriving DecidableEq

structure ProductChange where
  itemName : Option String
  barcode : Option String
  mrp : Option ℚ

/-- The ERP's rows, the stored products, the watermark and the clock. Counted are the modifications,
how many of them the latest query could see, and for each successful pass how many its own could. -/
structure ChangeState where
  rows : List ProductRow
  products : List StoredProduct
  lastSync : Option Int := none
  clock : Int := 0
  commits : Nat := 0
  queried : Nat := 0
  finished : List Nat := []

def ProductRow.hasBarcode (row : ProductRow) : Bool := row.barcode.any (· != "")

/-- The update of `_build_update_operations` for a row, on a product. -/
def ProductRow.applyTo (row : ProductRow) (builtAt : Int) (product : StoredProduct) : StoredProduct :=
  if product.barcode = row.barcode then
    { product with
      itemName := row.itemName.or product.itemName
      mrp := row.mrp.or product.mrp
      lastUpdated := some builtAt }
  else product

namespace ChangeState

/-- The condition of `_get_products_with_changes_query`. -/
def due (s : ChangeState) (row : ProductRow) : Bool := s.lastSync.all fun lastSync => lastSync ≤ row.modifiedAt

def operations (s : ChangeState) : List ProductRow := (s.rows.filter s.due).filter ProductRow.hasBarcode

def changed (s : ChangeState) (change : ProductChange) (row : ProductRow) : ProductRow :=
  { row with
    itemName := change.itemName
    barcode := change.barcode
    mrp := change.mrp
    modifiedAt := s.clock
    commit := s.commits + 1 }

def modify (s : ChangeState) (itemCode : String) (change : ProductChange) : ChangeState :=
  if itemCode ∈ s.rows.map ProductRow.itemCode then
    { s with
      rows := Table.modify ProductRow.itemCode itemCode (s.changed change) s.rows
      commits := s.commits + 1 }
  else s

def write (s : ChangeState) (row : ProductRow) (builtAt : Int) : ChangeState :=
  { s with products := s.products.map (row.applyTo builtAt) }

/-- `_finalize_sync`. -/
def finalize (s : ChangeState) (since : Nat) : ChangeState :=
  { s with lastSync := some s.clock, finished := s.finished ++ [since] }

end ChangeState

inductive ChangeRequest where
  | modify (itemCode : String) (change : ProductChange)
  | wait (time : Nat)
  | syncChanges

/-- A pass with operations left knows how many modifications its query could see. -/
inductive ChangeTask where
  | modify (itemCode : String) (change : ProductChange)
  | wait (time : Nat)
  | query
  | write (since : Nat) (builtAt : Int) (operations : List ProductRow)

def startChange : ChangeRequest → ChangeTask
  | .modify itemCode change => .modify itemCode change
  | .wait time => .wait time
  | .syncChanges => .query

variable (s : ChangeState)

/-- One atomic step. A pass without operations comes to its end at once. -/
def resumeChange : ChangeTask → ChangeState × Option ChangeTask
  | .modify itemCode change => (s.modify itemCode change, none)
  | .wait time => ({ s with clock := s.clock + time }, none)
  | .query => ({ s with queried := s.commits }, some (.write s.commits s.clock s.operations))
  | .write since builtAt (row :: rest) => (s.write row builtAt, some (.write since builtAt rest))
  | .write since _ [] => (s.finalize since, none)

abbrev ChangePasses := Concurrent ChangeState ChangeTask

def ChangePasses.step : ChangePasses → Move ChangeRequest → ChangePasses :=
  Concurrent.step (fun _ request => some (startChange request)) resumeChange

def Carries (product : StoredProduct) (row : ProductRow) : Prop :=
  product.itemName = row.itemName ∧ product.barcode = row.barcode ∧ product.mrp = row.mrp

def ChangeState.Carried (row : ProductRow) : Prop :=
  ∀ product ∈ s.products, product.itemCode = row.itemCode → Carries product row

/-- A modification leaves the barcode, gives a name and a price, and the barcode is the one that the
row's products have and no other row. -/
def ChangeState.keepsBarcode (itemCode : String) (change : ProductChange) : Bool :=
  change.itemName.isSome && change.mrp.isSome && change.barcode.any (· != "") &&
    s.rows.all (fun row => decide (row.itemCode = itemCode) == decide (row.barcode = change.barcode)) &&
    s.products.all fun product => product.itemCode != itemCode || product.barcode == change.barcode

/-- Modifications keep barcodes; a pass that ends finds no row modified since its query and before
its end; and a pass that writes a row modified since its query is the last to have queried. -/
def changesUndisturbed (c : ChangePasses) : Move ChangeRequest → Bool
  | .resume slot =>
    match c.task slot with
    | some (.modify itemCode change) => c.store.keepsBarcode itemCode change
    | some (.write since _ []) =>
      c.store.rows.all fun row => row.commit ≤ since || c.store.clock ≤ row.modifiedAt
    | some (.write _ _ (row :: _)) =>
      c.store.rows.all fun current =>
        current.itemCode != row.itemCode || current.commit == row.commit || c.store.queried < current.commit
    | _ => true
  | _ => true

/-- What a modified row has: all three figures, a barcode of its own, and products that carry it. -/
structure RowLinked (s : ChangeState) (row : ProductRow) : Prop where
  named : row.itemName.isSome = true
  priced : row.mrp.isSome = true
  barcode : row.hasBarcode = true
  stored : ∀ product ∈ s.products, product.itemCode = row.itemCode → product.barcode = row.barcode
  apart : ∀ other ∈ s.rows, other.itemCode ≠ row.itemCode → other.barcode ≠ row.barcode

/-- A modified row is carried by its products or due, and carried if a successful pass could see its
last modification. -/
structure ChangesFollow (s : ChangeState) : Prop where
  distinct : (s.rows.map ProductRow.itemCode).Nodup
  synced : ∀ lastSync ∈ s.lastSync, lastSync ≤ s.clock
  committed : ∀ row ∈ s.rows, row.commit ≤ s.commits
  queried : s.queried ≤ s.commits
  linked : ∀ row ∈ s.rows, row.commit ≠ 0 → RowLinked s row
  fresh : ∀ row ∈ s.rows, row.commit ≠ 0 → s.Carried row ∨ s.due row = true
  unread : ∀ row ∈ s.rows, s.queried < row.commit → s.due row = true
  finished : ∀ since ∈ s.finished, since ≤ s.queried ∧
    ∀ row ∈ s.rows, row.commit ≠ 0 → row.commit ≤ since → s.Carried row

/-- A row as a query has read it: the row of its code, or an older version of it. -/
structure ReadRow (s : ChangeState) (since : Nat) (row : ProductRow) : Prop where
  barcode : row.hasBarcode = true
  seen : row.commit ≤ since
  current : ∃ current ∈ s.rows, current.itemCode = row.itemCode ∧ current.barcode = row.barcode ∧
    (current.commit = row.commit → current = row)

/-- A pass still has to write what its query saw and the products do not carry. -/
def ChangeTask.Pending : ChangeTask → Prop
  | .write since _ operations => since ≤ s.queried ∧ (∀ row ∈ operations, ReadRow s since row) ∧
      ∀ row ∈ s.rows, row.commit ≠ 0 → row.commit ≤ since → s.Carried row ∨ row ∈ operations
  | _ => True

theorem ChangesFollow.unique {s : ChangeState} (follows : ChangesFollow s) {row other : ProductRow}
    (member : row ∈ s.rows) (otherMember : other ∈ s.rows) (same : row.itemCode = other.itemCode) : row = other :=
  List.inj_on_of_nodup_map follows.distinct member otherMember same

theorem ProductRow.applyTo_itemCode (row : ProductRow) (builtAt : Int) (product : StoredProduct) :
    (row.applyTo builtAt product).itemCode = product.itemCode := by
  unfold ProductRow.applyTo
  split
  · rfl
  · rfl

theorem ProductRow.applyTo_barcode (row : ProductRow) (builtAt : Int) (product : StoredProduct) :
    (row.applyTo builtAt product).barcode = product.barcode := by
  unfold ProductRow.applyTo
  split
  · rfl
  · rfl

theorem ProductRow.applyTo_carries {row : ProductRow} {product : StoredProduct} (builtAt : Int)
    (same : product.barcode = row.barcode) (named : row.itemName.isSome = true)
    (priced : row.mrp.isSome = true) : Carries (row.applyTo builtAt product) row := by
  rw [ProductRow.applyTo, if_pos same]
  refine ⟨?_, same, ?_⟩
  · exact Option.or_of_isSome named
  · exact Option.or_of_isSome priced

section

variable {s : ChangeState} {row : ProductRow} {builtAt : Int}

theorem RowLinked.write {modified : ProductRow} (linked : RowLinked s modified) :
    RowLinked (s.write row builtAt) modified := by
  refine { linked with stored := ?_ }
  intro product member itsCode
  obtain ⟨before, stands, rfl⟩ := List.mem_map.mp member
  rw [ProductRow.applyTo_itemCode] at itsCode
  rw [ProductRow.applyTo_barcode]
  exact linked.stored before stands itsCode

section

variable (follows : ChangesFollow s) {since : Nat} (read : ReadRow s since row)
  (quiet : ∀ current ∈ s.rows, current.itemCode = row.itemCode → current.commit = row.commit ∨ s.queried < current.commit)
include follows read quiet

/-- Where the row that is written is current, or not yet read by the latest query, every row that
the query could see stays carried, and the written one becomes so. -/
theorem ChangesFollow.carried_write {modified : ProductRow} (member : modified ∈ s.rows)
    (isModified : modified.commit ≠ 0) (seen : modified.commit ≤ s.queried)
    (before : s.Carried modified ∨ modified = row) : (s.write row builtAt).Carried modified := by
  have linked := follows.linked modified member isModified
  obtain ⟨current, stands, itsCode, itsBarcode, isRow⟩ := read.current
  intro product written ofModified
  obtain ⟨stored, wasStored, rfl⟩ := List.mem_map.mp written
  rw [ProductRow.applyTo_itemCode] at ofModified
  have barcode := linked.stored stored wasStored ofModified
  by_cases same : modified.itemCode = row.itemCode
  · have isCurrent : current = modified := follows.unique stands member (itsCode.trans same.symm)
    subst isCurrent
    rcases quiet current stands same with unchanged | unseen
    · have both := isRow unchanged
      subst both
      exact ProductRow.applyTo_carries builtAt barcode linked.named linked.priced
    · omega
  · have other : row.barcode ≠ modified.barcode := by
      rw [← itsBarcode]
      exact linked.apart current stands fun equal => same (equal.symm.trans itsCode)
    have untouched : row.applyTo builtAt stored = stored := by
      rw [ProductRow.applyTo, if_neg]
      rw [barcode]
      exact Ne.symm other
    rw [untouched]
    rcases before with carried | isRow
    · exact carried stored wasStored ofModified
    · rw [isRow] at same
      exact absurd rfl same

theorem ChangesFollow.write : ChangesFollow (s.write row builtAt) := by
  refine { follows with linked := ?_, fresh := ?_, finished := ?_ }
  · exact fun modified member isModified => (follows.linked modified member isModified).write
  · intro modified member isModified
    by_cases seen : modified.commit ≤ s.queried
    · rcases follows.fresh modified member isModified with carried | due
      · exact .inl (follows.carried_write read quiet member isModified seen (.inl carried))
      · exact .inr due
    · exact .inr (follows.unread modified member (by omega))
  · intro pass member
    obtain ⟨seen, carried⟩ := follows.finished pass member
    refine ⟨seen, fun modified stands isModified before => ?_⟩
    apply follows.carried_write read quiet stands isModified (by omega)
    exact .inl (carried modified stands isModified before)

end

end

variable {since : Nat} {task : ChangeTask}

section

variable {s : ChangeState} {row : ProductRow} {builtAt : Int}

theorem ReadRow.grown (read : ReadRow s since row) {after : ChangeState}
    (rows : after.rows = s.rows) : ReadRow after since row := by
  refine ⟨read.barcode, read.seen, ?_⟩
  rw [rows]
  exact read.current

/-- What a pass has to do is not more after a write. -/
theorem ChangeTask.Pending.write (follows : ChangesFollow s) (read : ReadRow s since row)
    (quiet : ∀ current ∈ s.rows, current.itemCode = row.itemCode →
      current.commit = row.commit ∨ s.queried < current.commit) (pending : task.Pending s) :
        task.Pending (s.write row builtAt) := by
  cases task with
  | write since' _ operations =>
    obtain ⟨seen, reads, rest⟩ := pending
    refine ⟨seen, ?_, ?_⟩
    · exact fun other member => (reads other member).grown rfl
    · intro modified stands isModified before
      rcases rest modified stands isModified before with carried | waits
      · exact .inl (follows.carried_write read quiet stands isModified (by omega) (.inl carried))
      · exact .inr waits
  | modify itemCode change => trivial
  | wait time => trivial
  | query => trivial

structure ChangeKept (s : ChangeState) (itemCode : String) (change : ProductChange) : Prop where
  named : change.itemName.isSome = true
  priced : change.mrp.isSome = true
  barcode : change.barcode.any (· != "") = true
  own : ∀ row ∈ s.rows, row.itemCode = itemCode ↔ row.barcode = change.barcode
  stored : ∀ product ∈ s.products, product.itemCode = itemCode → product.barcode = change.barcode

theorem kept_of_keepsBarcode {itemCode : String} {change : ProductChange}
    (keeps : s.keepsBarcode itemCode change = true) : ChangeKept s itemCode change := by
  simp only [ChangeState.keepsBarcode, Bool.and_eq_true, List.all_eq_true, beq_iff_eq,
    decide_eq_decide, Bool.or_eq_true, bne_iff_ne] at keeps
  obtain ⟨⟨⟨⟨named, priced⟩, barcode⟩, own⟩, stored⟩ := keeps
  refine ⟨named, priced, barcode, own, ?_⟩
  intro product member ofItem
  rcases stored product member with other | same
  · exact absurd ofItem other
  · exact same

variable {itemCode : String} {change : ProductChange}

theorem mem_modify (known : itemCode ∈ s.rows.map ProductRow.itemCode)
    (member : row ∈ (s.modify itemCode change).rows) :
    (row ∈ s.rows ∧ row.itemCode ≠ itemCode) ∨
      ∃ old ∈ s.rows, old.itemCode = itemCode ∧ row = s.changed change old := by
  rw [ChangeState.modify, if_pos known] at member
  obtain ⟨old, stands, made⟩ := List.mem_map.mp member
  by_cases named : old.itemCode = itemCode
  · rw [if_pos named] at made
    exact .inr ⟨old, stands, named, made.symm⟩
  · rw [if_neg named] at made
    subst made
    exact .inl ⟨stands, named⟩

theorem modify_eq (change : ProductChange)
    (known : itemCode ∈ s.rows.map ProductRow.itemCode) : s.modify itemCode change = { s with
      rows := Table.modify ProductRow.itemCode itemCode (s.changed change) s.rows
      commits := s.commits + 1 } := if_pos known

section

variable (kept : ChangeKept s itemCode change) (known : itemCode ∈ s.rows.map ProductRow.itemCode)
include kept known

theorem ChangeKept.barcode_mem (member : row ∈ (s.modify itemCode change).rows) :
    ∃ old ∈ s.rows, old.itemCode = row.itemCode ∧ old.barcode = row.barcode := by
  rcases mem_modify known member with ⟨stands, _⟩ | ⟨old, stands, named, rfl⟩
  · exact ⟨row, stands, rfl, rfl⟩
  · exact ⟨old, stands, rfl, (kept.own old stands).mp named⟩

theorem ChangeKept.apart (row old : ProductRow) (sameCode : row.itemCode = old.itemCode)
    (sameBarcode : row.barcode = old.barcode)
    (before : ∀ other ∈ s.rows, other.itemCode ≠ old.itemCode → other.barcode ≠ old.barcode) :
    ∀ other ∈ (s.modify itemCode change).rows, other.itemCode ≠ row.itemCode → other.barcode ≠ row.barcode := by
  intro other member different
  obtain ⟨was, stands, itsCode, itsBarcode⟩ := kept.barcode_mem known member
  rw [sameBarcode, ← itsBarcode]
  apply before was stands
  rw [itsCode, ← sameCode]
  exact different

end

theorem ChangesFollow.modify (follows : ChangesFollow s) (kept : ChangeKept s itemCode change) :
    ChangesFollow (s.modify itemCode change) := by
  by_cases known : itemCode ∈ s.rows.map ProductRow.itemCode
  · have shape := modify_eq change known
    have products : (s.modify itemCode change).products = s.products := by rw [shape]
    have lastSync : (s.modify itemCode change).lastSync = s.lastSync := by rw [shape]
    have commits : (s.modify itemCode change).commits = s.commits + 1 := by rw [shape]
    have queried : (s.modify itemCode change).queried = s.queried := by rw [shape]
    have isDue : ∀ row, (s.modify itemCode change).due row = s.due row := by
      intro row
      rw [ChangeState.due, lastSync]
      rfl
    have isCarried : ∀ row, (s.modify itemCode change).Carried row = s.Carried row := by
      intro row
      rw [ChangeState.Carried, products]
      rfl
    have changedDue : ∀ old, s.due (s.changed change old) = true := by
      intro old
      rw [ChangeState.due, Option.all_eq_true]
      exact fun lastSync synced => decide_eq_true (follows.synced lastSync synced)
    refine ⟨?_, ?_, ?_, ?_, ?_, ?_, ?_, ?_⟩
    · rw [shape]
      simp only
      rw [Table.map_modify]
      · exact follows.distinct
      · exact fun _ => rfl
    · rw [shape]
      exact follows.synced
    · intro row member
      rw [commits]
      rcases mem_modify known member with ⟨stands, _⟩ | ⟨old, _, _, rfl⟩
      · exact Nat.le_succ_of_le (follows.committed row stands)
      · exact Nat.le_refl _
    · rw [queried, commits]
      exact Nat.le_succ_of_le follows.queried
    · intro row member isModified
      rcases mem_modify known member with ⟨stands, _⟩ | ⟨old, stands, named, rfl⟩
      · have linked := follows.linked row stands isModified
        refine ⟨linked.named, linked.priced, linked.barcode, ?_, ?_⟩
        · rw [products]
          exact linked.stored
        · exact kept.apart known row row rfl rfl linked.apart
      · refine ⟨kept.named, kept.priced, kept.barcode, ?_, ?_⟩
        · rw [products]
          exact fun product stored ofItem => kept.stored product stored (ofItem.trans named)
        · apply kept.apart known (s.changed change old) old rfl ((kept.own old stands).mp named).symm
          intro other otherStands different sameBarcode
          apply different
          rw [named]
          exact (kept.own other otherStands).mpr (sameBarcode.trans ((kept.own old stands).mp named))
    · intro row member isModified
      rw [isDue, isCarried]
      rcases mem_modify known member with ⟨stands, _⟩ | ⟨old, _, _, rfl⟩
      · exact follows.fresh row stands isModified
      · exact .inr (changedDue old)
    · intro row member
      rw [isDue, queried]
      rcases mem_modify known member with ⟨stands, _⟩ | ⟨old, _, _, rfl⟩
      · exact follows.unread row stands
      · exact fun _ => changedDue old
    · intro since member
      rw [shape] at member
      obtain ⟨seen, carried⟩ := follows.finished since member
      rw [queried]
      refine ⟨seen, fun row stands isModified before => ?_⟩
      rw [isCarried]
      rcases mem_modify known stands with ⟨was, _⟩ | ⟨old, _, _, rfl⟩
      · exact carried row was isModified before
      · have late : s.commits + 1 ≤ since := before
        have limit := follows.queried
        omega
  · rw [ChangeState.modify, if_neg known]
    exact follows

/-- What a pass has to do is not more after a modification. -/
theorem ChangeTask.Pending.modify (follows : ChangesFollow s) (kept : ChangeKept s itemCode change)
    (pending : task.Pending s) : task.Pending (s.modify itemCode change) := by
  by_cases known : itemCode ∈ s.rows.map ProductRow.itemCode
  · cases task with
    | write since builtAt operations =>
      obtain ⟨seen, reads, rest⟩ := pending
      have limit := follows.queried
      have shape := modify_eq change known
      refine ⟨?_, ?_, ?_⟩
      · rw [shape]
        exact seen
      · intro row member
        have read := reads row member
        obtain ⟨current, stands, sameCode, sameBarcode, isRow⟩ := read.current
        refine ⟨read.barcode, read.seen, ?_⟩
        rw [shape]
        by_cases named : current.itemCode = itemCode
        · refine ⟨s.changed change current, ?_, sameCode, ?_, ?_⟩
          · exact List.mem_map.mpr ⟨current, stands, if_pos named⟩
          · exact ((kept.own current stands).mp named).symm.trans sameBarcode
          · intro sameCommit
            have late : s.commits + 1 = row.commit := sameCommit
            have early := read.seen
            omega
        · exact ⟨current, List.mem_map.mpr ⟨current, stands, if_neg named⟩, sameCode, sameBarcode, isRow⟩
      · intro row member isModified before
        rcases mem_modify known member with ⟨stands, _⟩ | ⟨old, _, _, rfl⟩
        · rcases rest row stands isModified before with carried | waits
          · left
            rw [shape]
            exact carried
          · exact .inr waits
        · have late : s.commits + 1 ≤ since := before
          omega
    | modify itemCode change => trivial
    | wait time => trivial
    | query => trivial
  · rw [ChangeState.modify, if_neg known]
    exact pending

end

section

variable {s : ChangeState}

section

variable (follows : ChangesFollow s)
include follows

theorem ChangesFollow.query : ChangesFollow { s with queried := s.commits } := by
  refine { follows with queried := Nat.le_refl _, linked := ?_, unread := ?_, finished := ?_ }
  · exact fun row member isModified => { follows.linked row member isModified with }
  · intro row member unseen
    have early := follows.committed row member
    have late : s.commits < row.commit := unseen
    omega
  · intro since member
    obtain ⟨seen, carried⟩ := follows.finished since member
    exact ⟨Nat.le_trans seen follows.queried, carried⟩

theorem ChangesFollow.reads (builtAt : Int) :
    (ChangeTask.write s.commits builtAt s.operations).Pending { s with queried := s.commits } := by
  refine ⟨Nat.le_refl _, ?_, ?_⟩
  · intro row member
    obtain ⟨selected, barcode⟩ := List.mem_filter.mp member
    have stands := (List.mem_filter.mp selected).1
    exact ⟨barcode, follows.committed row stands, row, stands, rfl, rfl, fun _ => rfl⟩
  · intro row member isModified _
    rcases follows.fresh row member isModified with carried | due
    · exact .inl carried
    · right
      apply List.mem_filter.mpr
      exact ⟨List.mem_filter.mpr ⟨member, due⟩, (follows.linked row member isModified).barcode⟩

/-- A pass without operations left, after whose query nothing was modified before its end. -/
theorem ChangesFollow.finalize {builtAt : Int} (pending : (ChangeTask.write since builtAt []).Pending s)
    (quiet : ∀ row ∈ s.rows, row.commit ≤ since ∨ s.clock ≤ row.modifiedAt) : ChangesFollow (s.finalize since) := by
  obtain ⟨seen, _, done⟩ := pending
  have carried : ∀ row ∈ s.rows, row.commit ≠ 0 → row.commit ≤ since → s.Carried row := by
    intro row member isModified before
    rcases done row member isModified before with carried | waits
    · exact carried
    · cases waits
  have later : ∀ row ∈ s.rows, since < row.commit → (s.finalize since).due row = true := by
    intro row member after
    rcases quiet row member with before | late
    · omega
    · exact decide_eq_true late
  refine ⟨follows.distinct, ?_, follows.committed, follows.queried, ?_, ?_, ?_, ?_⟩
  · intro lastSync isEnd
    cases isEnd
    exact Int.le_refl _
  · exact fun row member isModified => { follows.linked row member isModified with }
  · intro row member isModified
    by_cases before : row.commit ≤ since
    · exact .inl (carried row member isModified before)
    · exact .inr (later row member (by omega))
  · intro row member unseen
    have after : s.queried < row.commit := unseen
    exact later row member (by omega)
  · intro pass member
    rcases List.mem_append.mp member with earlier | own
    · exact follows.finished pass earlier
    · rw [List.mem_singleton.mp own]
      exact ⟨seen, carried⟩

theorem ChangesFollow.wait (time : Nat) : ChangesFollow { s with clock := s.clock + time } := by
  refine { follows with synced := ?_, linked := ?_ }
  · intro lastSync isEnd
    have before := follows.synced lastSync isEnd
    have after : s.clock ≤ s.clock + time := by omega
    exact Int.le_trans before after
  · exact fun row member isModified => { follows.linked row member isModified with }

end

/-- A pass in flight does not notice the clock or the other passes' queries and ends. -/
theorem ChangeTask.Pending.grown (pending : task.Pending s) {after : ChangeState}
    (rows : after.rows = s.rows) (products : after.products = s.products)
    (queried : s.queried ≤ after.queried) : task.Pending after := by
  cases task with
  | write since builtAt operations =>
    obtain ⟨seen, reads, rest⟩ := pending
    refine ⟨Nat.le_trans seen queried, fun row member => (reads row member).grown rows, ?_⟩
    intro row member isModified before
    rw [rows] at member
    rcases rest row member isModified before with carried | waits
    · left
      intro product stored
      rw [products] at stored
      exact carried product stored
    · exact .inr waits
  | modify itemCode change => trivial
  | wait time => trivial
  | query => trivial

end

/-- A resumed step keeps the store's invariant, leaves its own task what it still has to do, and the
other passes theirs. -/
structure ChangeGoesOn (s : ChangeState) (result : ChangeState × Option ChangeTask) : Prop where
  follows : ChangesFollow result.1
  own : ∀ next, result.2 = some next → next.Pending result.1
  others : ∀ task : ChangeTask, task.Pending s → task.Pending result.1

variable {c : ChangePasses}

theorem ChangesFollow.resumed (follows : ChangesFollow c.store) {slot : Nat}
    (pending : task.Pending c.store) (quiet : changesUndisturbed c (.resume slot) = true)
    (held : c.task slot = some task) : ChangeGoesOn c.store (resumeChange c.store task) := by
  cases task with
  | modify itemCode change =>
    simp only [changesUndisturbed, held] at quiet
    have kept := kept_of_keepsBarcode quiet
    refine ⟨follows.modify kept, ?_, ?_⟩
    · nofun
    · exact fun other waits => waits.modify follows kept
  | wait time =>
    refine ⟨follows.wait time, ?_, ?_⟩
    · nofun
    · exact fun other waits => waits.grown rfl rfl (Nat.le_refl _)
  | query =>
    refine ⟨follows.query, ?_, ?_⟩
    · intro next goesOn
      cases goesOn
      exact follows.reads c.store.clock
    · exact fun other waits => waits.grown rfl rfl follows.queried
  | write since builtAt operations =>
    cases operations with
    | nil =>
      simp only [changesUndisturbed, held, List.all_eq_true, Bool.or_eq_true, decide_eq_true_eq] at quiet
      refine ⟨follows.finalize pending quiet, ?_, ?_⟩
      · nofun
      · exact fun other waits => waits.grown rfl rfl (Nat.le_refl _)
    | cons row rest =>
      simp only [changesUndisturbed, held, List.all_eq_true, Bool.or_eq_true, bne_iff_ne,
        beq_iff_eq, decide_eq_true_eq] at quiet
      have unseen : ∀ current ∈ c.store.rows, current.itemCode = row.itemCode →
          current.commit = row.commit ∨ c.store.queried < current.commit := by
        intro current stands same
        rcases quiet current stands with (other | unchanged) | later
        · exact absurd same other
        · exact .inl unchanged
        · exact .inr later
      obtain ⟨seen, reads, left_⟩ := pending
      have read := reads row (List.mem_cons_self ..)
      refine ⟨follows.write read unseen, ?_, ?_⟩
      · intro next goesOn
        cases goesOn
        refine ⟨seen, ?_, ?_⟩
        · exact fun other member => (reads other (List.mem_cons_of_mem _ member)).grown rfl
        · intro modified stands isModified before
          have visible : modified.commit ≤ c.store.queried := Nat.le_trans before seen
          rcases left_ modified stands isModified before with carried | waits
          · exact .inl (follows.carried_write read unseen stands isModified visible (.inl carried))
          · rcases List.mem_cons.mp waits with isRow | later
            · exact .inl (follows.carried_write read unseen stands isModified visible (.inr isRow))
            · exact .inr later
      · exact fun other waits => waits.write follows read unseen

abbrev ChangesSound : ChangePasses → Prop := Concurrent.Sound ChangesFollow ChangeTask.Pending

theorem ChangesSound.step {move : Move ChangeRequest} (sound : ChangesSound c)
    (quiet : changesUndisturbed c move = true) : ChangesSound (ChangePasses.step c move) := by
  apply Concurrent.Sound.step sound
  · intro slot request task _ begun
    cases begun
    cases request <;> trivial
  · intro slot task isResume held pending
    subst isResume
    have on := sound.store.resumed pending quiet held
    exact ⟨on.follows, on.own, fun _ other _ _ waits => on.others other waits⟩

/-- Each item code has one row, nothing was modified or queried yet, and nothing is in flight. -/
structure ChangeStart (c : ChangePasses) : Prop where
  distinct : (c.store.rows.map ProductRow.itemCode).Nodup
  synced : ∀ lastSync ∈ c.store.lastSync, lastSync ≤ c.store.clock
  unmodified : ∀ row ∈ c.store.rows, row.commit = 0
  unqueried : c.store.queried = 0
  unfinished : c.store.finished = []
  idle : ∀ slot, c.task slot = none

theorem ChangeStart.sound (start : ChangeStart c) : ChangesSound c := by
  refine ⟨⟨start.distinct, start.synced, ?_, ?_, ?_, ?_, ?_, ?_⟩, ?_⟩
  · intro row member
    rw [start.unmodified row member]
    exact Nat.zero_le _
  · rw [start.unqueried]
    exact Nat.zero_le _
  · exact fun row member isModified => absurd (start.unmodified row member) isModified
  · exact fun row member isModified => absurd (start.unmodified row member) isModified
  · intro row member unseen
    rw [start.unmodified row member] at unseen
    omega
  · intro since member
    rw [start.unfinished] at member
    cases member
  · intro slot task held
    rw [start.idle] at held
    cases held

/-- When a successful pass could see the last modification, every product whose row was modified
carries that row. -/
theorem changes_carried {first last : ChangePasses} (start : ChangeStart first)
    (run : Reaches ChangePasses.step (fun c move => changesUndisturbed c move = true) first last)
    (passed : last.store.commits ∈ last.store.finished) :
    ∀ row ∈ last.store.rows, row.commit ≠ 0 → last.store.Carried row := by
  have sound : ChangesSound last := run.invariant start.sound fun c move kept quiet => ChangesSound.step kept quiet
  intro row member isModified
  exact (sound.store.finished _ passed).2 row member isModified (sound.store.committed row member)

instance (product : StoredProduct) (row : ProductRow) : Decidable (Carries product row) :=
  inferInstanceAs (Decidable (product.itemName = row.itemName ∧ product.barcode = row.barcode ∧ product.mrp = row.mrp))

instance (s : ChangeState) (row : ProductRow) : Decidable (s.Carried row) :=
  inferInstanceAs (Decidable (∀ product ∈ s.products, product.itemCode = row.itemCode → Carries product row))

/-- One product in the ERP and in the store. -/
def storedBolt : ChangePasses where
  store := { rows := [⟨"I1", some "Bolt", some "890001", some 10, 0, 0⟩],
             products := [⟨"I1", some "Bolt", some "890001", some 10, none⟩] }

theorem storedBolt_start : ChangeStart storedBolt :=
  ⟨List.nodup_singleton _, nofun, by decide, rfl, rfl, fun _ => rfl⟩

def changeCall (request : ChangeRequest) (steps : Nat) : List (Move ChangeRequest) :=
  .start 0 request :: List.replicate steps (.resume 0)

def boltRenamed : ChangeRequest := .modify "I1" ⟨some "Bolt M8", some "890001", some 12⟩

/-- A pass fails after the row was modified under it, and the next one comes to its end. -/
def modifiedThenSynced : List (Move ChangeRequest) :=
  changeCall .syncChanges 3 ++ changeCall (.wait 1000) 1 ++ changeCall .syncChanges 1 ++
    [.start 1 boltRenamed, .resume 1, .resume 0, .abandon 0] ++ changeCall (.wait 1000) 1 ++
    changeCall .syncChanges 3

theorem changes_carried_after_failure :
    (∀ row ∈ (modifiedThenSynced.foldl ChangePasses.step storedBolt).store.rows, row.commit ≠ 0 →
      (modifiedThenSynced.foldl ChangePasses.step storedBolt).store.Carried row) ∧
    (modifiedThenSynced.foldl ChangePasses.step storedBolt).store.products.map (·.itemName) = [some "Bolt M8"] := by
  constructor
  · apply changes_carried storedBolt_start
    · apply Reaches.of_admitted
      decide +kernel
    · decide +kernel
  · decide +kernel

/-- The row is modified between the query of a pass and its end; a whole pass comes after. -/
def modifiedDuringPass : List (Move ChangeRequest) :=
  changeCall .syncChanges 1 ++ [.start 1 (.wait 5), .resume 1, .start 1 boltRenamed, .resume 1,
    .start 1 (.wait 10), .resume 1, .resume 0, .resume 0] ++ changeCall .syncChanges 2

def barcodeChanged : List (Move ChangeRequest) :=
  changeCall (.modify "I1" ⟨some "Bolt", some "890777", some 10⟩) 1 ++ changeCall .syncChanges 3

/-- A modification before the end of a pass that has already queried is never read, and a new
barcode finds no product. -/
theorem changes_missed :
    ¬ (∀ first last : ChangePasses, ChangeStart first → Reaches ChangePasses.step (fun _ _ => True) first last →
      last.store.commits ∈ last.store.finished →
      ∀ row ∈ last.store.rows, row.commit ≠ 0 → last.store.Carried row) ∧
    (modifiedDuringPass.foldl ChangePasses.step storedBolt).store.products.map (·.itemName) = [some "Bolt"] ∧
    (barcodeChanged.foldl ChangePasses.step storedBolt).store.products.map (·.barcode) = [some "890001"] := by
  refine ⟨?_, by decide +kernel, by decide +kernel⟩
  intro always
  have carried := always storedBolt _ storedBolt_start
    (Reaches.foldl fun _ (move : Move ChangeRequest) (_ : move ∈ modifiedDuringPass) => trivial) (by decide +kernel)
  exact absurd carried (by decide +kernel)

end StockVerification
