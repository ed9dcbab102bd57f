/-!
# Snapshots and first committers

Transactions on a database that all write one common document. The document's version
counts the writes to it. A transaction reads the state it began with and commits only if
the document has not been written since, so of two overlapping transactions the second to
commit is aborted.
-/
namespace StockVerification.Foundation

/-- A committed state and the number of writes to the common document. -/
structure Versioned (σ : Type) where
  state : σ
  version : Nat := 0

/-- What a transaction sees: the state and the version it began with. -/
structure Snapshot (σ : Type) where
  state : σ
  since : Nat

namespace Versioned

variable {σ : Type}

def snapshot (db : Versioned σ) : Snapshot σ := ⟨db.state, db.version⟩

/-- A write outside of any transaction. -/
def write (db : Versioned σ) (next : σ) : Versioned σ := ⟨next, db.version + 1⟩

/-- The commit of a transaction that leads to `next`; none where it is aborted. -/
def commit (db : Versioned σ) (seen : Snapshot σ) (next : σ) : Option (Versioned σ) :=
  if db.version = seen.since then some (db.write next) else none

end Versioned

namespace Snapshot

variable {σ : Type}

/-- The snapshot is of this database, and still its state if nothing was written since. -/
structure Of (seen : Snapshot σ) (db : Versioned σ) : Prop where
  earlier : seen.since ≤ db.version
  current : seen.since = db.version → seen.state = db.state

theorem Of.snapshot (db : Versioned σ) : db.snapshot.Of db :=
  ⟨Nat.le_refl _, fun _ => rfl⟩

theorem Of.write {seen : Snapshot σ} {db : Versioned σ} (of : seen.Of db) (next : σ) : seen.Of (db.write next) := by
  have earlier := of.earlier
  have grown : (db.write next).version = db.version + 1 := rfl
  constructor
  · omega
  · omega

theorem Of.commit {seen : Snapshot σ} {db after : Versioned σ} {next : σ} (of : seen.Of db)
    (committed : db.commit seen next = some after) : seen.state = db.state ∧ after = db.write next := by
  unfold Versioned.commit at committed
  split at committed
  · next same =>
    cases committed
    exact ⟨of.current same.symm, rfl⟩
  · cases committed

end Snapshot

end StockVerification.Foundation
