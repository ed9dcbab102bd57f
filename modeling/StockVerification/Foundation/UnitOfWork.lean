import StockVerification.Foundation.Action

/-!
# Units of work

A unit of work runs a block of writes against a private copy of the store. The
copy replaces the stored one only when the block calls `commit`; leaving the
block in any other way, on success too, drops the copy. A deployment without
transactions has no copy to drop: every write of the block is stored at once.
-/
namespace StockVerification.Foundation

/-- Whether the database offers multi-document transactions. -/
inductive Deployment where
  | transactional
  | standalone
  deriving DecidableEq, Repr

/-- The store while a unit of work is open. -/
structure Pending (σ : Type) where
  stored : σ
  pending : σ

namespace UnitOfWork

open Foundation.Action

variable {σ ε α : Type}

/-- A write of the block goes to the private copy. -/
def write (x : Action σ ε α) : Action (Pending σ) ε α := fun p =>
  match x p.pending with
  | .ok a t => .ok a { p with pending := t }
  | .error e t => .error e { p with pending := t }

/-- The explicit commit call. -/
def commit : Action (Pending σ) ε Unit := fun p => .ok () { p with stored := p.pending }

/-- What is in the database once the block is left. -/
def settle (deployment : Deployment) (p : Pending σ) : σ :=
  match deployment with
  | .transactional => p.stored
  | .standalone => p.pending

/-- Open the unit of work, run the block, leave it. -/
def run (deployment : Deployment) (block : Action (Pending σ) ε α) : Action σ ε α := fun s =>
  match block ⟨s, s⟩ with
  | .ok a p => .ok a (settle deployment p)
  | .error e p => .error e (settle deployment p)

/-- The block of writes followed by the commit call, as a caller writes it. -/
def runCommitted (deployment : Deployment) (x : Action σ ε α) : Action σ ε α :=
  run deployment do
    let a ← write x
    commit
    pure a

/-- How a unit of work was left: what its block had built, and what the database
holds now. -/
structure Exit (σ : Type) where
  built : σ
  left : σ

/-- `run`, with how the unit of work was left as part of the answer. -/
def runObserved (deployment : Deployment) (block : Action (Pending σ) ε α) :
    Action σ ε (α × Exit σ) := fun s =>
  match block ⟨s, s⟩ with
  | .ok a p => .ok (a, ⟨p.pending, settle deployment p⟩) (settle deployment p)
  | .error e p => .error e (settle deployment p)

variable {x : Action σ ε α} {deployment : Deployment} {s : σ}

/-- A block that ends without a commit call: a transactional store is left as it
was when the block was opened. -/
theorem runObserved_write_ok {t : σ} {a : α} {exit : Exit σ} : runObserved deployment (write x) s = .ok (a, exit) t ↔
      ∃ u, x s = .ok a u ∧ exit = ⟨u, settle deployment ⟨s, u⟩⟩ ∧ t = settle deployment ⟨s, u⟩ := by
  simp only [runObserved, write]
  cases x s with
  | ok b u =>
    simp only [EStateM.Result.ok.injEq, Prod.mk.injEq]
    constructor
    · rintro ⟨⟨rfl, rfl⟩, rfl⟩
      exact ⟨u, ⟨rfl, rfl⟩, rfl, rfl⟩
    · rintro ⟨v, ⟨rfl, rfl⟩, rfl, rfl⟩
      exact ⟨⟨rfl, rfl⟩, rfl⟩
  | error e u => simp

theorem runCommitted_ok {t : σ} {a : α} : runCommitted deployment x s = .ok a t ↔ x s = .ok a t := by
  simp only [runCommitted, run, write, commit, bind, EStateM.bind, pure, EStateM.pure, settle]
  cases x s with
  | ok b u => cases deployment <;> rfl
  | error e u => simp

/-- A failed block changes a standalone store only. -/
theorem runCommitted_final (deployment : Deployment) (x : Action σ ε α) (s : σ) :
    (runCommitted deployment x).final s = x.final s ∨ (runCommitted deployment x).final s = s := by
  simp only [final, runCommitted, run, write, commit, bind, EStateM.bind, pure, EStateM.pure]
  cases x s with
  | ok b u => cases deployment <;> exact .inl rfl
  | error e u =>
    cases deployment with
    | transactional => exact .inr rfl
    | standalone => exact .inl rfl

/-- Without a commit call a transactional store stays as it was; a standalone one
keeps what the block wrote. -/
theorem final_runObserved_write {P : σ → Prop} (stop : P s) (inner : deployment = .standalone → P (x.final s)) :
    P ((runObserved deployment (write x)).final s) := by
  cases deployment with
  | transactional =>
    have same : (runObserved .transactional (write x)).final s = s := by
      simp only [final, runObserved, write, settle]
      cases x s <;> rfl
    rw [same]
    exact stop
  | standalone =>
    have same : (runObserved .standalone (write x)).final s = x.final s := by
      simp only [final, runObserved, write, settle]
      cases x s <;> rfl
    rw [same]
    exact inner rfl

theorem final_runCommitted {P : σ → Prop} (stop : P s) (inner : P (x.final s)) :
    P ((runCommitted deployment x).final s) := by
  obtain same | same := runCommitted_final deployment x s
  · rw [same]
    exact inner
  · rw [same]
    exact stop

section rules

variable {R : σ → σ → Prop} [Std.Refl R]

theorem moves_runCommitted (deployment : Deployment) (inner : Moves R x) :
    Moves R (runCommitted deployment x) :=
  fun s => final_runCommitted (refl_of R s) (inner s)

end rules

end UnitOfWork

end StockVerification.Foundation
