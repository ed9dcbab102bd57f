import Mathlib.Algebra.BigOperators.Group.Finset.Basic

/-!
# Gathered tasks

Tasks that are started together work on one store, each in atomic steps, and are awaited together. A
task has a key and a stage. A schedule lists the keys of the tasks in the order of their steps.
-/
namespace StockVerification.Foundation

structure Gathering (κ σ τ : Type) where
  store : σ
  stage : κ → τ

namespace Gathering

variable {κ σ τ : Type} [DecidableEq κ] {resume : κ → σ → τ → σ × τ}

/-- One task takes a step. -/
def step (resume : κ → σ → τ → σ × τ) (g : Gathering κ σ τ) (k : κ) : Gathering κ σ τ where
  store := (resume k g.store (g.stage k)).1
  stage := Function.update g.stage k (resume k g.store (g.stage k)).2

@[simp] theorem step_store (g : Gathering κ σ τ) (k : κ) :
    (step resume g k).store = (resume k g.store (g.stage k)).1 := rfl

@[simp] theorem step_own (g : Gathering κ σ τ) (k : κ) :
    (step resume g k).stage k = (resume k g.store (g.stage k)).2 := Function.update_self ..

theorem step_other (g : Gathering κ σ τ) {k other : κ} (different : other ≠ k) :
    (step resume g k).stage other = g.stage other := Function.update_of_ne different ..

/-- A fact about the store, and one about the stage of every task. -/
structure Sound (Stored : σ → Prop) (Held : σ → κ → τ → Prop) (keys : List κ) (g : Gathering κ σ τ) : Prop where
  store : Stored g.store
  stages : ∀ k ∈ keys, Held g.store k (g.stage k)

/-- A step of one task keeps the fact of the store, its own and those of the other tasks. -/
structure Keeps (resume : κ → σ → τ → σ × τ) (Stored : σ → Prop) (Held : σ → κ → τ → Prop) (keys : List κ) : Prop where
  store : ∀ k ∈ keys, ∀ s t, Stored s → Held s k t → Stored (resume k s t).1
  own : ∀ k ∈ keys, ∀ s t, Stored s → Held s k t → Held (resume k s t).1 k (resume k s t).2
  others : ∀ k ∈ keys, ∀ other ∈ keys, other ≠ k → ∀ s t u, Stored s → Held s k t → Held s other u →
    Held (resume k s t).1 other u

variable {Stored : σ → Prop} {Held : σ → κ → τ → Prop} {keys : List κ} {g : Gathering κ σ τ}

theorem Sound.step {k : κ} (sound : Sound Stored Held keys g) (keeps : Keeps resume Stored Held keys)
    (listed : k ∈ keys) : Sound Stored Held keys (Gathering.step resume g k) := by
  have held := sound.stages k listed
  constructor
  · exact keeps.store k listed _ _ sound.store held
  · intro other member
    by_cases same : other = k
    · subst same
      rw [step_own]
      exact keeps.own other listed _ _ sound.store held
    · rw [step_other g same]
      exact keeps.others k listed other member same _ _ _ sound.store held (sound.stages other member)

theorem Sound.run {schedule : List κ} (sound : Sound Stored Held keys g) (keeps : Keeps resume Stored Held keys)
    (listed : ∀ k ∈ schedule, k ∈ keys) : Sound Stored Held keys (schedule.foldl (Gathering.step resume) g) := by
  induction schedule generalizing g with
  | nil => exact sound
  | cons k rest ih =>
    have first := sound.step keeps (listed k List.mem_cons_self)
    exact ih first fun later member => listed later (List.mem_cons_of_mem _ member)

/-- What a step takes from its task it adds to the store, so the store and all tasks together keep
it. -/
theorem conserved [Fintype κ] {M : Type} [AddCommMonoid M] (stored : σ → M) (held : κ → τ → M)
    (keeps : ∀ k s t, stored (resume k s t).1 + held k (resume k s t).2 = stored s + held k t)
    (schedule : List κ) (g : Gathering κ σ τ) : stored (schedule.foldl (step resume) g).store +
        ∑ k, held k ((schedule.foldl (step resume) g).stage k) = stored g.store + ∑ k, held k (g.stage k) := by
  induction schedule generalizing g with
  | nil => rfl
  | cons k rest ih =>
    have others : ∑ other ∈ Finset.univ.erase k, held other ((step resume g k).stage other) =
        ∑ other ∈ Finset.univ.erase k, held other (g.stage other) :=
      Finset.sum_congr rfl fun other member => congrArg _ (step_other g (Finset.ne_of_mem_erase member))
    rw [List.foldl_cons, ih, ← Finset.add_sum_erase _ _ (Finset.mem_univ k), step_own, step_store, others, ← add_assoc,
      keeps, add_assoc, Finset.add_sum_erase _ (fun k => held k (g.stage k)) (Finset.mem_univ k)]

/-- A task comes nearer to its end with each of its steps, and rests there. -/
structure Ranked (resume : κ → σ → τ → σ × τ) (rank : τ → Nat) : Prop where
  falls : ∀ k s t, rank (resume k s t).2 ≤ rank t - 1
  rests : ∀ k s t, rank t = 0 → (resume k s t).2 = t

variable {rank : τ → Nat}

section

variable (ranked : Ranked resume rank)
include ranked

theorem Ranked.step_le (g : Gathering κ σ τ) (k other : κ) :
    rank ((step resume g k).stage other) ≤ rank (g.stage other) := by
  by_cases same : other = k
  · subst same
    have falls := ranked.falls other g.store (g.stage other)
    rw [step_own]
    omega
  · exact Nat.le_of_eq (congrArg rank (step_other g same))

theorem Ranked.run_le (schedule : List κ) (g : Gathering κ σ τ) (other : κ) :
    rank ((schedule.foldl (step resume) g).stage other) ≤ rank (g.stage other) := by
  induction schedule generalizing g with
  | nil => exact Nat.le_refl _
  | cons k rest ih =>
    have first := ranked.step_le g k other
    have later := ih (step resume g k)
    rw [List.foldl_cons]
    omega

/-- A task that has ended stays as it is. -/
theorem Ranked.run_ended (schedule : List κ) {other : κ} (ended : rank (g.stage other) = 0) :
    (schedule.foldl (step resume) g).stage other = g.stage other := by
  induction schedule generalizing g with
  | nil => rfl
  | cons k rest ih =>
    have first : (step resume g k).stage other = g.stage other := by
      by_cases same : other = k
      · subst same
        rw [step_own]
        exact ranked.rests other _ _ ended
      · exact step_other g same
    rw [List.foldl_cons, ih (first ▸ ended), first]

theorem Ranked.replicate_le (n : Nat) (g : Gathering κ σ τ) (k : κ) :
    rank (((List.replicate n k).foldl (step resume) g).stage k) ≤ rank (g.stage k) - n := by
  induction n generalizing g with
  | zero => exact Nat.le_refl _
  | succ n ih =>
    have falls := ranked.falls k g.store (g.stage k)
    have later := ih (step resume g k)
    rw [step_own] at later
    rw [List.replicate_succ, List.foldl_cons]
    omega

/-- Task after task, each with as many steps as it may need, all of them end. -/
theorem Ranked.ends {n : Nat} (keys : List κ) (bounded : ∀ k, rank (g.stage k) ≤ n) : ∀ k ∈ keys,
      rank (((keys.flatMap (List.replicate n)).foldl (step resume) g).stage k) = 0 := by
  induction keys generalizing g with
  | nil => simp
  | cons first rest ih =>
    intro k member
    rw [List.flatMap_cons, List.foldl_append]
    have still : ∀ other, rank (((List.replicate n first).foldl (step resume) g).stage other) ≤ n := by
      intro other
      have less := ranked.run_le (List.replicate n first) g other
      have start := bounded other
      omega
    rcases List.mem_cons.mp member with rfl | later
    · have own := ranked.replicate_le n g k
      have start := bounded k
      have after := ranked.run_le (rest.flatMap (List.replicate n)) ((List.replicate n k).foldl (step resume) g) k
      omega
    · exact ih still k later

end

end Gathering

end StockVerification.Foundation
