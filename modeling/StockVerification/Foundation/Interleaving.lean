import Mathlib.Algebra.BigOperators.Group.Finset.Piecewise
import StockVerification.Foundation.Run

/-!
# Interleavings

Tasks work on one store, each in atomic steps, in any order. A task sits in a slot
from the step that begins it to its last one. It may also be abandoned between two
steps: its process stops, or a call fails and the failure is raised.
-/
namespace StockVerification.Foundation

/-- A store and the tasks in flight on it. -/
structure Concurrent (σ τ : Type) where
  store : σ
  task : Nat → Option τ := fun _ => none

inductive Move (ι : Type) where
  | start (slot : Nat) (request : ι)
  | resume (slot : Nat)
  | abandon (slot : Nat)

def Move.slot {ι : Type} : Move ι → Nat
  | .start slot _ | .resume slot | .abandon slot => slot

namespace Concurrent

variable {σ τ ι : Type}

/-- One step. A request that is refused at once leaves no task, and a slot holds one
task at a time. -/
def step (start : σ → ι → Option τ) (resume : σ → τ → σ × Option τ) (c : Concurrent σ τ) :
    Move ι → Concurrent σ τ
  | .start slot request =>
    match c.task slot with
    | some _ => c
    | none => { c with task := Function.update c.task slot (start c.store request) }
  | .resume slot =>
    match c.task slot with
    | none => c
    | some t =>
      { store := (resume c.store t).1, task := Function.update c.task slot (resume c.store t).2 }
  | .abandon slot => { c with task := Function.update c.task slot none }

variable (start : σ → ι → Option τ)

/-- What a step can do: nothing, or start, resume or drop the task of one slot. -/
theorem step_cases (resume : σ → τ → σ × Option τ) (c : Concurrent σ τ) (move : Move ι) :
    step start resume c move = c ∨
    (∃ slot request, move = .start slot request ∧ c.task slot = none ∧
      step start resume c move = { c with task := Function.update c.task slot (start c.store request) }) ∨
    (∃ slot t, move = .resume slot ∧ c.task slot = some t ∧ step start resume c move =
        { store := (resume c.store t).1, task := Function.update c.task slot (resume c.store t).2 }) ∨
    ∃ slot, move = .abandon slot ∧
      step start resume c move = { c with task := Function.update c.task slot none } := by
  cases move with
  | start slot request =>
    cases held : c.task slot with
    | some t => exact .inl (by simp [step, held])
    | none => exact .inr (.inl ⟨slot, request, rfl, held, by simp [step, held]⟩)
  | resume slot =>
    cases held : c.task slot with
    | none => exact .inl (by simp [step, held])
    | some t => exact .inr (.inr (.inl ⟨slot, t, rfl, held, by simp [step, held]⟩))
  | abandon slot => exact .inr (.inr (.inr ⟨slot, rfl, rfl⟩))

variable {task : Nat → Option τ} {n : Nat}

theorem update_task {slot : Nat} {value : Option τ} {t : τ} (held : Function.update task slot value n = some t) :
    n = slot ∧ value = some t ∨ n ≠ slot ∧ task n = some t := by
  by_cases here : n = slot
  · subst here
    rw [Function.update_self] at held
    exact .inl ⟨rfl, held⟩
  · rw [Function.update_of_ne here] at held
    exact .inr ⟨here, held⟩

/-- A fact about the store, and one about every task in flight. -/
structure Sound (Stored : σ → Prop) (Held : σ → τ → Prop) (c : Concurrent σ τ) : Prop where
  store : Stored c.store
  tasks : ∀ slot t, c.task slot = some t → Held c.store t

variable {move : Move ι}

/-- A step keeps both where a new task has its fact, and a task that goes on keeps the store's
fact, its own and those of the tasks that rest. -/
theorem Sound.step {Stored : σ → Prop} {Held : σ → τ → Prop} {start : σ → ι → Option τ}
    {resume : σ → τ → σ × Option τ} {c : Concurrent σ τ} (sound : Sound Stored Held c)
    (started : ∀ slot request t, move = .start slot request → start c.store request = some t → Held c.store t)
    (resumed : ∀ slot t, move = .resume slot → c.task slot = some t → Held c.store t → Stored (resume c.store t).1 ∧ (∀
      next, (resume c.store t).2 = some next → Held (resume c.store t).1 next) ∧ ∀ other u, other ≠ slot → c.task other
      = some u → Held c.store u → Held (resume c.store t).1 u) :
    Sound Stored Held (Concurrent.step start resume c move) := by
  rcases step_cases start resume c move with
    nothing | ⟨slot, request, isStart, _, after⟩ | ⟨slot, t, isResume, held, after⟩ | ⟨slot, _, after⟩
  · rw [nothing]
    exact sound
  · rw [after]
    refine ⟨sound.store, fun n t holds => ?_⟩
    rcases update_task holds with ⟨_, begun⟩ | ⟨_, before⟩
    · exact started slot request t isStart begun
    · exact sound.tasks n t before
  · obtain ⟨stored, own, others⟩ := resumed slot t isResume held (sound.tasks slot t held)
    rw [after]
    refine ⟨stored, fun n u holds => ?_⟩
    rcases update_task holds with ⟨_, next⟩ | ⟨different, before⟩
    · exact own u next
    · exact others n u different before (sound.tasks n u before)
  · rw [after]
    refine ⟨sound.store, fun n t holds => ?_⟩
    rcases update_task holds with ⟨_, dropped⟩ | ⟨_, before⟩
    · cases dropped
    · exact sound.tasks n t before

/-- At most one task in flight is of a kind. -/
def Exclusive (p : τ → Prop) (task : Nat → Option τ) : Prop :=
  ∀ n m t u, task n = some t → task m = some u → p t → p u → n = m

/-- A task that becomes one of the kind finds no other. -/
theorem Exclusive.step {p : τ → Prop} {start : σ → ι → Option τ} {resume : σ → τ → σ × Option τ} {c : Concurrent σ τ}
    (exclusive : Exclusive p c.task) (started : ∀ request t, start c.store request = some t → ¬ p t)
    (resumed : ∀ slot t next, move = .resume slot → c.task slot = some t → (resume c.store t).2 = some next → p next → p
      t ∨ ∀ other u, c.task other = some u → ¬ p u) :
    Exclusive p (Concurrent.step start resume c move).task := by
  have written : ∀ slot value, (∀ t, value = some t → p t → ∀ other u, other ≠ slot → c.task other = some u → ¬ p u) →
      Exclusive p (Function.update c.task slot value) := by
    intro slot value alone n m t u atN atM kindN kindM
    rcases update_task atN with ⟨isN, newN⟩ | ⟨notN, oldN⟩ <;> rcases update_task atM with ⟨isM, newM⟩ | ⟨notM, oldM⟩
    · rw [isN, isM]
    · exact absurd kindM (alone t newN kindN m u notM oldM)
    · exact absurd kindN (alone u newM kindM n t notN oldN)
    · exact exclusive n m t u oldN oldM kindN kindM
  rcases step_cases start resume c move with
    nothing | ⟨slot, request, _, _, after⟩ | ⟨slot, t, isResume, held, after⟩ | ⟨slot, _, after⟩
  · rw [nothing]
    exact exclusive
  · rw [after]
    exact written slot _ fun t begun kind => absurd kind (started request t begun)
  · rw [after]
    refine written slot _ fun next goesOn kind other u different before itsKind => ?_
    rcases resumed slot t next isResume held goesOn kind with was | nobody
    · exact different (exclusive other slot u t before held itsKind was)
    · exact nobody other u before itsKind
  · rw [after]
    exact written slot _ nofun

theorem step_task_other (resume : σ → τ → σ × Option τ) (c : Concurrent σ τ)
    (other : n ≠ move.slot) : (step start resume c move).task n = c.task n := by
  rcases step_cases start resume c move with
    nothing | ⟨slot, request, rfl, _, after⟩ | ⟨slot, t, rfl, _, after⟩ | ⟨slot, rfl, after⟩
  · rw [nothing]
  · rw [after]
    exact Function.update_of_ne other ..
  · rw [after]
    exact Function.update_of_ne other ..
  · rw [after]
    exact Function.update_of_ne other ..

/-- What the tasks in flight weigh: every slot in use is in the set. -/
def Weighs (weight : Option τ → Nat) (task : Nat → Option τ) (total : Nat) : Prop :=
  ∃ slots : Finset Nat, (∀ n, n ∉ slots → task n = none) ∧ ∑ n ∈ slots, weight (task n) = total

variable {weight : Option τ → Nat} {total : Nat}

/-- Writing one slot replaces what its task weighs. -/
theorem Weighs.update {after : Nat} (weighs : Weighs weight task total) (nothing : weight none = 0)
    (slot : Nat) (value : Option τ) (balance : after + weight (task slot) = total + weight value) :
    Weighs weight (Function.update task slot value) after := by
  obtain ⟨slots, outside, sum⟩ := weighs
  have enlarged : ∑ n ∈ insert slot slots, weight (task n) = total := by
    by_cases member : slot ∈ slots
    · rw [Finset.insert_eq_of_mem member, sum]
    · rw [Finset.sum_insert member, outside slot member, nothing, sum, Nat.zero_add]
  refine ⟨insert slot slots, fun n notIn => ?_, ?_⟩
  · rw [Finset.mem_insert, not_or] at notIn
    rw [Function.update_of_ne notIn.1]
    exact outside n notIn.2
  · have written : ∀ n, weight (Function.update task slot value n) =
        Function.update (fun m => weight (task m)) slot (weight value) n := by
      intro n
      by_cases here : n = slot
      · subst here
        rw [Function.update_self, Function.update_self]
      · rw [Function.update_of_ne here, Function.update_of_ne here]
    have split := Finset.sum_eq_add_sum_sdiff_singleton_of_mem (Finset.mem_insert_self slot slots)
      (fun n => weight (task n))
    rw [Finset.sum_congr rfl fun n _ => written n, Finset.sum_update_of_mem (Finset.mem_insert_self slot slots)]
    rw [enlarged] at split
    omega

theorem Weighs.eq_zero (weighs : Weighs weight task total) (idle : ∀ n, weight (task n) = 0) :
    total = 0 := by
  obtain ⟨slots, _, sum⟩ := weighs
  rw [← sum]
  exact Finset.sum_eq_zero fun n _ => idle n

theorem Weighs.le (weighs : Weighs weight task total) (nothing : weight none = 0) (slot : Nat) :
    weight (task slot) ≤ total := by
  obtain ⟨slots, outside, sum⟩ := weighs
  by_cases member : slot ∈ slots
  · have split := Finset.sum_eq_add_sum_sdiff_singleton_of_mem member (fun n => weight (task n))
    omega
  · rw [outside slot member, nothing]
    exact Nat.zero_le _

theorem foldl_task_other (resume : σ → τ → σ × Option τ) {moves : List (Move ι)}
    (others : ∀ move ∈ moves, n ≠ move.slot) (c : Concurrent σ τ) :
    (moves.foldl (step start resume) c).task n = c.task n := by
  induction moves generalizing c with
  | nil => rfl
  | cons move rest ih =>
    rw [List.foldl_cons, ih (fun later member => others later (by simp [member]))]
    exact step_task_other start resume c (others move (by simp))

end Concurrent

end StockVerification.Foundation
