import Mathlib.Data.List.Count
import StockVerification.Foundation.Action

/-!
# Loops that go on after a failure

A loop attempts one item after the other. It counts those that are done, goes on after the failures
that it catches and stops at any other. The turns of the items are the stores in which the loop that
catches every failure attempts them.
-/
namespace StockVerification.Foundation.Action

variable {σ ε ι : Type}

def attemptAll (caught : ε → Bool) (act : ι → Action σ ε Bool) : List ι → Action σ ε Nat
  | [] => pure 0
  | item :: rest => fun s =>
    match act item s with
    | .ok done t =>
      match attemptAll caught act rest t with
      | .ok n u => .ok (n + done.toNat) u
      | .error e u => .error e u
    | .error e t => if caught e then attemptAll caught act rest t else .error e t

/-- The attempt answers that it is done. -/
def completes (x : Action σ ε Bool) (s : σ) : Bool :=
  match x s with
  | .ok done _ => done
  | .error _ _ => false

/-- The failure is caught, if there is one. -/
def quiet (caught : ε → Bool) (x : Action σ ε Bool) (s : σ) : Bool :=
  match x s with
  | .ok _ _ => true
  | .error e _ => caught e

/-- Each item with the store in its turn. -/
def turns (act : ι → Action σ ε Bool) : List ι → σ → List (ι × σ)
  | [], _ => []
  | item :: rest, s => (item, s) :: turns act rest ((act item).final s)

def afterTurns (act : ι → Action σ ε Bool) (items : List ι) (s : σ) : σ :=
  items.foldl (fun s item => (act item).final s) s

variable {caught : ε → Bool} {act : ι → Action σ ε Bool} {items : List ι} {s t : σ}

theorem turns_take (k : Nat) : turns act (items.take k) s = (turns act items s).take k := by
  induction items generalizing s k with
  | nil => simp [turns]
  | cons item rest ih =>
    cases k with
    | zero => rfl
    | succ k => rw [List.take_succ_cons, turns, turns, List.take_succ_cons, ih]

/-- The loop comes to its end exactly when it catches what its turns fail with. Then it answers how
many of them were done. -/
theorem attemptAll_ok {n : Nat} : attemptAll caught act items s = .ok n t ↔
      (∀ turn ∈ turns act items s, quiet caught (act turn.1) turn.2 = true) ∧
        n = (turns act items s).countP (fun turn => completes (act turn.1) turn.2) ∧ t = afterTurns act items s := by
  induction items generalizing s t n with
  | nil =>
    constructor
    · intro answered
      obtain ⟨count, store⟩ := pure_ok.mp answered
      exact ⟨fun turn member => (by cases member), count.symm, store.symm⟩
    · rintro ⟨_, rfl, rfl⟩
      rfl
  | cons item rest ih =>
    rw [attemptAll, turns, List.forall_mem_cons, List.countP_cons]
    simp only [afterTurns, List.foldl_cons]
    cases ran : act item s with
    | ok done u =>
      have after : (act item).final s = u := final_of_ok ran
      have isDone : completes (act item) s = done := by rw [completes, ran]
      have isQuiet : quiet caught (act item) s = true := by rw [quiet, ran]
      rw [after, isDone, isQuiet]
      simp only [true_and]
      have counted : (if done = true then 1 else 0) = done.toNat := by cases done <;> rfl
      rw [counted]
      cases later : attemptAll caught act rest u with
      | ok m v =>
        obtain ⟨quietRest, count, store⟩ := ih.mp later
        simp only [EStateM.Result.ok.injEq]
        constructor
        · rintro ⟨rfl, rfl⟩
          exact ⟨quietRest, by rw [count], store⟩
        · rintro ⟨_, rfl, rfl⟩
          exact ⟨by rw [count], store⟩
      | error e v =>
        constructor
        · rintro ⟨⟩
        · rintro ⟨quietRest, _, _⟩
          rw [ih.mpr ⟨quietRest, rfl, rfl⟩] at later
          cases later
    | error e u =>
      have after : (act item).final s = u := by rw [final, ran]
      have undone : completes (act item) s = false := by rw [completes, ran]
      have isQuiet : quiet caught (act item) s = caught e := by rw [quiet, ran]
      rw [after, undone, isQuiet]
      simp only [Bool.false_eq_true, if_false, Nat.add_zero]
      by_cases goesOn : caught e = true
      · rw [if_pos goesOn]
        exact ih.trans (by simp [goesOn, afterTurns])
      · rw [if_neg goesOn]
        constructor
        · rintro ⟨⟩
        · rintro ⟨⟨isCaught, _⟩, _, _⟩
          exact absurd isCaught goesOn

/-- What an attempt left goes on through the later turns. -/
theorem moves_turn {R : σ → σ → Prop} [Std.Refl R] [IsTrans σ R] (each : ∀ item, Moves R (act item))
    {turn : ι × σ} (member : turn ∈ turns act items s) : R ((act turn.1).final turn.2) (afterTurns act items s) := by
  have moved : ∀ (items : List ι) (s : σ), R s (afterTurns act items s) := by
    intro items
    induction items with
    | nil => exact fun s => refl_of R s
    | cons item rest ih => exact fun s => trans_of R (each item s) (ih _)
  induction items generalizing s with
  | nil => cases member
  | cons item rest ih =>
    rcases List.mem_cons.mp member with here | later
    · rw [here]
      exact moved rest _
    · exact ih later

end StockVerification.Foundation.Action
