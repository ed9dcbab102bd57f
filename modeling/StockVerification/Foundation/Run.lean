/-!
# Runs

A run takes operations one after another from a first state. `Reaches step ok`
relates the first state to every state on a run whose operations all meet `ok`
in the state they are taken from.
-/
namespace StockVerification.Foundation

variable {σ ω : Type}

inductive Reaches (step : σ → ω → σ) (ok : σ → ω → Prop) (first : σ) : σ → Prop where
  | start : Reaches step ok first first
  | next {s : σ} (op : ω) (run : Reaches step ok first s) (meets : ok s op) :
      Reaches step ok first (step s op)

namespace Reaches

variable {step : σ → ω → σ} {ok : σ → ω → Prop} {first last : σ}

theorem invariant {P : σ → Prop} (run : Reaches step ok first last) (init : P first)
    (kept : ∀ s op, P s → ok s op → P (step s op)) : P last := by
  induction run with
  | start => exact init
  | next op _ meets ih => exact kept _ _ ih meets

theorem head (op : ω) (meets : ok first op) (run : Reaches step ok (step first op) last) :
    Reaches step ok first last := by
  induction run with
  | start => exact .next op .start meets
  | next later _ laterMeets ih => exact .next later ih laterMeets

theorem foldl {ops : List ω} (each : ∀ s, ∀ op ∈ ops, ok s op) : Reaches step ok first (ops.foldl step first) := by
  induction ops generalizing first with
  | nil => exact .start
  | cons op rest ih =>
    exact head op (each first op (by simp)) (ih fun s later member => each s later (by simp [member]))

/-- Whether every operation of a list is admitted where it is taken. -/
def admitted (step : σ → ω → σ) (check : σ → ω → Bool) : σ → List ω → Bool
  | _, [] => true
  | s, op :: rest => check s op && admitted step check (step s op) rest

theorem of_admitted {check : σ → ω → Bool} {ops : List ω} (all : admitted step check first ops = true) :
    Reaches step (fun s op => check s op = true) first (ops.foldl step first) := by
  induction ops generalizing first with
  | nil => exact .start
  | cons op rest ih =>
    rw [admitted, Bool.and_eq_true] at all
    exact head op all.1 (ih all.2)

end Reaches

end StockVerification.Foundation
