import Mathlib

/-!
# Requests on a shared store

A request reads and writes one store and may stop with an error part-way. The
store is not restored by the error itself: what was written before the failure
stays written, and only an enclosing unit of work can take it back.

`Moves R x` says that a request takes every store to an `R`-related one, in both
outcomes. Preservation of an invariant and "this part of the store is untouched"
are both instances, so one set of composition rules serves every result below.
-/
namespace StockVerification.Foundation

/-- A request on a store `σ` that answers with `α` or stops with `ε`. -/
abbrev Action (σ ε α : Type) := EStateM ε σ α

namespace Action

variable {σ ε α β : Type}

/-- The store a request leaves behind, whatever its answer. -/
def final (x : Action σ ε α) (s : σ) : σ :=
  match x s with
  | .ok _ t => t
  | .error _ t => t

/-- Whether the request answers. -/
def succeeds (x : Action σ ε α) (s : σ) : Bool :=
  match x s with
  | .ok _ _ => true
  | .error _ _ => false

/-- A step that looks at the store and cannot change it. -/
def reads (f : σ → Except ε α) : Action σ ε α := fun s =>
  match f s with
  | .ok a => .ok a s
  | .error e => .error e s

/-- One atomic write: it replaces the store or fails and leaves it alone. -/
def writes (f : σ → Except ε σ) : Action σ ε Unit := fun s =>
  match f s with
  | .ok t => .ok () t
  | .error e => .error e s

/-- One atomic write that also answers. -/
def transacts (f : σ → Except ε (α × σ)) : Action σ ε α := fun s =>
  match f s with
  | .ok (a, t) => .ok a t
  | .error e => .error e s

/-- A request that looks at the whole store it starts from. -/
def withStore (f : σ → Action σ ε α) : Action σ ε α := fun s => f s s

/-- The request with its error translated. -/
def mapError (f : ε → ε) (x : Action σ ε α) : Action σ ε α := fun s =>
  match x s with
  | .ok a t => .ok a t
  | .error e t => .error (f e) t

/-- Catch the error as a value. What was written before it stays written. -/
def attempt (x : Action σ ε α) : Action σ ε (Except ε α) := fun s =>
  match x s with
  | .ok a t => .ok (.ok a) t
  | .error e t => .ok (.error e) t

/-- `x` takes every store to an `R`-related store, on success and on failure. -/
def Moves (R : σ → σ → Prop) (x : Action σ ε α) : Prop := ∀ s, R s (x.final s)

variable {x : Action σ ε α} {s t : σ}

theorem bind_ok {f : α → Action σ ε β} {b : β} : (x >>= f) s = .ok b t ↔ ∃ a u, x s = .ok a u ∧ f a u = .ok b t := by
  simp only [bind, EStateM.bind]
  cases h : x s with
  | ok a u =>
    constructor
    · intro ran
      exact ⟨a, u, rfl, ran⟩
    · rintro ⟨a', u', same, ran⟩
      cases same
      exact ran
  | error e u => simp

variable {a : α}

@[simp] theorem pure_ok {b : α} : (pure a : Action σ ε α) s = .ok b t ↔ a = b ∧ s = t := by
  simp [pure, EStateM.pure]

@[simp] theorem throw_ok {e : ε} {b : α} : ¬ (throw e : Action σ ε α) s = .ok b t := by
  simp [throw, throwThe, MonadExceptOf.throw, EStateM.throw]

theorem reads_ok {f : σ → Except ε α} : reads f s = .ok a t ↔ f s = .ok a ∧ s = t := by
  unfold reads
  cases h : f s with
  | ok b => simp
  | error e => simp

variable {f : σ → Except ε σ}

theorem writes_ok {u : Unit} : writes f s = .ok u t ↔ f s = .ok t := by
  unfold writes
  cases h : f s with
  | ok b => simp
  | error e => simp

theorem transacts_ok {f : σ → Except ε (α × σ)} : transacts f s = .ok a t ↔ f s = .ok (a, t) := by
  unfold transacts
  cases h : f s with
  | ok b => simp [Prod.ext_iff]
  | error e => simp

@[simp] theorem withStore_ok {f : σ → Action σ ε α} : withStore f s = .ok a t ↔ f s s = .ok a t := Iff.rfl

@[simp] theorem mapError_ok {f : ε → ε} : x.mapError f s = .ok a t ↔ x s = .ok a t := by
  unfold mapError
  cases x s <;> simp

/-- Catching never fails, and leaves the store the caught request left. -/
theorem attempt_ok {answer : Except ε α} : x.attempt s = .ok answer t ↔
      (∃ a, x s = .ok a t ∧ answer = .ok a) ∨ ∃ e, x s = .error e t ∧ answer = .error e := by
  unfold attempt
  cases x s with
  | ok a u =>
    constructor
    · intro ran
      cases ran
      exact .inl ⟨a, rfl, rfl⟩
    · rintro (⟨b, same, rfl⟩ | ⟨e, same, rfl⟩)
      · cases same
        rfl
      · cases same
  | error e u =>
    constructor
    · intro ran
      cases ran
      exact .inr ⟨e, rfl, rfl⟩
    · rintro (⟨b, same, rfl⟩ | ⟨e', same, rfl⟩)
      · cases same
      · cases same
        rfl

theorem exists_ok (h : x.succeeds s = true) : ∃ a t, x s = .ok a t := by
  unfold succeeds at h
  split at h
  · next a t ran => exact ⟨a, t, ran⟩
  · cases h

theorem succeeds_of_ok (h : x s = .ok a t) : x.succeeds s = true := by
  simp [succeeds, h]

theorem final_of_ok (h : x s = .ok a t) : x.final s = t := by
  simp [final, h]

theorem final_bind (x : Action σ ε α) (f : α → Action σ ε β) (s : σ) :
    (∃ a t, x s = .ok a t ∧ (x >>= f).final s = (f a).final t) ∨ (x >>= f).final s = x.final s := by
  simp only [final, bind, EStateM.bind]
  cases h : x s with
  | ok a t => exact .inl ⟨a, t, rfl, rfl⟩
  | error e t => exact .inr rfl

theorem final_bind_of_ok {f : α → Action σ ε β} (ran : x s = .ok a t) : (x >>= f).final s = (f a).final t := by
  simp only [final, bind, EStateM.bind, ran]

@[simp] theorem final_mapError (f : ε → ε) (x : Action σ ε α) (s : σ) : (x.mapError f).final s = x.final s := by
  simp only [final, mapError]
  cases x s <;> rfl

@[simp] theorem final_attempt (x : Action σ ε α) (s : σ) : x.attempt.final s = x.final s := by
  simp only [final, attempt]
  cases x s <;> rfl

@[simp] theorem final_withStore (f : σ → Action σ ε α) (s : σ) : (withStore f).final s = (f s).final s := by
  simp only [final, withStore]

@[simp] theorem final_pure (a : α) (s : σ) : (pure a : Action σ ε α).final s = s := rfl

section final

variable {P : σ → Prop} {next : α → Action σ ε β}

theorem final_reads_bind {f : σ → Except ε α} (stop : P s)
    (go : ∀ a, f s = .ok a → P ((next a).final s)) : P ((reads f >>= next).final s) := by
  simp only [final, reads, bind, EStateM.bind] at go ⊢
  cases h : f s with
  | ok a => exact go a h
  | error e => exact stop

theorem final_writes_bind {next : Unit → Action σ ε β} (stop : P s)
    (go : ∀ t, f s = .ok t → P ((next ()).final t)) : P ((writes f >>= next).final s) := by
  simp only [final, writes, bind, EStateM.bind] at go ⊢
  cases h : f s with
  | ok t => exact go t h
  | error e => exact stop

theorem final_transacts_bind {f : σ → Except ε (α × σ)} (stop : P s)
    (go : ∀ a t, f s = .ok (a, t) → P ((next a).final t)) : P ((transacts f >>= next).final s) := by
  simp only [final, transacts, bind, EStateM.bind] at go ⊢
  cases h : f s with
  | ok b => exact go b.1 b.2 h
  | error e => exact stop

theorem final_bind_keep (first : P (x.final s))
    (go : ∀ a t, x s = .ok a t → P t → P ((next a).final t)) : P ((x >>= next).final s) := by
  obtain ⟨a, t, ran, eq⟩ | eq := final_bind x next s
  · rw [eq]
    rw [final_of_ok ran] at first
    exact go a t ran first
  · rw [eq]
    exact first

theorem final_reads {f : σ → Except ε α} (stop : P s) : P ((reads f).final s) := by
  simp only [final, reads]
  cases f s <;> exact stop

theorem final_writes (stop : P s) (go : ∀ t, f s = .ok t → P t) : P ((writes f).final s) := by
  simp only [final, writes]
  cases h : f s with
  | ok t => exact go t h
  | error e => exact stop

end final

section rules

variable {R : σ → σ → Prop}

theorem Moves.pure [Std.Refl R] (a : α) : Moves R (Pure.pure a : Action σ ε α) :=
  fun s => refl_of R s

theorem Moves.throw [Std.Refl R] (e : ε) : Moves R (throw e : Action σ ε α) :=
  fun s => refl_of R s

theorem Moves.reads [Std.Refl R] (f : σ → Except ε α) : Moves R (reads f) := by
  intro s
  have same : (Action.reads f).final s = s := by
    simp only [Action.reads, final]
    cases f s <;> rfl
  rw [same]
  exact refl_of R s

theorem Moves.writes [Std.Refl R] (step : ∀ s t, f s = .ok t → R s t) : Moves R (writes f) := by
  intro s
  simp only [Action.writes, final]
  cases h : f s with
  | ok t => exact step s t h
  | error e => exact refl_of R s

theorem Moves.bind [IsTrans σ R] {f : α → Action σ ε β} (first : Moves R x)
    (rest : ∀ a, Moves R (f a)) : Moves R (x >>= f) := by
  intro s
  obtain ⟨a, t, ran, eq⟩ | eq := final_bind x f s
  · rw [eq]
    have toMiddle : R s t := by simpa [final_of_ok ran] using first s
    exact trans_of R toMiddle (rest a t)
  · rw [eq]
    exact first s

theorem Moves.mapError (f : ε → ε) (inner : Moves R x) : Moves R (x.mapError f) := by
  intro s
  rw [final_mapError]
  exact inner s

theorem Moves.attempt (inner : Moves R x) : Moves R x.attempt := by
  intro s
  rw [final_attempt]
  exact inner s

theorem Moves.forM [Std.Refl R] [IsTrans σ R] {xs : List β} {f : β → Action σ ε PUnit}
    (each : ∀ b ∈ xs, Moves R (f b)) : Moves R (xs.forM f) := by
  induction xs with
  | nil => exact Moves.pure _
  | cons b rest ih =>
    exact Moves.bind (each b (by simp)) fun _ =>
      ih fun c member => each c (by simp [member])

end rules

end Action

end StockVerification.Foundation
