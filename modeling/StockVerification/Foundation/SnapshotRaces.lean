import Mathlib.Logic.Function.Basic
import StockVerification.Foundation.Run

/-!
# Races of transactions

Transactions under snapshot isolation: each works on the state that was committed when it began, and
its commit is refused where both it and something committed in the meantime have written one
document. One document is watched here. If whatever writes anything writes that document too, the
transactions that commit run one after another.
-/
namespace StockVerification.Foundation

variable {σ δ ι : Type}

/-- What a commit leaves stored, for the snapshot and the result of a transaction and the state
committed by then; none where the transaction is aborted. -/
abbrev CommitRule (σ : Type) := σ → σ → σ → Option σ

/-- Only a document written on both sides aborts, and the watched one does. -/
structure SnapshotIsolated (watched : σ → δ) (commit : CommitRule σ) : Prop where
  /-- Nothing was committed since the snapshot. -/
  alone : ∀ s t, commit s t s = some t
  /-- The transaction has written nothing. -/
  idle : ∀ s current, commit s s current = some current
  conflict : ∀ s t current, watched s ≠ watched t → watched s ≠ watched current → commit s t current = none

open Classical in
/-- The rule that stores a result only in the place of its snapshot. -/
noncomputable def strictCommit : CommitRule σ := fun snapshot result current =>
  if snapshot = result then some current else if snapshot = current then some result else none

theorem strictCommit_isolated (watched : σ → δ) : SnapshotIsolated watched strictCommit := by
  constructor
  · intro s t
    by_cases same : s = t
    · simp [strictCommit, same]
    · simp [strictCommit, same]
  · intro s current
    simp [strictCommit]
  · intro s t current mine theirs
    have wrote : s ≠ t := fun same => mine (congrArg watched same)
    have moved : s ≠ current := fun same => theirs (congrArg watched same)
    simp [strictCommit, wrote, moved]

/-- How far a transaction is. -/
inductive Phase (σ : Type) where
  | waiting
  | running (snapshot : σ)
  | committed (snapshot result : σ)
  | aborted

/-- The committed state and the transactions. -/
structure Race (σ ι : Type) where
  store : σ
  phase : ι → Phase σ := fun _ => .waiting

inductive RaceMove (ι : Type) where
  | begin (party : ι)
  | finish (party : ι)
  | abort (party : ι)

namespace Race

variable [DecidableEq ι] {commit : CommitRule σ} {body : ι → σ → Option σ}

def enter (race : Race σ ι) (party : ι) (phase : Phase σ) : Race σ ι :=
  { race with phase := Function.update race.phase party phase }

/-- One step. A transaction may be aborted at any time; `body` is what it makes of its snapshot,
none where it is rolled back. -/
def step (commit : CommitRule σ) (body : ι → σ → Option σ) (race : Race σ ι) : RaceMove ι → Race σ ι
  | .begin party =>
    match race.phase party with
    | .waiting => race.enter party (.running race.store)
    | _ => race
  | .finish party =>
    match race.phase party with
    | .running snapshot =>
      match body party snapshot with
      | none => race.enter party .aborted
      | some result =>
        match commit snapshot result race.store with
        | none => race.enter party .aborted
        | some next => { race.enter party (.committed snapshot result) with store := next }
    | _ => race
  | .abort party =>
    match race.phase party with
    | .running _ => race.enter party .aborted
    | _ => race

/-- A step that a serial execution can take, or one that stores nothing. -/
inductive SerialStep (body : ι → σ → Option σ) (race : Race σ ι) : Race σ ι → Prop where
  | begin {party : ι} (waits : race.phase party = .waiting) :
      SerialStep body race (race.enter party (.running race.store))
  | abort {party : ι} {snapshot : σ} (runs : race.phase party = .running snapshot) :
      SerialStep body race (race.enter party .aborted)
  | idle {party : ι} {snapshot : σ} (runs : race.phase party = .running snapshot)
      (result : body party snapshot = some snapshot) :
      SerialStep body race (race.enter party (.committed snapshot snapshot))
  | commit {party : ι} {result : σ} (runs : race.phase party = .running race.store)
      (made : body party race.store = some result) :
      SerialStep body race { race.enter party (.committed race.store result) with store := result }

variable {race : Race σ ι} {party : ι}

theorem enter_phase {other : ι} {phase held : Phase σ} (at_ : (race.enter party phase).phase other = held) :
    other = party ∧ phase = held ∨ other ≠ party ∧ race.phase other = held := by
  by_cases here : other = party
  · subst here
    have own : (race.enter other phase).phase other = phase := by simp [enter]
    exact .inl ⟨rfl, own.symm.trans at_⟩
  · have kept : (race.enter party phase).phase other = race.phase other := by simp [enter, here]
    exact .inr ⟨here, kept.symm.trans at_⟩

/-- Whatever writes anything raises the rank of the watched document. `Formed` is what the
transactions need of a state and keep. -/
structure Climbs (watched : σ → δ) (rank : δ → Nat) (Formed : σ → Prop) (body : ι → σ → Option σ) : Prop where
  climbs : ∀ party s t, Formed s → body party s = some t → t = s ∨ rank (watched s) < rank (watched t)
  formed : ∀ party s t, Formed s → body party s = some t → Formed t

/-- A snapshot is the committed state, or its document has been written since. -/
def Fresh (watched : σ → δ) (rank : δ → Nat) (store snapshot : σ) : Prop :=
  snapshot = store ∨ rank (watched snapshot) < rank (watched store)

/-- Every state a running transaction works on is well formed and an earlier one. -/
structure Ordered (watched : σ → δ) (rank : δ → Nat) (Formed : σ → Prop) (race : Race σ ι) : Prop where
  stored : Formed race.store
  running : ∀ party snapshot, race.phase party = .running snapshot →
    Formed snapshot ∧ Fresh watched rank race.store snapshot

variable {watched : σ → δ} {rank : δ → Nat} {Formed : σ → Prop}

theorem Ordered.enter (ordered : Ordered watched rank Formed race) {phase : Phase σ}
    (entered : ∀ snapshot, phase = .running snapshot → snapshot = race.store) :
    Ordered watched rank Formed (race.enter party phase) := by
  constructor
  · exact ordered.stored
  · intro other snapshot runs
    obtain ⟨_, now⟩ | ⟨_, before⟩ := enter_phase runs
    · rw [entered snapshot now]
      exact ⟨ordered.stored, .inl rfl⟩
    · exact ordered.running other snapshot before

/-- Every step is a serial one. -/
theorem step_serial (isolated : SnapshotIsolated watched commit) (climbs : Climbs watched rank Formed body)
    (ordered : Ordered watched rank Formed race) (move : RaceMove ι) :
    step commit body race move = race ∨ SerialStep body race (step commit body race move) := by
  cases move with
  | begin party =>
    cases phase : race.phase party with
    | waiting => exact .inr (by simpa only [step, phase] using .begin phase)
    | _ => exact .inl (by simp only [step, phase])
  | abort party =>
    cases phase : race.phase party with
    | running snapshot => exact .inr (by simpa only [step, phase] using .abort phase)
    | _ => exact .inl (by simp only [step, phase])
  | finish party =>
    cases phase : race.phase party with
    | running snapshot =>
      cases made : body party snapshot with
      | none => exact .inr (by simpa only [step, phase, made] using .abort phase)
      | some result =>
        cases stored : commit snapshot result race.store with
        | none => exact .inr (by simpa only [step, phase, made, stored] using .abort phase)
        | some next =>
          refine .inr ?_
          simp only [step, phase, made, stored]
          obtain ⟨formed, fresh⟩ := ordered.running party snapshot phase
          obtain rfl | higher := climbs.climbs party snapshot result formed made
          · -- nothing was written, so the commit stores nothing
            have same : next = race.store := Option.some.inj (stored.symm.trans (isolated.idle result race.store))
            subst same
            exact .idle phase made
          · obtain rfl | older := fresh
            · have same : next = result := Option.some.inj (stored.symm.trans (isolated.alone race.store result))
              subst same
              exact .commit phase made
            · -- both sides wrote the document, and the database aborts
              have mine : watched snapshot ≠ watched result := fun same => by
                rw [same] at higher
                omega
              have theirs : watched snapshot ≠ watched race.store := fun same => by
                rw [same] at older
                omega
              rw [isolated.conflict snapshot result race.store mine theirs] at stored
              cases stored
    | _ => exact .inl (by simp only [step, phase])

theorem Ordered.step {race' : Race σ ι} (climbs : Climbs watched rank Formed body)
    (ordered : Ordered watched rank Formed race) (serial : SerialStep body race race') :
    Ordered watched rank Formed race' := by
  cases serial with
  | begin waits =>
    exact ordered.enter fun snapshot now => (Phase.running.inj now).symm
  | abort runs | idle runs result => exact ordered.enter nofun
  | @commit party result runs made =>
    constructor
    · exact climbs.formed party race.store result ordered.stored made
    · intro other snapshot later
      obtain ⟨_, now⟩ | ⟨_, before⟩ := enter_phase later
      · cases now
      · obtain ⟨formed, fresh⟩ := ordered.running other snapshot before
        refine ⟨formed, ?_⟩
        obtain rfl | higher := climbs.climbs party race.store result ordered.stored made
        · exact fresh
        · right
          obtain rfl | older := fresh
          · exact higher
          · exact Nat.lt_trans older higher

section

variable (isolated : SnapshotIsolated watched commit)
include isolated

/-- What serial steps keep holds in every state of a race. -/
theorem serial_invariant (climbs : Climbs watched rank Formed body) {start : σ} (formed : Formed start)
    (run : Reaches (step commit body) (fun _ _ => True) { store := start } race)
    {P : Race σ ι → Prop} (init : P { store := start })
    (kept : ∀ before after, Ordered watched rank Formed before → P before → SerialStep body before after → P after) :
    P race := by
  have first : Ordered watched rank Formed ({ store := start } : Race σ ι) ∧ P { store := start } :=
    ⟨⟨formed, nofun⟩, init⟩
  have both : Ordered watched rank Formed race ∧ P race := by
    apply @Reaches.invariant _ _ _ _ _ _ (fun race => Ordered watched rank Formed race ∧ P race) run first
    intro before move inv _
    obtain ⟨ordered, holds⟩ := inv
    obtain same | serial := step_serial isolated climbs ordered move
    · rw [same]
      exact ⟨ordered, holds⟩
    · exact ⟨ordered.step climbs serial, kept _ _ ordered holds serial⟩
  exact both.2

/-- A waiting transaction can run while no other one commits. -/
theorem runs_alone {first : Race σ ι} (run : Reaches (step commit body) (fun _ _ => True) first race) {result : σ}
    (waits : race.phase party = .waiting) (made : body party race.store = some result) :
    ∃ later, Reaches (step commit body) (fun _ _ => True) first later ∧ later.store = result ∧
      later.phase party = .committed race.store result ∧
      ∀ other, other ≠ party → later.phase other = race.phase other := by
  have begun := Reaches.next (.begin party) run trivial
  have finished := Reaches.next (.finish party) begun trivial
  have begins : step commit body race (.begin party) = race.enter party (.running race.store) := by
    simp only [step, waits]
  have runs : (race.enter party (.running race.store)).phase party = .running race.store := by simp [enter]
  have stored : (race.enter party (.running race.store)).store = race.store := rfl
  rw [begins] at finished
  refine ⟨_, finished, ?_, ?_, ?_⟩
  · simp only [step, runs, made, stored, isolated.alone]
  · simp only [step, runs, made, stored, isolated.alone]
    simp [enter]
  · intro other apart
    simp only [step, runs, made, stored, isolated.alone]
    simp [enter, apart]

theorem runs_both {start middle last : σ} {first second : ι} (apart : second ≠ first)
    (made : body first start = some middle) (follows : body second middle = some last) :
    ∃ race, Reaches (step commit body) (fun _ _ => True) { store := start } race ∧
      race.phase second = .committed middle last := by
  have begun : Reaches (step commit body) (fun _ _ => True) { store := start } { store := start } := .start
  obtain ⟨race, run, rfl, _, kept⟩ := runs_alone isolated begun rfl made
  obtain ⟨later, ran, _, committed, _⟩ := runs_alone isolated run (kept second apart) follows
  exact ⟨later, ran, committed⟩

end

end Race

end StockVerification.Foundation
