import Mathlib.Data.List.Basic

/-!
# Substituting every match

A matcher is tried at each position of a list, from the left. It answers what follows a match. A
match is replaced and skipped, and any other element is copied.
-/
namespace StockVerification.Foundation

variable {α : Type}

/-- With as many rounds as given. -/
def substituteIn (matcher : List α → Option (List α)) (replacement : List α) : Nat → List α → List α
  | 0, _ => []
  | _ + 1, [] => []
  | rounds + 1, c :: rest =>
    match matcher (c :: rest) with
    | some after => replacement ++ substituteIn matcher replacement rounds after
    | none => c :: substituteIn matcher replacement rounds rest

/-- No match is longer than the list. -/
def substitute (matcher : List α → Option (List α)) (replacement : List α) (s : List α) : List α :=
  substituteIn matcher replacement s.length s

/-- Every match has an element. -/
def Shrinks (matcher : List α → Option (List α)) : Prop :=
  ∀ s after, matcher s = some after → after.length < s.length

/-- Nothing that starts in the first list matches. -/
def Unmatched (matcher : List α → Option (List α)) : List α → List α → Prop
  | [], _ => True
  | c :: rest, b => matcher (c :: rest ++ b) = none ∧ Unmatched matcher rest b

variable {matcher : List α → Option (List α)} {replacement : List α}

instance Unmatched.decidable [DecidableEq α] (matcher : List α → Option (List α)) :
    ∀ a b, Decidable (Unmatched matcher a b)
  | [], _ => inferInstanceAs (Decidable True)
  | c :: rest, b =>
    have := Unmatched.decidable matcher rest b
    inferInstanceAs (Decidable (matcher (c :: rest ++ b) = none ∧ Unmatched matcher rest b))

variable {s : List α}

theorem substituteIn_enough (shrinks : Shrinks matcher) {rounds : Nat} (enough : s.length ≤ rounds) :
    substituteIn matcher replacement rounds s = substitute matcher replacement s := by
  induction rounds using Nat.strongRecOn generalizing s with
  | ind rounds ih =>
    unfold substitute
    cases rounds with
    | zero =>
      have empty : s = [] := List.length_eq_zero_iff.mp (Nat.le_zero.mp enough)
      rw [empty]
      rfl
    | succ rounds =>
      cases s with
      | nil => rfl
      | cons c rest =>
        rw [List.length_cons] at enough ⊢
        rw [substituteIn, substituteIn]
        cases found : matcher (c :: rest) with
        | some after =>
          have shorter := shrinks _ _ found
          rw [List.length_cons] at shorter
          have here := ih rounds (by omega) (s := after) (by omega)
          have there := ih rest.length (by omega) (s := after) (by omega)
          simp only [here, there]
        | none =>
          have here := ih rounds (by omega) (s := rest) (by omega)
          have there := ih rest.length (by omega) (s := rest) (by omega)
          simp only [here, there]

theorem substitute_match (shrinks : Shrinks matcher) {after : List α} (found : matcher s = some after) :
    substitute matcher replacement s = replacement ++ substitute matcher replacement after := by
  have shorter := shrinks _ _ found
  cases s with
  | nil => cases shorter
  | cons c rest =>
    rw [List.length_cons] at shorter
    rw [substitute, List.length_cons, substituteIn, found]
    simp only [substituteIn_enough shrinks (Nat.le_of_lt_succ shorter)]

theorem substitute_copy (shrinks : Shrinks matcher) {c : α} {rest : List α} (nothing : matcher (c :: rest) = none) :
    substitute matcher replacement (c :: rest) = c :: substitute matcher replacement rest := by
  rw [substitute, List.length_cons, substituteIn, nothing]
  simp only [substituteIn_enough shrinks (Nat.le_refl _)]

theorem substitute_append (shrinks : Shrinks matcher) {a b : List α} (unmatched : Unmatched matcher a b) :
    substitute matcher replacement (a ++ b) = a ++ substitute matcher replacement b := by
  induction a with
  | nil => rfl
  | cons c rest ih =>
    have nothing : matcher (c :: (rest ++ b)) = none := unmatched.1
    rw [List.cons_append, substitute_copy shrinks nothing, ih unmatched.2, List.cons_append]

theorem Unmatched.of_heads {a b : List α} (nothing : ∀ c ∈ a, ∀ rest, matcher (c :: rest) = none) :
    Unmatched matcher a b := by
  induction a with
  | nil => trivial
  | cons c rest ih =>
    exact ⟨nothing c List.mem_cons_self _, ih fun d member => nothing d (List.mem_cons_of_mem _ member)⟩

/-- The result starts as the list does or with the replacement. -/
theorem substitute_head (shrinks : Shrinks matcher) (filled : replacement ≠ []) {c : α}
    (first : (substitute matcher replacement s).head? = some c) : s.head? = some c ∨ replacement.head? = some c := by
  cases s with
  | nil => cases first
  | cons d rest =>
    cases found : matcher (d :: rest) with
    | some after =>
      rw [substitute_match shrinks found, List.head?_append_of_ne_nil _ filled] at first
      exact .inr first
    | none =>
      rw [substitute_copy shrinks found] at first
      exact .inl first

end StockVerification.Foundation
