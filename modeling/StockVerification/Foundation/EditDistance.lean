import Mathlib.Order.Bounds.Basic
import Mathlib.Data.List.Basic

/-!
# Edit distance

An edit inserts, deletes or substitutes one entry of a list. The distance follows the common
recursion on both lists, and it is the least length of a script of edits from one list to the other.
-/
namespace StockVerification.Foundation

namespace EditDistance

variable {α : Type}

/-- One edit, anywhere in the list. -/
inductive Edit : List α → List α → Prop
  | insert (front back : List α) (x : α) : Edit (front ++ back) (front ++ x :: back)
  | delete (front back : List α) (x : α) : Edit (front ++ x :: back) (front ++ back)
  | substitute (front back : List α) (x y : α) : Edit (front ++ x :: back) (front ++ y :: back)

/-- A script of so many edits leads from one list to the other. -/
inductive Script : ℕ → List α → List α → Prop
  | done (xs : List α) : Script 0 xs xs
  | step {n : ℕ} {xs ys zs : List α} (edit : Edit xs ys) (rest : Script n ys zs) : Script (n + 1) xs zs

variable {xs ys : List α} (x : α)

theorem Edit.cons (edit : Edit xs ys) : Edit (x :: xs) (x :: ys) := by
  cases edit with
  | insert front back y => exact .insert (x :: front) back y
  | delete front back y => exact .delete (x :: front) back y
  | substitute front back y z => exact .substitute (x :: front) back y z

theorem Edit.reverse (edit : Edit xs ys) : Edit xs.reverse ys.reverse := by
  have turned (front back : List α) (x : α) :
      (front ++ x :: back).reverse = back.reverse ++ x :: front.reverse := by simp
  cases edit with
  | insert front back x =>
    rw [turned, List.reverse_append]
    exact .insert back.reverse front.reverse x
  | delete front back x =>
    rw [turned, List.reverse_append]
    exact .delete back.reverse front.reverse x
  | substitute front back x y =>
    rw [turned, turned]
    exact .substitute back.reverse front.reverse x y

variable {n : ℕ}

theorem Script.cons (script : Script n xs ys) : Script n (x :: xs) (x :: ys) := by
  induction script with
  | done xs => exact .done (x :: xs)
  | step edit _ ih => exact .step (edit.cons x) ih

theorem Script.reverse (script : Script n xs ys) : Script n xs.reverse ys.reverse := by
  induction script with
  | done xs => exact .done xs.reverse
  | step edit _ ih => exact .step edit.reverse ih

theorem script_reverse_iff : Script n xs.reverse ys.reverse ↔ Script n xs ys := by
  constructor
  · intro script
    have back := script.reverse
    rwa [List.reverse_reverse, List.reverse_reverse] at back
  · exact Script.reverse

theorem script_insertions (ys : List α) : Script ys.length [] ys := by
  induction ys with
  | nil => exact .done []
  | cons y ys ih => exact .step (.insert [] [] y) (ih.cons y)

theorem script_deletions (xs : List α) : Script xs.length xs [] := by
  induction xs with
  | nil => exact .done []
  | cons x xs ih => exact .step (.delete [] xs x) ih

variable [DecidableEq α]

def distance : List α → List α → ℕ
  | [], ys => ys.length
  | x :: xs, [] => xs.length + 1
  | x :: xs, y :: ys =>
      if x = y then distance xs ys
      else min (distance xs ys + 1) (min (distance xs (y :: ys) + 1) (distance (x :: xs) ys + 1))
termination_by xs ys => xs.length + ys.length

@[simp] theorem distance_nil (ys : List α) : distance [] ys = ys.length := by
  rw [distance]

@[simp] theorem distance_nil_right (xs : List α) : distance xs [] = xs.length := by
  cases xs with
  | nil => rw [distance]
  | cons x xs => rw [distance, List.length_cons]

theorem distance_cons_same (xs ys : List α) : distance (x :: xs) (x :: ys) = distance xs ys := by
  rw [distance, if_pos rfl]

theorem distance_cons_other {x y : α} (different : x ≠ y) (xs ys : List α) : distance (x :: xs) (y :: ys) =
      min (distance xs ys + 1) (min (distance xs (y :: ys) + 1) (distance (x :: xs) ys + 1)) := by
  rw [distance, if_neg different]

theorem distance_self (xs : List α) : distance xs xs = 0 := by
  induction xs with
  | nil => rw [distance_nil, List.length_nil]
  | cons x xs ih => rw [distance_cons_same, ih]

theorem script_distance (xs ys : List α) : Script (distance xs ys) xs ys := by
  fun_induction distance xs ys with
  | case1 ys => exact script_insertions ys
  | case2 x xs => exact script_deletions (x :: xs)
  | case3 xs y ys ih => exact ih.cons y
  | case4 x xs y ys different substituted deleted inserted =>
    have least : ∀ m n k : ℕ, min m (min n k) = m ∨ min m (min n k) = n ∨ min m (min n k) = k := by omega
    rcases least (distance xs ys + 1) (distance xs (y :: ys) + 1) (distance (x :: xs) ys + 1) with first | second | third
    · rw [first]
      exact .step (.substitute [] xs x y) (substituted.cons y)
    · rw [second]
      exact .step (.delete [] xs x) deleted
    · rw [third]
      exact .step (.insert [] (x :: xs) y) (inserted.cons y)

/-- The numbers differ by at most one. -/
def Near (m n : ℕ) : Prop := m ≤ n + 1 ∧ n ≤ m + 1

/-- One more entry, in either list, changes the distance by at most one. -/
theorem distance_near (xs ys : List α) (x : α) :
    Near (distance (x :: xs) ys) (distance xs ys) ∧ Near (distance xs (x :: ys)) (distance xs ys) := by
  unfold Near
  induction xs generalizing ys x with
  | nil =>
    induction ys generalizing x with
    | nil => simp
    | cons y ys ih =>
      have shorter := ih x
      by_cases same : x = y
      · subst same
        rw [distance_cons_same]
        simp only [distance_nil, List.length_cons]
        omega
      · rw [distance_cons_other same]
        simp only [distance_nil, List.length_cons] at shorter ⊢
        omega
  | cons b xs ihx =>
    induction ys generalizing x with
    | nil =>
      have shorter := ihx [] x
      by_cases same : b = x
      · subst same
        rw [distance_cons_same]
        simp only [distance_nil_right, List.length_cons]
        omega
      · rw [distance_cons_other same]
        simp only [distance_nil_right, List.length_cons] at shorter ⊢
        omega
    | cons y ys ihy =>
      have left (c : α) := ihy c
      have right (c : α) := ihx (y :: ys) c
      constructor
      · by_cases same : x = y
        · subst same
          rw [distance_cons_same]
          have added := (left x).2
          omega
        · rw [distance_cons_other same]
          have added := (left y).2
          have dropped := (left x).1
          omega
      · by_cases same : b = x
        · subst same
          rw [distance_cons_same]
          have added := (right b).1
          omega
        · rw [distance_cons_other same]
          have added := (right b).1
          have dropped := (right x).2
          omega

theorem distance_substitute (y : α) (xs zs : List α) : distance (x :: xs) zs ≤ distance (y :: xs) zs + 1 := by
  induction zs with
  | nil => simp
  | cons z zs ih =>
    obtain ⟨dropped, added⟩ := distance_near xs zs z
    have longer := (distance_near xs zs y).1
    unfold Near at dropped added longer
    by_cases first : x = z <;> by_cases second : y = z
    · subst first second
      omega
    · subst first
      rw [distance_cons_same, distance_cons_other second]
      omega
    · subst second
      rw [distance_cons_same, distance_cons_other first]
      omega
    · rw [distance_cons_other first, distance_cons_other second]
      omega

variable {us vs : List α}

/-- A bound that holds at the tails holds under a common head. -/
theorem distance_cons_le (tails : ∀ zs, distance us zs ≤ distance vs zs + 1) (x : α) (zs : List α) :
    distance (x :: us) zs ≤ distance (x :: vs) zs + 1 := by
  induction zs with
  | nil =>
    have lengths := tails []
    simp only [distance_nil_right, List.length_cons] at lengths ⊢
    omega
  | cons z zs ih =>
    by_cases same : x = z
    · subst same
      rw [distance_cons_same, distance_cons_same]
      exact tails zs
    · rw [distance_cons_other same, distance_cons_other same]
      have substituted := tails zs
      have deleted := tails (z :: zs)
      omega

theorem distance_append_le (tails : ∀ zs, distance us zs ≤ distance vs zs + 1) (front zs : List α) :
    distance (front ++ us) zs ≤ distance (front ++ vs) zs + 1 := by
  induction front generalizing zs with
  | nil => exact tails zs
  | cons x front ih => exact distance_cons_le ih x zs

theorem distance_edit (edit : Edit xs ys) (zs : List α) : distance xs zs ≤ distance ys zs + 1 := by
  cases edit with
  | insert front back x => exact distance_append_le (fun zs => (distance_near back zs x).1.2) front zs
  | delete front back x => exact distance_append_le (fun zs => (distance_near back zs x).1.1) front zs
  | substitute front back x y => exact distance_append_le (distance_substitute x y back) front zs

theorem distance_le (script : Script n xs ys) : distance xs ys ≤ n := by
  induction script with
  | done xs => rw [distance_self]
  | step edit _ ih =>
    have closer := distance_edit edit
    exact (closer _).trans (Nat.succ_le_succ ih)

theorem distance_least (xs ys : List α) : IsLeast {n | Script n xs ys} (distance xs ys) := by
  constructor
  · exact script_distance xs ys
  · intro n script
    exact distance_le script

end EditDistance

end StockVerification.Foundation
