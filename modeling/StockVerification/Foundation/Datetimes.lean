import Mathlib

/-!
# Dates with microseconds

A date without a zone, its text and its place in time. Stores keep whole milliseconds.
-/
namespace StockVerification.Foundation

/-- A number in a fixed count of decimal digits. -/
def paddedDigits : Nat → Nat → List Char
  | 0, _ => []
  | width + 1, n => paddedDigits width (n / 10) ++ [Nat.digitChar (n % 10)]

theorem length_paddedDigits (width n : Nat) : (paddedDigits width n).length = width := by
  induction width generalizing n with
  | zero => rfl
  | succ width ih => rw [paddedDigits, List.length_append, ih, List.length_singleton]

theorem digitChar_inj : ∀ n < 10, ∀ m < 10, Nat.digitChar n = Nat.digitChar m → n = m := by
  decide

theorem paddedDigits_inj {width n m : Nat} (small : n < 10 ^ width) (otherSmall : m < 10 ^ width)
    (same : paddedDigits width n = paddedDigits width m) : n = m := by
  induction width generalizing n m with
  | zero =>
    rw [Nat.pow_zero] at small otherSmall
    omega
  | succ width ih =>
    rw [Nat.pow_succ] at small otherSmall
    obtain ⟨front, last⟩ := List.append_inj' same rfl
    have digit := digitChar_inj (n % 10) (by omega) (m % 10) (by omega) (List.head_eq_of_cons_eq last)
    have rest := ih (by omega) (by omega) front
    omega

theorem paddedDigits_append {width n m : Nat} {x y : List Char} (small : n < 10 ^ width) (otherSmall : m < 10 ^ width)
    (same : paddedDigits width n ++ x = paddedDigits width m ++ y) : n = m ∧ x = y := by
  obtain ⟨digits, ends⟩ := List.append_inj same (by rw [length_paddedDigits, length_paddedDigits])
  exact ⟨paddedDigits_inj small otherSmall digits, ends⟩

structure DateTime where
  year : Fin 10000
  month : Fin 13
  day : Fin 32
  hour : Fin 24 := 0
  minute : Fin 60 := 0
  second : Fin 60 := 0
  microsecond : Fin 1000000 := 0
  deriving DecidableEq

namespace DateTime

/-- A number that orders dates as they follow each other. -/
def rank (t : DateTime) : Nat :=
  (((((t.year * 13 + t.month) * 32 + t.day) * 24 + t.hour) * 60 + t.minute) * 60 + t.second) * 1000000 + t.microsecond

/-- The text of a date, without a fraction where it has none. -/
def text (t : DateTime) : List Char :=
  paddedDigits 4 t.year ++ ('-' :: paddedDigits 2 t.month ++ ('-' :: paddedDigits 2 t.day ++
    (' ' :: paddedDigits 2 t.hour ++ (':' :: paddedDigits 2 t.minute ++ (':' :: paddedDigits 2 t.second ++
      if t.microsecond = 0 then [] else '.' :: paddedDigits 6 t.microsecond)))))

/-- The date as a store keeps it. -/
def inMilliseconds (t : DateTime) : DateTime :=
  { t with microsecond := ⟨t.microsecond / 1000 * 1000, by have limit := t.microsecond.isLt; omega⟩ }

theorem inMilliseconds_whole {t : DateTime} (whole : t.microsecond.val % 1000 = 0) : t.inMilliseconds = t := by
  have same : t.microsecond.val / 1000 * 1000 = t.microsecond.val := by omega
  simp only [inMilliseconds, same]

/-- Different dates have different texts. -/
theorem text_injective {a b : DateTime} (same : a.text = b.text) : a = b := by
  unfold text at same
  obtain ⟨year, same⟩ := paddedDigits_append a.year.isLt b.year.isLt same
  have month2 : ∀ n : Fin 13, n.val < 10 ^ 2 := fun n => by omega
  have day2 : ∀ n : Fin 32, n.val < 10 ^ 2 := fun n => by omega
  have hour2 : ∀ n : Fin 24, n.val < 10 ^ 2 := fun n => by omega
  have minute2 : ∀ n : Fin 60, n.val < 10 ^ 2 := fun n => by omega
  obtain ⟨month, same⟩ := paddedDigits_append (month2 _) (month2 _) (List.tail_eq_of_cons_eq same)
  obtain ⟨day, same⟩ := paddedDigits_append (day2 _) (day2 _) (List.tail_eq_of_cons_eq same)
  obtain ⟨hour, same⟩ := paddedDigits_append (hour2 _) (hour2 _) (List.tail_eq_of_cons_eq same)
  obtain ⟨minute, same⟩ := paddedDigits_append (minute2 _) (minute2 _) (List.tail_eq_of_cons_eq same)
  obtain ⟨second, same⟩ := paddedDigits_append (minute2 _) (minute2 _) (List.tail_eq_of_cons_eq same)
  have fraction : a.microsecond = b.microsecond := by
    split at same
    · next whole =>
      split at same
      · next otherWhole => rw [whole, otherWhole]
      · cases same
    · split at same
      · cases same
      · exact Fin.ext (paddedDigits_inj a.microsecond.isLt b.microsecond.isLt (List.tail_eq_of_cons_eq same))
  cases a
  cases b
  simp only [mk.injEq]
  exact ⟨Fin.ext year, Fin.ext month, Fin.ext day, Fin.ext hour, Fin.ext minute, Fin.ext second, fraction⟩

end DateTime

end StockVerification.Foundation
