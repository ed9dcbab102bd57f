import Mathlib.Data.Fin.Basic
import Mathlib.Data.Int.Order.Basic
import Mathlib.Data.Nat.Notation
import Mathlib.Order.Fin.Basic

/-!
# The calendar

Dates of the Gregorian calendar, for all years, and the number of a date's day, counted from the
first of January 1970. Months are counted from zero.
-/
namespace StockVerification.Foundation

namespace Calendar

def isLeap (year : ℤ) : Bool := decide (year % 4 = 0 ∧ (year % 100 ≠ 0 ∨ year % 400 = 0))

def monthLength (leap : Bool) : ℕ → ℕ
  | 1 => if leap then 29 else 28
  | 3 | 5 | 8 | 10 => 30
  | _ => 31

/-- The days of a year before one of its months. -/
def daysBefore (leap : Bool) : ℕ → ℕ
  | 0 => 0
  | month + 1 => daysBefore leap month + monthLength leap month

/-- The number of a year's first day. -/
def yearStart (year : ℤ) : ℤ :=
  365 * (year - 1970) + (year - 1969) / 4 - (year - 1901) / 100 + (year - 1601) / 400

/-- The number of a day. A day beyond the month's end is counted on into the months behind it. -/
def dayNumber (year : ℤ) (month : ℕ) (day : ℤ) : ℤ := yearStart year + daysBefore (isLeap year) month + (day - 1)

theorem monthLength_bounds (leap : Bool) (month : ℕ) : 28 ≤ monthLength leap month ∧ monthLength leap month ≤ 31 := by
  unfold monthLength
  split
  · cases leap <;> decide
  all_goals omega

/-- A month begins where the month before it ends. -/
theorem month_ends (leap : Bool) {month other : ℕ} (before : month < other) :
    daysBefore leap month + monthLength leap month ≤ daysBefore leap other := by
  induction other with
  | zero => omega
  | succ last ih =>
    rw [daysBefore]
    by_cases same : month = last
    · exact le_of_eq (by rw [same])
    · have earlier := ih (by omega)
      omega

theorem yearStart_succ (year : ℤ) : yearStart (year + 1) = yearStart year + daysBefore (isLeap year) 12 := by
  have days : (daysBefore (isLeap year) 12 : ℤ) = if isLeap year then 366 else 365 := by
    cases isLeap year <;> rfl
  rw [days]
  unfold yearStart isLeap
  simp only [decide_eq_true_eq]
  split <;> omega

/-- A year begins where the year before it ends. -/
theorem year_ends {year other : ℤ} (before : year < other) :
    yearStart year + daysBefore (isLeap year) 12 ≤ yearStart other := by
  obtain ⟨n, rfl⟩ := Int.le.dest before
  rw [← yearStart_succ]
  induction n with
  | zero => simp
  | succ n ih =>
    have onward := yearStart_succ (year + 1 + n)
    have onwards : year + 1 + (n + 1 : ℕ) = year + 1 + n + 1 := by omega
    rw [onwards, onward]
    omega

structure Date where
  year : ℤ
  month : Fin 12
  day : ℕ
  positive : 1 ≤ day
  real : day ≤ monthLength (isLeap year) month

namespace Date

def number (date : Date) : ℤ := dayNumber date.year date.month date.day

/-- The date is the other one or comes before it. -/
def NotAfter (date other : Date) : Prop :=
  date.year < other.year ∨ date.year = other.year ∧
    (date.month < other.month ∨ date.month = other.month ∧ date.day ≤ other.day)

theorem number_bounds (date : Date) : yearStart date.year + daysBefore (isLeap date.year) date.month ≤ date.number ∧
      date.number < yearStart date.year + daysBefore (isLeap date.year) date.month +
        monthLength (isLeap date.year) date.month := by
  have first := date.positive
  have last := date.real
  unfold number dayNumber
  omega

theorem number_in_year (date : Date) :
    yearStart date.year ≤ date.number ∧ date.number < yearStart date.year + daysBefore (isLeap date.year) 12 := by
  have bounds := date.number_bounds
  have ends := month_ends (isLeap date.year) date.month.isLt
  omega

variable {other date : Date}

theorem number_lt (later : ¬ date.NotAfter other) : other.number < date.number := by
  obtain ⟨bounds, otherBounds⟩ := And.intro date.number_bounds other.number_bounds
  unfold NotAfter at later
  rcases lt_trichotomy date.year other.year with earlier | same | behind
  · exact absurd (.inl earlier) later
  · rw [same] at bounds
    rcases lt_trichotomy date.month other.month with front | equal | back
    · exact absurd (.inr ⟨same, .inl front⟩) later
    · have days : other.day < date.day := by
        by_contra small
        exact later (.inr ⟨same, .inr ⟨equal, by omega⟩⟩)
      unfold number dayNumber
      rw [same, equal]
      omega
    · have ends := month_ends (isLeap other.year) (Fin.lt_def.mp back)
      omega
  · have ends := year_ends behind
    have inYear := date.number_in_year
    have otherInYear := other.number_in_year
    omega

theorem number_le (notAfter : date.NotAfter other) : date.number ≤ other.number := by
  rcases notAfter with earlier | ⟨same, front | ⟨equal, days⟩⟩
  · have ends := year_ends earlier
    have inYear := date.number_in_year
    have otherInYear := other.number_in_year
    omega
  · have bounds := date.number_bounds
    have otherBounds := other.number_bounds
    have ends := month_ends (isLeap other.year) (Fin.lt_def.mp front)
    rw [same] at bounds
    omega
  · unfold number dayNumber
    rw [same, equal]
    omega

theorem number_le_iff : date.number ≤ other.number ↔ date.NotAfter other := by
  constructor
  · intro le
    by_contra later
    have lt := number_lt later
    omega
  · exact number_le

end Date

end Calendar

end StockVerification.Foundation
