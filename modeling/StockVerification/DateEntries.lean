import StockVerification.Foundation.Calendar
import StockVerification.Foundation.Separators
import StockVerification.OfflineQueue

/-!
# Entered dates

Source: frontend/src/features/inventory/hooks/scan/useFlexibleDateField.ts:81-146.

A date is entered as day, month and year with slashes between them. The three numbers are checked
one by one, and a `Date` built from them is compared with the current one.
-/
namespace StockVerification

open Foundation

inductive DateFormatType where
  | full
  | monthYear
  | yearOnly
  | none
  deriving DecidableEq

/-- The furthest a `Date` reaches from the first of January 1970, in milliseconds. -/
def dateLimit : ℤ := 8640000000000000

/-- The current date in its zone. `midnight` is the time at which a day begins there; a day that the
zone skips begins with the next one. -/
structure CurrentDate where
  midnight : ℤ → ℤ
  ordered : Monotone midnight
  time : ℤ
  reached : time ≤ dateLimit
  today : Calendar.Date
  begun : midnight today.number ≤ time
  ends : time < midnight (today.number + 1)

namespace CurrentDate

def getFullYear (currentDate : CurrentDate) : ℤ := currentDate.today.year

def getMonth (currentDate : CurrentDate) : ℕ := currentDate.today.month

theorem midnight_le {currentDate : CurrentDate} {day : ℤ} :
    currentDate.midnight day ≤ currentDate.time ↔ day ≤ currentDate.today.number := by
  constructor
  · intro begun
    by_contra later
    have tomorrow : currentDate.today.number + 1 ≤ day := by omega
    have ordered := currentDate.ordered tomorrow
    have ends := currentDate.ends
    omega
  · intro notAfter
    exact (currentDate.ordered notAfter).trans currentDate.begun

end CurrentDate

/-- `Number(text)` where it is finite, with the empty text as 0. -/
def toNumber (text : String) : Option ℚ := if trim text = "" then some 0 else numberOfText text

def makeFullYear (year : ℤ) : ℤ := if 0 ≤ year ∧ year ≤ 99 then 1900 + year else year

/-- The time of `new Date(year, month, day)`, if it is one a `Date` can have. -/
def newDate (midnight : ℤ → ℤ) (year month day : ℚ) : Option ℤ :=
  let fullYear := makeFullYear (truncate year) + truncate month / 12
  let time := midnight (Calendar.dayNumber fullYear (truncate month % 12).toNat (truncate day))
  if -dateLimit ≤ time ∧ time ≤ dateLimit then some time else none

section

variable (number : String → Option ℚ)

def isValidDateYear (year earliestYear : ℚ) (currentDate : CurrentDate) : Bool :=
  decide (earliestYear ≤ year) && decide (year ≤ currentDate.getFullYear)

def splitParts (input : String) : List String := (input.toList.splitOn '/').map String.ofList

def validateFullDateInput (input : String) (earliestYear : ℚ) (currentDate : CurrentDate) : Bool :=
  match splitParts input with
  | [dayText, monthText, yearText] =>
    match number dayText, number monthText, number yearText with
    | some day, some month, some year =>
      if day < 1 ∨ 31 < day ∨ month < 1 ∨ 12 < month then false
      else if isValidDateYear year earliestYear currentDate = false then false
      else match newDate currentDate.midnight year (month - 1) day with
        | none => false
        | some date => decide (date ≤ currentDate.time)
    -- A number that is not finite fails the checks of its range.
    | _, _, _ => false
  | _ => false

def validateMonthYearInput (input : String) (earliestYear : ℚ) (currentDate : CurrentDate) : Bool :=
  match splitParts input with
  | [monthText, yearText] =>
    match number monthText, number yearText with
    | some month, some year =>
      if month < 1 ∨ 12 < month then false
      else if isValidDateYear year earliestYear currentDate = false then false
      else if year ≠ currentDate.getFullYear then true
      else decide (month ≤ currentDate.getMonth + 1)
    | _, _ => false
  | _ => false

def validateYearOnlyInput (input : String) (earliestYear : ℚ) (currentDate : CurrentDate) : Bool :=
  match number input with
  | none => false
  | some year => isValidDateYear year earliestYear currentDate

def validateFlexibleDateInput (input : String) (format : DateFormatType) (earliestYear : ℚ)
    (currentDate : CurrentDate) : Bool :=
  if input = "" then true
  else match format with
    | .full => validateFullDateInput number input earliestYear currentDate
    | .monthYear => validateMonthYearInput number input earliestYear currentDate
    | .yearOnly => validateYearOnlyInput number input earliestYear currentDate
    | .none => true

end

def fullEntry (day month year : String) : String := day ++ "/" ++ month ++ "/" ++ year

/-- The numbers the three texts of an entry stand for. -/
structure ReadAs (number : String → Option ℚ) (day month year : String) (d m y : ℚ) : Prop where
  apart : '/' ∉ day.toList ∧ '/' ∉ month.toList ∧ '/' ∉ year.toList
  day : number day = some d
  month : number month = some m
  year : number year = some y

structure NumbersOf (date : Calendar.Date) (d m y : ℚ) : Prop where
  day : d = date.day
  month : m = (date.month : ℕ) + 1
  year : y = date.year

/-- An entry is accepted exactly if it denotes a date from the allowed years that is not after
today. -/
def DateEntryExact (number : String → Option ℚ) (day month year : String) (earliestYear : ℚ)
    (currentDate : CurrentDate) : Prop :=
  validateFlexibleDateInput number (fullEntry day month year) .full earliestYear currentDate = true ↔
    ∃ date d m y, ReadAs number day month year d m y ∧ NumbersOf date d m y ∧
      earliestYear ≤ date.year ∧ date.year ≤ currentDate.getFullYear ∧ date.NotAfter currentDate.today

/-- The numbers that pass the checks made on each of them. -/
structure PartsAllowed (earliestYear : ℚ) (currentDate : CurrentDate) (d m y : ℚ) : Prop where
  day : 1 ≤ d ∧ d ≤ 31
  month : 1 ≤ m ∧ m ≤ 12
  year : earliestYear ≤ y ∧ y ≤ currentDate.getFullYear

/-- The day one comes to with the whole parts of the numbers, going on into the next month at a
month's end. -/
def countedDay (d m y : ℚ) : ℤ := Calendar.dayNumber (makeFullYear (truncate y)) (truncate (m - 1)).toNat (truncate d)

/-- Numbers that are not those of a date lead beyond today or to before the first `Date`, and a date
of the past stays one when its year is read as one of the twentieth century. -/
structure EntriesRoll (number : String → Option ℚ) (day month year : String) (earliestYear : ℚ)
    (currentDate : CurrentDate) : Prop where
  noDate : ∀ d m y, ReadAs number day month year d m y →
    PartsAllowed earliestYear currentDate d m y → (∀ date, ¬ NumbersOf date d m y) →
    currentDate.today.number < countedDay d m y ∨ currentDate.midnight (countedDay d m y) < -dateLimit
  past : ∀ d m y date, ReadAs number day month year d m y → NumbersOf date d m y →
    earliestYear ≤ date.year → date.NotAfter currentDate.today →
      -dateLimit ≤ currentDate.midnight (countedDay d m y) ∧ (0 ≤ date.year → date.year ≤ 99 →
        Calendar.dayNumber (1900 + date.year) date.month date.day ≤ currentDate.today.number)

section

variable {number : String → Option ℚ} {day month year : String} {earliestYear : ℚ}
  {currentDate : CurrentDate} {d m y : ℚ} {date : Calendar.Date}

theorem splitOn_fullEntry : (fullEntry day month year).toList.splitOn '/' =
    day.toList.splitOn '/' ++ (month.toList.splitOn '/' ++ year.toList.splitOn '/') := by
  have slash : "/".toList = ['/'] := rfl
  simp only [fullEntry, String.toList_append, slash, List.append_assoc, List.nil_append,
    List.cons_append, List.splitOn_append_cons_self]

theorem splitParts_fullEntry (apart : '/' ∉ day.toList ∧ '/' ∉ month.toList ∧ '/' ∉ year.toList) :
    splitParts (fullEntry day month year) = [day, month, year] := by
  obtain ⟨dayApart, monthApart, yearApart⟩ := apart
  rw [splitParts, splitOn_fullEntry, List.splitOn_eq_singleton dayApart,
    List.splitOn_eq_singleton monthApart, List.splitOn_eq_singleton yearApart]
  simp

theorem splitParts_three (three : (splitParts (fullEntry day month year)).length = 3) :
    '/' ∉ day.toList ∧ '/' ∉ month.toList ∧ '/' ∉ year.toList := by
  have filled (text : List Char) : 1 ≤ (text.splitOn '/').length :=
    List.length_pos_of_ne_nil (List.splitOn_ne_nil _ _)
  have parts := filled day.toList
  have monthParts := filled month.toList
  have yearParts := filled year.toList
  rw [splitParts, List.length_map, splitOn_fullEntry, List.length_append, List.length_append] at three
  refine ⟨Separated.splitOn_single.mp ?_, Separated.splitOn_single.mp ?_, Separated.splitOn_single.mp ?_⟩ <;> omega

theorem truncate_floor (positive : 0 ≤ d) : truncate d = ⌊d⌋ := if_pos positive

theorem month_index (allowed : 1 ≤ m ∧ m ≤ 12) : 0 ≤ truncate (m - 1) ∧ truncate (m - 1) ≤ 11 := by
  have positive : 0 ≤ m - 1 := by linarith
  rw [truncate_floor positive]
  refine ⟨Int.floor_nonneg.mpr positive, Int.floor_le_iff.mpr ?_⟩
  push_cast
  linarith

theorem newDate_counted (allowed : 1 ≤ m ∧ m ≤ 12) : newDate currentDate.midnight y (m - 1) d =
    if -dateLimit ≤ currentDate.midnight (countedDay d m y) ∧ currentDate.midnight (countedDay d m y) ≤ dateLimit
    then some (currentDate.midnight (countedDay d m y)) else none := by
  obtain ⟨first, last⟩ := month_index allowed
  have sameYear : truncate (m - 1) / 12 = 0 := by omega
  have index : truncate (m - 1) % 12 = truncate (m - 1) := by omega
  simp only [newDate, countedDay, sameYear, index, Int.add_zero]
  rfl

/-- What an entry in full is accepted for. -/
theorem validateFullDateInput_iff :
    validateFullDateInput number (fullEntry day month year) earliestYear currentDate = true ↔
      ∃ d m y, ReadAs number day month year d m y ∧ PartsAllowed earliestYear currentDate d m y ∧
        -dateLimit ≤ currentDate.midnight (countedDay d m y) ∧ countedDay d m y ≤ currentDate.today.number := by
  constructor
  · intro accepted
    unfold validateFullDateInput at accepted
    split at accepted
    · next dayText monthText yearText parts =>
      have apart := splitParts_three (by rw [parts]; rfl)
      rw [splitParts_fullEntry apart] at parts
      obtain ⟨rfl, rfl, rfl⟩ : day = dayText ∧ month = monthText ∧ year = yearText := by simpa using parts
      split at accepted
      · next d m y readDay readMonth readYear =>
        split at accepted
        · cases accepted
        · next inside =>
          split at accepted
          · cases accepted
          · next yearInside =>
            push Not at inside
            obtain ⟨dayFrom, dayTo, monthFrom, monthTo⟩ := inside
            simp only [isValidDateYear, Bool.not_eq_false, Bool.and_eq_true, decide_eq_true_eq] at yearInside
            rw [newDate_counted ⟨monthFrom, monthTo⟩] at accepted
            split at accepted
            · cases accepted
            · next time built =>
              split at built
              · next inRange =>
                rw [Option.some.injEq] at built
                rw [← built, decide_eq_true_eq, CurrentDate.midnight_le] at accepted
                exact ⟨d, m, y, ⟨apart, readDay, readMonth, readYear⟩,
                  ⟨⟨dayFrom, dayTo⟩, ⟨monthFrom, monthTo⟩, yearInside⟩, inRange.1, accepted⟩
              · cases built
      · cases accepted
    · cases accepted
  · rintro ⟨d, m, y, read, allowed, early, notAfter⟩
    have begun := CurrentDate.midnight_le.mpr notAfter
    have inRange := And.intro early (begun.trans currentDate.reached)
    have dayInside : ¬ (d < 1 ∨ 31 < d ∨ m < 1 ∨ 12 < m) := by
      push Not
      exact ⟨allowed.day.1, allowed.day.2, allowed.month.1, allowed.month.2⟩
    simp only [validateFullDateInput, splitParts_fullEntry read.apart, read.day, read.month, read.year, if_neg dayInside,
      isValidDateYear, decide_eq_true allowed.year.1, decide_eq_true allowed.year.2, Bool.and_self,
      newDate_counted allowed.month, if_pos inRange, decide_eq_true begun]
    rfl

theorem countedDay_date (numbers : NumbersOf date d m y) :
    countedDay d m y = Calendar.dayNumber (makeFullYear date.year) date.month date.day := by
  have month : m - 1 = ((date.month : ℕ) : ℤ) := by
    rw [numbers.month]
    push_cast
    ring
  have dayWhole : d = ((date.day : ℕ) : ℤ) := by rw [numbers.day]; push_cast; rfl
  rw [countedDay, truncate_eq_self month, truncate_eq_self dayWhole, truncate_eq_self numbers.year, Int.toNat_natCast]

theorem date_allowed (numbers : NumbersOf date d m y) (earliest : earliestYear ≤ date.year)
    (latest : date.year ≤ currentDate.getFullYear) : PartsAllowed earliestYear currentDate d m y := by
  have first := date.positive
  have last := date.real.trans (Calendar.monthLength_bounds _ _).2
  have months := date.month.isLt
  refine ⟨?_, ?_, ?_⟩
  · rw [numbers.day]
    exact ⟨by exact_mod_cast first, by exact_mod_cast last⟩
  · rw [numbers.month]
    have lower : 1 ≤ (date.month : ℕ) + 1 := by omega
    have upper : (date.month : ℕ) + 1 ≤ 12 := by omega
    exact ⟨by exact_mod_cast lower, by exact_mod_cast upper⟩
  · rw [numbers.year]
    exact ⟨earliest, by exact_mod_cast latest⟩

theorem read_unique {d' m' y' : ℚ} (read : ReadAs number day month year d m y)
    (other : ReadAs number day month year d' m' y') : d = d' ∧ m = m' ∧ y = y' := by
  have days := read.day.symm.trans other.day
  have months := read.month.symm.trans other.month
  have years := read.year.symm.trans other.year
  simp only [Option.some.injEq] at days months years
  exact ⟨days, months, years⟩

theorem year_of_notAfter {other : Calendar.Date} (notAfter : date.NotAfter other) : date.year ≤ other.year := by
  rcases notAfter with earlier | ⟨same, _⟩
  · omega
  · omega

theorem countedDay_past (numbers : NumbersOf date d m y) (notAfter : date.NotAfter currentDate.today) :
    countedDay d m y ≤ currentDate.today.number ↔ (0 ≤ date.year → date.year ≤ 99 →
      Calendar.dayNumber (1900 + date.year) date.month date.day ≤ currentDate.today.number) := by
  rw [countedDay_date numbers, makeFullYear]
  by_cases short : 0 ≤ date.year ∧ date.year ≤ 99
  · rw [if_pos short]
    exact ⟨fun le _ _ => le, fun le => le short.1 short.2⟩
  · rw [if_neg short]
    have own := Calendar.Date.number_le notAfter
    exact ⟨fun _ low high => absurd ⟨low, high⟩ short, fun _ => own⟩

theorem notAfter_of_counted (numbers : NumbersOf date d m y)
    (counted : countedDay d m y ≤ currentDate.today.number) : date.NotAfter currentDate.today := by
  rw [countedDay_date numbers, makeFullYear] at counted
  split at counted
  · have later : date.year < 1900 + date.year := by omega
    have ends := Calendar.year_ends later
    have inYear := date.number_in_year
    have first := date.positive
    unfold Calendar.dayNumber at counted
    exact Calendar.Date.number_le_iff.mp (by omega)
  · exact Calendar.Date.number_le_iff.mp counted

/-- Date entry is exact for three texts exactly if their numbers, within their ranges, are those of
a date wherever the day they lead to is neither after today nor before the first `Date`, and if
every date of the past stays one. -/
theorem date_entry_iff (number : String → Option ℚ) (day month year : String) (earliestYear : ℚ)
    (currentDate : CurrentDate) :
    DateEntryExact number day month year earliestYear currentDate ↔
      EntriesRoll number day month year earliestYear currentDate := by
  have filled : fullEntry day month year ≠ "" := by
    intro empty
    have texts := congrArg String.toList empty
    simp [fullEntry] at texts
  unfold DateEntryExact
  rw [validateFlexibleDateInput, if_neg filled]
  rw [validateFullDateInput_iff]
  constructor
  · rintro ⟨accepts, finds⟩
    refine ⟨fun d m y read allowed noDate => ?_, fun d m y date read numbers earliest notAfter => ?_⟩
    · by_contra near
      push Not at near
      obtain ⟨date, d', m', y', readAs, numbers, _⟩ := accepts ⟨d, m, y, read, allowed, near.2, near.1⟩
      obtain ⟨rfl, rfl, rfl⟩ := read_unique read readAs
      exact noDate date numbers
    · obtain ⟨d', m', y', readAs, _, early, counted⟩ :=
        finds ⟨date, d, m, y, read, numbers, earliest, year_of_notAfter notAfter, notAfter⟩
      obtain ⟨rfl, rfl, rfl⟩ := read_unique read readAs
      exact ⟨early, (countedDay_past numbers notAfter).mp counted⟩
  · intro rolls
    constructor
    · rintro ⟨d, m, y, read, allowed, early, counted⟩
      by_cases isDate : ∃ date, NumbersOf date d m y
      · obtain ⟨date, numbers⟩ := isDate
        have years := allowed.year
        rw [numbers.year] at years
        exact ⟨date, d, m, y, read, numbers, years.1, by exact_mod_cast years.2, notAfter_of_counted numbers counted⟩
      · rcases rolls.noDate d m y read allowed (not_exists.mp isDate) with late | before
        · omega
        · omega
    · rintro ⟨date, d, m, y, read, numbers, earliest, latest, notAfter⟩
      obtain ⟨early, past⟩ := rolls.past d m y date read numbers earliest notAfter
      exact ⟨d, m, y, read, date_allowed numbers earliest latest, early, (countedDay_past numbers notAfter).mpr past⟩

end

/-- The fifteenth of June 2024 at noon, where there is no difference to universal time. -/
def noonInJune : CurrentDate where
  midnight day := 86400000 * day
  ordered := fun _ _ le => by dsimp only; omega
  time := 1718452800000
  reached := by decide
  today := ⟨2024, 5, 15, by decide, by decide⟩
  begun := by decide
  ends := by decide

/-- The thirty-first of February 2024 is accepted as the second of March. -/
theorem february_rolls : ¬ DateEntryExact toNumber "31" "02" "2024" 2014 noonInJune := by
  intro dates
  have accepted : validateFlexibleDateInput toNumber (fullEntry "31" "02" "2024") .full 2014 noonInJune = true := by
    decide +kernel
  obtain ⟨date, d, m, y, read, numbers, _⟩ := dates.mp accepted
  have texts : toNumber "31" = some 31 ∧ toNumber "02" = some 2 ∧ toNumber "2024" = some 2024 := by decide +kernel
  have days : (date.day : ℚ) = 31 := numbers.day.symm.trans (Option.some.inj (read.day.symm.trans texts.1))
  have months : ((date.month : ℕ) : ℚ) + 1 = 2 :=
    numbers.month.symm.trans (Option.some.inj (read.month.symm.trans texts.2.1))
  have february : (date.month : ℕ) = 1 := by
    have second : (date.month : ℕ) + 1 = 2 := by exact_mod_cast months
    omega
  have long : date.day = 31 := by exact_mod_cast days
  have fits := date.real
  rw [long, february] at fits
  exact absurd fits (by cases Calendar.isLeap date.year <;> decide)

end StockVerification
