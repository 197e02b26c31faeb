import Mathlib.Data.Nat.Digits.Defs
import Mathlib.Tactic

/-!
# Civil time

Instants of the proleptic Gregorian calendar as date and time of day, their
distance from the first day of the year one in microseconds, and their texts.
That first day is a Monday, so the week day is the day number modulo seven.
-/

namespace ManyAlerts

def dayUs : Nat := 86400000000
def weekUs : Nat := 7 * dayUs
def hourUs : Nat := 3600000000

def isLeapYear (year : Nat) : Bool :=
  year % 4 = 0 && (year % 100 ≠ 0 || year % 400 = 0)

def monthDays (year month : Nat) : Nat :=
  if month = 2 then if isLeapYear year then 29 else 28
  else if month ∈ [4, 6, 9, 11] then 30 else 31

/-- A date and time of day that exist. -/
def RealTime (year month day hour minute second microsecond : Nat) : Prop :=
  1 ≤ year ∧ year ≤ 9999 ∧ 1 ≤ month ∧ month ≤ 12 ∧ 1 ≤ day ∧ day ≤ monthDays year month ∧
    hour < 24 ∧ minute < 60 ∧ second < 60 ∧ microsecond < 1000000

instance (year month day hour minute second microsecond : Nat) :
    Decidable (RealTime year month day hour minute second microsecond) :=
  inferInstanceAs (Decidable (_ ∧ _))

structure CivilTime where
  year : Nat
  month : Nat
  day : Nat
  hour : Nat
  minute : Nat
  second : Nat
  microsecond : Nat
  real : RealTime year month day hour minute second microsecond
deriving DecidableEq

/-- Days before the first of January. -/
def daysBeforeYear (year : Nat) : Nat :=
  (year - 1) * 365 + (year - 1) / 4 - (year - 1) / 100 + (year - 1) / 400

/-- Days of the year before the first of the month. -/
def daysBeforeMonth (year month : Nat) : Nat :=
  ((List.range (month - 1)).map fun index => monthDays year (index + 1)).sum

/-- The month and day of a day of the year, counting on from a month. -/
def monthAndDay (year : Nat) : Nat → Nat → Nat → Nat × Nat
  | 0, month, days => (month, days + 1)
  | months + 1, month, days =>
      if days < monthDays year month then (month, days + 1)
      else monthAndDay year months (month + 1) (days - monthDays year month)

/-- The date of a day number. -/
def dateOfDays (days : Nat) : Nat × Nat × Nat :=
  let cycle := days / 146097
  let inCycle := days % 146097
  let century := min 3 (inCycle / 36524)
  let inCentury := inCycle - century * 36524
  let leapCycle := inCentury / 1461
  let inLeapCycle := inCentury % 1461
  let ordinary := min 3 (inLeapCycle / 365)
  let year := cycle * 400 + century * 100 + leapCycle * 4 + ordinary + 1
  (year, monthAndDay year 12 1 (inLeapCycle - ordinary * 365))

/-- A number in so many decimal digits. -/
def decimals : Nat → Nat → List Char
  | 0, _ => []
  | width + 1, value => decimals width (value / 10) ++ [Nat.digitChar (value % 10)]

/-- `date.isoformat()`. -/
def isoDate (year month day : Nat) : String :=
  String.ofList (decimals 4 year ++ '-' :: decimals 2 month ++ '-' :: decimals 2 day)

namespace CivilTime

def days (time : CivilTime) : Nat :=
  daysBeforeYear time.year + daysBeforeMonth time.year time.month + (time.day - 1)

/-- Microseconds since the first instant of the calendar. -/
def instant (time : CivilTime) : Nat :=
  time.days * dayUs +
    (((time.hour * 60 + time.minute) * 60 + time.second) * 1000000 + time.microsecond)

def weekday (time : CivilTime) : Nat := time.days % 7

def dateText (time : CivilTime) : String := isoDate time.year time.month time.day

/-- The text of a coordinated universal time, to the microsecond. -/
def text (time : CivilTime) : String :=
  String.ofList (decimals 4 time.year ++ '-' :: decimals 2 time.month ++ '-' ::
    decimals 2 time.day ++ 'T' :: decimals 2 time.hour ++ ':' :: decimals 2 time.minute ++ ':' ::
    decimals 2 time.second ++ '.' :: decimals 6 time.microsecond ++ ['Z'])

end CivilTime

/-! ## Dates and day numbers -/

def yearDays (year : Nat) : Nat := if isLeapYear year then 366 else 365

theorem isLeapYear_iff {year : Nat} :
    isLeapYear year = true ↔ year % 4 = 0 ∧ (year % 100 ≠ 0 ∨ year % 400 = 0) := by
  simp [isLeapYear]

theorem yearDays_eq (year : Nat) :
    yearDays year = 366 ∧ year % 4 = 0 ∧ (year % 100 ≠ 0 ∨ year % 400 = 0) ∨
      yearDays year = 365 ∧ (year % 4 ≠ 0 ∨ year % 100 = 0 ∧ year % 400 ≠ 0) := by
  unfold yearDays
  split_ifs with leap
  · exact .inl ⟨rfl, isLeapYear_iff.mp leap⟩
  · rw [isLeapYear_iff] at leap
    exact .inr ⟨rfl, by omega⟩

theorem daysBeforeYear_succ {year : Nat} (positive : 1 ≤ year) :
    daysBeforeYear (year + 1) = daysBeforeYear year + yearDays year := by
  obtain ⟨past, rfl⟩ := Nat.exists_eq_add_of_le' positive
  have fours := Nat.succ_div (a := past) (b := 4)
  have hundreds := Nat.succ_div (a := past) (b := 100)
  have cycles := Nat.succ_div (a := past) (b := 400)
  have fewer : past / 100 ≤ past / 4 := Nat.div_le_div_left (by decide) (by decide)
  have length := yearDays_eq (past + 1)
  simp only [Nat.dvd_iff_mod_eq_zero] at fours hundreds cycles
  simp only [daysBeforeYear, Nat.add_sub_cancel]
  split_ifs at fours hundreds cycles <;> omega

theorem daysBeforeMonth_succ (year : Nat) {month : Nat} (positive : 1 ≤ month) :
    daysBeforeMonth year (month + 1) = daysBeforeMonth year month + monthDays year month := by
  obtain ⟨previous, rfl⟩ := Nat.exists_eq_add_of_le' positive
  simp [daysBeforeMonth, List.range_succ]

theorem daysBeforeMonth_thirteen (year : Nat) : daysBeforeMonth year 13 = yearDays year := by
  simp only [daysBeforeMonth, monthDays, yearDays, List.range_succ]
  split_ifs <;> simp

theorem monthDays_le (year month : Nat) : monthDays year month ≤ 31 := by
  unfold monthDays
  split_ifs <;> decide

/-- The month of a day of the year, counting on from a month before it. -/
theorem monthAndDay_spec (year months : Nat) {month days : Nat} (positive : 1 ≤ month)
    (within : daysBeforeMonth year month + days < daysBeforeMonth year (month + months)) :
    month ≤ (monthAndDay year months month days).1 ∧
      (monthAndDay year months month days).1 < month + months ∧
      1 ≤ (monthAndDay year months month days).2 ∧
      (monthAndDay year months month days).2 ≤
        monthDays year (monthAndDay year months month days).1 ∧
      daysBeforeMonth year (monthAndDay year months month days).1 +
        ((monthAndDay year months month days).2 - 1) = daysBeforeMonth year month + days := by
  induction months generalizing month days with
  | zero => simp at within
  | succ months induction =>
      rw [monthAndDay]
      split_ifs with here
      · exact ⟨le_refl _, by omega, by simp, here, by simp⟩
      · have next := daysBeforeMonth_succ year positive
        have shift : month + 1 + months = month + (months + 1) := by omega
        have later : daysBeforeMonth year (month + 1) + (days - monthDays year month) <
            daysBeforeMonth year (month + 1 + months) := by
          rw [next, shift]
          omega
        have rest := induction (Nat.le_add_left 1 month) later
        omega

/-- A date of the calendar that has no last year. -/
def RealDate (year month day : Nat) : Prop :=
  1 ≤ year ∧ 1 ≤ month ∧ month ≤ 12 ∧ 1 ≤ day ∧ day ≤ monthDays year month

/-- The number of a date. -/
def daysOfDate (year month day : Nat) : Nat :=
  daysBeforeYear year + daysBeforeMonth year month + (day - 1)

section Parts

variable {cycle century leapCycle ordinary : Nat}

/-- The days before the year that the parts of a day number lead to. -/
theorem daysBeforeYear_parts (fewCenturies : century ≤ 3) (fewLeapCycles : leapCycle ≤ 24)
    (fewOrdinary : ordinary ≤ 3) :
    daysBeforeYear (cycle * 400 + century * 100 + leapCycle * 4 + ordinary + 1) =
      cycle * 146097 + century * 36524 + leapCycle * 1461 + ordinary * 365 := by
  simp only [daysBeforeYear, Nat.add_sub_cancel]
  obtain ⟨past, isPast⟩ : ∃ past,
    past = cycle * 400 + century * 100 + leapCycle * 4 + ordinary := ⟨_, rfl⟩
  rw [← isPast]
  have fours : past / 4 = cycle * 100 + century * 25 + leapCycle := by omega
  have hundreds : past / 100 = cycle * 4 + century := by omega
  have cycles : past / 400 = cycle := by omega
  rw [fours, hundreds, cycles]
  omega

theorem yearDays_parts (fewLeapCycles : leapCycle ≤ 24)
    (isFourth : ordinary = 3) (isLeap : leapCycle ≠ 24 ∨ century = 3) :
    yearDays (cycle * 400 + century * 100 + leapCycle * 4 + ordinary + 1) = 366 := by
  obtain ⟨year, isYear⟩ : ∃ year,
    year = cycle * 400 + century * 100 + leapCycle * 4 + ordinary + 1 := ⟨_, rfl⟩
  rw [← isYear]
  have fours : year % 4 = 0 := by omega
  have hundreds : year % 100 ≠ 0 ∨ year % 400 = 0 := by omega
  have length := yearDays_eq year
  omega

end Parts

/-- The year of a day number, and the day of that year. -/
theorem dateOfDays_year (days : Nat) : ∃ year yearDay, 1 ≤ year ∧ yearDay < yearDays year ∧
    daysBeforeYear year + yearDay = days ∧
    dateOfDays days = (year, monthAndDay year 12 1 yearDay) := by
  have isCycle := Nat.div_add_mod days 146097
  have inCycle := Nat.mod_lt days (y := 146097) (by decide)
  obtain ⟨century, isCentury⟩ : ∃ century, century = min 3 (days % 146097 / 36524) := ⟨_, rfl⟩
  obtain ⟨inCentury, isInCentury⟩ : ∃ inCentury,
    inCentury = days % 146097 - century * 36524 := ⟨_, rfl⟩
  have isLeapCycle := Nat.div_add_mod inCentury 1461
  have inLeapCycle := Nat.mod_lt inCentury (y := 1461) (by decide)
  obtain ⟨ordinary, isOrdinary⟩ : ∃ ordinary, ordinary = min 3 (inCentury % 1461 / 365) :=
    ⟨_, rfl⟩
  have fewCenturies : century ≤ 3 := by omega
  have fewLeapCycles : inCentury / 1461 ≤ 24 := by omega
  have fewOrdinary : ordinary ≤ 3 := by omega
  refine ⟨days / 146097 * 400 + century * 100 + inCentury / 1461 * 4 + ordinary + 1,
    inCentury % 1461 - ordinary * 365, by omega, ?_, ?_, ?_⟩
  · by_cases long : ordinary = 3 ∧ (inCentury / 1461 ≠ 24 ∨ century = 3)
    · rw [yearDays_parts fewLeapCycles long.1 long.2]
      omega
    · -- The last day of a leap year does not occur here.
      have short : inCentury % 1461 - ordinary * 365 < 365 := by omega
      have length := yearDays_eq
        (days / 146097 * 400 + century * 100 + inCentury / 1461 * 4 + ordinary + 1)
      generalize yearDays _ = length at *
      omega
  · rw [daysBeforeYear_parts fewCenturies fewLeapCycles fewOrdinary]
    omega
  · subst isOrdinary isInCentury isCentury
    rfl

theorem daysBeforeMonth_one (year : Nat) : daysBeforeMonth year 1 = 0 := rfl

/-- Every day number is that of a date. -/
theorem dateOfDays_spec (days : Nat) : ∃ year month day,
    dateOfDays days = (year, month, day) ∧ RealDate year month day ∧
      daysOfDate year month day = days := by
  obtain ⟨year, yearDay, positive, within, isDay, isDate⟩ := dateOfDays_year days
  rw [← daysBeforeMonth_thirteen] at within
  have found := monthAndDay_spec year 12 (le_refl 1)
    (by rw [daysBeforeMonth_one, Nat.zero_add]; exact within)
  refine ⟨year, (monthAndDay year 12 1 yearDay).1, (monthAndDay year 12 1 yearDay).2, isDate,
    ?_, ?_⟩
  · exact ⟨positive, found.1, Nat.lt_succ_iff.mp found.2.1, found.2.2.1, found.2.2.2.1⟩
  · rw [daysOfDate, Nat.add_assoc, found.2.2.2.2, daysBeforeMonth_one, Nat.zero_add, isDay]

theorem monotone_daysBeforeYear : Monotone fun past => daysBeforeYear (past + 1) := by
  apply monotone_nat_of_le_succ
  intro past
  rw [daysBeforeYear_succ (Nat.le_add_left 1 past)]
  exact Nat.le_add_right _ _

theorem monotone_daysBeforeMonth (year : Nat) :
    Monotone fun past => daysBeforeMonth year (past + 1) := by
  apply monotone_nat_of_le_succ
  intro past
  rw [daysBeforeMonth_succ year (Nat.le_add_left 1 past)]
  exact Nat.le_add_right _ _

/-- A place lies between two neighbours of a monotone sequence in one way. -/
theorem between_unique {sequence : Nat → Nat} (monotone : Monotone sequence) (place : Nat)
    {first second : Nat} (fromFirst : sequence first ≤ place)
    (toFirst : place < sequence (first + 1)) (fromSecond : sequence second ≤ place)
    (toSecond : place < sequence (second + 1)) : first = second := by
  have noLater := monotone.reflect_lt (fromFirst.trans_lt toSecond)
  have noEarlier := monotone.reflect_lt (fromSecond.trans_lt toFirst)
  omega

theorem RealDate.yearDay_lt {year month day : Nat} (date : RealDate year month day) :
    daysBeforeMonth year month + (day - 1) < yearDays year := by
  obtain ⟨_, positive, lastMonth, firstDay, lastDay⟩ := date
  obtain ⟨past, rfl⟩ := Nat.exists_eq_add_of_le' positive
  have next := daysBeforeMonth_succ year positive
  have later : daysBeforeMonth year (past + 1 + 1) ≤ daysBeforeMonth year 13 :=
    monotone_daysBeforeMonth year (show past + 1 ≤ 12 by omega)
  rw [← daysBeforeMonth_thirteen]
  omega

/-- Two dates with one number are the same. -/
theorem RealDate.unique {year month day year' month' day' : Nat}
    (date : RealDate year month day) (other : RealDate year' month' day')
    (same : daysOfDate year month day = daysOfDate year' month' day') :
    year = year' ∧ month = month' ∧ day = day' := by
  have inYear := date.yearDay_lt
  have inOtherYear := other.yearDay_lt
  unfold daysOfDate at same
  obtain ⟨firstYear, firstMonth, _, firstDay, lastDay⟩ := date
  obtain ⟨firstYear', firstMonth', _, firstDay', lastDay'⟩ := other
  have nextYear := daysBeforeYear_succ firstYear
  have nextOtherYear := daysBeforeYear_succ firstYear'
  obtain ⟨past, rfl⟩ := Nat.exists_eq_add_of_le' firstYear
  obtain ⟨past', rfl⟩ := Nat.exists_eq_add_of_le' firstYear'
  obtain rfl : past = past' := by
    apply between_unique monotone_daysBeforeYear
      (daysBeforeYear (past + 1) + daysBeforeMonth (past + 1) month + (day - 1)) <;>
      omega
  have nextMonth := daysBeforeMonth_succ (past + 1) firstMonth
  have nextOtherMonth := daysBeforeMonth_succ (past + 1) firstMonth'
  obtain ⟨gone, rfl⟩ := Nat.exists_eq_add_of_le' firstMonth
  obtain ⟨gone', rfl⟩ := Nat.exists_eq_add_of_le' firstMonth'
  obtain rfl : gone = gone' := by
    apply between_unique (monotone_daysBeforeMonth (past + 1))
      (daysBeforeMonth (past + 1) (gone + 1) + (day - 1)) <;>
      omega
  exact ⟨rfl, rfl, by omega⟩

/-! ## Texts of dates -/

theorem length_decimals (width value : Nat) : (decimals width value).length = width := by
  induction width generalizing value with
  | zero => rfl
  | succ width induction => simp [decimals, induction]

theorem decimals_injective {width first second : Nat} (small : first < 10 ^ width)
    (small' : second < 10 ^ width) (same : decimals width first = decimals width second) :
    first = second := by
  induction width generalizing first second with
  | zero => omega
  | succ width induction =>
      simp only [decimals] at same
      rw [Nat.pow_succ] at small small'
      have leading := induction (by omega) (by omega) (List.append_inj_left' same rfl)
      have trailing := List.append_inj_right' same rfl
      rw [List.cons.injEq] at trailing
      have digits := congrArg Char.toNat trailing.1
      rw [Nat.toNat_digitChar_of_lt_ten (Nat.mod_lt _ (by decide)),
        Nat.toNat_digitChar_of_lt_ten (Nat.mod_lt _ (by decide))] at digits
      omega

theorem isoDate_injective {year month day year' month' day' : Nat} (date : RealDate year month day)
    (other : RealDate year' month' day') (fewYears : year ≤ 9999) (fewYears' : year' ≤ 9999)
    (same : isoDate year month day = isoDate year' month' day') :
    year = year' ∧ month = month' ∧ day = day' := by
  have shortDay := monthDays_le year month
  have shortDay' := monthDays_le year' month'
  obtain ⟨_, _, _, _, _⟩ := date
  obtain ⟨_, _, _, _, _⟩ := other
  simp only [isoDate, String.ofList_inj, List.append_assoc, List.cons_append] at same
  obtain ⟨years, same⟩ := List.append_inj same (by simp only [length_decimals])
  rw [List.cons.injEq] at same
  obtain ⟨months, same⟩ := List.append_inj same.2 (by simp only [length_decimals])
  rw [List.cons.injEq] at same
  exact ⟨decimals_injective (by omega) (by omega) years,
    decimals_injective (by omega) (by omega) months,
    decimals_injective (by omega) (by omega) same.2⟩

/-! ## Instants -/

/-- The first instant after the calendar. -/
def calendarEnd : Nat := daysBeforeYear 10000 * dayUs

namespace CivilTime

theorem realDate (time : CivilTime) : RealDate time.year time.month time.day :=
  ⟨time.real.1, time.real.2.2.1, time.real.2.2.2.1, time.real.2.2.2.2.1, time.real.2.2.2.2.2.1⟩

/-- Microseconds since midnight. -/
def timeOfDay (time : CivilTime) : Nat :=
  ((time.hour * 60 + time.minute) * 60 + time.second) * 1000000 + time.microsecond

theorem timeOfDay_lt (time : CivilTime) : time.timeOfDay < dayUs := by
  obtain ⟨_, _, _, _, _, _, hours, minutes, seconds, microseconds⟩ := time.real
  simp only [timeOfDay, dayUs]
  omega

theorem instant_eq (time : CivilTime) : time.instant = time.days * dayUs + time.timeOfDay := rfl

theorem instant_div (time : CivilTime) : time.instant / dayUs = time.days := by
  rw [instant_eq, Nat.add_comm, Nat.add_mul_div_right _ _ (by decide),
    Nat.div_eq_of_lt time.timeOfDay_lt, Nat.zero_add]

theorem instant_mod (time : CivilTime) : time.instant % dayUs = time.timeOfDay := by
  rw [instant_eq, Nat.mul_add_mod_self_right, Nat.mod_eq_of_lt time.timeOfDay_lt]

theorem dateOfDays_days (time : CivilTime) :
    dateOfDays time.days = (time.year, time.month, time.day) := by
  obtain ⟨year, month, day, isDate, real, number⟩ := dateOfDays_spec time.days
  obtain ⟨rfl, rfl, rfl⟩ := real.unique time.realDate number
  exact isDate

theorem instant_injective : Function.Injective instant := by
  intro first second same
  have sameDays : first.days = second.days := by rw [← instant_div, same, instant_div]
  have sameTime : first.timeOfDay = second.timeOfDay := by rw [← instant_mod, same, instant_mod]
  obtain ⟨sameYear, sameMonth, sameDay⟩ := first.realDate.unique second.realDate sameDays
  obtain ⟨_, _, _, _, _, _, hours, minutes, seconds, microseconds⟩ := first.real
  obtain ⟨_, _, _, _, _, _, hours', minutes', seconds', microseconds'⟩ := second.real
  simp only [timeOfDay] at sameTime
  rw [CivilTime.mk.injEq]
  exact ⟨sameYear, sameMonth, sameDay, by omega, by omega, by omega, by omega⟩

/-- The years of instants. -/
theorem instant_lt_iff (time : CivilTime) {year : Nat} (positive : 1 ≤ year) :
    time.instant < daysBeforeYear year * dayUs ↔ time.year < year := by
  rw [← Nat.div_lt_iff_lt_mul (by decide), instant_div]
  have inYear := time.realDate.yearDay_lt
  have first := time.realDate.1
  have next := daysBeforeYear_succ first
  obtain ⟨past, rfl⟩ := Nat.exists_eq_add_of_le' positive
  obtain ⟨gone, isGone⟩ := Nat.exists_eq_add_of_le' first
  rw [isGone] at next inYear
  constructor
  · intro before
    by_contra later
    have : daysBeforeYear (past + 1) ≤ daysBeforeYear (gone + 1) :=
      monotone_daysBeforeYear (show past ≤ gone by omega)
    simp only [days, isGone] at before
    omega
  · intro before
    have : daysBeforeYear (gone + 1 + 1) ≤ daysBeforeYear (past + 1) :=
      monotone_daysBeforeYear (show gone + 1 ≤ past by omega)
    simp only [days, isGone]
    omega

theorem instant_lt (time : CivilTime) : time.instant < calendarEnd :=
  (time.instant_lt_iff (by decide)).mpr (Nat.lt_succ_iff.mpr time.real.2.1)

theorem realTime_of_lt {number : Nat} (within : number < calendarEnd) :
    RealTime (dateOfDays (number / dayUs)).1 (dateOfDays (number / dayUs)).2.1
      (dateOfDays (number / dayUs)).2.2 (number % dayUs / 3600000000)
      (number % dayUs / 60000000 % 60) (number % dayUs / 1000000 % 60)
      (number % dayUs % 1000000) := by
  obtain ⟨year, month, day, isDate, date, isDays⟩ := dateOfDays_spec (number / dayUs)
  have fewYears : year ≤ 9999 := by
    have before : daysBeforeYear year < daysBeforeYear 10000 := by
      have := (Nat.div_lt_iff_lt_mul (by decide)).mpr within
      unfold daysOfDate at isDays
      omega
    obtain ⟨past, rfl⟩ := Nat.exists_eq_add_of_le' date.1
    exact monotone_daysBeforeYear.reflect_lt (a := past) (b := 9999) before
  have short : number % dayUs < dayUs := Nat.mod_lt _ (by decide)
  obtain ⟨firstYear, firstMonth, lastMonth, firstDay, lastDay⟩ := date
  rw [isDate]
  refine ⟨firstYear, fewYears, firstMonth, lastMonth, firstDay, lastDay, ?_⟩
  unfold dayUs at *
  omega

/-- The time of an instant within the calendar. -/
def ofInstant (number : Nat) (within : number < calendarEnd) : CivilTime :=
  ⟨_, _, _, _, _, _, _, realTime_of_lt within⟩

@[simp] theorem instant_ofInstant {number : Nat} (within : number < calendarEnd) :
    (ofInstant number within).instant = number := by
  obtain ⟨year, month, day, isDate, _, isDays⟩ := dateOfDays_spec (number / dayUs)
  have sameDays : (ofInstant number within).days = number / dayUs := by
    simp only [ofInstant, days, isDate]
    exact isDays
  have sameTime : (ofInstant number within).timeOfDay = number % dayUs := by
    simp only [ofInstant, timeOfDay]
    omega
  rw [instant_eq, sameDays, sameTime, Nat.div_add_mod']

end CivilTime

end ManyAlerts
