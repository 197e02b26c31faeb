import Mathlib
import ManyAlerts.Accounting.Policy

/-!
# Accounting weeks tile time

A week runs from one Monday midnight of the wall clock to the next, but it is stored and
compared in coordinated universal time.  What is assumed of the time zone data is
`NewYorkTime`: the clock is four or five hours behind, and is changed only on Sundays at
two.  Between two such changes the difference is constant, so around every Monday midnight
the wall clock runs evenly; the midnights are the boundaries of a tiling (`boundary`).
-/

namespace ManyAlerts

/-- The time zone data as the code meets them: `behind` is the difference of the wall clock
at each instant.  A reading of the wall clock that belongs to one instant only is converted
to that instant; nothing is said about the others. -/
structure NewYorkTime (zone : Zone) (behind : Nat → Nat) : Prop where
  hours : ∀ instant, behind instant = 4 * hourUs ∨ behind instant = 5 * hourUs
  changes : ∀ instant, behind (instant + 1) ≠ behind instant →
    (instant + 1 - behind instant) % weekUs = 6 * dayUs + 2 * hourUs
  toLocal : ∀ time, zone.toLocal time = time.instant - behind time.instant
  toUtc : ∀ time, (∀ other, zone.toLocal other = zone.toLocal time → other = time) →
    zone.toUtc (zone.toLocal time) = time

/-! ## Boundaries -/

section Boundaries

variable {zone : Zone} {behind : Nat → Nat}

/-- The instant of the Monday midnight with a number. -/
def boundary (behind : Nat → Nat) (monday : Nat) : Nat :=
  monday * weekUs + behind (monday * weekUs)

/-- No change of the clock from seventeen hours before a Monday, in universal time, until six
o'clock on the next Sunday. -/
theorem NewYorkTime.steady (clock : NewYorkTime zone behind) {monday first : Nat}
    (distance : Nat) (after : monday * weekUs ≤ first + 17 * hourUs)
    (before : first + distance < monday * weekUs + 6 * dayUs + 6 * hourUs) :
    behind (first + distance) = behind first := by
  induction distance with
  | zero => rfl
  | succ distance induction =>
      rw [← induction (by omega), ← Nat.add_assoc]
      by_contra changed
      have sunday := clock.changes (first + distance) changed
      have hours := clock.hours (first + distance)
      simp only [weekUs, dayUs, hourUs] at *
      omega

theorem NewYorkTime.behind_eq (clock : NewYorkTime zone behind) (monday instant : Nat)
    (after : monday * weekUs ≤ instant + 17 * hourUs)
    (before : instant < monday * weekUs + 6 * dayUs + 6 * hourUs) :
    behind instant = behind (monday * weekUs) := by
  rcases Nat.le_total instant (monday * weekUs) with early | late
  · obtain ⟨distance, isMonday⟩ := Nat.exists_eq_add_of_le early
    rw [isMonday]
    refine (clock.steady distance after ?_).symm
    rw [← isMonday, Nat.add_assoc]
    exact Nat.lt_add_of_pos_right (by decide)
  · obtain ⟨distance, rfl⟩ := Nat.exists_eq_add_of_le late
    exact clock.steady distance (Nat.le_add_right _ _) before

/-- The wall clock is in the week of a Monday exactly between two boundaries. -/
theorem NewYorkTime.week_iff (clock : NewYorkTime zone behind) {monday instant : Nat} :
    monday * weekUs ≤ instant - behind instant ∧
        instant - behind instant < (monday + 1) * weekUs ∧ behind instant ≤ instant ↔
      boundary behind monday ≤ instant ∧ instant < boundary behind (monday + 1) := by
  have hours := clock.hours instant
  have hoursHere := clock.hours (monday * weekUs)
  have hoursNext := clock.hours ((monday + 1) * weekUs)
  have here := clock.behind_eq monday instant
  have next := clock.behind_eq (monday + 1) instant
  simp only [boundary]
  generalize behind instant = difference at *
  generalize behind (monday * weekUs) = differenceHere at *
  generalize behind ((monday + 1) * weekUs) = differenceNext at *
  rw [Nat.succ_mul] at *
  generalize monday * weekUs = start at *
  simp only [weekUs, dayUs, hourUs] at *
  omega

theorem NewYorkTime.boundary_lt (clock : NewYorkTime zone behind) (monday : Nat) :
    boundary behind monday < boundary behind (monday + 1) := by
  have hours := clock.hours (monday * weekUs)
  have hoursNext := clock.hours ((monday + 1) * weekUs)
  simp only [boundary]
  generalize behind (monday * weekUs) = differenceHere at *
  generalize behind ((monday + 1) * weekUs) = differenceNext at *
  rw [Nat.succ_mul]
  simp only [weekUs, dayUs, hourUs] at *
  omega

theorem NewYorkTime.monotone_boundary (clock : NewYorkTime zone behind) :
    Monotone (boundary behind) :=
  monotone_nat_of_le_succ fun monday => (clock.boundary_lt monday).le

end Boundaries

/-! ## Weeks of Mondays -/

/-- The week that starts at a Monday midnight of the wall clock. -/
def weekOfMonday (zone : Zone) (monday : Nat) : Week :=
  let date := dateOfDays (monday * 7)
  ⟨isoDate date.1 date.2.1 date.2.2, zone.toUtc (monday * weekUs),
    zone.toUtc ((monday + 1) * weekUs), newYork⟩

theorem weekOfMonday_key (zone : Zone) (monday : Nat) : (weekOfMonday zone monday).key =
    isoDate (dateOfDays (monday * 7)).1 (dateOfDays (monday * 7)).2.1
      (dateOfDays (monday * 7)).2.2 := rfl

/-- The Monday that the wall clock shows last. -/
def mondayOf (zone : Zone) (time : CivilTime) : Nat := zone.toLocal time / weekUs

theorem weekFor_eq (zone : Zone) (time : CivilTime) :
    weekFor zone time = weekOfMonday zone (mondayOf zone time) := by
  have start : zone.toLocal time - zone.toLocal time % weekUs = mondayOf zone time * weekUs := by
    rw [mondayOf, Nat.div_mul_self_eq_mod_sub_self]
  have days : mondayOf zone time * weekUs / dayUs = mondayOf zone time * 7 := by
    rw [weekUs, ← Nat.mul_assoc, Nat.mul_div_cancel _ (by decide)]
  simp only [weekFor, weekOfMonday, start, days, Nat.succ_mul]

section Weeks

variable {zone : Zone} {behind : Nat → Nat} {time other : CivilTime} {monday : Nat}

/-- Mondays whose week lies within the calendar. -/
structure InCalendar (behind : Nat → Nat) (monday : Nat) : Prop where
  positive : 1 ≤ monday
  ends : boundary behind (monday + 1) < calendarEnd

/-- The clock is not changed in the hours around a midnight. -/
theorem NewYorkTime.behind_day (clock : NewYorkTime zone behind) (day : Nat) {instant : Nat}
    (after : day * dayUs ≤ instant) (before : instant ≤ day * dayUs + 5 * hourUs) :
    behind instant = behind (day / 7 * weekUs) := by
  have starts : day / 7 * weekUs ≤ day * dayUs := by
    rw [weekUs, ← Nat.mul_assoc]
    exact Nat.mul_le_mul_right _ (Nat.div_mul_le_self day 7)
  have ends : day * dayUs ≤ day / 7 * weekUs + 6 * dayUs := by
    rw [weekUs, ← Nat.mul_assoc, ← Nat.add_mul]
    exact Nat.mul_le_mul_right _ (by omega)
  have hour : 0 < hourUs := by decide
  apply clock.behind_eq
  · omega
  · omega

/-- A midnight of the wall clock belongs to one instant. -/
theorem NewYorkTime.toUtc_day (clock : NewYorkTime zone behind) {day : Nat} (positive : 1 ≤ day)
    (within : day * dayUs + behind (day / 7 * weekUs) < calendarEnd) :
    (zone.toUtc (day * dayUs)).instant = day * dayUs + behind (day / 7 * weekUs) := by
  obtain ⟨time, isInstant⟩ : ∃ time : CivilTime,
      time.instant = day * dayUs + behind (day / 7 * weekUs) :=
    ⟨_, CivilTime.instant_ofInstant within⟩
  have hours := clock.hours (day / 7 * weekUs)
  have shows : zone.toLocal time = day * dayUs := by
    rw [clock.toLocal, clock.behind_day day (by omega) (by omega), isInstant,
      Nat.add_sub_cancel]
  rw [← shows, clock.toUtc, shows, isInstant]
  intro other sameReading
  apply CivilTime.instant_injective
  rw [shows, clock.toLocal] at sameReading
  have otherHours := clock.hours other.instant
  have notEarly : 0 < day * dayUs := Nat.mul_pos positive (by decide)
  have same : behind other.instant = _ := clock.behind_day day (by omega) (by omega)
  omega

theorem NewYorkTime.toUtc_midnight (clock : NewYorkTime zone behind)
    (positive : 1 ≤ monday) (within : boundary behind monday < calendarEnd) :
    (zone.toUtc (monday * weekUs)).instant = boundary behind monday := by
  have days : monday * weekUs = monday * 7 * dayUs := by rw [weekUs, Nat.mul_assoc]
  have week : monday * 7 / 7 = monday := Nat.mul_div_cancel _ (by decide)
  have midnight := clock.toUtc_day (Nat.mul_pos positive (by decide) : 1 ≤ monday * 7)
  rw [week, ← days] at midnight
  exact midnight within

theorem NewYorkTime.start_eq (clock : NewYorkTime zone behind)
    (inside : InCalendar behind monday) :
    (weekOfMonday zone monday).startUtc.instant = boundary behind monday :=
  clock.toUtc_midnight inside.positive ((clock.boundary_lt monday).trans inside.ends)

theorem NewYorkTime.end_eq (clock : NewYorkTime zone behind)
    (inside : InCalendar behind monday) :
    (weekOfMonday zone monday).endUtc.instant = boundary behind (monday + 1) :=
  clock.toUtc_midnight (Nat.le_add_left 1 monday) inside.ends

/-- Four or five o'clock on a Monday. -/
theorem boundary_fields
    (hours : ∀ instant, behind instant = 4 * hourUs ∨ behind instant = 5 * hourUs)
    (isBoundary : time.instant = boundary behind monday) :
    time.days = monday * 7 ∧ atMidnightHour time = true := by
  have hours := hours (monday * weekUs)
  rw [CivilTime.instant_eq, boundary] at isBoundary
  have short := time.timeOfDay_lt
  obtain ⟨_, _, _, _, _, _, _, minutes, seconds, microseconds⟩ := time.real
  have sameDay : time.days = monday * 7 := by
    simp only [weekUs, dayUs, hourUs] at *
    omega
  have sameTime : time.timeOfDay = behind (monday * weekUs) := by
    rw [sameDay, weekUs, Nat.mul_assoc] at isBoundary
    exact Nat.add_left_cancel isBoundary
  refine ⟨sameDay, ?_⟩
  simp only [CivilTime.timeOfDay] at sameTime
  simp only [atMidnightHour, Bool.and_eq_true, Bool.or_eq_true, decide_eq_true_eq]
  simp only [hourUs] at hours
  omega

theorem NewYorkTime.weekOfMonday_wellFormed (clock : NewYorkTime zone behind)
    (inside : InCalendar behind monday) : (weekOfMonday zone monday).wellFormed = true := by
  obtain ⟨startDay, startHour⟩ := boundary_fields clock.hours (clock.start_eq inside)
  obtain ⟨endDay, endHour⟩ := boundary_fields clock.hours (clock.end_eq inside)
  have key : (weekOfMonday zone monday).startUtc.dateText = (weekOfMonday zone monday).key := by
    have date := (weekOfMonday zone monday).startUtc.dateOfDays_days
    rw [startDay] at date
    rw [CivilTime.dateText, weekOfMonday_key, date]
  have hours := clock.hours (monday * weekUs)
  have nextHours := clock.hours ((monday + 1) * weekUs)
  have starts := clock.start_eq inside
  have ends := clock.end_eq inside
  simp only [Week.wellFormed, key, startHour, endHour, CivilTime.weekday, startDay, endDay,
    Bool.and_eq_true, Bool.or_eq_true, decide_eq_true_eq, and_true, starts, ends, boundary]
  generalize behind (monday * weekUs) = difference at *
  generalize behind ((monday + 1) * weekUs) = nextDifference at *
  refine ⟨⟨⟨rfl, by omega⟩, by omega⟩, ?_⟩
  rw [Nat.succ_mul]
  simp only [weekUs, dayUs, hourUs] at *
  omega

/-- The instants of a week. -/
def Week.span (week : Week) : Set Nat :=
  Set.Ico week.startUtc.instant week.endUtc.instant

theorem NewYorkTime.span_eq (clock : NewYorkTime zone behind)
    (inside : InCalendar behind monday) :
    (weekOfMonday zone monday).span =
      Set.Ico (boundary behind monday) (boundary behind (monday + 1)) := by
  rw [Week.span, clock.start_eq inside, clock.end_eq inside]

/-- The instants of the admitted years are far from both ends of the calendar. -/
theorem inWeekYears.bounds (years : inWeekYears time) :
    2 * weekUs ≤ time.instant ∧ time.instant + 2 * weekUs < calendarEnd := by
  have lower : ¬time.instant < daysBeforeYear 2000 * dayUs := by
    rw [time.instant_lt_iff (by decide)]
    exact Nat.not_lt.mpr years.1
  have upper : time.instant < daysBeforeYear 9999 * dayUs := by
    rw [time.instant_lt_iff (by decide)]
    exact Nat.lt_succ_iff.mpr years.2
  have first : daysBeforeYear 2000 * dayUs = 63082281600000000 := by decide
  have last : daysBeforeYear 9999 * dayUs = 315506361600000000 := by decide
  have whole : calendarEnd = 315537897600000000 := by decide
  simp only [weekUs, dayUs] at *
  omega

theorem NewYorkTime.inCalendar (clock : NewYorkTime zone behind) (years : inWeekYears time) :
    InCalendar behind (mondayOf zone time) := by
  obtain ⟨lower, upper⟩ := years.bounds
  have hours := clock.hours time.instant
  constructor
  · have shown : weekUs ≤ zone.toLocal time := by
      rw [clock.toLocal]
      simp only [weekUs, dayUs, hourUs] at *
      omega
    exact Nat.div_pos shown (by decide)
  · have floor : mondayOf zone time * weekUs ≤ zone.toLocal time := Nat.div_mul_le_self _ _
    rw [clock.toLocal] at floor
    have nextHours := clock.hours ((mondayOf zone time + 1) * weekUs)
    rw [boundary]
    generalize behind ((mondayOf zone time + 1) * weekUs) = difference at *
    rw [Nat.succ_mul]
    simp only [weekUs, dayUs, hourUs] at *
    omega

theorem NewYorkTime.mem_span (clock : NewYorkTime zone behind) (years : inWeekYears time) :
    time.instant ∈ (weekFor zone time).span := by
  rw [weekFor_eq, clock.span_eq (clock.inCalendar years), Set.mem_Ico, ← clock.week_iff,
    ← clock.toLocal]
  refine ⟨Nat.div_mul_le_self _ _, Nat.lt_mul_of_div_lt (Nat.lt_succ_self _) (by decide), ?_⟩
  obtain ⟨lower, _⟩ := years.bounds
  have hours := clock.hours time.instant
  simp only [weekUs, dayUs, hourUs] at *
  omega

/-- Equal Mondays are what the instants of one week have in common. -/
theorem NewYorkTime.mondayOf_eq (clock : NewYorkTime zone behind) (years : inWeekYears time)
    (otherYears : inWeekYears other) (inside : other.instant ∈ (weekFor zone time).span) :
    mondayOf zone other = mondayOf zone time := by
  have own := clock.mem_span otherYears
  rw [weekFor_eq, clock.span_eq (clock.inCalendar otherYears)] at own
  rw [weekFor_eq, clock.span_eq (clock.inCalendar years)] at inside
  exact between_unique clock.monotone_boundary other.instant own.1 own.2 inside.1 inside.2

theorem NewYorkTime.disjoint_spans (clock : NewYorkTime zone behind) {monday later : Nat}
    (inside : InCalendar behind monday) (laterInside : InCalendar behind later)
    (order : monday < later) :
    (weekOfMonday zone monday).endUtc.instant ≤ (weekOfMonday zone later).startUtc.instant := by
  rw [clock.end_eq inside, clock.start_eq laterInside]
  exact clock.monotone_boundary order

/-- Two weeks of Mondays are the same or one is over before the other starts. -/
theorem NewYorkTime.same_or_apart (clock : NewYorkTime zone behind) (years : inWeekYears time)
    (otherYears : inWeekYears other) :
    mondayOf zone time = mondayOf zone other ∨
      (weekFor zone time).endUtc.instant ≤ (weekFor zone other).startUtc.instant ∨
      (weekFor zone other).endUtc.instant ≤ (weekFor zone time).startUtc.instant := by
  have inside := clock.inCalendar years
  have otherInside := clock.inCalendar otherYears
  rw [weekFor_eq, weekFor_eq]
  rcases Nat.lt_trichotomy (mondayOf zone time) (mondayOf zone other) with earlier | same | later
  · exact .inr (.inl (clock.disjoint_spans inside otherInside earlier))
  · exact .inl same
  · exact .inr (.inr (clock.disjoint_spans otherInside inside later))

/-- The key of a week names its Monday. -/
theorem NewYorkTime.mondayOf_eq_of_key (clock : NewYorkTime zone behind)
    (years : inWeekYears time) (otherYears : inWeekYears other)
    (same : (weekFor zone time).key = (weekFor zone other).key) :
    mondayOf zone time = mondayOf zone other := by
  have days (time : CivilTime) (years : inWeekYears time) :
      (weekFor zone time).startUtc.days = mondayOf zone time * 7 ∧
        (weekFor zone time).startUtc.dateText = (weekFor zone time).key := by
    have inside := clock.inCalendar years
    have formed := clock.weekOfMonday_wellFormed inside
    rw [weekFor_eq]
    refine ⟨(boundary_fields clock.hours (clock.start_eq inside)).1, ?_⟩
    simp only [Week.wellFormed, Bool.and_eq_true, decide_eq_true_eq] at formed
    exact formed.1.1.1.1.1.2
  obtain ⟨day, key⟩ := days time years
  obtain ⟨otherDay, otherKey⟩ := days other otherYears
  rw [← key, ← otherKey] at same
  obtain ⟨sameYear, sameMonth, sameDay⟩ := isoDate_injective (weekFor zone time).startUtc.realDate
    (weekFor zone other).startUtc.realDate (weekFor zone time).startUtc.real.2.1
    (weekFor zone other).startUtc.real.2.1 same
  have sameDays : (weekFor zone time).startUtc.days = (weekFor zone other).startUtc.days := by
    rw [CivilTime.days, CivilTime.days, sameYear, sameMonth, sameDay]
  omega

/-- What the accounting relies on of its weeks. -/
structure WeeksTile (zone : Zone) : Prop where
  covers : ∀ time, inWeekYears time →
    time.instant ∈ (weekFor zone time).span ∧ (weekFor zone time).wellFormed = true
  constant : ∀ time other, inWeekYears time → inWeekYears other →
    other.instant ∈ (weekFor zone time).span → weekFor zone other = weekFor zone time
  apart : ∀ time other, inWeekYears time → inWeekYears other →
    weekFor zone time = weekFor zone other ∨
      Disjoint (weekFor zone time).span (weekFor zone other).span
  keyed : ∀ time other, inWeekYears time → inWeekYears other →
    (weekFor zone time).key = (weekFor zone other).key → weekFor zone time = weekFor zone other
  remembered : ∀ time known, inWeekYears time →
    (∀ week ∈ known.values, ∃ past, inWeekYears past ∧ week = weekFor zone past) →
    rememberWeek (weekFor zone time) known =
      .ok (known.set (weekFor zone time).key (weekFor zone time))

/-- Weeks computed from instants of the admitted years tile these years, are named by their
keys, and are never refused next to one another. -/
theorem accounting_weeks_tile (clock : NewYorkTime zone behind) : WeeksTile zone := by
  have same {time other : CivilTime} (monday : mondayOf zone time = mondayOf zone other) :
      weekFor zone time = weekFor zone other := by
    rw [weekFor_eq, weekFor_eq, monday]
  have formed {time : CivilTime} (years : inWeekYears time) :
      (weekFor zone time).wellFormed = true := by
    rw [weekFor_eq]
    exact clock.weekOfMonday_wellFormed (clock.inCalendar years)
  constructor
  case covers => exact fun time years => ⟨clock.mem_span years, formed years⟩
  case constant =>
    intro time other years otherYears inside
    exact same (clock.mondayOf_eq years otherYears inside)
  case apart =>
    intro time other years otherYears
    rcases clock.same_or_apart years otherYears with equal | before | after
    · exact .inl (same equal)
    · exact .inr (Set.Ico_disjoint_Ico.mpr ((min_le_left _ _).trans
        (before.trans (le_max_right _ _))))
    · exact .inr (Set.Ico_disjoint_Ico.mpr ((min_le_right _ _).trans
        (after.trans (le_max_left _ _))))
  case keyed =>
    intro time other years otherYears sameKey
    exact same (clock.mondayOf_eq_of_key years otherYears sameKey)
  case remembered =>
    intro time known years computed
    have accepted : ∀ previous ∈ known.values,
        (if (weekFor zone time).key = previous.key then
          requireThat (weekFor zone time = previous) .invalidWeek
        else requireThat ((weekFor zone time).endUtc.instant ≤ previous.startUtc.instant ∨
          previous.endUtc.instant ≤ (weekFor zone time).startUtc.instant) .invalidWeek) =
          .ok () := by
      intro previous member
      obtain ⟨past, pastYears, rfl⟩ := computed previous member
      split_ifs with sameKey
      · rw [requireThat_eq_ok]
        exact same (clock.mondayOf_eq_of_key years pastYears sameKey)
      · rw [requireThat_eq_ok]
        refine (clock.same_or_apart years pastYears).resolve_left fun equal => sameKey ?_
        rw [same equal]
    rw [rememberWeek, requireThat, failIf_of_not (not_not.mpr (formed years)), ok_bind,
      checkAll_eq_ok.mpr accepted]
    rfl

end Weeks

/-! ## A clock with one change -/

/-- Seven o'clock on a Sunday, in universal time. -/
def springForward : Nat := 105000 * weekUs + 6 * dayUs + 7 * hourUs

def springBehind (instant : Nat) : Nat :=
  if instant < springForward then 5 * hourUs else 4 * hourUs

/-- The time of an instant, or the first time after the end of the calendar. -/
@[irreducible] def civilOf (number : Nat) : CivilTime :=
  if within : number < calendarEnd then .ofInstant number within else .ofInstant 0 (by decide)

theorem instant_civilOf {number : Nat} (within : number < calendarEnd) :
    (civilOf number).instant = number := by
  rw [civilOf, dif_pos within, CivilTime.instant_ofInstant]

/-- A clock that is set forward once. -/
def springClock : Zone where
  toLocal time := time.instant - springBehind time.instant
  toUtc wall := civilOf
    (if wall + 5 * hourUs < springForward then wall + 5 * hourUs else wall + 4 * hourUs)

theorem springClock_toLocal (time : CivilTime) :
    springClock.toLocal time = time.instant - springBehind time.instant := rfl

theorem springClock_toUtc (wall : Nat) : springClock.toUtc wall = civilOf
    (if wall + 5 * hourUs < springForward then wall + 5 * hourUs else wall + 4 * hourUs) := rfl

theorem springClock_newYorkTime : NewYorkTime springClock springBehind := by
  constructor
  case hours =>
    intro instant
    unfold springBehind
    split_ifs
    · exact .inr rfl
    · exact .inl rfl
  case changes =>
    intro instant changed
    unfold springBehind at *
    have isChange : instant + 1 = springForward := by
      split_ifs at changed <;> omega
    rw [isChange, if_pos (by omega)]
    decide
  case toLocal => exact fun _ => rfl
  case toUtc =>
    intro time single
    -- The first hours of the calendar all show the same time, so no reading there is single.
    have notFirst : 5 * hourUs ≤ time.instant := by
      by_contra early
      have shows (number : Nat) (within : number < calendarEnd) (first : number < 5 * hourUs) :
          (CivilTime.ofInstant number within) = time := by
        apply single
        simp only [springClock, springBehind, CivilTime.instant_ofInstant]
        have late : 5 * hourUs < springForward := by decide
        rw [if_pos (by omega), if_pos (by omega)]
        omega
      have zero := congrArg CivilTime.instant (shows 0 (by decide) (by decide))
      have one := congrArg CivilTime.instant (shows 1 (by decide) (by decide))
      rw [CivilTime.instant_ofInstant] at zero one
      omega
    apply CivilTime.instant_injective
    have short := time.instant_lt
    have isNumber : (if time.instant - springBehind time.instant + 5 * hourUs < springForward then
        time.instant - springBehind time.instant + 5 * hourUs
        else time.instant - springBehind time.instant + 4 * hourUs) = time.instant := by
      simp only [springBehind, hourUs] at *
      split_ifs <;> omega
    rw [springClock_toUtc, springClock_toLocal, isNumber, instant_civilOf short]

theorem accounting_weeks_tile_spring : WeeksTile springClock :=
  accounting_weeks_tile springClock_newYorkTime

end ManyAlerts
