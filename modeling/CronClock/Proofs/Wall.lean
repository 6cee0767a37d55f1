import CronClock.Calendar.Wall
import CronClock.Field
import CronClock.Proofs.Date

/-! # The fields of a wall time

`Wall.fields` reads off a wall time the five values that a schedule constrains. Between a reading and
the beginning of a later unit wall times share the coarser fields and go up in the finer ones:
`Wall.date_le`, `Wall.count_lt_of_between`, `Wall.le_count_of_between`. -/
set_option autoImplicit false
namespace CronClock
namespace Wall

def fields (wall : Int) : PerField Int where
  second := secondOfMinute wall
  minute := minuteOfHour wall
  hour := hourOfDay wall
  day := (date wall).day
  month := (date wall).month

def IsWhole (wall : Int) : Prop := microsecond wall = 0

instance (wall : Int) : Decidable (IsWhole wall) := inferInstanceAs (Decidable (microsecond wall = 0))

theorem inCalendar_iff (wall : Int) : inCalendar wall = true ↔ 0 ≤ wall ∧ wall < limit := by
  simp [inCalendar]

/-! ## Dates -/

theorem date_isSound (wall : Int) : (date wall).IsSound := Date.ofDayNumber_isSound _

theorem fields_holds (wall : Int) (field : Field) :
    field.bounds.holds ((fields wall).get field) = true := by
  have sound := date_isSound wall
  rw [Bounds.holds_iff]
  cases field with
  | second =>
    simp only [fields, PerField.get, Field.bounds, secondOfMinute, minute, second]
    omega
  | minute =>
    simp only [fields, PerField.get, Field.bounds, minuteOfHour, hour, minute]
    omega
  | hour =>
    simp only [fields, PerField.get, Field.bounds, hourOfDay, day, hour]
    omega
  | day =>
    have length := daysInMonth_between (date wall).year (date wall).month
    have := sound.least_day
    have := sound.most_day
    simp only [fields, PerField.get, Field.bounds]
    omega
  | month => exact ⟨sound.least_month, sound.most_month⟩

theorem dayNumber_date (wall : Int) : (date wall).dayNumber = dayNumber wall :=
  Date.dayNumber_ofDayNumber _

theorem dayNumber_midnight (date : Date) : dayNumber (midnight date) = date.dayNumber := by
  simp only [dayNumber, midnight, day]
  omega

theorem date_midnight {date : Date} (sound : date.IsSound) : Wall.date (midnight date) = date := by
  rw [Wall.date, dayNumber_midnight, Date.ofDayNumber_dayNumber sound]

theorem date_eq_of_dayNumber (wall other : Int) (same : dayNumber wall = dayNumber other) :
    date wall = date other := by
  rw [date, date, same]

theorem date_lt_of_lt_midnight (wall : Int) {date : Date} (sound : date.IsSound)
    (before : wall < midnight date) :
    (Wall.date wall).year < date.year ∨ ((Wall.date wall).year = date.year ∧
      ((Wall.date wall).month < date.month ∨ ((Wall.date wall).month = date.month ∧
        (Wall.date wall).day < date.day))) := by
  refine (date_isSound wall).lt_of_dayNumber_lt sound ?_
  rw [dayNumber_date]
  simp only [midnight, dayNumber, day] at *
  omega

theorem lt_midnight_of_dayNumber_lt (wall : Int) {date : Date}
    (before : (Wall.date wall).dayNumber < date.dayNumber) : wall < midnight date := by
  rw [dayNumber_date] at before
  simp only [midnight, dayNumber, day] at *
  omega

theorem dayNumber_le (wall other : Int) (order : wall ≤ other) : dayNumber wall ≤ dayNumber other := by
  simp only [dayNumber, day]
  omega

theorem date_le (wall other : Int) (order : wall ≤ other) :
    (date wall).year < (date other).year ∨ ((date wall).year = (date other).year ∧
      ((date wall).month < (date other).month ∨ ((date wall).month = (date other).month ∧
        (date wall).day ≤ (date other).day))) :=
  Date.ofDayNumber_le _ _ (dayNumber_le wall other order)

theorem year_le (wall other : Int) (order : wall ≤ other) : (date wall).year ≤ (date other).year := by
  have := date_le wall other order
  omega

theorem inCalendar_midnight_iff {date : Date} (sound : date.IsSound) :
    inCalendar (midnight date) = true ↔ 1 ≤ date.year ∧ date.year ≤ 9999 := by
  rw [inCalendar_iff, ← sound.inCalendar_iff]
  simp only [midnight, limit, calendarDays, day]
  omega

/-! ## Counts of lesser units -/

theorem truncate_le (unit wall : Int) (positive : 0 < unit) : truncate unit wall ≤ wall := by
  have := Int.emod_nonneg wall (by omega : unit ≠ 0)
  simp only [truncate]
  omega

theorem lt_truncate_add (unit wall : Int) (positive : 0 < unit) : wall < truncate unit wall + unit := by
  have := Int.emod_lt_of_pos wall positive
  simp only [truncate]
  omega

theorem truncate_eq_mul (unit wall : Int) : truncate unit wall = unit * (wall / unit) := by
  have := Int.emod_add_mul_ediv wall unit
  simp only [truncate]
  omega

theorem truncate_inCalendar (unit wall : Int) (positive : 0 < unit) (divides : unit ∣ limit)
    (inside : inCalendar wall = true) :
    0 ≤ truncate unit wall ∧ truncate unit wall + unit ≤ limit := by
  rw [inCalendar_iff] at inside
  obtain ⟨count, whole⟩ := divides
  have before : wall / unit < count :=
    Int.ediv_lt_of_lt_mul positive (by rw [Int.mul_comm, ← whole]; exact inside.2)
  have since : 0 ≤ wall / unit := Int.ediv_nonneg inside.1 (by omega)
  rw [truncate_eq_mul, whole]
  constructor
  · exact Int.mul_nonneg (by omega) since
  · have := Int.mul_le_mul_of_nonneg_left (by omega : wall / unit + 1 ≤ count) (by omega : 0 ≤ unit)
    rw [Int.mul_add] at this
    omega

theorem truncate_eq_of_between (unit wall other : Int) (positive : 0 < unit)
    (after : truncate unit wall ≤ other) (before : other < truncate unit wall + unit) :
    truncate unit other = truncate unit wall := by
  rw [truncate_eq_mul] at after before
  rw [truncate_eq_mul, truncate_eq_mul]
  have same : other / unit = wall / unit := by
    refine Int.ediv_eq_iff_of_pos positive |>.mpr ?_
    rw [Int.mul_comm]
    exact ⟨after, before⟩
  rw [same]

theorem lt_of_count_lt (unit lesser wall count : Int) (positive : 0 < lesser)
    (fewer : wall % unit / lesser < count) : wall < truncate unit wall + count * lesser := by
  have := Int.lt_mul_of_ediv_lt positive fewer
  simp only [truncate]
  omega

/-- Wall times from a reading to a number of lesser units in its unit count fewer of them. -/
theorem count_lt_of_between (unit lesser wall other count : Int) (positive : 0 < lesser)
    (fits : count * lesser < unit) (unitPositive : 0 < unit) (after : wall ≤ other)
    (before : other < truncate unit wall + count * lesser) : other % unit / lesser < count := by
  have beginning := truncate_le unit wall unitPositive
  have same := truncate_eq_of_between unit wall other unitPositive (by omega) (by omega)
  refine Int.ediv_lt_of_lt_mul positive ?_
  simp only [truncate] at same before
  omega

theorem le_count_of_between (unit lesser wall other : Int) (positive : 0 < lesser)
    (unitPositive : 0 < unit) (after : wall ≤ other) (before : other < truncate unit wall + unit) :
    wall % unit / lesser ≤ other % unit / lesser := by
  have beginning := truncate_le unit wall unitPositive
  have same := truncate_eq_of_between unit wall other unitPositive (by omega) before
  refine Int.ediv_le_ediv positive ?_
  simp only [truncate] at same
  omega

/-! ## Set readings -/

theorem setHour_spec (wall value : Int) (since : 0 ≤ value) (held : value * hour < day) :
    dayNumber (truncate day wall + value * hour) = dayNumber wall ∧
      hourOfDay (truncate day wall + value * hour) = value ∧
      (truncate day wall + value * hour) % hour = 0 := by
  simp only [truncate, dayNumber, hourOfDay, day, hour] at *
  omega

theorem setMinute_spec (wall value : Int) (since : 0 ≤ value) (held : value * minute < hour) :
    dayNumber (truncate hour wall + value * minute) = dayNumber wall ∧
      hourOfDay (truncate hour wall + value * minute) = hourOfDay wall ∧
      minuteOfHour (truncate hour wall + value * minute) = value ∧
      (truncate hour wall + value * minute) % minute = 0 := by
  simp only [truncate, dayNumber, hourOfDay, minuteOfHour, day, hour, minute] at *
  omega

theorem setSecond_spec (wall value : Int) (since : 0 ≤ value) (held : value * second < minute) :
    dayNumber (truncate minute wall + value * second) = dayNumber wall ∧
      hourOfDay (truncate minute wall + value * second) = hourOfDay wall ∧
      minuteOfHour (truncate minute wall + value * second) = minuteOfHour wall ∧
      secondOfMinute (truncate minute wall + value * second) = value ∧
      (truncate minute wall + value * second) % second = 0 := by
  simp only [truncate, dayNumber, hourOfDay, minuteOfHour, secondOfMinute, day, hour, minute, second]
    at *
  omega

theorem ofTime_spec {date : Date} (sound : date.IsSound) (hours minutes seconds : Int)
    (hourHeld : 0 ≤ hours ∧ hours ≤ 23) (minuteHeld : 0 ≤ minutes ∧ minutes ≤ 59)
    (secondHeld : 0 ≤ seconds ∧ seconds ≤ 59) :
    fields (ofTime date hours minutes seconds 0) = ⟨seconds, minutes, hours, date.day, date.month⟩ ∧
      Wall.date (ofTime date hours minutes seconds 0) = date ∧
      midnight date ≤ ofTime date hours minutes seconds 0 := by
  have sameDay : dayNumber (ofTime date hours minutes seconds 0) = date.dayNumber := by
    simp only [dayNumber, ofTime, midnight, day, hour, minute, second]
    omega
  have sameDate : Wall.date (ofTime date hours minutes seconds 0) = date := by
    rw [Wall.date, sameDay, Date.ofDayNumber_dayNumber sound]
  refine ⟨?_, sameDate, ?_⟩
  · simp only [fields, sameDate, PerField.mk.injEq, and_true]
    simp only [secondOfMinute, minuteOfHour, hourOfDay, ofTime, midnight, day, hour, minute, second]
    omega
  · simp only [ofTime, hour, minute, second]
    omega

theorem nextUnit_begins (unit wall : Int) : (truncate unit wall + unit) % unit = 0 := by
  rw [truncate_eq_mul, Int.add_emod_right, Int.mul_emod_right]

theorem midnight_begins (date : Date) : midnight date % day = 0 := Int.mul_emod_left _ _

end Wall
end CronClock
