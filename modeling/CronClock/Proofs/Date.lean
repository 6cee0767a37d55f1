import CronClock.Calendar.Date
import Mathlib.Tactic.ByContra

/-! # Dates and day numbers

Every day number is the number of exactly one date whose month and day exist, and later days have
later dates: `Date.ofDayNumber_dayNumber`, `Date.dayNumber_ofDayNumber`, `Date.ofDayNumber_le`. The
proofs do not mind the calendar's ends; `Date.isValid_iff` says what they add. -/
set_option autoImplicit false
namespace CronClock

/-! ## The lengths of years and months -/

theorem februaryGap_eq (year : Int) : februaryGap year = 1 ∨ februaryGap year = 2 := by
  unfold februaryGap
  split <;> simp

theorem daysBeforeYear_succ (year : Int) :
    daysBeforeYear (year + 1) = daysBeforeYear year + 367 - februaryGap year := by
  simp only [daysBeforeYear, februaryGap, isLeapYear]
  simp only [Bool.and_eq_true, Bool.or_eq_true, beq_iff_eq, bne_iff_ne]
  split <;> omega

theorem daysBeforeYear_mono (year other : Int) (order : year ≤ other) :
    daysBeforeYear year ≤ daysBeforeYear other := by
  simp only [daysBeforeYear]
  omega

theorem yearOfDay_spec (day : Int) :
    daysBeforeYear (yearOfDay day) ≤ day ∧ day < daysBeforeYear (yearOfDay day + 1) := by
  simp only [yearOfDay]
  split
  · simp only [daysBeforeYear] at *
    omega
  · split
    · simp only [daysBeforeYear] at *
      omega
    · omega

theorem daysBeforeMonth_one (year : Int) : daysBeforeMonth year 1 = 0 := by
  simp [daysBeforeMonth]

theorem daysBeforeMonth_thirteen (year : Int) :
    daysBeforeMonth year 13 = 367 - februaryGap year := by
  simp [daysBeforeMonth]

theorem daysInMonth_two (year : Int) : daysInMonth year 2 = 30 - februaryGap year := by
  simp only [daysInMonth, februaryGap]
  cases isLeapYear year <;> rfl

theorem daysInMonth_between (year month : Int) :
    28 ≤ daysInMonth year month ∧ daysInMonth year month ≤ 31 := by
  simp only [daysInMonth]
  split
  · split <;> omega
  · split <;> omega

theorem daysBeforeMonth_succ (year month : Int) (least : 1 ≤ month) (most : month ≤ 12) :
    daysBeforeMonth year (month + 1) = daysBeforeMonth year month + daysInMonth year month := by
  have gap := februaryGap_eq year
  have listed : month = 1 ∨ month = 2 ∨ month = 3 ∨ month = 4 ∨ month = 5 ∨ month = 6 ∨ month = 7
      ∨ month = 8 ∨ month = 9 ∨ month = 10 ∨ month = 11 ∨ month = 12 := by omega
  rcases listed with rfl | rfl | rfl | rfl | rfl | rfl | rfl | rfl | rfl | rfl | rfl | rfl
  case inr.inl =>
    rw [daysInMonth_two]
    simp only [daysBeforeMonth]
    omega
  all_goals simp [daysBeforeMonth, daysInMonth]
  all_goals omega

theorem daysBeforeMonth_mono (year month other : Int) (order : month ≤ other) (least : 1 ≤ month) :
    daysBeforeMonth year month ≤ daysBeforeMonth year other := by
  have gap := februaryGap_eq year
  simp only [daysBeforeMonth]
  split <;> split <;> omega

theorem monthOfDay_spec (year day : Int) (least : 0 ≤ day) (most : day < 367 - februaryGap year) :
    1 ≤ monthOfDay year day ∧ monthOfDay year day ≤ 12 ∧
      daysBeforeMonth year (monthOfDay year day) ≤ day ∧
      day < daysBeforeMonth year (monthOfDay year day + 1) := by
  have gap := februaryGap_eq year
  simp only [monthOfDay, daysBeforeMonth]
  split <;> split <;> split <;> omega

namespace Date

/-! ## Sound dates -/

/-- The month exists, and the day exists in it; the year is any. -/
structure IsSound (date : Date) : Prop where
  least_month : 1 ≤ date.month
  most_month : date.month ≤ 12
  least_day : 1 ≤ date.day
  most_day : date.day ≤ daysInMonth date.year date.month

theorem ofDayNumber_spec (number : Int) :
    (ofDayNumber number).IsSound ∧ (ofDayNumber number).dayNumber = number := by
  have inYear := yearOfDay_spec number
  have yearLength := daysBeforeYear_succ (yearOfDay number)
  have inMonth := monthOfDay_spec (yearOfDay number) (number - daysBeforeYear (yearOfDay number))
    (by omega) (by omega)
  have monthLength := daysBeforeMonth_succ (yearOfDay number) _ inMonth.1 inMonth.2.1
  refine ⟨⟨inMonth.1, inMonth.2.1, ?_, ?_⟩, ?_⟩
  · simp only [ofDayNumber]
    omega
  · simp only [ofDayNumber]
    omega
  · simp only [ofDayNumber, dayNumber]
    omega

theorem ofDayNumber_isSound (number : Int) : (ofDayNumber number).IsSound :=
  (ofDayNumber_spec number).1

@[simp] theorem dayNumber_ofDayNumber (number : Int) : (ofDayNumber number).dayNumber = number :=
  (ofDayNumber_spec number).2

theorem IsSound.dayNumber_inYear {date : Date} (sound : date.IsSound) :
    daysBeforeYear date.year ≤ date.dayNumber ∧ date.dayNumber < daysBeforeYear (date.year + 1) := by
  have yearLength := daysBeforeYear_succ date.year
  have monthLength := daysBeforeMonth_succ date.year date.month sound.least_month sound.most_month
  have before := daysBeforeMonth_mono date.year 1 date.month sound.least_month (by omega)
  have after := daysBeforeMonth_mono date.year (date.month + 1) 13
    (by have := sound.most_month; omega) (by have := sound.least_month; omega)
  rw [daysBeforeMonth_one] at before
  rw [daysBeforeMonth_thirteen] at after
  have := sound.least_day
  have := sound.most_day
  simp only [dayNumber]
  omega

theorem IsSound.dayNumber_lt_of_year {date other : Date} (sound : date.IsSound)
    (otherSound : other.IsSound) (order : date.year < other.year) :
    date.dayNumber < other.dayNumber := by
  have inYear := sound.dayNumber_inYear
  have otherInYear := otherSound.dayNumber_inYear
  have := daysBeforeYear_mono (date.year + 1) other.year (by omega)
  omega

theorem IsSound.dayNumber_lt_of_month {date other : Date} (sound : date.IsSound)
    (otherSound : other.IsSound) (sameYear : date.year = other.year)
    (order : date.month < other.month) : date.dayNumber < other.dayNumber := by
  have monthLength := daysBeforeMonth_succ date.year date.month sound.least_month sound.most_month
  have := daysBeforeMonth_mono date.year (date.month + 1) other.month (by omega)
    (by have := sound.least_month; omega)
  have := sound.most_day
  have := otherSound.least_day
  simp only [dayNumber, ← sameYear]
  omega

theorem IsSound.le_of_dayNumber_le {date other : Date} (sound : date.IsSound)
    (otherSound : other.IsSound) (order : date.dayNumber ≤ other.dayNumber) :
    date.year < other.year ∨ (date.year = other.year ∧ (date.month < other.month ∨
      (date.month = other.month ∧ date.day ≤ other.day))) := by
  rcases Int.lt_trichotomy date.year other.year with less | same | greater
  · exact .inl less
  · refine .inr ⟨same, ?_⟩
    rcases Int.lt_trichotomy date.month other.month with less | sameMonth | greater
    · exact .inl less
    · refine .inr ⟨sameMonth, ?_⟩
      simp only [dayNumber, same, sameMonth] at order
      omega
    · have := otherSound.dayNumber_lt_of_month sound same.symm greater
      omega
  · have := otherSound.dayNumber_lt_of_year sound greater
    omega

theorem IsSound.lt_of_dayNumber_lt {date other : Date} (sound : date.IsSound)
    (otherSound : other.IsSound) (order : date.dayNumber < other.dayNumber) :
    date.year < other.year ∨ (date.year = other.year ∧ (date.month < other.month ∨
      (date.month = other.month ∧ date.day < other.day))) := by
  rcases sound.le_of_dayNumber_le otherSound (by omega) with less | ⟨sameYear, less | ⟨sameMonth, _⟩⟩
  · exact .inl less
  · exact .inr ⟨sameYear, .inl less⟩
  · refine .inr ⟨sameYear, .inr ⟨sameMonth, ?_⟩⟩
    simp only [dayNumber, sameYear, sameMonth] at order
    omega

theorem ofDayNumber_dayNumber {date : Date} (sound : date.IsSound) :
    ofDayNumber date.dayNumber = date := by
  have found := ofDayNumber_spec date.dayNumber
  have forth := found.1.le_of_dayNumber_le sound (by omega)
  have back := sound.le_of_dayNumber_le found.1 (by omega)
  have sameYear : (ofDayNumber date.dayNumber).year = date.year := by omega
  have sameMonth : (ofDayNumber date.dayNumber).month = date.month := by omega
  have sameDay : (ofDayNumber date.dayNumber).day = date.day := by omega
  cases date
  simp_all [ofDayNumber]

theorem ofDayNumber_le (number other : Int) (order : number ≤ other) :
    (ofDayNumber number).year < (ofDayNumber other).year ∨
      ((ofDayNumber number).year = (ofDayNumber other).year ∧
        ((ofDayNumber number).month < (ofDayNumber other).month ∨
          ((ofDayNumber number).month = (ofDayNumber other).month ∧
            (ofDayNumber number).day ≤ (ofDayNumber other).day))) :=
  (ofDayNumber_isSound number).le_of_dayNumber_le (ofDayNumber_isSound other) (by simpa using order)

/-! ## Sound dates that move on -/

theorem isSound_firstOfMonth (year month : Int) (least : 1 ≤ month) (most : month ≤ 12) :
    (⟨year, month, 1⟩ : Date).IsSound :=
  ⟨least, most, by simp, by have := daysInMonth_between year month; simp only; omega⟩

theorem IsSound.firstOfNextMonth {date : Date} (sound : date.IsSound) :
    date.firstOfNextMonth.IsSound := by
  unfold Date.firstOfNextMonth
  split
  · exact isSound_firstOfMonth _ _ (by omega) (by omega)
  · exact isSound_firstOfMonth _ _ (by have := sound.least_month; omega)
      (by have := sound.most_month; omega)

theorem IsSound.dayNumber_firstOfNextMonth {date : Date} (sound : date.IsSound) :
    date.firstOfNextMonth.dayNumber =
      date.dayNumber + (daysInMonth date.year date.month - date.day) + 1 := by
  unfold Date.firstOfNextMonth
  split
  · next december =>
    have yearLength := daysBeforeYear_succ date.year
    have monthLength := daysBeforeMonth_succ date.year 12 (by omega) (by omega)
    have whole : daysBeforeMonth date.year (12 + 1) = 367 - februaryGap date.year :=
      daysBeforeMonth_thirteen date.year
    simp only [dayNumber, daysBeforeMonth_one, december]
    omega
  · have monthLength := daysBeforeMonth_succ date.year date.month sound.least_month sound.most_month
    simp only [dayNumber]
    omega

/-! ## The calendar's ends -/

theorem isValid_iff (date : Date) :
    date.isValid = true ↔ date.IsSound ∧ 1 ≤ date.year ∧ date.year ≤ 9999 := by
  simp only [isValid, Bool.and_eq_true, decide_eq_true_eq]
  constructor
  · rintro ⟨⟨⟨⟨⟨_, _⟩, _⟩, _⟩, _⟩, _⟩
    exact ⟨⟨by assumption, by assumption, by assumption, by assumption⟩, by assumption, by assumption⟩
  · rintro ⟨⟨_, _, _, _⟩, _, _⟩
    exact ⟨⟨⟨⟨⟨by assumption, by assumption⟩, by assumption⟩, by assumption⟩, by assumption⟩,
      by assumption⟩

theorem daysBeforeYear_one : daysBeforeYear 1 = 0 := by decide

theorem daysBeforeYear_tenThousand : daysBeforeYear 10000 = calendarDays := by decide

theorem IsSound.inCalendar_iff {date : Date} (sound : date.IsSound) :
    (0 ≤ date.dayNumber ∧ date.dayNumber < calendarDays) ↔ 1 ≤ date.year ∧ date.year ≤ 9999 := by
  have inYear := sound.dayNumber_inYear
  have first := daysBeforeYear_one
  have last := daysBeforeYear_tenThousand
  constructor
  · rintro ⟨_, _⟩
    constructor
    · by_contra early
      have := daysBeforeYear_mono (date.year + 1) 1 (by omega)
      omega
    · by_contra late
      have := daysBeforeYear_mono 10000 date.year (by omega)
      omega
  · rintro ⟨_, _⟩
    have := daysBeforeYear_mono 1 date.year (by omega)
    have := daysBeforeYear_mono (date.year + 1) 10000 (by omega)
    omega

end Date
end CronClock
