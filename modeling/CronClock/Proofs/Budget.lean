import CronClock.Proofs.Correction

/-! # How many corrections a search needs

`Candidate.stepsTo` bounds the corrections that lead from a wall time up to the next one that agrees
with a candidate, given a goal that agrees and lies ahead: every correction lowers it,
`Correction.stepsTo_lt`. A possible candidate whose values lie in the fields' bounds always has a goal
so near that the bound is at most 24, `IsBounded.exists_goal`. -/
set_option autoImplicit false
namespace CronClock
namespace Candidate

def IsBounded (candidate : Candidate) : Prop :=
  ∀ field value, candidate.get field = some value → field.bounds.holds value = true

/-- A bound on the corrections of a date. With a fixed month each year takes two of them, one into the
month and one out of it; without one each takes a month. -/
def dateSteps (candidate : Candidate) (goal date : Date) : Int :=
  match candidate.month with
  | some month =>
    2 * (goal.year - date.year)
      + (if date.month < month then 2 else if date.month = month then 1 else 0)
  | none => 12 * (goal.year - date.year) + (goal.month - date.month) + 1

def mostDateSteps : Int := 18

/-- One of three bounds: for a field in which a wall time is before the fixed value, for one in which it
is past it, and for one in which it agrees. -/
def handSteps (candidate : Candidate) (wall : Int) (field : Field) (ahead behind agreed : Int) : Int :=
  match differing (candidate.get field) ((Wall.fields wall).get field) with
  | some value => if (Wall.fields wall).get field < value then ahead else behind
  | none => agreed

/-- A bound on the corrections that begin with the time of day. Once a time lies behind, the carry may
lead to another day, whose date and time have to be corrected after it. -/
def timeSteps (candidate : Candidate) (wall : Int) : Int :=
  candidate.handSteps wall .hour 3 (mostDateSteps + 4)
    (candidate.handSteps wall .minute 2 (mostDateSteps + 5)
      (candidate.handSteps wall .second 1 (mostDateSteps + 6) 0))

def AgreesInDate (candidate : Candidate) (wall : Int) : Prop :=
  candidate.AgreesIn wall .month ∧ candidate.AgreesIn wall .day

open Classical in
noncomputable def stepsTo (candidate : Candidate) (goal wall : Int) : Int :=
  if candidate.AgreesInDate wall then candidate.timeSteps wall
  else 3 + candidate.dateSteps (Wall.date goal) (Wall.date wall)

/-! ## The time of day -/

theorem IsBounded.since {candidate : Candidate} (bounded : candidate.IsBounded) (field : Field)
    (value : Int) (fixed : candidate.get field = some value) : field.bounds.least ≤ value :=
  ((Bounds.holds_iff _ value).mp (bounded field value fixed)).1

section Hand
variable {candidate : Candidate} {wall : Int} {field : Field} {ahead behind agreed bound : Int}

theorem handSteps_of_agrees (agrees : candidate.AgreesIn wall field) :
    candidate.handSteps wall field ahead behind agreed = agreed := by
  rw [handSteps, (differing_eq_none_iff _ _).mpr agrees]

theorem handSteps_of_ahead (value : Int) (fixed : candidate.get field = some value)
    (order : (Wall.fields wall).get field < value) :
    candidate.handSteps wall field ahead behind agreed = ahead := by
  rw [handSteps, (differing_eq_some_iff _ _ value).mpr ⟨fixed, by omega⟩]
  simp [order]

theorem handSteps_of_behind (value : Int) (fixed : candidate.get field = some value)
    (order : value < (Wall.fields wall).get field) :
    candidate.handSteps wall field ahead behind agreed = behind := by
  rw [handSteps, (differing_eq_some_iff _ _ value).mpr ⟨fixed, by omega⟩]
  simp [show ¬ (Wall.fields wall).get field < value by omega]

theorem handSteps_le (whenAhead : ahead ≤ bound) (whenBehind : behind ≤ bound)
    (whenAgreed : agreed ≤ bound) :
    candidate.handSteps wall field ahead behind agreed ≤ bound := by
  unfold handSteps
  split
  · split <;> assumption
  · exact whenAgreed

theorem handSteps_le_of_least (bounded : candidate.IsBounded)
    (begins : (Wall.fields wall).get field = field.bounds.least)
    (whenAhead : ahead ≤ bound) (whenAgreed : agreed ≤ bound) :
    candidate.handSteps wall field ahead behind agreed ≤ bound := by
  unfold handSteps
  split
  · next value differs =>
    obtain ⟨fixed, other⟩ := (differing_eq_some_iff _ _ _).mp differs
    have := bounded.since field value fixed
    rw [if_pos (by omega)]
    exact whenAhead
  · exact whenAgreed

end Hand

theorem secondOfMinute_zero (wall : Int) (begins : wall % Wall.minute = 0) :
    Wall.secondOfMinute wall = 0 := by
  simp [Wall.secondOfMinute, begins]

theorem minuteOfHour_zero (wall : Int) (begins : wall % Wall.hour = 0) :
    Wall.minuteOfHour wall = 0 ∧ wall % Wall.minute = 0 := by
  simp only [Wall.minuteOfHour, Wall.hour, Wall.minute] at *
  omega

theorem hourOfDay_zero (wall : Int) (begins : wall % Wall.day = 0) :
    Wall.hourOfDay wall = 0 ∧ wall % Wall.hour = 0 := by
  simp only [Wall.hourOfDay, Wall.day, Wall.hour] at *
  omega

section TimeSteps
variable {candidate : Candidate} (bounded : candidate.IsBounded) {wall : Int}
include bounded

/-! The further a wall time has got in its units, the fewer corrections its time of day needs. -/

theorem timeSteps_le_of_second (begins : wall % Wall.minute = 0)
    (hour : candidate.AgreesIn wall .hour) (minute : candidate.AgreesIn wall .minute) :
    candidate.timeSteps wall ≤ 1 := by
  rw [timeSteps, handSteps_of_agrees hour, handSteps_of_agrees minute]
  exact handSteps_le_of_least bounded (secondOfMinute_zero wall begins)
    (by decide) (by decide)

theorem timeSteps_le_of_minute (begins : wall % Wall.hour = 0)
    (hour : candidate.AgreesIn wall .hour) : candidate.timeSteps wall ≤ 2 := by
  obtain ⟨minuteZero, minuteBegins⟩ := minuteOfHour_zero wall begins
  rw [timeSteps, handSteps_of_agrees hour]
  refine handSteps_le_of_least bounded minuteZero (by decide) ?_
  exact handSteps_le_of_least bounded (secondOfMinute_zero wall minuteBegins)
    (by decide) (by decide)

theorem timeSteps_le_of_hour (begins : wall % Wall.day = 0) : candidate.timeSteps wall ≤ 3 := by
  obtain ⟨hourZero, hourBegins⟩ := hourOfDay_zero wall begins
  obtain ⟨minuteZero, minuteBegins⟩ := minuteOfHour_zero wall hourBegins
  refine handSteps_le_of_least bounded hourZero (by decide) ?_
  refine handSteps_le_of_least bounded minuteZero (by decide) ?_
  exact handSteps_le_of_least bounded (secondOfMinute_zero wall minuteBegins)
    (by decide) (by decide)

theorem timeSteps_le_of_minuteBegins (begins : wall % Wall.minute = 0) :
    candidate.timeSteps wall ≤ mostDateSteps + 5 := by
  refine handSteps_le (by decide) (by decide) (handSteps_le (by decide) (by decide) ?_)
  exact handSteps_le_of_least bounded (secondOfMinute_zero wall begins)
    (by decide) (by decide)

theorem timeSteps_le_of_hourBegins (begins : wall % Wall.hour = 0) :
    candidate.timeSteps wall ≤ mostDateSteps + 4 := by
  obtain ⟨minuteZero, minuteBegins⟩ := minuteOfHour_zero wall begins
  refine handSteps_le (by decide) (by decide) ?_
  refine handSteps_le_of_least bounded minuteZero (by decide) ?_
  exact handSteps_le_of_least bounded (secondOfMinute_zero wall minuteBegins)
    (by decide) (by decide)

end TimeSteps

theorem timeSteps_le (candidate : Candidate) (wall : Int) :
    candidate.timeSteps wall ≤ mostDateSteps + 6 :=
  handSteps_le (by decide) (by decide) (handSteps_le (by decide) (by decide)
    (handSteps_le (by decide) (by decide) (by decide)))

/-! ## The date -/

theorem one_le_dateSteps {candidate : Candidate} {goal wall : Int} (agrees : candidate.Agrees goal)
    (ahead : wall ≤ goal) :
    1 ≤ candidate.dateSteps (Wall.date goal) (Wall.date wall) := by
  have order := Wall.date_le wall goal ahead
  have sound := Wall.date_isSound wall
  have goalSound := Wall.date_isSound goal
  unfold dateSteps
  split
  · next value fixed =>
    have sameMonth : (Wall.date goal).month = value := agrees .month value fixed
    split
    · omega
    · split <;> omega
  · have := goalSound.least_month
    have := sound.most_month
    omega

theorem dateSteps_le (candidate : Candidate) (goal wall other : Int) (order : wall ≤ other) :
    candidate.dateSteps (Wall.date goal) (Wall.date other)
      ≤ candidate.dateSteps (Wall.date goal) (Wall.date wall) := by
  have order := Wall.date_le wall other order
  have := (Wall.date_isSound wall).most_month
  have := (Wall.date_isSound other).least_month
  unfold dateSteps
  split
  · split <;> split <;> (try split) <;> omega
  · omega

section DateSteps
variable {candidate : Candidate} {wall : Int} (goal : Int)

theorem dateSteps_lt_of_month (value : Int) (fixed : candidate.month = some value)
    (differs : (Wall.date wall).month ≠ value) :
    candidate.dateSteps (Wall.date goal) ⟨if (Wall.date wall).month < value then
        (Wall.date wall).year else (Wall.date wall).year + 1, value, 1⟩
      < candidate.dateSteps (Wall.date goal) (Wall.date wall) := by
  simp only [dateSteps, fixed, Int.lt_irrefl, if_false, if_true, if_neg differs]
  split <;> omega

theorem dateSteps_lt_of_nextMonth (month : candidate.AgreesIn wall .month) :
    candidate.dateSteps (Wall.date goal) (Wall.date wall).firstOfNextMonth
      < candidate.dateSteps (Wall.date goal) (Wall.date wall) := by
  unfold dateSteps Date.firstOfNextMonth
  split
  · next value fixed =>
    have sameMonth : (Wall.date wall).month = value := month value fixed
    rw [if_neg (by omega : ¬ (Wall.date wall).month < value), if_pos sameMonth]
    split
    · simp only
      split <;> omega
    · simp only
      rw [if_neg (by omega), if_neg (by omega)]
      omega
  · split <;> simp only <;> omega

end DateSteps

/-! ## All fields -/

theorem stepsTo_of_agrees {candidate : Candidate} {goal wall : Int}
    (agrees : candidate.AgreesInDate wall) :
    candidate.stepsTo goal wall = candidate.timeSteps wall := if_pos agrees

theorem stepsTo_of_not_agrees {candidate : Candidate} {goal wall : Int}
    (disagrees : ¬ candidate.AgreesInDate wall) :
    candidate.stepsTo goal wall = 3 + candidate.dateSteps (Wall.date goal) (Wall.date wall) :=
  if_neg disagrees

theorem stepsTo_le {candidate : Candidate} {wall bound : Int} (goal : Int)
    (time : candidate.timeSteps wall ≤ bound)
    (date : 3 + candidate.dateSteps (Wall.date goal) (Wall.date wall) ≤ bound) :
    candidate.stepsTo goal wall ≤ bound := by
  unfold stepsTo
  split <;> assumption

theorem stepsTo_le_of_day {candidate : Candidate} {goal wall : Int} (bounded : candidate.IsBounded)
    (begins : wall % Wall.day = 0)
    (positive : 1 ≤ candidate.dateSteps (Wall.date goal) (Wall.date wall)) :
    candidate.stepsTo goal wall ≤ 3 + candidate.dateSteps (Wall.date goal) (Wall.date wall) :=
  stepsTo_le goal (Int.le_trans (timeSteps_le_of_hour bounded begins) (by omega)) (Int.le_refl _)

theorem agreesInDate_of_dayNumber {candidate : Candidate} {wall other : Int}
    (same : Wall.dayNumber other = Wall.dayNumber wall)
    (month : candidate.AgreesIn wall .month) (day : candidate.AgreesIn wall .day) :
    candidate.AgreesInDate other := by
  have sameDate := Wall.date_eq_of_dayNumber other wall same
  constructor
  · intro value fixed
    have := month value fixed
    simp only [Wall.fields, PerField.get, sameDate] at this ⊢
    exact this
  · intro value fixed
    have := day value fixed
    simp only [Wall.fields, PerField.get, sameDate] at this ⊢
    exact this

/-- Every correction on the way to a goal lowers the bound. -/
theorem Correction.stepsTo_lt {candidate : Candidate} {goal wall next : Int} {carried : Bool}
    (correction : candidate.Correction wall next carried) (bounded : candidate.IsBounded)
    (agrees : candidate.Agrees goal) (ahead : wall ≤ goal)
    (near : candidate.dateSteps (Wall.date goal) (Wall.date wall) ≤ mostDateSteps) :
    candidate.stepsTo goal next < candidate.stepsTo goal wall := by
  have nextAhead : next ≤ goal := by
    by_contra passed
    exact correction.not_agrees goal ahead (by omega) agrees
  have sound := Wall.date_isSound wall
  have dateSteps := one_le_dateSteps agrees ahead
  have nextDateSteps := one_le_dateSteps agrees nextAhead
  have fewer := dateSteps_le candidate goal wall next
    (Int.le_of_lt correction.lt)
  -- A corrected date leaves fewer dates to correct, a set time fewer fields to set, and a carry starts
  -- over at the beginning of a unit, below the bound that is kept for a time behind.
  cases correction with
  | month value fixed differs held =>
    have disagrees : ¬ candidate.AgreesInDate wall := fun date => differs (date.1 value fixed)
    have lower := dateSteps_lt_of_month goal value fixed differs
    rw [← Wall.date_midnight (Date.isSound_firstOfMonth _ value held.1 held.2)] at lower
    have bound := stepsTo_le_of_day bounded (Wall.midnight_begins _) nextDateSteps
    rw [stepsTo_of_not_agrees disagrees]
    omega
  | dayAhead value month fixed ahead held =>
    have disagrees : ¬ candidate.AgreesInDate wall := by
      intro date
      have : (Wall.date wall).day = value := date.2 value fixed
      omega
    have targetSound : (⟨(Wall.date wall).year, (Wall.date wall).month, value⟩ : Date).IsSound :=
      ⟨sound.least_month, sound.most_month, by have := sound.least_day; simp only; omega, held⟩
    have agreed : candidate.AgreesInDate
        (Wall.midnight ⟨(Wall.date wall).year, (Wall.date wall).month, value⟩) := by
      constructor
      · intro other found
        have : (Wall.date wall).month = other := month other found
        simpa [Wall.fields, PerField.get, Wall.date_midnight targetSound] using this
      · intro other found
        have : value = other := Option.some.inj (fixed.symm.trans found)
        simpa [Wall.fields, PerField.get, Wall.date_midnight targetSound] using this
    have time := timeSteps_le_of_hour bounded (Wall.midnight_begins
      ⟨(Wall.date wall).year, (Wall.date wall).month, value⟩)
    rw [stepsTo_of_not_agrees disagrees, stepsTo_of_agrees agreed]
    omega
  | dayBehind value month fixed differs behind =>
    have disagrees : ¬ candidate.AgreesInDate wall := fun date => differs (date.2 value fixed)
    have lower := dateSteps_lt_of_nextMonth goal month
    rw [← Wall.date_midnight sound.firstOfNextMonth] at lower
    have bound := stepsTo_le_of_day bounded (Wall.midnight_begins _) nextDateSteps
    rw [stepsTo_of_not_agrees disagrees]
    omega
  | hourAhead value month day fixed ahead held =>
    have since := bounded.since .hour value fixed
    obtain ⟨sameDay, hour, begins⟩ := Wall.setHour_spec wall value since held
    have agreesHour : candidate.AgreesIn
        (Wall.truncate Wall.day wall + value * Wall.hour) .hour := by
      intro other found
      exact hour.trans (Option.some.inj (fixed.symm.trans found))
    have time := timeSteps_le_of_minute bounded begins agreesHour
    rw [stepsTo_of_agrees (agreesInDate_of_dayNumber sameDay month day), stepsTo_of_agrees ⟨month, day⟩]
    rw [show candidate.timeSteps wall = 3 from handSteps_of_ahead value fixed ahead]
    omega
  | hourBehind value month day fixed behind =>
    have bound := stepsTo_le_of_day bounded (Wall.nextUnit_begins _ _) nextDateSteps
    rw [stepsTo_of_agrees ⟨month, day⟩]
    rw [show candidate.timeSteps wall = mostDateSteps + 4 from handSteps_of_behind value fixed behind]
    omega
  | minuteAhead value month day hour fixed ahead held =>
    have since := bounded.since .minute value fixed
    obtain ⟨sameDay, sameHour, minute, begins⟩ := Wall.setMinute_spec wall value since held
    have agreesHour : candidate.AgreesIn
        (Wall.truncate Wall.hour wall + value * Wall.minute) .hour :=
      fun other found => sameHour.trans (hour other found)
    have agreesMinute : candidate.AgreesIn
        (Wall.truncate Wall.hour wall + value * Wall.minute) .minute :=
      fun other found => minute.trans (Option.some.inj (fixed.symm.trans found))
    have time := timeSteps_le_of_second bounded begins agreesHour agreesMinute
    rw [stepsTo_of_agrees (agreesInDate_of_dayNumber sameDay month day), stepsTo_of_agrees ⟨month, day⟩]
    have present : candidate.timeSteps wall = 2 := by
      rw [timeSteps, handSteps_of_agrees hour]
      exact handSteps_of_ahead value fixed ahead
    omega
  | minuteBehind value month day hour fixed behind =>
    have time := timeSteps_le_of_hourBegins bounded (Wall.nextUnit_begins Wall.hour wall)
    have bound := stepsTo_le goal time (by simp only [mostDateSteps] at *; omega)
    rw [stepsTo_of_agrees ⟨month, day⟩]
    have present : candidate.timeSteps wall = mostDateSteps + 5 := by
      rw [timeSteps, handSteps_of_agrees hour]
      exact handSteps_of_behind value fixed behind
    omega
  | secondAhead value month day hour minute fixed ahead held =>
    have since := bounded.since .second value fixed
    obtain ⟨sameDay, sameHour, sameMinute, second, begins⟩ := Wall.setSecond_spec wall value since held
    have agreesHour : candidate.AgreesIn
        (Wall.truncate Wall.minute wall + value * Wall.second) .hour :=
      fun other found => sameHour.trans (hour other found)
    have agreesMinute : candidate.AgreesIn
        (Wall.truncate Wall.minute wall + value * Wall.second) .minute :=
      fun other found => sameMinute.trans (minute other found)
    have agreesSecond : candidate.AgreesIn
        (Wall.truncate Wall.minute wall + value * Wall.second) .second :=
      fun other found => second.trans (Option.some.inj (fixed.symm.trans found))
    rw [stepsTo_of_agrees (agreesInDate_of_dayNumber sameDay month day), stepsTo_of_agrees ⟨month, day⟩]
    have present : candidate.timeSteps wall = 1 := by
      rw [timeSteps, handSteps_of_agrees hour, handSteps_of_agrees minute]
      exact handSteps_of_ahead value fixed ahead
    have after : candidate.timeSteps (Wall.truncate Wall.minute wall + value * Wall.second) = 0 := by
      rw [timeSteps, handSteps_of_agrees agreesHour, handSteps_of_agrees agreesMinute,
        handSteps_of_agrees agreesSecond]
    omega
  | secondBehind value month day hour minute fixed behind =>
    have time := timeSteps_le_of_minuteBegins bounded (Wall.nextUnit_begins Wall.minute wall)
    have bound := stepsTo_le goal time (by simp only [mostDateSteps] at *; omega)
    rw [stepsTo_of_agrees ⟨month, day⟩]
    have present : candidate.timeSteps wall = mostDateSteps + 6 := by
      rw [timeSteps, handSteps_of_agrees hour, handSteps_of_agrees minute]
      exact handSteps_of_behind value fixed behind
    omega

/-! ## A goal within reach -/

theorem longestMonth?_eq (year month : Int) (least : 1 ≤ month) (most : month ≤ 12)
    (february : month ≠ 2) : longestMonth? month = some (daysInMonth year month) := by
  have listed : month = 1 ∨ month = 3 ∨ month = 4 ∨ month = 5 ∨ month = 6 ∨ month = 7
      ∨ month = 8 ∨ month = 9 ∨ month = 10 ∨ month = 11 ∨ month = 12 := by omega
  rcases listed with rfl | rfl | rfl | rfl | rfl | rfl | rfl | rfl | rfl | rfl | rfl <;> rfl

theorem longestMonth?_two : longestMonth? 2 = some 29 := rfl

theorem exists_longestMonth? (year month : Int) (least : 1 ≤ month) (most : month ≤ 12) :
    ∃ longest, longestMonth? month = some longest ∧ daysInMonth year month ≤ longest := by
  by_cases february : month = 2
  · subst february
    refine ⟨29, rfl, ?_⟩
    rw [daysInMonth_two]
    have := februaryGap_eq year
    omega
  · exact ⟨_, longestMonth?_eq year month least most february, Int.le_refl _⟩

theorem IsBounded.exists_isPossible? {candidate : Candidate} (bounded : candidate.IsBounded) :
    ∃ possible, candidate.isPossible? = some possible := by
  unfold isPossible?
  split
  · next day month fixedDay fixedMonth =>
    obtain ⟨least, most⟩ := (Bounds.holds_iff _ month).mp (bounded .month month fixedMonth)
    obtain ⟨longest, found, _⟩ := exists_longestMonth? 1 month least most
    exact ⟨_, by rw [found]; rfl⟩
  · exact ⟨true, rfl⟩

/-- Eight years are enough for a leap year, even around a century without one. -/
theorem exists_leapYear (year : Int) : ∃ later, year < later ∧ later ≤ year + 8 ∧
    isLeapYear later = true := by
  have leaps : ∀ later, later % 4 = 0 → later % 100 ≠ 0 → isLeapYear later = true := by
    intro later fourth century
    simp [isLeapYear, fourth, century]
  by_cases century : (year + (4 - year % 4)) % 100 = 0
  · exact ⟨year + (8 - year % 4), by omega, by omega, leaps _ (by omega) (by omega)⟩
  · exact ⟨year + (4 - year % 4), by omega, by omega, leaps _ (by omega) century⟩

theorem exists_year (year month day longest : Int) (least : 1 ≤ month) (most : month ≤ 12)
    (found : longestMonth? month = some longest) (held : day ≤ longest) :
    ∃ later, year < later ∧ later ≤ year + 8 ∧ day ≤ daysInMonth later month := by
  by_cases february : month = 2
  · subst february
    obtain ⟨later, after, before, leap⟩ := exists_leapYear year
    refine ⟨later, after, before, ?_⟩
    rw [longestMonth?_two, Option.some.injEq] at found
    simp only [daysInMonth, leap, if_true]
    omega
  · refine ⟨year + 1, by omega, by omega, ?_⟩
    rw [longestMonth?_eq (year + 1) month least most february, Option.some.injEq] at found
    omega

theorem exists_longMonth (date : Date) (sound : date.IsSound) :
    ∃ later : Date, later.IsSound ∧ later.day = 1 ∧ daysInMonth later.year later.month = 31 ∧
      date.dayNumber < later.dayNumber ∧
      12 * later.year + later.month ≤ 12 * date.year + date.month + 2 := by
  have next := sound.firstOfNextMonth
  have nextNumber := sound.dayNumber_firstOfNextMonth
  have afterNumber := next.dayNumber_firstOfNextMonth
  have held := sound.most_day
  have nextHeld := next.most_day
  have firstDay : ∀ other : Date, other.firstOfNextMonth.day = 1 := by
    intro other
    unfold Date.firstOfNextMonth
    split <;> rfl
  have index : ∀ other : Date,
      12 * other.firstOfNextMonth.year + other.firstOfNextMonth.month
        = 12 * other.year + other.month + 1 := by
    intro other
    unfold Date.firstOfNextMonth
    split <;> simp only <;> omega
  by_cases long : daysInMonth date.firstOfNextMonth.year date.firstOfNextMonth.month = 31
  · refine ⟨date.firstOfNextMonth, next, firstDay _, long, by omega, ?_⟩
    have := index date
    omega
  · refine ⟨date.firstOfNextMonth.firstOfNextMonth, next.firstOfNextMonth, firstDay _, ?_,
      by omega, ?_⟩
    · have := next.least_month
      have := next.most_month
      have within := index date.firstOfNextMonth
      have afterSound := next.firstOfNextMonth
      have := afterSound.least_month
      have := afterSound.most_month
      simp only [daysInMonth] at long ⊢
      split at long
      · rw [if_neg (by omega), if_neg (by omega)]
      · split at long
        · rw [if_neg (by omega), if_neg (by omega)]
        · omega
    · have := index date
      have := index date.firstOfNextMonth
      omega

def goalOn (candidate : Candidate) (date : Date) : Int :=
  Wall.ofTime date (candidate.hour.getD 0) (candidate.minute.getD 0) (candidate.second.getD 0) 0

theorem IsBounded.holds_getD {candidate : Candidate} (bounded : candidate.IsBounded) (field : Field) :
    field.bounds.least ≤ (candidate.get field).getD field.bounds.least ∧
      (candidate.get field).getD field.bounds.least ≤ field.bounds.greatest := by
  cases found : candidate.get field with
  | none => cases field <;> decide
  | some value =>
    exact (Bounds.holds_iff _ value).mp (bounded field value found)

theorem goalOn_spec {candidate : Candidate} (bounded : candidate.IsBounded) {date : Date}
    (sound : date.IsSound) (month : ∀ value, candidate.month = some value → date.month = value)
    (day : ∀ value, candidate.day = some value → date.day = value) :
    candidate.Agrees (candidate.goalOn date) ∧ Wall.date (candidate.goalOn date) = date ∧
      Wall.midnight date ≤ candidate.goalOn date ∧ Wall.IsWhole (candidate.goalOn date) := by
  obtain ⟨fields, sameDate, after⟩ := Wall.ofTime_spec sound (candidate.hour.getD 0)
    (candidate.minute.getD 0) (candidate.second.getD 0) (bounded.holds_getD .hour)
    (bounded.holds_getD .minute) (bounded.holds_getD .second)
  have whole : Wall.IsWhole (candidate.goalOn date) := by
    simp only [Wall.IsWhole, Wall.microsecond, goalOn, Wall.ofTime, Wall.midnight, Wall.day, Wall.hour,
      Wall.minute, Wall.second]
    omega
  refine ⟨?_, sameDate, after, whole⟩
  intro field value fixed
  rw [goalOn, fields]
  cases field with
  | second => rw [show candidate.second = some value from fixed]; rfl
  | minute => rw [show candidate.minute = some value from fixed]; rfl
  | hour => rw [show candidate.hour = some value from fixed]; rfl
  | day => exact day value fixed
  | month => exact month value fixed

/-- A possible candidate has a goal ahead that takes few corrections. -/
theorem IsBounded.exists_goal {candidate : Candidate} (bounded : candidate.IsBounded)
    (possible : candidate.isPossible? = some true) (wall : Int) :
    ∃ goal, candidate.Agrees goal ∧ Wall.IsWhole goal ∧ wall ≤ goal ∧
      candidate.dateSteps (Wall.date goal) (Wall.date wall) ≤ mostDateSteps := by
  have sound := Wall.date_isSound wall
  have dayHeld := bounded.holds_getD .day
  simp only [Field.bounds] at dayHeld
  have fixedDay : ∀ value, candidate.day = some value → (candidate.get .day).getD 1 = value := by
    intro value fixed
    rw [show candidate.get .day = some value from fixed]
    rfl
  cases fixed : candidate.month with
  | none =>
    obtain ⟨later, laterSound, first, long, after, within⟩ := exists_longMonth _ sound
    have goalSound : (⟨later.year, later.month, (candidate.get .day).getD 1⟩ : Date).IsSound :=
      ⟨laterSound.least_month, laterSound.most_month, dayHeld.1, by simp only [long]; exact dayHeld.2⟩
    obtain ⟨agrees, sameDate, begun, whole⟩ :=
      goalOn_spec bounded goalSound (by simp [fixed]) fixedDay
    refine ⟨_, agrees, whole, Int.le_trans (Int.le_of_lt ?_) begun, ?_⟩
    · refine Wall.lt_midnight_of_dayNumber_lt wall ?_
      simp only [Date.dayNumber, first] at after ⊢
      omega
    · rw [sameDate]
      simp only [dateSteps, fixed, mostDateSteps]
      omega
  | some month =>
    have monthHeld : 1 ≤ month ∧ month ≤ 12 :=
      (Bounds.holds_iff _ month).mp (bounded .month month fixed)
    obtain ⟨longest, isLongest, _⟩ := exists_longestMonth? 1 month monthHeld.1 monthHeld.2
    have reachable : (candidate.get .day).getD 1 ≤ longest := by
      cases day : candidate.day with
      | none =>
        have shortest := daysInMonth_between 1 month
        rw [show candidate.get .day = none from day]
        simp only [Option.getD_none]
        omega
      | some value =>
        rw [show candidate.get .day = some value from day]
        simpa [isPossible?, day, fixed, isLongest] using possible
    obtain ⟨year, after, within, held⟩ := exists_year (Wall.date wall).year month _ longest
      monthHeld.1 monthHeld.2 isLongest reachable
    have goalSound : (⟨year, month, (candidate.get .day).getD 1⟩ : Date).IsSound :=
      ⟨monthHeld.1, monthHeld.2, dayHeld.1, held⟩
    obtain ⟨agrees, sameDate, begun, whole⟩ := goalOn_spec bounded goalSound
      (by intro value found; exact Option.some.inj (fixed.symm.trans found)) fixedDay
    refine ⟨_, agrees, whole, Int.le_trans (Int.le_of_lt ?_) begun, ?_⟩
    · exact Wall.lt_midnight_of_dayNumber_lt wall (sound.dayNumber_lt_of_year goalSound after)
    · rw [sameDate]
      simp only [dateSteps, fixed, mostDateSteps]
      split
      · omega
      · split <;> omega

theorem IsBounded.exists_near {candidate : Candidate} (bounded : candidate.IsBounded)
    (possible : candidate.isPossible? = some true) (wall : Int) :
    ∃ goal, candidate.Agrees goal ∧ Wall.IsWhole goal ∧ wall ≤ goal ∧
      goal < wall + 4000 * Wall.day := by
  obtain ⟨goal, agrees, whole, ahead, near⟩ := bounded.exists_goal possible wall
  refine ⟨goal, agrees, whole, ahead, ?_⟩
  have sound := Wall.date_isSound wall
  have goalSound := Wall.date_isSound goal
  have years : (Wall.date goal).year ≤ (Wall.date wall).year + 9 := by
    have := sound.most_month
    have := goalSound.least_month
    simp only [dateSteps, mostDateSteps] at near
    split at near
    · split at near
      · omega
      · split at near <;> omega
    · omega
  have begun := sound.dayNumber_inYear.1
  have upto := goalSound.dayNumber_inYear.2
  have length := daysBeforeYear_mono ((Wall.date goal).year + 1) ((Wall.date wall).year + 10) (by omega)
  have decade : daysBeforeYear ((Wall.date wall).year + 10)
      ≤ daysBeforeYear (Wall.date wall).year + 3660 := by
    simp only [daysBeforeYear]
    omega
  rw [Wall.dayNumber_date] at begun upto
  simp only [Wall.dayNumber, Wall.day] at begun upto ⊢
  omega

end Candidate
end CronClock
