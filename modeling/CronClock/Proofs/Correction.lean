import CronClock.Proofs.Moment

/-! # Corrections

A step of the search that does not end it corrects the coarsest field in which a candidate and a wall
time differ. `Candidate.Correction` says where each kind of correction leads and whether it carries into
a coarser unit by adding a span, which takes the mark of a later reading off. A correction moves forward
and past no wall time that agrees with the candidate: `Correction.lt`, `Correction.not_agrees`. -/
set_option autoImplicit false
namespace CronClock
namespace Candidate

def AgreesIn (candidate : Candidate) (wall : Int) (field : Field) : Prop :=
  ∀ value, candidate.get field = some value → (Wall.fields wall).get field = value

def Agrees (candidate : Candidate) (wall : Int) : Prop := ∀ field, candidate.AgreesIn wall field

/-- Where a correction of a wall time leads, and whether it carries into a coarser unit. -/
inductive Correction (candidate : Candidate) (wall : Int) : Int → Bool → Prop where
  | month (value : Int) (fixed : candidate.month = some value)
      (differs : (Wall.date wall).month ≠ value) (held : 1 ≤ value ∧ value ≤ 12) :
      Correction candidate wall
        (Wall.midnight ⟨if (Wall.date wall).month < value then (Wall.date wall).year
          else (Wall.date wall).year + 1, value, 1⟩) false
  | dayAhead (value : Int) (month : candidate.AgreesIn wall .month)
      (fixed : candidate.day = some value) (ahead : (Wall.date wall).day < value)
      (held : value ≤ daysInMonth (Wall.date wall).year (Wall.date wall).month) :
      Correction candidate wall
        (Wall.midnight ⟨(Wall.date wall).year, (Wall.date wall).month, value⟩) false
  | dayBehind (value : Int) (month : candidate.AgreesIn wall .month)
      (fixed : candidate.day = some value) (differs : (Wall.date wall).day ≠ value)
      (behind : (Wall.date wall).day < value →
        daysInMonth (Wall.date wall).year (Wall.date wall).month < value) :
      Correction candidate wall (Wall.midnight (Wall.date wall).firstOfNextMonth) false
  | hourAhead (value : Int) (month : candidate.AgreesIn wall .month)
      (day : candidate.AgreesIn wall .day) (fixed : candidate.hour = some value)
      (ahead : Wall.hourOfDay wall < value) (held : value * Wall.hour < Wall.day) :
      Correction candidate wall (Wall.truncate Wall.day wall + value * Wall.hour) false
  | hourBehind (value : Int) (month : candidate.AgreesIn wall .month)
      (day : candidate.AgreesIn wall .day) (fixed : candidate.hour = some value)
      (behind : value < Wall.hourOfDay wall) :
      Correction candidate wall (Wall.truncate Wall.day wall + Wall.day) true
  | minuteAhead (value : Int) (month : candidate.AgreesIn wall .month)
      (day : candidate.AgreesIn wall .day) (hour : candidate.AgreesIn wall .hour)
      (fixed : candidate.minute = some value) (ahead : Wall.minuteOfHour wall < value)
      (held : value * Wall.minute < Wall.hour) :
      Correction candidate wall (Wall.truncate Wall.hour wall + value * Wall.minute) false
  | minuteBehind (value : Int) (month : candidate.AgreesIn wall .month)
      (day : candidate.AgreesIn wall .day) (hour : candidate.AgreesIn wall .hour)
      (fixed : candidate.minute = some value) (behind : value < Wall.minuteOfHour wall) :
      Correction candidate wall (Wall.truncate Wall.hour wall + Wall.hour) true
  | secondAhead (value : Int) (month : candidate.AgreesIn wall .month)
      (day : candidate.AgreesIn wall .day) (hour : candidate.AgreesIn wall .hour)
      (minute : candidate.AgreesIn wall .minute) (fixed : candidate.second = some value)
      (ahead : Wall.secondOfMinute wall < value) (held : value * Wall.second < Wall.minute) :
      Correction candidate wall (Wall.truncate Wall.minute wall + value * Wall.second) false
  | secondBehind (value : Int) (month : candidate.AgreesIn wall .month)
      (day : candidate.AgreesIn wall .day) (hour : candidate.AgreesIn wall .hour)
      (minute : candidate.AgreesIn wall .minute) (fixed : candidate.second = some value)
      (behind : value < Wall.secondOfMinute wall) :
      Correction candidate wall (Wall.truncate Wall.minute wall + Wall.minute) true

/-! ## What a step does -/

theorem differing_eq_none_iff (target : Option Int) (present : Int) :
    differing target present = none ↔ ∀ value, target = some value → present = value := by
  cases target with
  | none => simp [differing]
  | some value =>
    by_cases same : value = present
    · simp [differing, same]
    · simp [differing, same, Ne.symm same]

theorem differing_eq_some_iff (target : Option Int) (present value : Int) :
    differing target present = some value ↔ target = some value ∧ present ≠ value := by
  cases target with
  | none => simp [differing]
  | some fixed =>
    by_cases same : fixed = present
    · subst same; simp [differing]
    · simp only [differing, if_neg same, Option.some.injEq]
      constructor
      · rintro rfl; exact ⟨rfl, Ne.symm same⟩
      · exact fun found => found.1

section Step
variable (candidate : Candidate) (moment : Moment)

def corrected (next : Int) (carried : Bool) : Progress :=
  if Wall.inCalendar next then .moved ⟨next, moment.later && !carried, moment.zone⟩ else .lost

def Leads (progress : Progress) : Prop :=
  (∃ next carried, candidate.Correction moment.wall next carried ∧
      progress = corrected moment next carried) ∨
    (progress = .lost ∧ ∀ wall, ¬ candidate.Agrees wall)

theorem ofMove_atDate (date : Date) (sound : date.IsSound) :
    Progress.ofMove (moment.atDate? date) = corrected moment (Wall.midnight date) false := by
  have inside : Wall.inCalendar (Wall.midnight date) = date.isValid := by
    rw [Bool.eq_iff_iff, Wall.inCalendar_midnight_iff sound, Date.isValid_iff]
    exact ⟨fun years => ⟨sound, years⟩, fun valid => valid.2⟩
  simp only [Moment.atDate?, corrected, inside, Moment.resetTo]
  split <;> simp [Progress.ofMove]

theorem ofMove_nextUnit (unit : Int) :
    Progress.ofMove (moment.nextUnit? unit)
      = corrected moment (Wall.truncate unit moment.wall + unit) true := by
  rw [Moment.nextUnit?, Moment.plus?_eq]
  simp only [corrected, Moment.resetTo, Bool.not_true, Bool.and_false]
  by_cases inside : Wall.inCalendar (Wall.truncate unit moment.wall + unit) = true
  · simp [inside, Progress.ofMove]
  · simp [inside, Progress.ofMove]

theorem ofMove_atCount (unit lesser count : Int) (since : 0 ≤ count)
    (held : count * lesser < unit)
    (inside : Wall.inCalendar (Wall.truncate unit moment.wall + count * lesser) = true) :
    Progress.ofMove (moment.atCount? unit lesser count)
      = corrected moment (Wall.truncate unit moment.wall + count * lesser) false := by
  rw [Moment.atCount?, if_pos ⟨since, held⟩]
  simp [corrected, inside, Moment.resetTo, Progress.ofMove]

/-! ## Each field's correction -/

theorem enterMonth_leads (value : Int) (fixed : candidate.month = some value)
    (differs : (Wall.date moment.wall).month ≠ value) :
    candidate.Leads moment (enterMonth value moment) := by
  by_cases held : 1 ≤ value ∧ value ≤ 12
  · refine .inl ⟨_, _, .month value fixed differs held, ?_⟩
    exact ofMove_atDate moment _ (Date.isSound_firstOfMonth _ _ held.1 held.2)
  · refine .inr ⟨?_, ?_⟩
    · have unsound : ∀ year, (⟨year, value, 1⟩ : Date).isValid = false := by
        intro year
        rw [Bool.eq_false_iff, ne_eq, Date.isValid_iff]
        exact fun valid => held ⟨valid.1.least_month, valid.1.most_month⟩
      simp [enterMonth, Moment.atDate?, unsound, Progress.ofMove]
    · intro wall agrees
      have sound := Wall.date_isSound wall
      have same : (Wall.date wall).month = value := agrees .month value fixed
      exact held ⟨same ▸ sound.least_month, same ▸ sound.most_month⟩

theorem enterDay_leads (value : Int) (month : candidate.AgreesIn moment.wall .month)
    (fixed : candidate.day = some value) (differs : (Wall.date moment.wall).day ≠ value) :
    candidate.Leads moment (enterDay value moment) := by
  have sound := Wall.date_isSound moment.wall
  simp only [enterDay]
  split
  · next ahead =>
    refine .inl ⟨_, _, .dayAhead value month fixed ahead.1 ahead.2, ?_⟩
    refine ofMove_atDate moment _ ⟨sound.least_month, sound.most_month, ?_, ahead.2⟩
    have := sound.least_day
    simp only
    omega
  · next behind =>
    refine .inl ⟨_, _, .dayBehind value month fixed differs ?_, ?_⟩
    · intro ahead
      by_contra held
      exact behind ⟨ahead, Int.not_lt.mp held⟩
    · exact ofMove_atDate moment _ sound.firstOfNextMonth

/-- Setting a count of lesser units leads on, or no reading has so many of them. -/
theorem atCount_leads (unit lesser value : Int) (positive : 0 < lesser) (unitPositive : 0 < unit)
    (divides : unit ∣ Wall.limit) (inside : Wall.inCalendar moment.wall = true)
    (ahead : moment.wall % unit / lesser < value)
    (correction : value * lesser < unit →
      candidate.Correction moment.wall (Wall.truncate unit moment.wall + value * lesser) false)
    (shows : ∀ wall, candidate.Agrees wall → wall % unit / lesser = value) :
    candidate.Leads moment (.ofMove (moment.atCount? unit lesser value)) := by
  have since : 0 ≤ moment.wall % unit / lesser :=
    Int.ediv_nonneg (Int.emod_nonneg _ (by omega)) (by omega)
  by_cases held : value * lesser < unit
  · refine .inl ⟨_, _, correction held, ?_⟩
    refine ofMove_atCount moment unit lesser value (by omega) held ?_
    have forward : 0 ≤ value * lesser := Int.mul_nonneg (by omega) (by omega)
    have ends := Wall.truncate_inCalendar unit moment.wall unitPositive divides inside
    rw [Wall.inCalendar_iff]
    omega
  · refine .inr ⟨?_, ?_⟩
    · rw [Moment.atCount?, if_neg (fun fits => held fits.2)]
      rfl
    · intro wall agrees
      have remainder := Int.emod_lt_of_pos wall unitPositive
      have := Int.ediv_mul_le (wall % unit) (by omega : lesser ≠ 0)
      rw [shows wall agrees] at this
      omega

theorem enterHour_leads (value : Int) (inside : Wall.inCalendar moment.wall = true)
    (month : candidate.AgreesIn moment.wall .month) (day : candidate.AgreesIn moment.wall .day)
    (fixed : candidate.hour = some value) (differs : Wall.hourOfDay moment.wall ≠ value) :
    candidate.Leads moment (enterHour value moment) := by
  simp only [enterHour]
  split
  · next ahead =>
    exact atCount_leads candidate moment Wall.day Wall.hour value (by decide) (by decide)
      (by decide) inside ahead (.hourAhead value month day fixed ahead)
      (fun wall agrees => agrees .hour value fixed)
  · next notAhead =>
    have behind : value < Wall.hourOfDay moment.wall := by omega
    exact .inl ⟨_, _, .hourBehind value month day fixed behind, ofMove_nextUnit moment Wall.day⟩

theorem enterMinute_leads (value : Int) (inside : Wall.inCalendar moment.wall = true)
    (month : candidate.AgreesIn moment.wall .month) (day : candidate.AgreesIn moment.wall .day)
    (hour : candidate.AgreesIn moment.wall .hour) (fixed : candidate.minute = some value)
    (differs : Wall.minuteOfHour moment.wall ≠ value) :
    candidate.Leads moment (enterMinute value moment) := by
  simp only [enterMinute]
  split
  · next ahead =>
    exact atCount_leads candidate moment Wall.hour Wall.minute value (by decide) (by decide)
      (by decide) inside ahead (.minuteAhead value month day hour fixed ahead)
      (fun wall agrees => agrees .minute value fixed)
  · next notAhead =>
    have behind : value < Wall.minuteOfHour moment.wall := by omega
    exact .inl ⟨_, _, .minuteBehind value month day hour fixed behind,
      ofMove_nextUnit moment Wall.hour⟩

theorem enterSecond_leads (value : Int) (inside : Wall.inCalendar moment.wall = true)
    (month : candidate.AgreesIn moment.wall .month) (day : candidate.AgreesIn moment.wall .day)
    (hour : candidate.AgreesIn moment.wall .hour) (minute : candidate.AgreesIn moment.wall .minute)
    (fixed : candidate.second = some value) (differs : Wall.secondOfMinute moment.wall ≠ value) :
    candidate.Leads moment (enterSecond value moment) := by
  simp only [enterSecond]
  split
  · next ahead =>
    exact atCount_leads candidate moment Wall.minute Wall.second value (by decide) (by decide)
      (by decide) inside ahead (.secondAhead value month day hour minute fixed ahead)
      (fun wall agrees => agrees .second value fixed)
  · next notAhead =>
    have behind : value < Wall.secondOfMinute moment.wall := by omega
    exact .inl ⟨_, _, .secondBehind value month day hour minute fixed behind,
      ofMove_nextUnit moment Wall.minute⟩

/-- A step settles a moment that agrees and corrects one that does not. -/
theorem step_spec (inside : Wall.inCalendar moment.wall = true) :
    (candidate.Agrees moment.wall ∧ candidate.step moment = settle moment) ∨
      (¬ candidate.Agrees moment.wall ∧ candidate.Leads moment (candidate.step moment)) := by
  have agreesIn : ∀ field, differing (candidate.get field) ((Wall.fields moment.wall).get field) = none
      → candidate.AgreesIn moment.wall field := by
    intro field same
    exact (differing_eq_none_iff _ _).mp same
  have disagrees : ∀ field value,
      differing (candidate.get field) ((Wall.fields moment.wall).get field) = some value →
      ¬ candidate.Agrees moment.wall := by
    intro field value differs agrees
    obtain ⟨fixed, other⟩ := (differing_eq_some_iff _ _ _).mp differs
    exact other (agrees field value fixed)
  unfold step
  split
  · next value differs =>
    obtain ⟨fixed, other⟩ := (differing_eq_some_iff _ _ _).mp differs
    exact .inr ⟨disagrees .month value differs, enterMonth_leads candidate moment value fixed other⟩
  · next month =>
    replace month := agreesIn .month month
    split
    · next value differs =>
      obtain ⟨fixed, other⟩ := (differing_eq_some_iff _ _ _).mp differs
      exact .inr ⟨disagrees .day value differs, enterDay_leads candidate moment value month fixed other⟩
    · next day =>
      replace day := agreesIn .day day
      split
      · next value differs =>
        obtain ⟨fixed, other⟩ := (differing_eq_some_iff _ _ _).mp differs
        exact .inr ⟨disagrees .hour value differs,
          enterHour_leads candidate moment value inside month day fixed other⟩
      · next hour =>
        replace hour := agreesIn .hour hour
        split
        · next value differs =>
          obtain ⟨fixed, other⟩ := (differing_eq_some_iff _ _ _).mp differs
          exact .inr ⟨disagrees .minute value differs,
            enterMinute_leads candidate moment value inside month day hour fixed other⟩
        · next minute =>
          replace minute := agreesIn .minute minute
          split
          · next value differs =>
            obtain ⟨fixed, other⟩ := (differing_eq_some_iff _ _ _).mp differs
            exact .inr ⟨disagrees .second value differs,
              enterSecond_leads candidate moment value inside month day hour minute fixed other⟩
          · next second =>
            refine .inl ⟨?_, rfl⟩
            intro field
            cases field with
            | second => exact agreesIn .second second
            | minute => exact minute
            | hour => exact hour
            | day => exact day
            | month => exact month

end Step

/-! ## What a correction passes -/

namespace Correction

variable {candidate : Candidate} {wall next : Int} {carried : Bool}

theorem lt (correction : candidate.Correction wall next carried) : wall < next := by
  have sound := Wall.date_isSound wall
  cases correction with
  | month value fixed differs held =>
    have targetSound : ∀ year, (⟨year, value, 1⟩ : Date).IsSound :=
      fun year => Date.isSound_firstOfMonth year value held.1 held.2
    refine Wall.lt_midnight_of_dayNumber_lt wall ?_
    split
    · next ahead => exact sound.dayNumber_lt_of_month (targetSound _) rfl ahead
    · exact sound.dayNumber_lt_of_year (targetSound _) (by simp only; omega)
  | dayAhead value month fixed ahead held =>
    refine Wall.lt_midnight_of_dayNumber_lt wall ?_
    simp only [Date.dayNumber]
    omega
  | dayBehind value month fixed differs behind =>
    refine Wall.lt_midnight_of_dayNumber_lt wall ?_
    rw [sound.dayNumber_firstOfNextMonth]
    have := sound.most_day
    omega
  | hourAhead value month day fixed ahead held =>
    exact Wall.lt_of_count_lt _ _ wall value (by decide) ahead
  | hourBehind value month day fixed behind =>
    exact Wall.lt_truncate_add _ wall (by decide)
  | minuteAhead value month day hour fixed ahead held =>
    exact Wall.lt_of_count_lt _ _ wall value (by decide) ahead
  | minuteBehind value month day hour fixed behind =>
    exact Wall.lt_truncate_add _ wall (by decide)
  | secondAhead value month day hour minute fixed ahead held =>
    exact Wall.lt_of_count_lt _ _ wall value (by decide) ahead
  | secondBehind value month day hour minute fixed behind =>
    exact Wall.lt_truncate_add _ wall (by decide)

/-- A correction passes no wall time that agrees. -/
theorem not_agrees (correction : candidate.Correction wall next carried) (other : Int)
    (after : wall ≤ other) (before : other < next) : ¬ candidate.Agrees other := by
  intro agrees
  have sound := Wall.date_isSound wall
  have otherSound := Wall.date_isSound other
  have later := Wall.date_le wall other after
  cases correction with
  | month value fixed differs held =>
    have sameMonth : (Wall.date other).month = value := agrees .month value fixed
    have earlier := Wall.date_lt_of_lt_midnight other
      (Date.isSound_firstOfMonth _ value held.1 held.2) before
    have := otherSound.least_day
    simp only at earlier
    split at earlier <;> omega
  | dayAhead value month fixed ahead held =>
    have sameDay : (Wall.date other).day = value := agrees .day value fixed
    have targetSound : (⟨(Wall.date wall).year, (Wall.date wall).month, value⟩ : Date).IsSound :=
      ⟨sound.least_month, sound.most_month, by have := sound.least_day; simp only; omega, held⟩
    have earlier := Wall.date_lt_of_lt_midnight other targetSound before
    simp only at earlier
    omega
  | dayBehind value month fixed differs behind =>
    have sameDay : (Wall.date other).day = value := agrees .day value fixed
    have earlier := Wall.date_lt_of_lt_midnight other sound.firstOfNextMonth before
    have sameMonth : (Wall.date other).year = (Wall.date wall).year ∧
        (Wall.date other).month = (Wall.date wall).month := by
      have := otherSound.least_month
      have := otherSound.most_month
      have := otherSound.least_day
      unfold Date.firstOfNextMonth at earlier
      split at earlier <;> simp only at earlier <;> omega
    have within := otherSound.most_day
    rw [sameMonth.1, sameMonth.2] at within
    have := behind (by omega)
    omega
  | hourAhead value month day fixed ahead held =>
    have same : other % Wall.day / Wall.hour = value := agrees .hour value fixed
    have := Wall.count_lt_of_between _ _ wall other value (by decide) held (by decide) after before
    omega
  | hourBehind value month day fixed behind =>
    have same : other % Wall.day / Wall.hour = value := agrees .hour value fixed
    have := Wall.le_count_of_between _ Wall.hour wall other (by decide) (by decide) after before
    simp only [Wall.hourOfDay] at behind
    omega
  | minuteAhead value month day hour fixed ahead held =>
    have same : other % Wall.hour / Wall.minute = value := agrees .minute value fixed
    have := Wall.count_lt_of_between _ _ wall other value (by decide) held (by decide) after before
    omega
  | minuteBehind value month day hour fixed behind =>
    have same : other % Wall.hour / Wall.minute = value := agrees .minute value fixed
    have := Wall.le_count_of_between _ Wall.minute wall other (by decide) (by decide) after before
    simp only [Wall.minuteOfHour] at behind
    omega
  | secondAhead value month day hour minute fixed ahead held =>
    have same : other % Wall.minute / Wall.second = value := agrees .second value fixed
    have := Wall.count_lt_of_between _ _ wall other value (by decide) held (by decide) after before
    omega
  | secondBehind value month day hour minute fixed behind =>
    have same : other % Wall.minute / Wall.second = value := agrees .second value fixed
    have := Wall.le_count_of_between _ Wall.second wall other (by decide) (by decide) after before
    simp only [Wall.secondOfMinute] at behind
    omega

end Correction

end Candidate
end CronClock
