import CronClock.Proofs.Budget
import Mathlib.Control.Monad.Basic

/-! # What a search finds

Whatever the candidate's values and the zone, a moment that the search finds agrees with the candidate,
is shown by the zone's clocks, and is the start itself or later on the wall: `Candidate.search_finds`,
and `Candidate.nearest?_sound` from a reference that need not be a whole second.
`Candidate.search_later_iff` says when the found moment keeps the mark of a later reading. -/
set_option autoImplicit false
namespace CronClock
namespace Candidate

structure Finds (candidate : Candidate) (start found : Moment) : Prop where
  agrees : candidate.Agrees found.wall
  shown : found.isShown? = .ok true
  zone : found.zone = start.zone
  whole : Wall.IsWhole found.wall
  inside : Wall.inCalendar found.wall = true
  forward : found = start ∨ start.wall < found.wall
  unmarked : start.later = false → found.later = false

theorem Finds.le {candidate : Candidate} {start found : Moment} (finds : candidate.Finds start found) :
    start.wall ≤ found.wall := by
  rcases finds.forward with same | later
  · exact Int.le_of_eq (congrArg Moment.wall same.symm)
  · exact Int.le_of_lt later

structure Advances (moment next : Moment) : Prop where
  forward : moment.wall < next.wall
  zone : next.zone = moment.zone
  whole : Wall.IsWhole next.wall
  inside : Wall.inCalendar next.wall = true
  unmarked : moment.later = false → next.later = false

theorem Correction.isWhole {candidate : Candidate} {wall next : Int} {carried : Bool}
    (correction : candidate.Correction wall next carried) : Wall.IsWhole next := by
  cases correction <;>
    simp only [Wall.IsWhole, Wall.microsecond, Wall.midnight, Wall.truncate, Wall.day, Wall.hour,
      Wall.minute, Wall.second] <;> omega

theorem corrected_eq_moved {moment next : Moment} {wall : Int} {carried : Bool}
    (moved : corrected moment wall carried = .moved next) :
    Wall.inCalendar wall = true ∧ next = ⟨wall, moment.later && !carried, moment.zone⟩ := by
  unfold corrected at moved
  split at moved
  · next inside => exact ⟨inside, (Progress.moved.inj moved).symm⟩
  · simp at moved

theorem advances_of_nextShownMinute {moment next : Moment}
    (found : moment.nextShownMinute = .ok next) : Advances moment next := by
  obtain ⟨forward, zone, unmarked, minute, inside, _, _⟩ := moment.nextShownMinute_spec next found
  refine ⟨forward, zone, ?_, inside, fun _ => unmarked⟩
  simp only [Wall.IsWhole, Wall.microsecond, Wall.second, Wall.minute] at *
  omega

theorem settle_eq_moved {moment next : Moment} (moved : settle moment = .moved next) :
    moment.isShown? = .ok false ∧ moment.nextShownMinute = .ok next := by
  unfold settle at moved
  split at moved
  · simp at moved
  · next hidden =>
    refine ⟨hidden, ?_⟩
    cases found : moment.nextShownMinute with
    | error fault => simp [found, Progress.ofMove] at moved
    | ok other => simpa [found, Progress.ofMove] using moved
  · simp at moved

theorem settle_eq_arrived {moment found : Moment} (arrived : settle moment = .arrived found) :
    found = moment ∧ moment.isShown? = .ok true := by
  unfold settle at arrived
  split at arrived
  · next shown => exact ⟨(Progress.arrived.inj arrived).symm, shown⟩
  · cases found : moment.nextShownMinute <;> simp [found, Progress.ofMove] at arrived
  · simp at arrived

section Step
variable (candidate : Candidate) {moment : Moment} (inside : Wall.inCalendar moment.wall = true)
include inside

theorem step_moved {next : Moment} (moved : candidate.step moment = .moved next) :
    Advances moment next := by
  rcases candidate.step_spec moment inside with ⟨_, settles⟩ | ⟨_, leads⟩
  · rw [settles] at moved
    exact advances_of_nextShownMinute (settle_eq_moved moved).2
  · rcases leads with ⟨wall, carried, correction, result⟩ | ⟨lost, _⟩
    · rw [result] at moved
      obtain ⟨within, same⟩ := corrected_eq_moved moved
      subst same
      exact ⟨correction.lt, rfl, correction.isWhole, within, fun unmarked => by simp [unmarked]⟩
    · simp [lost] at moved

theorem step_arrived {found : Moment} (arrived : candidate.step moment = .arrived found) :
    found = moment ∧ candidate.Agrees moment.wall ∧ moment.isShown? = .ok true := by
  rcases candidate.step_spec moment inside with ⟨agrees, settles⟩ | ⟨_, leads⟩
  · rw [settles] at arrived
    obtain ⟨same, shown⟩ := settle_eq_arrived arrived
    exact ⟨same, agrees, shown⟩
  · rcases leads with ⟨wall, carried, correction, result⟩ | ⟨lost, _⟩
    · rw [result] at arrived
      unfold corrected at arrived
      split at arrived <;> simp at arrived
    · simp [lost] at arrived

end Step

/-- Soundness of the search, for any values and any zone. -/
theorem search_finds (candidate : Candidate) (steps : Nat) (start found : Moment)
    (inside : Wall.inCalendar start.wall = true) (whole : Wall.IsWhole start.wall)
    (result : candidate.search steps start = some found) : candidate.Finds start found := by
  -- On the steps: each moves forward in the zone, and only a settled moment is found.
  induction steps generalizing start with
  | zero => simp [search] at result
  | succ steps ih =>
    rw [search] at result
    cases step : candidate.step start with
    | arrived moment =>
      rw [step] at result
      obtain ⟨same, agrees, shown⟩ := candidate.step_arrived inside step
      cases result
      subst same
      exact ⟨agrees, shown, rfl, whole, inside, .inl rfl, id⟩
    | moved next =>
      rw [step] at result
      have advance := candidate.step_moved inside step
      have finds := ih next advance.inside advance.whole result
      refine ⟨finds.agrees, finds.shown, finds.zone.trans advance.zone, finds.whole, finds.inside,
        .inr ?_, fun unmarked => finds.unmarked (advance.unmarked unmarked)⟩
      rcases finds.forward with same | later
      · exact same ▸ advance.forward
      · exact Int.lt_trans advance.forward later
    | lost => simp [step] at result

/-! ## From any reference -/

theorem next?_of_rounded (candidate : Candidate) (reference start : Moment)
    (rounded : reference.wholeSecond? = .ok start) :
    candidate.next? reference = .ok (candidate.search stepLimit start) := by
  simp only [next?, rounded, bind, Except.bind]
  rfl

theorem next?_finds (candidate : Candidate) (reference found : Moment)
    (inside : Wall.inCalendar reference.wall = true)
    (given : candidate.next? reference = .ok (some found)) :
    ∃ start, reference.wholeSecond? = .ok start ∧ candidate.search stepLimit start = some found ∧
      candidate.Finds start found := by
  rw [next?, bind_eq_ok] at given
  obtain ⟨start, rounded, searched⟩ := given
  rw [pure_eq_ok] at searched
  have whole := (reference.wholeSecond?_eq_ok start rounded).1
  have startInside := reference.wholeSecond?_inCalendar start inside rounded
  exact ⟨start, rounded, searched, candidate.search_finds _ start found startInside whole searched⟩

theorem Finds.returns (system : ZoneRules) {candidate : Candidate} {start found : Moment}
    (finds : candidate.Finds start found) (zone : Zone) (placed : start.zone = some zone) :
    ∃ instant back, found.instant? system = .ok instant ∧ Moment.atInstant? zone instant = .ok back ∧
      back.wall = found.wall := by
  obtain ⟨instant, located, _, returned⟩ :=
    found.shown_of_isShown? zone (finds.zone.trans placed) finds.shown
  have inside : Wall.inCalendar (zone.reading instant).wall = true := by
    rw [returned]
    exact finds.inside
  have placedToo := found.instant?_of_zone system zone (finds.zone.trans placed)
  refine ⟨instant, Moment.ofReading zone (zone.reading instant), placedToo.trans located, ?_, returned⟩
  rw [Moment.atInstant?_eq]
  exact if_pos inside

/-- Whatever the candidate's values, the zone's shifts and the reference, a moment that is found agrees
with the candidate, is a whole second of the reference's zone that going to universal time and back does
not change, and is the reference itself or later on the wall. -/
theorem nearest?_sound (system : ZoneRules) (candidate : Candidate) (reference found : Moment)
    (inside : Wall.inCalendar reference.wall = true)
    (given : candidate.nearest? reference = .ok (some found)) :
    (∀ field value, candidate.get field = some value →
        (Wall.fields found.wall).get field = value) ∧
      Wall.microsecond found.wall = 0 ∧ found.zone = reference.zone ∧
      (∀ zone, reference.zone = some zone → ∃ instant back, found.instant? system = .ok instant ∧
        Moment.atInstant? zone instant = .ok back ∧ back.wall = found.wall) ∧
      reference.wall ≤ found.wall ∧ (found.wall = reference.wall → found = reference) := by
  have searched : candidate.next? reference = .ok (some found) := by
    unfold nearest? at given
    split at given
    · simp at given
    · simp at given
    · exact (mapError_eq_ok _ _ _).mp given
  obtain ⟨start, rounded, _, finds⟩ := candidate.next?_finds reference found inside searched
  obtain ⟨_, sameZone, after, _, _⟩ := reference.wholeSecond?_eq_ok start rounded
  refine ⟨finds.agrees, finds.whole, finds.zone.trans sameZone, ?_, Int.le_trans after finds.le, ?_⟩
  · intro zone placed
    exact finds.returns system zone (sameZone.trans placed)
  · intro same
    rcases finds.forward with unmoved | beyond
    · rw [unmoved] at same ⊢
      exact reference.eq_of_wholeSecond? start rounded same
    · omega

/-- Clocks that go on by an hour, two hours later back by it, and an hour after that on by two. -/
def crowdedClocks : Zone :=
  .named "Zone" (.ofSeconds 1172 [(1616893200, 4772), (1616900400, 1172), (1616904000, 8372)])

theorem nearest?_sound_crowdedClocks :
    nearest? ⟨none, some 30, none, some 28, some 3⟩
        ⟨Wall.ofTime ⟨2021, 3, 28⟩ 1 25 10 250000, true, some crowdedClocks⟩
      = .ok (some ⟨Wall.ofTime ⟨2021, 3, 28⟩ 2 30 0 0, false, some crowdedClocks⟩) ∧
      ∃ instant back, Moment.instant? .universal
          ⟨Wall.ofTime ⟨2021, 3, 28⟩ 2 30 0 0, false, some crowdedClocks⟩ = .ok instant ∧
        Moment.atInstant? crowdedClocks instant = .ok back ∧
        back.wall = Wall.ofTime ⟨2021, 3, 28⟩ 2 30 0 0 := by
  have given : nearest? ⟨none, some 30, none, some 28, some 3⟩
      ⟨Wall.ofTime ⟨2021, 3, 28⟩ 1 25 10 250000, true, some crowdedClocks⟩
      = .ok (some ⟨Wall.ofTime ⟨2021, 3, 28⟩ 2 30 0 0, false, some crowdedClocks⟩) := by
    decide +kernel
  obtain ⟨_, _, _, returns, _, _⟩ := nearest?_sound .universal _ _ _ (by decide +kernel) given
  exact ⟨given, returns crowdedClocks rfl⟩

/-! ## The mark of a later reading -/

def IsPastIn (candidate : Candidate) (wall : Int) (field : Field) : Prop :=
  ∃ value, candidate.get field = some value ∧ value < (Wall.fields wall).get field

/-- The date agrees, and of hour, minute and second the first that differs is past the fixed value. -/
def IsPast (candidate : Candidate) (wall : Int) : Prop :=
  candidate.AgreesInDate wall ∧
    (candidate.IsPastIn wall .hour ∨ (candidate.AgreesIn wall .hour ∧
      (candidate.IsPastIn wall .minute ∨ (candidate.AgreesIn wall .minute ∧
        candidate.IsPastIn wall .second))))

section Past
variable {candidate : Candidate} {wall : Int} {field : Field}

theorem not_isPastIn_of_le (field : Field) (value : Int) (fixed : candidate.get field = some value)
    (order : (Wall.fields wall).get field ≤ value) : ¬ candidate.IsPastIn wall field := by
  rintro ⟨other, found, past⟩
  have same : value = other := Option.some.inj (fixed.symm.trans found)
  omega

theorem AgreesIn.not_isPastIn (agrees : candidate.AgreesIn wall field) :
    ¬ candidate.IsPastIn wall field := by
  rintro ⟨value, fixed, past⟩
  have := agrees value fixed
  omega

theorem IsBounded.not_isPastIn (bounded : candidate.IsBounded)
    (begins : (Wall.fields wall).get field = field.bounds.least) :
    ¬ candidate.IsPastIn wall field := by
  rintro ⟨value, fixed, past⟩
  have := bounded.since field value fixed
  omega

theorem not_agreesIn_of_ne (field : Field) (value : Int) (fixed : candidate.get field = some value)
    (differs : (Wall.fields wall).get field ≠ value) : ¬ candidate.AgreesIn wall field :=
  fun agrees => differs (agrees value fixed)

theorem not_isPast_of_times (hour : ¬ candidate.IsPastIn wall .hour)
    (minute : ¬ candidate.IsPastIn wall .minute) (second : ¬ candidate.IsPastIn wall .second) :
    ¬ candidate.IsPast wall := by
  rintro ⟨_, past | ⟨_, past | ⟨_, past⟩⟩⟩
  · exact hour past
  · exact minute past
  · exact second past

theorem Agrees.not_isPast (agrees : candidate.Agrees wall) : ¬ candidate.IsPast wall :=
  not_isPast_of_times (agrees .hour).not_isPastIn (agrees .minute).not_isPastIn
    (agrees .second).not_isPastIn

theorem IsBounded.not_isPast_of_day (bounded : candidate.IsBounded)
    (begins : wall % Wall.day = 0) : ¬ candidate.IsPast wall := by
  obtain ⟨hourZero, hourBegins⟩ := hourOfDay_zero wall begins
  obtain ⟨minuteZero, minuteBegins⟩ := minuteOfHour_zero wall hourBegins
  exact not_isPast_of_times (bounded.not_isPastIn hourZero) (bounded.not_isPastIn minuteZero)
    (bounded.not_isPastIn (secondOfMinute_zero wall minuteBegins))

end Past

namespace Correction

variable {candidate : Candidate} {wall next : Int} {carried : Bool}

/-- The corrections that carry are those of wall times past the candidate's time of day. -/
theorem carried_iff (correction : candidate.Correction wall next carried) :
    carried = true ↔ candidate.IsPast wall := by
  cases correction with
  | month value fixed differs held =>
    have disagrees := not_agreesIn_of_ne .month value fixed differs
    simp [IsPast, AgreesInDate, disagrees]
  | dayAhead value month fixed ahead held =>
    have disagrees := not_agreesIn_of_ne .day value fixed (Int.ne_of_lt ahead)
    simp [IsPast, AgreesInDate, disagrees]
  | dayBehind value month fixed differs behind =>
    have disagrees := not_agreesIn_of_ne .day value fixed differs
    simp [IsPast, AgreesInDate, disagrees]
  | hourAhead value month day fixed ahead held =>
    have disagrees := not_agreesIn_of_ne .hour value fixed (Int.ne_of_lt ahead)
    have notPast := not_isPastIn_of_le .hour value fixed (Int.le_of_lt ahead)
    simp [IsPast, disagrees, notPast]
  | hourBehind value month day fixed behind =>
    have past : candidate.IsPastIn wall .hour := ⟨value, fixed, behind⟩
    simp [IsPast, AgreesInDate, month, day, past]
  | minuteAhead value month day hour fixed ahead held =>
    have disagrees := not_agreesIn_of_ne .minute value fixed (Int.ne_of_lt ahead)
    have notPast := not_isPastIn_of_le .minute value fixed (Int.le_of_lt ahead)
    simp [IsPast, disagrees, notPast, hour.not_isPastIn]
  | minuteBehind value month day hour fixed behind =>
    have past : candidate.IsPastIn wall .minute := ⟨value, fixed, behind⟩
    simp [IsPast, AgreesInDate, month, day, hour, past]
  | secondAhead value month day hour minute fixed ahead held =>
    have notPast := not_isPastIn_of_le .second value fixed (Int.le_of_lt ahead)
    simp [IsPast, notPast, hour.not_isPastIn, minute.not_isPastIn]
  | secondBehind value month day hour minute fixed behind =>
    have past : candidate.IsPastIn wall .second := ⟨value, fixed, behind⟩
    simp [IsPast, AgreesInDate, month, day, hour, minute, past]

theorem not_isPast (correction : candidate.Correction wall next false)
    (bounded : candidate.IsBounded) : ¬ candidate.IsPast next := by
  cases correction with
  | month value fixed differs held =>
    exact bounded.not_isPast_of_day (Wall.midnight_begins _)
  | dayAhead value month fixed ahead held =>
    exact bounded.not_isPast_of_day (Wall.midnight_begins _)
  | dayBehind value month fixed differs behind =>
    exact bounded.not_isPast_of_day (Wall.midnight_begins _)
  | hourAhead value month day fixed ahead held =>
    obtain ⟨_, hour, begins⟩ := Wall.setHour_spec wall value (bounded.since .hour value fixed) held
    obtain ⟨minuteZero, minuteBegins⟩ := minuteOfHour_zero _ begins
    exact not_isPast_of_times (not_isPastIn_of_le .hour value fixed (Int.le_of_eq hour))
      (bounded.not_isPastIn minuteZero)
      (bounded.not_isPastIn (secondOfMinute_zero _ minuteBegins))
  | minuteAhead value month day hour fixed ahead held =>
    obtain ⟨_, sameHour, minute, begins⟩ :=
      Wall.setMinute_spec wall value (bounded.since .minute value fixed) held
    have agreesHour : candidate.AgreesIn _ .hour := fun other found => sameHour.trans (hour other found)
    exact not_isPast_of_times agreesHour.not_isPastIn
      (not_isPastIn_of_le .minute value fixed (Int.le_of_eq minute))
      (bounded.not_isPastIn (secondOfMinute_zero _ begins))
  | secondAhead value month day hour minute fixed ahead held =>
    obtain ⟨_, sameHour, sameMinute, second, _⟩ :=
      Wall.setSecond_spec wall value (bounded.since .second value fixed) held
    have agreesHour : candidate.AgreesIn _ .hour := fun other found => sameHour.trans (hour other found)
    have agreesMinute : candidate.AgreesIn _ .minute :=
      fun other found => sameMinute.trans (minute other found)
    exact not_isPast_of_times agreesHour.not_isPastIn agreesMinute.not_isPastIn
      (not_isPastIn_of_le .second value fixed (Int.le_of_eq second))

end Correction

/-- Where the clocks skip nothing, the found moment keeps the start's mark unless the start is past the
candidate's time of day. -/
theorem search_later_iff {candidate : Candidate} (bounded : candidate.IsBounded) (steps : Nat)
    (start found : Moment) (inside : Wall.inCalendar start.wall = true)
    (whole : Wall.IsWhole start.wall) (result : candidate.search steps start = some found)
    (unskipped : ∀ wall later, start.wall ≤ wall → wall ≤ found.wall →
      Moment.isShown? ⟨wall, later, start.zone⟩ ≠ .ok false) :
    found.later = true ↔ start.later = true ∧ ¬ candidate.IsPast start.wall := by
  induction steps generalizing start with
  | zero => simp [search] at result
  | succ steps ih =>
    have finds := candidate.search_finds (steps + 1) start found inside whole result
    rw [search] at result
    rcases candidate.step_spec start inside with ⟨agrees, settles⟩ | ⟨disagrees, leads⟩
    · have notHidden : start.isShown? ≠ .ok false :=
        unskipped start.wall start.later (Int.le_refl _) finds.le
      cases shown : start.isShown? with
      | error fault => simp [settles, settle, shown] at result
      | ok isShown =>
        cases isShown with
        | false => exact absurd shown notHidden
        | true =>
          simp only [settles, settle, shown] at result
          cases result
          simp [agrees.not_isPast]
    · rcases leads with ⟨wall, carried, correction, progress⟩ | ⟨lost, _⟩
      · rw [progress, corrected] at result
        by_cases within : Wall.inCalendar wall = true
        · simp only [within, if_true] at result
          have kept := ih ⟨wall, start.later && !carried, start.zone⟩ within correction.isWhole result
            (fun other later after => unskipped other later (Int.le_trans
              (Int.le_of_lt correction.lt) after))
          rw [kept, ← correction.carried_iff]
          cases carried with
          | true => simp
          | false => simp [correction.not_isPast bounded]
        · simp [within] at result
      · simp [lost] at result

end Candidate
end CronClock
