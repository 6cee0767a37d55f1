import CronClock.Proofs.FiringOrder

/-! # Firings and their instants

A round that waits is over when the requested sleep is. A wait of less than 2 ^ 33 seconds is as long as
the delay, and the firing is at the moment's instant; a longer one ends at most 31 microseconds before
or after it. A round with nothing to wait for fires at the instant or later: `Firing.isPunctual_run`. -/
set_option autoImplicit false
namespace CronClock

/-- What a round has slept besides the pauses is at most one wait. Without a wait the firing is not
before the moment's instant, and with a wait shorter than the finest delay it is at that instant. -/
def Round.IsPunctual (system : ZoneRules) (pauses : List Int) (round : Round) : Prop :=
  ∃ instant, round.moment.instant? system = .ok instant ∧
    ((round.slept = pauses ∧ instant ≤ round.clock) ∨
      ∃ wait, round.slept = pauses ++ [wait] ∧ 0 < wait ∧
        (wait < Firing.finest → round.clock = instant) ∧
        instant ≤ round.clock + 31 ∧ round.clock ≤ instant + 31)

namespace Schedule

/-- The planned delay is the time until the moment's instant. -/
theorem isPunctual_of_isPlanned (system : ZoneRules) (schedule : Schedule)
    (clocks : schedule.IsClocked system) (pauses : List Int) (since : Int) (round : Round)
    (planned : round.IsPlanned (schedule.planner system) pauses since) :
    round.IsPunctual system pauses := by
  obtain ⟨_, delay, plan, slept, clock⟩ := planned
  obtain ⟨_, instant, _, _, located, inside, span⟩ :=
    schedule.plan?_eq_ok system clocks _ round.moment delay plan
  have reached := round.moment.instant?_inCalendar system instant located
  rw [Wall.inCalendar_iff] at reached inside
  rw [slept, List.sum_append] at clock
  refine ⟨instant, located, ?_⟩
  unfold Firing.waits at slept clock
  by_cases ahead : 0 < delay
  · right
    rw [if_pos ahead] at slept clock
    rw [List.sum_singleton] at clock
    have within : delay < Wall.limit := by omega
    have near := Firing.requested_near delay (Int.le_of_lt ahead) within
    have begun := Firing.requested_pos delay ahead within
    refine ⟨Firing.requested delay, slept, begun, ?_, by omega, by omega⟩
    intro short
    rw [Firing.eq_of_requested delay (Int.le_of_lt ahead) within short] at clock
    omega
  · left
    rw [if_neg ahead] at slept clock
    rw [List.sum_nil] at clock
    exact ⟨by rw [slept, List.append_nil], by omega⟩

end Schedule

namespace Firing

/-- Every firing of a run has a round, and no round without a wait fires before its moment's instant.
One that has waited fires at that instant, or within 31 microseconds of it if the wait was too long to
have its microseconds. -/
theorem isPunctual_run {ε α : Type} (system : ZoneRules) (schedule : Schedule)
    (clocks : schedule.IsClocked system) (pause : Int) (block : Block ε α) (form : Form)
    (world : World ε) :
    ((run (schedule.planner system) pause block form world).rounds []).map
        (fun round => (round.moment, round.clock))
      = (run (schedule.planner system) pause block form world).fired ∧
    ∀ round ∈ (run (schedule.planner system) pause block form world).rounds [],
      round.IsPunctual system (form.pauses pause) := by
  refine ⟨Leg.map_rounds [] _, ?_⟩
  intro round member
  obtain ⟨since, planned⟩ :=
    (arePlanned_run (schedule.planner system) pause block form world).exists_isPlanned round member
  exact schedule.isPunctual_of_isPlanned system clocks _ since round planned

/-- Half a minute before the clocks are set back, the wait for the next minute takes an hour more. -/
theorem isPunctual_overShift :
    (run (Schedule.minutely.planner .universal) 1000
        (⟨fun _ => .ok true, .steady 0, id⟩ : Block Unit Bool) .whileContinued
        ⟨Wall.ofTime ⟨2021, 10, 31⟩ 0 59 30 0, 2, 0, ()⟩).rounds []
      = [⟨[1000, 3629999000], ⟨Wall.ofTime ⟨2021, 10, 31⟩ 3 0 0 0, false, some .setBack⟩,
          Wall.ofTime ⟨2021, 10, 31⟩ 2 0 0 0⟩] ∧
      Moment.instant? .universal ⟨Wall.ofTime ⟨2021, 10, 31⟩ 3 0 0 0, false, some .setBack⟩
        = .ok (Wall.ofTime ⟨2021, 10, 31⟩ 2 0 0 0) := by
  have rounds : (run (Schedule.minutely.planner .universal) 1000
      (⟨fun _ => .ok true, .steady 0, id⟩ : Block Unit Bool) .whileContinued
      ⟨Wall.ofTime ⟨2021, 10, 31⟩ 0 59 30 0, 2, 0, ()⟩).rounds []
        = [⟨[1000, 3629999000], ⟨Wall.ofTime ⟨2021, 10, 31⟩ 3 0 0 0, false, some .setBack⟩,
            Wall.ofTime ⟨2021, 10, 31⟩ 2 0 0 0⟩] := by
    decide +kernel
  obtain ⟨_, punctual⟩ := isPunctual_run .universal Schedule.minutely
    (.of_zone rfl ⟨by decide, by decide, by decide⟩) 1000
    (⟨fun _ => .ok true, .steady 0, id⟩ : Block Unit Bool) .whileContinued
    ⟨Wall.ofTime ⟨2021, 10, 31⟩ 0 59 30 0, 2, 0, ()⟩
  rw [rounds] at punctual
  obtain ⟨instant, located, waited⟩ := punctual _ List.mem_cons_self
  refine ⟨rounds, ?_⟩
  rcases waited with ⟨slept, _⟩ | ⟨wait, slept, _, exact, _⟩
  · simp [Form.pauses] at slept
  · obtain rfl : wait = 3629999000 := by simpa [Form.pauses] using slept.symm
    rw [located, ← exact (by decide)]

end Firing

/-- Clocks that go on by a minute when the last day of February begins in a leap year, up to 2296, and
back in July. -/
def Zone.leapless : Zone := .named "Zone" {
  initial := 0
  shifts := (List.range 69).flatMap fun index =>
    [⟨Wall.midnight ⟨2024 + 4 * index, 2, 29⟩, Wall.minute⟩,
      ⟨Wall.midnight ⟨2024 + 4 * index, 7, 1⟩, 0⟩] }

def ZoneRules.dayBack : ZoneRules := .ofSeconds (13 * 3600) [(1635642000, -12 * 3600)]

namespace Schedule

def leapDay : Schedule :=
  ⟨.listed [⟨some 0, some 0, some 0, some 29, some 2⟩], some .leapless,
    some ⟨"0", "0", "0", "29", "2"⟩⟩

def systemHourly : Schedule :=
  ⟨.listed [⟨some 0, some 0, none, none, none⟩], none, some ⟨"0", "0", "*", "*", "*"⟩⟩

end Schedule

namespace Firing

/-- A wait of 280 years ends a microsecond too early, and a wait on the machine's clocks, into which
they are set back by more than a day, more than a day too early. -/
theorem early_afterLongWait :
    (Zone.leapless.rules.IsSpaced ∧
      Schedule.ofText? (.ok (some .leapless)) "0 0 0 29 2" = .ok Schedule.leapDay ∧
      (run (Schedule.leapDay.planner .universal) 1000
          (⟨fun _ => .ok true, .steady 0, id⟩ : Block Unit Bool) .once
          ⟨Wall.ofTime ⟨2023, 6, 1⟩ 0 0 0 1, 1, 0, ()⟩).rounds []
        = [⟨[8859455999999998], ⟨Wall.ofTime ⟨2304, 2, 29⟩ 0 0 0 0, false, some .leapless⟩,
            Wall.ofTime ⟨2304, 2, 28⟩ 23 59 59 999999⟩] ∧
      Moment.instant? .universal ⟨Wall.ofTime ⟨2304, 2, 29⟩ 0 0 0 0, false, some .leapless⟩
        = .ok (Wall.ofTime ⟨2304, 2, 29⟩ 0 0 0 0) ∧
      Wall.ofTime ⟨2304, 2, 28⟩ 23 59 59 999999 < Wall.ofTime ⟨2304, 2, 29⟩ 0 0 0 0) ∧
    ZoneRules.dayBack.IsSpaced ∧
    Schedule.ofText? (.ok none) "0 0 * * *" = .ok Schedule.systemHourly ∧
    (run (Schedule.systemHourly.planner .dayBack) 1000
        (⟨fun _ => .ok true, .steady 0, id⟩ : Block Unit Bool) .once
        ⟨Wall.ofTime ⟨2021, 10, 31⟩ 0 0 1 0, 1, 0, ()⟩).rounds []
      = [⟨[3599000000], ⟨Wall.ofTime ⟨2021, 10, 31⟩ 14 0 0 0, false, none⟩,
          Wall.ofTime ⟨2021, 10, 31⟩ 1 0 0 0⟩] ∧
    Moment.instant? .dayBack ⟨Wall.ofTime ⟨2021, 10, 31⟩ 14 0 0 0, false, none⟩
      = .ok (Wall.ofTime ⟨2021, 11, 1⟩ 2 0 0 0) ∧
    Wall.ofTime ⟨2021, 10, 31⟩ 1 0 0 0 < Wall.ofTime ⟨2021, 11, 1⟩ 2 0 0 0 :=
  ⟨⟨⟨by decide +kernel, by decide +kernel, by decide +kernel⟩, by decide +kernel, by decide +kernel,
      by decide +kernel, by decide +kernel⟩,
    ⟨by decide +kernel, by decide +kernel, by decide +kernel⟩, by decide +kernel, by decide +kernel,
    by decide +kernel, by decide +kernel⟩

end Firing
end CronClock
