import CronClock.Proofs.Reference

/-! # The next moment is its own next moment

A moment that a schedule names is one that its search has nothing to correct in: it is on the schedule's
own clocks, and some candidate agrees with it as it stands. That candidate arrives there at once, and
whatever another candidate finds from there is the same moment, mark included, or later on the wall. So
the named moments are the fixed points of the search, `Schedule.next?_eq_self_iff`, and asking again
from an answer gives that answer, `Schedule.next?_next?`. -/
set_option autoImplicit false
namespace CronClock

namespace Candidate

variable {candidate : Candidate} {moment : Moment}

theorem step_of_agrees (inside : Wall.inCalendar moment.wall = true)
    (agrees : candidate.Agrees moment.wall) (shown : moment.isShown? = .ok true) :
    candidate.step moment = .arrived moment := by
  rcases candidate.step_spec moment inside with ⟨_, settles⟩ | ⟨disagrees, _⟩
  · rw [settles, settle, shown]
  · exact absurd agrees disagrees

/-- From a whole second that agrees and is shown the search does not move, whatever comes after it. -/
theorem next?_of_agrees (inside : Wall.inCalendar moment.wall = true)
    (whole : Wall.IsWhole moment.wall) (agrees : candidate.Agrees moment.wall)
    (shown : moment.isShown? = .ok true) : candidate.next? moment = .ok (some moment) := by
  have rounded : moment.wholeSecond? = .ok moment := if_pos whole
  have arrives : candidate.search stepLimit moment = some moment := by
    rw [stepLimit, search, step_of_agrees inside agrees shown]
  rw [candidate.next?_of_rounded moment moment rounded, arrives]

theorem eq_or_lt_of_next? (inside : Wall.inCalendar moment.wall = true)
    (whole : Wall.IsWhole moment.wall) (found : Moment)
    (given : candidate.next? moment = .ok (some found)) :
    found = moment ∨ moment.wall < found.wall := by
  obtain ⟨start, rounded, _, finds⟩ := candidate.next?_finds moment found inside given
  have unrounded : moment.wholeSecond? = .ok moment := if_pos whole
  cases unrounded.symm.trans rounded
  exact finds.forward

end Candidate

namespace Schedule

theorem earliest_of_member (results : List (Option Moment)) (moment : Moment)
    (member : some moment ∈ results)
    (others : ∀ other, some other ∈ results → other = moment ∨ moment.wall < other.wall) :
    earliest results = some moment := by
  cases found : earliest results with
  | none => exact absurd member ((earliest_eq_none_iff results).mp found moment)
  | some best =>
    obtain ⟨bestMember, least⟩ := earliest_eq_some results best found
    have order := least moment member
    rcases others best bestMember with same | later
    · rw [same]
    · omega

/-- The moment is on the schedule's own clocks and, unless every instant will do, a whole second that
they show and that a candidate agrees with. -/
structure Names (schedule : Schedule) (moment : Moment) : Prop where
  own : schedule.localize? moment = .ok moment
  fits : ∀ candidates, schedule.timetable = .listed candidates →
    Wall.IsWhole moment.wall ∧ moment.isShown? = .ok true ∧
      ∃ candidate ∈ candidates, candidate.Agrees moment.wall

theorem Names.next? {schedule : Schedule} {moment : Moment} (names : schedule.Names moment)
    (inside : Wall.inCalendar moment.wall = true) : schedule.next? moment = .ok (some moment) := by
  cases timetable : schedule.timetable with
  | anyTime =>
    simp only [Schedule.next?, names.own, timetable, bind, Except.bind]
    rfl
  | listed candidates =>
    obtain ⟨whole, shown, candidate, listed, agrees⟩ := names.fits candidates timetable
    have arrives := Candidate.next?_of_agrees inside whole agrees shown
    obtain ⟨results, mapped⟩ := exists_results candidates moment moment (if_pos whole)
    have results_spec := mem_of_mapM _ candidates results mapped
    have first : earliest results = some moment := by
      apply earliest_of_member
      · exact (results_spec _).mpr ⟨candidate, listed, arrives⟩
      · intro other member
        obtain ⟨_, _, given⟩ := (results_spec _).mp member
        exact Candidate.eq_or_lt_of_next? inside whole other given
    rw [schedule.next?_of_listed moment moment names.own candidates timetable results mapped, first]

section Own
variable (schedule : Schedule)
  (own : ∀ zone, schedule.zone = some zone → zone.isSame zone = true)
include own

theorem localize?_of_localized (reference start moment : Moment)
    (localized : schedule.localize? reference = .ok start) (same : moment.zone = start.zone) :
    schedule.localize? moment = .ok moment := by
  cases placed : schedule.zone with
  | none => simp only [localize?, placed]
  | some zone =>
    have startZone := schedule.localize?_zone reference start localized zone placed
    exact schedule.localize?_of_own zone (own zone placed) placed moment (same.trans startZone)

theorem names_of_next? (reference moment : Moment) (inside : Wall.inCalendar reference.wall = true)
    (given : schedule.next? reference = .ok (some moment)) :
    schedule.Names moment ∧ Wall.inCalendar moment.wall = true := by
  obtain ⟨start, localized, named⟩ := schedule.next?_eq_some reference moment given
  have startInside : Wall.inCalendar start.wall = true := by
    rcases schedule.localize?_cases reference inside with ⟨_, other, also, _, otherInside⟩ | ⟨_, failed⟩
    · cases localized.symm.trans also
      exact otherInside
    · cases localized.symm.trans failed
  rcases named with ⟨anyTime, same⟩ | ⟨candidates, candidate, timetable, listed, found⟩
  · rw [same]
    refine ⟨⟨schedule.localize?_of_localized own reference start start localized rfl, ?_⟩, startInside⟩
    intro candidates timetable
    cases anyTime.symm.trans timetable
  · obtain ⟨whole, rounded, _, finds⟩ := candidate.next?_finds start moment startInside found
    have sameZone := (start.wholeSecond?_eq_ok whole rounded).2.1
    refine ⟨⟨?_, ?_⟩, finds.inside⟩
    · apply schedule.localize?_of_localized own reference start moment localized
      exact finds.zone.trans sameZone
    · intro others also
      cases timetable.symm.trans also
      exact ⟨finds.whole, finds.shown, candidate, listed, finds.agrees⟩

/-- The moments that are next from themselves on are those that the schedule names. -/
theorem next?_eq_self_iff (moment : Moment) (inside : Wall.inCalendar moment.wall = true) :
    schedule.next? moment = .ok (some moment) ↔ schedule.Names moment := by
  constructor
  · intro given
    exact (schedule.names_of_next? own moment moment inside given).1
  · intro names
    exact names.next? inside

end Own

/-- Asked again from its own answer on, a schedule gives the same moment, with its wall time, its zone
and its mark. That holds for any candidates, for any rules of the zone and for any reference, on
whatever clocks; the one zone left out is a bare offset, which is a timestamp's zone and never a
schedule's. -/
theorem next?_next? (schedule : Schedule)
    (own : ∀ zone, schedule.zone = some zone → zone.isSame zone = true) (reference moment : Moment)
    (inside : Wall.inCalendar reference.wall = true)
    (given : schedule.next? reference = .ok (some moment)) :
    schedule.next? moment = .ok (some moment) ∧ schedule.nextOrSame? moment = .ok moment := by
  obtain ⟨names, momentInside⟩ := schedule.names_of_next? own reference moment inside given
  have again := (schedule.next?_eq_self_iff own moment momentInside).mpr names
  refine ⟨again, ?_⟩
  simp only [nextOrSame?, names.own, again, bind, Except.bind]
  rfl

theorem next?_next?_secondPass :
    next? ⟨.listed [⟨none, none, some 99, none, none⟩, ⟨some 0, some 30, none, none, none⟩],
        some .setBack, none⟩ ⟨Wall.ofTime ⟨2021, 10, 31⟩ 1 15 20 0, false, some .universal⟩
      = .ok (some ⟨Wall.ofTime ⟨2021, 10, 31⟩ 2 30 0 0, true, some .setBack⟩) ∧
    nextOrSame? ⟨.listed [⟨none, none, some 99, none, none⟩, ⟨some 0, some 30, none, none, none⟩],
        some .setBack, none⟩ ⟨Wall.ofTime ⟨2021, 10, 31⟩ 2 30 0 0, true, some .setBack⟩
      = .ok ⟨Wall.ofTime ⟨2021, 10, 31⟩ 2 30 0 0, true, some .setBack⟩ := by
  have given : next? ⟨.listed [⟨none, none, some 99, none, none⟩, ⟨some 0, some 30, none, none, none⟩],
        some .setBack, none⟩ ⟨Wall.ofTime ⟨2021, 10, 31⟩ 1 15 20 0, false, some .universal⟩
      = .ok (some ⟨Wall.ofTime ⟨2021, 10, 31⟩ 2 30 0 0, true, some .setBack⟩) := by
    decide +kernel
  refine ⟨given, (next?_next? _ ?_ _ _ (by decide +kernel) given).2⟩
  intro zone placed
  cases placed
  rfl

end Schedule
end CronClock
