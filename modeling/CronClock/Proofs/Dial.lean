import CronClock.Proofs.Rules
import CronClock.Proofs.Search

/-! # A search that reaches its goal

A `Dial` says what a search relies on about the clocks of its zone: between two wall times they show
some wall times and skip others, and whoever leaves a skipped stretch at its end has fewer of them
ahead. From there the search finds the first wall time that agrees and is shown, and never runs out of
steps: `Dial.search_reaches`. Clocks without shifts are such a dial, `Dial.unshifted`, and so are clocks
whose shifts lie apart and happen at whole minutes, `Dial.ofRules`. -/
set_option autoImplicit false
namespace CronClock

/-- What the clocks of a zone show from an opening wall time until a closing one. -/
structure Dial (zone : Option Zone) where
  opening : Int
  closing : Int
  shows : Int → Prop
  gapsAfter : Int → Nat
  begun : 0 ≤ opening
  ended : closing ≤ Wall.limit
  fewer : ∀ wall other, wall ≤ other → gapsAfter other ≤ gapsAfter wall
  shown : ∀ wall later, opening ≤ wall → wall < closing → shows wall →
    Moment.isShown? ⟨wall, later, zone⟩ = .ok true
  hidden : ∀ wall later, opening ≤ wall → wall < closing → ¬ shows wall →
    Moment.isShown? ⟨wall, later, zone⟩ = .ok false
  leave : ∀ wall, ¬ shows wall → ∃ exit, wall < exit ∧ exit % Wall.minute = 0 ∧ shows exit ∧
    (∀ between, wall ≤ between → between < exit → ¬ shows between) ∧ gapsAfter exit < gapsAfter wall

namespace Candidate

theorem zero_le_timeSteps (candidate : Candidate) (wall : Int) : 0 ≤ candidate.timeSteps wall := by
  simp only [timeSteps, handSteps, mostDateSteps]
  repeat' split
  all_goals decide

theorem zero_le_stepsTo {candidate : Candidate} {goal wall : Int} (agrees : candidate.Agrees goal)
    (ahead : wall ≤ goal) : 0 ≤ candidate.stepsTo goal wall := by
  have date := one_le_dateSteps agrees ahead
  unfold stepsTo
  split
  · exact candidate.zero_le_timeSteps wall
  · omega

theorem stepsTo_le_of_near {candidate : Candidate} {goal wall : Int}
    (near : candidate.dateSteps (Wall.date goal) (Wall.date wall) ≤ mostDateSteps) :
    candidate.stepsTo goal wall ≤ 24 := by
  have time := candidate.timeSteps_le wall
  refine stepsTo_le goal ?_ ?_
  · simp only [mostDateSteps] at time
    omega
  · simp only [mostDateSteps] at near
    omega

end Candidate

namespace Dial
variable {zone : Option Zone} (dial : Dial zone)

/-- Steps enough for a way to a goal: one way of at most 24 corrections and one step out of the skipped
stretch for each such stretch ahead, and another way after them. -/
noncomputable def stepsFrom (candidate : Candidate) (goal wall : Int) : Int :=
  25 * dial.gapsAfter wall + candidate.stepsTo goal wall

theorem nextShownMinute_eq (wall target : Int) (later : Bool) (since : dial.opening ≤ wall)
    (skipped : ¬ dial.shows wall) (ahead : wall ≤ target) (before : target < dial.closing)
    (shown : dial.shows target) :
    ∃ exit, Moment.nextShownMinute ⟨wall, later, zone⟩ = .ok ⟨exit, false, zone⟩ ∧ wall < exit ∧
      exit ≤ target ∧ (∀ between, wall ≤ between → between < exit → ¬ dial.shows between) ∧
      dial.gapsAfter exit < dial.gapsAfter wall := by
  obtain ⟨exit, after, minute, exitShown, gap, fewer⟩ := dial.leave wall skipped
  have within : exit ≤ target := by
    by_contra beyond
    exact gap target ahead (by omega) shown
  have begun := dial.begun
  have ended := dial.ended
  refine ⟨exit, ?_, after, within, gap, fewer⟩
  refine Moment.nextShownMinute_eq ⟨wall, later, zone⟩ exit after minute ?_ (by omega : 0 ≤ wall) ?_ ?_
  · rw [Wall.inCalendar_iff]
    omega
  · intro between beyond short _
    exact dial.hidden between false (Int.le_trans since (Int.le_of_lt beyond)) (by omega)
      (gap between (Int.le_of_lt beyond) short)
  · exact dial.shown exit false (by omega) (by omega) exitShown

section Reach
variable {candidate : Candidate} (bounded : candidate.IsBounded)
  (possible : candidate.isPossible? = some true) {target : Int}
  (agrees : candidate.Agrees target) (shown : dial.shows target) (before : target < dial.closing)
include bounded possible agrees shown before

/-- A search with enough steps finds a moment, and finds it before any target that it could find. -/
theorem search_reaches (steps : Nat) (start : Moment) (placed : start.zone = zone)
    (since : dial.opening ≤ start.wall) (ahead : start.wall ≤ target) (goal : Int)
    (goalAgrees : candidate.Agrees goal) (goalAhead : start.wall ≤ goal)
    (near : candidate.dateSteps (Wall.date goal) (Wall.date start.wall) ≤ Candidate.mostDateSteps)
    (enough : dial.stepsFrom candidate goal start.wall < steps) :
    ∃ found, candidate.search steps start = some found ∧ found.wall ≤ target := by
  have begun := dial.begun
  have ended := dial.ended
  -- On the steps left: a correction keeps the goal and lowers its bound, a way out of a skipped stretch
  -- starts over with a new goal and one stretch fewer.
  induction steps generalizing start goal with
  | zero =>
    have := Candidate.zero_le_stepsTo goalAgrees goalAhead
    simp only [stepsFrom] at enough
    omega
  | succ steps ih =>
    have inside : Wall.inCalendar start.wall = true := by
      rw [Wall.inCalendar_iff]
      omega
    rw [Candidate.search]
    rcases candidate.step_spec start inside with ⟨_, settles⟩ | ⟨_, leads⟩
    · by_cases startShown : dial.shows start.wall
      · have arrived : start.isShown? = .ok true := by
          rw [← dial.shown start.wall start.later since (by omega) startShown, ← placed]
        exact ⟨start, by simp [settles, Candidate.settle, arrived], ahead⟩
      · have hidden : start.isShown? = .ok false := by
          rw [← dial.hidden start.wall start.later since (by omega) startShown, ← placed]
        obtain ⟨exit, left, after, within, _, fewer⟩ :=
          dial.nextShownMinute_eq start.wall target start.later since startShown ahead before shown
        have moved : start.nextShownMinute = .ok ⟨exit, false, zone⟩ := by
          rw [← left, ← placed]
        obtain ⟨newGoal, newAgrees, _, newAhead, newNear⟩ := bounded.exists_goal possible exit
        have newSteps := Candidate.stepsTo_le_of_near newNear
        have oldSteps := Candidate.zero_le_stepsTo goalAgrees goalAhead
        simp only [settles, Candidate.settle, hidden, moved, Progress.ofMove]
        refine ih ⟨exit, false, zone⟩ rfl (by simp only; omega) within newGoal newAgrees newAhead
          newNear ?_
        simp only [stepsFrom] at enough ⊢
        omega
    · rcases leads with ⟨wall, carried, correction, progress⟩ | ⟨_, never⟩
      · have within : wall ≤ target := by
          by_contra beyond
          exact correction.not_agrees target ahead (by omega) agrees
        have withinGoal : wall ≤ goal := by
          by_contra beyond
          exact correction.not_agrees goal goalAhead (by omega) goalAgrees
        have forward := correction.lt
        have nextInside : Wall.inCalendar wall = true := by
          rw [Wall.inCalendar_iff]
          omega
        have lower := correction.stepsTo_lt bounded goalAgrees goalAhead near
        have fewer := dial.fewer start.wall wall (Int.le_of_lt forward)
        have nearer := candidate.dateSteps_le goal start.wall wall
          (Int.le_of_lt forward)
        simp only [progress, Candidate.corrected, nextInside, if_true]
        refine ih ⟨wall, _, start.zone⟩ placed (by simp only; omega) within goal goalAgrees withinGoal
          (Int.le_trans nearer near) ?_
        simp only [stepsFrom] at enough ⊢
        omega
      · exact absurd agrees (never target)

/-- With at most 39 skipped stretches ahead the limit on the steps is never met. -/
theorem next?_reaches (reference : Moment) (placed : reference.zone = zone)
    (since : dial.opening ≤ reference.wall) (whole : Wall.IsWhole target)
    (ahead : reference.wall ≤ target) (few : dial.gapsAfter reference.wall ≤ 39) :
    ∃ found, candidate.next? reference = .ok (some found) ∧ found.wall ≤ target := by
  obtain ⟨start, rounded, startAhead⟩ := reference.wholeSecond?_of_le target
    (Int.le_trans dial.begun since) whole ahead (Int.lt_of_lt_of_le before dial.ended)
  obtain ⟨_, sameZone, after, _, _⟩ := reference.wholeSecond?_eq_ok start rounded
  obtain ⟨goal, goalAgrees, _, goalAhead, near⟩ := bounded.exists_goal possible start.wall
  have enough : dial.stepsFrom candidate goal start.wall < (Candidate.stepLimit : Nat) := by
    have fewer := dial.fewer reference.wall start.wall after
    have corrections := Candidate.stepsTo_le_of_near near
    simp only [stepsFrom, Candidate.stepLimit]
    omega
  obtain ⟨found, result, within⟩ := dial.search_reaches bounded possible agrees shown before
    Candidate.stepLimit start (sameZone.trans placed) (Int.le_trans since after) startAhead goal
    goalAgrees goalAhead near enough
  refine ⟨found, ?_, within⟩
  rw [candidate.next?_of_rounded reference start rounded, result]

end Reach

/-! ## Clocks without shifts -/

def unshifted (zone : Option Zone)
    (always : ∀ wall later, Wall.inCalendar wall = true →
      Moment.isShown? ⟨wall, later, zone⟩ = .ok true) : Dial zone where
  opening := 0
  closing := Wall.limit
  shows _ := True
  gapsAfter _ := 0
  begun := Int.le_refl _
  ended := Int.le_refl _
  fewer _ _ _ := Nat.le_refl _
  shown wall later since before _ := always wall later ((Wall.inCalendar_iff wall).mpr ⟨since, before⟩)
  hidden _ _ _ _ skipped := absurd trivial skipped
  leave _ skipped := absurd trivial skipped

end Dial

theorem Moment.isShown?_system (wall : Int) (later : Bool) :
    Moment.isShown? ⟨wall, later, none⟩ = .ok true := rfl

theorem Moment.isShown?_universal (wall : Int) (later : Bool) (inside : Wall.inCalendar wall = true) :
    Moment.isShown? ⟨wall, later, some .universal⟩ = .ok true := by
  rw [Moment.isShown?_of_zone .universal _ rfl wall (by simp [Zone.offsetShown]) inside
    (by simpa [Zone.reading] using inside)]
  simp [Zone.reading]

/-! ## Clocks with shifts -/

namespace ZoneRules

structure IsWholeMinutes (rules : ZoneRules) : Prop where
  initial : rules.initial % Wall.minute = 0
  shifts : ∀ shift ∈ rules.shifts,
    shift.instant % Wall.minute = 0 ∧ shift.offset % Wall.minute = 0

def shiftsAhead (rules : ZoneRules) (wall : Int) : Nat :=
  rules.shifts.length - rules.shiftsShown ⟨wall, false⟩

theorem shiftsAhead_le (rules : ZoneRules) (wall : Int) :
    rules.shiftsAhead wall ≤ rules.shifts.length := Nat.sub_le _ _

section Spaced
variable {rules : ZoneRules} (spaced : rules.IsSpaced)
include spaced

theorem IsSpaced.shiftsShown_mono (wall other : Int) (order : wall ≤ other) :
    rules.shiftsShown ⟨wall, false⟩ ≤ rules.shiftsShown ⟨other, false⟩ := by
  by_contra fewer
  obtain ⟨shift, found⟩ := rules.exists_shift (rules.shiftsShown ⟨other, false⟩)
    (by have := spaced.shiftsShown_le ⟨wall, false⟩; omega)
  have passed := spaced.shown_iff ⟨wall, false⟩ _ shift found
  have ahead := spaced.shown_iff ⟨other, false⟩ _ shift found
  simp only at passed ahead
  omega

/-- At the end of a skipped stretch the clocks go on, with a shift fewer ahead. -/
theorem IsSpaced.leave (minutes : rules.IsWholeMinutes) (wall : Int) (hidden : ¬ rules.Shows wall) :
    ∃ exit, wall < exit ∧ exit % Wall.minute = 0 ∧ rules.Shows exit ∧
      (∀ between, wall ≤ between → between < exit → ¬ rules.Shows between) ∧
      rules.shiftsAhead exit < rules.shiftsAhead wall := by
  rw [spaced.shows_iff] at hidden
  push Not at hidden
  obtain ⟨index, shift, found, since, upto⟩ := hidden
  have inside := (List.getElem?_eq_some_iff.mp found).1
  obtain ⟨wholeInstant, wholeOffset⟩ := minutes.shifts shift (List.mem_of_getElem? found)
  refine ⟨shift.instant + shift.offset, upto, ?_, ?_, ?_, ?_⟩
  · simp only [Wall.minute] at *
    omega
  · rw [spaced.shows_iff]
    intro other skipped
    have same := spaced.borders_unique index other _ ⟨shift, found, by omega, by omega⟩ skipped.borders
    subst same
    obtain ⟨another, otherFound, _, before⟩ := skipped
    cases Option.some.inj (found.symm.trans otherFound)
    omega
  · intro between after before shown
    exact spaced.not_skips_of_shows between shown index ⟨shift, found, by omega, before⟩
  · have passed := spaced.shown_iff ⟨shift.instant + shift.offset, false⟩ index shift found
    have ahead := spaced.shown_iff ⟨wall, false⟩ index shift found
    rw [thresholdOf_earlier] at passed ahead
    simp only at passed ahead
    simp only [shiftsAhead]
    omega

theorem IsSpaced.isShown?_eq (name : String) (wall : Int) (later : Bool)
    (since : 2 * Wall.day ≤ wall) (before : wall < Wall.limit - 2 * Wall.day) :
    Moment.isShown? ⟨wall, later, some (.named name rules)⟩ =
      .ok ((rules.reading (rules.instantOf ⟨wall, later⟩)).wall == wall) := by
  have bound := spaced.offsetAfter (rules.shiftsShown ⟨wall, later⟩)
  have backBound := spaced.offsetAfter (rules.shiftsPassed (rules.instantOf ⟨wall, later⟩))
  have located : rules.instantOf ⟨wall, later⟩
      = wall - rules.offsetAfter (rules.shiftsShown ⟨wall, later⟩) := rfl
  have returned : (rules.reading (rules.instantOf ⟨wall, later⟩)).wall
      = rules.instantOf ⟨wall, later⟩
        + rules.offsetAfter (rules.shiftsPassed (rules.instantOf ⟨wall, later⟩)) := rfl
  refine Moment.isShown?_of_zone (.named name rules) ⟨wall, later, _⟩ rfl
    (rules.instantOf ⟨wall, later⟩) rfl ?_ ?_
  · rw [Wall.inCalendar_iff]
    omega
  · rw [Wall.inCalendar_iff]
    simp only [Zone.reading]
    omega

end Spaced
end ZoneRules

def Dial.ofRules {rules : ZoneRules} (name : String) (spaced : rules.IsSpaced)
    (minutes : rules.IsWholeMinutes) : Dial (some (.named name rules)) where
  opening := 2 * Wall.day
  closing := Wall.limit - 2 * Wall.day
  shows := rules.Shows
  gapsAfter := rules.shiftsAhead
  begun := by decide
  ended := by decide
  fewer wall other order := Nat.sub_le_sub_left (spaced.shiftsShown_mono wall other order) _
  shown wall later since before shows := by
    rw [spaced.isShown?_eq name wall later since before,
      spaced.reading_instantOf ⟨wall, later⟩ (spaced.not_skips_of_shows wall shows)]
    simp
  hidden wall later since before hides := by
    rw [spaced.isShown?_eq name wall later since before]
    have differs : (rules.reading (rules.instantOf ⟨wall, later⟩)).wall ≠ wall :=
      fun same => hides ⟨_, same⟩
    simp [differs]
  leave := spaced.leave minutes

end CronClock
