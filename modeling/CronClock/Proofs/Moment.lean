import CronClock.Candidate.Search
import CronClock.Proofs.Success
import CronClock.Proofs.Wall

/-! # Moments, operation by operation

What each operation on moments comes to: a moment within the calendar, or a fault. The way out of a
stretch that the clocks skip is `Moment.nextShownMinute_spec`. -/
set_option autoImplicit false
namespace CronClock

theorem Zone.eq_of_isSame (zone other : Zone) (same : zone.isSame other = true) : zone = other := by
  cases zone <;> cases other <;> simp_all [isSame]

namespace Moment

theorem plus?_eq (span : Int) (moment : Moment) :
    moment.plus? span = if Wall.inCalendar (moment.wall + span) then
      .ok ⟨moment.wall + span, false, moment.zone⟩ else .error .outsideCalendar := by
  simp only [plus?, checked]
  split <;> rfl

theorem atInstant?_eq (zone : Zone) (instant : Int) :
    atInstant? zone instant = if Wall.inCalendar (zone.reading instant).wall then
      .ok (ofReading zone (zone.reading instant)) else .error .outsideCalendar := by
  simp only [atInstant?, checked]
  split <;> rfl

theorem inZone?_zone (moment : Moment) (own zone : Zone) (placed : moment.zone = some own)
    (read : Moment) (given : moment.inZone? own zone = .ok read) : read.zone = some zone := by
  unfold inZone? at given
  split at given
  · next same =>
    cases given
    rw [placed, own.eq_of_isSame zone same]
  · rw [bind_eq_ok] at given
    obtain ⟨instant, _, given⟩ := given
    rw [atInstant?_eq] at given
    split at given
    · cases given
      rfl
    · simp at given

theorem instantIn?_eq (zone : Zone) (given : Reading) :
    instantIn? zone given = if Wall.inCalendar (given.wall - zone.offsetShown given) then
      .ok (given.wall - zone.offsetShown given) else .error .outsideCalendar := rfl

theorem instant?_of_zone (system : ZoneRules) (zone : Zone) (moment : Moment)
    (placed : moment.zone = some zone) :
    moment.instant? system = instantIn? zone moment.reading := by
  rw [instant?, placed]

theorem isShown?_of_zone (zone : Zone) (moment : Moment) (placed : moment.zone = some zone)
    (instant : Int) (located : instant = moment.wall - zone.offsetShown moment.reading)
    (inside : Wall.inCalendar instant = true)
    (backInside : Wall.inCalendar (zone.reading instant).wall = true) :
    moment.isShown? = .ok ((zone.reading instant).wall == moment.wall) := by
  have instantIn : instantIn? zone moment.reading = .ok instant := by
    rw [located] at inside ⊢
    exact if_pos inside
  simp only [isShown?, placed, instantIn, bind, Except.bind, atInstant?_eq, if_pos backInside]
  rfl

theorem shown_of_isShown? (zone : Zone) (moment : Moment) (placed : moment.zone = some zone)
    (shown : moment.isShown? = .ok true) :
    ∃ instant, instantIn? zone moment.reading = .ok instant ∧
      instant = moment.wall - zone.offsetShown moment.reading ∧
      (zone.reading instant).wall = moment.wall := by
  have located := instantIn?_eq zone moment.reading
  simp only [isShown?, placed] at shown
  by_cases inside :
      Wall.inCalendar (moment.reading.wall - zone.offsetShown moment.reading) = true
  · rw [if_pos inside] at located
    rw [located] at shown
    simp only [bind, Except.bind, atInstant?_eq] at shown
    split at shown
    · simp at shown
    · next back returned =>
      split at returned
      · cases returned
        exact ⟨_, located, rfl, by simpa [pure, Except.pure, ofReading] using shown⟩
      · simp at returned
  · rw [if_neg inside] at located
    simp [located, bind, Except.bind] at shown

theorem wholeSecond?_eq_ok (reference start : Moment)
    (rounded : reference.wholeSecond? = .ok start) :
    Wall.IsWhole start.wall ∧ start.zone = reference.zone ∧ reference.wall ≤ start.wall ∧
      start.wall < reference.wall + Wall.second ∧
      start.later = (reference.later && decide (Wall.IsWhole reference.wall)) := by
  unfold wholeSecond? at rounded
  split at rounded
  · next whole =>
    cases rounded
    refine ⟨whole, rfl, Int.le_refl _, ?_, ?_⟩
    · simp only [Wall.second]; omega
    · simp [Wall.IsWhole, whole]
  · next broken =>
    rw [plus?_eq] at rounded
    split at rounded
    · cases rounded
      simp only [Wall.IsWhole, Wall.microsecond, Wall.truncate, Wall.second] at *
      exact ⟨by omega, trivial, by omega, by omega, by simp [broken]⟩
    · simp at rounded

theorem eq_of_wholeSecond? (reference start : Moment) (rounded : reference.wholeSecond? = .ok start)
    (same : start.wall = reference.wall) : start = reference := by
  unfold wholeSecond? at rounded
  split at rounded
  · cases rounded
    rfl
  · next broken =>
    rw [plus?_eq] at rounded
    split at rounded
    · cases rounded
      simp only [Wall.microsecond, Wall.truncate, Wall.second] at same broken
      omega
    · simp at rounded

theorem wholeSecond?_inCalendar (reference start : Moment)
    (inside : Wall.inCalendar reference.wall = true) (rounded : reference.wholeSecond? = .ok start) :
    Wall.inCalendar start.wall = true := by
  unfold wholeSecond? at rounded
  split at rounded
  · cases rounded
    exact inside
  · rw [plus?_eq] at rounded
    split at rounded
    · next within =>
      cases rounded
      exact within
    · simp at rounded

theorem wholeSecond?_of_le (reference : Moment) (target : Int) (begun : 0 ≤ reference.wall)
    (whole : Wall.IsWhole target) (ahead : reference.wall ≤ target) (before : target < Wall.limit) :
    ∃ start, reference.wholeSecond? = .ok start ∧ start.wall ≤ target := by
  unfold wholeSecond?
  split
  · exact ⟨reference, rfl, ahead⟩
  · next broken =>
    simp only [Wall.IsWhole, Wall.microsecond, Wall.second] at whole broken
    have within : Wall.truncate Wall.second reference.wall + Wall.second ≤ target := by
      simp only [Wall.truncate, Wall.second]
      omega
    have inside : Wall.inCalendar (Wall.truncate Wall.second reference.wall + Wall.second) = true := by
      rw [Wall.inCalendar_iff]
      simp only [Wall.truncate, Wall.second] at within ⊢
      omega
    rw [plus?_eq, if_pos inside]
    exact ⟨_, rfl, within⟩

/-- Rounding stays in the calendar up to the calendar's last whole second, and not past it. -/
theorem wholeSecond?_cases (moment : Moment) (inside : Wall.inCalendar moment.wall = true) :
    (moment.wall ≤ Wall.limit - Wall.second ∧ ∃ whole, moment.wholeSecond? = .ok whole) ∨
      (¬ moment.wall ≤ Wall.limit - Wall.second ∧ moment.wholeSecond? = .error .outsideCalendar) := by
  obtain ⟨begun, ended⟩ := (Wall.inCalendar_iff _).mp inside
  by_cases early : moment.wall ≤ Wall.limit - Wall.second
  · obtain ⟨whole, rounded, _⟩ := moment.wholeSecond?_of_le (Wall.limit - Wall.second) begun (by decide)
      early (by decide)
    exact .inl ⟨early, whole, rounded⟩
  · refine .inr ⟨early, ?_⟩
    have last : Wall.limit = 315537897600 * Wall.second := by decide
    have broken : ¬ Wall.microsecond moment.wall = 0 := by
      simp only [Wall.microsecond, Wall.second] at *
      omega
    have beyond : ¬ Wall.inCalendar (Wall.truncate Wall.second moment.wall + Wall.second) = true := by
      rw [Wall.inCalendar_iff]
      simp only [Wall.truncate, Wall.second] at *
      omega
    rw [wholeSecond?, if_neg broken, plus?_eq, if_neg beyond]

theorem nextMinute_spec (wall : Int) :
    wall < Wall.truncate Wall.minute wall + Wall.minute ∧
      (Wall.truncate Wall.minute wall + Wall.minute) % Wall.minute = 0 ∧
      ∀ other, wall < other → other % Wall.minute = 0 →
        Wall.truncate Wall.minute wall + Wall.minute ≤ other := by
  simp only [Wall.truncate, Wall.minute]
  refine ⟨by omega, by omega, ?_⟩
  intro other after whole
  omega

/-- The way out of a skipped stretch is the first whole minute that the zone's clocks show. -/
theorem nextShownMinute_spec (moment next : Moment) (found : moment.nextShownMinute = .ok next) :
    moment.wall < next.wall ∧ next.zone = moment.zone ∧ next.later = false ∧
      next.wall % Wall.minute = 0 ∧ Wall.inCalendar next.wall = true ∧ next.isShown? = .ok true ∧
      ∀ wall, moment.wall < wall → wall < next.wall → wall % Wall.minute = 0 →
        Moment.isShown? ⟨wall, false, moment.zone⟩ = .ok false := by
  fun_induction nextShownMinute moment with
  | case1 moment following inside shown =>
    cases found
    have ⟨after, whole, first⟩ := nextMinute_spec moment.wall
    refine ⟨after, rfl, rfl, whole, inside, shown, ?_⟩
    intro wall later before minute
    exact absurd (first wall later minute) (Int.not_le.mpr before)
  | case2 moment following inside hidden ih =>
    have ⟨after, whole, first⟩ := nextMinute_spec moment.wall
    obtain ⟨beyond, sameZone, mark, minute, nextInside, shown, skipped⟩ := ih found
    refine ⟨Int.lt_trans after beyond, sameZone, mark, minute, nextInside, shown, ?_⟩
    intro wall later before wallMinute
    rcases Int.lt_or_eq_of_le (first wall later wallMinute) with between | same
    · exact skipped wall between before wallMinute
    · rw [← same]
      exact hidden
  | case3 moment following inside fault faulty => simp at found
  | case4 moment following outside => simp at found

theorem nextShownMinute_eq (moment : Moment) (goal : Int) (after : moment.wall < goal)
    (minute : goal % Wall.minute = 0) (inside : Wall.inCalendar goal = true)
    (begun : 0 ≤ moment.wall)
    (hidden : ∀ wall, moment.wall < wall → wall < goal → wall % Wall.minute = 0 →
      Moment.isShown? ⟨wall, false, moment.zone⟩ = .ok false)
    (shown : Moment.isShown? ⟨goal, false, moment.zone⟩ = .ok true) :
    moment.nextShownMinute = .ok ⟨goal, false, moment.zone⟩ := by
  rw [Wall.inCalendar_iff] at inside
  fun_induction nextShownMinute moment with
  | case1 moment following within isShown =>
    have ⟨later, whole, first⟩ := nextMinute_spec moment.wall
    rcases Int.lt_or_eq_of_le (first goal after minute) with between | same
    · rw [hidden following later between whole] at isShown
      simp at isShown
    · rw [show following = goal from same]
  | case2 moment following within isHidden ih =>
    have ⟨later, whole, first⟩ := nextMinute_spec moment.wall
    rcases Int.lt_or_eq_of_le (first goal after minute) with between | same
    · exact ih between (Int.le_of_lt (Int.lt_of_le_of_lt begun later))
        (fun wall beyond => hidden wall (Int.lt_trans later beyond)) shown
    · rw [show following = goal from same, shown] at isHidden
      simp at isHidden
  | case3 moment following within fault faulty =>
    have ⟨later, whole, first⟩ := nextMinute_spec moment.wall
    rcases Int.lt_or_eq_of_le (first goal after minute) with between | same
    · rw [hidden following later between whole] at faulty
      simp at faulty
    · rw [show following = goal from same, shown] at faulty
      simp at faulty
  | case4 moment following outside =>
    have ⟨later, whole, first⟩ := nextMinute_spec moment.wall
    have reached := first goal after minute
    rw [Wall.inCalendar_iff] at outside
    omega

end Moment
end CronClock
