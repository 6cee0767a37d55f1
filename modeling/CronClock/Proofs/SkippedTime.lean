import CronClock.Proofs.NextExact

/-! # Skipped wall times and the way out of them

A wall time leads through universal time back to itself unless a shift forward skips it, whichever of
two readings it is marked as. For two days after a skipped stretch nothing is skipped,
`ZoneRules.IsSpaced.shows_since`, so from any wall time in the stretch the next whole minute that is
shown is at most a minute past its end. -/
set_option autoImplicit false
namespace CronClock

namespace Wall

theorem emod_minute_eq_zero_iff (wall : Int) :
    wall % minute = 0 ↔ IsWhole wall ∧ secondOfMinute wall = 0 := by
  simp only [IsWhole, microsecond, secondOfMinute, minute, second]
  omega

theorem lt_lastYear (wall : Int) (most : (date wall).year < 9999) :
    wall < midnight ⟨9999, 1, 1⟩ := by
  have last : (date (midnight ⟨9999, 1, 1⟩)).year = 9999 := by decide +kernel
  by_contra late
  have := year_le (midnight ⟨9999, 1, 1⟩) wall (Int.not_lt.mp late)
  omega

end Wall

namespace ZoneRules

section Spaced
variable {rules : ZoneRules} (spaced : rules.IsSpaced)
include spaced

theorem IsSpaced.shows_since (index : Nat) (shift : Shift) (found : rules.shifts[index]? = some shift)
    (wall : Int) (since : shift.instant + shift.offset ≤ wall)
    (before : wall < shift.instant + shift.offset + 2 * Wall.day) : rules.Shows wall := by
  have passed := spaced.passed_iff (wall - shift.offset) index shift found
  have within := rules.shiftsPassed_le (wall - shift.offset)
  have last : rules.shiftsPassed (wall - shift.offset) = index + 1 := by
    by_contra other
    obtain ⟨next, nextFound⟩ := rules.exists_shift (index + 1) (by omega)
    have apart := spaced.instants_apart index (index + 1) shift next (Nat.lt_succ_self index) found
      nextFound
    have ahead := spaced.passed_iff (wall - shift.offset) (index + 1) next nextFound
    omega
  refine ⟨wall - shift.offset, ?_⟩
  simp only [reading]
  rw [last, rules.offsetAfter_succ index shift found]
  omega

/-- From a skipped wall time, the first whole minute after the stretch is the first that is shown. -/
theorem IsSpaced.exists_exit (index : Nat) (wall : Int) (skipped : rules.Skips index wall) :
    ∃ exit, wall < exit ∧ exit < wall + 2 * Wall.day + Wall.minute ∧ exit % Wall.minute = 0 ∧
      rules.Shows exit ∧
      ∀ between, wall < between → between < exit → between % Wall.minute = 0 →
        ¬ rules.Shows between := by
  obtain ⟨shift, found, since, upto⟩ := skipped
  have bound := spaced.offsetAfter index
  have shiftBound := spaced.offsets shift (List.mem_of_getElem? found)
  obtain ⟨ended, minute, first⟩ := Moment.nextMinute_spec (shift.instant + shift.offset - 1)
  have near := Wall.truncate_le Wall.minute (shift.instant + shift.offset - 1) (by decide)
  have short : Wall.minute < 2 * Wall.day := by decide
  refine ⟨_, by omega, by omega, minute, ?_, ?_⟩
  · exact spaced.shows_since index shift found _ (by omega) (by omega)
  · intro between after before whole shown
    have inside : between < shift.instant + shift.offset := by
      by_contra past
      have := first between (by omega) whole
      omega
    exact spaced.not_skips_of_shows between shown index ⟨shift, found, by omega, inside⟩

/-- Whichever of two readings it is marked as, a wall time from year 2 to 9998 is shown unless a shift
skips it. From a skipped whole second the way out leads to the next wall time that is shown and whose
second is zero. -/
theorem IsSpaced.isShown?_exact (name : String) (wall : Int) (later : Bool)
    (least : 2 ≤ (Wall.date wall).year) (most : (Wall.date wall).year ≤ 9998) :
    (∃ shown, Moment.isShown? ⟨wall, later, some (.named name rules)⟩ = .ok shown ∧
        (shown = false ↔ ∃ index, rules.Skips index wall)) ∧
      ∀ index, rules.Skips index wall → Wall.IsWhole wall → ∃ exit,
        Moment.nextShownMinute ⟨wall, later, some (.named name rules)⟩
          = .ok ⟨exit, false, some (.named name rules)⟩ ∧
        IsLeast {other | wall < other ∧ Wall.IsWhole other ∧ Wall.secondOfMinute other = 0 ∧
          rules.Shows other} exit := by
  obtain ⟨since, before⟩ := between_of_years wall least (by omega)
  have tested := spaced.isShown?_eq name
  constructor
  · refine ⟨_, tested wall later since before, ?_⟩
    rw [beq_eq_false_iff_ne]
    constructor
    · intro differs
      by_contra unskipped
      exact differs (spaced.reading_instantOf ⟨wall, later⟩ (not_exists.mp unskipped))
    · rintro ⟨index, skipped⟩ same
      exact spaced.not_skips_of_shows wall ⟨_, same⟩ index skipped
  · intro index skipped _
    obtain ⟨exit, after, near, minute, shown, hidden⟩ := spaced.exists_exit index wall skipped
    have aDay : 0 < Wall.day := by decide
    have exitSince : 2 * Wall.day ≤ exit := Int.le_of_lt (Int.lt_of_le_of_lt since after)
    have exitBefore : exit < Wall.limit - 2 * Wall.day := by
      have early := Wall.lt_lastYear wall (by omega)
      have room : Wall.midnight ⟨9999, 1, 1⟩ + 2 * Wall.day + Wall.minute < Wall.limit - 2 * Wall.day := by
        decide
      omega
    have exitShown : Moment.isShown? ⟨exit, false, some (.named name rules)⟩ = .ok true := by
      rw [tested exit false exitSince exitBefore,
        spaced.reading_instantOf ⟨exit, false⟩ (spaced.not_skips_of_shows exit shown)]
      simp
    refine ⟨exit, Moment.nextShownMinute_eq _ exit after minute ?_ ?_ ?_ exitShown, ⟨after, ?_⟩, ?_⟩
    · rw [Wall.inCalendar_iff]
      omega
    · exact Int.le_trans (by decide) since
    · intro between beyond short whole
      have later : wall < between := beyond
      have differs : (rules.reading (rules.instantOf ⟨between, false⟩)).wall ≠ between :=
        fun same => hidden between later short whole ⟨_, same⟩
      rw [tested between false (by omega) (by omega), beq_eq_false_iff_ne.mpr differs]
    · obtain ⟨exitWhole, zero⟩ := (Wall.emod_minute_eq_zero_iff exit).mp minute
      exact ⟨exitWhole, zero, shown⟩
    · rintro other ⟨ahead, otherWhole, zero, otherShown⟩
      by_contra short
      have otherMinute := (Wall.emod_minute_eq_zero_iff other).mpr ⟨otherWhole, zero⟩
      exact hidden other ahead (Int.not_le.mp short) otherMinute otherShown

end Spaced

def leapingHalfMinute : ZoneRules := ofSeconds (-2670) [(63593070, 0)]

theorem isShown?_exact_leapingHalfMinute :
    leapingHalfMinute.Skips 0 (Wall.ofTime ⟨1972, 1, 7⟩ 0 44 10 0) ∧
      Moment.isShown? ⟨Wall.ofTime ⟨1972, 1, 7⟩ 0 44 10 0, true, some (.named "Zone" leapingHalfMinute)⟩
        = .ok false ∧
      Moment.nextShownMinute
          ⟨Wall.ofTime ⟨1972, 1, 7⟩ 0 44 10 0, true, some (.named "Zone" leapingHalfMinute)⟩
        = .ok ⟨Wall.ofTime ⟨1972, 1, 7⟩ 0 45 0 0, false, some (.named "Zone" leapingHalfMinute)⟩ := by
  have spaced : leapingHalfMinute.IsSpaced := ⟨by decide, by decide, by decide⟩
  have skipped : leapingHalfMinute.Skips 0 (Wall.ofTime ⟨1972, 1, 7⟩ 0 44 10 0) :=
    ⟨_, rfl, by decide +kernel, by decide +kernel⟩
  obtain ⟨⟨shown, tested, exact⟩, leads⟩ := spaced.isShown?_exact "Zone"
    (Wall.ofTime ⟨1972, 1, 7⟩ 0 44 10 0) true (by decide +kernel) (by decide +kernel)
  refine ⟨skipped, ?_, ?_⟩
  · rw [tested, exact.mpr ⟨0, skipped⟩]
  · obtain ⟨exit, left, ⟨after, whole, zero, _⟩, least⟩ := leads 0 skipped (by decide +kernel)
    have upto : exit ≤ Wall.ofTime ⟨1972, 1, 7⟩ 0 45 0 0 :=
      least ⟨by decide +kernel, by decide +kernel, by decide +kernel,
        Wall.ofTime ⟨1972, 1, 7⟩ 0 45 0 0, by decide +kernel⟩
    have since : Wall.ofTime ⟨1972, 1, 7⟩ 0 45 0 0 ≤ exit :=
      (Moment.nextMinute_spec (Wall.ofTime ⟨1972, 1, 7⟩ 0 44 10 0)).2.2 exit after
        ((Wall.emod_minute_eq_zero_iff exit).mpr ⟨whole, zero⟩)
    rw [left, Int.le_antisymm upto since]

end ZoneRules
end CronClock
