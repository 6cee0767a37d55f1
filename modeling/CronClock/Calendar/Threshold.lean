import CronClock.Calendar.Wall

/-! # Thresholds on the wall

A zone's shifts to other offsets show on the wall as thresholds, one for each shift. `passedBy` counts
the thresholds that a wall time has passed by halving; `passedBy_eq_countP` says that the count is right
if the thresholds ascend, as they do unless shifts crowd closer than the offsets change. -/
set_option autoImplicit false
namespace CronClock

/-- From the instant on, given in universal time, the zone keeps the offset. -/
structure Shift where
  instant : Int
  offset : Int
  deriving DecidableEq, Repr

/-- The wall times from which on an earlier and a later reading count as after a shift. Between the wall
before the shift and the wall after it, the earlier one counts with the greater of the two offsets and
the later one with the lesser. -/
structure Threshold where
  earlier : Int
  later : Int
  deriving DecidableEq, Repr

namespace Threshold

def ofShifts (offset : Int) : List Shift → List Threshold
  | [] => []
  | shift :: rest =>
    ⟨shift.instant + max offset shift.offset, shift.instant + min offset shift.offset⟩
      :: ofShifts shift.offset rest

def wall (later : Bool) (threshold : Threshold) : Int :=
  if later then threshold.later else threshold.earlier

/-- Halves the indices from `low` up to `high` until one is left: the first that is not passed, if the
passed ones come first. -/
def halve (isPassed : Nat → Bool) (low high : Nat) : Nat :=
  if low < high then
    if isPassed ((low + high) / 2) then halve isPassed ((low + high) / 2 + 1) high
    else halve isPassed low ((low + high) / 2)
  else low
termination_by high - low

def isPassedAt (thresholds : Array Threshold) (later : Bool) (wall : Int) (index : Nat) : Bool :=
  (thresholds[index]?).any fun threshold => threshold.wall later ≤ wall

/-- How many thresholds a wall time has passed: none before the first, all from the second after the
last, and else as many as halving finds. -/
def passedBy (thresholds : Array Threshold) (later : Bool) (wall : Int) : Nat :=
  let isPassed := isPassedAt thresholds later wall
  if !isPassed 0 then 0
  else if (thresholds.back?).any fun threshold =>
      threshold.wall later < Wall.truncate Wall.second wall then thresholds.size
  else halve isPassed 0 thresholds.size

/-! ## Halving finds the place -/

theorem halve_between (isPassed : Nat → Bool) (low high : Nat) (ordered : low ≤ high) :
    low ≤ halve isPassed low high ∧ halve isPassed low high ≤ high := by
  fun_induction halve isPassed low high with
  | case1 low high left passed ih =>
    have := ih (by omega)
    omega
  | case2 low high left notPassed ih =>
    have := ih (by omega)
    omega
  | case3 low high closed => omega

theorem isPassed_of_lt_halve (isPassed : Nat → Bool)
    (downward : ∀ index below, below ≤ index → isPassed index = true → isPassed below = true)
    (low high index : Nat) (inside : low ≤ index) (before : index < halve isPassed low high) :
    isPassed index = true := by
  fun_induction halve isPassed low high with
  | case1 low high left passed ih =>
    by_cases half : index ≤ (low + high) / 2
    · exact downward _ index half passed
    · exact ih (by omega) before
  | case2 low high left notPassed ih => exact ih inside before
  | case3 low high closed => omega

theorem not_isPassed_of_halve_le (isPassed : Nat → Bool)
    (downward : ∀ index below, below ≤ index → isPassed index = true → isPassed below = true)
    (low high index : Nat) (after : halve isPassed low high ≤ index) (inside : index < high) :
    isPassed index = false := by
  fun_induction halve isPassed low high with
  | case1 low high left passed ih => exact ih after inside
  | case2 low high left notPassed ih =>
    by_cases half : index < (low + high) / 2
    · exact ih after half
    · have upward := downward index ((low + high) / 2) (by omega)
      cases found : isPassed index with
      | false => rfl
      | true => exact absurd (upward found) notPassed
  | case3 low high closed => omega

/-- Members that satisfy a property up to a place and no longer are as many as the place says. -/
theorem countP_eq_of_place {α : Type} (property : α → Bool) (list : List α) (place : Nat)
    (within : place ≤ list.length)
    (holds : ∀ index (inside : index < list.length), index < place → property list[index] = true)
    (fails : ∀ index (inside : index < list.length), place ≤ index → property list[index] = false) :
    list.countP property = place := by
  induction list generalizing place with
  | nil =>
    simp only [List.length_nil, Nat.le_zero] at within
    simp [within]
  | cons head rest ih =>
    cases place with
    | zero =>
      have headFails := fails 0 (by simp) (by omega)
      have restFails := ih 0 (by omega) (by omega)
        (fun index inside _ => fails (index + 1) (by simpa using inside) (by omega))
      simpa [List.countP_cons, restFails] using headFails
    | succ place =>
      have headHolds := holds 0 (by simp) (by omega)
      have restHolds := ih place (by simpa using within)
        (fun index inside before => holds (index + 1) (by simpa using inside) (by omega))
        (fun index inside after => fails (index + 1) (by simpa using inside) (by omega))
      simpa [List.countP_cons, restHolds] using headHolds

section Ascending
variable (thresholds : Array Threshold) (later : Bool) (wall : Int)

theorem isPassedAt_of_lt (index : Nat) (inside : index < thresholds.toList.length) :
    isPassedAt thresholds later wall index
      = decide ((thresholds.toList[index]).wall later ≤ wall) := by
  have bound : index < thresholds.size := by simpa using inside
  simp [isPassedAt, bound]

theorem isPassedAt_downward
    (ascending : thresholds.toList.Pairwise fun before after => before.wall later ≤ after.wall later)
    (index below : Nat) (order : below ≤ index)
    (passed : isPassedAt thresholds later wall index = true) :
    isPassedAt thresholds later wall below = true := by
  have inside : index < thresholds.toList.length := by
    by_cases bound : index < thresholds.size
    · simpa using bound
    · simp [isPassedAt, bound] at passed
  rw [isPassedAt_of_lt thresholds later wall index inside, decide_eq_true_eq] at passed
  rw [isPassedAt_of_lt thresholds later wall below (by omega), decide_eq_true_eq]
  rcases Nat.eq_or_lt_of_le order with same | less
  · subst same; exact passed
  · have := List.pairwise_iff_getElem.mp ascending below index (by omega) inside less
    omega

/-- Ascending thresholds are counted one by one. -/
theorem passedBy_eq_countP
    (ascending : thresholds.toList.Pairwise fun before after => before.wall later ≤ after.wall later) :
    passedBy thresholds later wall
      = thresholds.toList.countP fun threshold => decide (threshold.wall later ≤ wall) := by
  have downward := isPassedAt_downward thresholds later wall ascending
  symm
  simp only [passedBy]
  split
  · next notFirst =>
    refine countP_eq_of_place _ _ 0 (by omega) (by omega) ?_
    intro index inside _
    rw [← isPassedAt_of_lt thresholds later wall index inside]
    cases found : isPassedAt thresholds later wall index with
    | false => rfl
    | true => simp [downward index 0 (by omega) found] at notFirst
  · split
    · next pastLast =>
      refine countP_eq_of_place _ _ thresholds.size (by simp) ?_ ?_
      · intro index inside _
        rw [← isPassedAt_of_lt thresholds later wall index inside]
        refine downward (thresholds.size - 1) index (by simp at inside; omega) ?_
        have bound : thresholds.size - 1 < thresholds.size := by simp at inside; omega
        simp only [Array.back?, Option.any_eq_true] at pastLast
        obtain ⟨last, found, beyond⟩ := pastLast
        simp only [isPassedAt, found, Option.any_some, decide_eq_true_eq] at beyond ⊢
        simp only [Wall.truncate, Wall.second] at beyond
        omega
      · intro index inside after
        simp at inside
        omega
    · have between := halve_between (isPassedAt thresholds later wall) 0 thresholds.size (by omega)
      refine countP_eq_of_place _ _ _ (by simpa using between.2) ?_ ?_
      · intro index inside before
        rw [← isPassedAt_of_lt thresholds later wall index inside]
        exact isPassed_of_lt_halve _ downward 0 thresholds.size index (by omega) before
      · intro index inside after
        rw [← isPassedAt_of_lt thresholds later wall index inside]
        exact not_isPassed_of_halve_le _ downward 0 thresholds.size index after (by simpa using inside)

end Ascending

end Threshold

end CronClock
