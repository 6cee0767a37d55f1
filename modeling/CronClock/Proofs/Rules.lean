import CronClock.Calendar.Moment
import Mathlib.Data.List.Chain

/-! # Zones whose shifts lie apart

Rules are spaced when every offset is shorter than a day and no two shifts are closer than two days.
Then each shift makes one stretch of wall time that its clocks skip or show twice, and the stretches lie
apart. -/
set_option autoImplicit false
namespace CronClock

theorem lt_countP_iff {α : Type} (property : α → Bool) (list : List α)
    (downward : list.Pairwise fun before after => property after = true → property before = true)
    (index : Nat) (member : α) (found : list[index]? = some member) :
    index < list.countP property ↔ property member = true := by
  induction list generalizing index with
  | nil => simp at found
  | cons head rest ih =>
    obtain ⟨toHead, inRest⟩ := List.pairwise_cons.mp downward
    cases index with
    | zero =>
      have same : head = member := by simpa using found
      subst same
      cases holds : property head with
      | true => simp [holds]
      | false =>
        have none : rest.countP property = 0 := by
          rw [List.countP_eq_zero]
          intro other inside satisfied
          simp [toHead other inside satisfied] at holds
        simp [holds, none]
    | succ index =>
      have found : rest[index]? = some member := by simpa using found
      have restIff := ih inRest index found
      cases holds : property head with
      | true => simp [holds, ← restIff]
      | false =>
        have fails : property member = false := by
          cases satisfied : property member with
          | false => rfl
          | true => simp [toHead member (List.mem_of_getElem? found) satisfied] at holds
        simp only [fails, Bool.false_eq_true, iff_false] at restIff ⊢
        simp only [List.countP_cons, holds]
        simp
        omega

namespace ZoneRules

/-- Offsets shorter than a day, shifts at least two days apart. -/
structure IsSpaced (rules : ZoneRules) : Prop where
  initial : -Wall.day < rules.initial ∧ rules.initial < Wall.day
  offsets : ∀ shift ∈ rules.shifts, -Wall.day < shift.offset ∧ shift.offset < Wall.day
  apart : rules.shifts.IsChain fun before after => before.instant + 2 * Wall.day ≤ after.instant

/-- The wall time belongs to the stretch that the clocks skip at a shift. -/
def Skips (rules : ZoneRules) (index : Nat) (wall : Int) : Prop :=
  ∃ shift, rules.shifts[index]? = some shift ∧
    shift.instant + rules.offsetAfter index ≤ wall ∧ wall < shift.instant + shift.offset

/-- The wall time belongs to the stretch that the clocks show twice, before and after a shift. -/
def Repeats (rules : ZoneRules) (index : Nat) (wall : Int) : Prop :=
  ∃ shift, rules.shifts[index]? = some shift ∧
    shift.instant + shift.offset ≤ wall ∧ wall < shift.instant + rules.offsetAfter index

def Borders (rules : ZoneRules) (index : Nat) (wall : Int) : Prop :=
  ∃ shift, rules.shifts[index]? = some shift ∧
    shift.instant + min (rules.offsetAfter index) shift.offset ≤ wall ∧
    wall ≤ shift.instant + max (rules.offsetAfter index) shift.offset

def RepeatsBoth (rules : ZoneRules) (wall other : Int) : Prop :=
  ∃ index, rules.Repeats index wall ∧ rules.Repeats index other

def Shows (rules : ZoneRules) (wall : Int) : Prop :=
  ∃ instant, (rules.reading instant).wall = wall

/-! ## Shifts and offsets in order -/

theorem offsetAfter_succ (rules : ZoneRules) (index : Nat) (shift : Shift)
    (found : rules.shifts[index]? = some shift) : rules.offsetAfter (index + 1) = shift.offset := by
  simp [offsetAfter, found]

/-- Where a wall time has to be for a shift to count as passed: with the greater of the offsets around
the shift for an earlier reading, with the lesser for a later one. -/
def thresholdOf (rules : ZoneRules) (index : Nat) (shift : Shift) : Threshold :=
  ⟨shift.instant + max (rules.offsetAfter index) shift.offset,
    shift.instant + min (rules.offsetAfter index) shift.offset⟩

theorem thresholdOf_earlier (rules : ZoneRules) (index : Nat) (shift : Shift) :
    (rules.thresholdOf index shift).wall false
      = shift.instant + max (rules.offsetAfter index) shift.offset := rfl

theorem thresholdOf_later (rules : ZoneRules) (index : Nat) (shift : Shift) :
    (rules.thresholdOf index shift).wall true
      = shift.instant + min (rules.offsetAfter index) shift.offset := rfl

theorem thresholdOf_between (rules : ZoneRules) (index : Nat) (shift : Shift) (later : Bool) :
    shift.instant + min (rules.offsetAfter index) shift.offset
        ≤ (rules.thresholdOf index shift).wall later ∧
      (rules.thresholdOf index shift).wall later
        ≤ shift.instant + max (rules.offsetAfter index) shift.offset := by
  cases later
  · rw [thresholdOf_earlier]
    omega
  · rw [thresholdOf_later]
    omega

theorem ofShifts_getElem? (shifts : List Shift) (initial : Int) (index : Nat) :
    (Threshold.ofShifts initial shifts)[index]? =
      shifts[index]?.map (ZoneRules.thresholdOf ⟨initial, shifts, _, rfl⟩ index) := by
  induction shifts generalizing initial index with
  | nil => simp [Threshold.ofShifts]
  | cons head rest ih =>
    cases index with
    | zero => simp [Threshold.ofShifts, thresholdOf, offsetAfter]
    | succ index =>
      simp only [Threshold.ofShifts, List.getElem?_cons_succ, ih]
      cases found : rest[index]? with
      | none => rfl
      | some shift =>
        simp only [Option.map_some, Option.some.injEq, thresholdOf]
        cases index with
        | zero => simp [offsetAfter]
        | succ previous =>
          obtain ⟨before, atPrevious⟩ : ∃ before, rest[previous]? = some before := by
            have := (List.getElem?_eq_some_iff.mp found).1
            exact ⟨_, List.getElem?_eq_getElem (by omega)⟩
          simp [offsetAfter, atPrevious]

theorem ofShifts_length (shifts : List Shift) (initial : Int) :
    (Threshold.ofShifts initial shifts).length = shifts.length := by
  induction shifts generalizing initial with
  | nil => rfl
  | cons head rest ih => simp [Threshold.ofShifts, ih]

theorem thresholds_getElem? (rules : ZoneRules) (index : Nat) :
    rules.thresholds.toList[index]? = rules.shifts[index]?.map (rules.thresholdOf index) := by
  have cached : rules = ⟨rules.initial, rules.shifts, _, rfl⟩ := by
    cases rules with
    | mk initial shifts thresholds thresholds_eq => subst thresholds_eq; rfl
  rw [rules.thresholds_eq]
  conv => rhs; rw [cached]
  exact ofShifts_getElem? rules.shifts rules.initial index

theorem shiftsPassed_le (rules : ZoneRules) (instant : Int) :
    rules.shiftsPassed instant ≤ rules.shifts.length := List.countP_le_length

section Spaced
variable {rules : ZoneRules} (spaced : rules.IsSpaced)
include spaced

theorem IsSpaced.offsetAfter (count : Nat) :
    -Wall.day < rules.offsetAfter count ∧ rules.offsetAfter count < Wall.day := by
  cases count with
  | zero => exact spaced.initial
  | succ previous =>
    cases found : rules.shifts[previous]? with
    | none =>
      simp only [ZoneRules.offsetAfter, found, Option.map_none, Option.getD_none]
      exact spaced.initial
    | some shift =>
      rw [rules.offsetAfter_succ previous shift found]
      exact spaced.offsets shift (List.mem_of_getElem? found)

theorem IsSpaced.pairwise : rules.shifts.Pairwise fun before after =>
    before.instant + 2 * Wall.day ≤ after.instant := by
  have transitive : Trans (fun before after : Shift => before.instant + 2 * Wall.day ≤ after.instant)
      (fun before after : Shift => before.instant + 2 * Wall.day ≤ after.instant)
      (fun before after : Shift => before.instant + 2 * Wall.day ≤ after.instant) := by
    constructor
    intro first second third
    simp only [Wall.day]
    omega
  exact List.isChain_iff_pairwise.mp spaced.apart

theorem IsSpaced.instants_apart (index next : Nat) (shift other : Shift) (order : index < next)
    (found : rules.shifts[index]? = some shift) (otherFound : rules.shifts[next]? = some other) :
    shift.instant + 2 * Wall.day ≤ other.instant := by
  obtain ⟨inside, same⟩ := List.getElem?_eq_some_iff.mp found
  obtain ⟨otherInside, otherSame⟩ := List.getElem?_eq_some_iff.mp otherFound
  have := List.pairwise_iff_getElem.mp spaced.pairwise index next inside otherInside order
  rwa [same, otherSame] at this

theorem IsSpaced.passed_iff (instant : Int) (index : Nat) (shift : Shift)
    (found : rules.shifts[index]? = some shift) :
    index < rules.shiftsPassed instant ↔ shift.instant ≤ instant := by
  rw [shiftsPassed, lt_countP_iff _ _ ?_ index shift found, decide_eq_true_eq]
  refine spaced.pairwise.imp ?_
  intro before after apart passed
  simp only [Wall.day, decide_eq_true_eq] at *
  omega

omit spaced in
theorem Skips.borders {index : Nat} {wall : Int} (skipped : rules.Skips index wall) :
    rules.Borders index wall := by
  obtain ⟨shift, found, since, before⟩ := skipped
  exact ⟨shift, found, by omega, by omega⟩

omit spaced in
theorem Repeats.borders {index : Nat} {wall : Int} (repeated : rules.Repeats index wall) :
    rules.Borders index wall := by
  obtain ⟨shift, found, since, before⟩ := repeated
  exact ⟨shift, found, by omega, by omega⟩

/-- The stretches of wall time around the shifts lie apart. -/
theorem IsSpaced.borders_unique (index other : Nat) (wall : Int) (borders : rules.Borders index wall)
    (otherBorders : rules.Borders other wall) : index = other := by
  obtain ⟨shift, found, since, before⟩ := borders
  obtain ⟨another, otherFound, otherSince, otherBefore⟩ := otherBorders
  have bound := spaced.offsetAfter index
  have otherBound := spaced.offsetAfter other
  have shiftBound := spaced.offsets shift (List.mem_of_getElem? found)
  have anotherBound := spaced.offsets another (List.mem_of_getElem? otherFound)
  rcases Nat.lt_trichotomy index other with less | equal | greater
  · have apart := spaced.instants_apart index other shift another less found otherFound
    omega
  · exact equal
  · have apart := spaced.instants_apart other index another shift greater otherFound found
    omega

theorem IsSpaced.threshold_lt (later : Bool) (index next : Nat) (shift other : Shift)
    (order : index < next) (found : rules.shifts[index]? = some shift)
    (otherFound : rules.shifts[next]? = some other) :
    (rules.thresholdOf index shift).wall later < (rules.thresholdOf next other).wall later := by
  have apart := spaced.instants_apart index next shift other order found otherFound
  have bound := spaced.offsetAfter index
  have shiftBound := spaced.offsets shift (List.mem_of_getElem? found)
  have otherBound := spaced.offsetAfter next
  have otherShiftBound := spaced.offsets other (List.mem_of_getElem? otherFound)
  simp only [thresholdOf, Threshold.wall]
  split <;> omega

theorem IsSpaced.thresholds_pairwise (later : Bool) :
    rules.thresholds.toList.Pairwise fun before after => before.wall later ≤ after.wall later := by
  rw [List.pairwise_iff_getElem]
  intro index next inside otherInside order
  have atIndex := rules.thresholds_getElem? index
  have atNext := rules.thresholds_getElem? next
  rw [List.getElem?_eq_getElem inside, eq_comm, Option.map_eq_some_iff] at atIndex
  rw [List.getElem?_eq_getElem otherInside, eq_comm, Option.map_eq_some_iff] at atNext
  obtain ⟨shift, found, same⟩ := atIndex
  obtain ⟨other, otherFound, otherSame⟩ := atNext
  rw [← same, ← otherSame]
  exact Int.le_of_lt (spaced.threshold_lt later index next shift other order found otherFound)

theorem IsSpaced.shown_iff (reading : Reading) (index : Nat) (shift : Shift)
    (found : rules.shifts[index]? = some shift) :
    index < rules.shiftsShown reading ↔
      (rules.thresholdOf index shift).wall reading.later ≤ reading.wall := by
  have ascending := spaced.thresholds_pairwise reading.later
  have atIndex : rules.thresholds.toList[index]? = some (rules.thresholdOf index shift) := by
    rw [rules.thresholds_getElem?, found, Option.map_some]
  rw [shiftsShown, Threshold.passedBy_eq_countP _ _ _ ascending, lt_countP_iff _ _ ?_ index _ atIndex,
    decide_eq_true_eq]
  refine ascending.imp ?_
  intro before after order passed
  rw [decide_eq_true_eq] at passed ⊢
  omega

theorem IsSpaced.shiftsShown_le (reading : Reading) :
    rules.shiftsShown reading ≤ rules.shifts.length := by
  have length := congrArg List.length (congrArg Array.toList rules.thresholds_eq)
  rw [List.toList_toArray, ofShifts_length] at length
  rw [shiftsShown, Threshold.passedBy_eq_countP _ _ _ (spaced.thresholds_pairwise _), ← length]
  exact List.countP_le_length

end Spaced

/-! ## From the wall to universal time and back -/

/-- The instant that a reading is taken for. -/
def instantOf (rules : ZoneRules) (reading : Reading) : Int :=
  reading.wall - rules.offsetShown reading

theorem exists_shift (rules : ZoneRules) (index : Nat) (inside : index < rules.shifts.length) :
    ∃ shift, rules.shifts[index]? = some shift :=
  ⟨_, List.getElem?_eq_getElem inside⟩

theorem reading_later_iff (rules : ZoneRules) (instant : Int) (index : Nat) (shift : Shift)
    (found : rules.shifts[index]? = some shift) (last : rules.shiftsPassed instant = index + 1) :
    (rules.reading instant).later = true ↔
      instant + shift.offset < shift.instant + rules.offsetAfter index := by
  simp only [reading, last, repeatsAfter, found, decide_eq_true_eq]
  omega

section Instants
variable {rules : ZoneRules} (spaced : rules.IsSpaced)
include spaced

theorem IsSpaced.shiftsShown_eq (given : Reading) (count : Nat) (within : count ≤ rules.shifts.length)
    (passed : ∀ index shift, rules.shifts[index]? = some shift → index + 1 = count →
      (rules.thresholdOf index shift).wall given.later ≤ given.wall)
    (ahead : ∀ shift, rules.shifts[count]? = some shift →
      given.wall < (rules.thresholdOf count shift).wall given.later) :
    rules.shiftsShown given = count := by
  have most := spaced.shiftsShown_le given
  rcases Nat.lt_trichotomy (rules.shiftsShown given) count with fewer | same | more
  · obtain ⟨shift, found⟩ := rules.exists_shift (count - 1) (by omega)
    have shown := spaced.shown_iff given (count - 1) shift found
    have last := passed (count - 1) shift found (by omega)
    omega
  · exact same
  · obtain ⟨shift, found⟩ := rules.exists_shift count (by omega)
    have shown := spaced.shown_iff given count shift found
    have next := ahead shift found
    omega

theorem IsSpaced.shiftsPassed_instantOf (reading : Reading)
    (unskipped : ∀ index, ¬ rules.Skips index reading.wall) :
    rules.shiftsPassed (rules.instantOf reading) = rules.shiftsShown reading := by
  have within := spaced.shiftsShown_le reading
  have passedWithin := rules.shiftsPassed_le (rules.instantOf reading)
  have instant : rules.instantOf reading
      = reading.wall - rules.offsetAfter (rules.shiftsShown reading) := rfl
  rcases Nat.lt_trichotomy (rules.shiftsPassed (rules.instantOf reading))
    (rules.shiftsShown reading) with less | equal | greater
  · obtain ⟨shift, found⟩ := rules.exists_shift (rules.shiftsShown reading - 1) (by omega)
    have passed := spaced.passed_iff (rules.instantOf reading) _ shift found
    have shown := spaced.shown_iff reading _ shift found
    have offset := rules.offsetAfter_succ _ shift found
    have between := rules.thresholdOf_between (rules.shiftsShown reading - 1) shift reading.later
    rw [Nat.sub_add_cancel (by omega)] at offset
    exact absurd ⟨shift, found, by omega, by omega⟩ (unskipped (rules.shiftsShown reading - 1))
  · exact equal
  · obtain ⟨shift, found⟩ := rules.exists_shift (rules.shiftsShown reading) (by omega)
    have passed := spaced.passed_iff (rules.instantOf reading) _ shift found
    have shown := spaced.shown_iff reading _ shift found
    have between := rules.thresholdOf_between (rules.shiftsShown reading) shift reading.later
    exact absurd ⟨shift, found, by omega, by omega⟩ (unskipped (rules.shiftsShown reading))

theorem IsSpaced.not_skips_of_shows (wall : Int) (shown : rules.Shows wall) (index : Nat) :
    ¬ rules.Skips index wall := by
  obtain ⟨instant, read⟩ := shown
  rintro ⟨shift, found, after, before⟩
  have bound := spaced.offsetAfter index
  have shiftBound := spaced.offsets shift (List.mem_of_getElem? found)
  have passed := spaced.passed_iff instant index shift found
  have passedBound := spaced.offsetAfter (rules.shiftsPassed instant)
  simp only [reading] at read
  rcases Nat.lt_trichotomy (rules.shiftsPassed instant) (index + 1) with less | equal | greater
  · rcases Nat.lt_or_eq_of_le (Nat.le_of_lt_succ less) with below | same
    · obtain ⟨other, otherFound⟩ := rules.exists_shift (rules.shiftsPassed instant)
        (by have := (List.getElem?_eq_some_iff.mp found).1; omega)
      have apart := spaced.instants_apart _ _ other shift below otherFound found
      have := spaced.passed_iff instant _ other otherFound
      omega
    · rw [same] at read
      omega
  · rw [equal, rules.offsetAfter_succ index shift found] at read
    omega
  · obtain ⟨other, otherFound⟩ := rules.exists_shift (rules.shiftsPassed instant - 1)
      (by have := rules.shiftsPassed_le instant; omega)
    have apart := spaced.instants_apart _ _ shift other (by omega) found otherFound
    have := spaced.passed_iff instant _ other otherFound
    omega

/-- A reading leads back to itself through universal time, unless it is skipped. -/
theorem IsSpaced.reading_instantOf (given : Reading)
    (unskipped : ∀ index, ¬ rules.Skips index given.wall) :
    (rules.reading (rules.instantOf given)).wall = given.wall := by
  simp only [reading]
  rw [spaced.shiftsPassed_instantOf given unskipped]
  simp only [instantOf, offsetShown]
  omega

theorem IsSpaced.shows_iff (wall : Int) :
    rules.Shows wall ↔ ∀ index, ¬ rules.Skips index wall :=
  ⟨spaced.not_skips_of_shows wall,
    fun unskipped => ⟨_, spaced.reading_instantOf ⟨wall, false⟩ unskipped⟩⟩

theorem IsSpaced.shiftsShown_reading (instant : Int) :
    rules.shiftsShown (rules.reading instant) = rules.shiftsPassed instant := by
  have wall : (rules.reading instant).wall
      = instant + rules.offsetAfter (rules.shiftsPassed instant) := rfl
  apply spaced.shiftsShown_eq _ _ (rules.shiftsPassed_le instant)
  · intro index shift found last
    have passed := spaced.passed_iff instant index shift found
    have later := rules.reading_later_iff instant index shift found last.symm
    have offset := rules.offsetAfter_succ index shift found
    rw [last] at offset
    cases mark : (rules.reading instant).later with
    | false =>
      simp only [mark, Bool.false_eq_true, false_iff] at later
      rw [rules.thresholdOf_earlier]
      omega
    | true =>
      simp only [mark, true_iff] at later
      rw [rules.thresholdOf_later]
      omega
  · intro shift found
    have toCome := spaced.passed_iff instant _ shift found
    cases mark : (rules.reading instant).later with
    | false =>
      rw [rules.thresholdOf_earlier]
      omega
    | true =>
      -- A later reading is less than a day past the shift before this one.
      cases count : rules.shiftsPassed instant with
      | zero => simp [reading, count, repeatsAfter] at mark
      | succ previous =>
        rw [count] at found wall
        obtain ⟨other, otherFound⟩ := rules.exists_shift previous
          (by have := rules.shiftsPassed_le instant; omega)
        have apart := spaced.instants_apart previous _ other shift (Nat.lt_succ_self _) otherFound found
        have later := (rules.reading_later_iff instant previous other otherFound count).mp mark
        have offset := rules.offsetAfter_succ previous other otherFound
        have otherBound := spaced.offsetAfter previous
        have bound := spaced.offsetAfter (previous + 1)
        have shiftBound := spaced.offsets shift (List.mem_of_getElem? found)
        rw [rules.thresholdOf_later]
        omega

theorem IsSpaced.instantOf_reading (instant : Int) :
    rules.instantOf (rules.reading instant) = instant := by
  rw [instantOf, offsetShown, spaced.shiftsShown_reading]
  simp only [reading]
  omega

/-! ## Wall time and universal time in order -/

theorem IsSpaced.shiftsShown_of_repeats (index : Nat) (given : Reading)
    (repeated : rules.Repeats index given.wall) :
    rules.shiftsShown given = if given.later then index + 1 else index := by
  obtain ⟨shift, found, since, before⟩ := repeated
  have inside := (List.getElem?_eq_some_iff.mp found).1
  have bound := spaced.offsetAfter index
  have shiftBound := spaced.offsets shift (List.mem_of_getElem? found)
  cases mark : given.later with
  | false =>
    apply spaced.shiftsShown_eq given index (Nat.le_of_lt inside)
    · intro previous other otherFound last
      have apart := spaced.instants_apart previous index other shift (by omega) otherFound found
      have otherBound := spaced.offsetAfter previous
      have otherShiftBound := spaced.offsets other (List.mem_of_getElem? otherFound)
      rw [mark, rules.thresholdOf_earlier]
      omega
    · intro same sameFound
      cases Option.some.inj (found.symm.trans sameFound)
      rw [mark, rules.thresholdOf_earlier]
      omega
  | true =>
    apply spaced.shiftsShown_eq given (index + 1) inside
    · intro previous same sameFound last
      obtain rfl : previous = index := by omega
      cases Option.some.inj (found.symm.trans sameFound)
      rw [mark, rules.thresholdOf_later]
      omega
    · intro other otherFound
      have apart := spaced.instants_apart index (index + 1) shift other (by omega) found otherFound
      have otherBound := spaced.offsetAfter (index + 1)
      have otherShiftBound := spaced.offsets other (List.mem_of_getElem? otherFound)
      rw [mark, rules.thresholdOf_later]
      omega

/-- Later wall times have later instants, except within a repeated stretch. -/
theorem IsSpaced.repeats_of_instant_lt (instant other : Int)
    (order : (rules.reading instant).wall ≤ (rules.reading other).wall) (back : other < instant) :
    ∃ index, rules.Repeats index (rules.reading instant).wall ∧
      rules.Repeats index (rules.reading other).wall ∧
      rules.shiftsPassed instant = index + 1 ∧ rules.shiftsPassed other = index := by
  have wall : (rules.reading instant).wall
      = instant + rules.offsetAfter (rules.shiftsPassed instant) := rfl
  have otherWall : (rules.reading other).wall
      = other + rules.offsetAfter (rules.shiftsPassed other) := rfl
  have within := rules.shiftsPassed_le instant
  have otherBound := spaced.offsetAfter (rules.shiftsPassed other)
  have bound := spaced.offsetAfter (rules.shiftsPassed instant)
  rcases Nat.lt_trichotomy (rules.shiftsPassed other) (rules.shiftsPassed instant) with
    fewer | equal | more
  · obtain ⟨first, firstFound⟩ := rules.exists_shift (rules.shiftsPassed other) (by omega)
    obtain ⟨last, lastFound⟩ := rules.exists_shift (rules.shiftsPassed instant - 1) (by omega)
    have toCome := spaced.passed_iff other _ first firstFound
    have happened := spaced.passed_iff instant _ last lastFound
    rcases Nat.lt_or_eq_of_le (Nat.le_sub_one_of_lt fewer) with less | same
    · have apart := spaced.instants_apart _ _ first last less firstFound lastFound
      omega
    · rw [← same, firstFound, Option.some.injEq] at lastFound
      subst lastFound
      have offset := rules.offsetAfter_succ _ first firstFound
      rw [same, Nat.sub_add_cancel (by omega)] at offset
      refine ⟨rules.shiftsPassed other, ⟨first, firstFound, by omega, by omega⟩,
        ⟨first, firstFound, by omega, by omega⟩, by omega, rfl⟩
  · rw [equal] at otherWall
    omega
  · obtain ⟨first, firstFound⟩ := rules.exists_shift (rules.shiftsPassed instant)
      (by have := rules.shiftsPassed_le other; omega)
    have toCome := spaced.passed_iff instant _ first firstFound
    have happened := spaced.passed_iff other _ first firstFound
    omega

theorem IsSpaced.instantOf_of_single (wall : Int) (later : Bool) (shown : rules.Shows wall)
    (single : ∀ index, ¬ rules.Repeats index wall) :
    rules.instantOf ⟨wall, later⟩ = rules.instantOf ⟨wall, false⟩ := by
  have unskipped := spaced.not_skips_of_shows wall shown
  have read := spaced.reading_instantOf ⟨wall, later⟩ unskipped
  have plainRead := spaced.reading_instantOf ⟨wall, false⟩ unskipped
  rcases Int.lt_trichotomy (rules.instantOf ⟨wall, later⟩) (rules.instantOf ⟨wall, false⟩) with
    less | same | greater
  · obtain ⟨index, _, repeated, _⟩ := spaced.repeats_of_instant_lt _ _
      (Int.le_of_eq (by rw [read, plainRead])) less
    rw [read] at repeated
    exact absurd repeated (single index)
  · exact same
  · obtain ⟨index, repeated, _, _⟩ := spaced.repeats_of_instant_lt _ _
      (Int.le_of_eq (by rw [read, plainRead])) greater
    rw [read] at repeated
    exact absurd repeated (single index)

theorem IsSpaced.shows_of_repeats (index : Nat) (wall : Int) (repeated : rules.Repeats index wall) :
    rules.Shows wall := by
  rw [spaced.shows_iff]
  intro other skipped
  have same := spaced.borders_unique index other wall repeated.borders skipped.borders
  subst same
  obtain ⟨shift, found, since, before⟩ := repeated
  obtain ⟨another, otherFound, _, _⟩ := skipped
  cases Option.some.inj (found.symm.trans otherFound)
  omega

/-- Going on along the wall leads back in universal time exactly from a later reading to an earlier one
within a repeated stretch. -/
theorem IsSpaced.instantOf_lt_iff (instant : Int) (given : Reading) (shown : rules.Shows given.wall)
    (order : (rules.reading instant).wall ≤ given.wall) :
    rules.instantOf given < instant ↔ (rules.reading instant).later = true ∧ given.later = false ∧
      rules.RepeatsBoth (rules.reading instant).wall given.wall := by
  have unskipped := (spaced.shows_iff given.wall).mp shown
  have passed := spaced.shiftsShown_reading instant
  have givenPassed := spaced.shiftsPassed_instantOf given unskipped
  constructor
  · intro back
    have read := spaced.reading_instantOf given unskipped
    obtain ⟨index, repeated, givenRepeated, atInstant, atGiven⟩ := spaced.repeats_of_instant_lt instant
      (rules.instantOf given) (by rw [read]; exact order) back
    rw [read] at givenRepeated
    rw [spaced.shiftsShown_of_repeats index _ repeated] at passed
    rw [spaced.shiftsShown_of_repeats index _ givenRepeated] at givenPassed
    refine ⟨?_, ?_, index, repeated, givenRepeated⟩
    · by_contra earlier
      rw [if_neg earlier] at passed
      omega
    · by_contra later
      rw [if_pos (by simpa using later)] at givenPassed
      omega
  · rintro ⟨later, earlier, index, repeated, givenRepeated⟩
    have located := spaced.instantOf_reading instant
    rw [instantOf, offsetShown, spaced.shiftsShown_of_repeats index _ repeated, if_pos later] at located
    rw [instantOf, offsetShown, spaced.shiftsShown_of_repeats index _ givenRepeated, earlier]
    obtain ⟨shift, found, since, _⟩ := repeated
    obtain ⟨other, otherFound, _, before⟩ := givenRepeated
    cases Option.some.inj (found.symm.trans otherFound)
    rw [rules.offsetAfter_succ index shift found] at located
    simp only [Bool.false_eq_true, if_false]
    omega

/-- The first reading comes before the second on the wall, and is not the later reading in a stretch
that both belong to. -/
def Precedes (rules : ZoneRules) (before after : Reading) : Prop :=
  before.wall < after.wall ∧ ¬ (before.later = true ∧ rules.RepeatsBoth before.wall after.wall)

theorem IsSpaced.exists_repeats_of_later (instant : Int)
    (later : (rules.reading instant).later = true) :
    ∃ index, rules.Repeats index (rules.reading instant).wall := by
  cases passed : rules.shiftsPassed instant with
  | zero => simp [reading, passed, repeatsAfter] at later
  | succ index =>
    obtain ⟨shift, found⟩ := rules.exists_shift index
      (by have := rules.shiftsPassed_le instant; omega)
    have happened := spaced.passed_iff instant index shift found
    have near := (rules.reading_later_iff instant index shift found passed).mp later
    have wall : (rules.reading instant).wall = instant + shift.offset := by
      simp only [reading, passed, rules.offsetAfter_succ index shift found]
    exact ⟨index, shift, found, by omega, by omega⟩

theorem IsSpaced.reading_later_of_repeats (index : Nat) (given : Reading)
    (repeated : rules.Repeats index given.wall) :
    (rules.reading (rules.instantOf given)).later = given.later := by
  have shown := spaced.shows_of_repeats index given.wall repeated
  have unskipped := (spaced.shows_iff given.wall).mp shown
  have back := spaced.shiftsShown_reading (rules.instantOf given)
  have again := repeated
  rw [← spaced.reading_instantOf given unskipped] at again
  rw [spaced.shiftsPassed_instantOf given unskipped, spaced.shiftsShown_of_repeats index _ again,
    spaced.shiftsShown_of_repeats index given repeated] at back
  rw [Bool.eq_iff_iff]
  constructor
  · intro later
    by_contra earlier
    rw [if_pos later, if_neg earlier] at back
    omega
  · intro later
    by_contra earlier
    rw [if_neg earlier, if_pos later] at back
    omega

theorem IsSpaced.reading_unmarked (given : Reading) (shown : rules.Shows given.wall)
    (earlier : given.later = false) : (rules.reading (rules.instantOf given)).later = false := by
  by_contra marked
  have later : (rules.reading (rules.instantOf given)).later = true := by simpa using marked
  obtain ⟨index, repeated⟩ := spaced.exists_repeats_of_later _ later
  rw [spaced.reading_instantOf given ((spaced.shows_iff _).mp shown)] at repeated
  rw [spaced.reading_later_of_repeats index given repeated, earlier] at later
  cases later

theorem IsSpaced.instantOf_lt_iff_precedes (before after : Reading) (shown : rules.Shows before.wall)
    (afterShown : rules.Shows after.wall) (earlier : after.later = false) :
    rules.instantOf before < rules.instantOf after ↔ rules.Precedes before after := by
  have read := spaced.reading_instantOf before ((spaced.shows_iff _).mp shown)
  have afterRead := spaced.reading_instantOf after ((spaced.shows_iff _).mp afterShown)
  have afterMark := spaced.reading_unmarked after afterShown earlier
  have ahead := spaced.instantOf_lt_iff (rules.instantOf before) after afterShown
  have behind := spaced.instantOf_lt_iff (rules.instantOf after) before shown
  rw [read] at ahead
  rw [afterRead, afterMark] at behind
  have mark : rules.RepeatsBoth before.wall after.wall →
      (rules.reading (rules.instantOf before)).later = before.later := by
    rintro ⟨other, beforeRepeated, _⟩
    exact spaced.reading_later_of_repeats other before beforeRepeated
  constructor
  · intro order
    have wall : before.wall < after.wall := by
      by_contra notBefore
      have back := (behind (Int.not_lt.mp notBefore)).mp order
      simp at back
    refine ⟨wall, ?_⟩
    rintro ⟨later, both⟩
    have back := (ahead (Int.le_of_lt wall)).mpr ⟨(mark both).trans later, earlier, both⟩
    omega
  · rintro ⟨wall, notLater⟩
    by_contra notBefore
    rcases Int.lt_or_eq_of_le (Int.not_lt.mp notBefore) with back | same
    · obtain ⟨later, _, both⟩ := (ahead (Int.le_of_lt wall)).mp back
      exact notLater ⟨(mark both).symm.trans later, both⟩
    · rw [← same] at read
      omega

end Instants
end ZoneRules
end CronClock
