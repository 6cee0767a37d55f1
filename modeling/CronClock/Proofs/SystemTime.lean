import CronClock.Calendar.SystemTime
import CronClock.Proofs.Rules
import CronClock.Proofs.Success

/-! # What the machine tells of its clocks

The machine asks its clocks about instants up to a day apart. If no shift moves them by more than that,
what it tells is what they show, `IsSpaced.systemReading_eq`, and a reading that they show has its own
instant, `IsSpaced.systemInstant?_of_unskipped`. A reading that they skip has the other mark's instant,
`IsSpaced.systemInstant?_of_skips`. -/
set_option autoImplicit false
namespace CronClock.ZoneRules

def IsGradual (rules : ZoneRules) : Prop :=
  ∀ index shift, rules.shifts[index]? = some shift →
    rules.offsetAfter index - Wall.day ≤ shift.offset ∧
      shift.offset ≤ rules.offsetAfter index + Wall.day

def offsetAt (rules : ZoneRules) (instant : Int) : Int :=
  rules.offsetAfter (rules.shiftsPassed instant)

theorem wallAt_eq (rules : ZoneRules) (instant : Int) :
    rules.wallAt instant = instant + rules.offsetAt instant := rfl

section Spaced
variable {rules : ZoneRules} (spaced : rules.IsSpaced)
include spaced

/-! ## Offsets around a shift -/

theorem IsSpaced.offsetAt_bounds (instant : Int) :
    -Wall.day < rules.offsetAt instant ∧ rules.offsetAt instant < Wall.day :=
  spaced.offsetAfter _

section Shift
variable (index : Nat) (shift : Shift) (found : rules.shifts[index]? = some shift)
include found

theorem IsSpaced.shiftsPassed_before (instant : Int) (near : shift.instant ≤ instant + 2 * Wall.day)
    (before : instant < shift.instant) : rules.shiftsPassed instant = index := by
  have passed := spaced.passed_iff instant index shift found
  apply Nat.le_antisymm
  · omega
  · by_contra fewer
    have inside := (List.getElem?_eq_some_iff.mp found).1
    obtain ⟨other, otherFound⟩ := rules.exists_shift (rules.shiftsPassed instant) (by omega)
    have otherPassed := spaced.passed_iff instant _ other otherFound
    have apart := spaced.instants_apart _ index other shift (by omega) otherFound found
    omega

theorem IsSpaced.shiftsPassed_after (instant : Int) (since : shift.instant ≤ instant)
    (near : instant < shift.instant + 2 * Wall.day) : rules.shiftsPassed instant = index + 1 := by
  have passed := spaced.passed_iff instant index shift found
  apply Nat.le_antisymm
  · by_contra more
    have most := rules.shiftsPassed_le instant
    obtain ⟨other, otherFound⟩ := rules.exists_shift (index + 1) (by omega)
    have otherPassed := spaced.passed_iff instant _ other otherFound
    have apart := spaced.instants_apart index _ shift other (by omega) found otherFound
    omega
  · omega

theorem IsSpaced.offsetAt_before (instant : Int) (near : shift.instant ≤ instant + 2 * Wall.day)
    (before : instant < shift.instant) : rules.offsetAt instant = rules.offsetAfter index := by
  rw [offsetAt, spaced.shiftsPassed_before index shift found instant near before]

theorem IsSpaced.offsetAt_after (instant : Int) (since : shift.instant ≤ instant)
    (near : instant < shift.instant + 2 * Wall.day) : rules.offsetAt instant = shift.offset := by
  rw [offsetAt, spaced.shiftsPassed_after index shift found instant since near,
    rules.offsetAfter_succ index shift found]

end Shift

theorem IsSpaced.exists_shift_between (instant other : Int)
    (differ : rules.offsetAt instant ≠ rules.offsetAt other) :
    ∃ (index : Nat) (shift : Shift), rules.shifts[index]? = some shift ∧
      min instant other < shift.instant ∧ shift.instant ≤ max instant other := by
  have most := rules.shiftsPassed_le instant
  have otherMost := rules.shiftsPassed_le other
  rcases Nat.lt_trichotomy (rules.shiftsPassed instant) (rules.shiftsPassed other) with
    fewer | same | more
  · obtain ⟨shift, found⟩ := rules.exists_shift (rules.shiftsPassed instant) (by omega)
    have toCome := spaced.passed_iff instant _ shift found
    have happened := spaced.passed_iff other _ shift found
    exact ⟨_, shift, found, by omega, by omega⟩
  · exact absurd (congrArg rules.offsetAfter same) differ
  · obtain ⟨shift, found⟩ := rules.exists_shift (rules.shiftsPassed other) (by omega)
    have toCome := spaced.passed_iff other _ shift found
    have happened := spaced.passed_iff instant _ shift found
    exact ⟨_, shift, found, by omega, by omega⟩

/-- An instant is the one of the reading that it shows, with the mark of its side of the shift. -/
theorem IsSpaced.eq_instantOf (instant : Int) (given : Reading)
    (shows : rules.wallAt instant = given.wall)
    (mark : ∀ index shift, rules.shifts[index]? = some shift → rules.Repeats index given.wall →
      (given.later = true ↔ shift.instant ≤ instant)) :
    instant = rules.instantOf given := by
  have bounds := spaced.offsetAt_bounds instant
  rw [wallAt_eq] at shows
  by_cases repeated : ∃ index, rules.Repeats index given.wall
  · obtain ⟨index, repeated⟩ := repeated
    rw [instantOf, offsetShown, spaced.shiftsShown_of_repeats index given repeated]
    obtain ⟨shift, found, since, before⟩ := repeated
    have side := mark index shift found ⟨shift, found, since, before⟩
    have shiftBound := spaced.offsets shift (List.mem_of_getElem? found)
    have bound := spaced.offsetAfter index
    by_cases passed : shift.instant ≤ instant
    · have offset := spaced.offsetAt_after index shift found instant passed (by omega)
      rw [if_pos (side.mpr passed), rules.offsetAfter_succ index shift found]
      omega
    · have offset := spaced.offsetAt_before index shift found instant (by omega) (by omega)
      rw [if_neg fun later => passed (side.mp later)]
      omega
  · have single : ∀ index, ¬ rules.Repeats index given.wall := by
      intro index member
      exact repeated ⟨index, member⟩
    have read : (rules.reading instant).wall = given.wall := shows
    have shown : rules.Shows given.wall := ⟨instant, read⟩
    have back := spaced.instantOf_reading instant
    have own := spaced.instantOf_of_single given.wall (rules.reading instant).later shown single
    have plain := spaced.instantOf_of_single given.wall given.later shown single
    rw [← read] at own plain
    rw [← back]
    exact own.trans (plain.symm.trans (by rw [read]))

/-! ## The reading of an instant -/

variable (gradual : rules.IsGradual)
include gradual

theorem IsSpaced.unmarked_of_level (instant : Int)
    (level : rules.offsetAt instant = rules.offsetAt (instant - Wall.day)) :
    (rules.reading instant).later = false := by
  by_contra unmarked
  have later : (rules.reading instant).later = true := by simpa using unmarked
  cases last : rules.shiftsPassed instant with
  | zero => simp [reading, last, repeatsAfter] at later
  | succ index =>
    have most := rules.shiftsPassed_le instant
    obtain ⟨shift, found⟩ := rules.exists_shift index (by omega)
    have repeats := (rules.reading_later_iff instant index shift found last).mp later
    have passed := spaced.passed_iff instant index shift found
    have gentle := gradual index shift found
    have dayBefore := spaced.offsetAt_before index shift found (instant - Wall.day)
      (by simp only [Wall.day] at *; omega) (by omega)
    have now := rules.offsetAfter_succ index shift found
    rw [← last] at now
    rw [offsetAt] at level
    omega

theorem IsSpaced.systemReading_eq (instant : Int) :
    rules.systemReading instant = rules.reading instant := by
  have wall : (rules.reading instant).wall = rules.wallAt instant := rfl
  suffices mark : (rules.systemReading instant).later = (rules.reading instant).later by
    rw [systemReading] at mark ⊢
    simp only at mark
    rw [mark, ← wall]
  have change : rules.wallAt instant - rules.wallAt (instant - Wall.day) - Wall.day
      = rules.offsetAt instant - rules.offsetAt (instant - Wall.day) := by
    simp only [wallAt_eq]
    omega
  rw [systemReading, change]
  by_cases level : rules.offsetAt instant = rules.offsetAt (instant - Wall.day)
  · have unmarked := spaced.unmarked_of_level gradual instant level
    have still : ¬ rules.offsetAt instant - rules.offsetAt (instant - Wall.day) < 0 := by omega
    simp [still, unmarked]
  · obtain ⟨index, shift, found, after, upto⟩ := spaced.exists_shift_between _ _ level
    simp only [Wall.day] at after upto
    have gentle := gradual index shift found
    have now := spaced.offsetAt_after index shift found instant (by omega)
      (by simp only [Wall.day]; omega)
    have dayBefore := spaced.offsetAt_before index shift found (instant - Wall.day)
      (by simp only [Wall.day]; omega) (by simp only [Wall.day]; omega)
    have last := spaced.shiftsPassed_after index shift found instant (by omega)
      (by simp only [Wall.day]; omega)
    have later := rules.reading_later_iff instant index shift found last
    rw [now, dayBefore] at level ⊢
    rw [Bool.eq_iff_iff, later, Bool.and_eq_true, decide_eq_true_eq, beq_iff_eq, wallAt_eq, wallAt_eq,
      now]
    constructor
    · intro probe
      obtain ⟨back, same⟩ := probe
      by_contra past
      -- The probe is on the same side of the shift as the instant.
      have probed := spaced.offsetAt_after index shift found
        (instant + (shift.offset - rules.offsetAfter index)) (by omega)
        (by simp only [Wall.day]; omega)
      omega
    · intro repeats
      have probed := spaced.offsetAt_before index shift found
        (instant + (shift.offset - rules.offsetAfter index))
        (by simp only [Wall.day] at *; omega) (by omega)
      constructor
      · omega
      · omega

/-! ## The instant of a reading -/

omit spaced gradual in
theorem systemOffset?_eq_ok (instant offset : Int) (told : rules.systemOffset? instant = .ok offset) :
    offset = rules.offsetAt instant := by
  rw [systemOffset?] at told
  split at told
  · cases told
    rw [wallAt_eq]
    omega
  · cases told

/-- How an instant is found for a reading: `guess` and `other` are offsets that the machine told of. -/
inductive IsPlaced (rules : ZoneRules) (given : Reading) : Int → Prop where
  | alone (guess : Int) (found : rules.offsetAt (given.wall - guess) = guess)
    (level : rules.offsetAt
      (given.wall - guess + if given.later then Wall.day else -Wall.day) = guess) :
    IsPlaced rules given (given.wall - guess)
  | second (guess other : Int) (found : rules.offsetAt (given.wall - guess) = guess)
    (differs : other ≠ guess)
    (told : rules.offsetAt (given.wall - guess + if given.later then Wall.day else -Wall.day) = other)
    (right : rules.offsetAt (given.wall - other) = other) : IsPlaced rules given (given.wall - other)
  | first (guess other : Int) (found : rules.offsetAt (given.wall - guess) = guess)
    (differs : other ≠ guess)
    (told : rules.offsetAt (given.wall - guess + if given.later then Wall.day else -Wall.day) = other)
    (wrong : rules.offsetAt (given.wall - other) ≠ other) : IsPlaced rules given (given.wall - guess)
  | corrected (guess other : Int) (begun : rules.offsetAt given.wall = guess) (differs : other ≠ guess)
    (told : rules.offsetAt (given.wall - guess) = other)
    (right : rules.offsetAt (given.wall - other) = other) : IsPlaced rules given (given.wall - other)
  | skipped (guess other : Int) (begun : rules.offsetAt given.wall = guess) (differs : other ≠ guess)
    (told : rules.offsetAt (given.wall - guess) = other)
    (wrong : rules.offsetAt (given.wall - other) ≠ other) :
    IsPlaced rules given (if given.later then min (given.wall - guess) (given.wall - other)
      else max (given.wall - guess) (given.wall - other))

omit spaced gradual in
theorem isPlaced_of_systemPlace? (given : Reading) (place : Int)
    (placed : rules.systemPlace? given = .ok place) : rules.IsPlaced given place := by
  rw [systemPlace?, bind_eq_ok] at placed
  obtain ⟨guess, told, placed⟩ := placed
  have begun := systemOffset?_eq_ok _ _ told
  simp only [bind_eq_ok] at placed
  obtain ⟨found, told, placed⟩ := placed
  have foundIs := systemOffset?_eq_ok _ _ told
  by_cases right : found = guess
  · subst right
    simp only [if_true, bind_eq_ok] at placed
    obtain ⟨other, told, placed⟩ := placed
    have neighbour : rules.offsetAt
        (given.wall - found + if given.later then Wall.day else -Wall.day) = other := by
      rw [systemOffset?_eq_ok _ _ told]
      split <;> rfl
    by_cases level : other = found
    · rw [if_pos level, pure_eq_ok] at placed
      subst level placed
      exact .alone other foundIs.symm neighbour
    · rw [if_neg level] at placed
      simp only [bind_eq_ok] at placed
      obtain ⟨offset, told, placed⟩ := placed
      have offsetIs := systemOffset?_eq_ok _ _ told
      rw [pure_eq_ok] at placed
      subst placed
      split
      · next same => exact .second found other foundIs.symm level neighbour (offsetIs.symm.trans same)
      · next wrong =>
        exact .first found other foundIs.symm level neighbour fun same => wrong (offsetIs.trans same)
  · simp only [if_neg right, bind_eq_ok] at placed
    obtain ⟨offset, told, placed⟩ := placed
    have offsetIs := systemOffset?_eq_ok _ _ told
    split at placed
    · next same =>
      rw [pure_eq_ok] at placed
      subst placed
      exact .corrected guess found begun.symm right foundIs.symm (offsetIs.symm.trans same)
    · next wrong =>
      rw [pure_eq_ok] at placed
      subst placed
      exact .skipped guess found begun.symm right foundIs.symm fun same => wrong (offsetIs.trans same)

section Repeated
variable (index : Nat) (shift : Shift) (found : rules.shifts[index]? = some shift) (wall : Int)
  (repeated : rules.Repeats index wall)
include found repeated

omit spaced gradual in
theorem Repeats.between : shift.instant + shift.offset ≤ wall ∧
    wall < shift.instant + rules.offsetAfter index := by
  obtain ⟨other, otherFound, since, before⟩ := repeated
  cases Option.some.inj (found.symm.trans otherFound)
  exact ⟨since, before⟩

/-- The instant of a wall time that comes up twice is on one side of the shift; a day before and after
it are on both sides. -/
theorem IsSpaced.sides_of_repeats (guess : Int) (right : rules.offsetAt (wall - guess) = guess) :
    (wall - guess < shift.instant ∧ guess = rules.offsetAfter index ∨
        shift.instant ≤ wall - guess ∧ guess = shift.offset) ∧
      rules.offsetAt (wall - guess + Wall.day) = shift.offset ∧
      rules.offsetAt (wall - guess + -Wall.day) = rules.offsetAfter index := by
  obtain ⟨since, before⟩ := repeated.between index shift found wall
  have gentle := gradual index shift found
  have bounds := spaced.offsetAt_bounds (wall - guess)
  have bound := spaced.offsetAfter index
  have shiftBound := spaced.offsets shift (List.mem_of_getElem? found)
  simp only [Wall.day] at gentle bounds bound shiftBound
  have side : wall - guess < shift.instant ∧ guess = rules.offsetAfter index ∨
      shift.instant ≤ wall - guess ∧ guess = shift.offset := by
    by_cases passed : shift.instant ≤ wall - guess
    · have here := spaced.offsetAt_after index shift found (wall - guess) passed
        (by simp only [Wall.day]; omega)
      exact .inr ⟨passed, right.symm.trans here⟩
    · have here := spaced.offsetAt_before index shift found (wall - guess)
        (by simp only [Wall.day]; omega) (by omega)
      exact .inl ⟨by omega, right.symm.trans here⟩
  refine ⟨side, ?_, ?_⟩
  · apply spaced.offsetAt_after index shift found
    · simp only [Wall.day]; omega
    · simp only [Wall.day]; omega
  · apply spaced.offsetAt_before index shift found
    · simp only [Wall.day]; omega
    · simp only [Wall.day]; omega

theorem IsSpaced.right_of_repeats :
    rules.offsetAt (wall - rules.offsetAfter index) = rules.offsetAfter index ∧
      rules.offsetAt (wall - shift.offset) = shift.offset := by
  obtain ⟨since, before⟩ := repeated.between index shift found wall
  have gentle := gradual index shift found
  constructor
  · apply spaced.offsetAt_before index shift found
    · simp only [Wall.day] at *; omega
    · omega
  · apply spaced.offsetAt_after index shift found
    · omega
    · simp only [Wall.day] at *; omega

/-- The offset that the machine tells a day away is the one that the mark asks for. -/
theorem IsSpaced.told_of_repeats (guess other : Int) (later : Bool)
    (right : rules.offsetAt (wall - guess) = guess)
    (told : rules.offsetAt (wall - guess + if later then Wall.day else -Wall.day) = other) :
    other = if later then shift.offset else rules.offsetAfter index := by
  obtain ⟨_, dayAfter, dayBefore⟩ :=
    spaced.sides_of_repeats gradual index shift found wall repeated guess right
  cases later with
  | false => exact told.symm.trans dayBefore
  | true => exact told.symm.trans dayAfter

omit gradual in
theorem IsSpaced.offsetAt_of_repeats :
    rules.offsetAt wall = rules.offsetAfter index ∨ rules.offsetAt wall = shift.offset := by
  obtain ⟨since, before⟩ := repeated.between index shift found wall
  have bound := spaced.offsetAfter index
  have shiftBound := spaced.offsets shift (List.mem_of_getElem? found)
  by_cases passed : shift.instant ≤ wall
  · exact .inr (spaced.offsetAt_after index shift found wall passed (by omega))
  · exact .inl (spaced.offsetAt_before index shift found wall (by omega) (by omega))

end Repeated

omit gradual in
/-- If the clocks show a wall time, and the offset at the wall time itself is not the right one, then
the next one told of is. -/
theorem IsSpaced.right_of_shows (wall instant other : Int)
    (shows : instant + rules.offsetAt instant = wall)
    (differs : other ≠ rules.offsetAt wall)
    (told : rules.offsetAt (wall - rules.offsetAt wall) = other) :
    rules.offsetAt (wall - other) = other := by
  have bounds := spaced.offsetAt_bounds instant
  have wallBounds := spaced.offsetAt_bounds wall
  -- The clocks change between the wall time and its instant, and between it and the first guess.
  have own : rules.offsetAt wall ≠ rules.offsetAt instant := by
    intro same
    have reached : wall - rules.offsetAt wall = instant := by omega
    rw [reached] at told
    omega
  have guessed : rules.offsetAt wall ≠ rules.offsetAt (wall - rules.offsetAt wall) := by
    rw [told]
    exact differs.symm
  obtain ⟨index, shift, found, after, upto⟩ := spaced.exists_shift_between _ _ own
  obtain ⟨next, nextShift, nextFound, nextAfter, nextUpto⟩ :=
    spaced.exists_shift_between _ _ guessed
  have single : index = next := by
    rcases Nat.lt_trichotomy index next with less | same | greater
    · have apart := spaced.instants_apart index next shift nextShift less found nextFound
      omega
    · exact same
    · have apart := spaced.instants_apart next index nextShift shift greater nextFound found
      omega
  subst single
  cases Option.some.inj (found.symm.trans nextFound)
  have reached : other = rules.offsetAt instant := by
    by_cases passed : shift.instant ≤ wall
    · rw [← told, spaced.offsetAt_before index shift found instant (by omega) (by omega)]
      exact spaced.offsetAt_before index shift found _ (by omega) (by omega)
    · rw [← told, spaced.offsetAt_after index shift found instant (by omega) (by omega)]
      exact spaced.offsetAt_after index shift found _ (by omega) (by omega)
  have place : wall - other = instant := by omega
  rw [place, reached]

theorem IsSpaced.eq_instantOf_of_isPlaced (given : Reading) (place : Int)
    (placed : rules.IsPlaced given place) (unskipped : ∀ index, ¬ rules.Skips index given.wall) :
    place = rules.instantOf given := by
  have shows : rules.instantOf given + rules.offsetAt (rules.instantOf given) = given.wall :=
    spaced.reading_instantOf given unskipped
  cases placed with
  | alone guess right level =>
    apply spaced.eq_instantOf
    · rw [wallAt_eq, right]; omega
    intro index shift found repeated
    obtain ⟨since, before⟩ := repeated.between index shift found _
    obtain ⟨side, _⟩ := spaced.sides_of_repeats gradual index shift found _ repeated guess right
    have own := spaced.told_of_repeats gradual index shift found _ repeated guess guess _ right level
    cases mark : given.later with
    | false =>
      simp only [mark, Bool.false_eq_true, if_false, false_iff] at own ⊢
      omega
    | true =>
      simp only [mark, if_true, true_iff] at own ⊢
      omega
  | second guess other right differs told rightToo =>
    apply spaced.eq_instantOf
    · rw [wallAt_eq, rightToo]; omega
    intro index shift found repeated
    obtain ⟨since, before⟩ := repeated.between index shift found _
    obtain ⟨side, _⟩ := spaced.sides_of_repeats gradual index shift found _ repeated other rightToo
    have own := spaced.told_of_repeats gradual index shift found _ repeated guess other _ right told
    cases mark : given.later with
    | false =>
      simp only [mark, Bool.false_eq_true, if_false, false_iff] at own ⊢
      omega
    | true =>
      simp only [mark, if_true, true_iff] at own ⊢
      omega
  | first guess other right differs told wrong =>
    apply spaced.eq_instantOf
    · rw [wallAt_eq, right]; omega
    intro index shift found repeated
    obtain ⟨early, late⟩ := spaced.right_of_repeats gradual index shift found _ repeated
    have own := spaced.told_of_repeats gradual index shift found _ repeated guess other _ right told
    exfalso
    apply wrong
    cases mark : given.later with
    | false =>
      simp only [mark, Bool.false_eq_true, if_false] at own
      rw [own, early]
    | true =>
      simp only [mark, if_true] at own
      rw [own, late]
  | corrected guess other begun differs told right =>
    apply spaced.eq_instantOf
    · rw [wallAt_eq, right]; omega
    intro index shift found repeated
    obtain ⟨early, late⟩ := spaced.right_of_repeats gradual index shift found _ repeated
    exfalso
    cases spaced.offsetAt_of_repeats index shift found _ repeated with
    | inl same =>
      rw [← begun, same] at told differs
      exact differs (told.symm.trans early)
    | inr same =>
      rw [← begun, same] at told differs
      exact differs (told.symm.trans late)
  | skipped guess other begun differs told wrong =>
    subst begun
    exact absurd (spaced.right_of_shows given.wall _ other shows differs told) wrong

/-- A reading that the clocks show has its own instant. -/
theorem IsSpaced.systemInstant?_of_unskipped (given : Reading) (instant : Int)
    (unskipped : ∀ index, ¬ rules.Skips index given.wall)
    (located : rules.systemInstant? given = .ok instant) : instant = rules.instantOf given := by
  rw [systemInstant?, bind_eq_ok] at located
  obtain ⟨place, placed, located⟩ := located
  rw [bind_eq_ok] at located
  obtain ⟨offset, told, located⟩ := located
  rw [pure_eq_ok] at located
  have same := spaced.eq_instantOf_of_isPlaced gradual given place
    (isPlaced_of_systemPlace? given place placed) unskipped
  have shows : rules.instantOf given + rules.offsetAt (rules.instantOf given) = given.wall :=
    spaced.reading_instantOf given unskipped
  rw [systemOffset?_eq_ok _ _ told, same] at located
  omega

section Skipped
variable (index : Nat) (shift : Shift) (found : rules.shifts[index]? = some shift) (wall : Int)
  (skips : rules.Skips index wall)
include skips

omit gradual in
theorem IsSpaced.not_right_of_skips (guess : Int) : rules.offsetAt (wall - guess) ≠ guess := by
  intro right
  apply spaced.not_skips_of_shows wall ⟨wall - guess, ?_⟩ index skips
  change rules.wallAt _ = _
  rw [wallAt_eq, right]
  omega

include found

/-- Each of the two offsets leads from a skipped wall time to the other side of the shift. -/
theorem IsSpaced.crosses_of_skips :
    rules.offsetAt (wall - shift.offset) = rules.offsetAfter index ∧
      rules.offsetAt (wall - rules.offsetAfter index) = shift.offset := by
  obtain ⟨same, sameFound, since, before⟩ := skips
  cases Option.some.inj (found.symm.trans sameFound)
  have gentle := gradual index shift found
  constructor
  · apply spaced.offsetAt_before index shift found
    · simp only [Wall.day] at *; omega
    · omega
  · apply spaced.offsetAt_after index shift found
    · omega
    · simp only [Wall.day] at *; omega

theorem IsSpaced.told_of_skips (other : Int)
    (told : rules.offsetAt (wall - rules.offsetAt wall) = other) :
    (rules.offsetAt wall = shift.offset ∧ other = rules.offsetAfter index) ∨
      (rules.offsetAt wall = rules.offsetAfter index ∧ other = shift.offset) := by
  obtain ⟨least, greatest⟩ := spaced.crosses_of_skips gradual index shift found wall skips
  obtain ⟨same, sameFound, since, before⟩ := skips
  cases Option.some.inj (found.symm.trans sameFound)
  have bound := spaced.offsetAfter index
  have shiftBound := spaced.offsets shift (List.mem_of_getElem? found)
  by_cases passed : shift.instant ≤ wall
  · have guess := spaced.offsetAt_after index shift found wall passed (by omega)
    rw [guess, least] at told
    exact .inl ⟨guess, told.symm⟩
  · have guess := spaced.offsetAt_before index shift found wall (by omega) (by omega)
    rw [guess, greatest] at told
    exact .inr ⟨guess, told.symm⟩

end Skipped

/-- A skipped reading is taken to come after the shift, or before it if it is marked later. -/
theorem IsSpaced.systemInstant?_of_skips (index : Nat) (shift : Shift)
    (found : rules.shifts[index]? = some shift) (given : Reading) (instant : Int)
    (skips : rules.Skips index given.wall) (located : rules.systemInstant? given = .ok instant) :
    instant = given.wall - if given.later then rules.offsetAfter index else shift.offset := by
  rw [systemInstant?, bind_eq_ok] at located
  obtain ⟨place, placed, located⟩ := located
  rw [bind_eq_ok] at located
  obtain ⟨offset, asked, located⟩ := located
  rw [pure_eq_ok, systemOffset?_eq_ok _ _ asked] at located
  have unshown := spaced.not_right_of_skips index given.wall skips
  obtain ⟨least, greatest⟩ := spaced.crosses_of_skips gradual index shift found given.wall skips
  cases isPlaced_of_systemPlace? given place placed with
  | alone guess right _ => exact absurd right (unshown guess)
  | second guess _ right _ _ _ => exact absurd right (unshown guess)
  | first guess _ right _ _ _ => exact absurd right (unshown guess)
  | corrected _ other _ _ _ right => exact absurd right (unshown other)
  | skipped guess other begun differs told _ =>
    subst begun
    have guesses := spaced.told_of_skips gradual index shift found given.wall skips other told
    obtain ⟨same, sameFound, since, before⟩ := skips
    cases Option.some.inj (found.symm.trans sameFound)
    have lesser : min (given.wall - rules.offsetAt given.wall) (given.wall - other)
        = given.wall - shift.offset := by omega
    have greater : max (given.wall - rules.offsetAt given.wall) (given.wall - other)
        = given.wall - rules.offsetAfter index := by omega
    rw [lesser, greater] at located
    cases mark : given.later with
    | false =>
      simp only [mark, Bool.false_eq_true, if_false, greatest] at located ⊢
      exact located.symm
    | true =>
      simp only [mark, if_true, least] at located ⊢
      exact located.symm

omit spaced gradual in
/-- What the clocks show at the instant that the machine gives to a reading: the reading itself if they
show it at all, and otherwise a wall time as far off as the skipped stretch is long. -/
inductive IsDue (rules : ZoneRules) (given : Reading) : Reading → Prop where
  | shown (shown : rules.Shows given.wall) : IsDue rules given given
  | skipped (index : Nat) (shift : Shift) (found : rules.shifts[index]? = some shift)
      (skips : rules.Skips index given.wall) :
      IsDue rules given ⟨given.wall + (if given.later then shift.offset - rules.offsetAfter index
        else rules.offsetAfter index - shift.offset), false⟩

omit gradual in
theorem IsSpaced.exists_isDue (given : Reading) : ∃ due, rules.IsDue given due := by
  by_cases shown : rules.Shows given.wall
  · exact ⟨given, .shown shown⟩
  · rw [spaced.shows_iff] at shown
    push Not at shown
    obtain ⟨index, skips⟩ := shown
    obtain ⟨shift, found, _⟩ := id skips
    exact ⟨_, .skipped index shift found skips⟩

theorem IsSpaced.shiftsShown_of_skips (index : Nat) (shift : Shift)
    (found : rules.shifts[index]? = some shift) (given : Reading)
    (skips : rules.Skips index given.wall) :
    rules.shiftsShown ⟨given.wall + (if given.later then shift.offset - rules.offsetAfter index
        else rules.offsetAfter index - shift.offset), false⟩
      = if given.later then index + 1 else index := by
  obtain ⟨same, sameFound, since, before⟩ := skips
  cases Option.some.inj (found.symm.trans sameFound)
  have gentle := gradual index shift found
  have bound := spaced.offsetAfter index
  have shiftBound := spaced.offsets shift (List.mem_of_getElem? found)
  have inside := (List.getElem?_eq_some_iff.mp found).1
  cases given.later with
  | false =>
    apply spaced.shiftsShown_eq
    · simp only [Bool.false_eq_true, if_false]
      omega
    · intro previous other otherFound last
      obtain rfl : index = previous + 1 := by simpa using last.symm
      have apart := spaced.instants_apart previous _ other shift (by omega) otherFound found
      have otherGentle := gradual previous other otherFound
      rw [rules.offsetAfter_succ previous other otherFound] at *
      rw [thresholdOf_earlier]
      simp only [Bool.false_eq_true, if_false]
      omega
    · intro next nextFound
      cases Option.some.inj (found.symm.trans nextFound)
      simp only [Bool.false_eq_true, if_false, thresholdOf_earlier]
      omega
  | true =>
    apply spaced.shiftsShown_eq
    · simp only [if_true]
      omega
    · intro previous other otherFound last
      obtain rfl : previous = index := by simpa using last
      cases Option.some.inj (found.symm.trans otherFound)
      simp only [if_true, thresholdOf_earlier]
      omega
    · intro next nextFound
      simp only [if_true] at nextFound
      have apart := spaced.instants_apart index (index + 1) shift next (by omega) found nextFound
      simp only [if_true, thresholdOf_earlier, rules.offsetAfter_succ index shift found]
      omega

theorem IsSpaced.eq_instantOf_of_isDue (given due : Reading) (isDue : rules.IsDue given due)
    (instant : Int) (located : rules.systemInstant? given = .ok instant) :
    rules.Shows due.wall ∧ instant = rules.instantOf due := by
  cases isDue with
  | shown shown =>
    exact ⟨shown, spaced.systemInstant?_of_unskipped gradual given instant
      ((spaced.shows_iff _).mp shown) located⟩
  | skipped index shift found skips =>
    have told := spaced.systemInstant?_of_skips gradual index shift found given instant skips located
    have side := spaced.shiftsShown_of_skips gradual index shift found given skips
    obtain ⟨same, sameFound, since, before⟩ := skips
    cases Option.some.inj (found.symm.trans sameFound)
    have gentle := gradual index shift found
    simp only [instantOf, offsetShown, side]
    cases mark : given.later with
    | false =>
      simp only [mark, Bool.false_eq_true, if_false] at told ⊢
      have offset := spaced.offsetAt_before index shift found instant (by omega) (by omega)
      refine ⟨⟨instant, ?_⟩, by omega⟩
      change rules.wallAt instant = _
      rw [wallAt_eq, offset]
      omega
    | true =>
      simp only [mark, if_true, rules.offsetAfter_succ index shift found] at told ⊢
      have offset := spaced.offsetAt_after index shift found instant (by omega) (by omega)
      refine ⟨⟨instant, ?_⟩, by omega⟩
      change rules.wallAt instant = _
      rw [wallAt_eq, offset]
      omega

end Spaced
end CronClock.ZoneRules
