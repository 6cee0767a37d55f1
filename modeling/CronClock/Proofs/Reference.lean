import CronClock.Proofs.UpcomingOrder

/-! # What a reference decides

A schedule first brings its reference onto its own clocks and then rounds it up to a whole second. Both
can lead out of the calendar, and nothing else keeps the schedule from an answer:
`Schedule.next?_answers_iff`. A reference on other clocks counts for its instant alone. One on the
schedule's own clocks is taken as it stands, and a wall time that those clocks never show is not what
its instant reads: `Schedule.next?_of_sameInstant` is about the references that are, and
`ZoneRules.IsSpaced.exists_reading_iff` says which readings the clocks show. -/
set_option autoImplicit false
namespace CronClock

/-! ## Getting an answer -/

namespace Schedule

/-- If the reference is on other clocks than the schedule's, its instant is in the calendar, and so is
what the schedule's clocks show then. -/
def Converts (schedule : Schedule) (reference : Moment) : Prop :=
  ∀ zone own, schedule.zone = some zone → reference.zone = some own → own.isSame zone = false →
    Wall.inCalendar (own.rules.instantOf reference.reading) = true ∧
      Wall.inCalendar (zone.rules.reading (own.rules.instantOf reference.reading)).wall = true

def wallOf (schedule : Schedule) (reference : Moment) : Int :=
  match schedule.zone, reference.zone with
  | some zone, some own =>
    if own.isSame zone then reference.wall
    else (zone.rules.reading (own.rules.instantOf reference.reading)).wall
  | _, _ => reference.wall

theorem localize?_cases (schedule : Schedule) (reference : Moment)
    (inside : Wall.inCalendar reference.wall = true) :
    (schedule.Converts reference ∧ ∃ start, schedule.localize? reference = .ok start ∧
        start.wall = schedule.wallOf reference ∧ Wall.inCalendar start.wall = true) ∨
      (¬ schedule.Converts reference ∧
        schedule.localize? reference = .error .outsideCalendar) := by
  cases placed : schedule.zone with
  | none =>
    refine .inl ⟨?_, reference, by simp [localize?, placed], by simp [wallOf, placed], inside⟩
    intro zone own zoned
    simp [placed] at zoned
  | some zone =>
    cases other : reference.zone with
    | none =>
      refine .inl ⟨?_, { reference with zone := some zone }, by simp [localize?, placed, other],
        by simp [wallOf, placed, other], inside⟩
      intro _ own _ owned
      simp [other] at owned
    | some own =>
      cases same : own.isSame zone with
      | true =>
        refine .inl ⟨?_, reference, by simp [localize?, placed, other, Moment.inZone?, same],
          by simp [wallOf, placed, other, same], inside⟩
        intro _ _ zoned owned differs
        cases placed.symm.trans zoned
        cases other.symm.trans owned
        simp [same] at differs
      | false =>
        have converts : schedule.Converts reference ↔
            Wall.inCalendar (own.rules.instantOf reference.reading) = true ∧
              Wall.inCalendar (zone.rules.reading (own.rules.instantOf reference.reading)).wall
                = true := by
          constructor
          · intro each
            exact each zone own placed other same
          · intro both _ _ zoned owned _
            cases placed.symm.trans zoned
            cases other.symm.trans owned
            exact both
        rw [converts, schedule.localize?_of_other zone own same placed reference other,
          Moment.instantIn?_eq_checked]
        by_cases located : Wall.inCalendar (own.rules.instantOf reference.reading) = true
        · simp only [Moment.checked, located, if_true, bind, Except.bind, Moment.atInstant?_eq,
            zone.reading_eq, true_and]
          by_cases shown : Wall.inCalendar
              (zone.rules.reading (own.rules.instantOf reference.reading)).wall = true
          · refine .inl ⟨shown, _, if_pos shown, ?_, shown⟩
            simp [wallOf, placed, other, same, Moment.ofReading]
          · exact .inr ⟨shown, if_neg shown⟩
        · refine .inr ⟨fun both => located both.1, ?_⟩
          simp [Moment.checked, located, bind, Except.bind]

theorem next?_of_fault (schedule : Schedule) (reference : Moment) (fault : TimeFault)
    (failed : schedule.localize? reference = .error fault) :
    schedule.next? reference = .error fault := by
  simp only [next?, failed, bind, Except.bind]

theorem next?_of_unrounded (schedule : Schedule) (reference start : Moment)
    (localized : schedule.localize? reference = .ok start) (candidates : List Candidate)
    (listed : schedule.timetable = .listed candidates) (nonempty : candidates ≠ []) (fault : TimeFault)
    (failed : start.wholeSecond? = .error fault) : schedule.next? reference = .error fault := by
  cases candidates with
  | nil => exact absurd rfl nonempty
  | cons head rest =>
    simp only [next?, localized, listed, bind, Except.bind, List.mapM_cons, Candidate.next?, failed]

/-- A schedule has an answer exactly if its reference, brought onto the schedule's clocks, stays in the
calendar and, if there are candidates to search for, so does the whole second from there on. The search
itself never fails, and leaving the calendar is the only fault. -/
theorem next?_answers_iff (schedule : Schedule) (reference : Moment)
    (inside : Wall.inCalendar reference.wall = true) :
    ((∃ answer, schedule.next? reference = .ok answer) ↔
        schedule.Converts reference ∧ (schedule.timetable = .anyTime ∨
          schedule.timetable = .listed [] ∨
          schedule.wallOf reference ≤ Wall.limit - Wall.second)) ∧
      ∀ fault, schedule.next? reference = .error fault → fault = .outsideCalendar := by
  rcases schedule.localize?_cases reference inside with
    ⟨converts, start, localized, wall, startInside⟩ | ⟨stuck, failed⟩
  · rw [← wall]
    cases timetable : schedule.timetable with
    | anyTime =>
      have given : schedule.next? reference = .ok (some start) := by
        simp only [next?, localized, timetable, bind, Except.bind]
        rfl
      simp [given, converts]
    | listed candidates =>
      by_cases empty : candidates = []
      · subst empty
        have given := schedule.next?_of_listed reference start localized [] timetable [] rfl
        simp [given, converts]
      · rcases start.wholeSecond?_cases startInside with ⟨early, whole, rounded⟩ | ⟨late, failed⟩
        · have given := schedule.next?_of_rounded reference start whole localized candidates timetable
            rounded
          simp [given, converts, early]
        · have given := schedule.next?_of_unrounded reference start localized candidates timetable
            empty _ failed
          simp [given, empty, late]
  · have given := schedule.next?_of_fault reference _ failed
    simp [given, stuck]

def noon : Schedule :=
  ⟨.listed [⟨some 0, some 0, some 12, none, none⟩], some .universal,
    some ⟨"0", "0", "12", "*", "*"⟩⟩

theorem next?_answers_lastSecond :
    noon.wallOf ⟨Wall.limit - Wall.second - Wall.hour, false, some (.bare (-Wall.hour))⟩
        = Wall.limit - Wall.second ∧
      ∃ answer, noon.next? ⟨Wall.limit - Wall.second - Wall.hour, false, some (.bare (-Wall.hour))⟩
        = .ok answer := by
  obtain ⟨answers, _⟩ := next?_answers_iff noon
    ⟨Wall.limit - Wall.second - Wall.hour, false, some (.bare (-Wall.hour))⟩ (by decide +kernel)
  have converts : noon.Converts
      ⟨Wall.limit - Wall.second - Wall.hour, false, some (.bare (-Wall.hour))⟩ := by
    intro zone own placed owned _
    cases placed
    cases owned
    exact ⟨by decide +kernel, by decide +kernel⟩
  have wall : noon.wallOf ⟨Wall.limit - Wall.second - Wall.hour, false, some (.bare (-Wall.hour))⟩
      = Wall.limit - Wall.second := by
    decide +kernel
  exact ⟨wall, answers.mpr ⟨converts, .inr (.inr (Int.le_of_eq wall))⟩⟩

/-- Half a second later there is no answer. -/
theorem next?_fails_pastLastSecond :
    ofText? (.ok (some .universal)) "0 0 12 * *" = .ok noon ∧
      Wall.inCalendar (Wall.limit - 500000) = true ∧
      noon.next? ⟨Wall.limit - 500000, false, none⟩ = .error .outsideCalendar :=
  ⟨by decide +kernel, by decide +kernel, by decide +kernel⟩

end Schedule

/-! ## Readings and marks -/

namespace ZoneRules

def IsSettled (rules : ZoneRules) (wall : Int) : Prop :=
  ∀ index shift, rules.shifts[index]? = some shift → (rules.thresholdOf index shift).earlier ≤ wall

/-- A reading that the clocks show at some instant, or any reading past all shifts, where a mark makes
no difference. -/
def IsProper (rules : ZoneRules) (given : Reading) : Prop :=
  (∃ instant, rules.reading instant = given) ∨ rules.IsSettled given.wall

theorem IsSettled.mono {rules : ZoneRules} {wall : Int} (settled : rules.IsSettled wall) (next : Int)
    (order : wall ≤ next) : rules.IsSettled next := by
  intro index shift found
  exact Int.le_trans (settled index shift found) order

theorem IsSettled.not_skips {rules : ZoneRules} {wall : Int} (settled : rules.IsSettled wall)
    (index : Nat) : ¬ rules.Skips index wall := by
  intro skipped
  obtain ⟨shift, found, _, before⟩ := skipped
  have past := settled index shift found
  simp only [thresholdOf] at past
  omega

section Spaced
variable {rules : ZoneRules} (spaced : rules.IsSpaced)
include spaced

theorem IsSpaced.shiftsShown_of_settled (given : Reading) (settled : rules.IsSettled given.wall) :
    rules.shiftsShown given = rules.shifts.length := by
  apply spaced.shiftsShown_eq given rules.shifts.length (Nat.le_refl _)
  · intro index shift found _
    have between := rules.thresholdOf_between index shift given.later
    have past := settled index shift found
    simp only [thresholdOf] at past between ⊢
    omega
  · intro shift found
    simp at found

theorem IsSpaced.reading_of_proper (given : Reading) (proper : rules.IsProper given) :
    (rules.reading (rules.instantOf given)).wall = given.wall ∧
      ((rules.reading (rules.instantOf given)).later = given.later ∨ rules.IsSettled given.wall) := by
  rcases proper with ⟨instant, read⟩ | settled
  · have back := spaced.instantOf_reading instant
    rw [read] at back
    rw [back, read]
    exact ⟨rfl, .inl rfl⟩
  · exact ⟨spaced.reading_instantOf given settled.not_skips, .inr settled⟩

/-- The clocks show a reading if its wall time is not skipped, and repeated if the reading is marked
later. -/
theorem IsSpaced.exists_reading_iff (given : Reading) :
    (∃ instant, rules.reading instant = given) ↔ rules.Shows given.wall ∧
      (given.later = true → ∃ index, rules.Repeats index given.wall) := by
  constructor
  · intro read
    obtain ⟨instant, rfl⟩ := read
    exact ⟨⟨instant, rfl⟩, spaced.exists_repeats_of_later instant⟩
  · intro shown
    obtain ⟨shows, repeats⟩ := shown
    have wall := spaced.reading_instantOf given (spaced.not_skips_of_shows given.wall shows)
    refine ⟨rules.instantOf given, ?_⟩
    by_cases repeated : ∃ index, rules.Repeats index given.wall
    · obtain ⟨index, member⟩ := repeated
      rw [Reading.mk.injEq]
      exact ⟨wall, spaced.reading_later_of_repeats index given member⟩
    · have unmarked : given.later = false := by
        by_contra later
        exact repeated (repeats (by simpa using later))
      have single : (rules.reading (rules.instantOf given)).later = false := by
        by_contra later
        have again := spaced.exists_repeats_of_later _ (by simpa using later)
        rw [wall] at again
        exact repeated again
      rw [Reading.mk.injEq]
      exact ⟨wall, single.trans unmarked.symm⟩

end Spaced
end ZoneRules

namespace Moment

def unmarked (moment : Moment) : Moment := { moment with later := false }

@[simp] theorem unmarked_wall (moment : Moment) : moment.unmarked.wall = moment.wall := rfl

@[simp] theorem unmarked_zone (moment : Moment) : moment.unmarked.zone = moment.zone := rfl

theorem unmarked_of_later (moment : Moment) (unmarked : moment.later = false) :
    moment.unmarked = moment := by
  rw [Moment.unmarked, ← unmarked]

theorem wholeSecond?_unmarked (moment : Moment) :
    moment.unmarked.wholeSecond? = moment.wholeSecond?.map unmarked := by
  simp only [wholeSecond?, unmarked_wall, plus?_eq]
  split
  · rfl
  · split <;> rfl

theorem nextShownMinute_unmarked (moment : Moment) :
    moment.unmarked.nextShownMinute = moment.nextShownMinute := by
  conv => lhs; rw [nextShownMinute]
  conv => rhs; rw [nextShownMinute]
  rfl

theorem map_nextShownMinute (moment : Moment) :
    moment.nextShownMinute.map unmarked = moment.nextShownMinute := by
  cases found : moment.nextShownMinute with
  | error fault => rfl
  | ok next =>
    obtain ⟨_, _, later, _⟩ := moment.nextShownMinute_spec next found
    simp only [Except.map, next.unmarked_of_later later]

section Settled
variable {zone : Zone} (spaced : zone.rules.IsSpaced) (moment : Moment)
  (placed : moment.zone = some zone) (settled : zone.rules.IsSettled moment.wall)
include spaced placed settled

omit placed in
theorem instantIn?_unmarked :
    instantIn? zone moment.unmarked.reading = instantIn? zone moment.reading := by
  have past : zone.rules.IsSettled moment.unmarked.reading.wall := settled
  have wall : moment.unmarked.reading.wall = moment.reading.wall := rfl
  simp only [instantIn?, zone.offsetShown_eq, ZoneRules.offsetShown,
    spaced.shiftsShown_of_settled moment.reading settled,
    spaced.shiftsShown_of_settled moment.unmarked.reading past, wall]

theorem instant?_unmarked (system : ZoneRules) :
    moment.unmarked.instant? system = moment.instant? system := by
  have same := instantIn?_unmarked spaced moment settled
  simp only [instant?, unmarked_zone, placed, same]

theorem isShown?_unmarked : moment.unmarked.isShown? = moment.isShown? := by
  have same := instantIn?_unmarked spaced moment settled
  simp only [isShown?, unmarked_zone, placed, same, unmarked_wall]

end Settled
end Moment

namespace Progress

def unmarked : Progress → Progress
  | arrived moment => arrived moment.unmarked
  | moved moment => moved moment.unmarked
  | lost => lost

theorem ofMove_map (outcome : Except TimeFault Moment) :
    ofMove (outcome.map Moment.unmarked) = (ofMove outcome).unmarked := by
  cases outcome <;> rfl

end Progress

namespace Moment

theorem atDate?_unmarked (date : Date) (moment : Moment) :
    moment.unmarked.atDate? date = (moment.atDate? date).map unmarked := by
  simp only [atDate?]
  split <;> rfl

theorem nextUnit?_unmarked (unit : Int) (moment : Moment) :
    moment.unmarked.nextUnit? unit = (moment.nextUnit? unit).map unmarked := by
  simp only [nextUnit?, plus?_eq, resetTo, unmarked_wall, unmarked_zone]
  split <;> rfl

theorem atCount?_unmarked (unit lesser count : Int) (moment : Moment) :
    moment.unmarked.atCount? unit lesser count = (moment.atCount? unit lesser count).map unmarked := by
  simp only [atCount?]
  split <;> rfl

end Moment

/-! ## A search without the mark -/

namespace Candidate

section Settled
variable (candidate : Candidate) {zone : Zone} (spaced : zone.rules.IsSpaced) (moment : Moment)
  (placed : moment.zone = some zone) (settled : zone.rules.IsSettled moment.wall)
include spaced placed settled

omit candidate in
theorem settle_unmarked : settle moment.unmarked = (settle moment).unmarked := by
  rw [settle, settle, Moment.isShown?_unmarked spaced moment placed settled]
  split
  · rfl
  · rw [moment.nextShownMinute_unmarked, ← Progress.ofMove_map, moment.map_nextShownMinute]
  · rfl

/-- A step looks at a moment's wall time alone and hands the mark on, or drops it. -/
theorem step_unmarked : candidate.step moment.unmarked = (candidate.step moment).unmarked := by
  unfold step
  simp only [Moment.unmarked_wall]
  split
  · simp only [enterMonth, Moment.unmarked_wall, Moment.atDate?_unmarked, Progress.ofMove_map]
    rfl
  · split
    · simp only [enterDay, Moment.unmarked_wall, Moment.atDate?_unmarked, Progress.ofMove_map]
      rfl
    · split
      · simp only [enterHour, Moment.unmarked_wall, Moment.atCount?_unmarked,
          Moment.nextUnit?_unmarked, ← Progress.ofMove_map]
        split <;> rfl
      · split
        · simp only [enterMinute, Moment.unmarked_wall, Moment.atCount?_unmarked,
            Moment.nextUnit?_unmarked, ← Progress.ofMove_map]
          split <;> rfl
        · split
          · simp only [enterSecond, Moment.unmarked_wall, Moment.atCount?_unmarked,
              Moment.nextUnit?_unmarked, ← Progress.ofMove_map]
            split <;> rfl
          · exact settle_unmarked spaced moment placed settled

theorem search_unmarked (steps : Nat) (inside : Wall.inCalendar moment.wall = true) :
    candidate.search steps moment.unmarked = (candidate.search steps moment).map Moment.unmarked := by
  induction steps generalizing moment with
  | zero => rfl
  | succ steps ih =>
    rw [search, search, candidate.step_unmarked spaced moment placed settled]
    cases step : candidate.step moment with
    | arrived found => rfl
    | moved next =>
      have advance := candidate.step_moved inside step
      exact ih next (advance.zone.trans placed)
        (settled.mono next.wall (Int.le_of_lt advance.forward)) advance.inside
    | lost => rfl

end Settled
end Candidate

namespace Schedule

theorem earliest_map (f : Moment → Moment) (keeps : ∀ moment, (f moment).wall = moment.wall)
    (results : List (Option Moment)) :
    earliest (results.map (Option.map f)) = (earliest results).map f := by
  induction results with
  | nil => rfl
  | cons head rest ih =>
    cases head with
    | none => exact ih
    | some moment =>
      simp only [List.map_cons, Option.map_some, earliest, ih]
      cases earliest rest with
      | none => rfl
      | some other =>
        simp only [Option.map_some, keeps]
        split <;> rfl

/-! ## One instant, one answer -/

/-- Both answers name moments of one instant, or both name none, or there is no answer alike. -/
def SameAnswer (system : ZoneRules) :
    Except TimeFault (Option Moment) → Except TimeFault (Option Moment) → Prop
  | .ok (some moment), .ok (some other) =>
    ∃ instant, moment.instant? system = .ok instant ∧ other.instant? system = .ok instant
  | .ok none, .ok none => True
  | .error fault, .error other => fault = other
  | _, _ => False

theorem sameAnswer_of_unmarked (system : ZoneRules) (answer other : Except TimeFault (Option Moment))
    (alike : answer.map (Option.map Moment.unmarked) = other.map (Option.map Moment.unmarked))
    (located : ∀ moment next, answer = .ok (some moment) → other = .ok (some next) →
      moment.unmarked = next.unmarked →
      ∃ instant, moment.instant? system = .ok instant ∧ next.instant? system = .ok instant) :
    SameAnswer system answer other := by
  cases answer with
  | error fault =>
    cases other with
    | error otherFault => exact Except.error.inj alike
    | ok next => simp [Except.map] at alike
  | ok moment =>
    cases other with
    | error fault => simp [Except.map] at alike
    | ok next =>
      simp only [Except.map, Except.ok.injEq] at alike
      cases moment with
      | none =>
        cases next with
        | none => trivial
        | some next => simp at alike
      | some moment =>
        cases next with
        | none => simp at alike
        | some next => exact located moment next rfl rfl (Option.some.inj alike)

section Listed
variable (system : ZoneRules) (schedule : Schedule) (candidates : List Candidate)
  (listed : schedule.timetable = .listed candidates) {zone : Zone} (spaced : zone.rules.IsSpaced)
  (reference start : Moment) (localized : schedule.localize? reference = .ok start)
  (placed : start.zone = some zone) (inside : Wall.inCalendar start.wall = true)
include listed localized placed inside

theorem next?_located (moment : Moment) (given : schedule.next? reference = .ok (some moment)) :
    moment.zone = some zone ∧ start.wall ≤ moment.wall ∧
      ∃ instant, moment.instant? system = .ok instant := by
  obtain ⟨other, again, named⟩ := schedule.next?_eq_some reference moment given
  cases localized.symm.trans again
  rcases named with ⟨anyTime, _⟩ | ⟨_, candidate, _, _, result⟩
  · simp [listed] at anyTime
  · obtain ⟨whole, rounded, _, finds⟩ := candidate.next?_finds start moment inside result
    obtain ⟨_, sameZone, after, _, _⟩ := start.wholeSecond?_eq_ok whole rounded
    have momentZone : moment.zone = some zone := finds.zone.trans (sameZone.trans placed)
    obtain ⟨instant, located, _⟩ := Moment.shown_of_isShown? zone moment momentZone finds.shown
    exact ⟨momentZone, Int.le_trans after finds.le, instant,
      (moment.instant?_of_zone system zone momentZone).trans located⟩

include spaced in
theorem map_next?_of_settled (settled : zone.rules.IsSettled start.wall) (nonempty : candidates ≠ []) :
    (schedule.next? reference).map (Option.map Moment.unmarked)
      = start.unmarked.wholeSecond?.map fun whole =>
        earliest (candidates.map fun candidate => candidate.search Candidate.stepLimit whole) := by
  rw [start.wholeSecond?_unmarked]
  cases rounded : start.wholeSecond? with
  | error fault =>
    rw [schedule.next?_of_unrounded reference start localized candidates listed nonempty fault rounded]
    rfl
  | ok whole =>
    obtain ⟨_, sameZone, after, _, _⟩ := start.wholeSecond?_eq_ok whole rounded
    have wholeInside := start.wholeSecond?_inCalendar whole inside rounded
    have unmarked := fun candidate : Candidate => candidate.search_unmarked spaced whole
      (sameZone.trans placed) (settled.mono whole.wall after) Candidate.stepLimit wholeInside
    rw [schedule.next?_of_rounded reference start whole localized candidates listed rounded]
    simp only [Except.map, unmarked, ← earliest_map Moment.unmarked Moment.unmarked_wall, List.map_map]
    rfl

include spaced in
/-- Two references whose searches set out from one wall time have the same answer, if the marks are the
same too or if all shifts are past. -/
theorem sameAnswer_of_starts (other another : Moment)
    (otherLocalized : schedule.localize? other = .ok another) (otherPlaced : another.zone = some zone)
    (wall : start.wall = another.wall)
    (mark : start.later = another.later ∨ zone.rules.IsSettled start.wall) :
    SameAnswer system (schedule.next? reference) (schedule.next? other) := by
  have located := schedule.next?_located system candidates listed reference start localized placed
    inside
  have otherLocated := schedule.next?_located system candidates listed other another otherLocalized
    otherPlaced (wall ▸ inside)
  rcases mark with later | settled
  · have same : start = another := by
      rw [Moment.mk.injEq]
      exact ⟨wall, later, placed.trans otherPlaced.symm⟩
    have alike : schedule.next? reference = schedule.next? other := by
      rw [next?, next?, localized, otherLocalized, same]
    apply sameAnswer_of_unmarked
    · rw [alike]
    · intro moment next given otherGiven _
      obtain ⟨_, _, instant, found⟩ := located moment given
      rw [alike, otherGiven] at given
      cases given
      exact ⟨instant, found, found⟩
  · have unmarked : start.unmarked = another.unmarked := by
      rw [Moment.mk.injEq]
      exact ⟨wall, rfl, placed.trans otherPlaced.symm⟩
    apply sameAnswer_of_unmarked
    · by_cases nonempty : candidates ≠ []
      · rw [schedule.map_next?_of_settled candidates listed spaced reference start localized placed inside
            settled nonempty, schedule.map_next?_of_settled candidates listed spaced other another
            otherLocalized otherPlaced (wall ▸ inside) (wall ▸ settled) nonempty, unmarked]
      · rw [not_not] at nonempty
        subst nonempty
        rw [schedule.next?_of_listed reference start localized [] listed [] rfl,
          schedule.next?_of_listed other another otherLocalized [] listed [] rfl]
    · intro moment next given otherGiven same
      obtain ⟨momentZone, ahead, instant, found⟩ := located moment given
      obtain ⟨nextZone, _, _⟩ := otherLocated next otherGiven
      have momentSettled := settled.mono moment.wall ahead
      have nextSettled : zone.rules.IsSettled next.wall := by
        rw [← next.unmarked_wall, ← same]
        exact momentSettled
      refine ⟨instant, found, ?_⟩
      rw [← Moment.instant?_unmarked spaced next nextZone nextSettled system, ← same,
        Moment.instant?_unmarked spaced moment momentZone momentSettled system, found]

end Listed

/-- A reference on other clocks, or a proper reading of the schedule's own, comes to what the schedule's
clocks show at its instant, but for a mark past all shifts. -/
theorem localize?_of_instant (system : ZoneRules) (schedule : Schedule) (zone : Zone)
    (placed : schedule.zone = some zone) (spaced : zone.rules.IsSpaced) (reference : Moment)
    (own : Zone) (aware : reference.zone = some own)
    (inside : Wall.inCalendar reference.wall = true)
    (proper : own.isSame zone = true → zone.rules.IsProper reference.reading) (instant : Int)
    (located : reference.instant? system = .ok instant) :
    (∃ start, schedule.localize? reference = .ok start ∧ start.zone = some zone ∧
        Wall.inCalendar start.wall = true ∧ start.wall = (zone.rules.reading instant).wall ∧
        (start.later = (zone.rules.reading instant).later ∨ zone.rules.IsSettled start.wall)) ∨
      (¬ Wall.inCalendar (zone.rules.reading instant).wall = true ∧
        schedule.localize? reference = .error .outsideCalendar) := by
  cases same : own.isSame zone with
  | true =>
    cases own.eq_of_isSame zone same
    have instantOf : instant = zone.rules.instantOf reference.reading := by
      rw [reference.instant?_eq_checked system zone aware, Moment.checked] at located
      split at located
      · cases located
        rfl
      · cases located
    obtain ⟨wall, mark⟩ := spaced.reading_of_proper reference.reading (proper same)
    rw [← instantOf] at wall mark
    exact .inl ⟨reference, schedule.localize?_of_own zone same placed reference aware, aware, inside,
      wall.symm, mark.imp_left Eq.symm⟩
  | false =>
    have read := schedule.localize?_of_other zone own same placed reference aware
    rw [← reference.instant?_of_zone system own aware, located] at read
    change _ = Moment.atInstant? zone instant at read
    rw [read, Moment.atInstant?_eq, zone.reading_eq]
    by_cases shown : Wall.inCalendar (zone.rules.reading instant).wall = true
    · exact .inl ⟨_, if_pos shown, rfl, shown, rfl, .inl rfl⟩
    · exact .inr ⟨shown, if_neg shown⟩

/-- Two references with one instant have the same answer, whatever their zones. If one of them is on the
schedule's own clocks, it has to be a reading that those show at some instant, or lie past all their
shifts. -/
theorem next?_of_sameInstant (system : ZoneRules) (schedule : Schedule) (candidates : List Candidate)
    (listed : schedule.timetable = .listed candidates) (zone : Zone)
    (placed : schedule.zone = some zone) (spaced : zone.rules.IsSpaced) (reference other : Moment)
    (own another : Zone) (aware : reference.zone = some own) (otherAware : other.zone = some another)
    (inside : Wall.inCalendar reference.wall = true) (otherInside : Wall.inCalendar other.wall = true)
    (proper : own.isSame zone = true → zone.rules.IsProper reference.reading)
    (otherProper : another.isSame zone = true → zone.rules.IsProper other.reading) (instant : Int)
    (located : reference.instant? system = .ok instant)
    (otherLocated : other.instant? system = .ok instant) :
    SameAnswer system (schedule.next? reference) (schedule.next? other) := by
  rcases schedule.localize?_of_instant system zone placed spaced reference own aware inside proper instant
    located with ⟨start, localized, startZone, startInside, wall, mark⟩ | ⟨outside, failed⟩
  · rcases schedule.localize?_of_instant system zone placed spaced other another otherAware otherInside
      otherProper instant otherLocated with
      ⟨next, otherLocalized, nextZone, _, nextWall, nextMark⟩ | ⟨outside, _⟩
    · apply schedule.sameAnswer_of_starts system candidates listed spaced reference start localized
        startZone startInside other next otherLocalized nextZone (wall.trans nextWall.symm)
      rcases mark with later | settled
      · rcases nextMark with nextLater | nextSettled
        · exact .inl (later.trans nextLater.symm)
        · exact .inr (by rw [wall, ← nextWall]; exact nextSettled)
      · exact .inr settled
    · rw [wall] at startInside
      exact absurd startInside outside
  · rcases schedule.localize?_of_instant system zone placed spaced other another otherAware otherInside
      otherProper instant otherLocated with ⟨next, _, _, nextInside, nextWall, _⟩ | ⟨_, otherFailed⟩
    · rw [nextWall] at nextInside
      exact absurd nextInside outside
    · rw [schedule.next?_of_fault reference _ failed, schedule.next?_of_fault other _ otherFailed]
      rfl

theorem next?_of_sameInstant_secondPass :
    SameAnswer .universal (minutely.next? ⟨Wall.ofTime ⟨2021, 10, 31⟩ 2 15 30 0, true, some .setBack⟩)
      (minutely.next? ⟨Wall.ofTime ⟨2021, 10, 31⟩ 1 15 30 0, false, some .universal⟩) :=
  next?_of_sameInstant .universal minutely [⟨some 0, none, none, none, none⟩] rfl .setBack rfl
    ⟨by decide, by decide, by decide⟩ _ _ .setBack .universal rfl rfl (by decide +kernel)
    (by decide +kernel) (fun _ => .inl ⟨Wall.ofTime ⟨2021, 10, 31⟩ 1 15 30 0, by decide +kernel⟩)
    (fun same => absurd same (by decide)) (Wall.ofTime ⟨2021, 10, 31⟩ 1 15 30 0) (by decide +kernel)
    (by decide +kernel)

end Schedule

def Zone.setAhead : Zone := .named "Zone" (.ofSeconds 3600 [(1616893200, 7200)])

namespace Schedule

def hourly : Schedule :=
  ⟨.listed [⟨some 0, some 0, none, none, none⟩], some .setAhead, none⟩

/-- Half past two is skipped and taken for an instant that reads half past three. The search from the
one comes to three o'clock, from the other to four, an hour later. -/
theorem next?_differs_atSkipped :
    ofCandidates? (some .setAhead) none [⟨some 0, some 0, none, none, none⟩] = .ok hourly ∧
      Moment.instant? .universal ⟨Wall.ofTime ⟨2021, 3, 28⟩ 2 30 0 0, false, some .setAhead⟩
        = .ok (Wall.ofTime ⟨2021, 3, 28⟩ 1 30 0 0) ∧
      Moment.instant? .universal ⟨Wall.ofTime ⟨2021, 3, 28⟩ 1 30 0 0, false, some .universal⟩
        = .ok (Wall.ofTime ⟨2021, 3, 28⟩ 1 30 0 0) ∧
      ¬ SameAnswer .universal (hourly.next? ⟨Wall.ofTime ⟨2021, 3, 28⟩ 2 30 0 0, false, some .setAhead⟩)
        (hourly.next? ⟨Wall.ofTime ⟨2021, 3, 28⟩ 1 30 0 0, false, some .universal⟩) := by
  refine ⟨by decide +kernel, by decide +kernel, by decide +kernel, ?_⟩
  have fromSkipped : hourly.next? ⟨Wall.ofTime ⟨2021, 3, 28⟩ 2 30 0 0, false, some .setAhead⟩
      = .ok (some ⟨Wall.ofTime ⟨2021, 3, 28⟩ 3 0 0 0, false, some .setAhead⟩) := by
    decide +kernel
  have fromInstant : hourly.next? ⟨Wall.ofTime ⟨2021, 3, 28⟩ 1 30 0 0, false, some .universal⟩
      = .ok (some ⟨Wall.ofTime ⟨2021, 3, 28⟩ 4 0 0 0, false, some .setAhead⟩) := by
    decide +kernel
  have three : Moment.instant? .universal ⟨Wall.ofTime ⟨2021, 3, 28⟩ 3 0 0 0, false, some .setAhead⟩
      = .ok (Wall.ofTime ⟨2021, 3, 28⟩ 1 0 0 0) := by
    decide +kernel
  have four : Moment.instant? .universal ⟨Wall.ofTime ⟨2021, 3, 28⟩ 4 0 0 0, false, some .setAhead⟩
      = .ok (Wall.ofTime ⟨2021, 3, 28⟩ 2 0 0 0) := by
    decide +kernel
  rw [fromSkipped, fromInstant]
  intro same
  obtain ⟨instant, found, otherFound⟩ := same
  cases three.symm.trans found
  exact absurd (four.symm.trans otherFound) (by decide +kernel)

end Schedule
end CronClock
