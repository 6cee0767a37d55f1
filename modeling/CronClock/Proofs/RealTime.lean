import CronClock.Proofs.NextExact
import CronClock.Proofs.SystemTime

/-! # The next moment in universal time

A search goes on along the wall, and a wall time that comes up twice has two instants. Within a
repeated stretch the search therefore leads back in universal time exactly if it sets out from a later
reading and drops the mark of it, `Schedule.instantOf_lt_iff_turnsBack`; from everywhere else the next
moment is not before its reference. -/
set_option autoImplicit false
namespace CronClock

/-! ## The rules of all clocks -/

def Zone.rules : Zone → ZoneRules
  | universal => .universal
  | fixed offset => { initial := offset, shifts := [] }
  | bare offset => { initial := offset, shifts := [] }
  | named _ rules => rules

def rulesOf (system : ZoneRules) : Option Zone → ZoneRules
  | none => system
  | some zone => zone.rules

theorem ZoneRules.offsetAfter_of_still (rules : ZoneRules) (still : rules.shifts = []) (count : Nat) :
    rules.offsetAfter count = rules.initial := by
  cases count <;> simp [offsetAfter, still]

theorem ZoneRules.reading_of_still (rules : ZoneRules) (still : rules.shifts = []) (instant : Int) :
    rules.reading instant = ⟨instant + rules.initial, false⟩ := by
  have passed : rules.shiftsPassed instant = 0 := by simp [shiftsPassed, still]
  simp [reading, passed, rules.offsetAfter_of_still still, repeatsAfter]

theorem Zone.reading_eq (zone : Zone) (instant : Int) :
    zone.reading instant = zone.rules.reading instant := by
  cases zone with
  | named name rules => rfl
  | _ => simp [Zone.reading, Zone.rules, ZoneRules.universal, ZoneRules.reading_of_still]

theorem Zone.offsetShown_eq (zone : Zone) (given : Reading) :
    zone.offsetShown given = zone.rules.offsetShown given := by
  cases zone with
  | named name rules => rfl
  | _ =>
    simp [Zone.offsetShown, Zone.rules, ZoneRules.universal, ZoneRules.offsetShown,
      ZoneRules.offsetAfter_of_still]

namespace Moment

theorem instantIn?_eq_checked (zone : Zone) (given : Reading) :
    instantIn? zone given = checked (zone.rules.instantOf given) := by
  rw [instantIn?, zone.offsetShown_eq]
  rfl

theorem instant?_eq_checked (system : ZoneRules) (zone : Zone) (moment : Moment)
    (placed : moment.zone = some zone) :
    moment.instant? system = checked (zone.rules.instantOf moment.reading) := by
  rw [instant?_of_zone system zone moment placed, instantIn?_eq_checked]

theorem instant?_of_system (system : ZoneRules) (moment : Moment) (placed : moment.zone = none)
    (instant : Int) :
    moment.instant? system = .ok instant ↔
      system.systemInstant? moment.reading = .ok instant ∧ Wall.inCalendar instant = true := by
  simp only [instant?, placed, bind_eq_ok, checked]
  constructor
  · intro located
    obtain ⟨found, given, located⟩ := located
    split at located
    · next inside =>
      cases located
      exact ⟨given, inside⟩
    · cases located
  · intro located
    obtain ⟨given, inside⟩ := located
    exact ⟨instant, given, if_pos inside⟩

theorem eq_instantOf (system : ZoneRules) (moment : Moment)
    (spaced : (rulesOf system moment.zone).IsSpaced) (gradual : moment.zone = none → system.IsGradual)
    (shown : (rulesOf system moment.zone).Shows moment.wall) (instant : Int)
    (located : moment.instant? system = .ok instant) :
    instant = (rulesOf system moment.zone).instantOf moment.reading := by
  cases placed : moment.zone with
  | none =>
    rw [placed] at spaced shown
    obtain ⟨given, _⟩ := (moment.instant?_of_system system placed instant).mp located
    exact ZoneRules.IsSpaced.systemInstant?_of_unskipped spaced (gradual placed) moment.reading instant
      ((spaced.shows_iff _).mp shown) given
  | some zone =>
    rw [instant?_eq_checked system zone moment placed, checked] at located
    split at located
    · cases located
      rfl
    · cases located

theorem shows_of_isShown? (system : ZoneRules) (zone : Zone) (moment : Moment)
    (placed : moment.zone = some zone) (shown : moment.isShown? = .ok true) :
    (rulesOf system moment.zone).Shows moment.wall := by
  rw [placed]
  obtain ⟨instant, _, _, back⟩ := shown_of_isShown? zone moment placed shown
  exact ⟨instant, by rw [← back, zone.reading_eq]; rfl⟩

theorem isShown?_ne_false (system : ZoneRules) (wall : Int) (later : Bool) (zone : Option Zone)
    (spaced : (rulesOf system zone).IsSpaced) (shows : (rulesOf system zone).Shows wall) :
    Moment.isShown? ⟨wall, later, zone⟩ ≠ .ok false := by
  intro hidden
  cases zone with
  | none => simp [isShown?] at hidden
  | some zone =>
    simp only [isShown?] at hidden
    rw [bind_eq_ok] at hidden
    obtain ⟨instant, located, hidden⟩ := hidden
    rw [bind_eq_ok] at hidden
    obtain ⟨back, returned, differs⟩ := hidden
    rw [pure_eq_ok] at differs
    have unskipped := (spaced.shows_iff wall).mp shows
    have same := spaced.reading_instantOf ⟨wall, later⟩ unskipped
    rw [atInstant?_eq] at returned
    split at returned
    · cases returned
      rw [instantIn?_eq] at located
      split at located
      · cases located
        rw [zone.offsetShown_eq, zone.reading_eq] at differs
        simp only [ofReading, beq_eq_false_iff_ne] at differs
        exact differs same
      · cases located
    · simp at returned

end Moment

/-! ## The schedule's own clock -/

namespace Schedule

def rules (system : ZoneRules) (schedule : Schedule) : ZoneRules := rulesOf system schedule.zone

/-- The clocks that the schedule goes by have their shifts apart, and if they are the machine's, no
shift moves them by more than a day. -/
structure IsClocked (system : ZoneRules) (schedule : Schedule) : Prop where
  spaced : (schedule.rules system).IsSpaced
  gradual : schedule.zone = none → system.IsGradual

theorem IsClocked.of_zone {system : ZoneRules} {schedule : Schedule} {zone : Zone}
    (placed : schedule.zone = some zone) (spaced : zone.rules.IsSpaced) :
    schedule.IsClocked system := by
  constructor
  · rw [rules, placed]
    exact spaced
  · intro none
    cases none.symm.trans placed

section Clocked
variable (system : ZoneRules) (schedule : Schedule) (clocks : schedule.IsClocked system) (now : Int)
  (reference : Moment) (clocked : schedule.clock? system now = .ok reference)
include clocks clocked

theorem clock?_eq_ok :
    reference.reading = (schedule.rules system).reading now ∧ reference.zone = schedule.zone ∧
      Wall.inCalendar reference.wall = true := by
  have spaced := clocks.spaced
  cases placed : schedule.zone with
  | none =>
    rw [rules, placed] at spaced ⊢
    simp only [clock?, placed] at clocked
    split at clocked
    · next inside =>
      cases clocked
      exact ⟨ZoneRules.IsSpaced.systemReading_eq spaced (clocks.gradual placed) now, rfl, inside⟩
    · cases clocked
  | some zone =>
    simp only [clock?, placed, Moment.atInstant?_eq] at clocked
    split at clocked
    · next inside =>
      cases clocked
      refine ⟨?_, rfl, inside⟩
      rw [rules, placed, rulesOf, ← zone.reading_eq]
      rfl
    · cases clocked

/-- What the schedule's clock shows has the instant that it was read at. -/
theorem instant?_of_clock? (instant : Int) (located : reference.instant? system = .ok instant) :
    instant = now := by
  obtain ⟨read, sameZone, _⟩ := schedule.clock?_eq_ok system clocks now reference clocked
  have spaced := clocks.spaced
  have shown : (schedule.rules system).Shows reference.wall := ⟨now, by rw [← read]; rfl⟩
  rw [rules, ← sameZone] at spaced shown
  have gradual : reference.zone = none → system.IsGradual := by
    intro none
    exact clocks.gradual (sameZone.symm.trans none)
  rw [reference.eq_instantOf system spaced gradual shown instant located, read, sameZone]
  exact clocks.spaced.instantOf_reading now

variable (inside : Wall.inCalendar now = true)
include inside

theorem instantIn?_of_clock? (zone : Zone) (placed : schedule.zone = some zone) :
    Moment.instantIn? zone reference.reading = .ok now := by
  obtain ⟨read, _, _⟩ := schedule.clock?_eq_ok system clocks now reference clocked
  have spaced := clocks.spaced
  rw [rules, placed, rulesOf] at spaced read
  have back : reference.reading.wall - zone.offsetShown reference.reading = now := by
    rw [zone.offsetShown_eq, read]
    exact spaced.instantOf_reading now
  rw [Moment.instantIn?_eq, back]
  exact if_pos inside

theorem localize?_of_clock? : schedule.localize? reference = .ok reference := by
  obtain ⟨_, sameZone, _⟩ := schedule.clock?_eq_ok system clocks now reference clocked
  cases placed : schedule.zone with
  | none => simp [localize?, placed]
  | some zone =>
    have located := schedule.instantIn?_of_clock? system clocks now reference clocked inside zone placed
    have own : reference.zone = some zone := sameZone.trans placed
    simp only [clock?, placed] at clocked
    simp only [localize?, placed, own, Moment.inZone?, located]
    split
    · rfl
    · exact clocked

end Clocked

/-! ## Turning back -/

/-- On the way from a wall time to the next moment's the search drops the mark of a later reading: it
does so to round up to a whole second, and to carry into the next minute, hour or day. -/
def DropsMark (schedule : Schedule) (wall next : Int) : Prop :=
  ∃ candidates, schedule.timetable = .listed candidates ∧ (¬ Wall.IsWhole wall ∨
    ∃ candidate ∈ candidates, candidate.Agrees next ∧ candidate.IsPast wall)

/-- The reference is the later reading of a repeated wall time, and the search drops the mark of it on
the way to a moment in the same stretch. -/
def TurnsBack (system : ZoneRules) (schedule : Schedule) (reference moment : Moment) : Prop :=
  reference.later = true ∧ (schedule.rules system).RepeatsBoth reference.wall moment.wall ∧
    schedule.DropsMark reference.wall moment.wall

def IsSingle (schedule : Schedule) : Prop :=
  ∀ candidates, schedule.timetable = .listed candidates → ∀ candidate ∈ candidates,
    ∀ other ∈ candidates, ∀ wall, candidate.Agrees wall → other.Agrees wall → candidate = other

/-- The candidates of one text fix the same fields, so those that agree with one wall time are equal. -/
theorem isSingle_ofText? (zone : Except ZoneFault (Option Zone)) (text : String) (schedule : Schedule)
    (built : ofText? zone text = .ok schedule) : schedule.IsSingle := by
  obtain ⟨_, expression, expansions, _, _, follows⟩ := ofText?_eq_ok zone text schedule built
  intro candidates listed candidate member other otherMember wall agrees otherAgrees
  unfold Follows at follows
  split at follows
  · simp [listed] at follows
  · obtain ⟨kept, possible, timetable⟩ := follows
    cases listed.symm.trans timetable
    have combined := ((mem_possibleOnly? _ _ possible candidate).mp member).1
    have otherCombined := ((mem_possibleOnly? _ _ possible other).mp otherMember).1
    refine PerField.ext_get fun field => ?_
    have offered := (Candidate.mem_combinations expansions candidate).mp combined field
    have otherOffered := (Candidate.mem_combinations expansions other).mp otherCombined field
    cases expansion : expansions.get field with
    | every =>
      rw [expansion] at offered otherOffered
      exact offered.trans otherOffered.symm
    | only values =>
      rw [expansion] at offered otherOffered
      obtain ⟨value, _, entry⟩ := offered
      obtain ⟨otherValue, _, otherEntry⟩ := otherOffered
      rw [entry, otherEntry, ← agrees field value entry, ← otherAgrees field otherValue otherEntry]

section Turning
variable (system : ZoneRules) (schedule : Schedule) (clocks : schedule.IsClocked system) (now : Int)
  (inside : Wall.inCalendar now = true) (reference : Moment)
  (clocked : schedule.clock? system now = .ok reference) (moment : Moment)
  (given : schedule.next? reference = .ok (some moment))
include clocks inside clocked given

theorem next?_cases :
    (schedule.timetable = .anyTime ∧ moment = reference) ∨
      ∃ candidates candidate start, schedule.timetable = .listed candidates ∧
        candidate ∈ candidates ∧ reference.wholeSecond? = .ok start ∧
        candidate.search Candidate.stepLimit start = some moment ∧ candidate.Finds start moment := by
  have localized := schedule.localize?_of_clock? system clocks now reference clocked inside
  obtain ⟨_, _, insideToo⟩ := schedule.clock?_eq_ok system clocks now reference clocked
  obtain ⟨start, again, named⟩ := schedule.next?_eq_some reference moment given
  cases localized.symm.trans again
  rcases named with anyTime | ⟨candidates, candidate, listed, member, result⟩
  · exact .inl anyTime
  · obtain ⟨start, rounded, searched, finds⟩ :=
      candidate.next?_finds reference moment insideToo result
    exact .inr ⟨candidates, candidate, start, listed, member, rounded, searched, finds⟩

theorem next?_shown : moment.zone = schedule.zone ∧
    (schedule.zone ≠ none → (schedule.rules system).Shows moment.wall) ∧
    reference.wall ≤ moment.wall := by
  obtain ⟨read, sameZone, _⟩ := schedule.clock?_eq_ok system clocks now reference clocked
  rcases schedule.next?_cases system clocks now inside reference clocked moment given with
    ⟨_, rfl⟩ | ⟨_, candidate, start, _, _, rounded, _, finds⟩
  · exact ⟨sameZone, fun _ => ⟨now, by rw [← read]; rfl⟩, Int.le_refl _⟩
  · obtain ⟨_, startZone, after, _⟩ := reference.wholeSecond?_eq_ok start rounded
    have zone : moment.zone = schedule.zone := finds.zone.trans (startZone.trans sameZone)
    refine ⟨zone, ?_, Int.le_trans after finds.le⟩
    intro placed
    obtain ⟨own, placed⟩ := Option.ne_none_iff_exists'.mp placed
    have shows := moment.shows_of_isShown? system own (zone.trans placed) finds.shown
    rwa [zone] at shows

/-- A next moment that the clocks show lies before the instant of its reference exactly if the search
turns back. -/
theorem instantOf_lt_iff_turnsBack (sound : schedule.IsSound) (single : schedule.IsSingle)
    (shown : (schedule.rules system).Shows moment.wall) :
    (schedule.rules system).instantOf moment.reading < now ↔
      schedule.TurnsBack system reference moment := by
  have spaced := clocks.spaced
  obtain ⟨read, sameZone, insideToo⟩ := schedule.clock?_eq_ok system clocks now reference clocked
  have wall : ((schedule.rules system).reading now).wall = reference.wall := by rw [← read]; rfl
  have mark : ((schedule.rules system).reading now).later = reference.later := by rw [← read]; rfl
  obtain ⟨zone, _, order⟩ :=
    schedule.next?_shown system clocks now inside reference clocked moment given
  rcases schedule.next?_cases system clocks now inside reference clocked moment given with
    ⟨anyTime, same⟩ | ⟨candidates, candidate, start, listed, member, rounded, searched, finds⟩
  · have unmoved : (schedule.rules system).instantOf moment.reading = now := by
      rw [same, read]
      exact spaced.instantOf_reading now
    have keeps : ¬ schedule.TurnsBack system reference moment := by
      rintro ⟨_, _, candidates, listed, _⟩
      simp [anyTime] at listed
    simp only [keeps, iff_false]
    omega
  · obtain ⟨whole, startZone, after, near, startLater⟩ := reference.wholeSecond?_eq_ok start rounded
    have back := spaced.instantOf_lt_iff now moment.reading shown (by rw [wall]; exact order)
    refine back.trans ?_
    rw [wall, mark, TurnsBack]
    refine and_congr_right fun later => ?_
    rw [and_comm]
    refine and_congr_right fun repeats => ?_
    obtain ⟨index, repeated, momentRepeated⟩ := repeats
    -- Both wall times lie in one repeated stretch, where the search meets no skipped wall time.
    have unskipped : ∀ between mark, start.wall ≤ between → between ≤ moment.wall →
        Moment.isShown? ⟨between, mark, start.zone⟩ ≠ .ok false := by
      intro between mark since before
      rw [startZone, sameZone]
      refine Moment.isShown?_ne_false system between mark schedule.zone spaced ?_
      obtain ⟨shift, found, begins, _⟩ := repeated
      obtain ⟨other, otherFound, _, ends⟩ := momentRepeated
      cases Option.some.inj (found.symm.trans otherFound)
      exact spaced.shows_of_repeats index between
        ⟨shift, found, by omega, Int.lt_of_le_of_lt before ends⟩
    have startInside := reference.wholeSecond?_inCalendar start insideToo rounded
    have kept := Candidate.search_later_iff (sound candidates listed candidate member).1
      Candidate.stepLimit start moment startInside whole searched unskipped
    have unmarked : moment.reading.later = false ↔ ¬ (start.later = true ∧
        ¬ candidate.IsPast start.wall) := by
      rw [← kept]
      simp [Moment.reading]
    rw [unmarked, startLater, later]
    by_cases wholeReference : Wall.IsWhole reference.wall
    · have sameWall : start.wall = reference.wall := by
        simp only [Wall.IsWhole, Wall.microsecond, Wall.second] at whole wholeReference near
        omega
      simp only [wholeReference, decide_true, Bool.and_self, true_and, not_not, sameWall]
      constructor
      · intro past
        exact ⟨candidates, listed, .inr ⟨candidate, member, finds.agrees, past⟩⟩
      · rintro ⟨others, otherListed, broken | ⟨other, otherMember, agrees, past⟩⟩
        · exact absurd wholeReference broken
        · cases listed.symm.trans otherListed
          have same := single candidates listed candidate member other otherMember moment.wall
            finds.agrees agrees
          rw [same]
          exact past
    · simp only [wholeReference, decide_false, Bool.and_false, Bool.false_eq_true, false_and,
        not_false_eq_true, true_iff]
      exact ⟨candidates, listed, .inl wholeReference⟩

end Turning

section Until
variable (system : ZoneRules) (choice : Except ZoneFault (Option Zone)) (text : String)
  (schedule : Schedule) (built : ofText? choice text = .ok schedule) (zone : Zone)
  (placed : schedule.zone = some zone) (spaced : zone.rules.IsSpaced) (instant : Int)
  (inside : Wall.inCalendar instant = true) (reference : Moment) (read : Moment.atInstant? zone instant = .ok reference)
include built placed spaced inside read

theorem untilNext?_of_next? (moment : Moment) (given : schedule.next? reference = .ok (some moment)) :
    ∃ next, moment.instant? system = .ok next ∧
      schedule.untilNext? system reference = .ok (some (next - instant)) ∧
      (next < instant ↔ schedule.TurnsBack system reference moment) := by
  have clocks : schedule.IsClocked system := .of_zone placed spaced
  have clocked : schedule.clock? system instant = .ok reference := by
    rw [clock?, placed]
    exact read
  obtain ⟨_, sameZone, _⟩ := schedule.clock?_eq_ok system clocks instant reference clocked
  have located := reference.instant?_of_zone system zone (sameZone.trans placed)
  rw [schedule.instantIn?_of_clock? system clocks instant reference clocked inside zone placed]
    at located
  have localized := schedule.localize?_of_clock? system clocks instant reference clocked inside
  obtain ⟨momentZone, shown, _⟩ :=
    schedule.next?_shown system clocks instant inside reference clocked moment given
  have hasInstant : ∃ next, moment.instant? system = .ok next := by
    rcases schedule.next?_cases system clocks instant inside reference clocked moment given with
      ⟨_, rfl⟩ | ⟨_, candidate, start, _, _, rounded, _, finds⟩
    · exact ⟨instant, located⟩
    · obtain ⟨next, found, _⟩ :=
        Moment.shown_of_isShown? zone moment (momentZone.trans placed) finds.shown
      exact ⟨next, (moment.instant?_of_zone system zone (momentZone.trans placed)).trans found⟩
  obtain ⟨next, found⟩ := hasInstant
  refine ⟨next, found, ?_, ?_⟩
  · simp only [untilNext?, localized, bind, Except.bind, given, Moment.elapsed?, found, located]
    rfl
  · have unhidden : (schedule.rules system).Shows moment.wall := shown (by simp [placed])
    have instantOf := moment.eq_instantOf system (by rw [momentZone]; exact clocks.spaced)
      (by simp [momentZone, placed]) (by rw [momentZone]; exact unhidden) next found
    rw [momentZone] at instantOf
    rw [instantOf]
    exact schedule.instantOf_lt_iff_turnsBack system clocks instant inside reference clocked moment
      given (isSound_ofText? choice text schedule built) (isSingle_ofText? choice text schedule built)
      unhidden

/-- From the reading of an instant on, the next moment is not before the instant and the time until it
is not negative, exactly if the search does not turn back. -/
theorem untilNext?_nonnegative_iff (answer : Option Moment)
    (given : schedule.next? reference = .ok answer) :
    ((∀ moment, answer = some moment →
          ∃ next, moment.instant? system = .ok next ∧ instant ≤ next) ∧
        ∃ span, schedule.untilNext? system reference = .ok span ∧
          ∀ length, span = some length → 0 ≤ length) ↔
      ∀ moment, answer = some moment → ¬ schedule.TurnsBack system reference moment := by
  cases answer with
  | none =>
    have clocked : schedule.clock? system instant = .ok reference := by
      rw [clock?, placed]
      exact read
    have localized := schedule.localize?_of_clock? system (.of_zone placed spaced) instant reference
      clocked inside
    have unended : schedule.untilNext? system reference = .ok none := by
      simp only [untilNext?, localized, bind, Except.bind, given]
      rfl
    simp [unended]
  | some moment =>
    obtain ⟨next, found, told, back⟩ := untilNext?_of_next? system choice text schedule built zone placed
      spaced instant inside reference read moment given
    simp only [Option.some.injEq, forall_eq', found, told, Except.ok.injEq, exists_eq_left', ← back]
    omega

end Until

end Schedule

def Zone.setBack : Zone := .named "Zone" (.ofSeconds 7200 [(1635642000, 3600)])

namespace Schedule

def minutely : Schedule :=
  ⟨.listed [⟨some 0, none, none, none, none⟩], some .setBack, some ⟨"0", "*", "*", "*", "*"⟩⟩

theorem untilNext?_nonnegative_beforeShift : ∃ span,
    minutely.untilNext? .universal ⟨Wall.ofTime ⟨2021, 10, 29⟩ 2 30 15 0, false, some .setBack⟩
        = .ok span ∧
      ∀ length, span = some length → 0 ≤ length :=
  ((untilNext?_nonnegative_iff .universal (.ok (some .setBack)) "0 * * * *" minutely (by decide +kernel)
    .setBack rfl ⟨by decide, by decide, by decide⟩ (Wall.ofTime ⟨2021, 10, 29⟩ 0 30 15 0)
    (by decide +kernel) ⟨Wall.ofTime ⟨2021, 10, 29⟩ 2 30 15 0, false, some .setBack⟩ (by decide +kernel)
    (some ⟨Wall.ofTime ⟨2021, 10, 29⟩ 2 31 0 0, false, some .setBack⟩) (by decide +kernel)).mpr
    (fun _ _ back => Bool.noConfusion back.1)).2

/-- In the hour that comes up again the next minute is looked for in the hour before. -/
theorem untilNext?_negative_afterShift :
    ofText? (.ok (some .setBack)) "0 * * * *" = .ok minutely ∧
      Moment.atInstant? .setBack (Wall.ofTime ⟨2021, 10, 31⟩ 1 30 15 0)
        = .ok ⟨Wall.ofTime ⟨2021, 10, 31⟩ 2 30 15 0, true, some .setBack⟩ ∧
      minutely.untilNext? .universal ⟨Wall.ofTime ⟨2021, 10, 31⟩ 2 30 15 0, true, some .setBack⟩
        = .ok (some (-3555000000)) :=
  ⟨by decide +kernel, by decide +kernel, by decide +kernel⟩

end Schedule
end CronClock
