import CronClock.Proofs.Enumeration
import CronClock.Proofs.RealTime

/-! # Upcoming moments in universal time

Upcoming moments go forward on the wall, second by second at least, and from the first of them on
without the mark of a later reading. In universal time the one after may still come before: from a later
reading to an earlier one of the same repeated stretch, and over the end of a skipped stretch in which a
schedule of every instant has named moments that the clocks never show.
`Schedule.upcoming_ascending_iff` says that they are in order otherwise. -/
set_option autoImplicit false
namespace CronClock

/-! ## Two wall times and their instants -/

namespace ZoneRules

/-- The first wall time belongs to a skipped stretch and the second comes after it, no further from the
first than the stretch is long. -/
def Leaps (rules : ZoneRules) (wall next : Int) : Prop :=
  ∃ index shift, rules.shifts[index]? = some shift ∧
    shift.instant + rules.offsetAfter index ≤ wall ∧ wall < shift.instant + shift.offset ∧
    shift.instant + shift.offset ≤ next ∧ next - wall ≤ shift.offset - rules.offsetAfter index

section Spaced
variable {rules : ZoneRules} (spaced : rules.IsSpaced)
include spaced

theorem IsSpaced.instantOf_le_of_leaps (wall next : Int) (leaps : rules.Leaps wall next) :
    rules.instantOf ⟨next, false⟩ ≤ rules.instantOf ⟨wall, false⟩ := by
  obtain ⟨index, shift, found, since, before, after, near⟩ := leaps
  have inside := (List.getElem?_eq_some_iff.mp found).1
  have bound := spaced.offsetAfter index
  have shiftBound := spaced.offsets shift (List.mem_of_getElem? found)
  have shownBefore : rules.shiftsShown ⟨wall, false⟩ = index := by
    apply spaced.shiftsShown_eq ⟨wall, false⟩ index (by omega)
    · intro previous other otherFound last
      have apart := spaced.instants_apart previous index other shift (by omega) otherFound found
      have otherBound := spaced.offsetAfter previous
      have otherShiftBound := spaced.offsets other (List.mem_of_getElem? otherFound)
      rw [thresholdOf_earlier]
      simp only
      omega
    · intro other otherFound
      cases Option.some.inj (found.symm.trans otherFound)
      rw [thresholdOf_earlier]
      simp only
      omega
  have shownAfter : rules.shiftsShown ⟨next, false⟩ = index + 1 := by
    apply spaced.shiftsShown_eq ⟨next, false⟩ (index + 1) inside
    · intro previous other otherFound last
      obtain rfl : previous = index := by omega
      cases Option.some.inj (found.symm.trans otherFound)
      rw [thresholdOf_earlier]
      simp only
      omega
    · intro other otherFound
      have apart := spaced.instants_apart index (index + 1) shift other (by omega) found otherFound
      rw [thresholdOf_earlier, rules.offsetAfter_succ index shift found]
      simp only
      omega
  simp only [instantOf, offsetShown, shownBefore, shownAfter, rules.offsetAfter_succ index shift found]
  omega

/-- Nothing but such an end brings the instant of a later wall time forward. -/
theorem IsSpaced.leaps_of_instantOf_le (wall next : Int) (order : wall < next)
    (back : rules.instantOf ⟨next, false⟩ ≤ rules.instantOf ⟨wall, false⟩) :
    rules.Leaps wall next := by
  have within := spaced.shiftsShown_le ⟨next, false⟩
  have more := spaced.shiftsShown_mono wall next (Int.le_of_lt order)
  simp only [instantOf, offsetShown] at back
  by_cases same : rules.shiftsShown ⟨wall, false⟩ = rules.shiftsShown ⟨next, false⟩
  · rw [same] at back
    omega
  · -- The first shift still ahead of the one wall time and the last behind the other are one shift.
    obtain ⟨shift, found⟩ := rules.exists_shift (rules.shiftsShown ⟨wall, false⟩) (by omega)
    obtain ⟨last, lastFound⟩ := rules.exists_shift (rules.shiftsShown ⟨next, false⟩ - 1) (by omega)
    have ahead := spaced.shown_iff ⟨wall, false⟩ _ shift found
    have passed := spaced.shown_iff ⟨next, false⟩ _ last lastFound
    have grown := rules.offsetAfter_succ _ last lastFound
    have bound := spaced.offsetAfter (rules.shiftsShown ⟨wall, false⟩)
    have shiftBound := spaced.offsets shift (List.mem_of_getElem? found)
    rw [thresholdOf_earlier] at ahead passed
    rw [Nat.sub_add_cancel (by omega)] at grown
    rcases Nat.lt_or_eq_of_le (by omega :
      rules.shiftsShown ⟨wall, false⟩ ≤ rules.shiftsShown ⟨next, false⟩ - 1) with less | single
    · have apart := spaced.instants_apart _ _ shift last less found lastFound
      simp only at ahead passed
      omega
    · rw [← single] at lastFound passed
      cases Option.some.inj (found.symm.trans lastFound)
      refine ⟨_, shift, found, ?_⟩
      simp only at ahead passed
      omega

theorem IsSpaced.instantOf_lt_iff_not_leaps (wall next : Int) (order : wall < next) :
    rules.instantOf ⟨wall, false⟩ < rules.instantOf ⟨next, false⟩ ↔ ¬ rules.Leaps wall next := by
  constructor
  · intro ascends leaps
    have back := spaced.instantOf_le_of_leaps wall next leaps
    omega
  · intro level
    by_contra back
    exact level (spaced.leaps_of_instantOf_le wall next order (Int.not_lt.mp back))

theorem IsSpaced.not_leaps_of_shows (wall next : Int) (shown : rules.Shows wall) :
    ¬ rules.Leaps wall next := by
  intro leaps
  obtain ⟨index, shift, found, since, before, _, _⟩ := leaps
  exact spaced.not_skips_of_shows wall shown index ⟨shift, found, since, before⟩

theorem IsSpaced.instantOf_lt_of_past (index : Nat) (before after : Reading)
    (repeated : rules.Repeats index before.wall) (unmarked : after.later = false)
    (order : before.wall < after.wall) (past : ¬ rules.Repeats index after.wall) :
    rules.instantOf before < rules.instantOf after := by
  have shownBefore := spaced.shiftsShown_of_repeats index before repeated
  obtain ⟨shift, found, since, upto⟩ := repeated
  have inside := (List.getElem?_eq_some_iff.mp found).1
  have bound := spaced.offsetAfter index
  have shiftBound := spaced.offsets shift (List.mem_of_getElem? found)
  have beyond : shift.instant + rules.offsetAfter index ≤ after.wall := by
    by_contra within
    exact past ⟨shift, found, by omega, by omega⟩
  have passed := spaced.shown_iff after index shift found
  rw [unmarked, thresholdOf_earlier] at passed
  have most := spaced.shiftsShown_le after
  have offsetBefore : rules.offsetAfter (rules.shiftsShown before)
      = if before.later then shift.offset else rules.offsetAfter index := by
    rw [shownBefore]
    split
    · exact rules.offsetAfter_succ index shift found
    · rfl
  simp only [instantOf, offsetShown, offsetBefore]
  obtain ⟨last, lastFound⟩ := rules.exists_shift (rules.shiftsShown after - 1) (by omega)
  have reached := spaced.shown_iff after _ last lastFound
  have grown := rules.offsetAfter_succ _ last lastFound
  rw [unmarked, thresholdOf_earlier] at reached
  rw [Nat.sub_add_cancel (by omega)] at grown
  rcases Nat.lt_or_eq_of_le (by omega : index ≤ rules.shiftsShown after - 1) with less | same
  · have apart := spaced.instants_apart index _ shift last less found lastFound
    split <;> omega
  · rw [← same] at lastFound
    cases Option.some.inj (found.symm.trans lastFound)
    split <;> omega

/-- A later wall time that is not marked has the later instant exactly if the first is not a later
reading of a stretch that both belong to, and no skipped stretch is left over between them. -/
theorem IsSpaced.instantOf_lt_iff_follows (before after : Reading) (order : before.wall < after.wall)
    (unmarked : after.later = false) (shown : before.later = true → rules.Shows before.wall) :
    rules.instantOf before < rules.instantOf after ↔
      rules.Precedes before after ∧ ¬ rules.Leaps before.wall after.wall := by
  obtain ⟨wall, mark⟩ := before
  obtain ⟨next, later⟩ := after
  simp only at order unmarked shown
  subst unmarked
  cases mark with
  | false =>
    rw [spaced.instantOf_lt_iff_not_leaps wall next order]
    simp [Precedes, order]
  | true =>
    have level := spaced.not_leaps_of_shows wall next (shown rfl)
    simp only [Precedes, order, level, true_and, not_false_eq_true, and_true]
    by_cases repeated : ∃ index, rules.Repeats index wall
    · obtain ⟨index, repeated⟩ := repeated
      by_cases both : rules.Repeats index next
      · have shownBefore := spaced.shiftsShown_of_repeats index ⟨wall, true⟩ repeated
        have shownAfter := spaced.shiftsShown_of_repeats index ⟨next, false⟩ both
        have back : ¬ rules.instantOf ⟨wall, true⟩ < rules.instantOf ⟨next, false⟩ := by
          obtain ⟨shift, found, since, _⟩ := repeated
          obtain ⟨other, otherFound, _, upto⟩ := both
          cases Option.some.inj (found.symm.trans otherFound)
          simp only [instantOf, offsetShown, shownBefore, shownAfter, if_true, Bool.false_eq_true,
            if_false, rules.offsetAfter_succ index shift found]
          omega
        exact iff_of_false back (fun single => single ⟨index, repeated, both⟩)
      · have ahead := spaced.instantOf_lt_of_past index ⟨wall, true⟩ ⟨next, false⟩ repeated rfl order both
        refine iff_of_true ahead ?_
        intro other
        obtain ⟨another, wallRepeated, nextRepeated⟩ := other
        have same := spaced.borders_unique index another wall repeated.borders wallRepeated.borders
        exact both (same ▸ nextRepeated)
    · have single : ∀ index, ¬ rules.Repeats index wall := by
        intro index member
        exact repeated ⟨index, member⟩
      rw [spaced.instantOf_of_single wall true (shown rfl) single,
        spaced.instantOf_lt_iff_not_leaps wall next order]
      refine iff_of_true level ?_
      intro both
      obtain ⟨index, member, _⟩ := both
      exact single index member

end Spaced
end ZoneRules

/-! ## Moment after moment -/

namespace Schedule

/-- Of two moments in a row, the search does not turn from a later reading back into the repeated
stretch that it belongs to, and a schedule of every instant does not leave a skipped stretch. -/
def Ascends (system : ZoneRules) (schedule : Schedule) (before after : Moment) : Prop :=
  (schedule.rules system).Precedes before.reading after.reading ∧
    (schedule.timetable = .anyTime → ¬ (schedule.rules system).Leaps before.wall after.wall)

structure Succeeds (system : ZoneRules) (schedule : Schedule) (before after : Moment) : Prop where
  forward : before.wall < after.wall
  unmarked : after.later = false
  shown : before.later = true ∨ schedule.timetable ≠ .anyTime →
    (schedule.rules system).Shows before.wall

theorem eq_of_localize? (schedule : Schedule) (zone : Zone) (placed : schedule.zone = some zone)
    (moment start : Moment) (own : moment.zone = some zone) (unmarked : moment.later = false)
    (localized : schedule.localize? moment = .ok start) : start = moment := by
  by_cases same : zone.isSame zone = true
  · rw [schedule.localize?_of_own zone same placed moment own] at localized
    exact (Except.ok.inj localized).symm
  · obtain ⟨wall, later, _⟩ := moment
    simp only at own unmarked
    subst own unmarked
    cases zone with
    | bare offset =>
      rw [schedule.localize?_of_other (.bare offset) (.bare offset) rfl placed _ rfl, bind_eq_ok]
        at localized
      obtain ⟨instant, located, read⟩ := localized
      rw [Moment.instantIn?_eq] at located
      split at located
      · cases located
        rw [Moment.atInstant?_eq] at read
        split at read
        · cases read
          simp [Moment.ofReading, Moment.reading, Zone.reading, Zone.offsetShown]
        · simp at read
      · simp at located
    | _ => simp [Zone.isSame] at same

section Chained
variable (system : ZoneRules) (schedule : Schedule) (zone : Zone) (placed : schedule.zone = some zone)
include placed

theorem next?_forward (reference moment : Moment) (own : reference.zone = some zone)
    (stays : ∀ start, schedule.localize? reference = .ok start → start = reference)
    (inside : Wall.inCalendar reference.wall = true)
    (real : reference.later = true → (schedule.rules system).Shows reference.wall)
    (given : schedule.next? reference = .ok (some moment)) :
    moment.zone = some zone ∧ reference.wall ≤ moment.wall ∧
      (reference.later = false → moment.later = false) ∧
      (moment.later = true ∨ schedule.timetable ≠ .anyTime →
        (schedule.rules system).Shows moment.wall) := by
  obtain ⟨start, localized, named⟩ := schedule.next?_eq_some reference moment given
  cases stays start localized
  rcases named with ⟨anyTime, rfl⟩ | ⟨candidates, candidate, listed, _, result⟩
  · refine ⟨own, Int.le_refl _, id, ?_⟩
    intro marked
    rcases marked with later | constrained
    · exact real later
    · exact absurd anyTime constrained
  · obtain ⟨whole, rounded, _, finds⟩ := candidate.next?_finds reference moment inside result
    obtain ⟨_, sameZone, after, _, mark⟩ := reference.wholeSecond?_eq_ok whole rounded
    have momentZone : moment.zone = some zone := finds.zone.trans (sameZone.trans own)
    refine ⟨momentZone, Int.le_trans after finds.le, ?_, ?_⟩
    · intro unmarked
      exact finds.unmarked (by simp [mark, unmarked])
    · intro _
      have shown := moment.shows_of_isShown? system zone momentZone finds.shown
      rw [momentZone] at shown
      rw [rules, placed]
      exact shown

theorem upcoming_succeeds (count : Nat) (reference : Moment) (own : reference.zone = some zone)
    (stays : ∀ start, schedule.localize? reference = .ok start → start = reference)
    (inside : Wall.inCalendar reference.wall = true)
    (real : reference.later = true → (schedule.rules system).Shows reference.wall) :
    (∀ moment ∈ (schedule.upcoming count reference).moments, moment.zone = some zone ∧
        reference.wall ≤ moment.wall ∧ (reference.later = false → moment.later = false)) ∧
      (schedule.upcoming count reference).moments.IsChain (schedule.Succeeds system) := by
  induction count generalizing reference with
  | zero => simp [upcoming, Upcoming.nothing]
  | succ count ih =>
    rw [upcoming]
    cases given : schedule.next? reference with
    | error fault => simp
    | ok answer =>
      cases answer with
      | none => simp [Upcoming.nothing]
      | some moment =>
        obtain ⟨momentZone, ahead, unmarked, shown⟩ :=
          schedule.next?_forward system zone placed reference moment own stays inside real given
        simp only [Moment.plus?_eq]
        by_cases followed : Wall.inCalendar (moment.wall + Wall.second) = true
        · have later : moment.wall < moment.wall + Wall.second := by
            simp only [Wall.second]
            omega
          obtain ⟨members, chained⟩ := ih ⟨moment.wall + Wall.second, false, moment.zone⟩ momentZone
            (fun start localized =>
              schedule.eq_of_localize? zone placed _ start momentZone rfl localized)
            followed (by simp)
          simp only [followed, if_true, Upcoming.cons]
          constructor
          · intro other member
            rcases List.mem_cons.mp member with rfl | member
            · exact ⟨momentZone, ahead, unmarked⟩
            · obtain ⟨otherZone, beyond, plain⟩ := members other member
              simp only at beyond
              exact ⟨otherZone, by omega, fun _ => plain rfl⟩
          · rw [List.isChain_cons]
            refine ⟨?_, chained⟩
            intro next head
            obtain ⟨_, beyond, plain⟩ := members next (List.mem_of_mem_head? head)
            exact ⟨Int.lt_of_lt_of_le later beyond, plain rfl, shown⟩
        · simpa [followed, momentZone, ahead] using unmarked

variable (spaced : (schedule.rules system).IsSpaced)
include spaced

omit placed in
/-- In universal time a moment comes after the one before it exactly if the two ascend. -/
theorem Succeeds.instantOf_lt_iff {before after : Moment}
    (succeeds : schedule.Succeeds system before after) :
    (schedule.rules system).instantOf before.reading
        < (schedule.rules system).instantOf after.reading ↔
      schedule.Ascends system before after := by
  rw [spaced.instantOf_lt_iff_follows before.reading after.reading succeeds.forward succeeds.unmarked
    (fun later => succeeds.shown (.inl later)), Ascends]
  refine and_congr_right fun _ => ?_
  by_cases anyTime : schedule.timetable = .anyTime
  · simp [anyTime, Moment.reading]
  · have shown := succeeds.shown (.inr anyTime)
    simp [anyTime, spaced.not_leaps_of_shows before.wall after.wall shown, Moment.reading]

end Chained

theorem isChain_iff_of_links {α : Type} {links first second : α → α → Prop} (list : List α)
    (linked : list.IsChain links)
    (alike : ∀ before after, links before after → (first before after ↔ second before after)) :
    list.IsChain first ↔ list.IsChain second := by
  induction list with
  | nil => simp
  | cons head rest ih =>
    cases rest with
    | nil => simp
    | cons next more =>
      obtain ⟨link, others⟩ := List.isChain_cons_cons.mp linked
      rw [List.isChain_cons_cons, List.isChain_cons_cons, ih others, alike head next link]

/-- From the reading of an instant on, the upcoming moments come in the order of their instants exactly
if no two in a row turn back: from a later reading to an earlier one of the same repeated stretch, or,
for a schedule of every instant, over the end of a skipped stretch. A moment's instant is what it
converts to, within the calendar. -/
theorem upcoming_ascending_iff (system : ZoneRules) (schedule : Schedule) (zone : Zone)
    (placed : schedule.zone = some zone) (spaced : zone.rules.IsSpaced) (instant : Int)
    (inside : Wall.inCalendar instant = true) (reference : Moment)
    (read : Moment.atInstant? zone instant = .ok reference) (count : Nat) :
    (∀ moment ∈ (schedule.upcoming count reference).moments,
        moment.instant? system = Moment.checked (zone.rules.instantOf moment.reading)) ∧
      (((schedule.upcoming count reference).moments.map
          fun moment => zone.rules.instantOf moment.reading).Pairwise (· < ·) ↔
        (schedule.upcoming count reference).moments.IsChain (schedule.Ascends system)) := by
  have clocks : schedule.IsClocked system := .of_zone placed spaced
  have same : schedule.rules system = zone.rules := by rw [rules, placed, rulesOf]
  rw [← same] at spaced ⊢
  have clocked : schedule.clock? system instant = .ok reference := by
    rw [clock?, placed]
    exact read
  obtain ⟨reading, sameZone, insideToo⟩ :=
    schedule.clock?_eq_ok system clocks instant reference clocked
  have localized := schedule.localize?_of_clock? system clocks instant reference clocked inside
  have own : reference.zone = some zone := sameZone.trans placed
  have stays : ∀ start, schedule.localize? reference = .ok start → start = reference := by
    intro start again
    exact Except.ok.inj (again.symm.trans localized)
  have real : (schedule.rules system).Shows reference.wall := ⟨instant, by rw [← reading]; rfl⟩
  obtain ⟨members, chained⟩ := schedule.upcoming_succeeds system zone placed count reference own
    stays insideToo (fun _ => real)
  constructor
  · intro moment member
    obtain ⟨momentZone, _, _⟩ := members moment member
    rw [same]
    exact Moment.instant?_eq_checked system zone moment momentZone
  · rw [← List.isChain_iff_pairwise, List.isChain_map]
    apply isChain_iff_of_links _ chained
    intro before after succeeds
    exact succeeds.instantOf_lt_iff system schedule spaced

def halfPastTwo : Schedule :=
  ⟨.listed [⟨some 0, some 30, some 2, none, none⟩], some .setBack, some ⟨"0", "30", "2", "*", "*"⟩⟩

theorem upcoming_ascending_nextDay :
    (halfPastTwo.upcoming 2 ⟨Wall.ofTime ⟨2021, 10, 31⟩ 2 10 0 0, true, some .setBack⟩).moments
        = [⟨Wall.ofTime ⟨2021, 10, 31⟩ 2 30 0 0, true, some .setBack⟩,
          ⟨Wall.ofTime ⟨2021, 11, 1⟩ 2 30 0 0, false, some .setBack⟩] ∧
      ((halfPastTwo.upcoming 2 ⟨Wall.ofTime ⟨2021, 10, 31⟩ 2 10 0 0, true, some .setBack⟩).moments.map
        fun moment => Zone.setBack.rules.instantOf moment.reading).Pairwise (· < ·) := by
  have moments : (halfPastTwo.upcoming 2
      ⟨Wall.ofTime ⟨2021, 10, 31⟩ 2 10 0 0, true, some .setBack⟩).moments
        = [⟨Wall.ofTime ⟨2021, 10, 31⟩ 2 30 0 0, true, some .setBack⟩,
          ⟨Wall.ofTime ⟨2021, 11, 1⟩ 2 30 0 0, false, some .setBack⟩] := by
    decide +kernel
  obtain ⟨_, ordered⟩ := upcoming_ascending_iff .universal halfPastTwo .setBack rfl
    ⟨by decide, by decide, by decide⟩ (Wall.ofTime ⟨2021, 10, 31⟩ 1 10 0 0) (by decide +kernel)
    ⟨Wall.ofTime ⟨2021, 10, 31⟩ 2 10 0 0, true, some .setBack⟩ (by decide +kernel) 2
  refine ⟨moments, ordered.mpr ?_⟩
  rw [moments, List.isChain_cons_cons]
  refine ⟨⟨⟨by decide +kernel, ?_⟩, nofun⟩, List.isChain_singleton _⟩
  intro turns
  obtain ⟨_, index, _, shift, found, _, upto⟩ := turns
  cases index with
  | zero =>
    cases Option.some.inj found
    exact absurd upto (by decide +kernel)
  | succ index => simp [rules, rulesOf, halfPastTwo, Zone.rules, Zone.setBack, ZoneRules.ofSeconds] at found

def halfMinutely : Schedule :=
  ⟨.listed [⟨some 30, none, none, none, none⟩], some .setBack, some ⟨"30", "*", "*", "*", "*"⟩⟩

/-- In the hour that comes up again the second moment is looked for in the hour before. -/
theorem upcoming_descending_repeatedHour :
    ofText? (.ok (some .setBack)) "30 * * * *" = .ok halfMinutely ∧
      Moment.atInstant? .setBack (Wall.ofTime ⟨2021, 10, 31⟩ 1 30 0 0)
        = .ok ⟨Wall.ofTime ⟨2021, 10, 31⟩ 2 30 0 0, true, some .setBack⟩ ∧
      (halfMinutely.upcoming 2
          ⟨Wall.ofTime ⟨2021, 10, 31⟩ 2 30 0 0, true, some .setBack⟩).moments.mapM
            (Moment.instant? .universal)
        = .ok [Wall.ofTime ⟨2021, 10, 31⟩ 1 30 30 0, Wall.ofTime ⟨2021, 10, 31⟩ 0 31 30 0] ∧
      ¬ [Wall.ofTime ⟨2021, 10, 31⟩ 1 30 30 0, Wall.ofTime ⟨2021, 10, 31⟩ 0 31 30 0].Pairwise (· < ·) :=
  ⟨by decide +kernel, by decide +kernel, by decide +kernel, by decide +kernel⟩

/-- Clocks that go on by two seconds: a schedule of every instant names the skipped seconds, and the
first one after them has the instant of the first of them. -/
example :
    ((⟨.anyTime, some (.named "Zone" (.ofSeconds 3600 [(1616893200, 3602)])), none⟩ : Schedule).upcoming
      4 ⟨Wall.ofTime ⟨2021, 3, 28⟩ 1 59 59 0, false,
        some (.named "Zone" (.ofSeconds 3600 [(1616893200, 3602)]))⟩).moments.mapM
          (Moment.instant? .universal)
    = .ok [Wall.ofTime ⟨2021, 3, 28⟩ 0 59 59 0, Wall.ofTime ⟨2021, 3, 28⟩ 1 0 0 0,
      Wall.ofTime ⟨2021, 3, 28⟩ 1 0 1 0, Wall.ofTime ⟨2021, 3, 28⟩ 1 0 0 0] := by
  decide +kernel

end Schedule
end CronClock
