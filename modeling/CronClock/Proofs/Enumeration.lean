import CronClock.Proofs.NextExact
import CronClock.Schedule.Upcoming

/-! # The upcoming moments are the first ones

Each upcoming moment is the least match from its reference on, and the search for the one after it sets
out a second later, before any other whole second: `Candidate.matching_after`. So the upcoming moments
come through without loss and without a repetition, `Dial.upcoming_areFirst`, over skipped stretches and
repeated ones too, `Schedule.upcoming_exact_shifted`. -/
set_option autoImplicit false
namespace CronClock

/-- The list holds the first members of the set, in order: whatever comes before a listed member is
listed too. -/
structure Wall.AreFirst (set : Set Int) (walls : List Int) : Prop where
  ascending : walls.Pairwise (· < ·)
  members : ∀ wall ∈ walls, wall ∈ set
  closed : ∀ wall ∈ walls, ∀ other ∈ set, other ≤ wall → other ∈ walls

theorem Wall.areFirst_cons (set : Set Int) (least : Int) (rest : List Int) (isLeast : IsLeast set least)
    (first : AreFirst {wall ∈ set | least < wall} rest) : AreFirst set (least :: rest) := by
  constructor
  · rw [List.pairwise_cons]
    exact ⟨fun wall member => (first.members wall member).2, first.ascending⟩
  · intro wall member
    rcases List.mem_cons.mp member with rfl | member
    · exact isLeast.1
    · exact (first.members wall member).1
  · intro wall member other inside order
    rcases Int.lt_or_eq_of_le (isLeast.2 inside) with beyond | same
    · rcases List.mem_cons.mp member with rfl | member
      · omega
      · exact List.mem_cons_of_mem _ (first.closed wall member other ⟨inside, beyond⟩ order)
    · rw [← same]
      exact List.mem_cons_self

namespace Candidate

theorem matching_after (shows : Int → Prop) (candidates : List Candidate) (since wall : Int)
    (member : wall ∈ matching shows candidates since) :
    matching shows candidates (wall + Wall.second) =
      {other ∈ matching shows candidates since | wall < other} := by
  obtain ⟨whole, ahead, _⟩ := member
  ext other
  simp only [matching, Set.mem_ofPred_eq, Wall.IsWhole, Wall.microsecond] at whole ⊢
  constructor
  · rintro ⟨otherWhole, after, rest⟩
    simp only [Wall.second] at *
    exact ⟨⟨otherWhole, by omega, rest⟩, by omega⟩
  · rintro ⟨⟨otherWhole, _, rest⟩, after⟩
    simp only [Wall.second] at *
    exact ⟨otherWhole, by omega, rest⟩

end Candidate

namespace Dial
variable {zone : Option Zone} (dial : Dial zone) (schedule : Schedule) (sound : schedule.IsSound)
  (candidates : List Candidate) (listed : schedule.timetable = .listed candidates)
include sound listed

/-- A search that sets out between the dial's opening and its closing time, with something to find
before that, comes to the least of all there is. -/
theorem next?_isLeast (reference start : Moment) (localized : schedule.localize? reference = .ok start)
    (placed : start.zone = zone) (since : dial.opening ≤ start.wall)
    (few : dial.gapsAfter start.wall ≤ 39) (target : Int)
    (matched : target ∈ Candidate.matching dial.shows candidates start.wall)
    (before : target < dial.closing) :
    ∃ moment, schedule.next? reference = .ok (some moment) ∧ moment.zone = zone ∧
      IsLeast (Candidate.matching dial.shows candidates start.wall) moment.wall := by
  have whole := matched.1
  have ahead := matched.2.1
  obtain ⟨rounded, given, _⟩ := start.wholeSecond?_of_le target (Int.le_trans dial.begun since) whole
    ahead (Int.lt_of_lt_of_le before dial.ended)
  obtain ⟨results, mapped⟩ := Schedule.exists_results candidates start rounded given
  obtain ⟨moment, found, sameZone, _, _, least⟩ := dial.earliest_isLeast placed since
    (Int.lt_of_le_of_lt ahead before) mapped (sound candidates listed) few target before matched
  refine ⟨moment, ?_, sameZone, least⟩
  rw [schedule.next?_of_listed reference start localized candidates listed results mapped, found]

variable (own : ∀ moment : Moment, moment.zone = zone → schedule.localize? moment = .ok moment)
  (bound : Int) (within : bound ≤ dial.closing) (inside : bound + Wall.second ≤ Wall.limit)
include own within inside

/-- With enough to find before a bound, the upcoming moments are the first of all there is. -/
theorem upcoming_areFirst (count : Nat) (reference start : Moment)
    (localized : schedule.localize? reference = .ok start) (placed : start.zone = zone)
    (since : dial.opening ≤ start.wall) (few : dial.gapsAfter start.wall ≤ 39) (targets : Finset Int)
    (enough : count ≤ targets.card)
    (matched : ∀ target ∈ targets,
      target ∈ Candidate.matching dial.shows candidates start.wall ∧ target < bound) :
    ∃ moments, schedule.upcoming count reference = ⟨moments, none⟩ ∧ moments.length = count ∧
      (∀ moment ∈ moments, moment.zone = zone) ∧
      Wall.AreFirst (Candidate.matching dial.shows candidates start.wall)
        (moments.map Moment.wall) := by
  induction count generalizing reference start targets with
  | zero => exact ⟨[], rfl, rfl, by simp, ⟨by simp, by simp, by simp⟩⟩
  | succ count ih =>
    obtain ⟨target, member⟩ := Finset.card_pos.mp (Nat.lt_of_lt_of_le (Nat.succ_pos count) enough)
    obtain ⟨targetMatched, targetBefore⟩ := matched target member
    obtain ⟨moment, found, momentZone, least⟩ := dial.next?_isLeast schedule sound candidates listed
      reference start localized placed since few target targetMatched
      (Int.lt_of_lt_of_le targetBefore within)
    have order := least.2 targetMatched
    obtain ⟨_, ahead, _⟩ := least.1
    have begun := dial.begun
    have followed : moment.plus? Wall.second
        = .ok ⟨moment.wall + Wall.second, false, moment.zone⟩ := by
      rw [Moment.plus?_eq, if_pos]
      rw [Wall.inCalendar_iff]
      simp only [Wall.second] at inside ⊢
      omega
    have after := Candidate.matching_after dial.shows candidates start.wall moment.wall least.1
    have later : start.wall ≤ moment.wall + Wall.second := by
      simp only [Wall.second]
      omega
    obtain ⟨moments, rest, length, zones, first⟩ := ih
      ⟨moment.wall + Wall.second, false, moment.zone⟩ ⟨moment.wall + Wall.second, false, moment.zone⟩
      (own _ momentZone) momentZone (Int.le_trans since later)
      (Nat.le_trans (dial.fewer _ _ later) few) (targets.erase moment.wall)
      (by have := Finset.pred_card_le_card_erase (s := targets) (a := moment.wall); omega) (by
        intro other otherMember
        obtain ⟨distinct, otherMember⟩ := Finset.mem_erase.mp otherMember
        obtain ⟨otherMatched, otherBefore⟩ := matched other otherMember
        have otherOrder := least.2 otherMatched
        refine ⟨?_, otherBefore⟩
        rw [after]
        exact ⟨otherMatched, by omega⟩)
    simp only [after] at first
    refine ⟨moment :: moments, ?_, by simp [length], ?_, ?_⟩
    · rw [Schedule.upcoming, found]
      simp only [followed, rest, Upcoming.cons]
    · intro other otherMember
      rcases List.mem_cons.mp otherMember with rfl | otherMember
      · exact momentZone
      · exact zones other otherMember
    · rw [List.map_cons]
      exact Wall.areFirst_cons _ _ _ least first

end Dial

namespace Schedule

theorem localize?_of_own (schedule : Schedule) (zone : Zone) (same : zone.isSame zone = true)
    (placed : schedule.zone = some zone) (moment : Moment) (own : moment.zone = some zone) :
    schedule.localize? moment = .ok moment := by
  simp [localize?, placed, own, Moment.inZone?, same]

theorem localize?_of_other (schedule : Schedule) (zone own : Zone) (differs : own.isSame zone = false)
    (placed : schedule.zone = some zone) (moment : Moment) (other : moment.zone = some own) :
    schedule.localize? moment
      = Moment.instantIn? own moment.reading >>= Moment.atInstant? zone := by
  simp [localize?, placed, other, Moment.inZone?, differs]

/-- With shifts at whole minutes, two days and more apart, the upcoming moments are the first whole
seconds from the reference on that the zone's clocks show and that some candidate agrees with, as many
as are asked for if so many come before the calendar's last year. -/
theorem upcoming_exact_shifted (name : String) (rules : ZoneRules) (spaced : rules.IsSpaced)
    (minutes : rules.IsWholeMinutes) (few : rules.shifts.length ≤ 20) (expression : Option Expression)
    (candidates : List Candidate) (bounded : ∀ candidate ∈ candidates, candidate.IsBounded) :
    ∃ schedule, ofCandidates? (some (.named name rules)) expression candidates = .ok schedule ∧
      ∀ reference start, schedule.localize? reference = .ok start →
        2 ≤ (Wall.date start.wall).year → (Wall.date start.wall).year ≤ 9998 →
        ∀ (count : Nat) (targets : Finset Int), count ≤ targets.card →
        (∀ target ∈ targets, target ∈ Candidate.matching rules.Shows candidates start.wall ∧
          (Wall.date target).year < 9999) →
        ∃ moments, schedule.upcoming count reference = ⟨moments, none⟩ ∧ moments.length = count ∧
          (∀ moment ∈ moments, moment.zone = some (.named name rules)) ∧
          Wall.AreFirst (Candidate.matching rules.Shows candidates start.wall)
            (moments.map Moment.wall) := by
  obtain ⟨kept, possible, built⟩ :=
    exists_ofCandidates? (some (.named name rules)) expression candidates bounded
  refine ⟨_, built, ?_⟩
  intro reference start localized leastYear mostYear count targets enough matched
  have placed := localize?_zone _ reference start localized _ rfl
  have sound := isSound_ofCandidates? _ expression candidates bounded _ built
  have same := matching_possibleOnly? rules.Shows candidates kept possible start.wall
  have since := (ZoneRules.between_of_years start.wall leastYear (by omega)).1
  have fewAhead : rules.shiftsAhead start.wall ≤ 39 := by
    have := rules.shiftsAhead_le start.wall
    omega
  obtain ⟨moments, given, length, zones, first⟩ := (Dial.ofRules name spaced minutes).upcoming_areFirst
    _ sound kept rfl (localize?_of_own _ _ (by simp [Zone.isSame]) rfl) (Wall.limit - 2 * Wall.day)
    (Int.le_refl _) (by decide) count reference start localized placed since fewAhead targets enough (by
      intro target member
      obtain ⟨targetMatched, year⟩ := matched target member
      have order := Wall.year_le start.wall target targetMatched.2.1
      exact ⟨same ▸ targetMatched, (ZoneRules.between_of_years target (by omega) year).2⟩)
  exact ⟨moments, given, length, zones, same ▸ first⟩

theorem upcoming_exact_skippedHalfPastTwo : ∃ schedule moments,
    ofCandidates? (some (.named "Zone" (.ofSeconds 3600 [(1616893200, 7200)]))) none
      [⟨some 0, some 30, some 2, none, none⟩] = .ok schedule ∧
    schedule.upcoming 2 ⟨Wall.ofTime ⟨2021, 3, 27⟩ 1 0 0 0, false, none⟩ = ⟨moments, none⟩ ∧
    moments.length = 2 ∧
    Wall.AreFirst (Candidate.matching (ZoneRules.ofSeconds 3600 [(1616893200, 7200)]).Shows
      [⟨some 0, some 30, some 2, none, none⟩] (Wall.ofTime ⟨2021, 3, 27⟩ 1 0 0 0))
      (moments.map Moment.wall) := by
  have bounded : ∀ candidate : Candidate, candidate ∈ [⟨some 0, some 30, some 2, none, none⟩] →
      candidate.IsBounded := by
    intro candidate member field value fixed
    rw [List.mem_singleton.mp member] at fixed
    cases field <;> cases fixed <;> rfl
  obtain ⟨schedule, built, isExact⟩ := upcoming_exact_shifted "Zone"
    (.ofSeconds 3600 [(1616893200, 7200)]) ⟨by decide, by decide, by decide⟩ ⟨by decide, by decide⟩
    (by decide) none [⟨some 0, some 30, some 2, none, none⟩] bounded
  cases built
  have agrees : ∀ day, day = 27 ∨ day = 29 →
      Candidate.Agrees ⟨some 0, some 30, some 2, none, none⟩ (Wall.ofTime ⟨2021, 3, day⟩ 2 30 0 0) := by
    rintro day (rfl | rfl) field value fixed
    · cases field <;> cases fixed <;> decide +kernel
    · cases field <;> cases fixed <;> decide +kernel
  obtain ⟨moments, given, length, _, first⟩ := isExact
    ⟨Wall.ofTime ⟨2021, 3, 27⟩ 1 0 0 0, false, none⟩ ⟨Wall.ofTime ⟨2021, 3, 27⟩ 1 0 0 0, false, _⟩ rfl
    (by decide +kernel) (by decide +kernel) 2
    {Wall.ofTime ⟨2021, 3, 27⟩ 2 30 0 0, Wall.ofTime ⟨2021, 3, 29⟩ 2 30 0 0} (by decide +kernel) (by
      intro target member
      rw [Finset.mem_insert, Finset.mem_singleton] at member
      rcases member with rfl | rfl
      · exact ⟨⟨by decide +kernel, by decide +kernel, ⟨Wall.ofTime ⟨2021, 3, 27⟩ 1 30 0 0,
          by decide +kernel⟩, _, List.mem_singleton.mpr rfl, agrees 27 (.inl rfl)⟩, by decide +kernel⟩
      · exact ⟨⟨by decide +kernel, by decide +kernel, ⟨Wall.ofTime ⟨2021, 3, 29⟩ 0 30 0 0,
          by decide +kernel⟩, _, List.mem_singleton.mpr rfl, agrees 29 (.inr rfl)⟩, by decide +kernel⟩)
  exact ⟨_, moments, rfl, given, length, first⟩

end Schedule
end CronClock
