import CronClock.Proofs.Combinations
import CronClock.Proofs.Dial
import Mathlib.Order.Bounds.Basic

/-! # The next moment is the least one

The moment that a schedule names has the least wall time among all whole seconds from the reference on
that its clocks show and that a candidate agrees with, and there is none only if no wall time of the
calendar does. Without shifts these are the wall times that the text's expansions admit field by field,
`Schedule.next?_exact_unshifted`; with them the search goes over every stretch that is skipped,
`Schedule.next?_exact_shifted`. -/
set_option autoImplicit false
namespace CronClock

/-! ## One candidate and many -/

namespace Schedule

theorem earliest_eq_none_iff (results : List (Option Moment)) :
    earliest results = none ↔ ∀ moment, some moment ∉ results := by
  induction results with
  | nil => simp [earliest]
  | cons head rest ih =>
    cases head with
    | none => simpa [earliest] using ih
    | some moment =>
      have found : earliest (some moment :: rest) ≠ none := by
        simp only [earliest]
        cases earliest rest with
        | none => simp
        | some other =>
          simp only
          split <;> simp
      constructor
      · exact fun absent => absurd absent found
      · exact fun absent => absurd (by simp) (absent moment)

theorem earliest_eq_some (results : List (Option Moment)) (best : Moment)
    (found : earliest results = some best) :
    some best ∈ results ∧ ∀ other, some other ∈ results → best.wall ≤ other.wall := by
  induction results generalizing best with
  | nil => simp [earliest] at found
  | cons head rest ih =>
    cases head with
    | none =>
      obtain ⟨member, least⟩ := ih best (by simpa [earliest] using found)
      exact ⟨by simp [member], fun other inside => least other (by simpa using inside)⟩
    | some moment =>
      cases others : earliest rest with
      | none =>
        have alone := (earliest_eq_none_iff rest).mp others
        simp only [earliest, others, Option.some.injEq] at found
        subst found
        refine ⟨by simp, fun other inside => ?_⟩
        rcases List.mem_cons.mp inside with same | inRest
        · cases same
          exact Int.le_refl _
        · exact absurd inRest (alone other)
      | some other =>
        obtain ⟨member, least⟩ := ih other others
        simp only [earliest, others] at found
        split at found
        · next before =>
          cases found
          refine ⟨by simp [member], fun another inside => ?_⟩
          rcases List.mem_cons.mp inside with same | inRest
          · cases same
            exact Int.le_of_lt before
          · exact least another inRest
        · next notBefore =>
          cases found
          refine ⟨by simp, fun another inside => ?_⟩
          rcases List.mem_cons.mp inside with same | inRest
          · cases same
            exact Int.le_refl _
          · exact Int.le_trans (Int.not_lt.mp notBefore) (least another inRest)

end Schedule

namespace Candidate

/-- The whole seconds from a wall time on that are shown and that some candidate agrees with. -/
def matching (shows : Int → Prop) (candidates : List Candidate) (since : Int) : Set Int :=
  {wall | Wall.IsWhole wall ∧ since ≤ wall ∧ shows wall ∧
    ∃ candidate ∈ candidates, candidate.Agrees wall}

end Candidate

namespace Dial
variable {zone : Option Zone} (dial : Dial zone) {candidates : List Candidate} {start : Moment}
  (placed : start.zone = zone) (since : dial.opening ≤ start.wall)
  (before : start.wall < dial.closing) {results : List (Option Moment)}
  (mapped : candidates.mapM (fun candidate => candidate.next? start) = .ok results)
include placed since before mapped

theorem mem_matching (found : Moment) (member : some found ∈ results)
    (within : found.wall < dial.closing) :
    found.wall ∈ Candidate.matching dial.shows candidates start.wall ∧ found.zone = zone ∧
      (start.later = false → found.later = false) := by
  have begun := dial.begun
  have ended := dial.ended
  have inside : Wall.inCalendar start.wall = true := by
    rw [Wall.inCalendar_iff]
    omega
  obtain ⟨candidate, listed, given⟩ := (mem_of_mapM _ candidates results mapped _).mp member
  obtain ⟨whole, rounded, _, finds⟩ := candidate.next?_finds start found inside given
  obtain ⟨_, sameZone, after, _, mark⟩ := start.wholeSecond?_eq_ok whole rounded
  have foundZone : found.zone = zone := finds.zone.trans (sameZone.trans placed)
  have ahead : start.wall ≤ found.wall := Int.le_trans after finds.le
  have shown : dial.shows found.wall := by
    by_contra hides
    have hidden := dial.hidden found.wall found.later (Int.le_trans since ahead) within hides
    rw [← foundZone] at hidden
    exact absurd (finds.shown.symm.trans hidden) (by simp)
  refine ⟨⟨finds.whole, ahead, shown, candidate, listed, finds.agrees⟩, foundZone, ?_⟩
  intro unmarked
  exact finds.unmarked (by simp [mark, unmarked])

/-- With something to find before the closing time, the earliest result is the least of all there is. -/
theorem earliest_isLeast
    (sound : ∀ candidate ∈ candidates, candidate.IsBounded ∧ candidate.isPossible? = some true)
    (few : dial.gapsAfter start.wall ≤ 39) (target : Int) (targetBefore : target < dial.closing)
    (matched : target ∈ Candidate.matching dial.shows candidates start.wall) :
    ∃ moment, Schedule.earliest results = some moment ∧ moment.zone = zone ∧
      moment.wall < dial.closing ∧ (start.later = false → moment.later = false) ∧
      IsLeast (Candidate.matching dial.shows candidates start.wall) moment.wall := by
  have reached : ∀ wall ∈ Candidate.matching dial.shows candidates start.wall,
      wall < dial.closing → ∃ found, some found ∈ results ∧ found.wall ≤ wall := by
    rintro wall ⟨whole, ahead, shown, candidate, listed, agrees⟩ within
    obtain ⟨bounded, possible⟩ := sound candidate listed
    obtain ⟨found, given, order⟩ := dial.next?_reaches bounded possible agrees shown within start
      placed since whole ahead few
    exact ⟨found, (mem_of_mapM _ candidates results mapped _).mpr ⟨candidate, listed, given⟩, order⟩
  obtain ⟨found, member, order⟩ := reached target matched targetBefore
  cases result : Schedule.earliest results with
  | none => exact absurd member ((Schedule.earliest_eq_none_iff results).mp result found)
  | some best =>
    obtain ⟨bestMember, least⟩ := Schedule.earliest_eq_some results best result
    have bestBefore : best.wall < dial.closing :=
      Int.lt_of_le_of_lt (Int.le_trans (least found member) order) targetBefore
    obtain ⟨matching, bestZone, mark⟩ :=
      dial.mem_matching placed since before mapped best bestMember bestBefore
    refine ⟨best, rfl, bestZone, bestBefore, mark, matching, ?_⟩
    intro wall matched
    by_cases within : wall < dial.closing
    · obtain ⟨other, otherMember, otherOrder⟩ := reached wall matched within
      exact Int.le_trans (least other otherMember) otherOrder
    · exact Int.le_trans (Int.le_of_lt bestBefore) (Int.not_lt.mp within)

end Dial

namespace Schedule

theorem next?_of_listed (schedule : Schedule) (reference start : Moment)
    (localized : schedule.localize? reference = .ok start) (candidates : List Candidate)
    (listed : schedule.timetable = .listed candidates) (results : List (Option Moment))
    (mapped : candidates.mapM (fun candidate => candidate.next? start) = .ok results) :
    schedule.next? reference = .ok (earliest results) := by
  simp only [next?, localized, listed, bind, Except.bind, mapped]
  rfl

theorem next?_of_rounded (schedule : Schedule) (reference start whole : Moment)
    (localized : schedule.localize? reference = .ok start) (candidates : List Candidate)
    (listed : schedule.timetable = .listed candidates) (rounded : start.wholeSecond? = .ok whole) :
    schedule.next? reference
      = .ok (earliest (candidates.map fun candidate => candidate.search Candidate.stepLimit whole)) :=
  schedule.next?_of_listed reference start localized candidates listed _
    (mapM_eq_map _ _ candidates fun candidate _ => candidate.next?_of_rounded start whole rounded)

/-- A next moment is the localized reference itself, or what one of the candidates finds from there. -/
theorem next?_eq_some (schedule : Schedule) (reference moment : Moment)
    (given : schedule.next? reference = .ok (some moment)) :
    ∃ start, schedule.localize? reference = .ok start ∧
      ((schedule.timetable = .anyTime ∧ moment = start) ∨
        ∃ candidates candidate, schedule.timetable = .listed candidates ∧ candidate ∈ candidates ∧
          candidate.next? start = .ok (some moment)) := by
  simp only [next?] at given
  rw [bind_eq_ok] at given
  obtain ⟨start, localized, given⟩ := given
  refine ⟨start, localized, ?_⟩
  cases timetable : schedule.timetable with
  | anyTime =>
    rw [timetable] at given
    simp only [pure_eq_ok, Option.some.injEq] at given
    exact .inl ⟨rfl, given.symm⟩
  | listed candidates =>
    rw [timetable] at given
    simp only [bind_eq_ok, pure_eq_ok] at given
    obtain ⟨results, mapped, found⟩ := given
    obtain ⟨member, _⟩ := earliest_eq_some results moment found
    obtain ⟨candidate, listed, result⟩ := (mem_of_mapM _ candidates results mapped _).mp member
    exact .inr ⟨candidates, candidate, rfl, listed, result⟩

theorem exists_results (candidates : List Candidate) (start whole : Moment)
    (rounded : start.wholeSecond? = .ok whole) :
    ∃ results, candidates.mapM (fun candidate => candidate.next? start) = .ok results :=
  ⟨_, mapM_eq_map _ _ candidates fun candidate _ => candidate.next?_of_rounded start whole rounded⟩

theorem inCalendar_of_mem (candidates : List Candidate) (start : Moment)
    (inside : Wall.inCalendar start.wall = true) (results : List (Option Moment))
    (mapped : candidates.mapM (fun candidate => candidate.next? start) = .ok results)
    (found : Moment) (member : some found ∈ results) : Wall.inCalendar found.wall = true := by
  obtain ⟨candidate, _, given⟩ := (mem_of_mapM _ candidates results mapped _).mp member
  obtain ⟨_, _, _, finds⟩ := candidate.next?_finds start found inside given
  exact finds.inside

end Schedule

/-! ## Without shifts -/

def Expansions.admitted (expansions : Expansions) (since : Int) : Set Int :=
  {wall | Wall.inCalendar wall = true ∧ Wall.IsWhole wall ∧ since ≤ wall ∧
    ∀ field, (expansions.get field).admits ((Wall.fields wall).get field) = true}

theorem Expansions.mem_admitted_iff (expansions : Expansions) (kept : List Candidate)
    (built : Schedule.possibleOnly? (Candidate.combinations expansions) = .ok kept) (since wall : Int)
    (begun : 0 ≤ since) :
    wall ∈ expansions.admitted since ↔
      wall ∈ Candidate.matching (fun _ => True) kept since ∧ wall < Wall.limit := by
  simp only [admitted, Candidate.matching, Set.mem_ofPred_eq, Wall.inCalendar_iff,
    Schedule.exists_agrees_possibleOnly? _ kept built, Candidate.exists_agrees_iff, true_and]
  constructor
  · rintro ⟨⟨_, before⟩, whole, ahead, admits⟩
    exact ⟨⟨whole, ahead, admits⟩, before⟩
  · rintro ⟨⟨whole, ahead, admits⟩, before⟩
    exact ⟨⟨Int.le_trans begun ahead, before⟩, whole, ahead, admits⟩

namespace Schedule

theorem zone_of_resolve (table : ZoneTable) (defaultName : Option String) (choice : String)
    (unshifted : choice = "UTC" ∨ choice = "local") (zone : Option Zone)
    (chosen : ZoneChoice.resolve table defaultName (.byName choice) = .ok zone) :
    zone = some .universal ∨ zone = none := by
  rcases unshifted with rfl | rfl
  · have universal : ZoneChoice.resolve table defaultName (.byName "UTC") = .ok (some .universal) := rfl
    exact .inl (Except.ok.inj (chosen.symm.trans universal))
  · have system : ZoneChoice.resolve table defaultName (.byName "local") = .ok none := rfl
    exact .inr (Except.ok.inj (chosen.symm.trans system))

theorem localize?_of_placed (schedule : Schedule) (reference : Moment)
    (unshifted : schedule.zone = some .universal ∨ schedule.zone = none)
    (placed : reference.zone = none ∨ reference.zone = schedule.zone) :
    schedule.localize? reference = .ok { reference with zone := schedule.zone } := by
  obtain ⟨wall, later, zone⟩ := reference
  simp only at placed
  rcases unshifted with universal | system
  · rw [universal] at placed ⊢
    rcases placed with rfl | rfl <;>
      simp [localize?, universal, Moment.inZone?, Zone.isSame]
  · rw [system, or_self] at placed
    simp [localize?, system, placed]

theorem isShown?_of_unshifted (zone : Option Zone) (unshifted : zone = some .universal ∨ zone = none)
    (wall : Int) (later : Bool) (within : Wall.inCalendar wall = true) :
    Moment.isShown? ⟨wall, later, zone⟩ = .ok true := by
  rcases unshifted with rfl | rfl
  · exact Moment.isShown?_universal wall later within
  · exact Moment.isShown?_system wall later

section Unshifted
variable (expansions : Expansions) (kept : List Candidate)
  (possible : possibleOnly? (Candidate.combinations expansions) = .ok kept) (start : Moment)
  (unshifted : start.zone = some .universal ∨ start.zone = none)
  (inside : Wall.inCalendar start.wall = true) (results : List (Option Moment))
  (mapped : kept.mapM (fun candidate => candidate.next? start) = .ok results)
include possible unshifted inside mapped

theorem earliest_of_admitted
    (sound : ∀ candidate ∈ kept, candidate.IsBounded ∧ candidate.isPossible? = some true)
    (wall : Int) (member : wall ∈ expansions.admitted start.wall) :
    ∃ moment, earliest results = some moment ∧ moment.zone = start.zone ∧
      IsLeast (expansions.admitted start.wall) moment.wall := by
  obtain ⟨begun, ended⟩ := (Wall.inCalendar_iff _).mp inside
  let dial := Dial.unshifted start.zone (isShown?_of_unshifted start.zone unshifted)
  have since : dial.opening ≤ start.wall := begun
  have before : start.wall < dial.closing := ended
  have answers := fun other => expansions.mem_admitted_iff kept possible start.wall other begun
  obtain ⟨matched, within⟩ := (answers wall).mp member
  obtain ⟨moment, found, zone, momentBefore, _, isLeast⟩ := dial.earliest_isLeast rfl since before
    mapped sound (Nat.zero_le _) wall within matched
  exact ⟨moment, found, zone, (answers _).mpr ⟨isLeast.1, momentBefore⟩,
    fun other otherMember => isLeast.2 ((answers other).mp otherMember).1⟩

theorem admitted_of_earliest (moment : Moment) (found : earliest results = some moment) :
    moment.wall ∈ expansions.admitted start.wall := by
  obtain ⟨begun, ended⟩ := (Wall.inCalendar_iff _).mp inside
  let dial := Dial.unshifted start.zone (isShown?_of_unshifted start.zone unshifted)
  have since : dial.opening ≤ start.wall := begun
  have before : start.wall < dial.closing := ended
  obtain ⟨member, _⟩ := earliest_eq_some results moment found
  have within := inCalendar_of_mem kept start inside results mapped moment member
  rw [Wall.inCalendar_iff] at within
  obtain ⟨matched, _⟩ := dial.mem_matching rfl since before mapped moment member within.2
  exact (expansions.mem_admitted_iff kept possible start.wall _ begun).mpr ⟨matched, within.2⟩

end Unshifted

/-- In universal time and in system time, the next moment is the least whole second of the calendar from
the reference on whose fields the text's expansions all admit, and there is none only if there is no
such second. Taking all values of a field for no constraint admits the same wall times. -/
theorem next?_exact_unshifted (table : ZoneTable) (defaultName : Option String) (choice : String)
    (unshifted : choice = "UTC" ∨ choice = "local") (text : String) (schedule : Schedule)
    (built : ofText? (ZoneChoice.resolve table defaultName (.byName choice)) text = .ok schedule)
    (expression : Expression) (read : Expression.ofText? text = .ok expression)
    (expansions : Expansions)
    (expanded : ∀ field, Expansion.ofField field (expression.get field) = .ok (expansions.get field))
    (constrained : ∃ field, expansions.get field ≠ .every) (reference : Moment)
    (placed : reference.zone = none ∨ reference.zone = schedule.zone)
    (inside : Wall.inCalendar reference.wall = true)
    (notLast : reference.wall ≤ Wall.limit - Wall.second) :
    ∃ answer, schedule.next? reference = .ok answer ∧
      (∀ moment, answer = some moment → moment.zone = schedule.zone ∧
        IsLeast (expansions.admitted reference.wall) moment.wall) ∧
      (answer = none ↔ expansions.admitted reference.wall = ∅) ∧
      ∀ wall, (∀ field, (expansions.get field).admits ((Wall.fields wall).get field) = true) ↔
        ∀ field, Expansion.Names field (expression.get field) ((Wall.fields wall).get field) := by
  have sound := isSound_ofText? _ text schedule built
  obtain ⟨chosen, other, others, otherRead, otherExpanded, follows⟩ :=
    ofText?_eq_ok _ text schedule built
  cases read.symm.trans otherRead
  have same : others = expansions := PerField.ext_get fun field =>
    Except.ok.inj ((otherExpanded field).symm.trans (expanded field))
  subst same
  have zone := zone_of_resolve table defaultName choice unshifted schedule.zone chosen
  have localized := schedule.localize?_of_placed reference zone placed
  have limited : ¬ others.isEvery = true := by
    rw [Expansions.isEvery_iff]
    obtain ⟨field, fixed⟩ := constrained
    exact fun every => fixed (every field)
  rw [Follows, if_neg limited] at follows
  obtain ⟨kept, possible, listed⟩ := follows
  let start : Moment := { reference with zone := schedule.zone }
  obtain ⟨whole, rounded, _⟩ := start.wholeSecond?_of_le (Wall.limit - Wall.second)
    ((Wall.inCalendar_iff _).mp inside).1 (by decide) notLast (by decide)
  obtain ⟨results, mapped⟩ := exists_results kept start whole rounded
  have reached := earliest_of_admitted others kept possible start zone inside results mapped
    (sound kept listed)
  have admitted := admitted_of_earliest others kept possible start zone inside results mapped
  refine ⟨earliest results,
    schedule.next?_of_listed reference start localized kept listed results mapped, ?_, ?_, ?_⟩
  · intro moment found
    obtain ⟨best, bestFound, bestZone, least⟩ := reached moment.wall (admitted moment found)
    cases found.symm.trans bestFound
    exact ⟨bestZone, least⟩
  · constructor
    · intro absent
      refine Set.eq_empty_iff_forall_notMem.mpr fun wall member => ?_
      obtain ⟨moment, found, _⟩ := reached wall member
      exact absurd (absent.symm.trans found) (by simp)
    · intro empty
      cases found : earliest results with
      | none => rfl
      | some moment => exact absurd (admitted moment found) (by simp [start, empty])
  · intro wall
    exact forall_congr' fun field => Expansion.admits_iff_names field _ _ (expanded field) _
      (Wall.fields_holds wall field)

theorem next?_exact_leapDay : ∃ moment,
    next? ⟨.listed [⟨some 0, some 0, some 0, some 29, some 2⟩], some .universal,
      some ⟨"0", "0", "0", "29", "2"⟩⟩ ⟨Wall.ofTime ⟨2097, 1, 1⟩ 12 30 15 250000, false, none⟩
        = .ok (some moment) ∧
      moment.wall = Wall.ofTime ⟨2104, 2, 29⟩ 0 0 0 0 ∧
      IsLeast (Expansions.admitted ⟨.only (.ofList [0]), .only (.ofList [0]), .only (.ofList [0]),
        .only (.ofList [29]), .only (.ofList [2])⟩ (Wall.ofTime ⟨2097, 1, 1⟩ 12 30 15 250000))
        moment.wall := by
  obtain ⟨answer, given, least, _, _⟩ := next?_exact_unshifted [] none "UTC" (.inl rfl) "0 0 0 29 2"
    ⟨.listed [⟨some 0, some 0, some 0, some 29, some 2⟩], some .universal,
      some ⟨"0", "0", "0", "29", "2"⟩⟩ (by decide +kernel) ⟨"0", "0", "0", "29", "2"⟩
    (by decide +kernel) ⟨.only (.ofList [0]), .only (.ofList [0]), .only (.ofList [0]),
      .only (.ofList [29]), .only (.ofList [2])⟩ (fun field => by cases field <;> decide +kernel)
    ⟨.second, by decide⟩ ⟨Wall.ofTime ⟨2097, 1, 1⟩ 12 30 15 250000, false, none⟩ (.inl rfl)
    (by decide) (by decide)
  have evaluated : next? ⟨.listed [⟨some 0, some 0, some 0, some 29, some 2⟩], some .universal,
      some ⟨"0", "0", "0", "29", "2"⟩⟩ ⟨Wall.ofTime ⟨2097, 1, 1⟩ 12 30 15 250000, false, none⟩
        = .ok (some ⟨Wall.ofTime ⟨2104, 2, 29⟩ 0 0 0 0, false, some .universal⟩) := by
    decide +kernel
  refine ⟨_, evaluated, rfl, (least _ ?_).2⟩
  exact Except.ok.inj (given.symm.trans evaluated)

end Schedule

/-! ## With shifts -/

theorem Wall.before_of_year (wall : Int) (most : (date wall).year < 9999) :
    wall < limit - 2 * day := by
  have last : (date (limit - 2 * day)).year = 9999 := by decide +kernel
  by_contra late
  have := year_le (limit - 2 * day) wall (Int.not_lt.mp late)
  omega

namespace ZoneRules

theorem between_of_years (wall : Int) (least : 2 ≤ (Wall.date wall).year)
    (most : (Wall.date wall).year < 9999) : 2 * Wall.day ≤ wall ∧ wall < Wall.limit - 2 * Wall.day := by
  have first : (Wall.date (2 * Wall.day)).year = 1 := by decide +kernel
  refine ⟨?_, Wall.before_of_year wall most⟩
  by_contra early
  have := Wall.year_le wall (2 * Wall.day) (Int.le_of_lt (Int.not_le.mp early))
  omega

section Spaced
variable {rules : ZoneRules} (spaced : rules.IsSpaced)
include spaced

theorem IsSpaced.instant?_eq (system : ZoneRules) (name : String) (wall : Int) (later : Bool)
    (since : 2 * Wall.day ≤ wall) (before : wall < Wall.limit - 2 * Wall.day) :
    Moment.instant? system ⟨wall, later, some (.named name rules)⟩ =
      .ok (rules.instantOf ⟨wall, later⟩) := by
  have bound := spaced.offsetAfter (rules.shiftsShown ⟨wall, later⟩)
  rw [Moment.instant?_of_zone system (.named name rules) _ rfl]
  refine if_pos ?_
  rw [Wall.inCalendar_iff]
  simp only [Zone.offsetShown, Moment.reading, offsetShown]
  omega

/-- Among readings that are no later ones of two, wall time and universal time are in the same order. -/
theorem IsSpaced.instantOf_le (wall other : Int) (order : wall ≤ other) (shown : rules.Shows wall)
    (otherShown : rules.Shows other) :
    rules.instantOf ⟨wall, false⟩ ≤ rules.instantOf ⟨other, false⟩ := by
  by_contra back
  have unskipped := (spaced.shows_iff wall).mp shown
  have read := spaced.reading_instantOf ⟨wall, false⟩ unskipped
  have otherRead := spaced.reading_instantOf ⟨other, false⟩ ((spaced.shows_iff other).mp otherShown)
  simp only at read otherRead
  obtain ⟨index, repeated, _, passed, _⟩ := spaced.repeats_of_instant_lt _ _
    (by rw [read, otherRead]; exact order) (Int.not_le.mp back)
  rw [read] at repeated
  rw [spaced.shiftsPassed_instantOf _ unskipped, spaced.shiftsShown_of_repeats index _ repeated]
    at passed
  simp at passed

end Spaced
end ZoneRules

namespace Schedule

theorem localize?_zone (schedule : Schedule) (reference start : Moment)
    (localized : schedule.localize? reference = .ok start) (zone : Zone)
    (placed : schedule.zone = some zone) : start.zone = some zone := by
  simp only [localize?, placed] at localized
  split at localized
  · cases localized
    rfl
  · next own placedIn => exact reference.inZone?_zone own zone placedIn start localized

theorem matching_possibleOnly? (shows : Int → Prop) (candidates kept : List Candidate)
    (built : possibleOnly? candidates = .ok kept) (since : Int) :
    Candidate.matching shows kept since = Candidate.matching shows candidates since := by
  ext wall
  simp only [Candidate.matching, Set.mem_ofPred_eq, exists_agrees_possibleOnly? candidates kept built]

theorem exists_ofCandidates? (zone : Option Zone) (expression : Option Expression)
    (candidates : List Candidate) (bounded : ∀ candidate ∈ candidates, candidate.IsBounded) :
    ∃ kept, possibleOnly? candidates = .ok kept ∧
      ofCandidates? zone expression candidates = .ok ⟨.listed kept, zone, expression⟩ := by
  have known : ∃ kept, possibleOnly? candidates = .ok kept := by
    induction candidates with
    | nil => exact ⟨[], rfl⟩
    | cons head rest ih =>
      obtain ⟨others, kept⟩ := ih fun candidate member => bounded candidate (by simp [member])
      obtain ⟨possible, decided⟩ := (bounded head (by simp)).exists_isPossible?
      simp only [possibleOnly?, decided, kept]
      cases possible
      · exact ⟨others, rfl⟩
      · exact ⟨head :: others, rfl⟩
  obtain ⟨kept, given⟩ := known
  exact ⟨kept, given, by simp only [ofCandidates?, given]; rfl⟩

/-- With shifts at whole minutes, two days and more apart, the next moment is the least whole second
from the reference on that the zone's clocks show and that some candidate agrees with, if there is one
before the calendar's last year; and from a reference that is shown and is no later reading of two,
universal time does not go back to it. -/
theorem next?_exact_shifted (system : ZoneRules) (name : String) (rules : ZoneRules)
    (spaced : rules.IsSpaced) (minutes : rules.IsWholeMinutes) (few : rules.shifts.length ≤ 20)
    (expression : Option Expression) (candidates : List Candidate)
    (bounded : ∀ candidate ∈ candidates, candidate.IsBounded) :
    ∃ schedule, ofCandidates? (some (.named name rules)) expression candidates = .ok schedule ∧
      ∀ reference start target, schedule.localize? reference = .ok start →
        2 ≤ (Wall.date start.wall).year → (Wall.date start.wall).year ≤ 9998 →
        target ∈ Candidate.matching rules.Shows candidates start.wall →
        (Wall.date target).year < 9999 →
        ∃ moment, schedule.next? reference = .ok (some moment) ∧
          moment.zone = some (.named name rules) ∧
          IsLeast (Candidate.matching rules.Shows candidates start.wall) moment.wall ∧
          (rules.Shows start.wall → start.later = false → moment.later = false ∧
            ∃ startInstant instant, start.instant? system = .ok startInstant ∧
              moment.instant? system = .ok instant ∧ startInstant ≤ instant) := by
  obtain ⟨kept, possible, built⟩ :=
    exists_ofCandidates? (some (.named name rules)) expression candidates bounded
  refine ⟨_, built, ?_⟩
  intro reference start target localized leastYear mostYear matched targetYear
  have placed := localize?_zone _ reference start localized _ rfl
  have sound := isSound_ofCandidates? _ expression candidates bounded _ built
  have same := matching_possibleOnly? rules.Shows candidates kept possible start.wall
  obtain ⟨whole, ahead, shown, agreed⟩ := matched
  have yearOrder := Wall.year_le start.wall target ahead
  obtain ⟨since, before⟩ := ZoneRules.between_of_years start.wall leastYear (by omega)
  obtain ⟨targetSince, targetBefore⟩ := ZoneRules.between_of_years target (by omega) targetYear
  let dial := Dial.ofRules name spaced minutes
  have opened : dial.opening ≤ start.wall := since
  have closing : start.wall < dial.closing := before
  obtain ⟨rounded, given, _⟩ := start.wholeSecond?_of_le target (Int.le_trans dial.begun opened) whole
    ahead (Int.lt_of_lt_of_le targetBefore dial.ended)
  obtain ⟨results, mapped⟩ := exists_results kept start rounded given
  have fewAhead : dial.gapsAfter start.wall ≤ 39 := by
    have := rules.shiftsAhead_le start.wall
    exact Nat.le_trans this (by omega)
  have goal : target ∈ Candidate.matching dial.shows kept start.wall :=
    same ▸ ⟨whole, ahead, shown, agreed⟩
  obtain ⟨moment, found, zone, momentBefore, unmarked, least⟩ := dial.earliest_isLeast placed opened
    closing mapped (sound kept rfl) fewAhead target targetBefore goal
  refine ⟨moment, ?_, zone, same ▸ least, ?_⟩
  · rw [next?_of_listed _ reference start localized kept rfl results mapped, found]
  · intro startShown startUnmarked
    obtain ⟨_, momentAhead, momentShown, _⟩ := least.1
    have momentUnmarked := unmarked startUnmarked
    obtain ⟨startWall, startLater, startZone⟩ := start
    obtain ⟨momentWall, momentLater, momentZone⟩ := moment
    subst startUnmarked momentUnmarked placed zone
    exact ⟨rfl, _, _, spaced.instant?_eq system name startWall false since before,
      spaced.instant?_eq system name momentWall false (Int.le_trans since momentAhead) momentBefore,
      spaced.instantOf_le startWall momentWall momentAhead startShown momentShown⟩

/-- At two o'clock the clocks go on to three: half past two is looked for on the day after. -/
theorem next?_exact_skippedHalfPastTwo : ∃ schedule moment,
    ofCandidates? (some (.named "Zone" (.ofSeconds 3600 [(1616893200, 7200)]))) none
      [⟨none, some 30, some 2, none, none⟩] = .ok schedule ∧
    schedule.next? ⟨Wall.ofTime ⟨2021, 3, 28⟩ 1 0 0 0, false, none⟩ = .ok (some moment) ∧
    IsLeast (Candidate.matching (ZoneRules.ofSeconds 3600 [(1616893200, 7200)]).Shows
      [⟨none, some 30, some 2, none, none⟩] (Wall.ofTime ⟨2021, 3, 28⟩ 1 0 0 0)) moment.wall := by
  have bounded : ∀ candidate : Candidate, candidate ∈ [⟨none, some 30, some 2, none, none⟩] →
      candidate.IsBounded := by
    intro candidate member field value fixed
    rw [List.mem_singleton.mp member] at fixed
    cases field <;> cases fixed <;> rfl
  obtain ⟨schedule, built, isExact⟩ := next?_exact_shifted .universal "Zone"
    (.ofSeconds 3600 [(1616893200, 7200)]) ⟨by decide, by decide, by decide⟩ ⟨by decide, by decide⟩
    (by decide) none
    [⟨none, some 30, some 2, none, none⟩] bounded
  cases built
  have agrees : Candidate.Agrees ⟨none, some 30, some 2, none, none⟩
      (Wall.ofTime ⟨2021, 3, 29⟩ 2 30 0 0) := by
    intro field value fixed
    cases field <;> cases fixed <;> decide +kernel
  obtain ⟨moment, found, _, least, _⟩ := isExact ⟨Wall.ofTime ⟨2021, 3, 28⟩ 1 0 0 0, false, none⟩
    ⟨Wall.ofTime ⟨2021, 3, 28⟩ 1 0 0 0, false, _⟩ (Wall.ofTime ⟨2021, 3, 29⟩ 2 30 0 0) rfl
    (by decide +kernel) (by decide +kernel)
    ⟨by decide +kernel, by decide +kernel,
      ⟨Wall.ofTime ⟨2021, 3, 29⟩ 0 30 0 0, by decide +kernel⟩, _, List.mem_singleton.mpr rfl, agrees⟩
    (by decide +kernel)
  exact ⟨_, moment, rfl, found, least⟩

end Schedule
end CronClock
