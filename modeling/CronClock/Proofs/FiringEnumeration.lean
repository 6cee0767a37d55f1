import CronClock.Proofs.Enumeration
import CronClock.Proofs.FiringOrder

/-! # A loop fires the upcoming moments

In universal time a loop fires one upcoming moment after another, each at its own time, as long as a
pause and the block's work together take no more than a second: the search after a firing sets out
within the second after it, and so finds what a search from the end of that second finds,
`Schedule.next?_of_sameSecond`. One round of a loop is `Firing.GoesOn`, a run of them
`Firing.fired_take`. -/
set_option autoImplicit false
namespace CronClock

/-! ## One round -/

namespace Firing
variable {ε α β : Type}

theorem sleep_of_inside (span : Int) (world : World ε) (supply : world.sleepsLeft ≠ 0)
    (inside : Wall.inCalendar (world.clock + span) = true) :
    sleep span world = .after (.slept span) (.value (world.slept span) ()) := by
  rcases sleep_cases span world with ⟨_, _, rested⟩ | ⟨_, _, _, _, ⟨spent, _⟩ | ⟨_, outside, _⟩⟩
  · exact rested
  · exact absurd spent supply
  · simp [inside] at outside

theorem work_of_inside (block : Block ε α) (world : World ε)
    (inside : Wall.inCalendar (world.clock + block.takes.span world.calls) = true) :
    work block world = .value (world.worked block.takes) () := by
  rcases work_cases block world with ⟨_, worked⟩ | ⟨outside, _⟩
  · exact worked
  · simp [inside] at outside

theorem await_of_plan (planner : Planner) (world : World ε) (spare : 1 ≤ world.sleepsLeft)
    (moment : Moment) (delay : Int) (planned : plan? planner world.clock = .ok (some (moment, delay)))
    (short : delay < finest) (arrives : Wall.inCalendar (world.clock + max 0 delay) = true)
    (following : World ε → Option Moment → Leg ε β) :
    ∃ after : World ε, after.clock = world.clock + max 0 delay ∧
      world.sleepsLeft ≤ after.sleepsLeft + 1 ∧ after.calls = world.calls ∧
      ((await planner world).andThen following).fired = (following after (some moment)).fired := by
  unfold await
  simp only [planned]
  by_cases ahead : 0 < delay
  · rw [max_eq_right (Int.le_of_lt ahead)] at arrives ⊢
    rw [if_pos ahead, requested_eq delay (Int.le_of_lt ahead) short,
      sleep_of_inside delay world (by omega) arrives]
    refine ⟨world.slept delay, rfl, ?_, rfl, ?_⟩
    · simp only [World.slept]
      omega
    · simp [Leg.fired_after, note, Happening.fired?]
  · rw [max_eq_left (Int.not_lt.mp ahead), if_neg ahead]
    exact ⟨world, by omega, by omega, rfl, by simp⟩

/-- A round with sleeps to spare, whose wait and work end in the calendar, fires the planned moment at
the end of the wait; `rest` is what the rounds after it fire. -/
theorem fired_round (planner : Planner) (pause : Int) (takes : Pace) (world : World ε)
    (spare : 2 ≤ world.sleepsLeft) (inside : Wall.inCalendar (world.clock + pause) = true)
    (moment : Moment) (delay : Int)
    (planned : plan? planner (world.clock + pause) = .ok (some (moment, delay)))
    (short : delay < finest) (arrives : Wall.inCalendar (world.clock + pause + max 0 delay) = true)
    (works : Wall.inCalendar (world.clock + pause + max 0 delay + takes.span world.calls) = true)
    (following : World ε → Option Moment → Leg ε β) (rest : World ε → List (Moment × Int))
    (fires : ∀ world : World ε, Wall.inCalendar (world.clock + takes.span world.calls) = true →
      (following world (some moment)).fired = (moment, world.clock) :: rest (world.worked takes)) :
    ∃ after : World ε, after.clock = world.clock + pause + max 0 delay + takes.span world.calls ∧
      world.sleepsLeft ≤ after.sleepsLeft + 2 ∧
      ((sleep pause world).andThen fun world _ => (await planner world).andThen following).fired
        = (moment, world.clock + pause + max 0 delay) :: rest after := by
  have left : (world.slept pause).sleepsLeft = world.sleepsLeft - 1 := rfl
  obtain ⟨waited, clock, kept, calls, fired⟩ := await_of_plan planner (world.slept pause) (by omega)
    moment delay planned short arrives following
  rw [World.slept_clock] at clock
  rw [World.slept_calls] at calls
  rw [← clock, ← calls] at works
  rw [sleep_of_inside pause world (by omega) inside]
  refine ⟨waited.worked takes, by rw [World.worked_clock, clock, calls], ?_, ?_⟩
  · simp only [World.worked]
    omega
  · simp only [Leg.andThen_after, Leg.andThen_value, Leg.fired_after, Happening.fired?,
      Option.toList_none, List.nil_append]
    rw [fired, fires waited works, clock]

section Loops
variable (planner : Planner) (pause : Int) (block : Block ε α)

/-- A loop that does not end with a firing: the rounds after it set out from the end of the block's
work. -/
def GoesOn (takes : Pace) (loop : Nat → World ε → Leg ε Unit) : Prop :=
  ∀ rounds (world : World ε) moment delay, 2 ≤ world.sleepsLeft →
    Wall.inCalendar (world.clock + pause) = true →
    plan? planner (world.clock + pause) = .ok (some (moment, delay)) → delay < finest →
    Wall.inCalendar (world.clock + pause + max 0 delay) = true →
    Wall.inCalendar (world.clock + pause + max 0 delay + takes.span world.calls) = true →
    ∃ after : World ε, after.clock = world.clock + pause + max 0 delay + takes.span world.calls ∧
      world.sleepsLeft ≤ after.sleepsLeft + 2 ∧
      (loop (rounds + 1) world).fired
        = (moment, world.clock + pause + max 0 delay) :: (loop rounds after).fired

theorem goesOn_whileContinued
    (answers : ∀ calls, ∃ value, block.answer calls = .ok value ∧ block.continues value = true) :
    GoesOn planner pause block.takes (whileContinued planner pause block) := by
  intro rounds world moment delay spare inside planned short arrives works
  rw [whileContinued]
  refine fired_round planner pause block.takes world spare inside moment delay planned short arrives
    works _ _ ?_
  intro awake works
  obtain ⟨value, answer, continues⟩ := answers awake.calls
  simp [Leg.fired_after, announce, note, call, work_of_inside block awake works, answer, continues,
    Happening.fired?]

theorem goesOn_stream : GoesOn planner pause block.takes (stream planner pause block none) := by
  intro rounds world moment delay spare inside planned short arrives works
  rw [stream]
  refine fired_round planner pause block.takes world spare inside moment delay planned short arrives
    works _ _ ?_
  intro awake works
  simp [Leg.fired_after, work_of_inside block awake works, Happening.fired?]

end Loops
end Firing

/-! ## Searches in universal time -/

namespace Schedule
section Universal
variable (system : ZoneRules) (schedule : Schedule) (placed : schedule.zone = some .universal)
include placed

theorem isClocked_of_universal : schedule.IsClocked system :=
  .of_zone placed ⟨by decide, by decide, by decide⟩

theorem clock?_universal (now : Int) (inside : Wall.inCalendar now = true) :
    schedule.clock? system now = .ok ⟨now, false, some .universal⟩ := by
  rw [clock?, placed]
  simp only [Moment.atInstant?_eq, Zone.reading, inside, if_true]
  rfl

omit system in
theorem localize?_universal (moment : Moment) (own : moment.zone = some .universal) :
    schedule.localize? moment = .ok moment :=
  schedule.localize?_of_own .universal rfl placed moment own

variable (candidates : List Candidate) (listed : schedule.timetable = .listed candidates)
include listed

theorem next?_universal (now : Int) (inside : Wall.inCalendar now = true) (moment : Moment)
    (given : schedule.next? ⟨now, false, some .universal⟩ = .ok (some moment)) :
    moment.zone = some .universal ∧ now ≤ moment.wall ∧ Wall.IsWhole moment.wall ∧
      moment.instant? system = .ok moment.wall := by
  have clocks := schedule.isClocked_of_universal system placed
  have clocked := schedule.clock?_universal system placed now inside
  obtain ⟨zone, _, ahead⟩ := schedule.next?_shown system clocks now inside _ clocked moment given
  rcases schedule.next?_cases system clocks now inside _ clocked moment given with
    ⟨anyTime, _⟩ | ⟨_, _, _, _, _, _, _, finds⟩
  · simp [listed] at anyTime
  · refine ⟨zone.trans placed, ahead, finds.whole, ?_⟩
    rw [Moment.instant?_of_zone system .universal moment (zone.trans placed), Moment.instantIn?_eq]
    simp [Zone.offsetShown, Moment.reading, finds.inside]

theorem next?_near (sound : schedule.IsSound) (now : Int) (inside : Wall.inCalendar now = true)
    (moment : Moment) (given : schedule.next? ⟨now, false, some .universal⟩ = .ok (some moment)) :
    moment.wall - now < Firing.finest := by
  have clocks := schedule.isClocked_of_universal .universal placed
  have clocked := schedule.clock?_universal .universal placed now inside
  rcases schedule.next?_cases .universal clocks now inside _ clocked moment given with
    ⟨anyTime, _⟩ | ⟨others, candidate, start, otherListed, member, rounded, searched, finds⟩
  · simp [listed] at anyTime
  · cases listed.symm.trans otherListed
    obtain ⟨bounded, possible⟩ := sound candidates listed candidate member
    obtain ⟨goal, agrees, whole, ahead, near⟩ := bounded.exists_near possible now
    have within := finds.inside
    have begun := inside
    rw [Wall.inCalendar_iff] at within begun
    have length : 4000 * Wall.day < Firing.finest := by decide
    by_cases late : goal < Wall.limit
    · let dial := Dial.unshifted (some .universal) (isShown?_of_unshifted _ (.inl rfl))
      obtain ⟨found, result, before⟩ := dial.next?_reaches bounded possible agrees trivial late
        ⟨now, false, some .universal⟩ rfl begun.1 whole ahead (Nat.zero_le _)
      rw [candidate.next?_of_rounded _ start rounded, searched] at result
      cases result
      omega
    · omega

theorem plan?_universal (now : Int) (inside : Wall.inCalendar now = true) (moment : Moment)
    (given : schedule.next? ⟨now, false, some .universal⟩ = .ok (some moment)) :
    Firing.plan? (schedule.planner system) now = .ok (some (moment, moment.wall - now)) := by
  obtain ⟨_, _, _, located⟩ :=
    schedule.next?_universal system placed candidates listed now inside moment given
  have begun : Moment.instant? system ⟨now, false, some .universal⟩ = .ok now := by
    rw [Moment.instant?_of_zone system .universal _ rfl, Moment.instantIn?_eq]
    simp [Zone.offsetShown, Moment.reading, inside]
  simp only [Firing.plan?, planner, schedule.clock?_universal system placed now inside, given,
    Moment.elapsed?, located, begun, bind, Except.bind]
  rfl

omit system in
/-- Within the second after a whole one, every search finds what a search from its end finds. -/
theorem next?_of_sameSecond (wall now : Int) (whole : Wall.IsWhole wall) (after : wall < now)
    (within : now ≤ wall + Wall.second) (inside : Wall.inCalendar (wall + Wall.second) = true) :
    schedule.next? ⟨now, false, some .universal⟩
      = schedule.next? ⟨wall + Wall.second, false, some .universal⟩ := by
  have rounds : ∀ other, wall < other → other ≤ wall + Wall.second →
      Moment.wholeSecond? ⟨other, false, some .universal⟩
        = .ok ⟨wall + Wall.second, false, some .universal⟩ := by
    intro other beyond upto
    simp only [Wall.IsWhole, Wall.microsecond, Wall.second] at whole upto
    by_cases last : other = wall + Wall.second
    · subst last
      refine if_pos ?_
      simp only [Wall.microsecond, Wall.second]
      omega
    · have begun : Wall.truncate Wall.second other = wall := by
        simp only [Wall.truncate, Wall.second] at last ⊢
        omega
      simp only [Moment.wholeSecond?, Moment.plus?_eq, begun, inside, if_true]
      refine if_neg ?_
      simp only [Wall.microsecond, Wall.second] at last ⊢
      omega
  have last : wall < wall + Wall.second := by
    simp only [Wall.second]
    omega
  rw [schedule.next?_of_rounded _ _ _ (schedule.localize?_universal placed _ rfl) candidates listed
      (rounds now after within),
    schedule.next?_of_rounded _ _ _ (schedule.localize?_universal placed _ rfl) candidates listed
      (rounds _ last (Int.le_refl _))]

end Universal

theorem exists_listed (choice : Except ZoneFault (Option Zone)) (text : String) (schedule : Schedule)
    (built : ofText? choice text = .ok schedule) (expression : Expression)
    (read : Expression.ofText? text = .ok expression) (expansions : Expansions)
    (expanded : ∀ field, Expansion.ofField field (expression.get field) = .ok (expansions.get field))
    (constrained : ∃ field, expansions.get field ≠ .every) :
    ∃ candidates, possibleOnly? (Candidate.combinations expansions) = .ok candidates ∧
      schedule.timetable = .listed candidates := by
  obtain ⟨_, other, others, otherRead, otherExpanded, follows⟩ := ofText?_eq_ok _ text schedule built
  cases read.symm.trans otherRead
  have same : others = expansions := PerField.ext_get fun field =>
    Except.ok.inj ((otherExpanded field).symm.trans (expanded field))
  subst same
  have limited : ¬ others.isEvery = true := by
    rw [Expansions.isEvery_iff]
    obtain ⟨field, fixed⟩ := constrained
    exact fun every => fixed (every field)
  rwa [Follows, if_neg limited] at follows

theorem upcoming_succ (schedule : Schedule) (count : Nat) (reference : Moment) (moments : List Moment)
    (given : schedule.upcoming (count + 1) reference = ⟨moments, none⟩)
    (length : moments.length = count + 1) :
    ∃ moment rest, moments = moment :: rest ∧ schedule.next? reference = .ok (some moment) ∧
      Wall.inCalendar (moment.wall + Wall.second) = true ∧
      schedule.upcoming count ⟨moment.wall + Wall.second, false, moment.zone⟩ = ⟨rest, none⟩ ∧
      rest.length = count := by
  rw [upcoming] at given
  split at given
  · simp at given
  · cases given
    simp at length
  · next moment found =>
    rw [Moment.plus?_eq] at given
    by_cases inside : Wall.inCalendar (moment.wall + Wall.second) = true
    · simp only [inside, if_true, Upcoming.cons, Upcoming.mk.injEq] at given
      obtain ⟨rfl, faultless⟩ := given
      refine ⟨moment, _, rfl, found, inside, ?_, by simpa using length⟩
      rw [← faultless]
    · simp [inside] at given

end Schedule

namespace Firing

/-- A loop that goes on after every firing fires the upcoming moments, each at its own time. -/
theorem fired_take {ε : Type} (system : ZoneRules) (schedule : Schedule) (sound : schedule.IsSound)
    (placed : schedule.zone = some .universal) (candidates : List Candidate)
    (listed : schedule.timetable = .listed candidates) (pause : Int) (positive : 0 < pause)
    (takes : Pace) (brief : ∀ calls, 0 ≤ takes.span calls ∧ pause + takes.span calls ≤ Wall.second)
    (loop : Nat → World ε → Leg ε Unit) (goesOn : GoesOn (schedule.planner system) pause takes loop)
    (count rounds : Nat) (world : World ε) (reference : Moment) (moments : List Moment)
    (inside : Wall.inCalendar (world.clock + pause) = true)
    (same : schedule.next? ⟨world.clock + pause, false, some .universal⟩ = schedule.next? reference)
    (given : schedule.upcoming count reference = ⟨moments, none⟩) (length : moments.length = count)
    (spare : 2 * count ≤ world.sleepsLeft) (enough : count ≤ rounds) :
    (loop rounds world).fired.take count = moments.map (fun moment => (moment, moment.wall)) ∧
      ∀ moment ∈ moments, moment.instant? system = .ok moment.wall := by
  -- On the count: after each firing the search sets out within the second from which the upcoming
  -- moments go on.
  induction count generalizing rounds world reference moments with
  | zero => simp [List.eq_nil_of_length_eq_zero length]
  | succ count ih =>
    obtain ⟨moment, others, rfl, found, followed, given, length⟩ :=
      schedule.upcoming_succ count reference moments given length
    obtain ⟨rounds, rfl⟩ : ∃ fewer, rounds = fewer + 1 := ⟨rounds - 1, by omega⟩
    have next := same.trans found
    obtain ⟨zone, ahead, whole, located⟩ :=
      schedule.next?_universal system placed candidates listed _ inside moment next
    obtain ⟨works, briefly⟩ := brief world.calls
    have planned := schedule.plan?_universal system placed candidates listed _ inside moment next
    have short := schedule.next?_near placed candidates listed sound _ inside moment next
    have arrival : world.clock + pause + max 0 (moment.wall - (world.clock + pause)) = moment.wall := by
      omega
    have later : ∀ span, 0 ≤ span → span ≤ Wall.second →
        Wall.inCalendar (moment.wall + span) = true := by
      intro span since upto
      rw [Wall.inCalendar_iff] at inside followed ⊢
      omega
    obtain ⟨after, clock, left, fired⟩ := goesOn rounds world moment _ (by omega) inside planned
      short (by rw [arrival]; simpa using later 0 (by decide) (by decide))
      (by rw [arrival]; exact later _ works (by omega))
    rw [arrival] at clock fired
    have resumed : after.clock + pause = moment.wall + (takes.span world.calls + pause) := by omega
    obtain ⟨taken, instants⟩ := ih rounds after _ others
      (by rw [resumed]; exact later _ (by omega) (by omega))
      (by
        rw [zone]
        exact schedule.next?_of_sameSecond placed candidates listed moment.wall _ whole (by omega)
          (by omega) followed)
      given length (by omega) (by omega)
    refine ⟨?_, ?_⟩
    · rw [fired, List.take_succ_cons, taken, List.map_cons]
    · intro other member
      rcases List.mem_cons.mp member with rfl | member
      · exact located
      · exact instants other member

def Form.KeepsGoing {ε α : Type} (block : Block ε α) : Form → Prop
  | once => False
  | whileContinued =>
    ∀ calls, ∃ value, block.answer calls = .ok value ∧ block.continues value = true
  | forever => ∀ calls, ∃ value, block.answer calls = .ok value
  | ticks limit => limit = none

theorem exists_goesOn {ε α : Type} (planner : Planner) (pause : Int) (block : Block ε α) (form : Form)
    (keeps : form.KeepsGoing block) :
    ∃ loop : Nat → World ε → Leg ε Unit, GoesOn planner pause block.takes loop ∧ ∀ world,
      (run planner pause block form world).fired = (loop (world.sleepsLeft + 1) world).fired := by
  cases form with
  | once => exact False.elim keeps
  | whileContinued =>
    refine ⟨_, goesOn_whileContinued planner pause block keeps, fun world => ?_⟩
    rw [Leg.fired, happenings_run, Leg.fired]
  | forever =>
    have answers : ∀ calls, ∃ value, block.unending.answer calls = .ok value ∧
        block.unending.continues value = true := by
      intro calls
      obtain ⟨value, answer⟩ := keeps calls
      exact ⟨value, answer, rfl⟩
    refine ⟨_, goesOn_whileContinued planner pause block.unending answers, fun world => ?_⟩
    rw [Leg.fired, happenings_run, Leg.fired]
  | ticks limit =>
    subst keeps
    refine ⟨_, goesOn_stream planner pause block, fun world => ?_⟩
    rw [Leg.fired, happenings_run, Leg.fired]

/-- In universal time a loop whose pause and work together take no more than a second fires the upcoming
moments from its first pause's end on, none left out and none repeated, each when the clock shows it. A
firing takes two sleeps at most, so a world with twice as many sleeps left cannot end the loop first. -/
theorem fired_exact {ε α : Type} (system : ZoneRules) (text : String) (schedule : Schedule)
    (built : Schedule.ofText? (.ok (some .universal)) text = .ok schedule) (expression : Expression)
    (read : Expression.ofText? text = .ok expression) (expansions : Expansions)
    (expanded : ∀ field, Expansion.ofField field (expression.get field) = .ok (expansions.get field))
    (constrained : ∃ field, expansions.get field ≠ .every) (pause : Int) (positive : 0 < pause)
    (block : Block ε α)
    (brief : ∀ calls, 0 ≤ block.takes.span calls ∧ pause + block.takes.span calls ≤ Wall.second)
    (form : Form) (keeps : form.KeepsGoing block) (world : World ε)
    (inside : Wall.inCalendar world.clock = true) (count : Nat) (spare : 2 * count ≤ world.sleepsLeft)
    (targets : Finset Int) (enough : count ≤ targets.card)
    (matched : ∀ target ∈ targets, target ∈ expansions.admitted (world.clock + pause) ∧
      (Wall.date target).year < 9999) :
    ∃ moments, schedule.upcoming count ⟨world.clock + pause, false, some .universal⟩ = ⟨moments, none⟩ ∧
      moments.length = count ∧
      (run (schedule.planner system) pause block form world).fired.take count
        = moments.map (fun moment => (moment, moment.wall)) ∧
      ∀ moment ∈ moments, moment.instant? system = .ok moment.wall := by
  rcases Nat.eq_zero_or_pos count with rfl | some
  · exact ⟨[], rfl, rfl, rfl, by simp⟩
  have sound := Schedule.isSound_ofText? _ text schedule built
  obtain ⟨candidates, possible, listed⟩ := Schedule.exists_listed _ text schedule built expression read
    expansions expanded constrained
  have placed : schedule.zone = Option.some .universal :=
    (Except.ok.inj (Schedule.ofText?_eq_ok _ text schedule built).1).symm
  have own := schedule.localize?_universal placed
  have begun : 0 ≤ world.clock + pause := by
    rw [Wall.inCalendar_iff] at inside
    omega
  let dial := Dial.unshifted (Option.some .universal)
    (Schedule.isShown?_of_unshifted _ (.inl rfl))
  obtain ⟨moments, given, length, _, _⟩ := dial.upcoming_areFirst schedule sound candidates listed own
    (Wall.limit - 2 * Wall.day) (by decide) (by decide) count
    ⟨world.clock + pause, false, Option.some .universal⟩ _ (own _ rfl) rfl begun (Nat.zero_le _) targets
    enough (by
      intro target member
      obtain ⟨admitted, year⟩ := matched target member
      exact ⟨((expansions.mem_admitted_iff candidates possible _ _ begun).mp admitted).1,
        Wall.before_of_year target year⟩)
  have start : Wall.inCalendar (world.clock + pause) = true := by
    obtain ⟨target, member⟩ := Finset.card_pos.mp (Nat.lt_of_lt_of_le some enough)
    obtain ⟨⟨within, _, ahead, _⟩, _⟩ := matched target member
    rw [Wall.inCalendar_iff] at within ⊢
    omega
  obtain ⟨loop, goesOn, runs⟩ := exists_goesOn (schedule.planner system) pause block form keeps
  obtain ⟨fired, instants⟩ := fired_take system schedule sound placed candidates listed pause positive
    block.takes brief loop goesOn count (world.sleepsLeft + 1) world _ moments start rfl given length
    spare (by omega)
  exact ⟨moments, given, length, by rw [runs]; exact fired, instants⟩

/-- A pause and work of exactly one second together leave out none of three seconds in a row. -/
theorem fired_exact_everySecond : ∃ schedule moments,
    Schedule.ofText? (.ok (some .universal)) "0,1,2 * * * *" = .ok schedule ∧
    schedule.upcoming 3 ⟨Wall.ofTime ⟨2021, 1, 1⟩ 0 0 0 0, false, some .universal⟩ = ⟨moments, none⟩ ∧
    moments.length = 3 ∧
    (run (schedule.planner .universal) 400000
        (⟨fun _ => .ok true, .steady 600000, id⟩ : Block Unit Bool) .forever
        ⟨Wall.ofTime ⟨2020, 12, 31⟩ 23 59 59 600000, 6, 0, ()⟩).fired.take 3
      = moments.map (fun moment => (moment, moment.wall)) := by
  have admitted : ∀ second, second = 0 ∨ second = 1 ∨ second = 2 →
      Wall.ofTime ⟨2021, 1, 1⟩ 0 0 second 0 ∈ Expansions.admitted
        ⟨.only (.ofList [0, 1, 2]), .every, .every, .every, .every⟩
        (Wall.ofTime ⟨2020, 12, 31⟩ 23 59 59 600000 + 400000) ∧
      (Wall.date (Wall.ofTime ⟨2021, 1, 1⟩ 0 0 second 0)).year < 9999 := by
    rintro second (rfl | rfl | rfl)
    all_goals
      refine ⟨⟨by decide +kernel, by decide +kernel, by decide +kernel, ?_⟩, by decide +kernel⟩
      intro field
      cases field <;> decide +kernel
  have brief : (0 : Int) ≤ 600000 ∧ (400000 : Int) + 600000 ≤ Wall.second := by decide
  obtain ⟨moments, given, length, fired, _⟩ := fired_exact .universal "0,1,2 * * * *"
    ⟨.listed [⟨some 0, none, none, none, none⟩, ⟨some 1, none, none, none, none⟩,
      ⟨some 2, none, none, none, none⟩], some .universal, some ⟨"0,1,2", "*", "*", "*", "*"⟩⟩
    (by decide +kernel) ⟨"0,1,2", "*", "*", "*", "*"⟩ (by decide +kernel)
    ⟨.only (.ofList [0, 1, 2]), .every, .every, .every, .every⟩
    (fun field => by cases field <;> decide +kernel) ⟨.second, by decide⟩ 400000 (by decide)
    (⟨fun _ => .ok true, .steady 600000, id⟩ : Block Unit Bool) (fun _ => brief) .forever
    (fun _ => ⟨true, rfl⟩) ⟨Wall.ofTime ⟨2020, 12, 31⟩ 23 59 59 600000, 6, 0, ()⟩ (by decide +kernel) 3
    (by decide) {Wall.ofTime ⟨2021, 1, 1⟩ 0 0 0 0, Wall.ofTime ⟨2021, 1, 1⟩ 0 0 1 0,
      Wall.ofTime ⟨2021, 1, 1⟩ 0 0 2 0} (by decide +kernel) (by
      intro target member
      rw [Finset.mem_insert, Finset.mem_insert, Finset.mem_singleton] at member
      rcases member with rfl | rfl | rfl
      · exact admitted 0 (.inl rfl)
      · exact admitted 1 (.inr (.inl rfl))
      · exact admitted 2 (.inr (.inr rfl)))
  exact ⟨_, moments, by decide +kernel, given, length, fired⟩

end Firing
end CronClock
