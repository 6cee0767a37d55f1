import CronClock.Proofs.FiringRounds
import CronClock.Proofs.RealTime
import CronClock.Proofs.RequestedSleep

/-! # The order of firings

A round of a loop pauses, waits for the planner's next moment and fires, so each search sets out after
the firing before it. As long as no wait has more microseconds than its seconds tell apart, the moments
of a schedule's run come in the order of their instants unless a search turns back, or ends at a wall
time that the machine's clocks skip, `Firing.ascending_iff`. -/
set_option autoImplicit false
namespace CronClock

namespace Moment

theorem instant?_inCalendar (system : ZoneRules) (moment : Moment) (instant : Int)
    (located : moment.instant? system = .ok instant) : Wall.inCalendar instant = true := by
  cases placed : moment.zone with
  | none => exact ((moment.instant?_of_system system placed instant).mp located).2
  | some zone =>
    rw [moment.instant?_eq_checked system zone placed, checked] at located
    split at located
    · next inside =>
      cases located
      exact inside
    · cases located

end Moment

namespace Firing

theorem sum_waits (delay : Int) (within : delay < Wall.limit)
    (brief : ∀ wait ∈ waits delay, wait < finest) : (waits delay).sum = max 0 delay := by
  unfold waits at *
  by_cases ahead : 0 < delay
  · rw [if_pos ahead] at brief ⊢
    have short : requested delay < finest := brief _ List.mem_cons_self
    rw [List.sum_singleton, eq_of_requested delay (Int.le_of_lt ahead) within short]
    omega
  · rw [if_neg ahead, List.sum_nil]
    omega

end Firing

/-! ## What a schedule's run fires -/

namespace Schedule

def TurnsBackTo (system : ZoneRules) (schedule : Schedule) (firing : Moment × Int) : Prop :=
  ∃ reference, schedule.clock? system firing.2 = .ok reference ∧
    schedule.TurnsBack system reference firing.1

/-- If the search for the second firing turned back, or ended at a wall time that the clocks skip, then
still not before what they show when the first is due. -/
def InOrder (system : ZoneRules) (schedule : Schedule) (before after : Moment × Int) : Prop :=
  schedule.TurnsBackTo system after ∨ ¬ (schedule.rules system).Shows after.1.wall →
    ∃ due next, (schedule.rules system).IsDue before.1.reading due ∧
      (schedule.rules system).IsDue after.1.reading next ∧ (schedule.rules system).Precedes due next

structure Fires (system : ZoneRules) (schedule : Schedule) (since : Int) (firing : Moment × Int)
    (instant : Int) : Prop where
  located : firing.1.instant? system = .ok instant
  due : ∀ due, (schedule.rules system).IsDue firing.1.reading due →
    (schedule.rules system).Shows due.wall ∧ instant = (schedule.rules system).instantOf due
  reached : instant ≤ firing.2
  kept : ¬ schedule.TurnsBackTo system firing → (schedule.rules system).Shows firing.1.wall →
    since < instant
  turned : schedule.TurnsBackTo system firing → firing.1.later = false

theorem shows_of_turnsBack {system : ZoneRules} {schedule : Schedule} {reference moment : Moment}
    (spaced : (schedule.rules system).IsSpaced) (turns : schedule.TurnsBack system reference moment) :
    (schedule.rules system).Shows moment.wall := by
  obtain ⟨_, ⟨index, _, repeated⟩, _⟩ := turns
  exact spaced.shows_of_repeats index moment.wall repeated

section Fires
variable (system : ZoneRules) (schedule : Schedule) (clocks : schedule.IsClocked system)
include clocks

theorem plan?_eq_ok (now : Int) (moment : Moment) (delay : Int)
    (planned : Firing.plan? (schedule.planner system) now = .ok (some (moment, delay))) :
    ∃ reference instant, schedule.clock? system now = .ok reference ∧
      schedule.next? reference = .ok (some moment) ∧ moment.instant? system = .ok instant ∧
      Wall.inCalendar now = true ∧ delay = instant - now := by
  rw [Firing.plan?, bind_eq_ok] at planned
  obtain ⟨reference, clocked, planned⟩ := planned
  rw [bind_eq_ok] at planned
  obtain ⟨answer, given, planned⟩ := planned
  cases answer with
  | none => simp [pure_eq_ok] at planned
  | some found =>
    simp only [bind_eq_ok, pure_eq_ok, Moment.elapsed?] at planned
    obtain ⟨span, ⟨instant, located, start, startLocated, passed⟩, same⟩ := planned
    cases same
    have begun := schedule.instant?_of_clock? system clocks now reference clocked start startLocated
    have inside := reference.instant?_inCalendar system start startLocated
    rw [begun] at passed inside
    exact ⟨reference, instant, clocked, given, located, inside, passed.symm⟩

/-- A firing comes after the one before it exactly if its search did not turn back to that. -/
theorem lt_iff_inOrder (since : Int) (before after : Moment × Int) (instant next : Int)
    (fires : schedule.Fires system since before instant)
    (afterFires : schedule.Fires system before.2 after next) :
    instant < next ↔ schedule.InOrder system before after := by
  have spaced := clocks.spaced
  by_cases held : schedule.TurnsBackTo system after ∨ ¬ (schedule.rules system).Shows after.1.wall
  · have unmarked : ∀ due, (schedule.rules system).IsDue after.1.reading due → due.later = false := by
      intro due isDue
      cases isDue with
      | shown shown =>
        rcases held with turns | hidden
        · exact afterFires.turned turns
        · exact absurd shown hidden
      | skipped index shift found skips => rfl
    have decided : ∀ due other, (schedule.rules system).IsDue before.1.reading due →
        (schedule.rules system).IsDue after.1.reading other →
        (instant < next ↔ (schedule.rules system).Precedes due other) := by
      intro due other isDue otherIsDue
      obtain ⟨shown, same⟩ := fires.due due isDue
      obtain ⟨otherShown, otherSame⟩ := afterFires.due other otherIsDue
      rw [same, otherSame]
      exact spaced.instantOf_lt_iff_precedes due other shown otherShown (unmarked other otherIsDue)
    constructor
    · intro order _
      obtain ⟨due, isDue⟩ := spaced.exists_isDue before.1.reading
      obtain ⟨other, otherIsDue⟩ := spaced.exists_isDue after.1.reading
      exact ⟨due, other, isDue, otherIsDue, (decided due other isDue otherIsDue).mp order⟩
    · intro inOrder
      obtain ⟨due, other, isDue, otherIsDue, precedes⟩ := inOrder held
      exact (decided due other isDue otherIsDue).mpr precedes
  · obtain ⟨straight, shown⟩ := not_or.mp held
    have reached := fires.reached
    have kept := afterFires.kept straight (not_not.mp shown)
    refine iff_of_true (by omega) ?_
    intro turns
    exact absurd turns held

theorem eq_instantOf_of_isDue (moment : Moment) (placed : moment.zone = schedule.zone)
    (shown : schedule.zone ≠ none → (schedule.rules system).Shows moment.wall) (instant : Int)
    (located : moment.instant? system = .ok instant) (due : Reading)
    (isDue : (schedule.rules system).IsDue moment.reading due) :
    (schedule.rules system).Shows due.wall ∧ instant = (schedule.rules system).instantOf due := by
  have spaced := clocks.spaced
  cases zone : schedule.zone with
  | none =>
    rw [rules, zone, rulesOf] at spaced isDue ⊢
    obtain ⟨found, _⟩ := (moment.instant?_of_system system (placed.trans zone) instant).mp located
    exact spaced.eq_instantOf_of_isDue (clocks.gradual zone) moment.reading due isDue instant found
  | some own =>
    have real := shown (by simp [zone])
    cases isDue with
    | shown shows =>
      refine ⟨shows, ?_⟩
      rw [rules, ← placed] at spaced real ⊢
      exact moment.eq_instantOf system spaced (by simp [placed, zone]) real instant located
    | skipped index shift found skips =>
      exact absurd skips (spaced.not_skips_of_shows moment.wall real index)

variable (sound : schedule.IsSound) (single : schedule.IsSingle)
include sound single

theorem fires_of_plan (since now delay : Int) (after : since < now) (moment : Moment)
    (planned : Firing.plan? (schedule.planner system) now = .ok (some (moment, delay)))
    (brief : ∀ wait ∈ Firing.waits delay, wait < Firing.finest) :
    ∃ instant, schedule.Fires system since (moment, now + (Firing.waits delay).sum) instant := by
  have spaced := clocks.spaced
  obtain ⟨reference, instant, clocked, given, located, inside, rfl⟩ :=
    schedule.plan?_eq_ok system clocks now moment delay planned
  obtain ⟨placed, shown, order⟩ :=
    schedule.next?_shown system clocks now inside reference clocked moment given
  have reached := moment.instant?_inCalendar system instant located
  have bounds := inside
  rw [Wall.inCalendar_iff] at reached bounds
  rw [Firing.sum_waits _ (by omega) brief]
  have due := schedule.eq_instantOf_of_isDue system clocks moment placed shown instant located
  have back : (schedule.rules system).Shows moment.wall →
      (instant < now ↔ schedule.TurnsBack system reference moment) := by
    intro real
    rw [(due moment.reading (.shown real)).2]
    exact schedule.instantOf_lt_iff_turnsBack system clocks now inside reference clocked moment given
      sound single real
  refine ⟨instant, located, due, by simp only; omega, ?_, ?_⟩
  · intro straight real
    have notBefore : ¬ instant < now := by
      intro before
      have stays : now + max 0 (instant - now) = now := by omega
      rw [stays] at straight
      exact straight ⟨reference, clocked, (back real).mp before⟩
    omega
  · intro turns
    obtain ⟨other, otherClocked, turnsBack⟩ := turns
    have real : (schedule.rules system).Shows moment.wall := shows_of_turnsBack spaced turnsBack
    by_cases before : instant < now
    · obtain ⟨read, _, _⟩ := schedule.clock?_eq_ok system clocks now reference clocked
      have instantOf := (due moment.reading (.shown real)).2
      obtain ⟨_, earlier, _⟩ := (spaced.instantOf_lt_iff now moment.reading real
        (by rw [← read]; exact order)).mp (by rw [← instantOf]; exact before)
      exact earlier
    · -- The wait ended at the moment's instant, where no search turns back to it.
      exfalso
      have arrives : now + max 0 (instant - now) = instant := by omega
      rw [arrives] at otherClocked
      obtain ⟨otherRead, _, _⟩ := schedule.clock?_eq_ok system clocks instant other otherClocked
      have wall : other.wall = moment.wall := by
        have same := spaced.reading_instantOf moment.reading ((spaced.shows_iff _).mp real)
        rw [← (due moment.reading (.shown real)).2, ← otherRead] at same
        exact same
      obtain ⟨_, _, candidates, listed, drops⟩ := turnsBack
      rcases schedule.next?_cases system clocks now inside reference clocked moment given with
        ⟨anyTime, _⟩ | ⟨_, candidate, start, _, _, _, _, finds⟩
      · simp [anyTime] at listed
      · rw [wall] at drops
        rcases drops with broken | ⟨candidate, _, agrees, past⟩
        · exact broken finds.whole
        · exact agrees.not_isPast past

/-- On the rounds: each is planned after the clock of the one before it, and the first after `since`. -/
theorem isChain_iff_of_planned (pause : Int) (positive : 0 < pause) (takes : Pace)
    (unhurried : ∀ calls, 0 ≤ takes.span calls) (calls : Nat) (begun since : Int)
    (order : since ≤ begun) (rounds : List Round)
    (planned : Round.ArePlanned (schedule.planner system) [pause] takes calls begun rounds)
    (brief : ∀ round ∈ rounds, ∀ wait ∈ round.slept.tail, wait < Firing.finest) :
    ∃ instants, (rounds.map fun round => (round.moment, round.clock)).mapM
          (fun firing => firing.1.instant? system) = .ok instants ∧
      (instants.IsChain (· < ·) ↔
        (rounds.map fun round => (round.moment, round.clock)).IsChain (schedule.InOrder system)) ∧
      ∀ round ∈ rounds.head?, ∃ instant ∈ instants.head?,
        schedule.Fires system since (round.moment, round.clock) instant := by
  induction rounds generalizing calls begun since with
  | nil => exact ⟨[], rfl, by simp, by simp⟩
  | cons round rest ih =>
    obtain ⟨⟨_, delay, plan, slept, clock⟩, others⟩ := planned
    have briefly := brief round List.mem_cons_self
    rw [slept] at clock briefly
    simp only [List.sum_cons, List.sum_nil, Int.add_zero, List.singleton_append, List.tail_cons]
      at plan clock briefly
    obtain ⟨instant, fires⟩ := schedule.fires_of_plan system clocks sound single since (begun + pause)
      delay (by omega) round.moment plan briefly
    rw [Int.add_assoc, ← clock] at fires
    have unhurriedHere := unhurried calls
    obtain ⟨instants, mapped, chained, first⟩ := ih _ _ round.clock (by omega) others
      (fun other member => brief other (List.mem_cons_of_mem _ member))
    refine ⟨instant :: instants, ?_, ?_, ?_⟩
    · rw [List.map_cons, List.mapM_cons, bind_eq_ok]
      refine ⟨instant, fires.located, ?_⟩
      rw [bind_eq_ok]
      exact ⟨instants, mapped, rfl⟩
    · cases rest with
      | nil =>
        cases mapped
        simp
      | cons next more =>
        obtain ⟨nextInstant, head, nextFires⟩ := first next rfl
        obtain ⟨tail, rfl⟩ : ∃ tail, instants = nextInstant :: tail := by
          cases instants with
          | nil => simp at head
          | cons found tail =>
            cases Option.some.inj head
            exact ⟨tail, rfl⟩
        have ordered := schedule.lt_iff_inOrder system clocks since _ _ instant nextInstant fires
          nextFires
        rw [List.map_cons] at chained
        rw [List.map_cons, List.map_cons, List.isChain_cons_cons, List.isChain_cons_cons, chained,
          ordered]
    · intro other head
      cases Option.some.inj head
      exact ⟨instant, rfl, fires⟩

end Fires

end Schedule

namespace Firing

/-- The moments that a loop fires come in the order of their instants, and none twice, exactly if no
search turns back to the firing before it or past that. Without a zone the machine's clocks decide, and
a wall time that they skip counts for the one that they show when it is due. No wait may be as long as
the finest delay. -/
theorem ascending_iff {ε α : Type} (system : ZoneRules) (choice : Except ZoneFault (Option Zone))
    (text : String) (schedule : Schedule) (built : Schedule.ofText? choice text = .ok schedule)
    (clocks : schedule.IsClocked system) (pause : Int) (positive : 0 < pause) (block : Block ε α)
    (unhurried : ∀ calls, 0 ≤ block.takes.span calls) (form : Form) (loops : form ≠ .once)
    (world : World ε)
    (brief : ∀ round ∈ (run (schedule.planner system) pause block form world).rounds [],
      ∀ wait ∈ round.slept.tail, wait < finest) :
    ∃ instants, (run (schedule.planner system) pause block form world).fired.mapM
          (fun firing => firing.1.instant? system) = .ok instants ∧
      (instants.Pairwise (· < ·) ↔
        (run (schedule.planner system) pause block form world).fired.IsChain
          (schedule.InOrder system)) := by
  have sound := Schedule.isSound_ofText? choice text schedule built
  have single := Schedule.isSingle_ofText? choice text schedule built
  have planned := arePlanned_run (schedule.planner system) pause block form world
  have paused : form.pauses pause = [pause] := by
    cases form with
    | once => exact absurd rfl loops
    | _ => rfl
  rw [paused] at planned
  obtain ⟨instants, mapped, chained, _⟩ := schedule.isChain_iff_of_planned system clocks sound single
    pause positive block.takes unhurried _ world.clock world.clock (Int.le_refl _) _ planned brief
  rw [Leg.map_rounds] at mapped chained
  refine ⟨instants, mapped, ?_⟩
  rw [← List.isChain_iff_pairwise]
  exact chained

theorem ascending_beforeShift :
    (run (Schedule.minutely.planner .universal) 1000
        (⟨fun _ => .ok true, .steady 0, id⟩ : Block Unit Bool) .whileContinued
        ⟨Wall.ofTime ⟨2021, 10, 29⟩ 0 30 15 0, 4, 0, ()⟩).rounds []
      = [⟨[1000, 44999000], ⟨Wall.ofTime ⟨2021, 10, 29⟩ 2 31 0 0, false, some .setBack⟩,
          Wall.ofTime ⟨2021, 10, 29⟩ 0 31 0 0⟩,
        ⟨[1000, 59999000], ⟨Wall.ofTime ⟨2021, 10, 29⟩ 2 32 0 0, false, some .setBack⟩,
          Wall.ofTime ⟨2021, 10, 29⟩ 0 32 0 0⟩] ∧
      ∃ instants, (run (Schedule.minutely.planner .universal) 1000
          (⟨fun _ => .ok true, .steady 0, id⟩ : Block Unit Bool) .whileContinued
          ⟨Wall.ofTime ⟨2021, 10, 29⟩ 0 30 15 0, 4, 0, ()⟩).fired.mapM
            (fun firing => firing.1.instant? .universal)
          = .ok instants ∧ instants.Pairwise (· < ·) := by
  have rounds : (run (Schedule.minutely.planner .universal) 1000
      (⟨fun _ => .ok true, .steady 0, id⟩ : Block Unit Bool) .whileContinued
      ⟨Wall.ofTime ⟨2021, 10, 29⟩ 0 30 15 0, 4, 0, ()⟩).rounds []
        = [⟨[1000, 44999000], ⟨Wall.ofTime ⟨2021, 10, 29⟩ 2 31 0 0, false, some .setBack⟩,
            Wall.ofTime ⟨2021, 10, 29⟩ 0 31 0 0⟩,
          ⟨[1000, 59999000], ⟨Wall.ofTime ⟨2021, 10, 29⟩ 2 32 0 0, false, some .setBack⟩,
            Wall.ofTime ⟨2021, 10, 29⟩ 0 32 0 0⟩] := by
    decide +kernel
  obtain ⟨instants, mapped, ascending⟩ := ascending_iff .universal (.ok (some .setBack)) "0 * * * *"
    Schedule.minutely (by decide +kernel) (.of_zone rfl ⟨by decide, by decide, by decide⟩) 1000
    (by decide) (⟨fun _ => .ok true, .steady 0, id⟩ : Block Unit Bool) (fun _ => Int.le_refl _)
    .whileContinued (by decide) ⟨Wall.ofTime ⟨2021, 10, 29⟩ 0 30 15 0, 4, 0, ()⟩
    (by rw [rounds]; decide +kernel)
  refine ⟨rounds, instants, mapped, ascending.mpr ?_⟩
  rw [← Leg.map_rounds [], rounds, List.map_cons, List.map_cons, List.map_nil, List.isChain_cons_cons]
  refine ⟨?_, List.isChain_singleton _⟩
  intro held
  exfalso
  rcases held with turns | hidden
  · obtain ⟨reference, clocked, later, _⟩ := turns
    have read : Schedule.minutely.clock? .universal (Wall.ofTime ⟨2021, 10, 29⟩ 0 32 0 0)
        = .ok ⟨Wall.ofTime ⟨2021, 10, 29⟩ 2 32 0 0, false, some .setBack⟩ := by
      decide +kernel
    cases read.symm.trans clocked
    exact Bool.noConfusion later
  · exact hidden ⟨Wall.ofTime ⟨2021, 10, 29⟩ 0 32 0 0, by decide +kernel⟩

/-- A loop that is begun in the hour that comes up again fires one instant of the hour before after
every pause. -/
theorem repeating_afterShift :
    Schedule.ofText? (.ok (some .setBack)) "0 * * * *" = .ok Schedule.minutely ∧
      (run (Schedule.minutely.planner .universal) 1000
        (⟨fun _ => .ok true, .steady 0, id⟩ : Block Unit Bool) .whileContinued
        ⟨Wall.ofTime ⟨2021, 10, 31⟩ 1 30 15 0, 2, 0, ()⟩).fired.mapM
          (fun firing => firing.1.instant? .universal)
        = .ok [Wall.ofTime ⟨2021, 10, 31⟩ 0 31 0 0, Wall.ofTime ⟨2021, 10, 31⟩ 0 31 0 0] ∧
      ¬ [Wall.ofTime ⟨2021, 10, 31⟩ 0 31 0 0, Wall.ofTime ⟨2021, 10, 31⟩ 0 31 0 0].Pairwise (· < ·) :=
  ⟨by decide +kernel, by decide +kernel, by simp⟩

end Firing
end CronClock
