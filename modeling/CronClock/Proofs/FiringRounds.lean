import CronClock.Firing
import Mathlib.Algebra.Ring.Int.Defs

/-! # The rounds of a run

A run is cut into rounds, one for each firing, with the spans that were slept since the firing before.
A round sleeps the form's pauses and then at most once more, for the delay that the planner names at
their end, and the next round sets out from the end of the block's work: `Firing.arePlanned_run`. -/
set_option autoImplicit false
namespace CronClock

def Happening.fired? : Happening → Option (Moment × Int)
  | called moment clock => some (moment, clock)
  | ticked moment clock => some (moment, clock)
  | slept _ => none
  | noted _ _ => none

/-- A firing, and the spans that were slept since the one before it. -/
structure Round where
  slept : List Int
  moment : Moment
  clock : Int
  deriving DecidableEq

namespace Firing

def waits (delay : Int) : List Int := if 0 < delay then [requested delay] else []

def Form.pauses (pause : Int) : Form → List Int
  | once => []
  | whileContinued => [pause]
  | forever => [pause]
  | ticks _ => [pause]

end Firing

namespace Round

def ofHappenings : List Int → List Happening → List Round
  | _, [] => []
  | slept, .slept span :: rest => ofHappenings (slept ++ [span]) rest
  | slept, .called moment clock :: rest => ⟨slept, moment, clock⟩ :: ofHappenings [] rest
  | slept, .ticked moment clock :: rest => ⟨slept, moment, clock⟩ :: ofHappenings [] rest
  | slept, .noted _ _ :: rest => ofHappenings slept rest

/-- At the end of the pauses the planner named the moment, and the firing is at the end of the wait for
it, or at once if there was nothing to wait for. -/
def IsPlanned (planner : Planner) (pauses : List Int) (since : Int) (round : Round) : Prop :=
  (pauses ≠ [] → Wall.inCalendar (since + pauses.sum) = true) ∧
    ∃ delay, Firing.plan? planner (since + pauses.sum) = .ok (some (round.moment, delay)) ∧
      round.slept = pauses ++ Firing.waits delay ∧ round.clock = since + round.slept.sum

def ArePlanned (planner : Planner) (pauses : List Int) (takes : Pace) :
    Nat → Int → List Round → Prop
  | _, _, [] => True
  | calls, since, round :: rest => round.IsPlanned planner pauses since ∧
      ArePlanned planner pauses takes (calls + 1) (round.clock + takes.span calls) rest

theorem ArePlanned.exists_isPlanned {planner : Planner} {pauses : List Int} {takes : Pace}
    {calls : Nat} {since : Int} {rounds : List Round}
    (planned : ArePlanned planner pauses takes calls since rounds) :
    ∀ round ∈ rounds, ∃ begun, round.IsPlanned planner pauses begun := by
  induction rounds generalizing calls since with
  | nil => simp
  | cons first rest ih =>
    obtain ⟨here, others⟩ := planned
    intro round member
    cases member with
    | head => exact ⟨since, here⟩
    | tail _ member => exact ih others round member

end Round

namespace World
variable {ε : Type}

def slept (world : World ε) (span : Int) : World ε :=
  { world with clock := world.clock + span, sleepsLeft := world.sleepsLeft - 1 }

def worked (world : World ε) (takes : Pace) : World ε :=
  { world with clock := world.clock + takes.span world.calls, calls := world.calls + 1 }

@[simp] theorem slept_clock (world : World ε) (span : Int) :
    (world.slept span).clock = world.clock + span := rfl

@[simp] theorem slept_calls (world : World ε) (span : Int) :
    (world.slept span).calls = world.calls := rfl

@[simp] theorem worked_clock (world : World ε) (takes : Pace) :
    (world.worked takes).clock = world.clock + takes.span world.calls := rfl

end World

namespace Leg
variable {ε β γ : Type}

def fired (leg : Leg ε β) : List (Moment × Int) := leg.happenings.filterMap Happening.fired?

def rounds (slept : List Int) (leg : Leg ε β) : List Round := Round.ofHappenings slept leg.happenings

@[simp] theorem fired_value (world : World ε) (result : β) : (value world result).fired = [] := rfl

@[simp] theorem fired_ending (world : World ε) (ended : Ending ε) :
    (ending world ended : Leg ε β).fired = [] := rfl

theorem fired_after (happening : Happening) (leg : Leg ε β) :
    (leg.after happening).fired = happening.fired?.toList ++ leg.fired := by
  cases found : happening.fired? <;> simp [fired, after, found]

@[simp] theorem rounds_ending (slept : List Int) (world : World ε) (ended : Ending ε) :
    (ending world ended : Leg ε β).rounds slept = [] := rfl

@[simp] theorem rounds_note (slept : List Int) (level : Level) (message : String) (world : World ε)
    (leg : Leg ε β) : (leg.after (Firing.note level message world)).rounds slept = leg.rounds slept := rfl

@[simp] theorem rounds_slept (slept : List Int) (span : Int) (leg : Leg ε β) :
    (leg.after (.slept span)).rounds slept = leg.rounds (slept ++ [span]) := rfl

@[simp] theorem rounds_called (slept : List Int) (moment : Moment) (clock : Int) (leg : Leg ε β) :
    (leg.after (.called moment clock)).rounds slept = ⟨slept, moment, clock⟩ :: leg.rounds [] := rfl

@[simp] theorem rounds_ticked (slept : List Int) (moment : Moment) (clock : Int) (leg : Leg ε β) :
    (leg.after (.ticked moment clock)).rounds slept = ⟨slept, moment, clock⟩ :: leg.rounds [] := rfl

theorem map_rounds (slept : List Int) (leg : Leg ε β) :
    (leg.rounds slept).map (fun round => (round.moment, round.clock)) = leg.fired := by
  unfold rounds fired
  induction leg.happenings generalizing slept with
  | nil => rfl
  | cons happening rest ih =>
    cases happening <;> simp [Round.ofHappenings, Happening.fired?, List.filterMap_cons, ih]

end Leg

namespace Firing
variable {ε α β : Type}

theorem pass_cases (span : Int) (world : World ε) :
    (Wall.inCalendar (world.clock + span) = true ∧
        pass span world = .value { world with clock := world.clock + span } ()) ∨
      (Wall.inCalendar (world.clock + span) = false ∧
        pass span world = .ending world (.time .outsideCalendar)) := by
  unfold pass
  split
  · next inside => exact .inl ⟨inside, rfl⟩
  · next outside => exact .inr ⟨by simpa using outside, rfl⟩

theorem sleep_cases (span : Int) (world : World ε) :
    (world.sleepsLeft ≠ 0 ∧ Wall.inCalendar (world.clock + span) = true ∧
        sleep span world = .after (.slept span) (.value (world.slept span) ())) ∨
      ∃ other ended, sleep span world = .after (.slept span) (.ending other ended) ∧
        other.calls = world.calls ∧
        ((world.sleepsLeft = 0 ∧ ended = .raised world.interruption) ∨
          (world.sleepsLeft ≠ 0 ∧ Wall.inCalendar (world.clock + span) = false ∧
            ended = .time .outsideCalendar)) := by
  cases supply : world.sleepsLeft with
  | zero =>
    refine .inr ⟨world, .raised world.interruption, ?_, rfl, .inl ⟨rfl, rfl⟩⟩
    simp only [sleep, supply]
  | succ left =>
    have some : left + 1 ≠ 0 := Nat.succ_ne_zero left
    rcases pass_cases span { world with sleepsLeft := left } with ⟨inside, passed⟩ | ⟨outside, stuck⟩
    · refine .inl ⟨some, inside, ?_⟩
      simp only [sleep, supply, passed, World.slept, Nat.add_sub_cancel]
    · refine .inr ⟨{ world with sleepsLeft := left }, .time .outsideCalendar, ?_, rfl,
        .inr ⟨some, outside, rfl⟩⟩
      simp only [sleep, supply, stuck]

theorem work_cases (block : Block ε α) (world : World ε) :
    (Wall.inCalendar (world.clock + block.takes.span world.calls) = true ∧
        work block world = .value (world.worked block.takes) ()) ∨
      (Wall.inCalendar (world.clock + block.takes.span world.calls) = false ∧
        ∃ other, other.calls = world.calls + 1 ∧
          work block world = .ending other (.time .outsideCalendar)) := by
  rcases pass_cases (block.takes.span world.calls) { world with calls := world.calls + 1 } with
    passed | ⟨outside, stuck⟩
  · exact .inl passed
  · exact .inr ⟨outside, _, rfl, stuck⟩

theorem call_cases (block : Block ε α) (moment : Moment) (world : World ε) :
    (∃ value, call block moment world
          = .after (.called moment world.clock) (.value (world.worked block.takes) value) ∧
        Wall.inCalendar (world.clock + block.takes.span world.calls) = true ∧
        block.answer world.calls = .ok value) ∨
      ∃ other ended, call block moment world
          = .after (.called moment world.clock) (.ending other ended) ∧
        ((Wall.inCalendar (world.clock + block.takes.span world.calls) = true ∧
            ∃ error, block.answer world.calls = .error error ∧ ended = .raised error) ∨
          (Wall.inCalendar (world.clock + block.takes.span world.calls) = false ∧
            ended = .time .outsideCalendar)) := by
  unfold call
  rcases work_cases block world with ⟨inside, worked⟩ | ⟨outside, other, _, stuck⟩
  · rw [worked, Leg.andThen_value]
    cases block.answer world.calls with
    | error error => exact .inr ⟨_, .raised error, rfl, .inl ⟨inside, error, rfl, rfl⟩⟩
    | ok value => exact .inl ⟨value, rfl, inside, rfl⟩
  · rw [stuck, Leg.andThen_ending]
    exact .inr ⟨other, _, rfl, .inr ⟨outside, rfl⟩⟩

section Rounds
variable (planner : Planner) (pauses : List Int) (takes : Pace)

/-- The round of a wait is as planned; `following` is the firing and the rounds after it. -/
theorem arePlanned_await (since : Int) (world : World ε) (begun : world.clock = since + pauses.sum)
    (inside : pauses ≠ [] → Wall.inCalendar world.clock = true)
    (following : World ε → Option Moment → Leg ε β)
    (quiet : ∀ slept world, (following world none).rounds slept = [])
    (fires : ∀ slept world moment, ∃ rest,
      (following world (some moment)).rounds slept = ⟨slept, moment, world.clock⟩ :: rest ∧
        Round.ArePlanned planner pauses takes (world.calls + 1)
          (world.clock + takes.span world.calls) rest) :
    Round.ArePlanned planner pauses takes world.calls since
      (((await planner world).andThen following).rounds pauses) := by
  cases planned : plan? planner world.clock with
  | error fault =>
    simp only [await, planned, Leg.andThen_ending, Leg.rounds_ending]
    trivial
  | ok plan =>
    cases plan with
    | none =>
      simp only [await, planned, Leg.andThen_value, quiet]
      trivial
    | some next =>
      obtain ⟨moment, delay⟩ := next
      have named := planned
      rw [begun] at named inside
      simp only [await, planned]
      by_cases ahead : 0 < delay
      · rcases sleep_cases (requested delay) world with
          ⟨_, _, rested⟩ | ⟨other, ended, stuck, _⟩
        · obtain ⟨rest, fired, others⟩ := fires (pauses ++ [requested delay])
            (world.slept (requested delay)) moment
          simp only [ahead, if_true, rested, Leg.andThen_after, Leg.andThen_value, Leg.rounds_note,
            Leg.rounds_slept, fired]
          refine ⟨⟨inside, delay, named, ?_, ?_⟩, others⟩
          · simp only [waits, ahead, if_true]
          · simp only [World.slept_clock, begun, List.sum_append, List.sum_singleton]
            omega
        · simp only [ahead, if_true, stuck, Leg.andThen_after, Leg.andThen_ending, Leg.rounds_note,
            Leg.rounds_slept, Leg.rounds_ending]
          trivial
      · obtain ⟨rest, fired, others⟩ := fires pauses world moment
        simp only [ahead, if_false, Leg.andThen_value, fired]
        refine ⟨⟨inside, delay, named, ?_, begun⟩, others⟩
        simp only [waits, ahead, if_false, List.append_nil]

theorem arePlanned_once (block : Block ε α) (world : World ε) :
    Round.ArePlanned planner [] takes world.calls world.clock
      ((once planner block world).rounds []) := by
  apply arePlanned_await planner [] takes
  · simp
  · simp
  · intro slept world
    rfl
  · intro slept world moment
    refine ⟨[], ?_, trivial⟩
    simp only [announce, Leg.rounds_note]
    rcases call_cases block moment world with ⟨value, called, _⟩ | ⟨other, ended, called, _⟩
    · rw [called]
      rfl
    · rw [called]
      rfl

variable (pause : Int) (block : Block ε α)

theorem arePlanned_round (world : World ε) (following : World ε → Option Moment → Leg ε β)
    (quiet : ∀ slept world, (following world none).rounds slept = [])
    (fires : ∀ slept world moment, ∃ rest,
      (following world (some moment)).rounds slept = ⟨slept, moment, world.clock⟩ :: rest ∧
        Round.ArePlanned planner [pause] takes (world.calls + 1)
          (world.clock + takes.span world.calls) rest) :
    Round.ArePlanned planner [pause] takes world.calls world.clock
      (((sleep pause world).andThen fun world _ => (await planner world).andThen following).rounds
        []) := by
  rcases sleep_cases pause world with ⟨_, inside, rested⟩ | ⟨other, ended, stuck, _⟩
  · rw [rested]
    simp only [Leg.andThen_after, Leg.andThen_value, Leg.rounds_slept, List.nil_append]
    exact arePlanned_await planner [pause] takes world.clock (world.slept pause) (by simp)
      (fun _ => inside) following quiet fires
  · rw [stuck]
    simp only [Leg.andThen_after, Leg.andThen_ending, Leg.rounds_slept, Leg.rounds_ending]
    trivial

theorem arePlanned_whileContinued (rounds : Nat) (world : World ε) :
    Round.ArePlanned planner [pause] block.takes world.calls world.clock
      ((whileContinued planner pause block rounds world).rounds []) := by
  induction rounds generalizing world with
  | zero => trivial
  | succ rounds ih =>
    rw [whileContinued]
    apply arePlanned_round planner block.takes pause world
    · intro slept world
      rfl
    · intro slept world moment
      simp only [announce, Leg.rounds_note]
      rcases call_cases block moment world with ⟨value, called, _⟩ | ⟨other, ended, called, _⟩
      · rw [called, Leg.andThen_after, Leg.andThen_value, Leg.rounds_called]
        refine ⟨_, rfl, ?_⟩
        split
        · exact ih (world.worked block.takes)
        · trivial
      · rw [called]
        exact ⟨[], rfl, trivial⟩

theorem arePlanned_stream (limit : Option Nat) (rounds : Nat) (world : World ε) :
    Round.ArePlanned planner [pause] block.takes world.calls world.clock
      ((stream planner pause block limit rounds world).rounds []) := by
  induction rounds generalizing world with
  | zero => trivial
  | succ rounds ih =>
    rw [stream]
    apply arePlanned_round planner block.takes pause world
    · intro slept world
      rfl
    · intro slept world moment
      rcases work_cases block world with ⟨_, worked⟩ | ⟨_, other, _, stuck⟩
      · rw [worked, Leg.andThen_value, Leg.rounds_ticked]
        refine ⟨_, rfl, ?_⟩
        split
        · trivial
        · exact ih (world.worked block.takes)
      · rw [stuck]
        exact ⟨[], rfl, trivial⟩

theorem happenings_run (form : Form) (world : World ε) :
    (run planner pause block form world).happenings =
      match form with
      | .once => (once planner block world).happenings
      | .whileContinued =>
        (whileContinued planner pause block (world.sleepsLeft + 1) world).happenings
      | .forever =>
        (whileContinued planner pause block.unending (world.sleepsLeft + 1) world).happenings
      | .ticks (some 0) => []
      | .ticks limit => (stream planner pause block limit (world.sleepsLeft + 1) world).happenings := by
  have ends : ∀ leg : Leg ε Unit, (leg.andThen fun world _ =>
      (Leg.ending world .stopped : Leg ε α)).happenings = leg.happenings := by
    intro leg
    unfold Leg.andThen
    cases leg.result <;> simp [Leg.ending]
  cases form with
  | once => rfl
  | whileContinued => exact ends _
  | forever => exact ends _
  | ticks limit =>
    cases limit with
    | none => exact ends _
    | some count =>
      cases count with
      | zero => rfl
      | succ count => exact ends _

theorem arePlanned_run (form : Form) (world : World ε) :
    Round.ArePlanned planner (form.pauses pause) block.takes world.calls world.clock
      ((run planner pause block form world).rounds []) := by
  rw [Leg.rounds, happenings_run]
  split
  · exact arePlanned_once planner block.takes block world
  · exact arePlanned_whileContinued planner pause block _ world
  · exact arePlanned_whileContinued planner pause block.unending _ world
  · trivial
  · exact arePlanned_stream planner pause block _ _ world

end Rounds
end Firing
end CronClock
