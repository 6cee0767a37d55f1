import CronClock.Calendar.IsoText
import CronClock.Decimal.Binary
import CronClock.Journal

/-! # Firing

A block is fired at the moments that a planner names, under a clock of universal time that moves on
only while somebody sleeps or the block works. Four forms: once, as long as the block says so, for ever,
and as a stream of ticks. Each form is a `Leg`: what happened, in order, the state afterwards, and the
value or the ending that it came to; `Leg.andThen` puts one leg after another. -/
set_option autoImplicit false
namespace CronClock

structure Planner where
  system : ZoneRules
  clock? : Int → Except TimeFault Moment
  next? : Moment → Except TimeFault (Option Moment)
  label : String

def Schedule.planner (system : ZoneRules) (schedule : Schedule) : Planner :=
  ⟨system, schedule.clock? system, schedule.next?, schedule.label⟩

inductive Happening where
  | slept (span : Int)
  | called (moment : Moment) (clock : Int)
  | ticked (moment : Moment) (clock : Int)
  | noted (note : Note) (clock : Int)
  deriving DecidableEq, Repr

/-- The clock, how many more sleeps come to an end, how many times the block was called, and the error
that a sleep raises which does not come to an end. -/
structure World (ε : Type) where
  clock : Int
  sleepsLeft : Nat
  calls : Nat
  interruption : ε
  deriving DecidableEq, Repr

inductive Ending (ε : Type) where
  | stopped
  | counted (ticks : Nat)
  /-- With an error of the block or of a sleep. -/
  | raised (error : ε)
  | exhausted (message : String)
  | time (fault : TimeFault)
  | unbuilt (fault : BuildFault)
  deriving DecidableEq, Repr

/-- The time that each call takes, by the number of calls before. -/
structure Pace where
  span : Nat → Int

def Pace.steady (span : Int) : Pace := ⟨fun _ => span⟩

/-- The block's answers or errors by the number of calls before, the time that each call takes, and
which answers keep a loop going. -/
structure Block (ε α : Type) where
  answer : Nat → Except ε α
  takes : Pace
  continues : α → Bool

def Block.unending {ε α : Type} (block : Block ε α) : Block ε α :=
  { block with continues := fun _ => true }

structure Leg (ε β : Type) where
  happenings : List Happening
  world : World ε
  result : Except (Ending ε) β

namespace Leg

variable {ε β γ : Type}

def value (world : World ε) (result : β) : Leg ε β := ⟨[], world, .ok result⟩

def ending (world : World ε) (ending : Ending ε) : Leg ε β := ⟨[], world, .error ending⟩

def andThen (leg : Leg ε β) (following : World ε → β → Leg ε γ) : Leg ε γ :=
  match leg.result with
  | .error ending => ⟨leg.happenings, leg.world, .error ending⟩
  | .ok value =>
    let rest := following leg.world value
    ⟨leg.happenings ++ rest.happenings, rest.world, rest.result⟩

def after (happening : Happening) (leg : Leg ε β) : Leg ε β :=
  { leg with happenings := happening :: leg.happenings }

@[simp] theorem andThen_value (world : World ε) (result : β) (following : World ε → β → Leg ε γ) :
    (value world result).andThen following = following world result := rfl

@[simp] theorem andThen_ending (world : World ε) (ended : Ending ε)
    (following : World ε → β → Leg ε γ) :
    (ending world ended).andThen following = ending world ended := rfl

@[simp] theorem andThen_after (happening : Happening) (leg : Leg ε β)
    (following : World ε → β → Leg ε γ) :
    (leg.after happening).andThen following = (leg.andThen following).after happening := by
  unfold andThen after
  cases leg.result <;> rfl

end Leg

namespace Firing

variable {ε α : Type}

def note (level : Level) (message : String) (world : World ε) : Happening :=
  .noted ⟨level, .firing, message⟩ world.clock

/-- Moves the clock, which has to stay in the calendar. -/
def pass (span : Int) (world : World ε) : Leg ε Unit :=
  if Wall.inCalendar (world.clock + span) then
    .value { world with clock := world.clock + span } ()
  else .ending world (.time .outsideCalendar)

/-- A sleep that does not come to an end leaves the clock alone. -/
def sleep (span : Int) (world : World ε) : Leg ε Unit :=
  .after (.slept span)
    (match world.sleepsLeft with
      | 0 => .ending world (.raised world.interruption)
      | left + 1 => pass span { world with sleepsLeft := left })

def plan? (planner : Planner) (clock : Int) : Except TimeFault (Option (Moment × Int)) := do
  let now ← planner.clock? clock
  match ← planner.next? now with
  | none => return none
  | some moment => return some (moment, ← now.elapsed? planner.system moment)

/-- A delay in seconds, as the binary fraction that is nearest to it. -/
def seconds (delay : Int) : Decimal.Binary := .nearest delay.toNat 1000000

/-- The sleep that is asked for: a delay's seconds, to the nearest microsecond. -/
def requested (delay : Int) : Int := (seconds delay).scaled 6

def delayText (delay : Int) : String := (seconds delay).fixedText 3

/-- Sleeps until the planner's next moment, if that lies ahead. -/
def await (planner : Planner) (world : World ε) : Leg ε (Option Moment) :=
  match plan? planner world.clock with
  | .error fault => .ending world (.time fault)
  | .ok none => .value world none
  | .ok (some (moment, delay)) =>
    if 0 < delay then
      .after (note .debug ("Sleeping " ++ delayText delay ++ "s until " ++ moment.isoText) world)
        ((sleep (requested delay) world).andThen fun world _ => .value world (some moment))
    else .value world (some moment)

def work (block : Block ε α) (world : World ε) : Leg ε Unit :=
  pass (block.takes.span world.calls) { world with calls := world.calls + 1 }

def call (block : Block ε α) (moment : Moment) (world : World ε) : Leg ε α :=
  .after (.called moment world.clock)
    ((work block world).andThen fun after _ =>
      match block.answer world.calls with
      | .ok value => .value after value
      | .error error => .ending after (.raised error))

def announce (moment : Moment) (world : World ε) : Happening :=
  note .info ("Running scheduled block for " ++ moment.isoText) world

/-- Waits for the next moment and calls the block, which gives the answer. -/
def once (planner : Planner) (block : Block ε α) (world : World ε) : Leg ε α :=
  (await planner world).andThen fun world moment =>
    match moment with
    | none => .ending world (.exhausted (planner.label ++ " has no next occurrence"))
    | some moment => .after (announce moment world) (call block moment world)

/-- Fires round after round while the block's answers continue. Each round begins with a pause, so a
world in which `n` more sleeps come to an end has at most `n + 1` rounds. -/
def whileContinued (planner : Planner) (pause : Int) (block : Block ε α) :
    Nat → World ε → Leg ε Unit
  | 0, world => .ending world (.raised world.interruption)
  | rounds + 1, world =>
    (sleep pause world).andThen fun world _ =>
    (await planner world).andThen fun world moment =>
      match moment with
      | none =>
        .after (note .warning (planner.label ++ " has no next occurrence, stopping loop") world)
          (.ending world .stopped)
      | some moment =>
        .after (announce moment world) ((call block moment world).andThen fun world value =>
          if block.continues value then whileContinued planner pause block rounds world
          else .after (note .debug "Block requested stop" world) (.ending world .stopped))

/-- Hands each moment over as a tick, up to a number of ticks; whoever takes the ticks works as long
as the block does. -/
def stream (planner : Planner) (pause : Int) (block : Block ε α) (limit : Option Nat) :
    Nat → World ε → Leg ε Unit
  | 0, world => .ending world (.raised world.interruption)
  | rounds + 1, world =>
    (sleep pause world).andThen fun world _ =>
    (await planner world).andThen fun world moment =>
      match moment with
      | none =>
        .after (note .warning (planner.label ++ " has no next occurrence, stopping ticks") world)
          (.ending world (.counted world.calls))
      | some moment =>
        .after (.ticked moment world.clock)
          ((work block world).andThen fun world _ =>
            if limit = some world.calls then .ending world (.counted world.calls)
            else stream planner pause block limit rounds world)

inductive Form where
  | once
  | whileContinued
  | forever
  | ticks (limit : Option Nat)
  deriving DecidableEq, Repr

/-- A run of one form from a world on, with the ending that it came to. Nothing starts for no ticks. -/
def run (planner : Planner) (pause : Int) (block : Block ε α) (form : Form) (world : World ε) :
    Leg ε α :=
  let rounds := world.sleepsLeft + 1
  let endless (leg : Leg ε Unit) : Leg ε α := leg.andThen fun world _ => .ending world .stopped
  match form with
  | .once => once planner block world
  | .whileContinued => endless (whileContinued planner pause block rounds world)
  | .forever => endless (whileContinued planner pause block.unending rounds world)
  | .ticks (some 0) => .ending world .stopped
  | .ticks limit => endless (stream planner pause block limit rounds world)

/-- A run that begins by building its schedule from a text. -/
def runText (system : ZoneRules) (zone : Except ZoneFault (Option Zone)) (text : String) (pause : Int)
    (block : Block ε α) (form : Form) (world : World ε) : Leg ε α :=
  if form = .ticks (some 0) then .ending world .stopped
  else
    let leg :=
      match Schedule.ofText? zone text with
      | .ok schedule => run (schedule.planner system) pause block form world
      | .error fault => .ending world (.unbuilt fault)
    let notes := (Journal.ofBuildText zone text).map fun note => Happening.noted note world.clock
    { leg with happenings := notes ++ leg.happenings }

end Firing

end CronClock
