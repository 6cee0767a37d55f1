import CronClock.Calendar.Threshold

/-! # Time zones

The rules of a zone are an offset from universal time and a list of shifts to other offsets. A wall
reading may come up twice, when a shift sets the clocks back; the later of the two readings is marked.
`ZoneRules.reading` goes from universal time to the wall, `ZoneRules.offsetShown` gives the offset that
a wall reading is taken to have, for readings that come up twice or not at all too. -/
set_option autoImplicit false
namespace CronClock

/-- Thresholds follow from the offsets and are kept beside them, so that they are worked out once. -/
structure ZoneRules where
  initial : Int
  shifts : List Shift
  thresholds : Array Threshold := (Threshold.ofShifts initial shifts).toArray
  thresholds_eq : thresholds = (Threshold.ofShifts initial shifts).toArray := by rfl
  deriving DecidableEq, Repr

/-- A wall time, and whether it is the later of two readings of it. -/
structure Reading where
  wall : Int
  later : Bool
  deriving DecidableEq, Repr

namespace ZoneRules

def secondsBefore1970 : Int := 62135596800

def ofSeconds (initial : Int) (shifts : List (Int × Int)) : ZoneRules where
  initial := initial * Wall.second
  shifts := shifts.map fun shift =>
    ⟨(shift.1 + secondsBefore1970) * Wall.second, shift.2 * Wall.second⟩

def universal : ZoneRules := { initial := 0, shifts := [] }

/-- The offset after the first `count` shifts. -/
def offsetAfter (rules : ZoneRules) (count : Nat) : Int :=
  match count with
  | 0 => rules.initial
  | previous + 1 => (rules.shifts[previous]?.map Shift.offset).getD rules.initial

def shiftsPassed (rules : ZoneRules) (instant : Int) : Nat :=
  rules.shifts.countP fun shift => shift.instant ≤ instant

/-- How many shifts a wall reading is taken to come after. -/
def shiftsShown (rules : ZoneRules) (reading : Reading) : Nat :=
  Threshold.passedBy rules.thresholds reading.later reading.wall

def offsetShown (rules : ZoneRules) (reading : Reading) : Int :=
  rules.offsetAfter (rules.shiftsShown reading)

/-- Whether the last of some shifts set the clocks back by more than the time since. -/
def repeatsAfter (rules : ZoneRules) (count : Nat) (instant : Int) : Bool :=
  match count with
  | 0 => false
  | previous + 1 =>
    match rules.shifts[previous]? with
    | some shift => instant - shift.instant < rules.offsetAfter previous - shift.offset
    | none => false

def reading (rules : ZoneRules) (instant : Int) : Reading :=
  let passed := rules.shiftsPassed instant
  ⟨instant + rules.offsetAfter passed, rules.repeatsAfter passed instant⟩

end ZoneRules

/-- Where a moment's wall time belongs. A bare offset, as a written timestamp may carry it, is not the
zone of any schedule; the other three are. -/
inductive Zone where
  | universal
  | fixed (offset : Int)
  | bare (offset : Int)
  | named (name : String) (rules : ZoneRules)
  deriving DecidableEq, Repr

namespace Zone

def ofOffset (offset : Int) : Zone := if offset = 0 then universal else fixed offset

/-- The zone of a timestamp that is written with its offset. -/
def ofWrittenOffset (offset : Int) : Zone := if offset = 0 then universal else bare offset

def isSame : Zone → Zone → Bool
  | universal, universal => true
  | fixed offset, fixed other => offset == other
  | named name rules, named other others => name == other && rules == others
  | _, _ => false

def offsetShown : Zone → Reading → Int
  | universal, _ => 0
  | fixed offset, _ => offset
  | bare offset, _ => offset
  | named _ rules, reading => rules.offsetShown reading

def reading : Zone → Int → Reading
  | universal, instant => ⟨instant, false⟩
  | fixed offset, instant => ⟨instant + offset, false⟩
  | bare offset, instant => ⟨instant + offset, false⟩
  | named _ rules, instant => rules.reading instant

end Zone

end CronClock
