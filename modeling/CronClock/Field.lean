/-! # The five fields of a schedule

A field constrains one part of a calendar reading. Each has closed bounds, and a number outside the
bounds stands for the nearer one. -/
set_option autoImplicit false
namespace CronClock

/-- A closed interval of numbers; it is empty when `greatest < least`. -/
structure Bounds where
  least : Int
  greatest : Int
  deriving DecidableEq, Repr

namespace Bounds

/-- The nearest bounded number. In an empty interval every number becomes `least`. -/
def clamp (bounds : Bounds) (number : Int) : Int :=
  max bounds.least (min bounds.greatest number)

def holds (bounds : Bounds) (number : Int) : Bool :=
  bounds.least ≤ number && number ≤ bounds.greatest

/-- How many numbers the bounds span; not positive when they are empty. -/
def size (bounds : Bounds) : Int := bounds.greatest - bounds.least + 1

theorem holds_iff (bounds : Bounds) (number : Int) :
    bounds.holds number = true ↔ bounds.least ≤ number ∧ number ≤ bounds.greatest := by
  simp [holds]

theorem least_le_clamp (bounds : Bounds) (number : Int) : bounds.least ≤ bounds.clamp number := by
  unfold clamp; omega

theorem clamp_le_greatest (bounds : Bounds) (number : Int)
    (inhabited : bounds.least ≤ bounds.greatest) : bounds.clamp number ≤ bounds.greatest := by
  unfold clamp; omega

theorem clamp_of_holds (bounds : Bounds) (number : Int) (held : bounds.holds number = true) :
    bounds.clamp number = number := by
  rw [holds_iff] at held
  unfold clamp; omega

end Bounds

inductive Field where
  | second
  | minute
  | hour
  | day
  | month
  deriving DecidableEq, Repr

namespace Field

/-- The order in which an expression writes its fields. -/
def all : List Field := [second, minute, hour, day, month]

def bounds : Field → Bounds
  | second => ⟨0, 59⟩
  | minute => ⟨0, 59⟩
  | hour => ⟨0, 23⟩
  | day => ⟨1, 31⟩
  | month => ⟨1, 12⟩

/-- The name that descriptions use. -/
def title : Field → String
  | second => "second"
  | minute => "minute"
  | hour => "hour"
  | day => "day of month"
  | month => "month"

end Field

/-- One value for each field. -/
structure PerField (α : Type) where
  second : α
  minute : α
  hour : α
  day : α
  month : α
  deriving DecidableEq, Repr

namespace PerField

variable {α β : Type}

def get (values : PerField α) : Field → α
  | .second => values.second
  | .minute => values.minute
  | .hour => values.hour
  | .day => values.day
  | .month => values.month

def set (values : PerField α) (field : Field) (value : α) : PerField α :=
  match field with
  | .second => { values with second := value }
  | .minute => { values with minute := value }
  | .hour => { values with hour := value }
  | .day => { values with day := value }
  | .month => { values with month := value }

def ofFunction (values : Field → α) : PerField α :=
  ⟨values .second, values .minute, values .hour, values .day, values .month⟩

def toList (values : PerField α) : List α :=
  [values.second, values.minute, values.hour, values.day, values.month]

def map (f : α → β) (values : PerField α) : PerField β :=
  ofFunction fun field => f (values.get field)

@[simp] theorem get_ofFunction (values : Field → α) (field : Field) :
    (ofFunction values).get field = values field := by
  cases field <;> rfl

@[simp] theorem get_set_same (values : PerField α) (field : Field) (value : α) :
    (values.set field value).get field = value := by
  cases field <;> rfl

theorem get_set_other (values : PerField α) (field other : Field) (value : α)
    (distinct : other ≠ field) : (values.set field value).get other = values.get other := by
  cases field <;> cases other <;> first | rfl | exact absurd rfl distinct

end PerField

end CronClock
