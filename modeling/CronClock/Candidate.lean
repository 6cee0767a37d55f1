import CronClock.Expression

/-! # Candidates

A candidate fixes some fields of a calendar reading and leaves the others open. The candidates of a
schedule are all combinations of its expansions' values: `Candidate.extend` fixes one field of every
candidate, `Candidate.assemble` does so for the five fields in order. -/
set_option autoImplicit false
namespace CronClock

abbrev Candidate := PerField (Option Int)

namespace Candidate

def unfixed : Candidate := ⟨none, none, none, none, none⟩

def longestMonths : List Int := [31, 29, 31, 30, 31, 30, 31, 31, 30, 31, 30, 31]

/-- The greatest length of a month; numbers from 0 down to -11 count back from December. -/
def longestMonth? (month : Int) : Option Int :=
  if 1 ≤ month then longestMonths[(month - 1).toNat]?
  else if -12 < month then longestMonths[(month + 11).toNat]?
  else none

/-- Whether some date has the candidate's day and month; unknown when no month has the number. -/
def isPossible? (candidate : Candidate) : Option Bool :=
  match candidate.day, candidate.month with
  | some day, some month => (longestMonth? month).map fun longest => day ≤ longest
  | _, _ => some true

/-- Every candidate with every value in a field, the candidates varying slowest. -/
def extend (candidates : List Candidate) (field : Field) : Expansion → List Candidate
  | .every => candidates
  | .only values =>
    candidates.flatMap fun candidate => values.toList.map fun value => candidate.set field (some value)

def combinations (expansions : Expansions) : List Candidate :=
  Field.all.foldl (fun candidates field => extend candidates field (expansions.get field)) [unfixed]

/-- The combinations, of which there must be at least one. -/
def assemble (expansions : Expansions) : Except ScheduleFault (List Candidate) :=
  match combinations expansions with
  | [] => .error .noCandidates
  | candidates => .ok candidates

end Candidate

end CronClock
