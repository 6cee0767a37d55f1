import CronClock.Proofs.Combinations
import Mathlib.Algebra.BigOperators.Ring.List

/-! # Candidates in order

Candidates are put together field by field, and each field's values come in their order within every
candidate of the fields before. So the candidates stand in the order of their values, the first field
counting most, `Candidate.pairwise_combinations`, and none comes twice. There are as many as the numbers
of values multiply to, `Candidate.length_combinations`, and none at all only if some field has no
values. `Candidate.assemble_exact` puts this together with what the candidates are. -/
set_option autoImplicit false
namespace CronClock

def Expansion.ways : Expansion → Nat
  | every => 1
  | only values => values.size

theorem Expansion.ways_eq_zero_iff (expansion : Expansion) :
    expansion.ways = 0 ↔ expansion = .only .empty := by
  cases expansion with
  | every => simp [ways]
  | only values =>
    obtain ⟨numbers, ascending⟩ := values
    simp [ways, ValueSet.size, ValueSet.empty]

namespace Candidate

/-! ## The order of the fields -/

/-- In the first of the fields where the candidates differ, the one has a smaller value than the other.
-/
def PrecedesIn (fields : List Field) (candidate other : Candidate) : Prop :=
  ∃ before field after, fields = before ++ field :: after ∧
    (∀ earlier ∈ before, candidate.get earlier = other.get earlier) ∧
    ∃ value larger, candidate.get field = some value ∧ other.get field = some larger ∧ value < larger

def Precedes : Candidate → Candidate → Prop := PrecedesIn Field.all

section Order
variable {fields : List Field} {candidate other : Candidate}

theorem PrecedesIn.append (precedes : PrecedesIn fields candidate other) (more : List Field) :
    PrecedesIn (fields ++ more) candidate other := by
  obtain ⟨before, field, after, rfl, same, less⟩ := precedes
  exact ⟨before, field, after ++ more, by simp, same, less⟩

theorem precedesIn_last (same : ∀ earlier ∈ fields, candidate.get earlier = other.get earlier)
    {field : Field} {value larger : Int} (entry : candidate.get field = some value)
    (otherEntry : other.get field = some larger) (less : value < larger) :
    PrecedesIn (fields ++ [field]) candidate other :=
  ⟨fields, field, [], rfl, same, value, larger, entry, otherEntry, less⟩

theorem PrecedesIn.set {field : Field} (fresh : field ∉ fields)
    (precedes : PrecedesIn fields candidate other) (entry otherEntry : Option Int) :
    PrecedesIn fields (candidate.set field entry) (other.set field otherEntry) := by
  obtain ⟨before, decisive, after, rfl, same, value, larger, smaller, greater, less⟩ := precedes
  have unlike : decisive ≠ field := by
    rintro rfl
    exact fresh (by simp)
  refine ⟨before, decisive, after, rfl, ?_, value, larger, ?_, ?_, less⟩
  · intro earlier member
    have apart : earlier ≠ field := by
      rintro rfl
      exact fresh (by simp [member])
    rw [PerField.get_set_other _ _ _ _ apart, PerField.get_set_other _ _ _ _ apart, same earlier member]
  · rw [PerField.get_set_other _ _ _ _ unlike, smaller]
  · rw [PerField.get_set_other _ _ _ _ unlike, greater]

theorem PrecedesIn.ne (precedes : PrecedesIn fields candidate other) : candidate ≠ other := by
  rintro rfl
  obtain ⟨_, _, _, _, _, value, larger, smaller, greater, less⟩ := precedes
  cases smaller.symm.trans greater
  exact Int.lt_irrefl value less

end Order

/-! ## The order of all combinations -/

theorem pairwise_extend {fields : List Field} {field : Field} (fresh : field ∉ fields)
    {candidates : List Candidate} (ordered : candidates.Pairwise (PrecedesIn fields))
    (expansion : Expansion) :
    (extend candidates field expansion).Pairwise (PrecedesIn (fields ++ [field])) := by
  cases expansion with
  | every => exact ordered.imp fun precedes => precedes.append [field]
  | only values =>
    rw [extend, List.pairwise_flatMap]
    constructor
    · intro candidate _
      rw [List.pairwise_map]
      refine values.ascending.imp ?_
      intro value larger less
      refine precedesIn_last ?_ (PerField.get_set_same candidate field (some value))
        (PerField.get_set_same candidate field (some larger)) less
      intro earlier member
      have apart : earlier ≠ field := ne_of_mem_of_not_mem member fresh
      rw [PerField.get_set_other _ _ _ _ apart, PerField.get_set_other _ _ _ _ apart]
    · refine ordered.imp ?_
      intro candidate other precedes one inOne another inOther
      obtain ⟨value, _, rfl⟩ := List.mem_map.mp inOne
      obtain ⟨otherValue, _, rfl⟩ := List.mem_map.mp inOther
      exact (precedes.set fresh (some value) (some otherValue)).append [field]

theorem pairwise_foldl_extend (expansions : Expansions) (ahead fields : List Field)
    (distinct : (fields ++ ahead).Nodup) (candidates : List Candidate)
    (ordered : candidates.Pairwise (PrecedesIn fields)) :
    (ahead.foldl (fun candidates field => extend candidates field (expansions.get field))
      candidates).Pairwise (PrecedesIn (fields ++ ahead)) := by
  induction ahead generalizing fields candidates with
  | nil => simpa using ordered
  | cons field rest ih =>
    have fresh : field ∉ fields := by
      intro member
      exact (List.nodup_append.mp distinct).2.2 field member field (by simp) rfl
    have regrouped : fields ++ field :: rest = (fields ++ [field]) ++ rest := by simp
    rw [List.foldl_cons, regrouped]
    exact ih (fields ++ [field]) (regrouped ▸ distinct) _
      (pairwise_extend fresh ordered (expansions.get field))

theorem pairwise_combinations (expansions : Expansions) :
    (combinations expansions).Pairwise Precedes :=
  pairwise_foldl_extend expansions Field.all [] (by decide) [unfixed] (List.pairwise_singleton _ _)

/-! ## The number of all combinations -/

theorem length_extend (candidates : List Candidate) (field : Field) (expansion : Expansion) :
    (extend candidates field expansion).length = candidates.length * expansion.ways := by
  cases expansion with
  | every => exact (Nat.mul_one _).symm
  | only values => simp [extend, Expansion.ways, ValueSet.size, List.length_flatMap]

theorem length_foldl_extend (expansions : Expansions) (ahead : List Field)
    (candidates : List Candidate) :
    (ahead.foldl (fun candidates field => extend candidates field (expansions.get field))
        candidates).length
      = candidates.length * (ahead.map fun field => (expansions.get field).ways).prod := by
  induction ahead generalizing candidates with
  | nil => simp
  | cons field rest ih =>
    rw [List.foldl_cons, ih, length_extend, List.map_cons, List.prod_cons, Nat.mul_assoc]

theorem length_combinations (expansions : Expansions) :
    (combinations expansions).length
      = (Field.all.map fun field => (expansions.get field).ways).prod := by
  rw [combinations, length_foldl_extend, List.length_singleton, Nat.one_mul]

theorem combinations_eq_nil_iff (expansions : Expansions) :
    combinations expansions = [] ↔ ∃ field, expansions.get field = .only .empty := by
  have everyField : ∀ field, field ∈ Field.all := fun field => by cases field <;> decide
  rw [← List.length_eq_zero_iff, length_combinations, List.prod_eq_zero_iff, List.mem_map]
  simp only [everyField, true_and, Expansion.ways_eq_zero_iff]

/-! ## Putting candidates together -/

/-- Putting candidates together fails exactly if a field's set is empty. Otherwise the candidates, in
their order and each of them once, are all those that leave the unconstrained fields open and have a
value of its set in every other; there are as many as the sizes of the sets multiply to; and some
candidate agrees with a wall time exactly if every field's expansion admits what the wall time shows in
it. -/
theorem assemble_exact (entry : Field → Option Expansion) :
    ((∃ field, entry field = some (.only .empty)) ∧
        assemble (Expansions.ofEntries entry) = .error .noCandidates) ∨
      ((∀ field, entry field ≠ some (.only .empty)) ∧
        ∃ candidates, assemble (Expansions.ofEntries entry) = .ok candidates ∧
          candidates.Nodup ∧ candidates.Pairwise Precedes ∧
          (∀ candidate : Candidate, candidate ∈ candidates ↔
            ∀ field, ((entry field).getD .every).Offers (candidate.get field)) ∧
          candidates.length = (Field.all.map fun field => ((entry field).getD .every).ways).prod ∧
          ∀ wall, (∃ candidate ∈ candidates, candidate.Agrees wall) ↔
            ∀ field, ((entry field).getD .every).admits ((Wall.fields wall).get field) = true) := by
  have fields : ∀ field, (Expansions.ofEntries entry).get field = (entry field).getD .every :=
    PerField.get_ofFunction _
  have empty : ∀ field, (Expansions.ofEntries entry).get field = .only .empty ↔
      entry field = some (.only .empty) := by
    intro field
    rw [fields]
    cases entry field <;> simp
  have members := mem_combinations (Expansions.ofEntries entry)
  have counted := length_combinations (Expansions.ofEntries entry)
  have agreeing := exists_agrees_iff (Expansions.ofEntries entry)
  simp only [fields] at members counted agreeing
  have none := combinations_eq_nil_iff (Expansions.ofEntries entry)
  simp only [empty] at none
  unfold assemble
  split
  · next nothing => exact .inl ⟨none.mp nothing, rfl⟩
  · next something =>
    have ordered := pairwise_combinations (Expansions.ofEntries entry)
    refine .inr ⟨?_, _, rfl, ordered.imp PrecedesIn.ne, ordered, members, counted, agreeing⟩
    intro field vacant
    exact something (none.mpr ⟨field, vacant⟩)

end Candidate
end CronClock
