/-! # Finite sets of numbers

A set is its strictly ascending list, so two sets with the same members are equal. `ofList` collects
the members of any list, `mem_ofList` says that it loses and adds none. -/
set_option autoImplicit false
namespace CronClock

def insertAscending (number : Int) : List Int → List Int
  | [] => [number]
  | head :: rest =>
    if number < head then number :: head :: rest
    else if number = head then head :: rest
    else head :: insertAscending number rest

theorem mem_insertAscending (number other : Int) (list : List Int) :
    other ∈ insertAscending number list ↔ other = number ∨ other ∈ list := by
  induction list with
  | nil => simp [insertAscending]
  | cons head rest ih =>
    simp only [insertAscending]
    split
    · simp
    · split
      · next equal => subst equal; simp
      · simp only [List.mem_cons, ih]
        exact or_left_comm

theorem pairwise_insertAscending (number : Int) (list : List Int)
    (ascending : list.Pairwise (· < ·)) : (insertAscending number list).Pairwise (· < ·) := by
  induction list with
  | nil => simp [insertAscending]
  | cons head rest ih =>
    simp only [insertAscending]
    have headBelow := (List.pairwise_cons.mp ascending).1
    have restAscends := (List.pairwise_cons.mp ascending).2
    split
    · next below =>
      refine List.pairwise_cons.mpr ⟨?_, ascending⟩
      intro other inside
      rcases List.mem_cons.mp inside with same | inRest
      · omega
      · have := headBelow other inRest
        omega
    · split
      · exact ascending
      · next notBelow notEqual =>
        refine List.pairwise_cons.mpr ⟨?_, ih restAscends⟩
        intro other inside
        rcases (mem_insertAscending number other rest).mp inside with same | inRest
        · omega
        · exact headBelow other inRest

structure ValueSet where
  toList : List Int
  ascending : toList.Pairwise (· < ·) := by simp
  deriving DecidableEq

namespace ValueSet

def empty : ValueSet := ⟨[], by simp⟩

def insert (number : Int) (set : ValueSet) : ValueSet :=
  ⟨insertAscending number set.toList, pairwise_insertAscending number set.toList set.ascending⟩

def ofList (numbers : List Int) : ValueSet := numbers.foldr insert empty

def size (set : ValueSet) : Nat := set.toList.length

instance : Membership Int ValueSet := ⟨fun set number => number ∈ set.toList⟩

instance (number : Int) (set : ValueSet) : Decidable (number ∈ set) :=
  inferInstanceAs (Decidable (number ∈ set.toList))

theorem mem_toList (number : Int) (set : ValueSet) : number ∈ set.toList ↔ number ∈ set := Iff.rfl

@[simp] theorem mem_insert (number other : Int) (set : ValueSet) :
    other ∈ set.insert number ↔ other = number ∨ other ∈ set :=
  mem_insertAscending number other set.toList

@[simp] theorem not_mem_empty (number : Int) : number ∉ empty := by
  simp [← mem_toList, empty]

@[simp] theorem mem_ofList (number : Int) (numbers : List Int) :
    number ∈ ofList numbers ↔ number ∈ numbers := by
  induction numbers with
  | nil => simp [ofList]
  | cons head rest ih =>
    have step : ofList (head :: rest) = (ofList rest).insert head := rfl
    rw [step, mem_insert, ih, List.mem_cons]

end ValueSet

end CronClock
