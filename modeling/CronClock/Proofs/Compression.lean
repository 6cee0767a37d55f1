import CronClock.Description
import CronClock.Proofs.Grammar
import CronClock.Proofs.Splitting

/-! # Compressed values read back

A set of values is written as its runs of consecutive values, with a dash between the ends of a run of
three and more. The dash is a sign too, but every number before a dash ends in a digit, so each token is
read as what was written. The numbers come back in their order, run by run:
`Expansion.collect_compress`; and a set that does not fill the bounds comes back as itself,
`Expansion.within?_compress`. -/
set_option autoImplicit false
namespace CronClock

open CronClock.Text (Numeral splitAt)

/-! ## Characters of numbers -/

def Text.IsPlain (c : Char) : Prop := c = '-' ∨ c.isDigit = true

instance (c : Char) : Decidable (Text.IsPlain c) := inferInstanceAs (Decidable (_ ∨ _))

theorem Text.IsPlain.spec {c : Char} (plain : IsPlain c) :
    (c.toNat < 0x80 ∧ c.toLower = c) ∧ isBlank c = false := by
  have ascii : c.toNat < 0x80 := by
    rcases plain with rfl | digit
    · decide
    · have most := (toNat_of_isDigit digit).2
      omega
  have tabled : IsPlain c → c.toLower = c ∧ isBlank c = false := by
    apply ascii_forall _ ascii
    decide +kernel
  obtain ⟨own, unblank⟩ := tabled plain
  exact ⟨⟨ascii, own⟩, unblank⟩

theorem Text.Numeral.isPlain_ofInt (number : Int) : ∀ c ∈ (Numeral.ofInt number).text, IsPlain c := by
  intro c member
  unfold Numeral.text at member
  split at member
  · rcases List.mem_cons.mp member with rfl | digit
    · exact .inl rfl
    · exact .inr (Numeral.ofInt_digits_ascii number c digit)
  · exact .inr (Numeral.ofInt_digits_ascii number c member)

namespace Piece

theorem token_eq_self (bounds : Bounds) {text : List Char} (unaliased : IsUnaliased text)
    (small : ∀ c ∈ text, c.toNat < 0x80 ∧ c.toLower = c)
    (unblank : ∀ c ∈ text, Text.isBlank c = false) : token bounds text = text := by
  rw [token_eq bounds text unaliased, Text.strip_of_unblank unblank, Text.lowercase_of_small small]

theorem token_of_plain (bounds : Bounds) {text : List Char} (plain : ∀ c ∈ text, Text.IsPlain c) :
    token bounds text = text := by
  have unaliased : IsUnaliased text := by
    refine ⟨?_, ?_, ?_, ?_⟩
    · exact fun member => absurd (plain 'f' member) (by decide)
    · exact fun member => absurd (plain 'F' member) (by decide)
    · exact fun member => absurd (plain 'l' member) (by decide)
    · exact fun member => absurd (plain 'L' member) (by decide)
  exact token_eq_self bounds unaliased (fun c member => (plain c member).spec.1)
    fun c member => (plain c member).spec.2

end Piece

/-! ## Runs -/

namespace Description

def IsRun : List Int → Prop
  | [] => False
  | first :: rest => (first :: rest).IsChain fun before after => after = before + 1

/-- The runs are the numbers in their order, cut where the next number is not the following one. -/
theorem runs_spec (numbers : List Int) :
    (runs numbers).flatten = numbers ∧ ∀ run ∈ runs numbers, IsRun run := by
  induction numbers with
  | nil => exact ⟨rfl, by simp [runs]⟩
  | cons number rest ih =>
    have step : runs (number :: rest) = extendRuns number (runs rest) := rfl
    rw [step]
    obtain ⟨whole, each⟩ := ih
    cases cut : runs rest with
    | nil =>
      rw [cut] at whole
      subst whole
      exact ⟨rfl, by simp [extendRuns, IsRun]⟩
    | cons run others =>
      rw [cut, List.flatten_cons] at whole
      rw [cut, List.forall_mem_cons] at each
      obtain ⟨isRun, othersRun⟩ := each
      by_cases goesOn : run.head? = some (number + 1)
      · rw [extendRuns, if_pos goesOn]
        refine ⟨by simp [← whole], List.forall_mem_cons.mpr ⟨?_, othersRun⟩⟩
        cases run with
        | nil => cases goesOn
        | cons first more =>
          have next : first = number + 1 := by simpa using goesOn
          exact List.isChain_cons_cons.mpr ⟨next, isRun⟩
      · rw [extendRuns, if_neg goesOn]
        refine ⟨by simp [← whole], List.forall_mem_cons.mpr ⟨?_, ?_⟩⟩
        · exact List.isChain_singleton number
        · exact List.forall_mem_cons.mpr ⟨isRun, othersRun⟩

theorem progression_succ (first last : Int) (order : first ≤ last) :
    Piece.progression first last 1 = first :: Piece.progression (first + 1) last 1 := by
  obtain ⟨count, same⟩ : ∃ count : Nat, last = first + count := ⟨(last - first).toNat, by omega⟩
  subst same
  have longer : ((first + count - first) / 1 + 1).toNat = count + 1 := by omega
  have shorter : ((first + count - (first + 1)) / 1 + 1).toNat = count := by omega
  rw [Piece.progression, Piece.progression, longer, shorter, List.range_succ_eq_map]
  simp only [List.map_cons, List.map_map, Function.comp_def]
  congr 1
  · simp
  · apply List.map_congr_left
    intro index _
    push_cast
    omega

theorem IsRun.progression {first last : Int} {rest : List Int} (isRun : IsRun (first :: rest))
    (ends : (first :: rest).getLast? = some last) :
    first ≤ last ∧ Piece.progression first last 1 = first :: rest := by
  induction rest generalizing first with
  | nil =>
    have same : first = last := by simpa using ends
    subst same
    refine ⟨Int.le_refl _, ?_⟩
    rw [progression_succ first first (Int.le_refl _), Piece.progression]
    simp
  | cons next more ih =>
    obtain ⟨following, chain⟩ := List.isChain_cons_cons.mp isRun
    obtain ⟨order, same⟩ := ih chain (by simpa using ends)
    refine ⟨by omega, ?_⟩
    rw [progression_succ first last (by omega), ← following, same]

end Description

/-! ## Collecting the numbers of runs -/

theorem ValueSet.eq_of_toList {set other : ValueSet} (same : set.toList = other.toList) :
    set = other := by
  cases set
  cases other
  simpa using same

theorem ValueSet.ofList_toList (set : ValueSet) : ofList set.toList = set := by
  have kept : ∀ numbers : List Int, numbers.Pairwise (· < ·) → (ofList numbers).toList = numbers := by
    intro numbers
    induction numbers with
    | nil =>
      intro _
      rfl
    | cons number rest ih =>
      intro ascending
      obtain ⟨least, others⟩ := List.pairwise_cons.mp ascending
      have step : (ofList (number :: rest)).toList = insertAscending number (ofList rest).toList := rfl
      rw [step, ih others]
      cases rest with
      | nil => rfl
      | cons next more => exact if_pos (least next List.mem_cons_self)
  exact eq_of_toList (kept set.toList set.ascending)

namespace Expansion

section Written
variable {bounds : Bounds} (least : Numeral.isWritable bounds.least = true)
  (greatest : Numeral.isWritable bounds.greatest = true)
include least greatest

theorem hasFewDigits_ofInt {number : Int} (held : bounds.holds number = true) :
    Text.HasFewDigits (Numeral.ofInt number).text := by
  obtain ⟨since, upto⟩ := (bounds.holds_iff number).mp held
  exact Numeral.hasFewDigits_ofInt (Numeral.isWritable_of_between least greatest since upto)

theorem collect_numbers (numbers : List Int)
    (inside : ∀ number ∈ numbers, bounds.holds number = true) (rest : List (List Char)) :
    collect bounds (numbers.map (fun number => (Numeral.ofInt number).text) ++ rest)
      = (collect bounds rest).map (Option.map (numbers ++ ·)) := by
  induction numbers with
  | nil =>
    cases collected : collect bounds rest with
    | error fault => simp [collected, Except.map]
    | ok numbers? => simp [collected, Except.map]
  | cons number more ih =>
    have held := inside number List.mem_cons_self
    have own := Piece.token_of_plain bounds (Numeral.isPlain_ofInt number)
    have read : Piece.read (Numeral.ofInt number).text = .ok (.single number) := by
      have written := Piece.Written.single (Numeral.ofInt number) (Numeral.isSound_ofInt number)
      rw [Numeral.value_ofInt] at written
      exact Piece.read_written (hasFewDigits_ofInt least greatest held) written
    have given : (Piece.single number).values bounds (Numeral.ofInt number).text = .ok [number] := by
      rw [Piece.values, bounds.clamp_of_holds number held]
    rw [List.map_cons, List.cons_append,
      collect_plain _ _ (by rw [own, read]) (by simp) (by rw [own, given]),
      ih fun other member => inside other (List.mem_cons_of_mem number member)]
    cases collect bounds rest with
    | error fault => rfl
    | ok numbers? => cases numbers? <;> rfl

theorem collect_span (first last : Int) (more : List Int) (isRun : Description.IsRun (first :: more))
    (ends : (first :: more).getLast? = some last)
    (inside : ∀ number ∈ first :: more, bounds.holds number = true) (rest : List (List Char)) :
    collect bounds (((Numeral.ofInt first).text ++ '-' :: (Numeral.ofInt last).text) :: rest)
      = (collect bounds rest).map (Option.map (first :: more ++ ·)) := by
  obtain ⟨order, whole⟩ := isRun.progression ends
  have low := inside first List.mem_cons_self
  have high := inside last (List.mem_of_getLast? ends)
  have plain : ∀ c ∈ (Numeral.ofInt first).text ++ '-' :: (Numeral.ofInt last).text, Text.IsPlain c := by
    intro c member
    rcases List.mem_append.mp member with early | late
    · exact Numeral.isPlain_ofInt first c early
    · rcases List.mem_cons.mp late with rfl | late
      · exact .inl rfl
      · exact Numeral.isPlain_ofInt last c late
  have few : Text.HasFewDigits ((Numeral.ofInt first).text ++ '-' :: (Numeral.ofInt last).text) := by
    have undigital : Text.isDigit '-' = false := by decide
    exact (hasFewDigits_ofInt least greatest low).append_mark
      (hasFewDigits_ofInt least greatest high) undigital
  have own := Piece.token_of_plain bounds plain
  have read : Piece.read ((Numeral.ofInt first).text ++ '-' :: (Numeral.ofInt last).text)
      = .ok (.span first last) := by
    have written := Piece.Written.span (Numeral.ofInt first) (Numeral.ofInt last)
      (Numeral.isSound_ofInt first) (Numeral.isSound_ofInt last)
    rw [Numeral.value_ofInt, Numeral.value_ofInt] at written
    exact Piece.read_written few written
  have given : ∀ token, (Piece.span first last).values bounds token = .ok (first :: more) := by
    intro token
    rw [Piece.values, bounds.clamp_of_holds first low, bounds.clamp_of_holds last high,
      if_neg (Int.not_lt.mpr order), whole]
  rw [collect_plain _ _ (by rw [own, read]) (by simp) (given _)]

/-- A run comes back from the tokens that it is written with. -/
theorem collect_run (run : List Int) (isRun : Description.IsRun run)
    (inside : ∀ number ∈ run, bounds.holds number = true) (rest : List (List Char)) :
    collect bounds (splitAt ',' (Description.runText run).toList ++ rest)
      = (collect bounds rest).map (Option.map (run ++ ·)) := by
  cases run with
  | nil => exact absurd isRun id
  | cons first more =>
    obtain ⟨last, ends⟩ : ∃ last, (first :: more).getLast? = some last :=
      ⟨_, List.getLast?_eq_some_getLast (List.cons_ne_nil first more)⟩
    have commaless : ∀ number : Int, ',' ∉ (Numeral.ofInt number).text := by
      intro number member
      exact absurd (Numeral.isPlain_ofInt number ',' member) (by decide)
    by_cases long : 2 < (first :: more).length
    · have written : (Description.runText (first :: more)).toList
          = (Numeral.ofInt first).text ++ '-' :: (Numeral.ofInt last).text := by
        simp only [Description.runText, List.head?_cons, ends, long, if_true, String.toList_append,
          Numeral.text_ofInt, List.append_assoc]
        rfl
      have single : ',' ∉ (Numeral.ofInt first).text ++ '-' :: (Numeral.ofInt last).text := by
        simp [commaless]
      rw [written, Text.splitAt_of_not_mem single, List.singleton_append,
        collect_span least greatest first last more isRun ends inside rest]
    · have written : Description.runText (first :: more)
          = Text.join (String.singleton ',') ((first :: more).map toString) := by
        simp only [Description.runText, List.head?_cons, ends, long, if_false]
        rfl
      have cut : splitAt ',' (Description.runText (first :: more)).toList
          = (first :: more).map fun number => (Numeral.ofInt number).text := by
        rw [written, Text.splitAt_join ',' _ (by simp), List.flatMap_map]
        have each : ∀ number : Int, splitAt ',' (toString number).toList
            = [(Numeral.ofInt number).text] := by
          intro number
          rw [← Numeral.text_ofInt]
          exact Text.splitAt_of_not_mem (commaless number)
        simp only [each]
        exact List.map_eq_flatMap.symm
      rw [cut, collect_numbers least greatest _ inside rest]

theorem collect_runs (runs : List (List Int)) (each : ∀ run ∈ runs, Description.IsRun run)
    (inside : ∀ number ∈ runs.flatten, bounds.holds number = true) :
    collect bounds (runs.flatMap fun run => splitAt ',' (Description.runText run).toList)
      = .ok (some runs.flatten) := by
  induction runs with
  | nil => rfl
  | cons run others ih =>
    have first : ∀ number ∈ run, bounds.holds number = true := fun number member =>
      inside number (List.mem_append_left _ member)
    have later : ∀ number ∈ others.flatten, bounds.holds number = true := fun number member =>
      inside number (List.mem_append_right _ member)
    rw [List.flatMap_cons, collect_run least greatest run (each run List.mem_cons_self) first,
      ih (fun other member => each other (List.mem_cons_of_mem run member)) later]
    rfl

theorem collect_compress (numbers : List Int) (nonempty : numbers ≠ [])
    (inside : ∀ number ∈ numbers, bounds.holds number = true) :
    collect bounds (splitAt ',' (Description.compress numbers).toList) = .ok (some numbers) := by
  obtain ⟨whole, each⟩ := Description.runs_spec numbers
  have written : (Description.runs numbers).map Description.runText ≠ [] := by
    intro none
    rw [List.map_eq_nil_iff] at none
    rw [none] at whole
    exact nonempty whole.symm
  have cut : splitAt ',' (Description.compress numbers).toList
      = (Description.runs numbers).flatMap fun run => splitAt ',' (Description.runText run).toList := by
    have joined := Text.splitAt_join ',' _ written
    rw [List.flatMap_map] at joined
    exact joined
  rw [cut, collect_runs least greatest _ each (by rwa [whole]), whole]

/-- A set that leaves out some value of the bounds comes back as it is. -/
theorem within?_compress (values : ValueSet) (nonempty : values.toList ≠ [])
    (inside : ∀ value ∈ values, bounds.holds value = true)
    (proper : ∃ value, bounds.holds value = true ∧ value ∉ values) :
    within? bounds (Description.compress values.toList) = .ok (.only values) := by
  obtain ⟨missing, held, absent⟩ := proper
  have inhabited : bounds.least ≤ bounds.greatest := by
    obtain ⟨since, upto⟩ := (bounds.holds_iff missing).mp held
    exact Int.le_trans since upto
  have constrained : ofValues bounds values.toList ≠ .every := by
    intro full
    have same := (ofValues_eq_every_iff bounds inhabited values.toList inside).mp full
    have member : missing ∈ bounds.values := held
    rw [← same] at member
    exact absent member
  rw [within?_eq_map least greatest, collect_compress least greatest values.toList nonempty inside]
  simp only [Except.map, Option.elim_some, ofValues_eq_only constrained, ValueSet.ofList_toList]

end Written
end Expansion
end CronClock
