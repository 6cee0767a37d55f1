import CronClock.Proofs.Overlong

/-! # Every so many values

A start and a step stand for the start and every value a whole number of steps after it,
`Bounds.stepped`, once both are clamped. Clamping the step leaves these values as they are, unless the
step is beyond the bounds and the start is zero: then the greatest value comes in,
`Bounds.stepped_clamp_eq_iff`. `Expansion.ofField_steps_iff` says so of the texts of steps. -/
set_option autoImplicit false
namespace CronClock

open CronClock.Text (Numeral)

/-! ## Steps within bounds -/

namespace Bounds

def stepped (bounds : Bounds) (start step : Int) : Set Int :=
  {value | bounds.holds value = true ∧ bounds.clamp start ≤ value ∧
    step ∣ value - bounds.clamp start}

variable {bounds : Bounds}

theorem stepped_eq_singleton (inhabited : bounds.least ≤ bounds.greatest) {start step : Int}
    (far : bounds.greatest - bounds.clamp start < step) :
    bounds.stepped start step = {bounds.clamp start} := by
  ext value
  rw [Set.mem_singleton_iff]
  constructor
  · rintro ⟨held, since, multiple⟩
    have upto := ((bounds.holds_iff value).mp held).2
    have none : value - bounds.clamp start = 0 :=
      Int.eq_zero_of_dvd_of_nonneg_of_lt (by omega) (by omega) multiple
    omega
  · rintro rfl
    refine ⟨(bounds.holds_iff _).mpr ⟨?_, ?_⟩, Int.le_refl _, by simp⟩
    · exact bounds.least_le_clamp start
    · exact bounds.clamp_le_greatest start inhabited

/-- Clamping a positive step matters only to a start of zero, from which the clamped step reaches the
greatest value. -/
theorem stepped_clamp_eq_iff (nonnegative : 0 ≤ bounds.least) (low : bounds.least ≤ 1)
    (high : 1 ≤ bounds.greatest) (start : Int) {step : Int} (positive : 1 ≤ step) :
    bounds.stepped start (bounds.clamp step) = bounds.stepped start step ↔
      ¬ (bounds.greatest < step ∧ bounds.clamp start = 0) := by
  have inhabited : bounds.least ≤ bounds.greatest := Int.le_trans low high
  have since := bounds.least_le_clamp start
  by_cases beyond : bounds.greatest < step
  · have clamped : bounds.clamp step = bounds.greatest := by
      unfold clamp
      omega
    by_cases zero : bounds.clamp start = 0
    · refine iff_of_false (fun same => ?_) fun kept => kept ⟨beyond, zero⟩
      have reached : bounds.greatest ∈ bounds.stepped start (bounds.clamp step) :=
        ⟨(bounds.holds_iff _).mpr ⟨inhabited, Int.le_refl _⟩, by omega, by simp [clamped, zero]⟩
      rw [same] at reached
      have multiple : step ∣ bounds.greatest := by simpa [zero] using reached.2.2
      have := Int.le_of_dvd (by omega) multiple
      omega
    · refine iff_of_true ?_ fun both => zero both.2
      rw [stepped_eq_singleton inhabited (by omega), stepped_eq_singleton inhabited (by omega)]
  · have kept : bounds.clamp step = step := by
      unfold clamp
      omega
    rw [kept]
    exact iff_of_true rfl fun both => beyond both.1

end Bounds

theorem Piece.denotes_steps_iff {bounds : Bounds} {step : Int} (positive : 1 ≤ bounds.clamp step)
    (start value : Int) : (steps start step).Denotes bounds value ↔
      value ∈ bounds.stepped start (bounds.clamp step) := by
  constructor
  · rintro ⟨count, rfl, upto⟩
    have since := bounds.least_le_clamp start
    have forward : 0 ≤ bounds.clamp step * (count : Int) :=
      Int.mul_nonneg (by omega) (Int.natCast_nonneg count)
    refine ⟨(bounds.holds_iff _).mpr ⟨by omega, upto⟩, by omega, ?_⟩
    simp
  · rintro ⟨held, since, count, counted⟩
    have forward : 0 ≤ count := by
      by_contra negative
      have := Int.mul_neg_of_pos_of_neg (show 0 < bounds.clamp step by omega) (Int.not_le.mp negative)
      omega
    refine ⟨count.toNat, ?_, ((bounds.holds_iff value).mp held).2⟩
    rw [Int.toNat_of_nonneg forward]
    omega

/-! ## Expansions of sets -/

namespace Expansion

/-- The expansion of a set of values within bounds: every value if these are all. -/
def Represents (bounds : Bounds) (set : Set Int) : Expansion → Prop
  | every => set = bounds.values
  | only values => set ≠ bounds.values ∧ ∀ value, value ∈ values ↔ value ∈ set

theorem Represents.unique {bounds : Bounds} {expansion : Expansion} {set other : Set Int}
    (represents : expansion.Represents bounds set) (also : expansion.Represents bounds other) :
    set = other := by
  cases expansion with
  | every => exact Eq.trans represents also.symm
  | only values =>
    ext value
    rw [← represents.2, also.2]

theorem ofValues_represents {bounds : Bounds} (inhabited : bounds.least ≤ bounds.greatest)
    {numbers : List Int} (within : ∀ number ∈ numbers, bounds.holds number = true) :
    (ofValues bounds numbers).Represents bounds {value | value ∈ numbers} := by
  have full := ofValues_eq_every_iff bounds inhabited numbers within
  by_cases every : ofValues bounds numbers = .every
  · rw [every]
    exact full.mp every
  · rw [ofValues_eq_only every]
    exact ⟨mt full.mpr every, fun value => ValueSet.mem_ofList value numbers⟩

/-! ## Texts of steps -/

inductive StartText : String → Int → Prop
  | absent : StartText "" 0
  | star : StartText "*" 0
  | number (start : Int) : StartText (toString start) start

theorem StartText.hasFewDigits {text : String} {start : Int} (begun : StartText text start)
    (writable : Numeral.isWritable start = true) : Text.HasFewDigits text.toList := by
  cases begun with
  | absent => exact .of_length (by decide)
  | star => exact .of_length (by decide)
  | number =>
    rw [← Numeral.text_ofInt]
    exact Numeral.hasFewDigits_ofInt writable

theorem StartText.written {text : String} {start : Int} (begun : StartText text start) :
    Piece.WrittenStart text.toList start := by
  cases begun with
  | absent => exact .absent
  | star => exact .star
  | number =>
    have written := Piece.WrittenStart.number (Numeral.ofInt start) (Numeral.isSound_ofInt start)
    rwa [Numeral.text_ofInt, Numeral.value_ofInt] at written

def IsStepping (c : Char) : Prop := Text.IsPlain c ∨ c = '*' ∨ c = '/'

theorem IsStepping.spec {c : Char} (stepping : IsStepping c) :
    (c.toNat < 0x80 ∧ c.toLower = c) ∧ Text.isBlank c = false ∧
      c ≠ 'f' ∧ c ≠ 'F' ∧ c ≠ 'l' ∧ c ≠ 'L' ∧ c ≠ ',' := by
  rcases stepping with plain | rfl | rfl
  · refine ⟨plain.spec.1, plain.spec.2, ?_, ?_, ?_, ?_, ?_⟩ <;>
      (rintro rfl; exact absurd plain (by decide))
  · decide
  · decide

section Texts
variable (field : Field) {text : String} {start : Int} (begun : StartText text start) (step : Int)

include begun in
theorem isStepping_steps : ∀ c ∈ (text ++ "/" ++ toString step).toList, IsStepping c := by
  have number : ∀ (value : Int) (c : Char), c ∈ (toString value).toList → IsStepping c := by
    intro value c member
    rw [← Numeral.text_ofInt] at member
    exact .inl (Numeral.isPlain_ofInt value c member)
  intro c member
  rw [String.toList_append, String.toList_append, List.mem_append, List.mem_append] at member
  rcases member with (first | stroke) | last
  · cases begun with
    | absent => simp at first
    | star => exact .inr (.inl (by simpa using first))
    | number => exact number start c first
  · exact .inr (.inr (by simpa using stroke))
  · exact number step c last

include begun in
theorem splitAt_steps :
    Text.splitAt ',' (text ++ "/" ++ toString step).toList
        = [text.toList ++ '/' :: (Numeral.ofInt step).text] ∧
      Piece.token field.bounds (text.toList ++ '/' :: (Numeral.ofInt step).text)
        = text.toList ++ '/' :: (Numeral.ofInt step).text := by
  have characters := isStepping_steps begun step
  have whole : (text ++ "/" ++ toString step).toList
      = text.toList ++ '/' :: (Numeral.ofInt step).text := by
    rw [String.toList_append, String.toList_append, Numeral.text_ofInt, List.append_assoc]
    rfl
  rw [whole] at characters ⊢
  constructor
  · exact Text.splitAt_of_not_mem fun member => (characters ',' member).spec.2.2.2.2.2.2 rfl
  · have unaliased : Piece.IsUnaliased (text.toList ++ '/' :: (Numeral.ofInt step).text) := by
      refine ⟨?_, ?_, ?_, ?_⟩
      · exact fun member => (characters 'f' member).spec.2.2.1 rfl
      · exact fun member => (characters 'F' member).spec.2.2.2.1 rfl
      · exact fun member => (characters 'l' member).spec.2.2.2.2.1 rfl
      · exact fun member => (characters 'L' member).spec.2.2.2.2.2.1 rfl
    exact Piece.token_eq_self field.bounds unaliased (fun c member => (characters c member).spec.1)
      fun c member => (characters c member).spec.2.1

include begun in
theorem written_steps (positive : 1 ≤ step) :
    Piece.Written (text.toList ++ '/' :: (Numeral.ofInt step).text) (.steps start step) := by
  have unsigned : (Numeral.ofInt step).negative = false := decide_eq_false (by omega)
  have written := Piece.Written.steps text.toList start (Numeral.ofInt step) begun.written
    (Numeral.isSound_ofInt step) unsigned
  rwa [Numeral.value_ofInt] at written

include begun in
/-- With a positive step, the expansion is that of the start and what the clamped step leads to. -/
theorem ofField_steps (positive : 1 ≤ step) (startWritable : Numeral.isWritable start = true)
    (stepWritable : Numeral.isWritable step = true) :
    ∃ expansion, ofField field (text ++ "/" ++ toString step) = .ok expansion ∧
      expansion.Represents field.bounds (field.bounds.stepped start (field.bounds.clamp step)) := by
  obtain ⟨cut, own⟩ := splitAt_steps field begun step
  have few : Text.HasFewDigits (text.toList ++ '/' :: (Numeral.ofInt step).text) := by
    have undigital : Text.isDigit '/' = false := by decide
    exact (begun.hasFewDigits startWritable).append_mark (Numeral.hasFewDigits_ofInt stepWritable)
      undigital
  have read := Piece.read_written few (written_steps begun step positive)
  have forward : 1 ≤ field.bounds.clamp step := by
    have high := field.bounds_span.2.2
    unfold Bounds.clamp
    omega
  have admitted : (Piece.steps start step).IsAdmitted field.bounds := forward
  obtain ⟨numbers, given, denotes⟩ := Piece.values_of_isAdmitted admitted
    (text.toList ++ '/' :: (Numeral.ofInt step).text)
  obtain ⟨collected, expanded⟩ := ofField_alone cut own read (by simp) given
  have inhabited := field.least_le_greatest
  have represents := ofValues_represents inhabited (collect_holds _ inhabited _ numbers collected)
  have same : {value | value ∈ numbers}
      = field.bounds.stepped start (field.bounds.clamp step) := by
    ext value
    rw [Set.mem_ofPred_eq, denotes, Piece.denotes_steps_iff forward]
  rw [same] at represents
  exact ⟨_, expanded, represents⟩

include begun in
theorem ofField_steps_overlong (positive : 1 ≤ step)
    (unwritable : ¬ (Numeral.isWritable start = true ∧ Numeral.isWritable step = true)) :
    ofField field (text ++ "/" ++ toString step)
      = .error ⟨.digitCount, text ++ "/" ++ toString step, some field⟩ := by
  obtain ⟨cut, own⟩ := splitAt_steps field begun step
  have sound := Numeral.isSound_ofInt step
  have unsigned : (Numeral.ofInt step).negative = false := decide_eq_false (by omega)
  have overlong : Piece.IsOverlong (text.toList ++ '/' :: (Numeral.ofInt step).text) := by
    by_cases stepWritable : Numeral.isWritable step = true
    · have startUnwritable : ¬ Numeral.isWritable start = true := fun writable =>
        unwritable ⟨writable, stepWritable⟩
      cases begun with
      | absent => exact absurd rfl startUnwritable
      | star => exact absurd rfl startUnwritable
      | number =>
        rw [← Numeral.text_ofInt]
        exact .start _ (Numeral.isSound_ofInt start) (Numeral.isLong_ofInt startUnwritable) _
          (Piece.dashless_of_unsigned sound unsigned)
    · exact .step _ start begun.written _ sound unsigned (Numeral.isLong_ofInt stepWritable)
  exact ofField_alone_overlong cut own overlong

include begun in
/-- A start and a positive step in decimal expand to every so many values from the clamped start on,
exactly if neither number has too many digits and the step is not beyond the bounds from a start of
zero. A step as long as the bounds or longer would leave the start alone. -/
theorem ofField_steps_iff (positive : 1 ≤ step) :
    ((∃ expansion, ofField field (text ++ "/" ++ toString step) = .ok expansion ∧
        expansion.Represents field.bounds (field.bounds.stepped start step)) ↔
      (Numeral.isWritable start = true ∧ Numeral.isWritable step = true) ∧
        ¬ (field.bounds.greatest < step ∧ field.bounds.clamp start = 0)) ∧
      (field.bounds.size ≤ step → field.bounds.stepped start step = {field.bounds.clamp start}) := by
  obtain ⟨nonnegative, low, high⟩ := field.bounds_span
  have kept := Bounds.stepped_clamp_eq_iff nonnegative low high start positive
  constructor
  · by_cases writable : Numeral.isWritable start = true ∧ Numeral.isWritable step = true
    · obtain ⟨expansion, expanded, represents⟩ :=
        ofField_steps field begun step positive writable.1 writable.2
      rw [← kept]
      constructor
      · rintro ⟨other, also, wanted⟩
        cases expanded.symm.trans also
        exact ⟨writable, represents.unique wanted⟩
      · rintro ⟨_, same⟩
        exact ⟨expansion, expanded, same ▸ represents⟩
    · refine iff_of_false ?_ fun both => writable both.1
      rintro ⟨expansion, expanded, _⟩
      cases expanded.symm.trans (ofField_steps_overlong field begun step positive writable)
  · intro long
    apply Bounds.stepped_eq_singleton field.least_le_greatest
    have since := field.bounds.least_le_clamp start
    unfold Bounds.size at long
    omega

end Texts

theorem ofField_steps_everyFortyDays :
    StartText "*" 0 ∧ (1 : Int) ≤ 40 ∧ Field.day.bounds.stepped 0 40 = {1} ∧
      ∃ expansion, ofField .day "*/40" = .ok expansion ∧
        expansion.Represents Field.day.bounds (Field.day.bounds.stepped 0 40) := by
  obtain ⟨expands, alone⟩ := ofField_steps_iff .day .star 40 (by decide)
  exact ⟨.star, by decide, alone (by decide), expands.mpr ⟨⟨rfl, rfl⟩, by decide⟩⟩

/-- Seconds from zero on, sixty apart: the last second comes in. -/
theorem ofField_steps_everySixtySeconds :
    ofField .second "0/60" = .ok (.only (.ofList [0, 59])) ∧
      (59 : Int) ∉ Field.second.bounds.stepped 0 60 ∧
      ¬ ∃ expansion, ofField .second "0/60" = .ok expansion ∧
        expansion.Represents Field.second.bounds (Field.second.bounds.stepped 0 60) := by
  have expanded : ofField .second "0/60" = .ok (.only (.ofList [0, 59])) := by decide +kernel
  have missed : (59 : Int) ∉ Field.second.bounds.stepped 0 60 := by
    rintro ⟨_, _, multiple⟩
    exact absurd multiple (by decide)
  refine ⟨expanded, missed, ?_⟩
  rintro ⟨expansion, also, represents⟩
  cases expanded.symm.trans also
  exact missed ((represents.2 59).mp (by decide))

end Expansion
end CronClock
