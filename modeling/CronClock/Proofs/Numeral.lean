import CronClock.Text.Numeral

/-! # Numerals and how they are written

Reading a text as one numeral, or as two with a dash between them, succeeds exactly on what such
numerals are written as, `Numeral.read?_eq_some_iff` and `Numeral.readPair?_eq_some_iff`. A dash is no
digit, so the digits of the first numeral end at the first dash that is not its sign. A number is
written as the numeral that has it as its value, `Numeral.text_ofInt` and `Numeral.value_ofInt`. -/
set_option autoImplicit false
namespace CronClock.Text

def AllDigits (text : List Char) : Prop := ∀ c ∈ text, isDigit c = true

theorem AllDigits.not_mem {digits : List Char} (digital : AllDigits digits) {mark : Char}
    (plain : isDigit mark = false) : mark ∉ digits := by
  intro member
  rw [digital mark member] at plain
  cases plain

/-! ## Where a stretch ends -/

section Stretches
variable {p : Char → Bool} {stretch : List Char} {mark : Char}
  (inside : ∀ c ∈ stretch, p c = true) (stop : p mark = false) (rest : List Char)
include inside stop

theorem takeWhile_stops : (stretch ++ mark :: rest).takeWhile p = stretch := by
  rw [List.takeWhile_append_of_pos inside, List.takeWhile_cons_of_neg (by simp [stop]),
    List.append_nil]

theorem dropWhile_stops : (stretch ++ mark :: rest).dropWhile p = mark :: rest := by
  rw [List.dropWhile_append_of_pos inside, List.dropWhile_cons_of_neg (by simp [stop])]

end Stretches

/-! ## Reading numerals -/

namespace Numeral

def text (numeral : Numeral) : List Char :=
  if numeral.negative then '-' :: numeral.digits else numeral.digits

structure IsSound (numeral : Numeral) : Prop where
  nonempty : numeral.digits ≠ []
  digital : AllDigits numeral.digits

theorem text_ne_nil {numeral : Numeral} (sound : numeral.IsSound) : numeral.text ≠ [] := by
  have nonempty := sound.nonempty
  unfold text
  split <;> simp [nonempty]

theorem digits_infix (numeral : Numeral) : numeral.digits <:+: numeral.text := by
  unfold text
  split
  · exact (List.suffix_cons _ _).isInfix
  · exact List.infix_rfl

theorem tail_digital {numeral : Numeral} (sound : numeral.IsSound) : AllDigits numeral.text.tail := by
  intro c member
  unfold text at member
  split at member
  · exact sound.digital c member
  · exact sound.digital c (List.mem_of_mem_tail member)

theorem not_mem_text {numeral : Numeral} (sound : numeral.IsSound) {mark : Char}
    (plain : isDigit mark = false) (unsigned : mark ≠ '-') : mark ∉ numeral.text := by
  have absent := sound.digital.not_mem plain
  unfold text
  split <;> simp [absent, unsigned]

theorem text_ne_singleton {numeral : Numeral} (sound : numeral.IsSound) (mark : Char)
    (plain : isDigit mark = false) (unsigned : mark ≠ '-') : numeral.text ≠ [mark] := by
  intro same
  exact not_mem_text sound plain unsigned (by simp [same])

theorem read?_eq_some_iff (written : List Char) (numeral : Numeral) :
    read? written = some numeral ↔ numeral.IsSound ∧ numeral.text = written := by
  constructor
  · intro given
    unfold read? at given
    split at given <;> split at given
    · next digits shape =>
      cases given
      exact ⟨⟨shape.1, List.all_eq_true.mp shape.2⟩, rfl⟩
    · cases given
    · next shape =>
      cases given
      exact ⟨⟨shape.1, List.all_eq_true.mp shape.2⟩, rfl⟩
    · cases given
  · rintro ⟨sound, rfl⟩
    obtain ⟨negative, digits⟩ := numeral
    have shape : digits ≠ [] ∧ digits.all isDigit = true :=
      ⟨sound.nonempty, List.all_eq_true.mpr sound.digital⟩
    cases negative with
    | true => simp [text, read?, shape]
    | false =>
      have unsigned : '-' ∉ digits := sound.digital.not_mem (by decide)
      change read? digits = _
      unfold read?
      split
      · next signed => exact absurd (by simp) unsigned
      · rw [if_pos shape]

theorem read?_text {numeral : Numeral} (sound : numeral.IsSound) : read? numeral.text = some numeral :=
  (read?_eq_some_iff numeral.text numeral).mpr ⟨sound, rfl⟩

theorem head?_text {numeral : Numeral} (sound : numeral.IsSound) (rest : List Char) :
    (numeral.text ++ rest).head? = some '-' ↔ numeral.negative = true := by
  obtain ⟨negative, digits⟩ := numeral
  cases negative with
  | true => simp [text]
  | false =>
    cases digits with
    | nil => exact absurd rfl sound.nonempty
    | cons first others =>
      have digit : isDigit first = true := sound.digital first (by simp)
      have unlike : first ≠ '-' := by
        rintro rfl
        exact absurd digit (by decide)
      simp [text, unlike]

/-- What two numerals with a dash between them are read as, once the first one's sign is known. -/
def pairAfter (negative : Bool) (body : List Char) : Option (Numeral × Numeral) :=
  match body.dropWhile isDigit with
  | '-' :: high =>
    if body.takeWhile isDigit = [] then none
    else (read? high).map (⟨negative, body.takeWhile isDigit⟩, ·)
  | _ => none

theorem readPair?_signed (body : List Char) : readPair? ('-' :: body) = pairAfter true body := rfl

theorem readPair?_unsigned (body : List Char) (unsigned : body.head? ≠ some '-') :
    readPair? body = pairAfter false body := by
  simp only [readPair?, unsigned, decide_false, if_false]
  rfl

theorem pairAfter_eq_some_iff (negative : Bool) (body : List Char) (low high : Numeral) :
    pairAfter negative body = some (low, high) ↔
      low.negative = negative ∧ low.IsSound ∧ high.IsSound ∧ low.digits ++ '-' :: high.text = body := by
  constructor
  · intro given
    unfold pairAfter at given
    split at given
    · next text dashed =>
      split at given
      · cases given
      · next nonempty =>
        obtain ⟨second, read, same⟩ := Option.map_eq_some_iff.mp given
        cases same
        obtain ⟨sound, rfl⟩ := (read?_eq_some_iff _ _).mp read
        refine ⟨rfl, ⟨nonempty, List.all_eq_true.mp List.all_takeWhile⟩, sound, ?_⟩
        rw [← dashed]
        exact List.takeWhile_append_dropWhile
    · cases given
  · rintro ⟨rfl, sound, highSound, rfl⟩
    have undigital : isDigit '-' = false := by decide
    rw [pairAfter, dropWhile_stops sound.digital undigital, takeWhile_stops sound.digital undigital]
    simp only [sound.nonempty, if_false, read?_text highSound, Option.map_some]

theorem readPair?_eq_some_iff (written : List Char) (low high : Numeral) :
    readPair? written = some (low, high) ↔
      low.IsSound ∧ high.IsSound ∧ low.text ++ '-' :: high.text = written := by
  by_cases signed : written.head? = some '-'
  · obtain ⟨body, rfl⟩ := List.head?_eq_some_iff.mp signed
    rw [readPair?_signed, pairAfter_eq_some_iff]
    constructor
    · rintro ⟨negative, sound, highSound, rfl⟩
      exact ⟨sound, highSound, by simp [text, negative]⟩
    · rintro ⟨sound, highSound, whole⟩
      have negative : low.negative = true := by rw [← head?_text sound, whole, signed]
      refine ⟨negative, sound, highSound, ?_⟩
      rw [text, if_pos negative] at whole
      exact (List.cons.inj whole).2
  · rw [readPair?_unsigned written signed, pairAfter_eq_some_iff]
    constructor
    · rintro ⟨positive, sound, highSound, rfl⟩
      exact ⟨sound, highSound, by simp [text, positive]⟩
    · rintro ⟨sound, highSound, whole⟩
      have positive : low.negative = false := by
        rw [← whole, head?_text sound] at signed
        exact Bool.not_eq_true _ |>.mp signed
      refine ⟨positive, sound, highSound, ?_⟩
      rwa [text, positive] at whole

theorem value?_eq_some {numeral : Numeral} (few : numeral.digits.length ≤ longest) :
    numeral.value? = some numeral.value :=
  if_neg (Nat.not_lt.mpr few)

end Numeral

def HasFewDigits (text : List Char) : Prop :=
  ∀ digits, digits <:+: text → AllDigits digits → digits.length ≤ Numeral.longest

theorem HasFewDigits.of_length {text : List Char} (short : text.length ≤ Numeral.longest) :
    HasFewDigits text :=
  fun _ inside _ => Nat.le_trans inside.length_le short

theorem HasFewDigits.of_infix {text part : List Char} (few : HasFewDigits text)
    (within : part <:+: text) : HasFewDigits part :=
  fun digits inside digital => few digits (inside.trans within) digital

theorem HasFewDigits.value? {numeral : Numeral} (few : HasFewDigits numeral.text)
    (sound : numeral.IsSound) : numeral.value? = some numeral.value :=
  Numeral.value?_eq_some (few numeral.digits numeral.digits_infix sound.digital)

/-! ## Writing numbers -/

theorem infix_append_mark {mark : Char} {stretch : List Char} (absent : mark ∉ stretch)
    {before after : List Char} (within : stretch <:+: before ++ mark :: after) :
    stretch <:+: before ∨ stretch <:+: after := by
  have unmarked : ∀ part, part <+: mark :: after → mark ∉ part → part = [] := by
    intro part begins free
    rcases List.prefix_cons_iff.mp begins with none | ⟨more, rfl, _⟩
    · exact none
    · exact absurd List.mem_cons_self free
  rcases List.infix_append_iff.mp within with left | right | ⟨first, second, rfl, ends, begins⟩
  · exact .inl left
  · rcases List.infix_cons_iff.mp right with begins | inside
    · rw [unmarked stretch begins absent]
      exact .inl List.nil_infix
    · exact .inr inside
  · rw [unmarked second begins fun member => absent (List.mem_append_right first member),
      List.append_nil]
    exact .inl ends.isInfix

theorem HasFewDigits.append_mark {before after : List Char} (fewBefore : HasFewDigits before)
    (fewAfter : HasFewDigits after) {mark : Char} (plain : isDigit mark = false) :
    HasFewDigits (before ++ mark :: after) := by
  intro digits inside digital
  rcases infix_append_mark (digital.not_mem plain) inside with left | right
  · exact fewBefore digits left digital
  · exact fewAfter digits right digital

namespace Numeral

theorem hasFewDigits_text {numeral : Numeral} (few : numeral.digits.length ≤ longest) :
    HasFewDigits numeral.text := by
  have own : HasFewDigits numeral.digits := .of_length few
  unfold text
  split
  · have none : HasFewDigits [] := .of_length (Nat.zero_le longest)
    have undigital : isDigit '-' = false := by decide
    exact none.append_mark own undigital
  · exact own

end Numeral

theorem toNat_of_isDigit {c : Char} (digit : c.isDigit = true) :
    0x30 ≤ c.toNat ∧ c.toNat ≤ 0x39 := by
  simp only [Char.isDigit, ge_iff_le, Bool.and_eq_true, decide_eq_true_eq, UInt32.le_iff_toNat_le] at digit
  exact digit

theorem digitValue?_of_ascii {c : Char} (digit : c.isDigit = true) :
    digitValue? c = some (c.toNat - '0'.toNat) := by
  obtain ⟨least, most⟩ := toNat_of_isDigit digit
  unfold digitValue?
  simp only
  rw [if_pos (by omega), if_pos ⟨least, most⟩]
  rfl

theorem digitsValue_toDigits (number : Nat) : digitsValue (Nat.toDigits 10 number) = number := by
  have read : ∀ (digits : List Char) (start : Nat), (∀ c ∈ digits, c.isDigit = true) →
      digits.foldl (fun value c => 10 * value + (digitValue? c).getD 0) start
        = Nat.ofDigitChars 10 digits start := by
    intro digits
    induction digits with
    | nil =>
      intro start _
      rfl
    | cons c rest ih =>
      intro start ascii
      have first := digitValue?_of_ascii (ascii c List.mem_cons_self)
      rw [List.foldl_cons, first, ih _ fun d member => ascii d (List.mem_cons_of_mem c member)]
      rfl
  rw [digitsValue, read _ 0 fun c member => Nat.isDigit_of_mem_toDigits (by decide) (by decide) member]
  exact Nat.ofDigitChars_toDigits (by decide) (by decide)

namespace Numeral

def ofInt (number : Int) : Numeral := ⟨number < 0, Nat.toDigits 10 number.natAbs⟩

theorem text_ofInt (number : Int) : (ofInt number).text = (toString number).toList := by
  rw [Int.toString_eq_repr, Int.repr_eq_if, text, ofInt]
  by_cases negative : number < 0
  · rw [if_pos (by simpa using negative), if_neg (by omega)]
    have same : (-number).toNat = number.natAbs := by omega
    simp [Nat.toList_repr, same]
  · rw [if_neg (by simpa using negative), if_pos (by omega)]
    have same : number.toNat = number.natAbs := by omega
    simp [Nat.toList_repr, same]

theorem ofInt_digits_ascii (number : Int) : ∀ c ∈ (ofInt number).digits, c.isDigit = true :=
  fun _ member => Nat.isDigit_of_mem_toDigits (by decide) (by decide) member

theorem isSound_ofInt (number : Int) : (ofInt number).IsSound := by
  constructor
  · exact Nat.toDigits_ne_nil
  · intro c member
    rw [isDigit, digitValue?_of_ascii (ofInt_digits_ascii number c member)]
    rfl

theorem value_ofInt (number : Int) : (ofInt number).value = number := by
  simp only [value, ofInt, digitsValue_toDigits, decide_eq_true_eq]
  split
  · omega
  · omega

theorem hasFewDigits_ofInt {number : Int} (writable : isWritable number = true) :
    HasFewDigits (ofInt number).text :=
  hasFewDigits_text (of_decide_eq_true writable)

theorem isWritable_of_between {least greatest : Int} (low : isWritable least = true)
    (high : isWritable greatest = true) {number : Int} (since : least ≤ number)
    (upto : number ≤ greatest) : isWritable number = true := by
  have bounded : ∀ other : Int, isWritable other = true ↔ other.natAbs < 10 ^ longest := by
    intro other
    rw [isWritable, decide_eq_true_eq]
    exact Nat.length_toDigits_le_iff (by decide) (by decide)
  rw [bounded] at low high ⊢
  generalize 10 ^ longest = bound at low high ⊢
  omega

end Numeral
end CronClock.Text
