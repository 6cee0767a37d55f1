import CronClock.Proofs.Numeral
import CronClock.Text.Blank
import CronClock.Text.Lowercase

/-! # Digits and marks in small letters

Putting a text in small letters keeps its digits and makes no others: a stretch of digits of the result
is one of the text, `lowercase_hasFewDigits`. The letters `f` and `l` it makes from their own capitals
only, `mem_lowercase`. Both rest on the table of capitals: no run of it meets a block of digits, and
only the capitals of ASCII, the Kelvin sign and the dotted I have small letters in ASCII. -/
set_option autoImplicit false
namespace CronClock.Text

/-! ## The parts of a text -/

theorem strip_infix (text : List Char) : strip text <:+: text := by
  have left : text.dropWhile isBlank <:+ text := List.dropWhile_suffix isBlank
  have right : strip text <+: text.dropWhile isBlank := by
    unfold strip stripOf stripRightOf
    have ended := List.dropWhile_suffix isBlank (l := (text.dropWhile isBlank).reverse)
    rwa [← List.reverse_prefix, List.reverse_reverse] at ended
  exact right.isInfix.trans left.isInfix

theorem splitAt_spec (mark : Char) (text : List Char) :
    ∃ first others, splitAt mark text = first :: others ∧ first <+: text ∧
      ∀ part ∈ others, part <:+: text := by
  induction text with
  | nil => exact ⟨[], [], rfl, List.prefix_rfl, by simp⟩
  | cons c rest ih =>
    obtain ⟨first, others, cut, begins, inside⟩ := ih
    have deeper : ∀ part ∈ others, part <:+: c :: rest := fun part member =>
      (inside part member).trans (List.suffix_cons c rest).isInfix
    by_cases same : c = mark
    · refine ⟨[], first :: others, by simp [splitAt, same, cut], List.nil_prefix, ?_⟩
      intro part member
      rcases List.mem_cons.mp member with rfl | member
      · exact begins.isInfix.trans (List.suffix_cons c rest).isInfix
      · exact deeper part member
    · exact ⟨c :: first, others, by simp [splitAt, same, cut, growFirst],
        List.cons_prefix_cons.mpr ⟨rfl, begins⟩, deeper⟩

theorem splitAt_infix (mark : Char) (text part : List Char) (member : part ∈ splitAt mark text) :
    part <:+: text := by
  obtain ⟨first, others, cut, begins, inside⟩ := splitAt_spec mark text
  rw [cut] at member
  rcases List.mem_cons.mp member with rfl | member
  · exact begins.isInfix
  · exact inside part member

/-! ## The tables -/

theorem exists_start_of_isDigit {c : Char} (digit : isDigit c = true) :
    ∃ start ∈ digitZeros.toList, start ≤ c.toNat ∧ c.toNat < start + 10 := by
  unfold isDigit digitValue? at digit
  simp only at digit
  split at digit
  · next ascii =>
    split at digit
    · exact ⟨0x30, by decide, by omega, by omega⟩
    · simp at digit
  · cases found : digitZeros.find? fun start => start ≤ c.toNat && c.toNat < start + 10 with
    | none => simp [found] at digit
    | some start =>
      have within := Array.find?_some found
      simp only [Bool.and_eq_true, decide_eq_true_eq] at within
      exact ⟨start, Array.mem_toList_iff.mpr (Array.mem_of_find?_eq_some found), within⟩

def isUndigital (first last : Nat) : Bool :=
  digitZeros.toList.all fun start => (last + 1).ble start || (start + 10).ble first

theorem capitalRuns_undigital : ∀ run ∈ capitalRuns.toList, isUndigital run.first run.last = true ∧
    isUndigital ((run.first : Int) + run.shift).toNat ((run.last : Int) + run.shift).toNat = true := by
  decide +kernel

theorem isDigit_of_isUndigital {first last : Nat} (apart : isUndigital first last = true) {c : Char}
    (least : first ≤ c.toNat) (most : c.toNat ≤ last) : isDigit c = false := by
  refine Bool.eq_false_iff.mpr fun digit => ?_
  obtain ⟨start, block, within⟩ := exists_start_of_isDigit digit
  have beside := List.all_eq_true.mp apart start block
  simp only [Bool.or_eq_true, Nat.ble_eq] at beside
  omega

/-- Outside ASCII only the Kelvin sign, whose small letter is `k`, has a small letter below U+0080. -/
theorem capitalRuns_beyond : ∀ run ∈ capitalRuns.toList,
    run.last < 0x80 ∨ (run.first : Int) + run.shift = 0x6B ∧ run.last = run.first ∨
      0x80 ≤ (run.first : Int) + run.shift := by
  decide +kernel

theorem ascii_forall {holds : Char → Prop} (tabled : ∀ code < 0x80, holds (Char.ofNat code)) {c : Char}
    (ascii : c.toNat < 0x80) : holds c := by
  have here := tabled c.toNat ascii
  rwa [Char.ofNat_toNat] at here

theorem toLower_ascii {c : Char} (ascii : c.toNat < 0x80) : isDigit c.toLower = isDigit c ∧
    (isDigit c = true → c.toLower = c) ∧
    (c.toLower = 'f' → c = 'f' ∨ c = 'F') ∧ (c.toLower = 'l' → c = 'l' ∨ c = 'L') := by
  apply ascii_forall _ ascii
  decide +kernel

theorem toNat_ofNat (code : Nat) : (Char.ofNat code).toNat = code ∨ (Char.ofNat code).toNat = 0 := by
  by_cases valid : code.isValidChar
  · exact .inl (congrArg Char.toNat (dif_pos valid))
  · exact .inr (congrArg Char.toNat (dif_neg valid))

theorem smallLetter_spec (c : Char) : smallLetter c = c ∨
    ∃ run ∈ capitalRuns.toList, (run.first ≤ c.toNat ∧ c.toNat ≤ run.last) ∧
      ((smallLetter c).toNat = ((c.toNat : Int) + run.shift).toNat ∨ (smallLetter c).toNat = 0) := by
  unfold smallLetter
  split
  · next run found =>
    have held := Array.find?_some found
    simp only [CapitalRun.holds, Bool.and_eq_true, decide_eq_true_eq] at held
    exact .inr ⟨run, Array.mem_toList_iff.mpr (Array.mem_of_find?_eq_some found), held.1,
      toNat_ofNat _⟩
  · exact .inl rfl

theorem smallLetter_of_isDigit {c : Char} (digit : isDigit c = true) : smallLetter c = c := by
  rcases smallLetter_spec c with same | ⟨run, listed, held, _⟩
  · exact same
  · have apart := (capitalRuns_undigital run listed).1
    exact absurd digit (by simp [isDigit_of_isUndigital apart held.1 held.2])

theorem isDigit_smallLetter {c : Char} (plain : isDigit c = false) :
    isDigit (smallLetter c) = false := by
  rcases smallLetter_spec c with same | ⟨run, listed, held, shifted | none⟩
  · rw [same, plain]
  · have apart := (capitalRuns_undigital run listed).2
    exact isDigit_of_isUndigital apart (by omega) (by omega)
  · have nothing : isUndigital 0 0 = true := by decide +kernel
    exact isDigit_of_isUndigital nothing (by omega) (by omega)

/-! ## Small letters -/

/-- What a character may turn into, wherever it stands. -/
def IsSmallForm (c : Char) (small : List Char) : Prop :=
  small = smallLetters c ∨
    c = Char.ofNat 0x3A3 ∧ (small = [Char.ofNat 0x3C2] ∨ small = [Char.ofNat 0x3C3])

theorem lowercaseAfter_cons (before : List Char) (c : Char) (rest : List Char) :
    ∃ small, IsSmallForm c small ∧
      lowercaseAfter before (c :: rest) = small ++ lowercaseAfter (c :: before) rest := by
  rw [lowercaseAfter]
  split
  · next sigma =>
    refine ⟨_, .inr ⟨sigma, ?_⟩, rfl⟩
    unfold smallSigma
    split
    · exact .inl rfl
    · exact .inr rfl
  · exact ⟨_, .inl rfl, rfl⟩

namespace IsSmallForm

variable {c : Char} {small : List Char}

theorem eq_of_isDigit (form : IsSmallForm c small) (digit : isDigit c = true) : small = [c] := by
  rcases form with rfl | ⟨rfl, _⟩
  · unfold smallLetters
    split
    · next ascii => rw [(toLower_ascii ascii).2.1 digit]
    · split
      · next dotted =>
        subst dotted
        exact absurd digit (by decide)
      · rw [smallLetter_of_isDigit digit]
  · exact absurd digit (by decide)

theorem undigital (form : IsSmallForm c small) (plain : isDigit c = false) :
    small ≠ [] ∧ ∀ d ∈ small, isDigit d = false := by
  rcases form with rfl | ⟨_, rfl | rfl⟩
  · unfold smallLetters
    split
    · next ascii => simp [(toLower_ascii ascii).1, plain]
    · split
      · refine ⟨by simp, List.forall_mem_cons.mpr ⟨by decide, ?_⟩⟩
        exact List.forall_mem_singleton.mpr (by decide)
      · simp [isDigit_smallLetter plain]
  · exact ⟨by simp, List.forall_mem_singleton.mpr (by decide)⟩
  · exact ⟨by simp, List.forall_mem_singleton.mpr (by decide)⟩

theorem eq_or_eq_toUpper (form : IsSmallForm c small) {mark : Char} (letter : mark = 'f' ∨ mark = 'l')
    (member : mark ∈ small) : c = mark ∨ c = mark.toUpper := by
  have coded : mark.toNat < 0x80 ∧ mark.toNat ≠ 0x6B ∧ mark.toNat ≠ 0 := by
    rcases letter with rfl | rfl <;> decide
  have foreign : mark ∉ ['i', Char.ofNat 0x307] ∧ mark ≠ Char.ofNat 0x3C2 ∧ mark ≠ Char.ofNat 0x3C3 := by
    rcases letter with rfl | rfl <;> decide
  rcases form with rfl | ⟨_, rfl | rfl⟩
  · unfold smallLetters at member
    split at member
    · next ascii =>
      have same := (List.mem_singleton.mp member).symm
      rcases letter with rfl | rfl
      · exact (toLower_ascii ascii).2.2.1 same
      · exact (toLower_ascii ascii).2.2.2 same
    · next beyond =>
      split at member
      · exact absurd member foreign.1
      · rw [List.mem_singleton] at member
        rcases smallLetter_spec c with same | ⟨run, listed, held, shifted⟩
        · exact .inl (same.symm.trans member.symm)
        · rw [← member] at shifted
          have := capitalRuns_beyond run listed
          omega
  · exact absurd (List.mem_singleton.mp member) foreign.2.1
  · exact absurd (List.mem_singleton.mp member) foreign.2.2

end IsSmallForm

theorem mem_lowercase {mark : Char} (letter : mark = 'f' ∨ mark = 'l') (text : List Char)
    (member : mark ∈ lowercase text) : mark ∈ text ∨ mark.toUpper ∈ text := by
  suffices placed : ∀ before, mark ∈ lowercaseAfter before text → mark ∈ text ∨ mark.toUpper ∈ text from
    placed [] member
  clear member
  induction text with
  | nil => simp [lowercaseAfter]
  | cons c rest ih =>
    intro before member
    obtain ⟨small, form, same⟩ := lowercaseAfter_cons before c rest
    rw [same] at member
    rcases List.mem_append.mp member with here | there
    · rcases form.eq_or_eq_toUpper letter here with rfl | rfl <;> simp
    · rcases ih (c :: before) there with found | found <;> simp [found]

theorem prefix_append_of_undigital {small rest digits : List Char} (some : small ≠ [])
    (undigital : ∀ d ∈ small, isDigit d = false) (digital : AllDigits digits)
    (begins : digits <+: small ++ rest) : digits = [] := by
  cases small with
  | nil => exact absurd rfl some
  | cons first others =>
    rw [List.cons_append] at begins
    rcases List.prefix_cons_iff.mp begins with none | ⟨more, rfl, _⟩
    · exact none
    · exact absurd (digital first (by simp)) (by simp [undigital first (by simp)])

theorem infix_of_append_disjoint {stretch before after : List Char} (apart : ∀ c ∈ stretch, c ∉ before)
    (within : stretch <:+: before ++ after) : stretch <:+: after := by
  have none : ∀ part, part <:+: before → (∀ c ∈ part, c ∈ stretch) → part = [] := by
    intro part inside own
    exact List.eq_nil_iff_forall_not_mem.mpr fun c member =>
      apart c (own c member) (inside.subset member)
  rcases List.infix_append_iff.mp within with left | right | ⟨first, second, rfl, ends, begins⟩
  · rw [none stretch left fun _ => id]
    exact List.nil_infix
  · exact right
  · rw [none first ends.isInfix fun _ => List.mem_append_left second, List.nil_append]
    exact begins.isInfix

theorem lowercase_of_small {text : List Char} (small : ∀ c ∈ text, c.toNat < 0x80 ∧ c.toLower = c) :
    lowercase text = text := by
  suffices same : ∀ before, lowercaseAfter before text = text from same []
  induction text with
  | nil =>
    intro before
    rfl
  | cons c rest ih =>
    intro before
    obtain ⟨ascii, own⟩ := small c List.mem_cons_self
    have capital : c ≠ Char.ofNat 0x3A3 := by
      intro sigma
      rw [sigma] at ascii
      exact absurd ascii (by decide)
    rw [lowercaseAfter, if_neg capital, smallLetters, if_pos ascii, own, List.singleton_append,
      ih fun d member => small d (List.mem_cons_of_mem c member)]

/-- Digits that begin a text in small letters begin the text, and digits inside it are inside the
text. -/
theorem digits_of_lowercaseAfter (before text digits : List Char) (digital : AllDigits digits) :
    (digits <+: lowercaseAfter before text → digits <+: text) ∧
      (digits <:+: lowercaseAfter before text → digits <:+: text) := by
  induction text generalizing before digits with
  | nil => exact ⟨id, id⟩
  | cons c rest ih =>
    obtain ⟨small, form, same⟩ := lowercaseAfter_cons before c rest
    rw [same]
    cases digit : isDigit c with
    | false =>
      obtain ⟨some, undigital⟩ := form.undigital digit
      constructor
      · intro begins
        simp [prefix_append_of_undigital some undigital digital begins]
      · intro within
        have apart : ∀ d ∈ digits, d ∉ small := by
          intro d member here
          exact absurd (digital d member) (by simp [undigital d here])
        have inside := (ih (c :: before) digits digital).2 (infix_of_append_disjoint apart within)
        exact inside.trans (List.suffix_cons c rest).isInfix
    | true =>
      rw [form.eq_of_isDigit digit, List.singleton_append]
      have begins : digits <+: c :: lowercaseAfter (c :: before) rest → digits <+: c :: rest := by
        intro given
        rcases List.prefix_cons_iff.mp given with rfl | ⟨more, rfl, following⟩
        · exact List.nil_prefix
        · have few : AllDigits more := fun d member => digital d (by simp [member])
          exact List.cons_prefix_cons.mpr ⟨rfl, (ih (c :: before) more few).1 following⟩
      refine ⟨begins, fun within => ?_⟩
      rcases List.infix_cons_iff.mp within with given | inside
      · exact (begins given).isInfix
      · exact ((ih (c :: before) digits digital).2 inside).trans (List.suffix_cons c rest).isInfix

theorem lowercase_hasFewDigits {text : List Char} (few : HasFewDigits text) :
    HasFewDigits (lowercase text) :=
  fun digits inside digital =>
    few digits ((digits_of_lowercaseAfter [] text digits digital).2 inside) digital

end CronClock.Text
