import CronClock.Proofs.Combinations
import CronClock.Proofs.Numeral

/-! # The grammar of pieces

`Piece.Written` says how each form of a piece is written. Where no number has too many digits, reading
a token finds the form that it is written in, `Piece.read_eq_ok_iff`, or else the part that is at fault,
`Piece.read_eq_error`. A piece within bounds stands for the numbers that `Piece.Denotes` says, if it is
admitted; a span that ends before it starts and a step that is not positive are not. -/
set_option autoImplicit false
namespace CronClock

open CronClock.Text (Numeral HasFewDigits)

def PieceFault.IsEmptySpan (fault : PieceFault) : Prop :=
  ∃ token low high, fault = .emptySpan token low high

namespace Piece

/-! ## Forms and how they are written -/

/-- An absent start and a star are written for zero. -/
inductive WrittenStart : List Char → Int → Prop
  | absent : WrittenStart [] 0
  | star : WrittenStart ['*'] 0
  | number (numeral : Numeral) (sound : numeral.IsSound) : WrittenStart numeral.text numeral.value

inductive Written : List Char → Piece → Prop
  | star : Written ['*'] .star
  | single (number : Numeral) (sound : number.IsSound) : Written number.text (.single number.value)
  | span (low high : Numeral) (lowSound : low.IsSound) (highSound : high.IsSound) :
    Written (low.text ++ '-' :: high.text) (.span low.value high.value)
  | steps (start : List Char) (first : Int) (step : Numeral) (begun : WrittenStart start first)
    (sound : step.IsSound) (unsigned : step.negative = false) :
    Written (start ++ '/' :: step.text) (.steps first step.value)

/-! ## Reading numbers -/

theorem readValue_eq_ok {numeral : Numeral} {number : Int} (given : readValue numeral = .ok number) :
    numeral.value = number := by
  unfold readValue Numeral.value? at given
  split at given
  · next found =>
    split at found
    · cases found
    · cases given
      exact Option.some.inj found
  · cases given

theorem readValue_eq {numeral : Numeral} (sound : numeral.IsSound) (few : HasFewDigits numeral.text) :
    readValue numeral = .ok numeral.value := by
  rw [readValue, few.value? sound]

theorem readNumber_eq_ok {token : List Char} {number : Int} (given : readNumber token = .ok number) :
    ∃ numeral : Numeral, numeral.IsSound ∧ numeral.text = token ∧ numeral.value = number := by
  unfold readNumber at given
  split at given
  · next numeral read =>
    obtain ⟨sound, written⟩ := (Numeral.read?_eq_some_iff token numeral).mp read
    exact ⟨numeral, sound, written, readValue_eq_ok given⟩
  · cases given

theorem readNumber_text {numeral : Numeral} (sound : numeral.IsSound)
    (few : HasFewDigits numeral.text) : readNumber numeral.text = .ok numeral.value := by
  rw [readNumber, Numeral.read?_text sound]
  exact readValue_eq sound few

theorem readNumber_eq_error {token : List Char} {fault : PieceFault} (few : HasFewDigits token)
    (given : readNumber token = .error fault) : fault = .numberForm token := by
  unfold readNumber at given
  split at given
  · next numeral read =>
    obtain ⟨sound, rfl⟩ := (Numeral.read?_eq_some_iff token numeral).mp read
    rw [readValue_eq sound few] at given
    cases given
  · cases given
    rfl

theorem readStart_eq_ok {token : List Char} {number : Int} (given : readStart token = .ok number) :
    WrittenStart token number := by
  unfold readStart at given
  split at given
  · next empty =>
    cases given
    rcases empty with rfl | rfl
    · exact .absent
    · exact .star
  · obtain ⟨numeral, sound, rfl, rfl⟩ := readNumber_eq_ok given
    exact .number numeral sound

theorem readStart_written {token : List Char} {number : Int} (few : HasFewDigits token)
    (written : WrittenStart token number) : readStart token = .ok number := by
  cases written with
  | absent => rfl
  | star => rfl
  | number numeral sound =>
    have starless := Numeral.text_ne_singleton sound '*' (by decide) (by decide)
    rw [readStart, if_neg (by simp [starless, Numeral.text_ne_nil sound])]
    exact readNumber_text sound few

theorem readStart_eq_error {token : List Char} {fault : PieceFault} (few : HasFewDigits token)
    (given : readStart token = .error fault) : fault = .numberForm token := by
  unfold readStart at given
  split at given
  · cases given
  · exact readNumber_eq_error few given

/-! ## Reading tokens -/

theorem WrittenStart.plain {start : List Char} {first : Int} (begun : WrittenStart start first) :
    '-' ∉ start.tail ∧ '/' ∉ start := by
  cases begun with
  | absent => simp
  | star => decide
  | number numeral sound =>
    exact ⟨(Numeral.tail_digital sound).not_mem (by decide),
      Numeral.not_mem_text sound (by decide) (by decide)⟩

theorem takeWhile_append_mark {mark : Char} {before : List Char} (absent : mark ∉ before)
    (after : List Char) : (before ++ mark :: after).takeWhile (· != mark) = before := by
  refine Text.takeWhile_stops (fun c member => ?_) (by simp) after
  simpa using ne_of_mem_of_not_mem member absent

theorem dropWhile_append_mark {mark : Char} {before : List Char} (absent : mark ∉ before)
    (after : List Char) : (before ++ mark :: after).dropWhile (· != mark) = mark :: after := by
  refine Text.dropWhile_stops (fun c member => ?_) (by simp) after
  simpa using ne_of_mem_of_not_mem member absent

theorem cut_at_mark {mark : Char} {token : List Char} (member : mark ∈ token) :
    token.takeWhile (· != mark) ++ mark :: (token.dropWhile (· != mark)).tail = token := by
  obtain ⟨before, after, rfl, absent⟩ := List.eq_append_cons_of_mem member
  rw [takeWhile_append_mark absent, dropWhile_append_mark absent, List.tail_cons]

theorem readSpan_eq_ok {token : List Char} {piece : Piece} (given : readSpan token = .ok piece) :
    Written token piece := by
  unfold readSpan at given
  split at given
  · cases given
  · next low high pair =>
    obtain ⟨lowSound, highSound, rfl⟩ := (Numeral.readPair?_eq_some_iff token low high).mp pair
    rw [bind_eq_ok] at given
    obtain ⟨lowNumber, lowRead, given⟩ := given
    rw [bind_eq_ok] at given
    obtain ⟨highNumber, highRead, given⟩ := given
    rw [pure_eq_ok] at given
    rw [← given, ← readValue_eq_ok lowRead, ← readValue_eq_ok highRead]
    exact .span low high lowSound highSound

theorem readSpan_text {low high : Numeral} (lowSound : low.IsSound) (highSound : high.IsSound)
    (few : HasFewDigits (low.text ++ '-' :: high.text)) :
    readSpan (low.text ++ '-' :: high.text) = .ok (.span low.value high.value) := by
  have lowFew := few.of_infix (List.prefix_append low.text ('-' :: high.text)).isInfix
  have highFew := few.of_infix
    ((List.suffix_cons '-' high.text).trans (List.suffix_append low.text _)).isInfix
  rw [readSpan, (Numeral.readPair?_eq_some_iff _ low high).mpr ⟨lowSound, highSound, rfl⟩]
  simp only [readValue_eq lowSound lowFew, readValue_eq highSound highFew]
  rfl

theorem readSpan_eq_error {token : List Char} {fault : PieceFault} (few : HasFewDigits token)
    (given : readSpan token = .error fault) : fault = .spanForm token := by
  cases pair : Numeral.readPair? token with
  | none =>
    rw [readSpan, pair] at given
    cases given
    rfl
  | some numerals =>
    obtain ⟨lowSound, highSound, rfl⟩ :=
      (Numeral.readPair?_eq_some_iff token numerals.1 numerals.2).mp pair
    rw [readSpan_text lowSound highSound few] at given
    cases given

theorem readSteps_eq_ok {token : List Char} {piece : Piece} (dashless : '-' ∉ token.tail)
    (stroke : '/' ∈ token) (given : readSteps token = .ok piece) : Written token piece := by
  rw [readSteps, bind_eq_ok] at given
  obtain ⟨first, startRead, given⟩ := given
  rw [bind_eq_ok] at given
  obtain ⟨number, stepRead, given⟩ := given
  rw [pure_eq_ok] at given
  obtain ⟨step, sound, written, rfl⟩ := readNumber_eq_ok stepRead
  have whole := cut_at_mark stroke
  rw [← written] at whole
  have unsigned : step.negative = false := by
    refine Bool.eq_false_iff.mpr fun negative => dashless ?_
    have dashed : '-' ∈ step.text := by simp [Numeral.text, negative]
    rw [← whole]
    cases token.takeWhile (· != '/') <;> simp [dashed]
  rw [← given, ← whole]
  exact .steps _ first step (readStart_eq_ok startRead) sound unsigned

theorem readSteps_cut {start : List Char} (strokeless : '/' ∉ start) (step : List Char) :
    readSteps (start ++ '/' :: step) = do
      let first ← readStart start
      let number ← readNumber step
      return .steps first number := by
  rw [readSteps, takeWhile_append_mark strokeless, dropWhile_append_mark strokeless, List.tail_cons]

theorem readSteps_text {start : List Char} {first : Int} (begun : WrittenStart start first)
    {step : Numeral} (sound : step.IsSound) (few : HasFewDigits (start ++ '/' :: step.text)) :
    readSteps (start ++ '/' :: step.text) = .ok (.steps first step.value) := by
  have startFew := few.of_infix (List.prefix_append start ('/' :: step.text)).isInfix
  have stepFew := few.of_infix
    ((List.suffix_cons '/' step.text).trans (List.suffix_append start _)).isInfix
  rw [readSteps_cut begun.plain.2, readStart_written startFew begun, readNumber_text sound stepFew]
  rfl

inductive Unread (token : List Char) : PieceFault → Prop
  | span (dashed : '-' ∈ token.tail) : Unread token (.spanForm token)
  | number (dashless : '-' ∉ token.tail) (strokeless : '/' ∉ token) : Unread token (.numberForm token)
  | start (start step : List Char) (dashless : '-' ∉ token.tail) (cut : start ++ '/' :: step = token)
    (strokeless : '/' ∉ start) (formless : ∀ first, ¬ WrittenStart start first) :
    Unread token (.numberForm start)
  | step (start step : List Char) (first : Int) (dashless : '-' ∉ token.tail)
    (cut : start ++ '/' :: step = token) (begun : WrittenStart start first) :
    Unread token (.numberForm step)

theorem readSteps_eq_error {token : List Char} {fault : PieceFault} (few : HasFewDigits token)
    (dashless : '-' ∉ token.tail) (stroke : '/' ∈ token) (given : readSteps token = .error fault) :
    Unread token fault := by
  have cut := cut_at_mark stroke
  have strokeless : '/' ∉ token.takeWhile (· != '/') := by
    intro member
    simpa using List.all_eq_true.mp List.all_takeWhile '/' member
  have startFew := few.of_infix (List.takeWhile_prefix (l := token) (· != '/')).isInfix
  have stepFew := few.of_infix
    ((List.tail_suffix _).trans (List.dropWhile_suffix (l := token) (· != '/'))).isInfix
  cases begun : readStart (token.takeWhile (· != '/')) with
  | error complaint =>
    simp only [readSteps, begun, bind, Except.bind] at given
    cases given
    cases readStart_eq_error startFew begun
    refine .start _ _ dashless cut strokeless fun first written => ?_
    rw [readStart_written startFew written] at begun
    cases begun
  | ok first =>
    cases stepped : readNumber (token.dropWhile (· != '/')).tail with
    | error complaint =>
      simp only [readSteps, begun, stepped, bind, Except.bind] at given
      cases given
      cases readNumber_eq_error stepFew stepped
      exact .step _ _ first dashless cut (readStart_eq_ok begun)
    | ok step => simp [readSteps, begun, stepped, bind, Except.bind, pure, Except.pure] at given

theorem written_of_read {token : List Char} {piece : Piece} (given : read token = .ok piece) :
    Written token piece := by
  unfold read at given
  split at given
  · next star =>
    cases given
    exact star ▸ .star
  · split at given
    · exact readSpan_eq_ok given
    · next dashless =>
      split at given
      · next stroke => exact readSteps_eq_ok dashless stroke given
      · obtain ⟨number, numberRead, same⟩ := (map_eq_ok _ _ _).mp given
        obtain ⟨numeral, sound, rfl, rfl⟩ := readNumber_eq_ok numberRead
        exact same ▸ .single numeral sound

theorem read_numeral {number : Numeral} (sound : number.IsSound) :
    read number.text = (readNumber number.text).map .single := by
  have starless := Numeral.text_ne_singleton sound '*' (by decide) (by decide)
  have dashless : '-' ∉ number.text.tail := (Numeral.tail_digital sound).not_mem (by decide)
  have strokeless : '/' ∉ number.text := Numeral.not_mem_text sound (by decide) (by decide)
  rw [read, if_neg starless, if_neg dashless, if_neg strokeless]

theorem read_dashed {low : Numeral} (sound : low.IsSound) (high : List Char) :
    read (low.text ++ '-' :: high) = readSpan (low.text ++ '-' :: high) := by
  have dashed : '-' ∈ (low.text ++ '-' :: high).tail := by
    rw [List.tail_append_of_ne_nil (Numeral.text_ne_nil sound)]
    simp
  have starless : low.text ++ '-' :: high ≠ ['*'] := by
    intro same
    rw [same] at dashed
    cases dashed
  rw [read, if_neg starless, if_pos dashed]

theorem read_stroked {start step : List Char} (plain : '-' ∉ start.tail) (dashless : '-' ∉ step) :
    read (start ++ '/' :: step) = readSteps (start ++ '/' :: step) := by
  have wholeDashless : '-' ∉ (start ++ '/' :: step).tail := by cases start <;> simp_all
  have stroke : '/' ∈ start ++ '/' :: step := by simp
  have starless : start ++ '/' :: step ≠ ['*'] := by
    intro same
    rw [same] at stroke
    exact absurd stroke (by decide)
  rw [read, if_neg starless, if_neg wholeDashless, if_pos stroke]

theorem dashless_of_unsigned {number : Numeral} (sound : number.IsSound)
    (unsigned : number.negative = false) : '-' ∉ number.text := by
  rw [Numeral.text, unsigned]
  exact sound.digital.not_mem (by decide)

theorem read_written {token : List Char} {piece : Piece} (few : HasFewDigits token)
    (written : Written token piece) : read token = .ok piece := by
  cases written with
  | star => rfl
  | single number sound =>
    rw [read_numeral sound, readNumber_text sound few]
    rfl
  | span low high lowSound highSound =>
    rw [read_dashed lowSound, readSpan_text lowSound highSound few]
  | steps start first step begun sound unsigned =>
    rw [read_stroked begun.plain.1 (dashless_of_unsigned sound unsigned), readSteps_text begun sound few]

theorem read_eq_ok_iff {token : List Char} (few : HasFewDigits token) (piece : Piece) :
    read token = .ok piece ↔ Written token piece :=
  ⟨written_of_read, read_written few⟩

theorem Written.unique {token : List Char} (few : HasFewDigits token) {piece other : Piece}
    (written : Written token piece) (also : Written token other) : piece = other :=
  Except.ok.inj ((read_written few written).symm.trans (read_written few also))

theorem read_eq_error {token : List Char} {fault : PieceFault} (few : HasFewDigits token)
    (given : read token = .error fault) : Unread token fault := by
  unfold read at given
  split at given
  · cases given
  · split at given
    · next dashed =>
      cases readSpan_eq_error few given
      exact .span dashed
    · next dashless =>
      split at given
      · next stroke => exact readSteps_eq_error few dashless stroke given
      · next strokeless =>
        cases number : readNumber token with
        | error complaint =>
          rw [number] at given
          cases given
          cases readNumber_eq_error few number
          exact .number dashless strokeless
        | ok value => simp [number, Except.map] at given

/-! ## The numbers of a piece -/

def IsAdmitted (bounds : Bounds) : Piece → Prop
  | star => True
  | single _ => True
  | span low high => bounds.clamp low ≤ bounds.clamp high
  | steps _ step => 1 ≤ bounds.clamp step

instance (bounds : Bounds) : DecidablePred (IsAdmitted bounds)
  | star | single _ => inferInstanceAs (Decidable True)
  | span low high => inferInstanceAs (Decidable (bounds.clamp low ≤ bounds.clamp high))
  | steps _ step => inferInstanceAs (Decidable (1 ≤ bounds.clamp step))

def Denotes (bounds : Bounds) : Piece → Int → Prop
  | star, value => bounds.least ≤ value ∧ value ≤ bounds.greatest
  | single number, value => value = bounds.clamp number
  | span low high, value => bounds.clamp low ≤ value ∧ value ≤ bounds.clamp high
  | steps start step, value =>
    ∃ count : Nat, value = bounds.clamp start + bounds.clamp step * count ∧ value ≤ bounds.greatest

theorem mem_progression_iff (first last step number : Int) (positive : 0 < step) :
    number ∈ progression first last step ↔
      ∃ count : Nat, number = first + step * count ∧ number ≤ last := by
  constructor
  · intro member
    have most := (mem_progression first last step number positive member).2
    obtain ⟨count, _, same⟩ := List.mem_map.mp member
    exact ⟨count, same.symm, most⟩
  · rintro ⟨count, rfl, most⟩
    refine List.mem_map.mpr ⟨count, List.mem_range.mpr ?_, rfl⟩
    have fits : (count : Int) ≤ (last - first) / step := by
      rw [Int.le_ediv_iff_mul_le positive, Int.mul_comm]
      omega
    omega

theorem mem_progression_one_iff (first last number : Int) :
    number ∈ progression first last 1 ↔ first ≤ number ∧ number ≤ last := by
  rw [mem_progression_iff first last 1 number (by decide)]
  constructor
  · rintro ⟨count, rfl, most⟩
    omega
  · rintro ⟨least, most⟩
    exact ⟨(number - first).toNat, by omega, most⟩

theorem values_of_isAdmitted {bounds : Bounds} {piece : Piece} (admitted : piece.IsAdmitted bounds)
    (token : List Char) : ∃ numbers, piece.values bounds token = .ok numbers ∧
      ∀ value, value ∈ numbers ↔ piece.Denotes bounds value := by
  cases piece with
  | star => exact ⟨_, rfl, mem_progression_one_iff _ _⟩
  | single number => exact ⟨_, rfl, fun value => List.mem_singleton⟩
  | span low high =>
    exact ⟨_, if_neg (Int.not_lt.mpr admitted), mem_progression_one_iff _ _⟩
  | steps start step =>
    have positive : 0 < bounds.clamp step := admitted
    exact ⟨_, if_neg (Int.not_le.mpr positive), fun value => mem_progression_iff _ _ _ value positive⟩

theorem exists_denotes {bounds : Bounds} (inhabited : bounds.least ≤ bounds.greatest) {piece : Piece}
    (admitted : piece.IsAdmitted bounds) : ∃ value, piece.Denotes bounds value := by
  cases piece with
  | star => exact ⟨bounds.least, Int.le_refl _, inhabited⟩
  | single number => exact ⟨bounds.clamp number, rfl⟩
  | span low high => exact ⟨bounds.clamp low, Int.le_refl _, admitted⟩
  | steps start step =>
    exact ⟨bounds.clamp start, 0, by simp, bounds.clamp_le_greatest start inhabited⟩

/-- Why a token stands for no numbers within the bounds. -/
inductive Blamed (bounds : Bounds) (token : List Char) : PieceFault → Prop
  | unread (fault : PieceFault) (formless : ∀ piece, ¬ Written token piece)
    (part : Unread token fault) : Blamed bounds token fault
  | idle (start step : Int) (written : Written token (.steps start step))
    (nonpositive : bounds.clamp step < 1) : Blamed bounds token .stepNotPositive
  | inverted (low high : Int) (written : Written token (.span low high))
    (below : bounds.clamp high < bounds.clamp low) :
    Blamed bounds token (.emptySpan token (bounds.clamp low) (bounds.clamp high))

/-- A token is blamed for an empty span exactly if it is written as a span. -/
theorem Blamed.isEmptySpan_iff {bounds : Bounds} {token : List Char} {fault : PieceFault}
    (few : HasFewDigits token) (blamed : Blamed bounds token fault) :
    fault.IsEmptySpan ↔ ∃ low high, Written token (.span low high) := by
  cases blamed with
  | unread _ formless part =>
    constructor
    · rintro ⟨_, _, _, rfl⟩
      cases part
    · rintro ⟨low, high, written⟩
      exact absurd written (formless _)
  | idle start step written nonpositive =>
    constructor
    · rintro ⟨_, _, _, same⟩
      cases same
    · rintro ⟨low, high, also⟩
      cases written.unique few also
  | inverted low high written below => exact ⟨fun _ => ⟨low, high, written⟩, fun _ => ⟨_, _, _, rfl⟩⟩

theorem values_of_not_isAdmitted {bounds : Bounds} {token : List Char} {piece : Piece}
    (written : Written token piece) (refused : ¬ piece.IsAdmitted bounds) :
    ∃ fault, piece.values bounds token = .error fault ∧ Blamed bounds token fault := by
  cases piece with
  | star => exact absurd trivial refused
  | single number => exact absurd trivial refused
  | span low high =>
    have below : bounds.clamp high < bounds.clamp low := Int.not_le.mp refused
    exact ⟨_, if_pos below, .inverted low high written below⟩
  | steps start step =>
    have nonpositive : bounds.clamp step < 1 := Int.not_le.mp refused
    exact ⟨_, if_pos (by omega), .idle start step written nonpositive⟩

end Piece

end CronClock
