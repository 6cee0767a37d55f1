import CronClock.Proofs.Judgement

/-! # Numbers with too many digits

A number is read from `Numeral.longest` digits at most. `Piece.IsOverlong` says which tokens come to a
longer one before anything else in them is amiss, and reading fails for lack of a value on exactly
those, `Piece.read_eq_digitCount_iff`. All other tokens are read in their form or have a fault of the
text, so the first segment that is not legible decides what a whole text comes to,
`Expansion.collect_eq_error_iff`. -/
set_option autoImplicit false
namespace CronClock

open CronClock.Text (Numeral HasFewDigits)

def PieceFault.IsMalformed (fault : PieceFault) : Prop := ¬ fault.IsEmptySpan ∧ fault ≠ .digitCount

def Text.Numeral.IsLong (numeral : Numeral) : Prop := Numeral.longest < numeral.digits.length

theorem Text.Numeral.isLong_ofInt {number : Int} (unwritable : ¬ isWritable number = true) :
    (ofInt number).IsLong :=
  Nat.not_le.mp fun few => unwritable (decide_eq_true few)

namespace Piece

/-- Reading the token comes to a number with too many digits. -/
inductive IsOverlong : List Char → Prop
  | single (number : Numeral) (sound : number.IsSound) (long : number.IsLong) : IsOverlong number.text
  | span (low high : Numeral) (lowSound : low.IsSound) (highSound : high.IsSound)
    (long : low.IsLong ∨ high.IsLong) : IsOverlong (low.text ++ '-' :: high.text)
  | start (number : Numeral) (sound : number.IsSound) (long : number.IsLong) (step : List Char)
    (dashless : '-' ∉ step) : IsOverlong (number.text ++ '/' :: step)
  | step (start : List Char) (first : Int) (begun : WrittenStart start first) (number : Numeral)
    (sound : number.IsSound) (unsigned : number.negative = false) (long : number.IsLong) :
    IsOverlong (start ++ '/' :: number.text)

/-! ## Where reading fails for lack of a value -/

theorem readValue_long {number : Numeral} (long : number.IsLong) :
    readValue number = .error .digitCount := by
  have none : number.value? = none := if_pos long
  rw [readValue, none]

theorem readValue_eq_error {number : Numeral} {fault : PieceFault}
    (given : readValue number = .error fault) : fault = .digitCount ∧ number.IsLong := by
  unfold readValue at given
  split at given
  · cases given
  · next none =>
    cases given
    refine ⟨rfl, ?_⟩
    by_contra short
    rw [Numeral.value?_eq_some (Nat.not_lt.mp short)] at none
    cases none

theorem readNumber_long {number : Numeral} (sound : number.IsSound) (long : number.IsLong) :
    readNumber number.text = .error .digitCount := by
  rw [readNumber, Numeral.read?_text sound]
  exact readValue_long long

theorem readNumber_fault {token : List Char} {fault : PieceFault}
    (given : readNumber token = .error fault) : fault = .numberForm token ∨
      fault = .digitCount ∧ ∃ number : Numeral, number.IsSound ∧ number.IsLong ∧ number.text = token := by
  unfold readNumber at given
  split at given
  · next number read =>
    obtain ⟨sound, written⟩ := (Numeral.read?_eq_some_iff token number).mp read
    obtain ⟨same, long⟩ := readValue_eq_error given
    exact .inr ⟨same, number, sound, long, written⟩
  · cases given
    exact .inl rfl

theorem readStart_number {number : Numeral} (sound : number.IsSound) :
    readStart number.text = readNumber number.text := by
  have starless := Numeral.text_ne_singleton sound '*' (by decide) (by decide)
  rw [readStart, if_neg (by simp [starless, Numeral.text_ne_nil sound])]

theorem readStart_fault {token : List Char} {fault : PieceFault}
    (given : readStart token = .error fault) : fault = .numberForm token ∨
      fault = .digitCount ∧ ∃ number : Numeral, number.IsSound ∧ number.IsLong ∧ number.text = token := by
  unfold readStart at given
  split at given
  · cases given
  · exact readNumber_fault given

theorem readStart_of_written {start : List Char} {first : Int} (begun : WrittenStart start first) :
    readStart start = .ok first ∨ readStart start = .error .digitCount := by
  cases begun with
  | absent => exact .inl rfl
  | star => exact .inl rfl
  | number number sound =>
    rw [readStart_number sound]
    by_cases long : number.IsLong
    · exact .inr (readNumber_long sound long)
    · exact .inl (readNumber_text sound (Numeral.hasFewDigits_text (Nat.not_lt.mp long)))

theorem IsOverlong.read {token : List Char} (overlong : IsOverlong token) :
    read token = .error .digitCount := by
  cases overlong with
  | single number sound long =>
    rw [read_numeral sound, readNumber_long sound long]
    rfl
  | span low high lowSound highSound long =>
    rw [read_dashed lowSound, readSpan,
      (Numeral.readPair?_eq_some_iff _ low high).mpr ⟨lowSound, highSound, rfl⟩]
    cases lowRead : readValue low with
    | error fault =>
      obtain ⟨rfl, _⟩ := readValue_eq_error lowRead
      simp only [lowRead, bind, Except.bind]
    | ok number =>
      have highLong : high.IsLong := by
        refine long.resolve_left fun lowLong => ?_
        rw [readValue_long lowLong] at lowRead
        cases lowRead
      simp only [lowRead, readValue_long highLong, bind, Except.bind]
  | start number sound long step dashless =>
    have dashlessStart : '-' ∉ number.text.tail := (Numeral.tail_digital sound).not_mem (by decide)
    have strokeless : '/' ∉ number.text := Numeral.not_mem_text sound (by decide) (by decide)
    rw [read_stroked dashlessStart dashless, readSteps_cut strokeless, readStart_number sound,
      readNumber_long sound long]
    rfl
  | step start first begun number sound unsigned long =>
    rw [read_stroked begun.plain.1 (dashless_of_unsigned sound unsigned), readSteps_cut begun.plain.2,
      readNumber_long sound long]
    rcases readStart_of_written begun with read | failed
    · rw [read]
      rfl
    · rw [failed]
      rfl

theorem readSpan_fault {token : List Char} {fault : PieceFault} (given : readSpan token = .error fault) :
    fault = .spanForm token ∨ fault = .digitCount ∧ IsOverlong token := by
  unfold readSpan at given
  split at given
  · cases given
    exact .inl rfl
  · next low high pair =>
    obtain ⟨lowSound, highSound, rfl⟩ := (Numeral.readPair?_eq_some_iff token low high).mp pair
    right
    rw [bind_eq_error] at given
    rcases given with lowFailed | ⟨_, _, given⟩
    · obtain ⟨same, long⟩ := readValue_eq_error lowFailed
      exact ⟨same, .span low high lowSound highSound (.inl long)⟩
    · rw [bind_eq_error] at given
      rcases given with highFailed | ⟨_, _, none⟩
      · obtain ⟨same, long⟩ := readValue_eq_error highFailed
        exact ⟨same, .span low high lowSound highSound (.inr long)⟩
      · cases none

theorem readSteps_fault {token : List Char} {fault : PieceFault} (dashless : '-' ∉ token.tail)
    (stroke : '/' ∈ token) (given : readSteps token = .error fault) :
    (∃ part, fault = .numberForm part) ∨ fault = .digitCount ∧ IsOverlong token := by
  obtain ⟨start, step, rfl, strokeless⟩ := List.eq_append_cons_of_mem stroke
  have dashlessStep : '-' ∉ step := fun member => dashless (by cases start <;> simp [member])
  rw [readSteps_cut strokeless, bind_eq_error] at given
  rcases given with startFailed | ⟨first, startRead, given⟩
  · rcases readStart_fault startFailed with same | ⟨same, number, sound, long, rfl⟩
    · exact .inl ⟨start, same⟩
    · exact .inr ⟨same, .start number sound long step dashlessStep⟩
  · rw [bind_eq_error] at given
    rcases given with stepFailed | ⟨_, _, none⟩
    · rcases readNumber_fault stepFailed with same | ⟨same, number, sound, long, rfl⟩
      · exact .inl ⟨step, same⟩
      · have unsigned : number.negative = false := by
          refine Bool.eq_false_iff.mpr fun negative => dashlessStep ?_
          simp [Numeral.text, negative]
        exact .inr ⟨same, .step start first (readStart_eq_ok startRead) number sound unsigned long⟩
    · cases none

/-- A token without a form is at fault itself, or in one of its parts. -/
theorem read_fault {token : List Char} {fault : PieceFault} (given : read token = .error fault) :
    fault.IsMalformed ∨ fault = .digitCount ∧ IsOverlong token := by
  have ofSpan : ∀ part, PieceFault.IsMalformed (.spanForm part) := fun part => ⟨nofun, nofun⟩
  have ofNumber : ∀ part, PieceFault.IsMalformed (.numberForm part) := fun part => ⟨nofun, nofun⟩
  unfold read at given
  split at given
  · cases given
  · split at given
    · rcases readSpan_fault given with rfl | overlong
      · exact .inl (ofSpan token)
      · exact .inr overlong
    · next dashless =>
      split at given
      · next stroke =>
        rcases readSteps_fault dashless stroke given with ⟨part, rfl⟩ | overlong
        · exact .inl (ofNumber part)
        · exact .inr overlong
      · cases number : readNumber token with
        | ok value => simp [number, Except.map] at given
        | error complaint =>
          rw [number] at given
          cases given
          rcases readNumber_fault number with rfl | ⟨same, numeral, sound, long, rfl⟩
          · exact .inl (ofNumber token)
          · exact .inr ⟨same, .single numeral sound long⟩

theorem read_eq_digitCount_iff (token : List Char) :
    read token = .error .digitCount ↔ IsOverlong token := by
  constructor
  · intro given
    rcases read_fault given with malformed | ⟨_, overlong⟩
    · exact absurd rfl malformed.2
    · exact overlong
  · exact IsOverlong.read

theorem Written.hasFewDigits {token : List Char} {piece : Piece} (written : Written token piece)
    (short : ¬ IsOverlong token) : HasFewDigits token := by
  have undigitalDash : Text.isDigit '-' = false := by decide
  have undigitalStroke : Text.isDigit '/' = false := by decide
  cases written with
  | star => exact .of_length (by decide)
  | single number sound =>
    exact Numeral.hasFewDigits_text (Nat.not_lt.mp fun long => short (.single number sound long))
  | span low high lowSound highSound =>
    have lowShort := Nat.not_lt.mp fun long => short (.span low high lowSound highSound (.inl long))
    have highShort := Nat.not_lt.mp fun long => short (.span low high lowSound highSound (.inr long))
    exact (Numeral.hasFewDigits_text lowShort).append_mark (Numeral.hasFewDigits_text highShort)
      undigitalDash
  | steps start first step begun sound unsigned =>
    have stepShort := Nat.not_lt.mp fun long =>
      short (.step start first begun step sound unsigned long)
    refine HasFewDigits.append_mark ?_ (Numeral.hasFewDigits_text stepShort) undigitalStroke
    cases begun with
    | absent => exact .of_length (by decide)
    | star => exact .of_length (by decide)
    | number number startSound =>
      exact Numeral.hasFewDigits_text (Nat.not_lt.mp fun long =>
        short (.start number startSound long step.text (dashless_of_unsigned sound unsigned)))

/-! ## Legible tokens -/

/-- The token stands for numbers within the bounds, and is no star and not overlong. -/
def IsLegible (bounds : Bounds) (token : List Char) : Prop :=
  IsWellFormed bounds token ∧ token ≠ ['*'] ∧ ¬ IsOverlong token

def IsInverted (bounds : Bounds) (token : List Char) : Prop :=
  ¬ IsOverlong token ∧
    ∃ low high, Written token (.span low high) ∧ bounds.clamp high < bounds.clamp low

def IsMalformed (bounds : Bounds) (token : List Char) : Prop :=
  ¬ IsOverlong token ∧ ∀ piece, Written token piece →
    ∃ start step, piece = .steps start step ∧ bounds.clamp step < 1

inductive Amiss (bounds : Bounds) (token : List Char) : PieceFault → Prop
  | overlong (overlong : IsOverlong token) : Amiss bounds token .digitCount
  | inverted (fault : PieceFault) (empty : fault.IsEmptySpan) (inverted : IsInverted bounds token) :
    Amiss bounds token fault
  | malformed (fault : PieceFault) (formless : fault.IsMalformed)
    (malformed : IsMalformed bounds token) : Amiss bounds token fault

section Kinds
variable {bounds : Bounds} {token : List Char} {fault : PieceFault}

theorem IsOverlong.illegible (overlong : IsOverlong token) :
    token ≠ ['*'] ∧ ¬ IsLegible bounds token := by
  refine ⟨?_, fun legible => legible.2.2 overlong⟩
  rintro rfl
  cases overlong.read

theorem IsInverted.illegible (inverted : IsInverted bounds token) :
    token ≠ ['*'] ∧ ¬ IsLegible bounds token := by
  obtain ⟨short, low, high, span, below⟩ := inverted
  have only : ∀ piece, Written token piece → piece = .span low high := fun piece written =>
    written.unique (written.hasFewDigits short) span
  constructor
  · rintro rfl
    cases only .star .star
  · rintro ⟨⟨piece, written, admitted⟩, _⟩
    cases only piece written
    exact absurd admitted (Int.not_le.mpr below)

theorem IsMalformed.illegible (malformed : IsMalformed bounds token) :
    token ≠ ['*'] ∧ ¬ IsLegible bounds token := by
  constructor
  · rintro rfl
    obtain ⟨_, _, same, _⟩ := malformed.2 .star .star
    cases same
  · rintro ⟨⟨piece, written, admitted⟩, _⟩
    obtain ⟨start, step, rfl, idle⟩ := malformed.2 piece written
    exact absurd admitted (Int.not_le.mpr idle)

theorem isMalformed_of_read (given : read token = .error fault) (short : ¬ IsOverlong token) :
    IsMalformed bounds token := by
  refine ⟨short, fun piece written => ?_⟩
  rw [read_written (written.hasFewDigits short) written] at given
  cases given

theorem Amiss.isOverlong_iff (amiss : Amiss bounds token fault) :
    IsOverlong token ↔ fault = .digitCount := by
  cases amiss with
  | overlong overlong => exact iff_of_true overlong rfl
  | inverted _ empty inverted =>
    refine iff_of_false inverted.1 ?_
    rintro rfl
    obtain ⟨_, _, _, same⟩ := empty
    cases same
  | malformed _ formless malformed => exact iff_of_false malformed.1 formless.2

theorem Amiss.isInverted_iff (amiss : Amiss bounds token fault) :
    IsInverted bounds token ↔ fault.IsEmptySpan := by
  cases amiss with
  | overlong overlong =>
    refine iff_of_false (fun inverted => inverted.1 overlong) ?_
    rintro ⟨_, _, _, same⟩
    cases same
  | inverted _ empty inverted => exact iff_of_true inverted empty
  | malformed _ formless malformed =>
    refine iff_of_false ?_ formless.1
    rintro ⟨_, low, high, span, _⟩
    obtain ⟨_, _, same, _⟩ := malformed.2 _ span
    cases same

theorem Amiss.isMalformed_iff (amiss : Amiss bounds token fault) :
    IsMalformed bounds token ↔ fault.IsMalformed := by
  cases amiss with
  | overlong overlong => exact iff_of_false (fun malformed => malformed.1 overlong) fun both => both.2 rfl
  | inverted _ empty inverted =>
    refine iff_of_false (fun malformed => ?_) fun both => both.1 empty
    obtain ⟨_, low, high, span, _⟩ := inverted
    obtain ⟨_, _, same, _⟩ := malformed.2 _ span
    cases same
  | malformed _ formless malformed => exact iff_of_true malformed formless

end Kinds

end Piece

namespace Expansion

variable {bounds : Bounds}

theorem collect_legible (before : List (List Char))
    (legible : ∀ segment ∈ before, Piece.IsLegible bounds (Piece.token bounds segment)) :
    ∃ numbers, ∀ after, collect bounds (before ++ after)
      = (collect bounds after).map (Option.map (numbers ++ ·)) := by
  have few : ∀ token ∈ before.map (Piece.token bounds), HasFewDigits token := by
    rw [List.forall_mem_map]
    intro segment member
    obtain ⟨⟨piece, written, _⟩, _, short⟩ := legible segment member
    exact written.hasFewDigits short
  have plain : Piece.ArePlain bounds (before.map (Piece.token bounds)) := by
    rw [Piece.ArePlain, List.forall_mem_map]
    intro segment member
    obtain ⟨wellFormed, starless, _⟩ := legible segment member
    exact ⟨wellFormed, starless⟩
  obtain ⟨numbers, _, collected⟩ := collect_append before few plain
  exact ⟨numbers, collected⟩

/-- What the first segment that is not legible makes of the segments from there on. -/
theorem collect_illegible (segment : List Char)
    (illegible : ¬ Piece.IsLegible bounds (Piece.token bounds segment)) :
    (Piece.token bounds segment = ['*'] ∧ ∀ rest, collect bounds (segment :: rest) = .ok none) ∨
      ∃ fault, Piece.Amiss bounds (Piece.token bounds segment) fault ∧
        ∀ rest, collect bounds (segment :: rest) = .error fault := by
  by_cases star : Piece.token bounds segment = ['*']
  · exact .inl ⟨star, fun rest => collect_star segment rest star⟩
  by_cases overlong : Piece.IsOverlong (Piece.token bounds segment)
  · exact .inr ⟨_, .overlong overlong, fun rest => collect_unread segment rest overlong.read⟩
  right
  cases read : Piece.read (Piece.token bounds segment) with
  | error fault =>
    have formless := (Piece.read_fault read).resolve_right fun other => overlong other.2
    exact ⟨fault, .malformed fault formless (Piece.isMalformed_of_read read overlong),
      fun rest => collect_unread segment rest read⟩
  | ok piece =>
    have written := Piece.written_of_read read
    have few := written.hasFewDigits overlong
    have refused : ¬ piece.IsAdmitted bounds := fun admitted =>
      illegible ⟨⟨piece, written, admitted⟩, star, overlong⟩
    obtain ⟨fault, given, blamed⟩ := Piece.values_of_not_isAdmitted written refused
    refine ⟨fault, ?_, fun rest => collect_refused segment rest read given⟩
    cases blamed with
    | unread fault formless part => exact absurd written (formless piece)
    | idle start step idle nonpositive =>
      refine .malformed _ ⟨nofun, nofun⟩ ⟨overlong, fun other also => ⟨start, step, ?_, nonpositive⟩⟩
      exact also.unique few idle
    | inverted low high span below =>
      exact .inverted _ ⟨_, _, _, rfl⟩ ⟨overlong, low, high, span, below⟩

/-- Some segment's token is of the kind, and the tokens of all segments before it are legible. -/
def ComesTo (bounds : Bounds) (kind : List Char → Prop) (segments : List (List Char)) : Prop :=
  ∃ before segment after, segments = before ++ segment :: after ∧
    (∀ earlier ∈ before, Piece.IsLegible bounds (Piece.token bounds earlier)) ∧
    kind (Piece.token bounds segment)

/-- Collecting fails at the first segment that is not legible, with the fault of its token. -/
theorem collect_eq_error_iff (segments : List (List Char)) (fault : PieceFault) :
    collect bounds segments = .error fault ↔ ∃ before segment after,
      segments = before ++ segment :: after ∧
        (∀ earlier ∈ before, Piece.IsLegible bounds (Piece.token bounds earlier)) ∧
        Piece.Amiss bounds (Piece.token bounds segment) fault ∧
        ∀ rest, collect bounds (segment :: rest) = .error fault := by
  constructor
  · intro failed
    rcases all_or_first (fun segment => Piece.IsLegible bounds (Piece.token bounds segment)) segments with
      legible | ⟨before, segment, after, rfl, legible, odd⟩
    · obtain ⟨numbers, collected⟩ := collect_legible segments legible
      have whole := collected []
      rw [List.append_nil, failed] at whole
      cases whole
    · obtain ⟨numbers, collected⟩ := collect_legible before legible
      rw [collected] at failed
      rcases collect_illegible segment odd with ⟨_, starred⟩ | ⟨other, amiss, faulty⟩
      · rw [starred] at failed
        cases failed
      · rw [faulty] at failed
        cases failed
        exact ⟨before, segment, after, rfl, legible, amiss, faulty⟩
  · rintro ⟨before, segment, after, rfl, legible, _, faulty⟩
    obtain ⟨numbers, collected⟩ := collect_legible before legible
    rw [collected, faulty]
    rfl

theorem comesTo_iff {kind : List Char → Prop} {blames : PieceFault → Prop}
    (odd : ∀ token, kind token → token ≠ ['*'] ∧ ¬ Piece.IsLegible bounds token)
    (own : ∀ token fault, Piece.Amiss bounds token fault → (kind token ↔ blames fault))
    (segments : List (List Char)) : ComesTo bounds kind segments ↔
      ∃ fault, blames fault ∧ collect bounds segments = .error fault := by
  constructor
  · rintro ⟨before, segment, after, cut, legible, ofKind⟩
    obtain ⟨starless, illegible⟩ := odd _ ofKind
    rcases collect_illegible segment illegible with ⟨star, _⟩ | ⟨fault, amiss, faulty⟩
    · exact absurd star starless
    · exact ⟨fault, (own _ fault amiss).mp ofKind, (collect_eq_error_iff segments fault).mpr
        ⟨before, segment, after, cut, legible, amiss, faulty⟩⟩
  · rintro ⟨fault, blamed, failed⟩
    obtain ⟨before, segment, after, cut, legible, amiss, _⟩ :=
      (collect_eq_error_iff segments fault).mp failed
    exact ⟨before, segment, after, cut, legible, (own _ fault amiss).mpr blamed⟩

theorem comesTo_overlong_iff (segments : List (List Char)) :
    ComesTo bounds Piece.IsOverlong segments ↔ collect bounds segments = .error .digitCount := by
  rw [comesTo_iff (fun _ overlong => overlong.illegible) (fun _ _ amiss => amiss.isOverlong_iff)
    segments]
  simp

theorem comesTo_inverted_iff (segments : List (List Char)) :
    ComesTo bounds (Piece.IsInverted bounds) segments ↔
      ∃ fault : PieceFault, fault.IsEmptySpan ∧ collect bounds segments = .error fault :=
  comesTo_iff (fun _ inverted => inverted.illegible) (fun _ _ amiss => amiss.isInverted_iff) segments

theorem comesTo_malformed_iff (segments : List (List Char)) :
    ComesTo bounds (Piece.IsMalformed bounds) segments ↔
      ∃ fault : PieceFault, fault.IsMalformed ∧ collect bounds segments = .error fault :=
  comesTo_iff (fun _ malformed => malformed.illegible) (fun _ _ amiss => amiss.isMalformed_iff)
    segments

theorem collect_append_error {segments : List (List Char)} {fault : PieceFault}
    (failed : collect bounds segments = .error fault) (more : List (List Char)) :
    collect bounds (segments ++ more) = .error fault := by
  obtain ⟨before, segment, after, rfl, legible, amiss, faulty⟩ :=
    (collect_eq_error_iff segments fault).mp failed
  exact (collect_eq_error_iff _ fault).mpr
    ⟨before, segment, after ++ more, by simp, legible, amiss, faulty⟩

/-- A segment of the text is overlong, and all before it are legible. -/
def HasOverlong (field : Field) (text : String) : Prop :=
  ComesTo field.bounds Piece.IsOverlong (Text.splitAt ',' text.toList)

theorem ofField_cases (field : Field) (text : String) :
    (∃ expansion, ofField field text = .ok expansion) ∨
      ∃ fault, ofField field text = .error ⟨fault, text, some field⟩ ∧
        collect field.bounds (Text.splitAt ',' text.toList) = .error fault := by
  cases collected : collect field.bounds (Text.splitAt ',' text.toList) with
  | ok numbers? => exact .inl ⟨_, ofField_of_collect field text numbers? collected⟩
  | error fault => exact .inr ⟨fault, ofField_of_fault field text fault collected, rfl⟩

theorem collect_of_ofField {field : Field} {text : String} {complaint : FieldFault}
    (failed : ofField field text = .error complaint) :
    collect field.bounds (Text.splitAt ',' text.toList) = .error complaint.fault := by
  rcases ofField_cases field text with ⟨expansion, expanded⟩ | ⟨fault, faulty, collected⟩
  · cases failed.symm.trans expanded
  · cases failed.symm.trans faulty
    exact collected

section Alone
variable {field : Field} {text : String} {segment : List Char}
  (cut : Text.splitAt ',' text.toList = [segment]) (own : Piece.token field.bounds segment = segment)
include cut own

theorem ofField_alone {piece : Piece} {numbers : List Int} (read : Piece.read segment = .ok piece)
    (starless : piece ≠ .star) (given : piece.values field.bounds segment = .ok numbers) :
    collect field.bounds (Text.splitAt ',' text.toList) = .ok (some numbers) ∧
      ofField field text = .ok (ofValues field.bounds numbers) := by
  have collected : collect field.bounds (Text.splitAt ',' text.toList) = .ok (some numbers) := by
    rw [cut, collect_plain segment [] (by rw [own, read]) starless (by rw [own, given]), collect]
    simp [Except.map]
  exact ⟨collected, ofField_of_collect field text (some numbers) collected⟩

theorem ofField_alone_overlong (overlong : Piece.IsOverlong segment) :
    ofField field text = .error ⟨.digitCount, text, some field⟩ := by
  apply ofField_of_fault
  rw [cut, collect_unread segment [] (by rw [own, overlong.read])]

end Alone

theorem ofField_number (field : Field) (number : Int) :
    ofField field (toString number) = if Numeral.isWritable number
      then .ok (.only (.ofList [field.bounds.clamp number]))
      else .error ⟨.digitCount, toString number, some field⟩ := by
  have sound := Numeral.isSound_ofInt number
  have commaless : ',' ∉ (Numeral.ofInt number).text := by
    intro member
    exact absurd (Numeral.isPlain_ofInt number ',' member) (by decide)
  have cut : Text.splitAt ',' (toString number).toList = [(Numeral.ofInt number).text] := by
    rw [← Numeral.text_ofInt]
    exact Text.splitAt_of_not_mem commaless
  have own := Piece.token_of_plain field.bounds (Numeral.isPlain_ofInt number)
  split
  · next writable =>
    have single : ofValues field.bounds [field.bounds.clamp number]
        = .only (.ofList [field.bounds.clamp number]) := by
      cases field <;> rfl
    have read : Piece.read (Numeral.ofInt number).text = .ok (.single number) := by
      have written := Piece.Written.single (Numeral.ofInt number) sound
      rw [Numeral.value_ofInt] at written
      exact Piece.read_written (Numeral.hasFewDigits_ofInt writable) written
    rw [← single]
    exact (ofField_alone cut own read (by simp) rfl).2
  · next unwritable =>
    exact ofField_alone_overlong cut own (.single _ sound (Numeral.isLong_ofInt unwritable))

end Expansion

/-! ## Whole expressions -/

/-- The text has five words, and the first that does not expand in its field is overlong there. -/
def HasOverlong (text : String) : Prop :=
  ∃ expression before field after, Expression.ofText? text = .ok expression ∧
    Field.all = before ++ field :: after ∧
    (∀ earlier ∈ before, ∃ expansion,
      Expansion.ofField earlier (expression.get earlier) = .ok expansion) ∧
    Expansion.HasOverlong field (expression.get field)

theorem ScheduleFault.isOfText_eq_false_iff (fault : ScheduleFault) :
    fault.isOfText = false ↔ ∃ complaint, fault = .field complaint ∧ complaint.fault = .digitCount := by
  cases fault with
  | wordCount text count => simp [isOfText]
  | noCandidates => simp [isOfText]
  | field complaint =>
    obtain ⟨fault, text, field⟩ := complaint
    cases fault <;> simp [isOfText]

/-- Expanding a text has a fault that is not of the text exactly if the text is overlong. -/
theorem hasOverlong_iff (text : String) :
    HasOverlong text ↔ ∃ fault, expandText text = .error fault ∧ fault.isOfText = false := by
  constructor
  · rintro ⟨expression, before, field, after, read, cut, expand, overlong⟩
    have collected := (Expansion.comesTo_overlong_iff _).mp overlong
    have failed := Expansion.ofField_of_fault field (expression.get field) _ collected
    refine ⟨.field ⟨.digitCount, expression.get field, some field⟩, ?_, rfl⟩
    rw [expandText, bind_eq_error]
    refine .inr ⟨expression, read, (expression.expand_eq_error _).mpr ⟨before, field, after, cut, ?_,
      (expression.expandField_eq_error field _).mpr ⟨_, failed, rfl⟩⟩⟩
    intro earlier member
    obtain ⟨expansion, expanded⟩ := expand earlier member
    exact ⟨expansion, (expression.expandField_eq_ok earlier expansion).mpr expanded⟩
  · rintro ⟨fault, failed, foreign⟩
    obtain ⟨complaint, rfl, counted⟩ := fault.isOfText_eq_false_iff.mp foreign
    rw [expandText, bind_eq_error] at failed
    rcases failed with unread | ⟨expression, read, unexpanded⟩
    · obtain ⟨count, same⟩ := Expression.ofText?_eq_error unread
      cases same
    · obtain ⟨before, field, after, cut, expand, failed⟩ := (expression.expand_eq_error _).mp unexpanded
      obtain ⟨_, faulty, same⟩ := (expression.expandField_eq_error field _).mp failed
      cases same
      refine ⟨expression, before, field, after, read, cut, ?_, ?_⟩
      · intro earlier member
        obtain ⟨expansion, expanded⟩ := expand earlier member
        exact ⟨expansion, (expression.expandField_eq_ok earlier expansion).mp expanded⟩
      · have collected := Expansion.collect_of_ofField faulty
        rw [counted] at collected
        exact (Expansion.comesTo_overlong_iff _).mpr collected

/-- A field's text expands or has a fault of the text, unless one of its numbers has too many digits; a
number within the limit is never at fault but clamped. So judging a text and describing it both come to
an answer, unless one of its fields is overlong when the fields before it expand. -/
theorem answered_iff_not_hasOverlong (field : Field) (text : String) :
    (((∃ expansion, Expansion.ofField field text = .ok expansion) ∨
        ∃ fault : PieceFault, Expansion.ofField field text = .error ⟨fault, text, some field⟩ ∧
          (fault.IsMalformed ∨ fault.IsEmptySpan)) ↔ ¬ Expansion.HasOverlong field text) ∧
      (∀ number, Expansion.ofField field (toString number) = if Numeral.isWritable number
        then .ok (.only (.ofList [field.bounds.clamp number]))
        else .error ⟨.digitCount, toString number, some field⟩) ∧
      (((∃ verdict, judge text = .ok verdict) ∧
        ∃ description, Description.ofText text = .ok description) ↔ ¬ HasOverlong text) := by
  refine ⟨?_, Expansion.ofField_number field, ?_⟩
  · rw [Expansion.HasOverlong, Expansion.comesTo_overlong_iff]
    rcases Expansion.ofField_cases field text with ⟨expansion, expanded⟩ | ⟨fault, failed, collected⟩
    · refine iff_of_true (.inl ⟨expansion, expanded⟩) fun overlong => ?_
      cases expanded.symm.trans (Expansion.ofField_of_fault field text _ overlong)
    · simp only [failed, collected, reduceCtorEq, exists_false, false_or, Except.error.injEq,
        FieldFault.mk.injEq, and_true, exists_eq_left', PieceFault.IsMalformed]
      constructor
      · rintro (malformed | ⟨_, _, _, rfl⟩)
        · exact malformed.2
        · exact nofun
      · intro counted
        by_cases empty : fault.IsEmptySpan
        · exact .inr empty
        · exact .inl ⟨empty, counted⟩
  · rw [hasOverlong_iff]
    cases expanded : expandText text with
    | ok expansions => simp [judge, Description.ofText, expanded]
    | error fault =>
      cases ofItsText : fault.isOfText <;> simp [judge, Description.ofText, expanded, ofItsText]

theorem judge_of_unwritable (number : Int) (unwritable : Numeral.isWritable number = false) :
    Expansion.ofField .second (toString number)
        = .error ⟨.digitCount, toString number, some .second⟩ ∧
      ∃ fault, judge (toString number ++ " * * * *") = .error fault := by
  have failed := Expansion.ofField_number .second number
  rw [unwritable] at failed
  have some : (toString number).toList ≠ [] := by
    rw [← Numeral.text_ofInt]
    exact Numeral.text_ne_nil (Numeral.isSound_ofInt number)
  have unblank : ∀ c ∈ (toString number).toList, Text.isBlank c = false := by
    rw [← Numeral.text_ofInt]
    exact fun c member => (Numeral.isPlain_ofInt number c member).spec.2
  have written : Expression.toText ⟨toString number, "*", "*", "*", "*"⟩
      = toString number ++ " * * * *" := by
    simp only [Expression.toText, PerField.toList, Text.join, String.append_assoc]
    rfl
  have read : Expression.ofText? (toString number ++ " * * * *")
      = .ok ⟨toString number, "*", "*", "*", "*"⟩ := by
    have star : "*".toList ≠ [] ∧ ∀ c ∈ "*".toList, Text.isBlank c = false :=
      ⟨by decide, List.forall_mem_singleton.mpr rfl⟩
    rw [← written]
    refine Expression.ofText?_toText _ fun field => ?_
    cases field with
    | second => exact ⟨some, unblank⟩
    | _ => exact star
  have overlong : HasOverlong (toString number ++ " * * * *") :=
    ⟨_, [], .second, _, read, rfl, by simp,
      (Expansion.comesTo_overlong_iff _).mpr (Expansion.collect_of_ofField failed)⟩
  obtain ⟨fault, expanded, foreign⟩ := (hasOverlong_iff _).mp overlong
  refine ⟨failed, fault, ?_⟩
  rw [judge, expanded]
  exact if_neg (by simp [foreign])

theorem lt_length_toDigits (bound : Nat) (positive : 0 < bound) :
    ¬ (Nat.toDigits 10 ((10 : Int) ^ bound).natAbs).length ≤ bound := by
  have magnitude : ((10 : Int) ^ bound).natAbs = 10 ^ bound := Int.natAbs_pow 10 bound
  rw [magnitude, Nat.length_toDigits_le_iff (by decide) positive]
  exact Nat.lt_irrefl (10 ^ bound)

theorem not_isWritable_pastLongest : Numeral.isWritable (10 ^ Numeral.longest) = false :=
  decide_eq_false (lt_length_toDigits Numeral.longest (by decide))

/-- A power of ten that has one digit more than a number is read from. -/
theorem judge_fails_pastLongest :
    Expansion.ofField .second (toString (10 ^ Numeral.longest : Int))
        = .error ⟨.digitCount, toString (10 ^ Numeral.longest : Int), some .second⟩ ∧
      ∃ fault, judge (toString (10 ^ Numeral.longest : Int) ++ " * * * *") = .error fault :=
  judge_of_unwritable (10 ^ Numeral.longest) not_isWritable_pastLongest

end CronClock
