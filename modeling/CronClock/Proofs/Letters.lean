import CronClock.Proofs.Overlong

/-! # Letters that stand for bounds

Before a token is read, each letter that stands for a bound is replaced by the bound's digits, and what
stands right beside it is not told apart from them. So a token has the form of the text it comes from,
with each number spelled out, `Piece.written_spell_iff`: a letter beside a digit or another letter makes
one number with it, glued from the digits of both. Such a text is refused only where another part of it
is malformed, `Expansion.ofField_glued_iff`. -/
set_option autoImplicit false
namespace CronClock

open CronClock.Text (Numeral AllDigits IsSmallForm isDigit isBlank lowercase lowercaseAfter strip)

/-! ## Glued letters -/

namespace Text

def IsAlias (c : Char) : Prop := c = 'f' ∨ c = 'F' ∨ c = 'l' ∨ c = 'L'

instance : DecidablePred IsAlias := fun _ => inferInstanceAs (Decidable (_ ∨ _))

def IsFigure (c : Char) : Prop := isDigit c = true ∨ IsAlias c

instance : DecidablePred IsFigure := fun _ => inferInstanceAs (Decidable (_ ∨ _))

/-- Some letter for a bound is right beside a digit or another such letter. -/
def IsGlued (text : List Char) : Prop :=
  ∃ c d, (IsFigure c ∧ IsFigure d ∧ (IsAlias c ∨ IsAlias d)) ∧ [c, d] <:+: text

theorem IsGlued.of_infix {text part : List Char} (glued : IsGlued part) (within : part <:+: text) :
    IsGlued text := by
  obtain ⟨c, d, figures, inside⟩ := glued
  exact ⟨c, d, figures, inside.trans within⟩

theorem IsGlued.append_mark {before after : List Char} {mark : Char} (foreign : ¬ IsFigure mark)
    (glued : IsGlued (before ++ mark :: after)) : IsGlued before ∨ IsGlued after := by
  obtain ⟨c, d, figures, inside⟩ := glued
  have absent : mark ∉ [c, d] := by
    intro member
    rcases List.mem_pair.mp member with rfl | rfl
    · exact foreign figures.1
    · exact foreign figures.2.1
  exact (infix_append_mark absent inside).imp (⟨c, d, figures, ·⟩) (⟨c, d, figures, ·⟩)

theorem not_isGlued_nil : ¬ IsGlued [] := by
  rintro ⟨c, d, _, inside⟩
  simp at inside

theorem Numeral.isGlued_digits {numeral : Numeral} (glued : IsGlued numeral.text) :
    IsGlued numeral.digits := by
  unfold text at glued
  split at glued
  · exact (IsGlued.append_mark (by decide) glued).resolve_left not_isGlued_nil
  · exact glued

/-! ## Glued letters in small letters -/

theorem unblank_of_isDigit {c : Char} (digit : isDigit c = true) : isBlank c = false := by
  have tabled : ∀ start ∈ digitZeros.toList, ∀ offset < 10,
      isBlank (Char.ofNat (start + offset)) = false := by
    decide +kernel
  obtain ⟨start, block, since, upto⟩ := exists_start_of_isDigit digit
  have here := tabled start block (c.toNat - start) (by omega)
  rwa [Nat.add_sub_cancel' since, Char.ofNat_toNat] at here

theorem IsFigure.unblank {c : Char} (figure : IsFigure c) : isBlank c = false := by
  rcases figure with digit | rfl | rfl | rfl | rfl
  · exact unblank_of_isDigit digit
  all_goals decide

theorem infix_dropWhile {p : Char → Bool} {part text : List Char} (kept : ∀ c ∈ part, p c = false)
    (within : part <:+: text) : part <:+: text.dropWhile p := by
  rw [← List.takeWhile_append_dropWhile (p := p) (l := text)] at within
  refine infix_of_append_disjoint (fun c member dropped => ?_) within
  have outer := List.all_eq_true.mp List.all_takeWhile c dropped
  rw [kept c member] at outer
  cases outer

theorem infix_strip {part text : List Char} (unblank : ∀ c ∈ part, isBlank c = false)
    (within : part <:+: text) : part <:+: strip text := by
  have left := infix_dropWhile unblank within
  rw [← List.reverse_infix] at left
  have right := infix_dropWhile (fun c member => unblank c (List.mem_reverse.mp member)) left
  rwa [← List.reverse_infix, List.reverse_reverse] at right

theorem IsGlued.strip {text : List Char} (glued : IsGlued text) : IsGlued (strip text) := by
  obtain ⟨c, d, figures, inside⟩ := glued
  refine ⟨c, d, figures, infix_strip (fun e member => ?_) inside⟩
  rcases List.mem_pair.mp member with rfl | rfl
  · exact figures.1.unblank
  · exact figures.2.1.unblank

theorem IsSmallForm.figure {c : Char} {small : List Char} (form : IsSmallForm c small)
    (figure : IsFigure c) : ∃ d, small = [d] ∧ IsFigure d ∧ (IsAlias c → IsAlias d) := by
  rcases figure with digit | letter
  · exact ⟨c, form.eq_of_isDigit digit, .inl digit, id⟩
  · have lettered : smallLetters c = ['f'] ∨ smallLetters c = ['l'] := by
      rcases letter with rfl | rfl | rfl | rfl <;> decide
    rcases form with rfl | ⟨rfl, _⟩
    · rcases lettered with first | last
      · exact ⟨'f', first, by decide, fun _ => by decide⟩
      · exact ⟨'l', last, by decide, fun _ => by decide⟩
    · exact absurd letter (by decide)

theorem IsGlued.lowercase {text : List Char} (glued : IsGlued text) : IsGlued (lowercase text) := by
  suffices deeper : ∀ before, IsGlued (lowercaseAfter before text) from deeper []
  obtain ⟨c, d, ⟨first, second, letter⟩, inside⟩ := glued
  induction text with
  | nil => simp at inside
  | cons head rest ih =>
    intro before
    obtain ⟨small, form, same⟩ := lowercaseAfter_cons before head rest
    rw [same]
    rcases List.infix_cons_iff.mp inside with begins | later
    · obtain ⟨rfl, following⟩ := List.cons_prefix_cons.mp begins
      obtain ⟨more, rfl⟩ := following
      obtain ⟨other, otherForm, next⟩ := lowercaseAfter_cons (c :: before) d more
      obtain ⟨c', rfl, figure, kept⟩ := form.figure first
      obtain ⟨d', rfl, otherFigure, otherKept⟩ := otherForm.figure second
      refine ⟨c', d', ⟨figure, otherFigure, letter.imp kept otherKept⟩, ?_⟩
      rw [List.singleton_append, List.singleton_append, next]
      exact (List.prefix_append [c', d'] _).isInfix
    · have deeper := ih later (head :: before)
      exact deeper.of_infix (List.suffix_append small _).isInfix

end Text

/-! ## Spelling letters out -/

namespace Piece

/-- Every letter becomes the digits of the bound that it stands for. -/
def spell (bounds : Bounds) (text : List Char) : List Char :=
  replaceLetter 'l' bounds.greatest (replaceLetter 'f' bounds.least text)

theorem token_eq_spell (bounds : Bounds) (text : List Char) :
    token bounds text = spell bounds (lowercase (strip text)) :=
  rfl

end Piece

namespace Text.Numeral

structure IsLettered (numeral : Numeral) : Prop where
  nonempty : numeral.digits ≠ []
  lettered : ∀ c ∈ numeral.digits, isDigit c = true ∨ c = 'f' ∨ c = 'l'

def spelled (bounds : Bounds) (numeral : Numeral) : Numeral :=
  ⟨numeral.negative, Piece.spell bounds numeral.digits⟩

end Text.Numeral

namespace Piece

def figures (bounds : Bounds) (c : Char) : List Char :=
  if c = 'f' then (toString bounds.least).toList
  else if c = 'l' then (toString bounds.greatest).toList
  else [c]

variable {bounds : Bounds}

theorem spell_eq_flatMap (bounds : Bounds) (text : List Char) :
    spell bounds text = text.flatMap (figures bounds) := by
  rw [spell, replaceLetter, replaceLetter, List.flatMap_assoc]
  congr 1
  funext c
  unfold figures
  split
  · have absent : 'l' ∉ (toString bounds.least).toList := by
      intro member
      rw [← Numeral.text_ofInt] at member
      exact absurd (Numeral.isPlain_ofInt bounds.least 'l' member) (by decide)
    exact replaceLetter_of_not_mem bounds.greatest absent
  · exact List.append_nil _

theorem spell_append (before after : List Char) :
    spell bounds (before ++ after) = spell bounds before ++ spell bounds after := by
  simp only [spell_eq_flatMap, List.flatMap_append]

theorem figures_of_foreign {c : Char} (foreign : ¬ (c = 'f' ∨ c = 'l')) : figures bounds c = [c] := by
  rw [not_or] at foreign
  rw [figures, if_neg foreign.1, if_neg foreign.2]

theorem spell_mark {mark : Char} (foreign : ¬ (mark = 'f' ∨ mark = 'l')) (before after : List Char) :
    spell bounds (before ++ mark :: after) = spell bounds before ++ mark :: spell bounds after := by
  rw [spell_append, spell_eq_flatMap bounds (mark :: after), List.flatMap_cons,
    figures_of_foreign foreign, ← spell_eq_flatMap]
  rfl

theorem spell_text (number : Numeral) :
    spell bounds number.text = (number.spelled bounds).text := by
  obtain ⟨negative, digits⟩ := number
  cases negative with
  | true => exact spell_mark (by decide) [] digits
  | false => rfl

theorem isLettered_of_spell {digits text : List Char} (nonempty : digits ≠ [])
    (digital : AllDigits digits) (same : spell bounds text = digits) (negative : Bool) :
    (Numeral.mk negative text).IsLettered := by
  subst same
  constructor
  · rintro rfl
    exact nonempty rfl
  · intro c member
    by_cases letter : c = 'f' ∨ c = 'l'
    · exact .inr letter
    · refine .inl (digital c ?_)
      rw [spell_eq_flatMap, List.mem_flatMap]
      exact ⟨c, member, by simp [figures_of_foreign letter]⟩

section Unsigned
variable (unsigned : 0 ≤ bounds.least ∧ 0 ≤ bounds.greatest)
include unsigned

theorem figures_digital {c : Char} (letter : c = 'f' ∨ c = 'l') :
    figures bounds c ≠ [] ∧ AllDigits (figures bounds c) := by
  have ofBound : ∀ bound : Int, 0 ≤ bound →
      (toString bound).toList ≠ [] ∧ AllDigits (toString bound).toList := by
    intro bound nonnegative
    have sound := Numeral.isSound_ofInt bound
    have own : (toString bound).toList = (Numeral.ofInt bound).digits := by
      have positive : (Numeral.ofInt bound).negative = false := decide_eq_false (by omega)
      rw [← Numeral.text_ofInt, Numeral.text, positive]
      rfl
    rw [own]
    exact ⟨sound.nonempty, sound.digital⟩
  rcases letter with rfl | rfl
  · exact ofBound bounds.least unsigned.1
  · exact ofBound bounds.greatest unsigned.2

theorem spell_eq_nil {text : List Char} (none : spell bounds text = []) : text = [] := by
  rw [spell_eq_flatMap, List.flatMap_eq_nil_iff] at none
  refine List.eq_nil_iff_forall_not_mem.mpr fun c member => ?_
  by_cases letter : c = 'f' ∨ c = 'l'
  · exact (figures_digital unsigned letter).1 (none c member)
  · have empty := none c member
    rw [figures_of_foreign letter] at empty
    cases empty

/-- A character that is no digit was there before the letters were spelled out. -/
theorem spell_cut {mark : Char} (plain : isDigit mark = false) {text before after : List Char}
    (same : spell bounds text = before ++ mark :: after) :
    ∃ first second, text = first ++ mark :: second ∧ spell bounds first = before ∧
      spell bounds second = after := by
  simp only [spell_eq_flatMap] at same ⊢
  induction text generalizing before with
  | nil => simp at same
  | cons c rest ih =>
    rw [List.flatMap_cons] at same
    have later : ∀ more, rest.flatMap (figures bounds) = more ++ mark :: after →
        before = figures bounds c ++ more → ∃ first second, c :: rest = first ++ mark :: second ∧
          first.flatMap (figures bounds) = before ∧ second.flatMap (figures bounds) = after := by
      rintro more following rfl
      obtain ⟨first, second, rfl, rfl, ends⟩ := ih following
      exact ⟨c :: first, second, rfl, rfl, ends⟩
    rcases List.append_eq_append_iff.mp same with ⟨more, begins, following⟩ | ⟨more, begins, ends⟩
    · exact later more following begins
    · cases more with
      | nil => exact later [] ends.symm (by simpa using begins.symm)
      | cons head others =>
        obtain ⟨rfl, rfl⟩ := List.cons.inj ends
        by_cases letter : c = 'f' ∨ c = 'l'
        · have digit := (figures_digital unsigned letter).2 mark (by simp [begins])
          rw [plain] at digit
          cases digit
        · rw [figures_of_foreign letter] at begins
          cases before with
          | nil =>
            cases begins
            exact ⟨[], rest, rfl, rfl, rfl⟩
          | cons => simp at begins

theorem isSound_spelled {number : Numeral} (lettered : number.IsLettered) :
    (number.spelled bounds).IsSound := by
  constructor
  · exact fun none => lettered.nonempty (spell_eq_nil unsigned none)
  · intro d member
    rw [Numeral.spelled, spell_eq_flatMap] at member
    obtain ⟨c, own, here⟩ := List.mem_flatMap.mp member
    by_cases letter : c = 'f' ∨ c = 'l'
    · exact (figures_digital unsigned letter).2 d here
    · rw [figures_of_foreign letter, List.mem_singleton] at here
      exact here ▸ (lettered.lettered c own).resolve_right letter

theorem exists_lettered {text : List Char} {number : Numeral} (sound : number.IsSound)
    (same : spell bounds text = number.text) :
    ∃ lettered : Numeral, lettered.IsLettered ∧ lettered.text = text ∧
      lettered.spelled bounds = number := by
  obtain ⟨negative, digits⟩ := number
  cases negative with
  | true =>
    have undigital : isDigit '-' = false := by decide
    have signed : spell bounds text = [] ++ '-' :: digits := same
    obtain ⟨none, own, rfl, empty, rfl⟩ := spell_cut unsigned undigital signed
    cases spell_eq_nil unsigned empty
    exact ⟨⟨true, own⟩, isLettered_of_spell sound.nonempty sound.digital rfl true, rfl, rfl⟩
  | false =>
    have whole : spell bounds text = digits := same
    exact ⟨⟨false, text⟩, isLettered_of_spell sound.nonempty sound.digital whole false, rfl,
      by rw [Numeral.spelled, whole]⟩

end Unsigned

/-! ## Forms with letters -/

inductive LetteredStart (bounds : Bounds) : List Char → Int → List Numeral → Prop
  | absent : LetteredStart bounds [] 0 []
  | star : LetteredStart bounds ['*'] 0 []
  | number (number : Numeral) (lettered : number.IsLettered) :
    LetteredStart bounds number.text (number.spelled bounds).value [number]

/-- How each form is written with letters, which spell its numbers out; and the numerals in it. -/
inductive Lettered (bounds : Bounds) : List Char → Piece → List Numeral → Prop
  | star : Lettered bounds ['*'] .star []
  | single (number : Numeral) (lettered : number.IsLettered) :
    Lettered bounds number.text (.single (number.spelled bounds).value) [number]
  | span (low high : Numeral) (lowLettered : low.IsLettered) (highLettered : high.IsLettered) :
    Lettered bounds (low.text ++ '-' :: high.text)
      (.span (low.spelled bounds).value (high.spelled bounds).value) [low, high]
  | steps (start : List Char) (first : Int) (numerals : List Numeral)
    (begun : LetteredStart bounds start first numerals) (step : Numeral) (lettered : step.IsLettered)
    (unsigned : step.negative = false) : Lettered bounds (start ++ '/' :: step.text)
      (.steps first (step.spelled bounds).value) (numerals ++ [step])

section Unsigned
variable (unsigned : 0 ≤ bounds.least ∧ 0 ≤ bounds.greatest)
include unsigned

theorem spell_eq_star {text : List Char} (star : spell bounds text = ['*']) : text = ['*'] := by
  have undigital : isDigit '*' = false := by decide
  have alone : spell bounds text = [] ++ '*' :: [] := star
  obtain ⟨first, second, rfl, empty, none⟩ := spell_cut unsigned undigital alone
  rw [spell_eq_nil unsigned empty, spell_eq_nil unsigned none]
  rfl

theorem writtenStart_spell_iff (text : List Char) (first : Int) :
    WrittenStart (spell bounds text) first ↔ ∃ numerals, LetteredStart bounds text first numerals := by
  constructor
  · intro begun
    generalize same : spell bounds text = token at begun
    cases begun with
    | absent =>
      cases spell_eq_nil unsigned same
      exact ⟨[], .absent⟩
    | star =>
      cases spell_eq_star unsigned same
      exact ⟨[], .star⟩
    | number number sound =>
      obtain ⟨lettered, isLettered, rfl, rfl⟩ := exists_lettered unsigned sound same
      exact ⟨[lettered], .number lettered isLettered⟩
  · rintro ⟨numerals, begun⟩
    cases begun with
    | absent => exact .absent
    | star => exact .star
    | number number lettered =>
      rw [spell_text]
      exact .number _ (isSound_spelled unsigned lettered)

/-- A text has the forms that it is written in with letters. -/
theorem written_spell_iff (text : List Char) (piece : Piece) :
    Written (spell bounds text) piece ↔ ∃ numerals, Lettered bounds text piece numerals := by
  have undigitalDash : isDigit '-' = false := by decide
  have undigitalStroke : isDigit '/' = false := by decide
  constructor
  · intro written
    generalize same : spell bounds text = token at written
    cases written with
    | star =>
      cases spell_eq_star unsigned same
      exact ⟨[], .star⟩
    | single number sound =>
      obtain ⟨lettered, isLettered, rfl, rfl⟩ := exists_lettered unsigned sound same
      exact ⟨[lettered], .single lettered isLettered⟩
    | span low high lowSound highSound =>
      obtain ⟨first, second, rfl, lowSame, highSame⟩ := spell_cut unsigned undigitalDash same
      obtain ⟨low, lowLettered, rfl, rfl⟩ := exists_lettered unsigned lowSound lowSame
      obtain ⟨high, highLettered, rfl, rfl⟩ := exists_lettered unsigned highSound highSame
      exact ⟨[low, high], .span low high lowLettered highLettered⟩
    | steps start first step begun sound positive =>
      obtain ⟨begin, second, rfl, rfl, stepSame⟩ := spell_cut unsigned undigitalStroke same
      obtain ⟨step, lettered, rfl, rfl⟩ := exists_lettered unsigned sound stepSame
      obtain ⟨numerals, begun⟩ := (writtenStart_spell_iff unsigned begin first).mp begun
      exact ⟨numerals ++ [step], .steps begin first numerals begun step lettered positive⟩
  · rintro ⟨numerals, written⟩
    cases written with
    | star => exact .star
    | single number lettered =>
      rw [spell_text]
      exact .single _ (isSound_spelled unsigned lettered)
    | span low high lowLettered highLettered =>
      rw [spell_mark (by decide), spell_text, spell_text]
      exact .span _ _ (isSound_spelled unsigned lowLettered) (isSound_spelled unsigned highLettered)
    | steps start first numerals begun step lettered positive =>
      rw [spell_mark (by decide), spell_text]
      exact .steps _ first _ ((writtenStart_spell_iff unsigned start first).mpr ⟨numerals, begun⟩)
        (isSound_spelled unsigned lettered) positive

end Unsigned

theorem not_isGlued_star : ¬ Text.IsGlued ['*'] := by
  intro glued
  have alone : Text.IsGlued ([] ++ '*' :: []) := glued
  rcases alone.append_mark (by decide) with none | none
  · exact Text.not_isGlued_nil none
  · exact Text.not_isGlued_nil none

theorem Lettered.exists_isGlued {text : List Char} {piece : Piece} {numerals : List Numeral}
    (lettered : Lettered bounds text piece numerals) (glued : Text.IsGlued text) :
    ∃ number ∈ numerals, Text.IsGlued number.digits := by
  cases lettered with
  | star => exact absurd glued not_isGlued_star
  | single number => exact ⟨number, by simp, Numeral.isGlued_digits glued⟩
  | span low high =>
    rcases glued.append_mark (by decide) with left | right
    · exact ⟨low, by simp, Numeral.isGlued_digits left⟩
    · exact ⟨high, by simp, Numeral.isGlued_digits right⟩
  | steps start first numerals begun step =>
    rcases glued.append_mark (by decide) with left | right
    · cases begun with
      | absent => exact absurd left Text.not_isGlued_nil
      | star => exact absurd left not_isGlued_star
      | number number => exact ⟨number, by simp, Numeral.isGlued_digits left⟩
    · exact ⟨step, by simp, Numeral.isGlued_digits right⟩

end Piece

/-! ## Texts with glued letters -/

namespace Expansion

/-- A text with a glued segment is refused as malformed, or for an empty span before that segment,
exactly if all is legible up to a malformed token or up to such a span. The glued letters are no reason
to refuse it: the segment's token has the forms that its letters spell, in which one of the numbers is
glued. -/
theorem ofField_glued_iff (field : Field) (text : String) {before after : List (List Char)}
    {glued : List Char} (cut : Text.splitAt ',' text.toList = before ++ glued :: after)
    (adjacent : Text.IsGlued glued) :
    ((∃ fault : PieceFault, ofField field text = .error ⟨fault, text, some field⟩ ∧
        (fault.IsMalformed ∨ fault.IsEmptySpan ∧ collect field.bounds before = .error fault)) ↔
      ComesTo field.bounds (Piece.IsMalformed field.bounds) (Text.splitAt ',' text.toList) ∨
        ComesTo field.bounds (Piece.IsInverted field.bounds) before) ∧
      ∀ piece, Piece.Written (Piece.token field.bounds glued) piece ↔
        ∃ numerals, Piece.Lettered field.bounds (lowercase (strip glued)) piece numerals ∧
          ∃ number ∈ numerals, Text.IsGlued number.digits := by
  constructor
  · rw [comesTo_malformed_iff, comesTo_inverted_iff]
    constructor
    · rintro ⟨fault, failed, malformed | empty⟩
      · exact .inl ⟨fault, malformed, collect_of_ofField failed⟩
      · exact .inr ⟨fault, empty⟩
    · rintro (⟨fault, malformed, failed⟩ | ⟨fault, empty, failed⟩)
      · exact ⟨fault, ofField_of_fault field text fault failed, .inl malformed⟩
      · have whole := collect_append_error failed (glued :: after)
        rw [← cut] at whole
        exact ⟨fault, ofField_of_fault field text fault whole, .inr ⟨empty, failed⟩⟩
  · intro piece
    obtain ⟨nonnegative, _, positive⟩ := field.bounds_span
    have spelled := Piece.written_spell_iff ⟨nonnegative, Int.le_trans (by decide) positive⟩
      (lowercase (strip glued)) piece
    rw [Piece.token_eq_spell, spelled]
    constructor
    · rintro ⟨numerals, lettered⟩
      exact ⟨numerals, lettered, lettered.exists_isGlued adjacent.strip.lowercase⟩
    · rintro ⟨numerals, lettered, _⟩
      exact ⟨numerals, lettered⟩

theorem ofField_glued_danglingSpan :
    Text.splitAt ',' "5f-x,*".toList = [] ++ "5f-x".toList :: ["*".toList] ∧
      Text.IsGlued "5f-x".toList ∧
      ∃ fault : PieceFault, ofField .hour "5f-x,*" = .error ⟨fault, "5f-x,*", some .hour⟩ ∧
        (fault.IsMalformed ∨ fault.IsEmptySpan ∧ collect Field.hour.bounds [] = .error fault) := by
  have cut : Text.splitAt ',' "5f-x,*".toList = [] ++ "5f-x".toList :: ["*".toList] := by decide
  have adjacent : Text.IsGlued "5f-x".toList := ⟨'5', 'f', by decide, [], "-x".toList, rfl⟩
  have failed : Piece.read (Piece.token Field.hour.bounds "5f-x".toList)
      = .error (.spanForm "50-x".toList) := by
    decide +kernel
  have short : ¬ Piece.IsOverlong (Piece.token Field.hour.bounds "5f-x".toList) := by
    rw [← Piece.read_eq_digitCount_iff, failed]
    exact nofun
  refine ⟨cut, adjacent, (ofField_glued_iff .hour "5f-x,*" cut adjacent).1.mpr (.inl ?_)⟩
  exact ⟨[], _, _, cut, nofun, Piece.isMalformed_of_read failed short⟩

/-- A five right before the letter for the first second is read as fifty. -/
theorem ofField_glued_fifty :
    Text.splitAt ',' "5f".toList = ["5f".toList] ∧ Text.IsGlued "5f".toList ∧
      ofField .second "5f" = .ok (.only (.ofList [50])) ∧
      ¬ ∃ complaint, ofField .second "5f" = .error complaint := by
  have expanded : ofField .second "5f" = .ok (.only (.ofList [50])) := by decide +kernel
  refine ⟨by decide, ⟨'5', 'f', by decide, [], [], rfl⟩, expanded, ?_⟩
  rintro ⟨complaint, failed⟩
  cases expanded.symm.trans failed

end Expansion
end CronClock
