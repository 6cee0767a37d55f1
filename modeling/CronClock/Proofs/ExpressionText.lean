import CronClock.Proofs.Description
import Mathlib.Data.List.TakeWhile

/-! # Expressions read back from their text

The text of an expression has the words of its fields in order, `Text.words_join_eq_flatMap`, and a
field that expands has a word, `Expansion.words_ne_nil_of_ofField`. So no word of the text moves to
another field: there are five words only if each field has one, and then the field is that word with
blanks around it, which the field grammar strips off, `Expansion.ofField_of_padded`. -/
set_option autoImplicit false
namespace CronClock

/-! ## Words and the blanks around them -/

namespace Text

theorem words_ne_nil {text : List Char} (begun : startsBlank text = false) : words text ≠ [] := by
  cases text with
  | nil => simp [startsBlank] at begun
  | cons c rest =>
    have unblank : isBlank c = false := begun
    rw [words, if_neg (by simp [unblank])]
    split
    · simp
    · cases words rest <;> simp [growFirst]

theorem growFirst_append (c : Char) {before : List (List Char)} (some : before ≠ [])
    (after : List (List Char)) : growFirst c (before ++ after) = growFirst c before ++ after := by
  cases before with
  | nil => exact absurd rfl some
  | cons word rest => rfl

theorem words_append_blank {c : Char} (blank : isBlank c = true) (before after : List Char) :
    words (before ++ c :: after) = words before ++ words after := by
  induction before with
  | nil => simp [words, blank]
  | cons d rest ih =>
    have sameStart : startsBlank (rest ++ c :: after) = startsBlank rest := by
      cases rest with
      | nil => exact blank
      | cons e more => rfl
    rw [List.cons_append, words, words, sameStart, ih]
    split
    · rfl
    · split
      · rfl
      · next goesOn =>
        exact growFirst_append d (words_ne_nil (Bool.eq_false_iff.mpr goesOn)) _

theorem words_join_eq_flatMap (texts : List String) :
    words (join " " texts).toList = texts.flatMap fun text => words text.toList := by
  induction texts with
  | nil => rfl
  | cons text rest ih =>
    cases rest with
    | nil => simp [join]
    | cons next more =>
      have blank : isBlank ' ' = true := by decide
      have apart := words_append_blank blank text.toList (join " " (next :: more)).toList
      rw [toList_join_cons, List.flatMap_cons, ← ih, ← apart]
      rfl

theorem isBlank_of_words_eq_nil {text : List Char} (none : words text = []) :
    ∀ c ∈ text, isBlank c = true := by
  induction text with
  | nil => simp
  | cons c rest ih =>
    cases blank : isBlank c with
    | false => exact absurd none (words_ne_nil blank)
    | true =>
      rw [words, if_pos blank] at none
      exact List.forall_mem_cons.mpr ⟨blank, ih none⟩

/-- The first word of a text has only blanks before it, and a blank or nothing after it. -/
theorem words_eq_cons {text word : List Char} {others : List (List Char)}
    (cut : words text = word :: others) : ∃ left after, text = left ++ (word ++ after) ∧
      (∀ c ∈ left, isBlank c = true) ∧ (∀ c ∈ word, isBlank c = false) ∧ words after = others := by
  induction text generalizing word with
  | nil => simp [words] at cut
  | cons c rest ih =>
    rw [words] at cut
    split at cut
    · next blank =>
      obtain ⟨left, after, rfl, blanks, unblank, following⟩ := ih cut
      exact ⟨c :: left, after, rfl, List.forall_mem_cons.mpr ⟨blank, blanks⟩, unblank, following⟩
    · next notBlank =>
      have plain : isBlank c = false := Bool.eq_false_iff.mpr notBlank
      split at cut
      · obtain ⟨rfl, rfl⟩ := List.cons.inj cut
        exact ⟨[], rest, rfl, by simp, by simp [plain], rfl⟩
      · next goesOn =>
        cases inner : words rest with
        | nil => exact absurd inner (words_ne_nil (Bool.eq_false_iff.mpr goesOn))
        | cons first more =>
          rw [inner, growFirst] at cut
          obtain ⟨rfl, rfl⟩ := List.cons.inj cut
          obtain ⟨left, after, same, blanks, unblank, following⟩ := ih inner
          -- The rest begins with its first word, since it does not begin with a blank.
          have begun : left = [] := by
            cases left with
            | nil => rfl
            | cons d _ =>
              rw [same, List.cons_append, startsBlank] at goesOn
              exact absurd (blanks d List.mem_cons_self) goesOn
          subst begun
          exact ⟨[], after, by simp [same], by simp, List.forall_mem_cons.mpr ⟨plain, unblank⟩,
            following⟩

def IsPadded (text word : List Char) : Prop :=
  (∀ c ∈ word, isBlank c = false) ∧ ∃ left right, text = left ++ (word ++ right) ∧
    (∀ c ∈ left, isBlank c = true) ∧ ∀ c ∈ right, isBlank c = true

theorem isPadded_of_words {text word : List Char} (cut : words text = [word]) :
    IsPadded text word := by
  obtain ⟨left, right, same, blanks, unblank, none⟩ := words_eq_cons cut
  exact ⟨unblank, left, right, same, blanks, isBlank_of_words_eq_nil none⟩

/-! ## Stripping the pieces of a padded text -/

theorem strip_append_left {left : List Char} (blanks : ∀ c ∈ left, isBlank c = true)
    (text : List Char) : strip (left ++ text) = strip text := by
  rw [strip, stripOf, List.dropWhile_append_of_pos blanks]
  rfl

theorem strip_append_right {right : List Char} (blanks : ∀ c ∈ right, isBlank c = true)
    (text : List Char) : strip (text ++ right) = strip text := by
  have backwards : ∀ c ∈ right.reverse, isBlank c = true := by
    intro c member
    exact blanks c (List.mem_reverse.mp member)
  rw [strip, stripOf, List.dropWhile_append]
  split
  · next spent =>
    have none : text.dropWhile isBlank = [] := List.isEmpty_iff.mp spent
    have allBlank : right.dropWhile isBlank = [] := List.dropWhile_eq_nil_iff.mpr blanks
    rw [strip, stripOf, none, allBlank]
  · rw [stripRightOf, List.reverse_append, List.dropWhile_append_of_pos backwards]
    rfl

theorem splitAt_append_left {mark : Char} {left : List Char} (absent : mark ∉ left)
    (text : List Char) : ∃ first others, splitAt mark text = first :: others ∧
      splitAt mark (left ++ text) = (left ++ first) :: others := by
  induction left with
  | nil =>
    cases cut : splitAt mark text with
    | nil => exact absurd cut (splitAt_ne_nil mark text)
    | cons first others => exact ⟨first, others, rfl, cut⟩
  | cons c rest ih =>
    rw [List.mem_cons, not_or] at absent
    obtain ⟨first, others, cut, whole⟩ := ih absent.2
    exact ⟨first, others, cut, by rw [List.cons_append, splitAt, if_neg (Ne.symm absent.1), whole]; rfl⟩

theorem splitAt_append_right {mark : Char} {right : List Char} (absent : mark ∉ right)
    (text : List Char) : ∃ others last, splitAt mark text = others ++ [last] ∧
      splitAt mark (text ++ right) = others ++ [last ++ right] := by
  induction text with
  | nil => exact ⟨[], [], rfl, splitAt_of_not_mem absent⟩
  | cons c rest ih =>
    obtain ⟨others, last, cut, whole⟩ := ih
    by_cases same : c = mark
    · exact ⟨[] :: others, last, by simp [splitAt, same, cut], by simp [splitAt, same, whole]⟩
    · cases others with
      | nil => exact ⟨[], c :: last, by simp [splitAt, same, cut, growFirst],
          by simp [splitAt, same, whole, growFirst]⟩
      | cons first more => exact ⟨(c :: first) :: more, last, by simp [splitAt, same, cut, growFirst],
          by simp [splitAt, same, whole, growFirst]⟩

/-- Blanks around a text are stripped off its pieces, whether it is cut before or after. -/
theorem map_strip_splitAt_of_padded {mark : Char} (unblank : isBlank mark = false)
    {text word : List Char} (padded : IsPadded text word) :
    (splitAt mark text).map strip = (splitAt mark word).map strip := by
  obtain ⟨_, left, right, rfl, leftBlank, rightBlank⟩ := padded
  have absent : ∀ blanks : List Char, (∀ c ∈ blanks, isBlank c = true) → mark ∉ blanks := by
    intro blanks each member
    exact absurd (each mark member) (by simp [unblank])
  obtain ⟨first, others, cut, whole⟩ :=
    splitAt_append_left (absent left leftBlank) (word ++ right)
  obtain ⟨before, last, wordCut, cutRight⟩ := splitAt_append_right (absent right rightBlank) word
  rw [whole, wordCut, List.map_cons, strip_append_left leftBlank, ← List.map_cons, ← cut, cutRight,
    List.map_append, List.map_append, List.map_singleton, List.map_singleton,
    strip_append_right rightBlank]

end Text

/-! ## Fields with blanks around them -/

namespace Expansion

theorem collect_congr (bounds : Bounds) {texts others : List (List Char)}
    (same : texts.map Text.strip = others.map Text.strip) :
    collect bounds texts = collect bounds others := by
  induction texts generalizing others with
  | nil =>
    have none : others = [] := List.map_eq_nil_iff.mp same.symm
    rw [none]
  | cons text rest ih =>
    obtain ⟨other, more, rfl, head, tail⟩ := List.map_eq_cons_iff.mp same.symm
    have token : Piece.token bounds text = Piece.token bounds other := by
      rw [Piece.token, Piece.token, head]
    rw [collect, collect, token, ih tail.symm]

theorem ofField_of_padded {field : Field} {text : String} {word : List Char} {expansion : Expansion}
    (padded : Text.IsPadded text.toList word) (expanded : ofField field text = .ok expansion) :
    ofField field (String.ofList word) = .ok expansion := by
  have same := Text.map_strip_splitAt_of_padded (by decide : Text.isBlank ',' = false) padded
  rw [ofField, mapError_eq_ok, within?_field, collect_congr field.bounds same] at expanded
  rw [ofField, mapError_eq_ok, within?_field, String.toList_ofList]
  exact expanded

theorem words_ne_nil_of_ofField {field : Field} {text : String} {expansion : Expansion}
    (expanded : ofField field text = .ok expansion) : Text.words text.toList ≠ [] := by
  intro none
  have padded : Text.IsPadded text.toList [] :=
    ⟨by simp, text.toList, [], by simp, Text.isBlank_of_words_eq_nil none, by simp⟩
  have empty := ofField_of_padded padded expanded
  cases field <;> cases empty

end Expansion

/-! ## Whole expressions -/

namespace Expression

section Words
variable (expression : Expression)

theorem words_toText : Text.words expression.toText.toList
    = Field.all.flatMap fun field => Text.words (expression.get field).toList :=
  Text.words_join_eq_flatMap expression.toList

theorem ofText?_toText_of_words (word : Field → List Char)
    (each : ∀ field, Text.words (expression.get field).toList = [word field]) :
    ofText? expression.toText = .ok (PerField.ofFunction fun field => String.ofList (word field)) := by
  have cut : Text.words expression.toText.toList = Field.all.map word := by
    simp only [words_toText, each]
    rfl
  rw [ofText?, cut]
  rfl

theorem ofText?_toText_of_more (some : ∀ field, Text.words (expression.get field).toList ≠ [])
    (field : Field) (more : 1 < (Text.words (expression.get field).toList).length) :
    ∃ count, 5 < count ∧ ofText? expression.toText = .error (.wordCount expression.toText count) := by
  have many : 5 < (Text.words expression.toText.toList).length := by
    have least := fun other => List.length_pos_iff.mpr (some other)
    have second := least .second
    have minute := least .minute
    have hour := least .hour
    have day := least .day
    have month := least .month
    simp only [words_toText, Field.all, List.length_flatMap, List.map_cons, List.map_nil, List.sum_cons,
      List.sum_nil]
    cases field <;> omega
  refine ⟨_, many, ?_⟩
  unfold ofText?
  split
  · next five => simp [five] at many
  · rfl

end Words

/-- The text of an expression that expands never reads as an expression that expands differently: it has
too many words, or else the texts that it is read as expand to the same in their fields. It is read as
the expression itself exactly if no field's text has a blank. -/
theorem expand_ofText?_toText (expression : Expression) (expansions : Expansions)
    (expanded : expression.expand = .ok expansions) :
    ((∃ count, 5 < count ∧ ofText? expression.toText = .error (.wordCount expression.toText count)) ∨
      ∃ other, ofText? expression.toText = .ok other ∧ other.expand = .ok expansions) ∧
      (ofText? expression.toText = .ok expression ↔
        ∀ field, ∀ c ∈ (expression.get field).toList, Text.isBlank c = false) := by
  have fields := expression.expand_eq_ok expansions expanded
  have some := fun field => Expansion.words_ne_nil_of_ofField (fields field)
  have unblankRead : (∀ field, ∀ c ∈ (expression.get field).toList, Text.isBlank c = false) →
      ofText? expression.toText = .ok expression := by
    intro unblank
    refine ofText?_toText expression fun field => ⟨fun none => some field ?_, unblank field⟩
    rw [none]
    rfl
  by_cases single : ∀ field, ∃ word, Text.words (expression.get field).toList = [word]
  · obtain ⟨word, each⟩ := Classical.axiomOfChoice single
    have read := expression.ofText?_toText_of_words word each
    have padded := fun field => Text.isPadded_of_words (each field)
    refine ⟨.inr ⟨_, read, expand_of_fields _ expansions fun field => ?_⟩, fun same => ?_, unblankRead⟩
    · rw [PerField.get_ofFunction]
      exact Expansion.ofField_of_padded (padded field) (fields field)
    · intro field c member
      have own := Except.ok.inj (read.symm.trans same)
      rw [← own, PerField.get_ofFunction, String.toList_ofList] at member
      exact (padded field).1 c member
  · obtain ⟨field, several⟩ := not_forall.mp single
    have more : 1 < (Text.words (expression.get field).toList).length := by
      have least := List.length_pos_iff.mpr (some field)
      by_contra few
      exact several (List.length_eq_one_iff.mp (by omega))
    obtain ⟨count, many, refused⟩ := expression.ofText?_toText_of_more some field more
    refine ⟨.inl ⟨count, many, refused⟩, fun same => ?_, unblankRead⟩
    cases refused.symm.trans same

theorem expand_ofText?_toText_padded :
    expand ⟨"\t1,5-7 ", "0/15", "*", "*", "*"⟩
        = .ok ⟨.only (.ofList [1, 5, 6, 7]), .only (.ofList [0, 15, 30, 45]), .every, .every, .every⟩ ∧
      ofText? "\t1,5-7  0/15 * * *" = .ok ⟨"1,5-7", "0/15", "*", "*", "*"⟩ ∧
      expand ⟨"1,5-7", "0/15", "*", "*", "*"⟩
        = .ok ⟨.only (.ofList [1, 5, 6, 7]), .only (.ofList [0, 15, 30, 45]), .every, .every, .every⟩ := by
  have expanded : expand ⟨"\t1,5-7 ", "0/15", "*", "*", "*"⟩
      = .ok ⟨.only (.ofList [1, 5, 6, 7]), .only (.ofList [0, 15, 30, 45]), .every, .every, .every⟩ := by
    decide +kernel
  have read : ofText? "\t1,5-7  0/15 * * *" = .ok ⟨"1,5-7", "0/15", "*", "*", "*"⟩ := by
    decide +kernel
  have written : toText ⟨"\t1,5-7 ", "0/15", "*", "*", "*"⟩ = "\t1,5-7  0/15 * * *" := by
    decide +kernel
  refine ⟨expanded, read, ?_⟩
  have faithful := (expand_ofText?_toText _ _ expanded).1
  rw [written, read] at faithful
  rcases faithful with ⟨_, _, refused⟩ | ⟨other, same, also⟩
  · cases refused
  · cases same
    exact also

end Expression
end CronClock
