import CronClock.Text.Blank

/-! # Cutting and joining

Cutting a text at a mark undoes joining texts with that mark, if none of them has it: `splitAt_join`,
and `words_join` for blanks. `splitAtPair` cuts at two characters in a row, and the texts joined with
those two may hold either of them, as long as the second never follows the first: `splitAtPair_join`. -/
set_option autoImplicit false
namespace CronClock.Text

/-! ## At one character -/

theorem splitAt_of_not_mem {mark : Char} {text : List Char} (absent : mark ∉ text) :
    splitAt mark text = [text] := by
  induction text with
  | nil => rfl
  | cons c rest ih =>
    rw [List.mem_cons, not_or] at absent
    rw [splitAt, if_neg (Ne.symm absent.1), ih absent.2, growFirst]

theorem splitAt_append (mark : Char) (before after : List Char) :
    splitAt mark (before ++ mark :: after) = splitAt mark before ++ splitAt mark after := by
  induction before with
  | nil => simp [splitAt]
  | cons c rest ih =>
    by_cases same : c = mark
    · simp [splitAt, same, ih]
    · cases cut : splitAt mark rest with
      | nil => exact absurd cut (splitAt_ne_nil mark rest)
      | cons first others => simp [splitAt, same, ih, cut, growFirst]

theorem toList_join_cons (between text next : String) (rest : List String) :
    (join between (text :: next :: rest)).toList
      = text.toList ++ (between.toList ++ (join between (next :: rest)).toList) := by
  rw [join, String.toList_append, String.toList_append, List.append_assoc]
  exact List.cons_ne_nil _ _

/-- Cutting joined texts at the mark between them cuts each of them. -/
theorem splitAt_join (mark : Char) (texts : List String) (some : texts ≠ []) :
    splitAt mark (join (String.singleton mark) texts).toList
      = texts.flatMap fun text => splitAt mark text.toList := by
  induction texts with
  | nil => exact absurd rfl some
  | cons text rest ih =>
    cases rest with
    | nil => simp [join]
    | cons next others =>
      rw [toList_join_cons, String.toList_singleton, List.singleton_append, splitAt_append,
        ih (List.cons_ne_nil next others)]
      rfl

/-! ## At blanks -/

theorem words_append {word : List Char} (some : word ≠ [])
    (unblank : ∀ c ∈ word, isBlank c = false) (rest : List Char) (ends : startsBlank rest = true) :
    words (word ++ rest) = word :: words rest := by
  induction word with
  | nil => exact absurd rfl some
  | cons c more ih =>
    have plain := unblank c List.mem_cons_self
    cases more with
    | nil => simp [words, plain, ends]
    | cons d others =>
      have following := ih (List.cons_ne_nil d others) fun e member =>
        unblank e (List.mem_cons_of_mem c member)
      have goesOn : isBlank d = false := unblank d (by simp)
      rw [List.cons_append, words, following]
      simp [plain, startsBlank, goesOn, growFirst]

theorem words_join (texts : List String)
    (plain : ∀ text ∈ texts, text.toList ≠ [] ∧ ∀ c ∈ text.toList, isBlank c = false) :
    words (join " " texts).toList = texts.map String.toList := by
  induction texts with
  | nil => rfl
  | cons text rest ih =>
    obtain ⟨some, unblank⟩ := plain text List.mem_cons_self
    have others := ih fun other member => plain other (List.mem_cons_of_mem text member)
    cases rest with
    | nil =>
      have alone := words_append some unblank [] rfl
      simpa [join, words] using alone
    | cons next more =>
      rw [toList_join_cons, words_append some unblank _ rfl, List.map_cons, ← others]
      rfl

theorem strip_of_unblank {text : List Char} (unblank : ∀ c ∈ text, isBlank c = false) :
    strip text = text := by
  have kept : ∀ other : List Char, (∀ c ∈ other, isBlank c = false) →
      other.dropWhile isBlank = other := by
    intro other plain
    cases other with
    | nil => rfl
    | cons c rest => exact List.dropWhile_cons_of_neg (by simp [plain c List.mem_cons_self])
  have backwards : ∀ c ∈ text.reverse, isBlank c = false := by
    intro c member
    exact unblank c (List.mem_reverse.mp member)
  rw [strip, stripOf, stripRightOf, kept text unblank, kept text.reverse backwards, List.reverse_reverse]

/-! ## At two characters in a row -/

/-- The stretches between the places where two characters stand in a row, taken from the left. -/
def splitAtPair (first second : Char) : List Char → List (List Char)
  | [] => [[]]
  | [c] => [[c]]
  | c :: d :: rest =>
    if c = first ∧ d = second then [] :: splitAtPair first second rest
    else growFirst c (splitAtPair first second (d :: rest))

section Pair
variable {first second : Char}

theorem splitAtPair_cons {c : Char} (other : c ≠ first) (rest : List Char) :
    splitAtPair first second (c :: rest) = growFirst c (splitAtPair first second rest) := by
  cases rest with
  | nil => rfl
  | cons d rest => rw [splitAtPair, if_neg fun pair => other pair.1]

/-- All of the second characters come before all of the first ones, so the two never stand in a row. -/
def IsUnpaired (first second : Char) (text : List Char) : Prop :=
  ∃ early late, text = early ++ late ∧ first ∉ early ∧ second ∉ late

theorem splitAtPair_late (distinct : first ≠ second) {late : List Char} (absent : second ∉ late) :
    splitAtPair first second late = [late] ∧ ∀ rest,
      splitAtPair first second (late ++ first :: second :: rest)
        = late :: splitAtPair first second rest := by
  induction late with
  | nil => exact ⟨rfl, fun rest => if_pos ⟨rfl, rfl⟩⟩
  | cons c others ih =>
    rw [List.mem_cons, not_or] at absent
    obtain ⟨alone, followed⟩ := ih absent.2
    cases others with
    | nil =>
      refine ⟨rfl, ?_⟩
      intro rest
      have apart : ¬ (c = first ∧ first = second) := fun pair => distinct pair.2
      rw [List.singleton_append, splitAtPair, if_neg apart, splitAtPair, if_pos ⟨rfl, rfl⟩, growFirst]
    | cons d more =>
      have apart : ¬ (c = first ∧ d = second) := by
        intro pair
        exact absent.2 (by simp [pair.2])
      constructor
      · rw [splitAtPair, if_neg apart, alone, growFirst]
      · intro rest
        rw [List.cons_append, List.cons_append, splitAtPair, if_neg apart, ← List.cons_append, followed,
          growFirst]

theorem splitAtPair_unpaired (distinct : first ≠ second) {text : List Char}
    (unpaired : IsUnpaired first second text) :
    splitAtPair first second text = [text] ∧ ∀ rest,
      splitAtPair first second (text ++ first :: second :: rest)
        = text :: splitAtPair first second rest := by
  obtain ⟨early, late, rfl, absent, plain⟩ := unpaired
  induction early with
  | nil => exact splitAtPair_late distinct plain
  | cons c others ih =>
    rw [List.mem_cons, not_or] at absent
    obtain ⟨alone, followed⟩ := ih absent.2
    constructor
    · rw [List.cons_append, splitAtPair_cons (Ne.symm absent.1), alone, growFirst]
    · intro rest
      rw [List.cons_append, List.cons_append, splitAtPair_cons (Ne.symm absent.1), followed, growFirst]

theorem splitAtPair_join (distinct : first ≠ second) (between : String)
    (pair : between.toList = [first, second]) (texts : List String) (some : texts ≠ [])
    (unpaired : ∀ text ∈ texts, IsUnpaired first second text.toList) :
    splitAtPair first second (join between texts).toList = texts.map String.toList := by
  induction texts with
  | nil => exact absurd rfl some
  | cons text rest ih =>
    obtain ⟨alone, followed⟩ := splitAtPair_unpaired distinct (unpaired text List.mem_cons_self)
    cases rest with
    | nil => simp [join, alone]
    | cons next more =>
      have others := ih (List.cons_ne_nil next more) fun other member =>
        unpaired other (List.mem_cons_of_mem text member)
      rw [toList_join_cons, pair, List.cons_append, List.singleton_append, followed, others]
      rfl

end Pair
end CronClock.Text
