import CronClock.Proofs.Piece
import CronClock.Proofs.SmallLetters

/-! # The grammar of a field's text

A field's text in which no letter stands for a bound is read token by token, up to the first star or
the first token that is ill formed within the bounds. `Expansion.ofField_exact` says what each text
comes to, and which token is to blame for an ill-formed one. -/
set_option autoImplicit false
namespace CronClock

open CronClock.Text (HasFewDigits lowercase strip)

theorem all_or_first {α : Type} (holds : α → Prop) (list : List α) : (∀ value ∈ list, holds value) ∨
    ∃ before value after, list = before ++ value :: after ∧ (∀ earlier ∈ before, holds earlier) ∧
      ¬ holds value := by
  induction list with
  | nil => exact .inl (by simp)
  | cons head rest ih =>
    by_cases first : holds head
    · rcases ih with all | ⟨before, value, after, rfl, earlier, odd⟩
      · exact .inl (List.forall_mem_cons.mpr ⟨first, all⟩)
      · exact .inr ⟨head :: before, value, after, rfl, List.forall_mem_cons.mpr ⟨first, earlier⟩, odd⟩
    · exact .inr ⟨[], head, rest, rfl, by simp, first⟩

def Bounds.values (bounds : Bounds) : Set Int := {value | bounds.holds value = true}

namespace Piece

/-- Some form of the token stands for numbers within the bounds. -/
def IsWellFormed (bounds : Bounds) (token : List Char) : Prop :=
  ∃ piece, Written token piece ∧ piece.IsAdmitted bounds

def ArePlain (bounds : Bounds) (tokens : List (List Char)) : Prop :=
  ∀ token ∈ tokens, IsWellFormed bounds token ∧ token ≠ ['*']

def IsStarred (bounds : Bounds) (tokens : List (List Char)) : Prop :=
  ∃ before after, tokens = before ++ ['*'] :: after ∧ ArePlain bounds before

def denoted (bounds : Bounds) (tokens : List (List Char)) : Set Int :=
  {value | ∃ token ∈ tokens, ∃ piece, Written token piece ∧ piece.Denotes bounds value}

theorem denoted_cons (bounds : Bounds) (token : List Char) (rest : List (List Char)) (value : Int) :
    value ∈ denoted bounds (token :: rest) ↔
      (∃ piece, Written token piece ∧ piece.Denotes bounds value) ∨ value ∈ denoted bounds rest := by
  simp [denoted]

theorem denoted_nonempty {bounds : Bounds} (inhabited : bounds.least ≤ bounds.greatest)
    {tokens : List (List Char)} (some : tokens ≠ []) (plain : ArePlain bounds tokens) :
    (denoted bounds tokens).Nonempty := by
  obtain ⟨token, member⟩ := List.exists_mem_of_ne_nil tokens some
  obtain ⟨⟨piece, written, admitted⟩, _⟩ := plain token member
  obtain ⟨value, denotes⟩ := exists_denotes inhabited admitted
  exact ⟨value, token, member, piece, written, denotes⟩

def IsUnaliased (text : List Char) : Prop := 'f' ∉ text ∧ 'F' ∉ text ∧ 'l' ∉ text ∧ 'L' ∉ text

theorem IsUnaliased.of_infix {text part : List Char} (unaliased : IsUnaliased text)
    (within : part <:+: text) : IsUnaliased part := by
  obtain ⟨small, capital, otherSmall, otherCapital⟩ := unaliased
  exact ⟨fun member => small (within.subset member), fun member => capital (within.subset member),
    fun member => otherSmall (within.subset member),
    fun member => otherCapital (within.subset member)⟩

theorem replaceLetter_of_not_mem {mark : Char} (number : Int) {token : List Char}
    (absent : mark ∉ token) : replaceLetter mark number token = token := by
  unfold replaceLetter
  induction token with
  | nil => rfl
  | cons c rest ih =>
    rw [List.mem_cons, not_or] at absent
    rw [List.flatMap_cons, if_neg (Ne.symm absent.1), ih absent.2, List.singleton_append]

theorem token_eq (bounds : Bounds) (text : List Char) (unaliased : IsUnaliased text) :
    token bounds text = lowercase (strip text) := by
  have within := (Text.strip_infix text).subset
  have first : 'f' ∉ lowercase (strip text) := by
    intro member
    rcases Text.mem_lowercase (.inl rfl) (strip text) member with small | capital
    · exact unaliased.1 (within small)
    · exact unaliased.2.1 (within capital)
  have last : 'l' ∉ lowercase (strip text) := by
    intro member
    rcases Text.mem_lowercase (.inr rfl) (strip text) member with small | capital
    · exact unaliased.2.2.1 (within small)
    · exact unaliased.2.2.2 (within capital)
  rw [token, replaceLetter_of_not_mem _ first, replaceLetter_of_not_mem _ last]

end Piece

namespace Expansion

/-- The tokens of a text, but for the letters that stand for bounds. -/
def tokens (text : String) : List (List Char) :=
  (Text.splitAt ',' text.toList).map fun piece => lowercase (strip piece)

theorem hasFewDigits_tokens {text : String} (few : HasFewDigits text.toList) :
    ∀ token ∈ tokens text, HasFewDigits token := by
  intro token member
  obtain ⟨piece, cut, rfl⟩ := List.mem_map.mp member
  have within := (Text.strip_infix piece).trans (Text.splitAt_infix ',' text.toList piece cut)
  exact Text.lowercase_hasFewDigits (few.of_infix within)

theorem map_token {text : String} (bounds : Bounds) (unaliased : Piece.IsUnaliased text.toList) :
    (Text.splitAt ',' text.toList).map (Piece.token bounds) = tokens text :=
  List.map_congr_left fun piece cut =>
    Piece.token_eq bounds piece (unaliased.of_infix (Text.splitAt_infix ',' text.toList piece cut))

/-! ## Collecting the numbers -/

section Collecting
variable {bounds : Bounds}

theorem collect_star (text : List Char) (rest : List (List Char))
    (star : Piece.token bounds text = ['*']) : collect bounds (text :: rest) = .ok none := by
  rw [collect, star]
  rfl

theorem collect_unread {fault : PieceFault} (text : List Char) (rest : List (List Char))
    (given : Piece.read (Piece.token bounds text) = .error fault) :
    collect bounds (text :: rest) = .error fault := by
  rw [collect, given]
  rfl

theorem collect_refused {piece : Piece} {fault : PieceFault} (text : List Char)
    (rest : List (List Char)) (read : Piece.read (Piece.token bounds text) = .ok piece)
    (given : piece.values bounds (Piece.token bounds text) = .error fault) :
    collect bounds (text :: rest) = .error fault := by
  rw [collect, read]
  cases piece with
  | star => cases given
  | _ => simp [bind, Except.bind, given]

theorem collect_plain {piece : Piece} {numbers : List Int} (text : List Char)
    (rest : List (List Char)) (read : Piece.read (Piece.token bounds text) = .ok piece)
    (starless : piece ≠ .star) (given : piece.values bounds (Piece.token bounds text) = .ok numbers) :
    collect bounds (text :: rest) = (collect bounds rest).map (Option.map (numbers ++ ·)) := by
  rw [collect, read]
  cases piece with
  | star => exact absurd rfl starless
  | _ => cases collect bounds rest <;> simp [bind, Except.bind, given, pure, Except.pure, Except.map]

theorem collect_append (before : List (List Char))
    (few : ∀ token ∈ before.map (Piece.token bounds), HasFewDigits token)
    (plain : Piece.ArePlain bounds (before.map (Piece.token bounds))) :
    ∃ numbers, (∀ value, value ∈ numbers ↔
        value ∈ Piece.denoted bounds (before.map (Piece.token bounds))) ∧
      ∀ after, collect bounds (before ++ after)
        = (collect bounds after).map (Option.map (numbers ++ ·)) := by
  induction before with
  | nil =>
    refine ⟨[], by simp [Piece.denoted], fun after => ?_⟩
    cases found : collect bounds after with
    | error fault => simp [found, Except.map]
    | ok numbers => simp [found, Except.map]
  | cons text rest ih =>
    rw [List.map_cons, List.forall_mem_cons] at few
    rw [List.map_cons, Piece.ArePlain, List.forall_mem_cons] at plain
    obtain ⟨⟨⟨piece, written, admitted⟩, starless⟩, others⟩ := plain
    obtain ⟨more, same, following⟩ := ih few.2 others
    obtain ⟨numbers, given, denotes⟩ :=
      Piece.values_of_isAdmitted admitted (Piece.token bounds text)
    have unstarred : piece ≠ .star := by
      rintro rfl
      generalize Piece.token bounds text = token at written starless
      cases written
      exact starless rfl
    refine ⟨numbers ++ more, ?_, ?_⟩
    · intro value
      rw [List.map_cons, Piece.denoted_cons, List.mem_append, same, denotes]
      refine or_congr_left ⟨fun held => ⟨piece, written, held⟩, ?_⟩
      rintro ⟨other, also, held⟩
      rwa [written.unique few.1 also]
    · intro after
      rw [List.cons_append, collect_plain text _ (Piece.read_written few.1 written) unstarred given,
        following]
      cases collect bounds after with
      | error fault => rfl
      | ok numbers? => cases numbers? <;> simp [Except.map]

theorem exists_blamed (text : List Char) (few : HasFewDigits (Piece.token bounds text))
    (illFormed : ¬ Piece.IsWellFormed bounds (Piece.token bounds text)) :
    ∃ fault, Piece.Blamed bounds (Piece.token bounds text) fault ∧
      ∀ rest, collect bounds (text :: rest) = .error fault := by
  cases read : Piece.read (Piece.token bounds text) with
  | error fault =>
    refine ⟨fault, .unread fault (fun piece written => ?_) (Piece.read_eq_error few read),
      fun rest => collect_unread text rest read⟩
    rw [Piece.read_written few written] at read
    cases read
  | ok piece =>
    have written := Piece.written_of_read read
    have refused : ¬ piece.IsAdmitted bounds := fun admitted => illFormed ⟨piece, written, admitted⟩
    obtain ⟨fault, given, blamed⟩ := Piece.values_of_not_isAdmitted written refused
    exact ⟨fault, blamed, fun rest => collect_refused text rest read given⟩

section Texts
variable {texts : List (List Char)}
  (few : ∀ token ∈ texts.map (Piece.token bounds), HasFewDigits token)
include few

theorem collect_starred (starred : Piece.IsStarred bounds (texts.map (Piece.token bounds))) :
    collect bounds texts = .ok none := by
  obtain ⟨_, _, cut, plain⟩ := starred
  obtain ⟨before, following, rfl, rfl, rest⟩ := List.map_eq_append_iff.mp cut
  obtain ⟨text, after, rfl, star, rfl⟩ := List.map_eq_cons_iff.mp rest
  have beforeFew : ∀ token ∈ before.map (Piece.token bounds), HasFewDigits token :=
    fun token member => few token (by simp_all)
  obtain ⟨numbers, _, collected⟩ := collect_append before beforeFew plain
  rw [collected, collect_star text after star]
  rfl

theorem collect_plain_tokens (plain : Piece.ArePlain bounds (texts.map (Piece.token bounds))) :
    ∃ numbers, collect bounds texts = .ok (some numbers) ∧
      {value | value ∈ numbers} = Piece.denoted bounds (texts.map (Piece.token bounds)) := by
  obtain ⟨numbers, same, collected⟩ := collect_append texts few plain
  refine ⟨numbers, ?_, Set.ext same⟩
  have whole := collected []
  rw [List.append_nil] at whole
  simp [whole, collect, Except.map]

theorem collect_blamed (starless : ¬ Piece.IsStarred bounds (texts.map (Piece.token bounds)))
    (illFormed : ¬ Piece.ArePlain bounds (texts.map (Piece.token bounds))) :
    ∃ before token after, texts.map (Piece.token bounds) = before ++ token :: after ∧
      Piece.ArePlain bounds before ∧ ¬ Piece.IsWellFormed bounds token ∧
      ∃ fault, Piece.Blamed bounds token fault ∧ collect bounds texts = .error fault := by
  obtain ⟨_, _, _, cut, plain, odd⟩ :=
    (all_or_first (fun token => Piece.IsWellFormed bounds token ∧ token ≠ ['*'])
      (texts.map (Piece.token bounds))).resolve_left illFormed
  have wanting : ¬ Piece.IsWellFormed bounds _ := fun wellFormed => odd ⟨wellFormed, fun star =>
    starless ⟨_, _, star ▸ cut, plain⟩⟩
  refine ⟨_, _, _, cut, plain, wanting, ?_⟩
  obtain ⟨before, following, rfl, rfl, rest⟩ := List.map_eq_append_iff.mp cut
  obtain ⟨text, after, rfl, rfl, rfl⟩ := List.map_eq_cons_iff.mp rest
  have beforeFew : ∀ token ∈ before.map (Piece.token bounds), HasFewDigits token :=
    fun token member => few token (by simp_all)
  obtain ⟨fault, blamed, faulty⟩ := exists_blamed text (few _ (by simp)) wanting
  obtain ⟨numbers, _, collected⟩ := collect_append before beforeFew plain
  refine ⟨fault, blamed, ?_⟩
  rw [collected, faulty]
  rfl

end Texts

end Collecting

/-! ## Whole texts -/

theorem ofValues_eq_every_iff (bounds : Bounds) (inhabited : bounds.least ≤ bounds.greatest)
    (numbers : List Int) (within : ∀ number ∈ numbers, bounds.holds number = true) :
    ofValues bounds numbers = .every ↔ {value | value ∈ numbers} = bounds.values := by
  constructor
  · intro full
    refine Set.ext fun value => ⟨within value, fun held => ?_⟩
    rw [Set.mem_ofPred_eq, ← ofValues_admits bounds numbers within value held, full]
    rfl
  · intro full
    have members : (ValueSet.ofList numbers).toList.toFinset
        = Finset.Icc bounds.least bounds.greatest := by
      ext value
      rw [List.mem_toFinset, ValueSet.mem_toList, ValueSet.mem_ofList, Finset.mem_Icc,
        ← bounds.holds_iff]
      exact Set.ext_iff.mp full value
    have distinct : (ValueSet.ofList numbers).toList.Nodup :=
      (ValueSet.ofList numbers).ascending.imp Int.ne_of_lt
    have counted := List.toFinset_card_of_nodup distinct
    rw [members, Int.card_Icc] at counted
    have spanned : ((ValueSet.ofList numbers).size : Int) = bounds.size := by
      simp only [ValueSet.size, Bounds.size]
      omega
    simp [ofValues, spanned]

theorem ofValues_eq_only {bounds : Bounds} {numbers : List Int}
    (constrained : ofValues bounds numbers ≠ .every) :
    ofValues bounds numbers = .only (ValueSet.ofList numbers) :=
  if_neg fun full => constrained (if_pos full)

theorem ofField_of_collect (field : Field) (text : String) (numbers? : Option (List Int))
    (collected : collect field.bounds (Text.splitAt ',' text.toList) = .ok numbers?) :
    ofField field text = .ok (numbers?.elim .every (ofValues field.bounds)) := by
  rw [ofField, within?_field, collected]
  rfl

theorem ofField_of_fault (field : Field) (text : String) (fault : PieceFault)
    (collected : collect field.bounds (Text.splitAt ',' text.toList) = .error fault) :
    ofField field text = .error ⟨fault, text, some field⟩ := by
  rw [ofField, within?_field, collected]
  rfl

/-- What a field's text comes to: every value if a star comes before any ill-formed token; what all
tokens denote if none is ill formed, which is every value if it fills the bounds; or else the fault of
the first token that is ill formed. -/
theorem ofField_exact (field : Field) (text : String) (unaliased : Piece.IsUnaliased text.toList)
    (few : HasFewDigits text.toList) :
    (Piece.IsStarred field.bounds (tokens text) → ofField field text = .ok .every) ∧
    (Piece.ArePlain field.bounds (tokens text) →
      (Piece.denoted field.bounds (tokens text) = field.bounds.values →
        ofField field text = .ok .every) ∧
      (Piece.denoted field.bounds (tokens text) ≠ field.bounds.values →
        ∃ values, ofField field text = .ok (.only values) ∧
          (∀ value, value ∈ values ↔ value ∈ Piece.denoted field.bounds (tokens text)) ∧
          (∃ value, value ∈ values) ∧ (∀ value ∈ values, value ∈ field.bounds.values) ∧
          ∃ value ∈ field.bounds.values, value ∉ values)) ∧
    (¬ Piece.IsStarred field.bounds (tokens text) → ¬ Piece.ArePlain field.bounds (tokens text) →
      ∃ before token after, tokens text = before ++ token :: after ∧
        Piece.ArePlain field.bounds before ∧ ¬ Piece.IsWellFormed field.bounds token ∧
        ∃ fault, ofField field text = .error ⟨fault, text, some field⟩ ∧
          Piece.Blamed field.bounds token fault ∧
          (fault.IsEmptySpan ↔ ∃ low high, Piece.Written token (.span low high))) := by
  have inhabited : field.bounds.least ≤ field.bounds.greatest := by cases field <;> decide
  have cut := map_token field.bounds unaliased
  have tokenFew := hasFewDigits_tokens few
  refine ⟨fun starred => ?_, fun plain => ?_, fun starless illFormed => ?_⟩
  · rw [← cut] at tokenFew starred
    exact ofField_of_collect field text none (collect_starred tokenFew starred)
  · rw [← cut] at tokenFew
    obtain ⟨numbers, collected, same⟩ := collect_plain_tokens tokenFew (cut ▸ plain)
    rw [cut] at same
    have expanded := ofField_of_collect field text (some numbers) collected
    have within := collect_holds field.bounds inhabited _ numbers collected
    have full := ofValues_eq_every_iff field.bounds inhabited numbers within
    rw [same] at full
    refine ⟨fun whole => ?_, fun proper => ?_⟩
    · rw [expanded, Option.elim_some, full.mpr whole]
    · have members : ∀ value, value ∈ ValueSet.ofList numbers ↔
          value ∈ Piece.denoted field.bounds (tokens text) := by
        intro value
        rw [ValueSet.mem_ofList, ← same, Set.mem_ofPred_eq]
      have bounded : ∀ value ∈ ValueSet.ofList numbers, value ∈ field.bounds.values := by
        intro value member
        exact within value ((ValueSet.mem_ofList value numbers).mp member)
      obtain ⟨one, denoted⟩ := Piece.denoted_nonempty inhabited (by simp [tokens]) plain
      obtain ⟨other, held, missed⟩ := Set.not_subset.mp fun whole : field.bounds.values ⊆ _ =>
        proper (Set.Subset.antisymm (fun value inside => bounded value ((members value).mpr inside)) whole)
      refine ⟨ValueSet.ofList numbers, ?_, members, ⟨one, (members one).mpr denoted⟩, bounded, other,
        held, mt (members other).mp missed⟩
      rw [expanded, Option.elim_some, ofValues_eq_only (mt full.mp proper)]
  · rw [← cut] at tokenFew starless illFormed ⊢
    obtain ⟨before, token, after, parts, plain, refused, fault, blamed, collected⟩ :=
      collect_blamed tokenFew starless illFormed
    have tokenFew := tokenFew token (by simp [parts])
    exact ⟨before, token, after, parts, plain, refused, fault,
      ofField_of_fault field text fault collected, blamed, blamed.isEmptySpan_iff tokenFew⟩

theorem ofField_exact_signedSpan :
    Piece.IsUnaliased "-5-3, 20/2".toList ∧ HasFewDigits "-5-3, 20/2".toList ∧
      tokens "-5-3, 20/2" = ["-5-3".toList, "20/2".toList] ∧
      Piece.ArePlain Field.hour.bounds (tokens "-5-3, 20/2") ∧
      ∃ values, ofField .hour "-5-3, 20/2" = .ok (.only values) ∧
        values.toList = [0, 1, 2, 3, 20, 22] ∧
        ∀ value, value ∈ values ↔
          value ∈ Piece.denoted Field.hour.bounds (tokens "-5-3, 20/2") := by
  have unaliased : Piece.IsUnaliased "-5-3, 20/2".toList := by
    refine ⟨?_, ?_, ?_, ?_⟩ <;> decide
  have few : HasFewDigits "-5-3, 20/2".toList := fun digits inside _ =>
    inside.length_le.trans (by decide)
  have cut : tokens "-5-3, 20/2" = ["-5-3".toList, "20/2".toList] := by decide
  have span : Piece.read "-5-3".toList = .ok (.span (-5) 3) := by rfl
  have steps : Piece.read "20/2".toList = .ok (.steps 20 2) := by rfl
  have expanded : ∃ values, ofField .hour "-5-3, 20/2" = .ok (.only values) ∧
      values.toList = [0, 1, 2, 3, 20, 22] := ⟨_, rfl, rfl⟩
  have plain : Piece.ArePlain Field.hour.bounds (tokens "-5-3, 20/2") := by
    rw [cut]
    intro token member
    rcases List.mem_pair.mp member with rfl | rfl
    · exact ⟨⟨_, Piece.written_of_read span, by decide⟩, by decide⟩
    · exact ⟨⟨_, Piece.written_of_read steps, by decide⟩, by decide⟩
  obtain ⟨values, given, listed⟩ := expanded
  refine ⟨unaliased, few, cut, plain, values, given, listed, ?_⟩
  obtain ⟨full, constrained⟩ := (ofField_exact .hour "-5-3, 20/2" unaliased few).2.1 plain
  obtain ⟨others, also, same, _⟩ := constrained fun whole => by
    rw [given] at full
    cases full whole
  cases given.symm.trans also
  exact same

end Expansion

end CronClock
