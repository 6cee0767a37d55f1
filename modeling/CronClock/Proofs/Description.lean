import CronClock.Proofs.Compression

/-! # Descriptions read back

A description has one part for each field, with a comma and a blank between each two. Each part names
its field and says `every` or lists the field's values as the field grammar reads them. What the parts
say, put together again, is an expression with the described expansions,
`Description.expandText_of_isProper`: an expansion never comes out empty or with all values of its field
listed, `Expansion.ofField_isProper`, and no comma inside a part has a blank after it. So descriptions
tell expansions apart. -/
set_option autoImplicit false
namespace CronClock

open CronClock.Text (Numeral splitAt splitAtPair)

/-! ## What an expansion comes to -/

theorem Piece.values_ne_nil {bounds : Bounds} (inhabited : bounds.least ≤ bounds.greatest)
    {token : List Char} {piece : Piece} (written : Written token piece) {numbers : List Int}
    (given : piece.values bounds token = .ok numbers) : numbers ≠ [] := by
  by_cases admitted : piece.IsAdmitted bounds
  · obtain ⟨others, also, denotes⟩ := values_of_isAdmitted admitted token
    cases given.symm.trans also
    obtain ⟨value, denoted⟩ := exists_denotes inhabited admitted
    exact List.ne_nil_of_mem ((denotes value).mpr denoted)
  · obtain ⟨fault, failed, _⟩ := values_of_not_isAdmitted written admitted
    cases given.symm.trans failed

namespace Expansion

theorem collect_ne_nil {bounds : Bounds} (inhabited : bounds.least ≤ bounds.greatest)
    {texts : List (List Char)} (nonempty : texts ≠ []) {numbers : List Int}
    (collected : collect bounds texts = .ok (some numbers)) : numbers ≠ [] := by
  cases texts with
  | nil => exact absurd rfl nonempty
  | cons text rest =>
    obtain ⟨piece, read, ours, given, others, _, whole⟩ := collect_cons_eq_some collected
    have some := Piece.values_ne_nil inhabited (Piece.written_of_read read) given
    rw [← whole]
    exact List.append_ne_nil_of_left_ne_nil some others

/-- The expansion lists nothing, or some values of the bounds and not all of them. -/
def IsProper (bounds : Bounds) : Expansion → Prop
  | every => True
  | only values => values.toList ≠ [] ∧ (∀ value ∈ values, bounds.holds value = true) ∧
      ∃ value, bounds.holds value = true ∧ value ∉ values

theorem ofField_isProper {field : Field} {text : String} {expansion : Expansion}
    (expanded : ofField field text = .ok expansion) : expansion.IsProper field.bounds := by
  cases expansion with
  | every => trivial
  | only values =>
    have inhabited := field.least_le_greatest
    have inside := ofField_holds field text values expanded
    rw [ofField, mapError_eq_ok, within?_field, map_eq_ok] at expanded
    obtain ⟨numbers?, collected, expanded⟩ := expanded
    cases numbers? with
    | none => cases expanded
    | some numbers =>
      have within := collect_holds field.bounds inhabited _ numbers collected
      have constrained : ofValues field.bounds numbers ≠ .every := by
        intro full
        rw [Option.elim_some, full] at expanded
        cases expanded
      rw [Option.elim_some, ofValues_eq_only constrained] at expanded
      cases expanded
      have some := collect_ne_nil inhabited (Text.splitAt_ne_nil ',' text.toList) collected
      refine ⟨?_, inside, ?_⟩
      · obtain ⟨number, member⟩ := List.exists_mem_of_ne_nil numbers some
        exact List.ne_nil_of_mem ((ValueSet.mem_ofList number numbers).mpr member)
      · by_contra none
        apply constrained
        rw [ofValues_eq_every_iff field.bounds inhabited numbers within]
        ext value
        constructor
        · intro member
          exact within value member
        · intro held
          by_contra absent
          exact none ⟨value, held, fun member => absent ((ValueSet.mem_ofList value numbers).mp member)⟩

end Expansion

/-! ## Parts and their fields -/

namespace Description

def writtenAs : Expansion → String
  | .every => "*"
  | .only values => compress values.toList

def parts (description : String) : List (List Char) := splitAtPair ',' ' ' description.toList

def fieldText? (field : Field) (part : List Char) : Option String :=
  if part = ("every " ++ field.title).toList then some "*"
  else (part.dropPrefix? (field.title ++ " ").toList).map String.ofList

/-- The expression that a description of five parts describes. -/
def expressionText? (description : String) : Option String :=
  match parts description with
  | [second, minute, hour, day, month] => do
    let secondText ← fieldText? .second second
    let minuteText ← fieldText? .minute minute
    let hourText ← fieldText? .hour hour
    let dayText ← fieldText? .day day
    let monthText ← fieldText? .month month
    return Expression.toText ⟨secondText, minuteText, hourText, dayText, monthText⟩
  | _ => none

theorem mem_join {c : Char} (between : String) (texts : List String)
    (member : c ∈ (Text.join between texts).toList) :
    c ∈ between.toList ∨ ∃ text ∈ texts, c ∈ text.toList := by
  induction texts with
  | nil => simp [Text.join] at member
  | cons text rest ih =>
    cases rest with
    | nil => exact .inr ⟨text, List.mem_cons_self, by simpa [Text.join] using member⟩
    | cons next more =>
      rw [Text.toList_join_cons, List.mem_append, List.mem_append] at member
      rcases member with own | separator | others
      · exact .inr ⟨text, List.mem_cons_self, own⟩
      · exact .inl separator
      · rcases ih others with separator | ⟨other, listed, inside⟩
        · exact .inl separator
        · exact .inr ⟨other, List.mem_cons_of_mem text listed, inside⟩

theorem isPlain_compress (numbers : List Int) :
    ∀ c ∈ (compress numbers).toList, Text.IsPlain c ∨ c = ',' := by
  have number : ∀ (value : Int) (c : Char), c ∈ (toString value).toList → Text.IsPlain c := by
    intro value c member
    rw [← Numeral.text_ofInt] at member
    exact Numeral.isPlain_ofInt value c member
  have comma : ∀ c, c ∈ ",".toList → c = ',' := by simp
  intro c member
  rcases mem_join "," _ member with separator | ⟨text, listed, inside⟩
  · exact .inr (comma c separator)
  · obtain ⟨run, _, rfl⟩ := List.mem_map.mp listed
    unfold runText at inside
    split at inside
    · next first last _ _ =>
      split at inside
      · rw [String.toList_append, String.toList_append, List.mem_append, List.mem_append] at inside
        rcases inside with (low | dash) | high
        · exact .inl (number first c low)
        · exact .inl (.inl (by simpa using dash))
        · exact .inl (number last c high)
      · rcases mem_join "," _ inside with separator | ⟨text, listed, inside⟩
        · exact .inr (comma c separator)
        · obtain ⟨value, _, rfl⟩ := List.mem_map.mp listed
          exact .inl (number value c inside)
    · simp at inside

theorem unblank_compress (numbers : List Int) :
    ∀ c ∈ (compress numbers).toList, Text.isBlank c = false := by
  intro c member
  rcases isPlain_compress numbers c member with plain | rfl
  · exact plain.spec.2
  · decide

/-- In no part a blank follows a comma. -/
theorem isUnpaired_ofExpansion (field : Field) (expansion : Expansion) :
    Text.IsUnpaired ',' ' ' (ofExpansion field expansion).toList := by
  cases expansion with
  | every =>
    refine ⟨("every " ++ field.title).toList, [], (List.append_nil _).symm, ?_, by simp⟩
    cases field <;> decide
  | only values =>
    refine ⟨(field.title ++ " ").toList, (compress values.toList).toList, String.toList_append, ?_, ?_⟩
    · cases field <;> decide
    · intro member
      exact absurd (unblank_compress values.toList ' ' member) (by decide)

theorem parts_ofExpansions (expansions : Expansions) : parts (ofExpansions expansions)
    = Field.all.map fun field => (ofExpansion field (expansions.get field)).toList := by
  have distinct : ',' ≠ ' ' := by decide
  have cut := Text.splitAtPair_join distinct ", " rfl
    (Field.all.map fun field => ofExpansion field (expansions.get field)) (by simp [Field.all]) (by
      intro text listed
      obtain ⟨field, _, rfl⟩ := List.mem_map.mp listed
      exact isUnpaired_ofExpansion field (expansions.get field))
  rw [parts, ofExpansions, cut, List.map_map]
  rfl

theorem fieldText?_ofExpansion (field : Field) (expansion : Expansion) :
    fieldText? field (ofExpansion field expansion).toList = some (writtenAs expansion) := by
  cases expansion with
  | every => exact if_pos rfl
  | only values =>
    have titled : (ofExpansion field (.only values)).toList
        = (field.title ++ " ").toList ++ (compress values.toList).toList := String.toList_append
    have unlike : (ofExpansion field (.only values)).toList ≠ ("every " ++ field.title).toList := by
      intro same
      have heads := congrArg List.head? (titled.symm.trans same)
      cases field <;> simp [Field.title] at heads
    rw [fieldText?, if_neg unlike, titled,
      List.dropPrefix?_eq_some_iff.mpr ⟨_, rfl, by simp⟩, Option.map_some, String.ofList_toList]
    rfl

/-- Put together again, the parts of a description are the expression of what it describes. -/
theorem expressionText?_ofExpansions (expansions : Expansions) :
    expressionText? (ofExpansions expansions) = some (Expression.toText (expansions.map writtenAs)) := by
  rw [expressionText?, parts_ofExpansions]
  simp only [Field.all, List.map_cons, List.map_nil, fieldText?_ofExpansion]
  rfl

end Description

/-! ## Reading an expression back -/

namespace Expression

theorem ofText?_toText (expression : Expression) (plain : ∀ field,
      (expression.get field).toList ≠ [] ∧ ∀ c ∈ (expression.get field).toList, Text.isBlank c = false) :
    ofText? expression.toText = .ok expression := by
  have each : ∀ text ∈ expression.toList,
      text.toList ≠ [] ∧ ∀ c ∈ text.toList, Text.isBlank c = false := by
    intro text listed
    have fields : expression.toList = Field.all.map expression.get := rfl
    rw [fields] at listed
    obtain ⟨field, _, rfl⟩ := List.mem_map.mp listed
    exact plain field
  rw [ofText?, toText, Text.words_join _ each]
  simp only [PerField.toList, List.map_cons, List.map_nil, String.ofList_toList]

theorem expand_of_fields (expression : Expression) (expansions : Expansions)
    (each : ∀ field, Expansion.ofField field (expression.get field) = .ok (expansions.get field)) :
    expression.expand = .ok expansions := by
  have expanded : ∀ field, expression.expandField field = .ok (expansions.get field) := by
    intro field
    rw [expandField, each]
    rfl
  simp only [expand, expanded, bind, Except.bind]
  rfl

end Expression

theorem judge_eq_true_iff (text : String) :
    judge text = .ok true ↔ ∃ expansions, expandText text = .ok expansions := by
  unfold judge
  cases expandText text with
  | ok expansions => simp
  | error fault =>
    simp only [reduceCtorEq, exists_false, iff_false]
    split
    · simp
    · simp

namespace Description

theorem ofField_writtenAs (field : Field) (expansion : Expansion)
    (proper : expansion.IsProper field.bounds) :
    Expansion.ofField field (writtenAs expansion) = .ok expansion := by
  cases expansion with
  | every => cases field <;> rfl
  | only values =>
    obtain ⟨nonempty, inside, missing⟩ := proper
    obtain ⟨least, greatest⟩ := field.isWritable_bounds
    have compressed := Expansion.within?_compress least greatest values nonempty inside missing
    rw [Expansion.ofField, writtenAs, compressed]
    rfl

theorem writtenAs_isWord (field : Field) (expansion : Expansion)
    (proper : expansion.IsProper field.bounds) :
    (writtenAs expansion).toList ≠ [] ∧ ∀ c ∈ (writtenAs expansion).toList, Text.isBlank c = false := by
  constructor
  · intro none
    have empty : writtenAs expansion = "" := String.toList_inj.mp none
    have expanded := ofField_writtenAs field expansion proper
    rw [empty] at expanded
    cases field <;> cases expanded
  · cases expansion with
    | every => simpa [writtenAs] using (by decide : Text.isBlank '*' = false)
    | only values => exact unblank_compress values.toList

/-- The expression that a description describes expands to what was described. -/
theorem expandText_of_isProper (expansions : Expansions)
    (proper : ∀ field, (expansions.get field).IsProper field.bounds) :
    expandText (Expression.toText (expansions.map writtenAs)) = .ok expansions := by
  have texts : ∀ field, (expansions.map writtenAs).get field = writtenAs (expansions.get field) := by
    intro field
    rw [PerField.map, PerField.get_ofFunction]
  have read := Expression.ofText?_toText (expansions.map writtenAs) (by
    intro field
    rw [texts]
    exact writtenAs_isWord field _ (proper field))
  have expanded := Expression.expand_of_fields (expansions.map writtenAs) expansions (by
    intro field
    rw [texts]
    exact ofField_writtenAs field _ (proper field))
  rw [expandText, read]
  exact expanded

theorem isProper_of_expandText {text : String} {expansions : Expansions}
    (expanded : expandText text = .ok expansions) (field : Field) :
    (expansions.get field).IsProper field.bounds := by
  rw [expandText, bind_eq_ok] at expanded
  obtain ⟨expression, _, expanded⟩ := expanded
  exact Expansion.ofField_isProper (expression.expand_eq_ok expansions expanded field)

theorem ofExpansions_injective {expansions others : Expansions}
    (proper : ∀ field, (expansions.get field).IsProper field.bounds)
    (otherProper : ∀ field, (others.get field).IsProper field.bounds)
    (same : ofExpansions expansions = ofExpansions others) : expansions = others := by
  have written := expressionText?_ofExpansions expansions
  rw [same, expressionText?_ofExpansions others] at written
  have expanded := expandText_of_isProper expansions proper
  rw [← Option.some.inj written, expandText_of_isProper others otherProper] at expanded
  exact (Except.ok.inj expanded).symm

theorem ofText_of_expandText {text : String} {expansions : Expansions}
    (expanded : expandText text = .ok expansions) : ofText text = .ok (ofExpansions expansions) := by
  rw [ofText, expanded]

/-- A set with some values but not all comes back from its compressed text exactly if the bounds have no
more digits than are ever written. -/
theorem withinBounds_compress_iff (bounds : Bounds) (values : ValueSet) (nonempty : values.toList ≠ [])
    (inside : ∀ value ∈ values, bounds.holds value = true)
    (proper : ∃ value, bounds.holds value = true ∧ value ∉ values) :
    Expansion.withinBounds bounds (compress values.toList) = .ok (.only values) ↔
      Numeral.isWritable bounds.least = true ∧ Numeral.isWritable bounds.greatest = true := by
  rw [Expansion.withinBounds, mapError_eq_ok]
  constructor
  · intro expanded
    rw [← Bool.and_eq_true]
    by_contra unwritable
    rw [Expansion.within?, if_neg unwritable] at expanded
    cases expanded
  · intro writable
    exact Expansion.within?_compress writable.1 writable.2 values nonempty inside proper

/-- What a description says is read back from it. Within bounds of no more digits than are ever written,
and only within those, a set with some values but not all is what its compressed text expands to. The
description of a valid text has five parts; the expression that they describe expands to what the text
does; and so two valid texts have the same description exactly if they have the same expansions. -/
theorem readsBack :
    (∀ bounds values, values.toList ≠ [] → (∀ value ∈ values, bounds.holds value = true) →
      (∃ value, bounds.holds value = true ∧ value ∉ values) →
      (Expansion.withinBounds bounds (compress values.toList) = .ok (.only values) ↔
        Numeral.isWritable bounds.least = true ∧ Numeral.isWritable bounds.greatest = true)) ∧
    (∀ text, judge text = .ok true → ∃ description expression expansions,
      ofText text = .ok description ∧ (parts description).length = 5 ∧
      expressionText? description = some expression ∧ expandText text = .ok expansions ∧
      expandText expression = .ok expansions) ∧
    ∀ text other, judge text = .ok true → judge other = .ok true →
      (ofText text = ofText other ↔ expandText text = expandText other) := by
  refine ⟨?_, ?_, ?_⟩
  · exact withinBounds_compress_iff
  · intro text valid
    obtain ⟨expansions, expanded⟩ := (judge_eq_true_iff text).mp valid
    have proper := isProper_of_expandText expanded
    refine ⟨ofExpansions expansions, Expression.toText (expansions.map writtenAs), expansions,
      ofText_of_expandText expanded, ?_, expressionText?_ofExpansions expansions, expanded,
      expandText_of_isProper expansions proper⟩
    rw [parts_ofExpansions]
    rfl
  · intro text other valid otherValid
    obtain ⟨expansions, expanded⟩ := (judge_eq_true_iff text).mp valid
    obtain ⟨others, otherExpanded⟩ := (judge_eq_true_iff other).mp otherValid
    rw [ofText_of_expandText expanded, ofText_of_expandText otherExpanded, expanded, otherExpanded,
      Except.ok.injEq, Except.ok.injEq]
    constructor
    · intro same
      exact ofExpansions_injective (isProper_of_expandText expanded)
        (isProper_of_expandText otherExpanded) same
    · intro same
      rw [same]

/-- A run from below zero to above it, and two numbers that are no run. -/
theorem readsBack_acrossZero :
    compress (ValueSet.ofList [-3, -2, -1, 0, 1, 5, 6]).toList = "-3-1,5,6" ∧
      Expansion.withinBounds ⟨-10, 10⟩ "-3-1,5,6"
        = .ok (.only (.ofList [-3, -2, -1, 0, 1, 5, 6])) := by
  have compressed : compress (ValueSet.ofList [-3, -2, -1, 0, 1, 5, 6]).toList = "-3-1,5,6" := by
    decide +kernel
  have inside : ∀ value ∈ [-3, -2, -1, 0, 1, 5, 6], Bounds.holds ⟨-10, 10⟩ value = true := by decide
  have nonempty : (ValueSet.ofList [-3, -2, -1, 0, 1, 5, 6]).toList ≠ [] := by decide
  refine ⟨compressed, ?_⟩
  rw [← compressed]
  apply (readsBack.1 ⟨-10, 10⟩ _ nonempty ?_ ⟨10, by decide, by decide⟩).mpr
  · exact ⟨by decide, by decide⟩
  · intro value member
    exact inside value ((ValueSet.mem_ofList value _).mp member)

/-- One of the values up to the least number with too many digits. The bounds are written out in place
of their letters before the text is read, and cannot be. -/
theorem unread_withinLongBounds :
    Bounds.holds ⟨0, 10 ^ Numeral.longest⟩ 1 = true ∧ Bounds.holds ⟨0, 10 ^ Numeral.longest⟩ 0 = true ∧
      compress (ValueSet.ofList [1]).toList = "1" ∧
      Expansion.withinBounds ⟨0, 10 ^ Numeral.longest⟩ "1" = .error ⟨.digitCount, "1", none⟩ :=
  ⟨by decide +kernel, by decide +kernel, by decide +kernel, by decide +kernel⟩

end Description
end CronClock
