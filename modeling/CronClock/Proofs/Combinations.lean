import CronClock.Proofs.Budget
import CronClock.Proofs.Success
import CronClock.Schedule
import Mathlib.Data.Int.Interval

/-! # From a schedule's text to its candidates

The numbers of an expansion lie in the bounds of its field. Together the candidates of a schedule agree
with a wall time exactly if every field's expansion admits what the wall time shows in it,
`Candidate.exists_agrees_iff`; leaving out impossible candidates changes nothing about that. -/
set_option autoImplicit false
namespace CronClock

/-! ## The numbers of an expansion -/

namespace Piece

theorem mem_progression (first last step number : Int) (positive : 0 < step)
    (member : number ∈ progression first last step) : first ≤ number ∧ number ≤ last := by
  obtain ⟨index, within, same⟩ := List.mem_map.mp member
  rw [List.mem_range] at within
  have fits : (index : Int) ≤ (last - first) / step := by omega
  have reached : step * (index : Int) ≤ last - first :=
    Int.le_trans (Int.mul_le_mul_of_nonneg_left fits (Int.le_of_lt positive))
      (Int.mul_ediv_self_le (Int.ne_of_gt positive))
  have nonnegative : 0 ≤ step * (index : Int) :=
    Int.mul_nonneg (Int.le_of_lt positive) (Int.natCast_nonneg index)
  omega

theorem values_holds (bounds : Bounds) (inhabited : bounds.least ≤ bounds.greatest)
    (token : List Char) (piece : Piece) (numbers : List Int)
    (given : piece.values bounds token = .ok numbers) :
    ∀ number ∈ numbers, bounds.holds number = true := by
  have clamped : ∀ number, bounds.least ≤ bounds.clamp number ∧
      bounds.clamp number ≤ bounds.greatest := fun number =>
    ⟨bounds.least_le_clamp number, bounds.clamp_le_greatest number inhabited⟩
  intro number member
  rw [Bounds.holds_iff]
  cases piece with
  | star =>
    cases given
    exact mem_progression _ _ _ number (by decide) member
  | single only =>
    cases given
    rw [List.mem_singleton.mp member]
    exact clamped only
  | span low high =>
    simp only [values] at given
    split at given
    · simp at given
    · cases given
      have between := mem_progression _ _ _ number (by decide) member
      exact ⟨Int.le_trans (clamped low).1 between.1, Int.le_trans between.2 (clamped high).2⟩
  | steps start step =>
    simp only [values] at given
    split at given
    · simp at given
    · next positive =>
      cases given
      have between := mem_progression _ _ _ number (Int.not_le.mp positive) member
      exact ⟨Int.le_trans (clamped start).1 between.1, between.2⟩

end Piece

theorem Field.bounds_span (field : Field) :
    0 ≤ field.bounds.least ∧ field.bounds.least ≤ 1 ∧ 1 ≤ field.bounds.greatest := by
  cases field <;> decide

theorem Field.least_le_greatest (field : Field) : field.bounds.least ≤ field.bounds.greatest := by
  cases field <;> decide

theorem Field.isWritable_bounds (field : Field) :
    Text.Numeral.isWritable field.bounds.least = true ∧
      Text.Numeral.isWritable field.bounds.greatest = true := by
  cases field <;> exact ⟨rfl, rfl⟩

namespace Expansion

theorem collect_cons_eq_some {bounds : Bounds} {text : List Char} {rest : List (List Char)}
    {numbers : List Int} (collected : collect bounds (text :: rest) = .ok (some numbers)) :
    ∃ piece, Piece.read (Piece.token bounds text) = .ok piece ∧
      ∃ ours, piece.values bounds (Piece.token bounds text) = .ok ours ∧
        ∃ others, collect bounds rest = .ok (some others) ∧ ours ++ others = numbers := by
  rw [collect, bind_eq_ok] at collected
  obtain ⟨piece, read, collected⟩ := collected
  have parts : ∃ ours, piece.values bounds (Piece.token bounds text) = .ok ours ∧
      ∃ theirs, collect bounds rest = .ok theirs ∧ theirs.map (ours ++ ·) = some numbers := by
    cases piece with
    | star => simp [pure_eq_ok] at collected
    | _ => simpa only [bind_eq_ok, pure_eq_ok] using collected
  obtain ⟨ours, given, theirs, gathered, joined⟩ := parts
  obtain ⟨others, same, whole⟩ := Option.map_eq_some_iff.mp joined
  subst same
  exact ⟨piece, read, ours, given, others, gathered, whole⟩

theorem collect_holds (bounds : Bounds) (inhabited : bounds.least ≤ bounds.greatest)
    (texts : List (List Char)) (numbers : List Int)
    (collected : collect bounds texts = .ok (some numbers)) :
    ∀ number ∈ numbers, bounds.holds number = true := by
  induction texts generalizing numbers with
  | nil =>
    cases collected
    simp
  | cons text rest ih =>
    obtain ⟨piece, _, ours, given, more, others, rfl⟩ := collect_cons_eq_some collected
    intro number member
    rcases List.mem_append.mp member with here | there
    · exact Piece.values_holds bounds inhabited _ piece ours given number here
    · exact ih more others number there

theorem within?_eq_map {bounds : Bounds} (least : Text.Numeral.isWritable bounds.least = true)
    (greatest : Text.Numeral.isWritable bounds.greatest = true) (text : String) :
    within? bounds text = (collect bounds (Text.splitAt ',' text.toList)).map fun numbers? =>
      numbers?.elim .every (ofValues bounds) := by
  rw [within?, least, greatest, Bool.and_self, if_pos rfl]
  cases collect bounds (Text.splitAt ',' text.toList) with
  | error fault => rfl
  | ok numbers? => cases numbers? <;> rfl

theorem within?_field (field : Field) (text : String) :
    within? field.bounds text = (collect field.bounds (Text.splitAt ',' text.toList)).map
      fun numbers? => numbers?.elim .every (ofValues field.bounds) :=
  within?_eq_map field.isWritable_bounds.1 field.isWritable_bounds.2 text

theorem ofField_holds (field : Field) (text : String) (values : ValueSet)
    (expanded : ofField field text = .ok (only values)) :
    ∀ value ∈ values, field.bounds.holds value = true := by
  have inhabited := field.least_le_greatest
  rw [ofField, mapError_eq_ok, within?_field, map_eq_ok] at expanded
  obtain ⟨numbers?, collected, expanded⟩ := expanded
  cases numbers? with
  | none => simp at expanded
  | some numbers =>
    simp only [Option.elim_some, ofValues] at expanded
    split at expanded
    · simp at expanded
    · cases expanded
      intro value member
      exact collect_holds _ inhabited _ numbers collected value
        ((ValueSet.mem_ofList value numbers).mp member)

theorem ofValues_admits (bounds : Bounds) (numbers : List Int)
    (within : ∀ number ∈ numbers, bounds.holds number = true) (number : Int)
    (held : bounds.holds number = true) :
    (ofValues bounds numbers).admits number = true ↔ number ∈ numbers := by
  simp only [ofValues]
  split
  · next full =>
    refine ⟨fun _ => ?_, fun _ => rfl⟩
    have distinct : (ValueSet.ofList numbers).toList.Nodup :=
      (ValueSet.ofList numbers).ascending.imp Int.ne_of_lt
    have spanned : (ValueSet.ofList numbers).toList.toFinset
        = Finset.Icc bounds.least bounds.greatest := by
      refine Finset.eq_of_subset_of_card_le ?_ ?_
      · intro other member
        rw [List.mem_toFinset, ValueSet.mem_toList, ValueSet.mem_ofList] at member
        rw [Finset.mem_Icc]
        exact (bounds.holds_iff other).mp (within other member)
      · rw [List.toFinset_card_of_nodup distinct, Int.card_Icc]
        simp only [ValueSet.size, Bounds.size] at full
        omega
    have member : number ∈ (ValueSet.ofList numbers).toList.toFinset := by
      rw [spanned, Finset.mem_Icc]
      exact (bounds.holds_iff number).mp held
    rwa [List.mem_toFinset, ValueSet.mem_toList, ValueSet.mem_ofList] at member
  · rw [admits, decide_eq_true_eq, ValueSet.mem_ofList]

/-- A field's text names a number if one of its pieces does, or if a star comes before any fault. -/
def Names (field : Field) (text : String) (number : Int) : Prop :=
  ∃ numbers?, collect field.bounds (Text.splitAt ',' text.toList) = .ok numbers? ∧
    ∀ numbers, numbers? = some numbers → number ∈ numbers

/-- Taking a set of all values for no constraint changes no field's values. -/
theorem admits_iff_names (field : Field) (text : String) (expansion : Expansion)
    (expanded : ofField field text = .ok expansion) (value : Int)
    (held : field.bounds.holds value = true) :
    expansion.admits value = true ↔ Names field text value := by
  have inhabited := field.least_le_greatest
  rw [ofField, mapError_eq_ok, within?_field, map_eq_ok] at expanded
  obtain ⟨numbers?, collected, rfl⟩ := expanded
  simp only [Names, collected, Except.ok.injEq, exists_eq_left']
  cases numbers? with
  | none => simp [admits]
  | some numbers =>
    have bounded := collect_holds _ inhabited _ numbers collected
    rw [Option.elim_some, ofValues_admits field.bounds numbers bounded value held]
    simp

/-- What a candidate of the expansion has in its field: nothing if every value will do, or else one of
the values. -/
def Offers : Expansion → Option Int → Prop
  | every, entry => entry = none
  | only values, entry => ∃ value ∈ values, entry = some value

def entryFor : Expansion → Int → Option Int
  | every, _ => none
  | only _, value => some value

end Expansion

/-! ## All combinations -/

theorem PerField.ext_get {α : Type} {values others : PerField α}
    (same : ∀ field, values.get field = others.get field) : values = others := by
  have := same .second
  have := same .minute
  have := same .hour
  have := same .day
  have := same .month
  cases values
  cases others
  simp_all [PerField.get]

theorem Expansions.isEvery_iff (expansions : Expansions) :
    expansions.isEvery = true ↔ ∀ field, expansions.get field = .every := by
  have every : ∀ expansion : Expansion, expansion.isEvery = true ↔ expansion = .every := by
    intro expansion
    cases expansion <;> simp [Expansion.isEvery]
  simp only [isEvery, PerField.toList, List.all_cons, List.all_nil, Bool.and_true, Bool.and_eq_true,
    every]
  constructor
  · rintro ⟨second, minute, hour, day, month⟩ field
    cases field <;> assumption
  · exact fun all => ⟨all .second, all .minute, all .hour, all .day, all .month⟩

namespace Candidate

def Fits (expansions : Expansions) (fields : List Field) (candidate : Candidate) : Prop :=
  ∀ field, if field ∈ fields then (expansions.get field).Offers (candidate.get field)
    else candidate.get field = none

theorem mem_extend (expansions : Expansions) (fields : List Field) (field : Field)
    (fresh : field ∉ fields) (candidates : List Candidate)
    (fits : ∀ candidate, candidate ∈ candidates ↔ Fits expansions fields candidate)
    (candidate : Candidate) :
    candidate ∈ extend candidates field (expansions.get field) ↔
      Fits expansions (fields ++ [field]) candidate := by
  cases offered : expansions.get field with
  | every =>
    rw [extend, fits candidate]
    refine forall_congr' fun other => ?_
    by_cases same : other = field
    · subst same
      simp [fresh, offered, Expansion.Offers]
    · simp [same]
  | only values =>
    simp only [extend, List.mem_flatMap, List.mem_map]
    constructor
    · rintro ⟨base, member, value, inside, rfl⟩
      intro other
      by_cases same : other = field
      · subst same
        simp only [List.mem_append, List.mem_singleton, or_true, if_true, offered,
          PerField.get_set_same]
        exact ⟨value, inside, rfl⟩
      · have held := (fits base).mp member other
        simpa [same, PerField.get_set_other base field other (some value) same] using held
    · intro held
      have here := held field
      simp only [List.mem_append, List.mem_singleton, or_true, if_true, offered] at here
      obtain ⟨value, inside, entry⟩ := here
      refine ⟨candidate.set field none, (fits _).mpr ?_, value, inside, ?_⟩
      · intro other
        by_cases same : other = field
        · subst same
          simp [fresh]
        · have there := held other
          simpa [same, PerField.get_set_other candidate field other none same] using there
      · refine PerField.ext_get fun other => ?_
        by_cases same : other = field
        · subst same
          rw [PerField.get_set_same, entry]
        · rw [PerField.get_set_other _ field other _ same, PerField.get_set_other _ field other _ same]

theorem mem_foldl_extend (expansions : Expansions) (ahead fields : List Field)
    (distinct : (fields ++ ahead).Nodup) (candidates : List Candidate)
    (fits : ∀ candidate, candidate ∈ candidates ↔ Fits expansions fields candidate)
    (candidate : Candidate) :
    candidate ∈ ahead.foldl (fun candidates field => extend candidates field (expansions.get field))
        candidates ↔ Fits expansions (fields ++ ahead) candidate := by
  induction ahead generalizing fields candidates with
  | nil => simpa using fits candidate
  | cons field rest ih =>
    have fresh : field ∉ fields := by
      intro member
      exact (List.nodup_append.mp distinct).2.2 field member field (by simp) rfl
    have regrouped : fields ++ field :: rest = (fields ++ [field]) ++ rest := by simp
    rw [List.foldl_cons, regrouped]
    exact ih (fields ++ [field]) (regrouped ▸ distinct) _
      (mem_extend expansions fields field fresh candidates fits)

theorem mem_combinations (expansions : Expansions) (candidate : Candidate) :
    candidate ∈ combinations expansions ↔
      ∀ field, (expansions.get field).Offers (candidate.get field) := by
  have start : ∀ candidate, candidate ∈ [unfixed] ↔ Fits expansions [] candidate := by
    intro candidate
    rw [List.mem_singleton]
    constructor
    · rintro rfl field
      cases field <;> rfl
    · intro fits
      refine PerField.ext_get fun field => ?_
      rw [show candidate.get field = none by simpa using fits field]
      cases field <;> rfl
  have everyField : ∀ field, field ∈ Field.all := fun field => by cases field <;> decide
  rw [combinations, mem_foldl_extend expansions Field.all [] (by decide) [unfixed] start]
  simp [Fits, everyField]

def reading (expansions : Expansions) (values : PerField Int) : Candidate :=
  PerField.ofFunction fun field => (expansions.get field).entryFor (values.get field)

/-- Some combination agrees with a wall time exactly if all expansions admit what it shows. -/
theorem exists_agrees_iff (expansions : Expansions) (wall : Int) :
    (∃ candidate ∈ combinations expansions, candidate.Agrees wall) ↔
      ∀ field, (expansions.get field).admits ((Wall.fields wall).get field) = true := by
  constructor
  · rintro ⟨candidate, member, agrees⟩ field
    have offered := (mem_combinations expansions candidate).mp member field
    cases expansion : expansions.get field with
    | every => rfl
    | only values =>
      rw [expansion] at offered
      obtain ⟨value, inside, entry⟩ := offered
      rw [agrees field value entry, Expansion.admits, decide_eq_true_eq]
      exact inside
  · intro admitted
    refine ⟨reading expansions (Wall.fields wall), (mem_combinations _ _).mpr ?_, ?_⟩
    · intro field
      rw [reading, PerField.get_ofFunction]
      have held := admitted field
      cases expansion : expansions.get field with
      | every => rfl
      | only values =>
        rw [expansion, Expansion.admits, decide_eq_true_eq] at held
        exact ⟨_, held, rfl⟩
    · intro field value fixed
      rw [reading, PerField.get_ofFunction] at fixed
      cases expansion : expansions.get field with
      | every => simp [expansion, Expansion.entryFor] at fixed
      | only values => simpa [expansion, Expansion.entryFor] using fixed

theorem Agrees.isPossible? {candidate : Candidate} {wall : Int} (agrees : candidate.Agrees wall) :
    candidate.isPossible? = some true := by
  have sound := Wall.date_isSound wall
  unfold Candidate.isPossible?
  split
  · next day month fixedDay fixedMonth =>
    have sameDay : (Wall.date wall).day = day := agrees .day day fixedDay
    have sameMonth : (Wall.date wall).month = month := agrees .month month fixedMonth
    obtain ⟨longest, found, most⟩ := exists_longestMonth? (Wall.date wall).year _
      sound.least_month sound.most_month
    have held := sound.most_day
    rw [← sameMonth, found]
    simp only [Option.map_some, Option.some.injEq, decide_eq_true_eq]
    omega
  · rfl

end Candidate

/-! ## Schedules -/

theorem Expression.expand_eq_ok (expression : Expression) (expansions : Expansions)
    (expanded : expression.expand = .ok expansions) (field : Field) :
    Expansion.ofField field (expression.get field) = .ok (expansions.get field) := by
  simp only [expand, bind_eq_ok, pure_eq_ok, expandField, mapError_eq_ok] at expanded
  obtain ⟨second, secondRead, minute, minuteRead, hour, hourRead, day, dayRead, month, monthRead,
    rfl⟩ := expanded
  cases field <;> assumption

theorem Candidate.isBounded_of_combined (expression : Expression) (expansions : Expansions)
    (fields : ∀ field, Expansion.ofField field (expression.get field) = .ok (expansions.get field))
    (candidate : Candidate) (combined : candidate ∈ combinations expansions) : candidate.IsBounded := by
  intro field value fixed
  have offered := (mem_combinations expansions candidate).mp combined field
  have expanded := fields field
  cases expansion : expansions.get field with
  | every => simp [expansion, Expansion.Offers, fixed] at offered
  | only values =>
    rw [expansion] at offered expanded
    obtain ⟨other, inside, entry⟩ := offered
    cases fixed.symm.trans entry
    exact Expansion.ofField_holds field _ values expanded _ inside

theorem Candidate.assemble_eq_ok (expansions : Expansions) (candidates : List Candidate)
    (assembled : assemble expansions = .ok candidates) : candidates = combinations expansions := by
  unfold assemble at assembled
  split at assembled
  · simp at assembled
  · next given => exact (Except.ok.inj assembled).symm

namespace Schedule

theorem mem_possibleOnly? (candidates kept : List Candidate)
    (built : possibleOnly? candidates = .ok kept) (candidate : Candidate) :
    candidate ∈ kept ↔ candidate ∈ candidates ∧ candidate.isPossible? = some true := by
  induction candidates generalizing kept with
  | nil =>
    cases built
    simp
  | cons head rest ih =>
    simp only [possibleOnly?] at built
    split at built
    · simp at built
    · next possible =>
      rw [map_eq_ok] at built
      obtain ⟨more, others, rfl⟩ := built
      rw [List.mem_cons, List.mem_cons, ih more others]
      constructor
      · rintro (rfl | ⟨member, held⟩)
        · exact ⟨.inl rfl, possible⟩
        · exact ⟨.inr member, held⟩
      · rintro ⟨rfl | member, held⟩
        · exact .inl rfl
        · exact .inr ⟨member, held⟩
    · next impossible =>
      rw [ih kept built, List.mem_cons]
      constructor
      · rintro ⟨member, held⟩
        exact ⟨.inr member, held⟩
      · rintro ⟨rfl | member, held⟩
        · simp [impossible] at held
        · exact ⟨member, held⟩

theorem exists_agrees_possibleOnly? (candidates kept : List Candidate)
    (built : possibleOnly? candidates = .ok kept) (wall : Int) :
    (∃ candidate ∈ kept, candidate.Agrees wall) ↔
      ∃ candidate ∈ candidates, candidate.Agrees wall := by
  constructor
  · rintro ⟨candidate, member, agrees⟩
    exact ⟨candidate, ((mem_possibleOnly? candidates kept built candidate).mp member).1, agrees⟩
  · rintro ⟨candidate, member, agrees⟩
    exact ⟨candidate, (mem_possibleOnly? candidates kept built candidate).mpr
      ⟨member, agrees.isPossible?⟩, agrees⟩

def IsSound (schedule : Schedule) : Prop :=
  ∀ candidates, schedule.timetable = .listed candidates → ∀ candidate ∈ candidates,
    candidate.IsBounded ∧ candidate.isPossible? = some true

theorem isSound_ofCandidates? (zone : Option Zone) (expression : Option Expression)
    (candidates : List Candidate) (bounded : ∀ candidate ∈ candidates, candidate.IsBounded)
    (schedule : Schedule) (built : ofCandidates? zone expression candidates = .ok schedule) :
    schedule.IsSound := by
  rw [ofCandidates?, bind_eq_ok] at built
  obtain ⟨others, kept, built⟩ := built
  cases built
  rintro _ ⟨⟩ candidate member
  obtain ⟨given, possible⟩ := (mem_possibleOnly? candidates others kept candidate).mp member
  exact ⟨bounded candidate given, possible⟩

def Follows (schedule : Schedule) (expansions : Expansions) : Prop :=
  if expansions.isEvery then schedule.timetable = .anyTime
  else ∃ candidates, possibleOnly? (Candidate.combinations expansions) = .ok candidates ∧
    schedule.timetable = .listed candidates

theorem ofText?_eq_ok (zone : Except ZoneFault (Option Zone)) (text : String) (schedule : Schedule)
    (built : ofText? zone text = .ok schedule) :
    zone = .ok schedule.zone ∧ ∃ expression expansions, Expression.ofText? text = .ok expression ∧
      (∀ field, Expansion.ofField field (expression.get field) = .ok (expansions.get field)) ∧
      schedule.Follows expansions := by
  rw [ofText?, bind_eq_ok] at built
  obtain ⟨expression, read, built⟩ := built
  rw [mapError_eq_ok] at read
  rw [ofExpression?, bind_eq_ok] at built
  obtain ⟨expansions, expanded, built⟩ := built
  rw [mapError_eq_ok] at expanded
  rw [bind_eq_ok] at built
  obtain ⟨place, chosen, built⟩ := built
  rw [mapError_eq_ok] at chosen
  have fields := expression.expand_eq_ok expansions expanded
  split at built
  · next unconstrained =>
    cases built
    exact ⟨chosen, expression, expansions, read, fields, by simp [Follows, unconstrained]⟩
  · next constrained =>
    rw [bind_eq_ok] at built
    obtain ⟨candidates, assembled, built⟩ := built
    rw [mapError_eq_ok] at assembled
    rw [ofCandidates?, bind_eq_ok] at built
    obtain ⟨kept, possible, built⟩ := built
    cases built
    refine ⟨chosen, expression, expansions, read, fields, ?_⟩
    rw [Follows, if_neg constrained, ← Candidate.assemble_eq_ok expansions candidates assembled]
    exact ⟨kept, possible, rfl⟩

theorem isSound_ofText? (zone : Except ZoneFault (Option Zone)) (text : String) (schedule : Schedule)
    (built : ofText? zone text = .ok schedule) : schedule.IsSound := by
  obtain ⟨_, expression, expansions, _, fields, follows⟩ := ofText?_eq_ok zone text schedule built
  intro candidates listed candidate member
  unfold Follows at follows
  split at follows
  · simp [listed] at follows
  · obtain ⟨kept, possible, timetable⟩ := follows
    cases listed.symm.trans timetable
    obtain ⟨combined, isPossible⟩ := (mem_possibleOnly? _ _ possible candidate).mp member
    exact ⟨Candidate.isBounded_of_combined expression expansions fields candidate combined, isPossible⟩

end Schedule

end CronClock
