import CronClock.Proofs.Assembly
import CronClock.Proofs.Description
import CronClock.Proofs.NextExact

/-! # Judging, describing and building agree

A text is read and expanded in the same way whether it is judged, described or made into a schedule, and
building goes on to put candidates together. There always are some, since no field's expansion is empty:
`Candidate.combinations_ne_nil`. So all three come to the same verdict, `Schedule.verdict_exclusive`. -/
set_option autoImplicit false
namespace CronClock

/-! ## Faults of a text -/

namespace ScheduleFault

def IsMalformed : ScheduleFault → Prop
  | wordCount _ _ => True
  | field complaint => ¬ complaint.fault.IsEmptySpan ∧ complaint.fault ≠ .digitCount
  | noCandidates => False

def IsInverted : ScheduleFault → Prop
  | wordCount _ _ => False
  | field complaint => complaint.fault.IsEmptySpan
  | noCandidates => False

theorem isOfText_iff (fault : ScheduleFault) (combined : fault ≠ .noCandidates) :
    fault.isOfText = true ↔ fault.IsMalformed ∨ fault.IsInverted := by
  cases fault with
  | wordCount text count => simp [isOfText, IsMalformed]
  | noCandidates => exact absurd rfl combined
  | field complaint =>
    obtain ⟨fault, text, field⟩ := complaint
    cases fault <;> simp [isOfText, IsMalformed, IsInverted, PieceFault.IsEmptySpan]

end ScheduleFault

theorem Expression.expand_eq_error (expression : Expression) (fault : ScheduleFault) :
    expression.expand = .error fault ↔ ∃ before field after, Field.all = before ++ field :: after ∧
      (∀ earlier ∈ before, ∃ expansion, expression.expandField earlier = .ok expansion) ∧
      expression.expandField field = .error fault := by
  have unfailing : ∀ {α : Type} (value : α), (pure value : Except ScheduleFault α) ≠ .error fault :=
    fun _ => nofun
  have listed : expression.expand = .error fault ↔
      Field.all.mapM expression.expandField = .error fault := by
    simp only [expand, Field.all, List.mapM_cons, List.mapM_nil, bind_eq_error, unfailing, and_false,
      exists_false, or_false]
  rw [listed, mapM_eq_error]

theorem Expression.expandField_eq_ok (expression : Expression) (field : Field) (expansion : Expansion) :
    expression.expandField field = .ok expansion ↔
      Expansion.ofField field (expression.get field) = .ok expansion :=
  mapError_eq_ok _ _ _

theorem Expression.expandField_eq_error (expression : Expression) (field : Field)
    (fault : ScheduleFault) : expression.expandField field = .error fault ↔
      ∃ complaint, Expansion.ofField field (expression.get field) = .error complaint ∧
        fault = .field complaint := by
  rw [expandField]
  cases Expansion.ofField field (expression.get field) with
  | ok expansion => simp [Except.mapError]
  | error complaint => simp [Except.mapError, eq_comm]

theorem Expression.ofText?_eq_error {text : String} {fault : ScheduleFault}
    (failed : ofText? text = .error fault) : ∃ count, fault = .wordCount text count := by
  unfold ofText? at failed
  split at failed
  · cases failed
  · cases failed
    exact ⟨_, rfl⟩

theorem ne_noCandidates_of_expandText {text : String} {fault : ScheduleFault}
    (failed : expandText text = .error fault) : fault ≠ .noCandidates := by
  rw [expandText, bind_eq_error] at failed
  rcases failed with unread | ⟨expression, _, unexpanded⟩
  · obtain ⟨count, rfl⟩ := Expression.ofText?_eq_error unread
    intro same
    cases same
  · obtain ⟨_, field, _, _, _, failed⟩ := (expression.expand_eq_error _).mp unexpanded
    obtain ⟨complaint, _, rfl⟩ := (expression.expandField_eq_error field _).mp failed
    intro same
    cases same

/-! ## Candidates -/

theorem Candidate.combinations_ne_nil (expansions : Expansions)
    (proper : ∀ field, (expansions.get field).IsProper field.bounds) :
    combinations expansions ≠ [] := by
  intro none
  obtain ⟨field, vacant⟩ := (combinations_eq_nil_iff expansions).mp none
  have held := proper field
  rw [vacant] at held
  exact held.1 rfl

/-! ## Building -/

namespace Schedule

/-- A valid text has a schedule, which matches every instant exactly if no field is constrained. -/
theorem exists_ofText? (zone : Option Zone) {text : String} {expansions : Expansions}
    (expanded : expandText text = .ok expansions) :
    ∃ schedule, ofText? (.ok zone) text = .ok schedule ∧
      (schedule.timetable = .anyTime ↔ expansions.isEvery = true) := by
  have proper := Description.isProper_of_expandText expanded
  rw [expandText, bind_eq_ok] at expanded
  obtain ⟨expression, read, expanded⟩ := expanded
  have fields := expression.expand_eq_ok expansions expanded
  by_cases every : expansions.isEvery = true
  · refine ⟨⟨.anyTime, zone, some expression⟩, ?_, by simp [every]⟩
    simp only [ofText?, ofExpression?, read, expanded, every, if_true, bind, Except.bind,
      Except.mapError]
    rfl
  · obtain ⟨kept, _, built⟩ := exists_ofCandidates? zone (some expression)
      (Candidate.combinations expansions) (Candidate.isBounded_of_combined expression expansions fields)
    have assembled : Candidate.assemble expansions = .ok (Candidate.combinations expansions) := by
      unfold Candidate.assemble
      split
      · next none => exact absurd none (Candidate.combinations_ne_nil expansions proper)
      · rfl
    refine ⟨⟨.listed kept, zone, some expression⟩, ?_, by simp [every]⟩
    simp only [ofText?, ofExpression?, read, expanded, every, assembled, bind, Except.bind,
      Except.mapError]
    exact built

theorem ofText?_eq_error (zone : Option Zone) {text : String} {fault : ScheduleFault}
    (failed : expandText text = .error fault) : ofText? (.ok zone) text = .error (.text fault) := by
  rw [expandText, bind_eq_error] at failed
  rcases failed with unread | ⟨expression, read, unexpanded⟩
  · simp only [ofText?, unread, bind, Except.bind, Except.mapError]
  · simp only [ofText?, ofExpression?, read, unexpanded, bind, Except.bind, Except.mapError]

end Schedule

/-! ## One verdict -/

namespace Description

/-- Of what a text expands to, only five stars are described as every value of all five fields. -/
theorem ofExpansions_eq_every_iff {expansions : Expansions}
    (proper : ∀ field, (expansions.get field).IsProper field.bounds) :
    ofExpansions expansions
        = "every second, every minute, every hour, every day of month, every month" ↔
      expansions.isEvery = true := by
  have described : ofExpansions (PerField.ofFunction fun _ => .every)
      = "every second, every minute, every hour, every day of month, every month" := rfl
  have open_iff : expansions.isEvery = true ↔ expansions = PerField.ofFunction fun _ => .every := by
    rw [expansions.isEvery_iff]
    constructor
    · intro each
      apply PerField.ext_get
      intro field
      rw [each, PerField.get_ofFunction]
    · intro same field
      rw [same, PerField.get_ofFunction]
  rw [open_iff, ← described]
  constructor
  · intro same
    apply ofExpansions_injective proper _ same
    intro field
    rw [PerField.get_ofFunction]
    trivial
  · intro same
    rw [same]

/-- No description of expansions looks like the description of a fault. -/
theorem not_prefix_ofExpansions (expansions : Expansions) :
    ¬ "Invalid expression: ".toList <+: (ofExpansions expansions).toList := by
  intro begins
  obtain ⟨rest, same⟩ := begins
  have heads := congrArg List.head? same
  simp only [ofExpansions, Field.all, List.map_cons, Text.toList_join_cons] at heads
  generalize expansions.get .second = expansion at heads
  cases expansion with
  | every => simp [ofExpansion] at heads
  | only values => simp [ofExpansion, Field.title] at heads

end Description

namespace Schedule

/-- The text is judged valid, its description is not one of a fault, and a schedule is built, which
matches every instant exactly if the description says `every` for all five fields. -/
structure IsAccepted (built : Except BuildFault Schedule) (text : String) : Prop where
  judged : judge text = .ok true
  settled : ∃ description schedule, Description.ofText text = .ok description ∧
    ¬ "Invalid expression: ".toList <+: description.toList ∧ built = .ok schedule ∧
    (schedule.timetable = .anyTime ↔
      description = "every second, every minute, every hour, every day of month, every month")

structure IsRefused (built : Except BuildFault Schedule) (text : String) : Prop where
  judged : judge text = .ok false
  settled : ∃ fault : ScheduleFault, (fault.IsMalformed ∨ fault.IsInverted) ∧
    built = .error (.text fault) ∧
    Description.ofText text = .ok ("Invalid expression: " ++ fault.message)

/-- Judging, building and describing all fail with a fault that is not one of a schedule's text. -/
structure IsUnread (built : Except BuildFault Schedule) (text : String) : Prop where
  settled : ∃ fault : ScheduleFault, fault.isOfText = false ∧ judge text = .error fault ∧
    built = .error (.text fault) ∧ Description.ofText text = .error fault

/-- For every text exactly one of three cases holds: it is accepted, refused or not read at all, each
time by judging, by describing and by building a schedule in universal time alike. -/
theorem verdict_exclusive (table : ZoneTable) (defaultName : Option String) (text : String) :
    let built := ofText? (ZoneChoice.resolve table defaultName (.byName "UTC")) text
    (IsAccepted built text ∨ IsRefused built text ∨ IsUnread built text) ∧
      ¬ (IsAccepted built text ∧ IsRefused built text) ∧
      ¬ (IsAccepted built text ∧ IsUnread built text) ∧
      ¬ (IsRefused built text ∧ IsUnread built text) := by
  intro built
  have universal : ZoneChoice.resolve table defaultName (.byName "UTC") = .ok (some .universal) := rfl
  refine ⟨?_, ?_, ?_, ?_⟩
  · cases expanded : expandText text with
    | ok expansions =>
      obtain ⟨schedule, given, every⟩ := exists_ofText? (some .universal) expanded
      have proper := Description.isProper_of_expandText expanded
      refine .inl ⟨(judge_eq_true_iff text).mpr ⟨expansions, expanded⟩,
        Description.ofExpansions expansions, schedule, Description.ofText_of_expandText expanded,
        Description.not_prefix_ofExpansions expansions, given, ?_⟩
      rw [every, Description.ofExpansions_eq_every_iff proper]
    | error fault =>
      have given : built = .error (.text fault) := ofText?_eq_error (some .universal) expanded
      have uncombined := ne_noCandidates_of_expandText expanded
      cases ofItsText : fault.isOfText with
      | true =>
        refine .inr (.inl ⟨by simp [judge, expanded, ofItsText], fault, ?_, given, ?_⟩)
        · exact (fault.isOfText_iff uncombined).mp ofItsText
        · simp [Description.ofText, expanded, ofItsText]
      | false =>
        refine .inr (.inr ⟨fault, ofItsText, ?_, given, ?_⟩)
        · simp [judge, expanded, ofItsText]
        · simp [Description.ofText, expanded, ofItsText]
  · intro both
    cases both.1.judged.symm.trans both.2.judged
  · intro both
    obtain ⟨fault, _, judged, _⟩ := both.2.settled
    cases both.1.judged.symm.trans judged
  · intro both
    obtain ⟨fault, _, judged, _⟩ := both.2.settled
    cases both.1.judged.symm.trans judged

end Schedule
end CronClock
