import CronClock.Command.Session
import CronClock.Console
import CronClock.Proofs.Description
import CronClock.Proofs.Overlong

/-! # How a session that judges a text ends

A text that is judged or described decides the exit of its session: a status for an expression that
expands and another one for the rest. On the way the session hands the text itself, or what is wrong
with it, to the printer as a marked text, and crashes if the printer refuses it. `Session.Ends` follows
a session to its exit, `Surroundings.run_judges_iff` says when the exit is a status, whatever the
printer does. -/
set_option autoImplicit false
namespace CronClock

/-- The text has five words, and each of them expands in its field. -/
def IsExpandable (text : String) : Prop :=
  ∃ expression, Expression.ofText? text = .ok expression ∧
    ∀ field, ∃ expansion, Expansion.ofField field (expression.get field) = .ok expansion

theorem isExpandable_iff (text : String) :
    IsExpandable text ↔ ∃ expansions, expandText text = .ok expansions := by
  constructor
  · rintro ⟨expression, read, each⟩
    obtain ⟨expansion, fields⟩ := Classical.axiomOfChoice each
    refine ⟨PerField.ofFunction expansion, ?_⟩
    rw [expandText, read]
    refine expression.expand_of_fields _ fun field => ?_
    rw [fields, PerField.get_ofFunction]
  · rintro ⟨expansions, expanded⟩
    rw [expandText, bind_eq_ok] at expanded
    obtain ⟨expression, read, expanded⟩ := expanded
    exact ⟨expression, read, fun field => ⟨_, expression.expand_eq_ok expansions expanded field⟩⟩

theorem not_isExpandable_of {text : String} {fault : ScheduleFault}
    (failed : expandText text = .error fault) : ¬ IsExpandable text := by
  rw [isExpandable_iff]
  rintro ⟨expansions, expanded⟩
  cases failed.symm.trans expanded

/-! ## Sessions and their exits -/

namespace Session

theorem run_bind {α β : Type} (first : Session α) (following : α → Session β) (printed : Printed) :
    (first >>= following).run printed =
      match first.run printed with
      | (.ok value, next) => (following value).run next
      | (.error exit, next) => (.error exit, next) := by
  rw [ExceptT.run_bind]
  simp only [bind, StateT.bind]
  cases first.run printed with
  | mk result next => cases result <;> rfl

def Ends (session : Session Unit) (exit : Exit) : Prop :=
  ∀ printed, exitOf (session.run printed).1 = exit

theorem Ends.exit_report {session : Session Unit} {exit : Exit} (ends : session.Ends exit) :
    session.report.exit = exit := ends Printed.nothing

section Printing
variable (printer : Printer)

theorem ends_hear {session : Session Unit} {exit : Exit} (ends : session.Ends exit)
    (filter : NoteFilter) (instant : Int) (notes : List Note) :
    Ends (do hear printer filter instant notes; session) exit := by
  intro printed
  rw [run_bind]
  apply ends

def shownExit (marked : String) (code : Nat) : Exit :=
  match printer.textLines? marked with
  | .ok _ => .status code
  | .error fault => .crash (.unshowable fault)

theorem ends_say (marked : String) : Ends (say printer marked) (shownExit printer marked 0) := by
  intro printed
  rw [say, shownExit]
  cases printer.textLines? marked <;> rfl

theorem ends_giveUp (marked : String) : Ends (giveUp printer marked) (shownExit printer marked 1) := by
  intro printed
  rw [giveUp, run_bind, say, shownExit]
  cases printer.textLines? marked <;> rfl

end Printing

section Judged
variable (around : Surroundings) (filter : NoteFilter) {text : String}

theorem ends_judged {verdict : Bool} {following : Bool → Session Unit} {exit : Exit}
    (given : judge text = .ok verdict) (ends : (following verdict).Ends exit) :
    Ends (judged around filter text >>= following) exit := by
  intro printed
  rw [judged, given]
  apply ends

theorem ends_unjudged {fault : ScheduleFault} (following : Bool → Session Unit)
    (failed : judge text = .error fault) :
    Ends (judged around filter text >>= following) (.crash (.unbuilt (.text fault))) := by
  intro printed
  rw [judged, failed]
  rfl

end Judged
end Session

/-! ## What is shown of the text -/

def Printer.Shows (printer : Printer) (marked : String) : Prop :=
  ∃ lines, printer.textLines? marked = .ok lines

namespace Command

/-- The marked texts that a command shows of the text that it judges. -/
def shown : Command → List String
  | validate text =>
    match expandText text with
    | .ok _ => ["[green]Valid:[/green] " ++ text]
    | .error _ => ["[red]Invalid:[/red] " ++ text]
  | describe text =>
    match Description.ofText text with
    | .ok description => [description]
    | .error _ => []
  | _ => []

theorem bracketless_ofExpansion (field : Field) (expansion : Expansion) :
    '[' ∉ (Description.ofExpansion field expansion).toList := by
  cases expansion with
  | every => cases field <;> decide
  | only values =>
    rw [Description.ofExpansion, String.toList_append, List.mem_append]
    rintro (title | compressed)
    · cases field <;> exact absurd title (by decide)
    · exact absurd (Description.isPlain_compress values.toList '[' compressed) (by decide)

/-- The description of a text that is accepted has no tags; only a refused text can be one that a
printer does not show. -/
theorem bracketless_describe {text : String} (expandable : IsExpandable text) :
    ∀ marked ∈ (describe text).shown, '[' ∉ marked.toList := by
  obtain ⟨expansions, expanded⟩ := (isExpandable_iff text).mp expandable
  rw [shown, Description.ofText_of_expandText expanded]
  intro marked listed bracket
  obtain rfl : marked = Description.ofExpansions expansions := by simpa using listed
  cases Description.mem_join ", " _ bracket with
  | inl separator => exact absurd separator (by decide)
  | inr inside =>
    obtain ⟨part, listed, bracket⟩ := inside
    obtain ⟨field, _, rfl⟩ := List.mem_map.mp listed
    exact bracketless_ofExpansion field _ bracket

end Command

/-! ## Clean exits -/

namespace Exit

def Judges (exit : Exit) (text : String) : Prop :=
  (exit = .status 0 ↔ IsExpandable text) ∧ (exit = .status 1 ↔ ¬ IsExpandable text)

/-- Under the condition the exit tells whether the text is expandable, and otherwise it is a crash. -/
def JudgesIff (exit : Exit) (text : String) (condition : Prop) : Prop :=
  (exit.Judges text ↔ condition) ∧ ((∃ fault, exit = .crash fault) ↔ ¬ condition)

theorem Judges.success {text : String} (expandable : IsExpandable text) :
    (status 0).Judges text := by
  simp [Judges, expandable]

theorem Judges.failure {text : String} (refused : ¬ IsExpandable text) : (status 1).Judges text := by
  simp [Judges, refused]

theorem JudgesIff.crash (fault : Crash) (text : String) {condition : Prop} (unmet : ¬ condition) :
    (Exit.crash fault).JudgesIff text condition := by
  refine ⟨iff_of_false ?_ unmet, iff_of_true ⟨fault, rfl⟩ unmet⟩
  rintro ⟨success, failure⟩
  have refused : ¬ IsExpandable text := fun expandable => by cases success.mpr expandable
  cases failure.mpr refused

theorem JudgesIff.shownExit (printer : Printer) {marked text : String} {code : Nat} {condition : Prop}
    (right : (status code).Judges text) (same : printer.Shows marked ↔ condition) :
    (Session.shownExit printer marked code).JudgesIff text condition := by
  unfold Session.shownExit
  cases printed : printer.textLines? marked with
  | ok lines =>
    have met : condition := same.mp ⟨lines, printed⟩
    exact ⟨iff_of_true right met, iff_of_false nofun (not_not_intro met)⟩
  | error fault =>
    refine JudgesIff.crash _ text fun met => ?_
    obtain ⟨lines, also⟩ := same.mpr met
    cases printed.symm.trans also

end Exit

/-! ## The two commands -/

namespace Session

section Commands
variable (around : Surroundings) (filter : NoteFilter) {text : String}

/-- A session that goes on from a verdict with showing one marked text ends cleanly if the printer shows
it, but not if the text has a number with too many digits. -/
theorem judgesIff_judged {following : Bool → Session Unit} {clean : Prop}
    (accepted : ∀ expansions, expandText text = .ok expansions → ∃ marked,
      (following true).Ends (shownExit around.printer marked 0) ∧
        (around.printer.Shows marked ↔ clean))
    (refused : ∀ fault, expandText text = .error fault → fault.isOfText = true → ∃ marked,
      (following false).Ends (shownExit around.printer marked 1) ∧
        (around.printer.Shows marked ↔ clean)) :
    (judged around filter text >>= following).report.exit.JudgesIff text
      (¬ HasOverlong text ∧ clean) := by
  rw [hasOverlong_iff]
  cases expanded : expandText text with
  | ok expansions =>
    obtain ⟨marked, shows, same⟩ := accepted expansions expanded
    have given : judge text = .ok true := by simp [judge, expanded]
    rw [(ends_judged around filter given shows).exit_report]
    have expandable : IsExpandable text := (isExpandable_iff text).mpr ⟨expansions, expanded⟩
    apply Exit.JudgesIff.shownExit around.printer (.success expandable)
    simp [same]
  | error fault =>
    cases ofItsText : fault.isOfText with
    | true =>
      obtain ⟨marked, shows, same⟩ := refused fault expanded ofItsText
      have given : judge text = .ok false := by simp [judge, expanded, ofItsText]
      rw [(ends_judged around filter given shows).exit_report]
      apply Exit.JudgesIff.shownExit around.printer (.failure (not_isExpandable_of expanded))
      simp [same, ofItsText]
    | false =>
      have failed : judge text = .error fault := by simp [judge, expanded, ofItsText]
      rw [(ends_unjudged around filter following failed).exit_report]
      apply Exit.JudgesIff.crash
      simp [ofItsText]

theorem judgesIff_validate (text : String) :
    (validate around filter text).report.exit.JudgesIff text
      (¬ HasOverlong text ∧ ∀ marked ∈ (Command.validate text).shown, around.printer.Shows marked) := by
  apply judgesIff_judged around filter
  · intro expansions expanded
    refine ⟨_, ends_say around.printer _, ?_⟩
    simp [Command.shown, expanded]
  · intro fault failed _
    refine ⟨_, ends_giveUp around.printer _, ?_⟩
    simp [Command.shown, failed]

theorem judgesIff_describe (text : String) :
    (describe around filter text).report.exit.JudgesIff text
      (¬ HasOverlong text ∧ ∀ marked ∈ (Command.describe text).shown, around.printer.Shows marked) := by
  apply judgesIff_judged around filter
  · intro expansions expanded
    have described := Description.ofText_of_expandText expanded
    refine ⟨Description.ofExpansions expansions, ?_, ?_⟩
    · rw [described]
      exact ends_hear around.printer (ends_say around.printer _) filter around.now _
    · simp [Command.shown, described]
  · intro fault failed ofItsText
    have described : Description.ofText text = .ok ("Invalid expression: " ++ fault.message) := by
      simp [Description.ofText, failed, ofItsText]
    refine ⟨"Invalid expression: " ++ fault.message, ?_, ?_⟩
    · rw [described]
      exact ends_hear around.printer (ends_giveUp around.printer _) filter around.now _
    · simp [Command.shown, described]

end Commands
end Session

/-! ## Whole command lines -/

theorem NoteFilter.ofInvocation?_eq_none_iff (invocation : Invocation) (levelName : String) :
    ofInvocation? invocation levelName = none ↔
      ¬ (invocation.verbose = true ∨ (Level.rankNamed? levelName).isSome = true) := by
  unfold ofInvocation?
  cases invocation.verbose <;> simp

/-- A command line that gives a text to be judged or described ends with status 0 if the text is
expandable and with status 1 if not, exactly if the level of the notes has a name that is known, no
number that is reached has too many digits and the printer shows what it is given of the text. It
crashes otherwise. -/
theorem Surroundings.run_judges_iff (around : Surroundings) (words : List String) (verbose : Bool)
    (command : Command) (text : String)
    (judging : command = .validate text ∨ command = .describe text)
    (read : Invocation.ofWords words = .ok ⟨verbose, some command⟩) :
    (around.run words).exit.JudgesIff text
      ((verbose = true ∨ (Level.rankNamed? around.levelName).isSome = true) ∧ ¬ HasOverlong text ∧
        ∀ marked ∈ command.shown, around.printer.Shows marked) := by
  have named := NoteFilter.ofInvocation?_eq_none_iff ⟨verbose, some command⟩ around.levelName
  rw [run, read]
  cases chosen : NoteFilter.ofInvocation? ⟨verbose, some command⟩ around.levelName with
  | none =>
    simp only [chosen]
    exact .crash _ text fun condition => named.mp chosen condition.1
  | some filter =>
    have known : verbose = true ∨ (Level.rankNamed? around.levelName).isSome = true := by
      by_contra unknown
      cases chosen.symm.trans (named.mpr unknown)
    simp only [chosen, known, true_and]
    cases judging with
    | inl validated => subst validated; exact Session.judgesIff_validate around filter text
    | inr described => subst described; exact Session.judgesIff_describe around filter text

def Surroundings.atEpoch (printer : Printer) : Surroundings :=
  ⟨printer, .universal, [], none, "WARNING", 0, 1, some 0⟩

theorem Surroundings.run_judges_taggedText :
    ((atEpoch Console.printer).run ["validate", "*,[b]any[/b] * * * *"]).exit.Judges
      "*,[b]any[/b] * * * *" := by
  have read : Invocation.ofWords ["validate", "*,[b]any[/b] * * * *"]
      = .ok ⟨false, some (.validate "*,[b]any[/b] * * * *")⟩ := rfl
  have short : ¬ HasOverlong "*,[b]any[/b] * * * *" := by
    rw [hasOverlong_iff]
    rintro ⟨fault, failed, _⟩
    cases failed
  have shown : ∀ marked ∈ (Command.validate "*,[b]any[/b] * * * *").shown,
      Console.printer.Shows marked := by
    have texts : (Command.validate "*,[b]any[/b] * * * *").shown
        = ["[green]Valid:[/green] *,[b]any[/b] * * * *"] := rfl
    rw [texts, List.forall_mem_singleton]
    exact ⟨["Valid: *,any * * * *"], by decide +kernel⟩
  exact ((atEpoch Console.printer).run_judges_iff _ false _ _ (.inl rfl) read).1.mpr
    ⟨.inr (by decide), short, shown⟩

/-! ## Closing tags with nothing to close -/

/-- Each tag in the text is a word of small letters and is closed again under that word. -/
inductive ClosesTags : List Char → Prop
  | plain (text : List Char) (unmarked : ∀ c ∈ text, c ∉ ['[', ']', Text.backslash]) : ClosesTags text
  | tagged (word inside : List Char) (begun : word ≠ []) (small : ∀ c ∈ word, 'a' ≤ c ∧ c ≤ 'z')
    (inner : ClosesTags inside) :
      ClosesTags ('[' :: word ++ ']' :: inside ++ '[' :: '/' :: word ++ [']'])
  | append (before after : List Char) (first : ClosesTags before) (second : ClosesTags after) :
      ClosesTags (before ++ after)

/-- All that is opened in the text is closed where a tag closes once more. -/
def HasStrayClosing (marked : String) : Prop :=
  ∃ before after, ClosesTags before ∧ marked.toList = before ++ "[/]".toList ++ after

/-- The printer reads tags, and it refuses to close one where there is none. -/
def Printer.RefusesStray (printer : Printer) : Prop :=
  ∀ marked, HasStrayClosing marked → printer.textLines? marked = .error ⟨"MarkupError"⟩

theorem hasStrayClosing_valid : HasStrayClosing ("[green]Valid:[/green] " ++ "*,[/] * * * *") := by
  have label : ClosesTags "[green]Valid:[/green]".toList := by
    apply ClosesTags.tagged "green".toList "Valid:".toList
    · simp
    · simp
    · apply ClosesTags.plain
      simp [Text.backslash]
  have star : ClosesTags " *,".toList := by
    apply ClosesTags.plain
    simp [Text.backslash]
  exact ⟨_, " * * * *".toList, .append _ _ label star, rfl⟩

/-- What follows a star is not read, but it is shown, and a closing tag there has nothing to close: the
session crashes on every printer that refuses such tags, and so it does on the console. -/
theorem Surroundings.run_crashes_strayClosing :
    IsExpandable "*,[/] * * * *" ∧
      ((atEpoch Console.printer).run ["validate", "*,[/] * * * *"]).exit
        = .crash (.unshowable ⟨"MarkupError"⟩) ∧
      ∀ printer : Printer, printer.RefusesStray →
        ((atEpoch printer).run ["validate", "*,[/] * * * *"]).exit
          = .crash (.unshowable ⟨"MarkupError"⟩) := by
  refine ⟨?_, by decide +kernel, ?_⟩
  · rw [isExpandable_iff]
    exact ⟨_, rfl⟩
  · intro printer refuses
    have refused := refuses _ hasStrayClosing_valid
    have given : judge "*,[/] * * * *" = .ok true := rfl
    have ends := Session.ends_say printer ("[green]Valid:[/green] " ++ "*,[/] * * * *")
    have validated : (Session.validate (atEpoch printer) ⟨Level.warning.rank, false⟩
        "*,[/] * * * *").Ends (Session.shownExit printer _ 0) :=
      Session.ends_judged (atEpoch printer) _ given ends
    have read : Invocation.ofWords ["validate", "*,[/] * * * *"]
        = .ok ⟨false, some (.validate "*,[/] * * * *")⟩ := rfl
    have known : NoteFilter.ofInvocation? ⟨false, some (.validate "*,[/] * * * *")⟩ "WARNING"
        = some ⟨Level.warning.rank, false⟩ := rfl
    rw [run, read]
    simp only [atEpoch, known]
    rw [Session.ofCommand, ← atEpoch, validated.exit_report, Session.shownExit, refused]

end CronClock
