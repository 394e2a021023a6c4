import CheckDoc.Document.Schema
import CheckDoc.Lint.Links
import CheckDoc.Lint.Registry

/-!
# Linting

Linting runs the selected rules over a Check, in the order of the registry, and collects what they
find. A filter that names an unknown rule is refused before the document is read. `Settings.respond`
is linting for a host that wants plain data: there a document that is no Check is an answer too.
-/

namespace CheckDoc

/-- The outcome for a Check. -/
structure LintResult where
  /-- The identifier of the Check. -/
  check : String
  /-- The diagnostics, by rule and then by place. -/
  diagnostics : List Diagnostic
  /-- What was recorded while links were tried. -/
  log : List TrialEntry

/-- The verdict on a Check. -/
def LintResult.verdict (r : LintResult) : Verdict := .of r.diagnostics

/-- Whether a Check passes. -/
def LintResult.passed (r : LintResult) : Bool := r.verdict = .pass

/-- The lines of a report. -/
def report (ds : List Diagnostic) : List String := ds.map Diagnostic.line

/-- Why there is no outcome. -/
inductive LintError where
  /-- The filter names unknown rules. -/
  | rules (e : UnknownRules)
  /-- The document is no Check. -/
  | load (e : LoadError)
  /-- The trial of the links gave nothing. -/
  | trial (e : TrialFailure)

/-- What a rule finds, and what was recorded meanwhile. -/
def Rule.findings (s : Settings) (h : LinkHost) (subject : Subject) (r : Rule) :
    Except TrialFailure (List Finding × List TrialEntry) :=
  match r.task with
  | .structural find => .ok (find subject, [])
  | .links =>
    match subject.check.links with
    | [] => .ok ([], [])
    | urls =>
      ((h.setup s.links).outcome urls).map fun o => (o.report.findings subject.check, o.log)

section

variable {m : Type → Type} [Monad m]

/-- Runs rules over a Check, each of them by `find`, and collects what they find, as diagnostics,
and what was recorded meanwhile. -/
def runRules (find : Rule → m (List Finding × List TrialEntry)) (id : String) :
    List Rule → m (List Diagnostic × List TrialEntry)
  | [] => pure ([], [])
  | r :: rest => do
    let (found, log) ← find r
    let (ds, more) ← runRules find id rest
    pure (found.map (Finding.diagnostic id r.name) ++ ds, log ++ more)

/-- What linting is made of, in a monad. -/
structure LintSteps (m : Type → Type) where
  /-- Refuses a filter. -/
  refuse : UnknownRules → m LintResult
  /-- Reads a document, maybe strictly. -/
  load : Bool → Source → m Check
  /-- Runs rules. -/
  rules : Subject → List Rule → m (List Diagnostic × List TrialEntry)

/-- Runs the rules that a filter selects over a Check. -/
def LintSteps.run (steps : LintSteps m) (s : Settings) (f : RuleFilter) (c : Check) :
    m LintResult :=
  match f.select s.registry with
  | .error e => steps.refuse e
  | .ok rules => do
    let (ds, log) ← steps.rules (c.subject s.env) rules
    pure ⟨c.id, ds, log⟩

/-- Reads a document and runs the rules of a filter over it, or those of the settings where no
filter is given. -/
def LintSteps.lint (steps : LintSteps m) (s : Settings) (f : Option RuleFilter) (source : Source) :
    m LintResult :=
  let f := f.getD s.rules
  match f.unknown? s.registry with
  | some e => steps.refuse e
  | none => do
    let c ← steps.load s.strict source
    steps.run s f c

end

/-- The steps of linting, each of which may end it. -/
def LintSteps.plain (s : Settings) (h : LinkHost) : LintSteps (Except LintError) where
  refuse e := .error (.rules e)
  load strict source := (Check.load strict source).mapError .load
  rules subject rules :=
    (runRules (Rule.findings s h subject) subject.check.id rules).mapError .trial

/-- Runs the rules that a filter selects over a Check. -/
def Settings.run (s : Settings) (f : RuleFilter) (h : LinkHost) (c : Check) :
    Except LintError LintResult :=
  (LintSteps.plain s h).run s f c

/-- Lints a document under the rules of a filter, or those of the settings. -/
def Settings.lint (s : Settings) (f : Option RuleFilter) (h : LinkHost) (source : Source) :
    Except LintError LintResult :=
  (LintSteps.plain s h).lint s f source

namespace Settings

variable {s : Settings} {f : RuleFilter}

/-- A run is refused with its filter. -/
theorem run_of_select_error {e : UnknownRules} (hf : f.select s.registry = .error e) (h : LinkHost)
    (c : Check) : s.run f h c = .error (.rules e) := by
  rw [run, LintSteps.run, hf]
  rfl

/-- A run comes out as the rules that its filter selects. -/
theorem run_of_select_ok {rules : List Rule} (hf : f.select s.registry = .ok rules) (h : LinkHost)
    (c : Check) : s.run f h c =
      match runRules (Rule.findings s h (c.subject s.env)) c.id rules with
      | .error e => .error (.trial e)
      | .ok (ds, log) => .ok ⟨c.id, ds, log⟩ := by
  rw [run, LintSteps.run, hf]
  show Except.bind (Except.mapError _ (runRules (Rule.findings s h (c.subject s.env)) c.id rules))
    _ = _
  cases runRules (Rule.findings s h (c.subject s.env)) c.id rules <;> rfl

/-- Linting is refused with its filter, ends with a document that is no Check, and otherwise is a
run over the Check. -/
theorem lint_eq (s : Settings) (o : Option RuleFilter) (h : LinkHost) (source : Source) :
    s.lint o h source =
      match (o.getD s.rules).unknown? s.registry with
      | some e => .error (.rules e)
      | none =>
        match Check.load s.strict source with
        | .error e => .error (.load e)
        | .ok c => s.run (o.getD s.rules) h c := by
  unfold lint LintSteps.lint
  dsimp only
  cases (o.getD s.rules).unknown? s.registry with
  | some e => rfl
  | none =>
    show Except.bind (Except.mapError _ (Check.load s.strict source)) _ = _
    cases Check.load s.strict source <;> rfl

end Settings

/-- The outcome as plain data. -/
structure LintAnswer where
  /-- Whether the document is a Check that passes. -/
  result : Bool
  /-- The report, or why the document is no Check. -/
  messages : List String
  deriving DecidableEq

/-- The line for a document that is no Check. -/
def parseErrorLine (d : Defect) : String := "Parse error - " ++ d.message

/-- Lints a document for a host that wants plain data. -/
def Settings.respond (s : Settings) (f : Option RuleFilter) (h : LinkHost) (source : Source) :
    Except LintError LintAnswer :=
  match s.lint f h source with
  | .ok r => .ok ⟨r.passed, report r.diagnostics⟩
  | .error (.load (.defect d)) => .ok ⟨false, [parseErrorLine d]⟩
  | .error e => .error e

end CheckDoc
