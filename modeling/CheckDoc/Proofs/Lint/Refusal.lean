import CheckDoc.Proofs.Lint.Selection

/-!
# What is done while a document is linted

`Settings.recordedLint` is linting by steps that record their deeds (`LintSteps.recorded`): that the
document is read, which rules run, and what happens while links are tried. Apart from the record it
is `Settings.lint` (`outcome_recordedLint`). Linting is refused exactly where the filter in force
has an unknown name, and then nothing is done; otherwise the rules that run are those that the
filter asks for, each once and in the order of the registry (`Settings.lint_refused_iff`).
-/

namespace CheckDoc

/-- What is done while a document is linted. -/
inductive LintDeed where
  /-- The document is read. -/
  | read
  /-- The rule of a name runs. -/
  | rule (name : String)
  /-- Something is recorded while links are tried: a call of the probe, or a rest. -/
  | entry (e : TrialEntry)
  deriving DecidableEq

/-- The rule that a deed is about. -/
def LintDeed.rule? : LintDeed → Option String
  | rule name => some name
  | _ => none

/-- What a deed records of links. -/
def LintDeed.entry? : LintDeed → Option TrialEntry
  | entry e => some e
  | _ => none

/-- What comes out, with the deeds on the way. -/
structure Recorded (ε α : Type) where
  /-- The deeds in order. -/
  deeds : List LintDeed
  /-- What comes out. -/
  outcome : Except ε α

namespace Recorded

variable {ε ε' α β : Type}

/-- Goes on from a result; a failure is the end. -/
def bind (x : Recorded ε α) (f : α → Recorded ε β) : Recorded ε β :=
  match x.outcome with
  | .error e => ⟨x.deeds, .error e⟩
  | .ok a => ⟨x.deeds ++ (f a).deeds, (f a).outcome⟩

instance : Monad (Recorded ε) where
  pure a := ⟨[], .ok a⟩
  bind := bind

/-- The same deeds, with failures of another kind. -/
def mapError (g : ε → ε') (x : Recorded ε α) : Recorded ε' α := ⟨x.deeds, x.outcome.mapError g⟩

/-- Apart from the deeds it is the bind of the outcomes. -/
@[simp]
theorem outcome_bind (x : Recorded ε α) (f : α → Recorded ε β) :
    (x >>= f).outcome = x.outcome >>= fun a => (f a).outcome := by
  show (x.bind f).outcome = _
  unfold bind
  cases x.outcome with
  | error e => rfl
  | ok a => rfl

/-- After a result the deeds go on. -/
theorem deeds_bind_ok {x : Recorded ε α} {a : α} (h : x.outcome = .ok a) (f : α → Recorded ε β) :
    (x >>= f).deeds = x.deeds ++ (f a).deeds := by
  show (x.bind f).deeds = _
  rw [bind, h]

/-- After a failure there are no deeds. -/
theorem deeds_bind_error {x : Recorded ε α} {e : ε} (h : x.outcome = .error e)
    (f : α → Recorded ε β) : (x >>= f).deeds = x.deeds := by
  show (x.bind f).deeds = _
  rw [bind, h]

end Recorded

/-! ## Linting with a record -/

/-- What a rule records of links, also where their trial breaks down. -/
def Rule.entries (s : Settings) (h : LinkHost) (subject : Subject) (r : Rule) :
    List TrialEntry :=
  match r.task with
  | .structural _ => []
  | .links =>
    match subject.check.links with
    | [] => []
    | urls => (Trial.ofUrls (h.setup s.links) urls).log.reverse

/-- A rule with the record of its run. -/
def Rule.recorded (s : Settings) (h : LinkHost) (subject : Subject) (r : Rule) :
    Recorded TrialFailure (List Finding × List TrialEntry) :=
  ⟨.rule r.name :: (r.entries s h subject).map .entry, r.findings s h subject⟩

/-- The steps of linting with the record of what they do. -/
def LintSteps.recorded (s : Settings) (h : LinkHost) : LintSteps (Recorded LintError) where
  refuse e := ⟨[], .error (.rules e)⟩
  load strict source := .mapError .load ⟨[.read], Check.load strict source⟩
  rules subject rules :=
    (runRules (Rule.recorded s h subject) subject.check.id rules).mapError .trial

namespace Settings

/-- The run of a filter over a Check, with its record. -/
def recordedRun (s : Settings) (f : RuleFilter) (h : LinkHost) (c : Check) :
    Recorded LintError LintResult :=
  (LintSteps.recorded s h).run s f c

/-- Linting with its record. -/
def recordedLint (s : Settings) (f : Option RuleFilter) (h : LinkHost) (source : Source) :
    Recorded LintError LintResult :=
  (LintSteps.recorded s h).lint s f source

end Settings

variable {s : Settings} {h : LinkHost} {subject : Subject} {id : String}

/-- Apart from the record the rules run as they do. -/
theorem outcome_runRules_recorded (s : Settings) (h : LinkHost) (subject : Subject) (id : String)
    (rules : List Rule) :
    (runRules (Rule.recorded s h subject) id rules).outcome =
      runRules (Rule.findings s h subject) id rules := by
  induction rules with
  | nil => rfl
  | cons r rules ih =>
    rw [runRules, runRules, Recorded.outcome_bind]
    refine bind_congr fun found => ?_
    dsimp only
    rw [Recorded.outcome_bind, ih]
    rfl

/-- Apart from the record a run over a Check is one. -/
theorem outcome_recordedRun (s : Settings) (f : RuleFilter) (h : LinkHost) (c : Check) :
    (s.recordedRun f h c).outcome = s.run f h c := by
  rw [Settings.recordedRun, Settings.run, LintSteps.run, LintSteps.run]
  cases f.select s.registry with
  | error e => rfl
  | ok rules =>
    dsimp only [LintSteps.recorded, LintSteps.plain]
    rw [Recorded.outcome_bind, Recorded.mapError, outcome_runRules_recorded]
    rfl

/-- Apart from the record it is linting. -/
theorem outcome_recordedLint (s : Settings) (f : Option RuleFilter) (h : LinkHost)
    (source : Source) : (s.recordedLint f h source).outcome = s.lint f h source := by
  rw [Settings.recordedLint, Settings.lint, LintSteps.lint, LintSteps.lint]
  cases (f.getD s.rules).unknown? s.registry with
  | some e => rfl
  | none =>
    dsimp only
    rw [Recorded.outcome_bind]
    exact bind_congr fun c => outcome_recordedRun s _ h c

/-! ## The deeds of rules -/

/-- A rule that comes to its end reports what is recorded of it. -/
theorem Rule.log_eq_entries {r : Rule} {found : List Finding} {log : List TrialEntry}
    (hr : r.findings s h subject = .ok (found, log)) : log = r.entries s h subject := by
  unfold findings at hr
  unfold entries
  cases htask : r.task with
  | structural find =>
    rw [htask] at hr
    cases hr
    rfl
  | links =>
    rw [htask] at hr
    dsimp only at hr ⊢
    cases hlinks : subject.check.links with
    | nil =>
      rw [hlinks] at hr
      cases hr
      rfl
    | cons url urls =>
      rw [hlinks] at hr
      obtain ⟨o, ho, heq⟩ := map_eq_ok_iff.1 hr
      cases heq
      -- A trial with an outcome has kept its log.
      unfold TrialSetup.outcome at ho
      dsimp only at ho
      split at ho <;> cases ho
      rfl

/-- The rule that runs. -/
theorem Rule.filterMap_rule?_recorded (r : Rule) :
    (r.recorded s h subject).deeds.filterMap LintDeed.rule? = [r.name] := by
  have hentries : ((r.entries s h subject).map LintDeed.entry).filterMap LintDeed.rule? = [] :=
    List.filterMap_eq_nil_iff.2 (List.forall_mem_map.2 fun _ _ => rfl)
  calc (r.recorded s h subject).deeds.filterMap LintDeed.rule?
    _ = r.name :: ((r.entries s h subject).map LintDeed.entry).filterMap LintDeed.rule? :=
      List.filterMap_cons_some rfl
    _ = [r.name] := by rw [hentries]

/-- What is recorded of the links of a rule. -/
theorem Rule.filterMap_entry?_recorded (r : Rule) :
    (r.recorded s h subject).deeds.filterMap LintDeed.entry? = r.entries s h subject := by
  calc (r.recorded s h subject).deeds.filterMap LintDeed.entry?
    _ = ((r.entries s h subject).map LintDeed.entry).filterMap LintDeed.entry? :=
      List.filterMap_cons_none rfl
    _ = r.entries s h subject := by
      rw [List.filterMap_map]
      exact List.filterMap_some

/-- After a rule that comes to its end the others run. -/
theorem deeds_runRules_cons {r : Rule} {found : List Finding × List TrialEntry}
    (hr : r.findings s h subject = .ok found) (rest : List Rule) :
    (runRules (Rule.recorded s h subject) id (r :: rest)).deeds =
      (r.recorded s h subject).deeds ++ (runRules (Rule.recorded s h subject) id rest).deeds := by
  have hend : ∀ x : Recorded TrialFailure (List Diagnostic × List TrialEntry),
      (x >>= fun p => (pure (found.1.map (Finding.diagnostic id r.name) ++ p.1,
        found.2 ++ p.2) : Recorded TrialFailure _)).deeds = x.deeds := fun x => by
    cases hx : x.outcome with
    | error e => exact Recorded.deeds_bind_error hx _
    | ok a =>
      rw [Recorded.deeds_bind_ok hx]
      exact List.append_nil _
  rw [runRules, Recorded.deeds_bind_ok (a := found) hr]
  exact congrArg _ (hend _)

/-- After a rule that breaks down nothing is done. -/
theorem deeds_runRules_of_error {r : Rule} {e : TrialFailure}
    (hr : r.findings s h subject = .error e) (rest : List Rule) :
    (runRules (Rule.recorded s h subject) id (r :: rest)).deeds =
      (r.recorded s h subject).deeds := by
  rw [runRules, Recorded.deeds_bind_error (e := e) hr]

/-- The rules run one after the other, up to one that breaks down; where only the last one can, all
of them run. -/
theorem filterMap_rule?_runRules {rules : List Rule}
    (hrules : ∀ r ∈ rules.dropLast, r.cancellable = false) :
    (runRules (Rule.recorded s h subject) id rules).deeds.filterMap LintDeed.rule? =
      rules.map (·.name) := by
  induction rules with
  | nil => rfl
  | cons r rest ih =>
    cases hfindings : r.findings s h subject with
    | ok found =>
      have hrest : ∀ q ∈ rest.dropLast, q.cancellable = false := fun q hq => by
        cases rest with
        | nil => cases hq
        | cons q' rest => exact hrules q (List.mem_cons_of_mem r hq)
      rw [deeds_runRules_cons hfindings, List.filterMap_append, Rule.filterMap_rule?_recorded,
        ih hrest]
      rfl
    | error e =>
      rw [deeds_runRules_of_error hfindings, Rule.filterMap_rule?_recorded]
      cases rest with
      | nil => rfl
      | cons q rest =>
        -- A rule before the last one looks at the Check only, which does not break down.
        rw [Rule.findings_of_not_cancellable s h subject (hrules r List.mem_cons_self)]
          at hfindings
        cases hfindings

/-- Where all rules come to their end, what they report of links is what is recorded. -/
theorem filterMap_entry?_runRules {rules : List Rule} {ds : List Diagnostic}
    {log : List TrialEntry} (hrun : runRules (Rule.findings s h subject) id rules = .ok (ds, log)) :
    (runRules (Rule.recorded s h subject) id rules).deeds.filterMap LintDeed.entry? = log := by
  induction rules generalizing ds log with
  | nil =>
    cases hrun
    rfl
  | cons r rest ih =>
    rw [runRules] at hrun
    obtain ⟨⟨found, first⟩, hfindings, hrun⟩ := bind_eq_ok_iff.1 hrun
    obtain ⟨⟨ds', more⟩, hrest, hrun⟩ := bind_eq_ok_iff.1 hrun
    cases hrun
    rw [deeds_runRules_cons hfindings, List.filterMap_append, Rule.filterMap_entry?_recorded,
      ih hrest, ← Rule.log_eq_entries hfindings]

/-! ## The deeds of linting -/

/-- A filter names a rule, to select it or to skip it. -/
def RuleFilter.Names (f : RuleFilter) (name : String) : Prop :=
  (∃ names, f.selected = some names ∧ name ∈ names) ∨ name ∈ f.skipped

/-- A registry knows all names of a filter. -/
theorem RuleFilter.knownTo_iff_forall {f : RuleFilter} {g : Registry} :
    f.KnownTo g ↔ ∀ name, f.Names name → name ∈ g.names := by
  constructor
  · rintro hknown name (⟨names, hnames, hname⟩ | hname)
    · exact hknown.selected names hnames name hname
    · exact hknown.skipped name hname
  · exact fun hall => ⟨fun names hnames name hname => hall name (.inl ⟨names, hnames, hname⟩),
      fun name hname => hall name (.inr hname)⟩

/-- Of the rules that a filter selects only the last one can be cut short. -/
theorem cancellable_of_mem_dropLast_filter (p : Rule → Bool) :
    ∀ r ∈ (s.registry.rules.filter p).dropLast, r.cancellable = false := by
  have hfilter : s.registry.rules.filter p =
      (structuralRules s).filter p ++ [linkRule].filter p := by
    rw [Settings.registry, Registry.builtIn_eq, List.filter_append]
  have hstructural : ∀ r ∈ (structuralRules s).filter p, r.cancellable = false := fun r hr =>
    cancellable_of_mem_structuralRules s r (List.mem_filter.1 hr).1
  intro r hr
  rw [hfilter, List.filter_singleton] at hr
  cases hp : p linkRule with
  | true =>
    rw [hp, cond_true, List.dropLast_concat] at hr
    exact hstructural r hr
  | false =>
    rw [hp, cond_false, List.append_nil] at hr
    exact hstructural r (List.dropLast_subset _ hr)

/-- The names of the rules that a filter selects. -/
theorem RuleFilter.map_name_filter (f : RuleFilter) (g : Registry) :
    (g.rules.filter fun r => f.Asks r.name).map (·.name) =
      g.names.filter fun name => f.Asks name := by
  rw [Registry.names, List.filter_map]
  rfl

namespace Settings

variable {f : RuleFilter} {c : Check} {source : Source}

/-- The deeds of a run are those of the rules that its filter asks for. -/
theorem deeds_recordedRun (hf : f.KnownTo s.registry) :
    (s.recordedRun f h c).deeds = (runRules (Rule.recorded s h (c.subject s.env)) c.id
      (s.registry.rules.filter fun r => f.Asks r.name)).deeds := by
  rw [recordedRun, LintSteps.run, RuleFilter.select_eq_ok_iff.2 ⟨hf, rfl⟩]
  dsimp only [LintSteps.recorded]
  show (Recorded.mapError _ (runRules _ c.id _) >>= _).deeds = _
  generalize runRules (Rule.recorded s h (c.subject s.env)) c.id _ = rules
  cases houtcome : rules.outcome with
  | error e =>
    refine Recorded.deeds_bind_error (e := .trial e) ?_ _
    rw [Recorded.mapError, houtcome]
    rfl
  | ok found =>
    refine (Recorded.deeds_bind_ok (a := found) ?_ _).trans (List.append_nil _)
    rw [Recorded.mapError, houtcome]
    rfl

/-- The rules that run are those that the filter asks for. -/
theorem filterMap_rule?_recordedRun (hf : f.KnownTo s.registry) :
    (s.recordedRun f h c).deeds.filterMap LintDeed.rule? =
      s.registry.names.filter fun name => f.Asks name := by
  rw [deeds_recordedRun hf, filterMap_rule?_runRules (cancellable_of_mem_dropLast_filter _),
    RuleFilter.map_name_filter]

/-- A result tells what was recorded of links. -/
theorem filterMap_entry?_recordedRun {r : LintResult} (hr : s.run f h c = .ok r) :
    (s.recordedRun f h c).deeds.filterMap LintDeed.entry? = r.log := by
  cases hselect : f.select s.registry with
  | error e =>
    rw [run_of_select_error hselect] at hr
    cases hr
  | ok rules =>
    obtain ⟨hf, rfl⟩ := RuleFilter.select_eq_ok_iff.1 hselect
    rw [run_of_select_ok hselect] at hr
    split at hr
    · cases hr
    · rename_i ds log hrun
      cases hr
      rw [deeds_recordedRun hf, filterMap_entry?_runRules hrun]

/-- A filter with an unknown name is refused before anything is done. -/
theorem recordedLint_of_not_knownTo {o : Option RuleFilter}
    (hf : ¬ (o.getD s.rules).KnownTo s.registry) : ∃ e, ∀ h source,
      s.recordedLint o h source = ⟨[], .error (.rules e)⟩ := by
  obtain ⟨e, he⟩ := Option.ne_none_iff_exists'.1 (mt RuleFilter.unknown?_eq_none_iff.1 hf)
  refine ⟨e, fun h source => ?_⟩
  unfold recordedLint LintSteps.lint
  dsimp only
  rw [he]
  rfl

/-- With known names the document is read, and a document that is no Check ends linting. -/
theorem recordedLint_of_load_error {o : Option RuleFilter}
    (hf : (o.getD s.rules).KnownTo s.registry) {e : LoadError}
    (hload : Check.load s.strict source = .error e) :
    s.recordedLint o h source = ⟨[.read], .error (.load e)⟩ := by
  unfold recordedLint LintSteps.lint
  dsimp only [LintSteps.recorded]
  rw [RuleFilter.unknown?_eq_none_iff.2 hf, hload]
  rfl

/-- With known names a document that is a Check is read and then run over. -/
theorem recordedLint_of_load_ok {o : Option RuleFilter}
    (hf : (o.getD s.rules).KnownTo s.registry) (hload : Check.load s.strict source = .ok c) :
    s.recordedLint o h source =
      ⟨.read :: (s.recordedRun (o.getD s.rules) h c).deeds, s.run (o.getD s.rules) h c⟩ := by
  unfold recordedLint LintSteps.lint
  dsimp only [LintSteps.recorded]
  rw [RuleFilter.unknown?_eq_none_iff.2 hf, hload, ← outcome_recordedRun]
  rfl

/-- The filter in force is the one that is given, or else that of the settings. Linting is refused
exactly where it names a rule that is not registered, to select it or to skip it, whatever the
document and the host are. Then nothing is done: the document is not read, no rule runs, and nothing
is recorded of links. Otherwise the document is read first; where it is no Check, that is all, and
where it is one the registered rules run that the filter asks for, each once and in order. What is
recorded is what linting does: it comes to the same, and a result has the same log. -/
theorem lint_refused_iff (s : Settings) (o : Option RuleFilter) (h : LinkHost) (source : Source) :
    let f := o.getD s.rules
    let run := s.recordedLint o h source
    ((∃ e, s.lint o h source = .error (.rules e)) ↔
      ∃ name, f.Names name ∧ name ∉ s.registry.names) ∧
    ((∃ name, f.Names name ∧ name ∉ s.registry.names) → run.deeds = []) ∧
    ((∀ name, f.Names name → name ∈ s.registry.names) →
      (∀ e, Check.load s.strict source = .error e →
        run.deeds = [.read] ∧ s.lint o h source = .error (.load e)) ∧
      ∀ c, Check.load s.strict source = .ok c →
        run.deeds.head? = some .read ∧
        run.deeds.filterMap LintDeed.rule? = s.registry.names.filter (fun name => f.Asks name) ∧
        (run.deeds.filterMap LintDeed.rule?).Nodup) ∧
    run.outcome = s.lint o h source ∧
    ∀ r, s.lint o h source = .ok r → run.deeds.filterMap LintDeed.entry? = r.log := by
  intro f run
  have houtcome : run.outcome = s.lint o h source := outcome_recordedLint s o h source
  rw [← houtcome]
  by_cases hf : f.KnownTo s.registry
  · have hall := RuleFilter.knownTo_iff_forall.1 hf
    have hnone : ¬ ∃ name, f.Names name ∧ name ∉ s.registry.names := fun ⟨name, hname, hnot⟩ =>
      hnot (hall name hname)
    cases hload : Check.load s.strict source with
    | error e =>
      have hrun : run = ⟨[.read], .error (.load e)⟩ := recordedLint_of_load_error hf hload
      rw [hrun]
      refine ⟨iff_of_false (fun ⟨e', he'⟩ => by cases he') hnone, fun hex => absurd hex hnone,
        fun _ => ⟨fun e' he' => ?_, fun c hc => by cases hc⟩, rfl, fun r hr => by cases hr⟩
      cases he'
      exact ⟨rfl, rfl⟩
    | ok c =>
      have hrun : run = ⟨.read :: (s.recordedRun f h c).deeds, s.run f h c⟩ :=
        recordedLint_of_load_ok hf hload
      have hrules : run.deeds.filterMap LintDeed.rule? =
          s.registry.names.filter fun name => f.Asks name := by
        rw [hrun]
        exact filterMap_rule?_recordedRun hf
      refine ⟨iff_of_false (fun ⟨e, he⟩ => ?_) hnone, fun hex => absurd hex hnone,
        fun _ => ⟨fun e he => (by cases he), fun c' hc' => ?_⟩, rfl, fun r hr => ?_⟩
      · rw [hrun] at he
        rcases run_cases hf h c with ⟨r, hr⟩ | ⟨e', he'⟩
        · exact absurd (hr.symm.trans he) nofun
        · exact absurd (he'.symm.trans he) nofun
      · refine ⟨?_, hrules, ?_⟩
        · rw [hrun]
          rfl
        · rw [hrules]
          exact (nodup_registry_names s).filter _
      · rw [hrun] at hr ⊢
        exact filterMap_entry?_recordedRun hr
  · obtain ⟨e, hrefused⟩ := recordedLint_of_not_knownTo hf
    have hrun : run = ⟨[], .error (.rules e)⟩ := hrefused h source
    have hsome : ∃ name, f.Names name ∧ name ∉ s.registry.names := by
      rw [RuleFilter.knownTo_iff_forall] at hf
      push Not at hf
      exact hf
    rw [hrun]
    refine ⟨iff_of_true ⟨e, rfl⟩ hsome, fun _ => rfl, fun hall => ?_, rfl, fun r hr => by cases hr⟩
    exact absurd (RuleFilter.knownTo_iff_forall.2 hall) hf

/-- The document of a Check with empty texts. -/
def emptyDocument : String :=
  "\x7b'id': '', 'name': '', 'group': '', 'description': '', 'remediation': '', 'facts': []\x7d"

/-- A Check with empty texts is one. -/
theorem exists_load_emptyDocument :
    ∃ c, Check.load standard.strict (.text emptyDocument) = .ok c := by
  have hloads : (Check.load true (.text emptyDocument)).toBool = true := by decide +kernel
  cases hc : Check.load true (.text emptyDocument) with
  | ok c => exact ⟨c, hc⟩
  | error e =>
    rw [hc] at hloads
    cases hloads

/-- A rule that is both selected and skipped does not run over a Check. An unknown rule is refused,
although the text is no document at all. -/
theorem lint_refused_iff_overlapping :
    let f : RuleFilter := ⟨some ["value-cycles", "unique-names", "link-validity"], ["unique-names"]⟩
    let g : RuleFilter := ⟨some ["value-cycles"], ["unique-name"]⟩
    let run := standard.recordedLint (some f) .offline (.text emptyDocument)
    run.deeds.filterMap LintDeed.rule? = ["value-cycles", "link-validity"] ∧
      (∃ e, standard.lint (some g) .offline (.text "[") = .error (.rules e)) ∧
      (standard.recordedLint (some g) .offline (.text "[")).deeds = [] := by
  intro f g run
  have hknown : ∀ name, f.Names name → name ∈ standard.registry.names := by
    rintro name (⟨names, hnames, hname⟩ | hname)
    · obtain rfl := Option.some.inj hnames
      revert name
      decide
    · obtain rfl := List.mem_singleton.1 hname
      decide
  have hunknown : ∃ name, g.Names name ∧ name ∉ standard.registry.names :=
    ⟨"unique-name", .inr (List.mem_singleton.2 rfl), by decide⟩
  obtain ⟨c, hc⟩ := exists_load_emptyDocument
  obtain ⟨-, -, hruns, -⟩ := lint_refused_iff standard (some f) .offline (.text emptyDocument)
  obtain ⟨hrefused, hnothing, -⟩ := lint_refused_iff standard (some g) .offline (.text "[")
  refine ⟨((hruns hknown).2 c hc).2.1.trans ?_, hrefused.2 hunknown, hnothing hunknown⟩
  decide

end Settings

end CheckDoc
