import CheckDoc.Lint.Run
import CheckDoc.Proofs.Lint.Registry
import CheckDoc.Proofs.Lint.Rules

/-!
# Well-formed Checks

`Check.WellFormed` says what a Check has to be, without a word on rules, sites or searches. A run of
all rules but the one on links passes exactly the well-formed Checks (`Settings.run_passed_iff`).
All findings but one are errors, so that a run passes where no other rule finds anything; what this
means for each rule is said beside the rules.
-/

namespace CheckDoc

/-- What a Check has to be under some settings. -/
structure Check.WellFormed (c : Check) (s : Settings) : Prop where
  /-- There are expectations. -/
  expectations : c.expectations ≠ []
  /-- Each expectation has one expression, and its messages fit. -/
  fit : ∀ e ∈ c.expectations, e.IsFit
  /-- Names differ. -/
  names : c.HasUniqueNames
  /-- Conditions, comparisons and the segments of messages are expressions. -/
  expressions : ∀ t, c.Holds t → ∃ e, Expr.parse t = .ok e
  /-- Choices are choices, and can have both of the required results. -/
  choices : ∀ t, c.HoldsChoice t → ∃ choice, Choice.parse t = .ok choice ∧
    .str "passing" ∈ choice.results ∧ .str "warning" ∈ choice.results
  /-- The segments of messages are closed. -/
  templates : c.ClosesSegments
  /-- The references of expressions name something. -/
  references : ∀ t e, c.Holds t → Expr.parse t = .ok e → ∀ r ∈ e.references, c.Knows s.env r
  /-- The references of choices name something. -/
  choiceReferences : ∀ t choice, c.HoldsChoice t → Choice.parse t = .ok choice →
    ∀ r ∈ choice.references, c.Knows s.env r
  /-- No value depends on itself through other values. -/
  acyclic : ∀ n, ¬ Relation.TransGen c.DependsOn n n
  /-- The payloads of conditions have the shape of the default. -/
  shapes : ∀ v ∈ c.values, ∀ k ∈ v.conditions, k.payload.shape = v.default.shape
  /-- The kind of target and the providers are known. -/
  metadata : ∀ m, c.metadata = some m →
    (∀ t, m.targetType = some t → t ∈ s.targetTypes) ∧ ∀ p ∈ m.providers, p ∈ s.providers

/-! ## Runs of structural rules -/

/-- What a rule finds without the network. -/
def Rule.found (r : Rule) (subject : Subject) : List Finding :=
  match r.task with
  | .structural find => find subject
  | .links => []

/-- A rule that cannot be cut short finds the same at each host. -/
theorem Rule.findings_of_not_cancellable (s : Settings) (h : LinkHost) (subject : Subject)
    {r : Rule} (hr : r.cancellable = false) :
    r.findings s h subject = .ok (r.found subject, []) := by
  unfold cancellable at hr
  unfold findings found
  cases htask : r.task with
  | structural find => rfl
  | links => simp [htask] at hr

/-- Rules that cannot be cut short run to their end, and a run of them has all of their findings. -/
theorem runRules_of_not_cancellable (s : Settings) (h : LinkHost) (subject : Subject)
    {rules : List Rule} (hrules : ∀ r ∈ rules, r.cancellable = false) :
    runRules (Rule.findings s h subject) subject.check.id rules = .ok (rules.flatMap fun r =>
      (r.found subject).map (Finding.diagnostic subject.check.id r.name), []) := by
  induction rules with
  | nil => rfl
  | cons r rules ih =>
    obtain ⟨hr, hrest⟩ := List.forall_mem_cons.1 hrules
    rw [runRules, Rule.findings_of_not_cancellable s h subject hr, ih hrest]
    rfl

/-- A verdict is favourable where no diagnostic is an error. -/
theorem Verdict.of_eq_pass_iff {ds : List Diagnostic} :
    Verdict.of ds = .pass ↔ ∀ d ∈ ds, d.severity ≠ .error := by
  unfold Verdict.of
  split
  · rename_i h
    obtain ⟨d, hd, herror⟩ := List.any_eq_true.1 h
    exact iff_of_false (by simp) fun hall => hall d hd (by simpa [Diagnostic.isError] using herror)
  · rename_i h
    refine iff_of_true rfl fun d hd herror => h (List.any_eq_true.2 ⟨d, hd, ?_⟩)
    simp [Diagnostic.isError, herror]

/-- Only the use of what is deprecated is no error. -/
theorem Finding.severity_ne_error_iff {f : Finding} : f.severity ≠ .error ↔ f = .premiumSet := by
  cases f <;> simp [Finding.severity]

/-- Findings among which there is no use of what is deprecated are errors. -/
theorem forall_eq_premiumSet_iff {found : List Finding} (h : .premiumSet ∉ found) :
    (∀ f ∈ found, f = .premiumSet) ↔ found = [] := by
  refine ⟨fun hall => List.eq_nil_iff_forall_not_mem.2 fun f hf => h (hall f hf ▸ hf), ?_⟩
  rintro rfl f hf
  exact absurd hf List.not_mem_nil

/-- No structural rule can be cut short. -/
theorem cancellable_of_mem_structuralRules (s : Settings) (r : Rule)
    (hr : r ∈ structuralRules s) : r.cancellable = false := by
  simp only [structuralRules, List.mem_cons, List.not_mem_nil, or_false] at hr
  rcases hr with rfl | rfl | rfl | rfl | rfl | rfl | rfl | rfl | rfl <;> rfl

/-- The rules of a registry other than the one on links are the structural ones. -/
theorem filter_registry_rules {s : Settings} :
    (s.registry.rules.filter fun r => r.name ≠ linkRule.name) = structuralRules s := by
  rw [Settings.registry, Registry.builtIn_eq]
  rfl

/-- The set of one name. -/
theorem nameSet_singleton (n : String) : nameSet [n] = [n] := by
  simp [nameSet, List.eraseDups_cons]

/-- The filter that skips the rule on links selects every other one. -/
theorem select_excluding_linkRule (s : Settings) :
    (RuleFilter.excluding [linkRule.name]).select s.registry =
      .ok (s.registry.rules.filter fun r => r.name ≠ linkRule.name) := by
  have hnamed : (RuleFilter.excluding [linkRule.name]).named = [linkRule.name] := by
    simp [RuleFilter.named, RuleFilter.excluding, nameSet_singleton]
  have hselects : ∀ name, (RuleFilter.excluding [linkRule.name]).selects name =
      decide (name ≠ linkRule.name) := fun name => by
    simp [RuleFilter.selects, RuleFilter.excluding, nameSet_singleton]
  have hknown : s.registry.contains linkRule.name = true := by
    rw [Settings.registry, Registry.builtIn_eq]
    rfl
  simp only [RuleFilter.select, RuleFilter.unknown?, hnamed, hselects, hknown, List.filter_cons,
    List.filter_nil, Bool.not_true, Bool.false_eq_true, if_false]

/-- The rules but the last one find no use of what is deprecated. -/
theorem Subject.premiumSet_not_mem (subject : Subject) (targetTypes providers : List String) :
    .premiumSet ∉ subject.expectationsNotEmpty ∧ .premiumSet ∉ subject.expectationForm ∧
      .premiumSet ∉ subject.uniqueNames ∧ .premiumSet ∉ subject.validExpression ∧
      .premiumSet ∉ subject.validReference ∧ .premiumSet ∉ subject.valueCycles ∧
      .premiumSet ∉ subject.shapeConsistency ∧
      .premiumSet ∉ Subject.metadataValidity targetTypes providers subject := by
  refine ⟨?_, ?_, ?_, ?_, ?_, ?_, ?_, ?_⟩
  · simp [expectationsNotEmpty]
  · have hcount : ∀ e, .premiumSet ∉ expressionCount e := fun e => by
      unfold expressionCount
      split <;> simp
    have hresults : ∀ e, .premiumSet ∉ subject.choiceResults e := fun e => by
      unfold choiceResults
      split <;> simp
    simp [expectationForm, hcount, hresults, messageFit]
  · simp [uniqueNames]
  · simp [validExpression]
  · simp [validReference]
  · simp [valueCycles]
  · simp [shapeConsistency]
  · unfold metadataValidity
    split <;> simp

/-- The last rule finds nothing but the use of what is deprecated. -/
theorem Subject.eq_premiumSet_of_mem {subject : Subject} {f : Finding}
    (hf : f ∈ subject.deprecatedFields) : f = .premiumSet := by
  unfold deprecatedFields at hf
  split at hf
  · exact List.mem_singleton.1 hf
  · exact absurd hf List.not_mem_nil

/-- The structural rules find no errors exactly where none but the last one finds anything. -/
theorem forall_found_iff {s : Settings} {subject : Subject} :
    (∀ r ∈ structuralRules s, ∀ f ∈ r.found subject, f = .premiumSet) ↔
      subject.expectationsNotEmpty = [] ∧ subject.expectationForm = [] ∧
        subject.uniqueNames = [] ∧ subject.validExpression = [] ∧
        subject.validReference = [] ∧ subject.valueCycles = [] ∧
        subject.shapeConsistency = [] ∧
        Subject.metadataValidity s.targetTypes s.providers subject = [] := by
  obtain ⟨hempty, hform, hnames, hexpr, hreference, hcycles, hshape, hmetadata⟩ :=
    subject.premiumSet_not_mem s.targetTypes s.providers
  have hlast : (∀ f ∈ subject.deprecatedFields, f = .premiumSet) ↔ True :=
    iff_true_intro fun f => Subject.eq_premiumSet_of_mem
  rw [← forall_eq_premiumSet_iff hempty, ← forall_eq_premiumSet_iff hform,
    ← forall_eq_premiumSet_iff hnames, ← forall_eq_premiumSet_iff hexpr,
    ← forall_eq_premiumSet_iff hreference, ← forall_eq_premiumSet_iff hcycles,
    ← forall_eq_premiumSet_iff hshape, ← forall_eq_premiumSet_iff hmetadata]
  simp only [structuralRules, List.forall_mem_cons, Rule.found, List.not_mem_nil, false_imp_iff,
    implies_true, and_true, hlast]

/-! ## The equivalence -/

variable {c : Check} {s : Settings}

/-- The rules on a Check find nothing exactly where it is well-formed. -/
theorem Check.wellFormed_iff :
    c.WellFormed s ↔ ∀ r ∈ structuralRules s, ∀ f ∈ r.found (c.subject s.env), f = .premiumSet := by
  have hempty : (c.subject s.env).expectationsNotEmpty = [] ↔ c.expectations ≠ [] := by
    unfold Subject.expectationsNotEmpty
    show (if c.expectations.isEmpty then _ else _) = [] ↔ _
    cases c.expectations <;> simp
  rw [forall_found_iff, hempty, Check.uniqueNames_eq_nil_iff, Check.validExpression_eq_nil_iff,
    Check.validReference_eq_nil_iff, Check.valueCycles_eq_nil_iff,
    Check.shapeConsistency_eq_nil_iff, Check.metadataValidity_eq_nil_iff]
  constructor
  · intro h
    -- The choice that is found by name is the expectation's own only where names differ.
    refine ⟨h.expectations, (Check.expectationForm_eq_nil_iff h.names.expectations).2
      ⟨h.fit, fun t choice ht hparse => ?_⟩, h.names,
      ⟨h.expressions, fun t ht => ?_, h.templates⟩, ⟨h.references, h.choiceReferences⟩,
      h.acyclic, h.shapes, h.metadata⟩
    · obtain ⟨found, hfound, hresults⟩ := h.choices t ht
      obtain rfl := Except.ok.inj (hparse.symm.trans hfound)
      exact hresults
    · obtain ⟨choice, hparse, -⟩ := h.choices t ht
      exact ⟨choice, hparse⟩
  · rintro ⟨hne, hform, hnames, ⟨hexpr, hchoice, hclosed⟩, ⟨hreferences, hchoiceReferences⟩,
      hacyclic, hshapes, hmetadata⟩
    obtain ⟨hfit, hresults⟩ := (Check.expectationForm_eq_nil_iff hnames.expectations).1 hform
    refine ⟨hne, hfit, hnames, hexpr, fun t ht => ?_, hclosed, hreferences, hchoiceReferences,
      hacyclic, hshapes, hmetadata⟩
    obtain ⟨choice, hparse⟩ := hchoice t ht
    exact ⟨choice, hparse, hresults t choice ht hparse⟩

/-- A run of every rule but the one on links has an outcome, which is favourable exactly when the
Check is well-formed. -/
theorem Settings.run_passed_iff (s : Settings) (f : RuleFilter) (h : LinkHost) (c : Check)
    (hf : f.select s.registry = .ok (s.registry.rules.filter fun r => r.name ≠ linkRule.name)) :
    ∃ r, s.run f h c = .ok r ∧ (r.passed = true ↔ c.WellFormed s) := by
  rw [filter_registry_rules] at hf
  -- No rule of the run can be cut short, so the diagnostics are those of all rules in order.
  have hrun : runRules (Rule.findings s h (c.subject s.env)) c.id (structuralRules s) =
      .ok ((structuralRules s).flatMap fun r =>
        (r.found (c.subject s.env)).map (Finding.diagnostic c.id r.name), []) :=
    runRules_of_not_cancellable s h (c.subject s.env) (cancellable_of_mem_structuralRules s)
  have houtcome : s.run f h c = .ok ⟨c.id, (structuralRules s).flatMap fun r =>
      (r.found (c.subject s.env)).map (Finding.diagnostic c.id r.name), []⟩ := by
    rw [run_of_select_ok hf, hrun]
  refine ⟨_, houtcome, ?_⟩
  rw [LintResult.passed, LintResult.verdict, decide_eq_true_eq, Verdict.of_eq_pass_iff,
    List.forall_mem_flatMap, Check.wellFormed_iff]
  simp only [List.forall_mem_map, Finding.diagnostic, Finding.severity_ne_error_iff]

/-- The filter that skips the rule on links selects every other rule, so that a run with it passes a
Check with one expectation exactly when this Check is well-formed. -/
theorem Settings.run_passed_iff_single :
    let c : Check := ⟨"1.1", "clock", "base", "", "", none, [⟨"offset", "clock", ""⟩], [],
      [⟨"synchronised", some "facts.offset < 10", none, none, none, none⟩], none⟩
    (RuleFilter.excluding [linkRule.name]).select Settings.standard.registry =
        .ok (Settings.standard.registry.rules.filter fun r => r.name ≠ linkRule.name) ∧
      ∃ r, Settings.standard.run (.excluding [linkRule.name]) .offline c = .ok r ∧
        (r.passed = true ↔ c.WellFormed .standard) :=
  ⟨select_excluding_linkRule _, Settings.run_passed_iff _ _ _ _ (select_excluding_linkRule _)⟩

end CheckDoc
