import CheckDoc.Proofs.Lint.WellFormed

/-!
# Runs of selected rules

A run of some of the rules has, of the diagnostics of a run of all of them, those of the rules that
its filter asks for (`Settings.run_selected`). Each rule is run on the Check alone, so what it
reports does not depend on the rules beside it, and what a structural rule reports does not depend
on the host either. A diagnostic bears the name of its rule, and it is an error unless that rule is
the one on deprecated fields.
-/

namespace CheckDoc

/-- A filter asks for the rule of a name: it is among the selected ones, where any are named, and it
is not skipped. -/
structure RuleFilter.Asks (f : RuleFilter) (name : String) : Prop where
  /-- The rule is selected. -/
  selected : ∀ names, f.selected = some names → name ∈ names
  /-- The rule is not skipped. -/
  not_skipped : name ∉ f.skipped

/-- All names of a filter are those of rules of a registry. -/
structure RuleFilter.KnownTo (f : RuleFilter) (g : Registry) : Prop where
  /-- The selected rules are known. -/
  selected : ∀ names, f.selected = some names → ∀ name ∈ names, name ∈ g.names
  /-- The skipped rules are known. -/
  skipped : ∀ name ∈ f.skipped, name ∈ g.names

/-- What the diagnostics of a run over a Check look like. -/
structure LintResult.Orderly (r : LintResult) (s : Settings) (c : Check) : Prop where
  /-- They are diagnostics of the Check. -/
  check_eq : ∀ d ∈ r.diagnostics, d.check = c.id
  /-- Those of one rule stand together, in the order in which the rules are registered. -/
  grouped : r.diagnostics =
    s.registry.names.flatMap fun name => r.diagnostics.filter (·.rule = name)
  /-- The Check fails exactly where one of them is not about a deprecated field. -/
  verdict_iff : r.verdict = .fail ↔ ∃ d ∈ r.diagnostics, d.rule ≠ "deprecated-fields"

/-! ## Filters -/

section Filters

variable {f : RuleFilter} {g : Registry} {name : String}

/-- The members of a set of names. -/
theorem mem_nameSet {names : List String} : name ∈ nameSet names ↔ name ∈ names := by
  rw [nameSet, List.mem_mergeSort, List.mem_eraseDups]

/-- The test of a filter on a name. -/
theorem RuleFilter.selects_iff : f.selects name = true ↔ f.Asks name := by
  have hselected : ((f.selected.map fun names => names.contains name).getD true) = true ↔
      ∀ names, f.selected = some names → name ∈ names := by
    cases f.selected <;> simp
  rw [selects, Bool.and_eq_true, hselected, Bool.not_eq_true', ← Bool.not_eq_true,
    List.contains_iff_mem]
  exact ⟨fun h => ⟨h.1, h.2⟩, fun h => ⟨h.selected, h.not_skipped⟩⟩

instance : DecidablePred f.Asks := fun _ => decidable_of_iff _ RuleFilter.selects_iff

/-- There is a complaint about a filter exactly where it has an unknown name. -/
theorem RuleFilter.unknown?_eq_none_iff : f.unknown? g = none ↔ f.KnownTo g := by
  have hnone : f.unknown? g = none ↔ ∀ name ∈ f.named, name ∈ g.names := by
    unfold unknown?
    split
    · rename_i hnil
      simpa [Registry.contains] using hnil
    · rename_i hne
      refine iff_of_false (by simp) fun hall => hne (List.filter_eq_nil_iff.2 fun name hname => ?_)
      simpa [Registry.contains] using hall name hname
  rw [hnone]
  simp only [named, mem_nameSet, List.mem_append]
  constructor
  · refine fun h => ⟨fun names hnames name hname => h name (.inr ?_), fun name hname =>
      h name (.inl hname)⟩
    rwa [hnames, Option.getD_some]
  · rintro h name (hname | hname)
    · exact h.skipped name hname
    · cases hselected : f.selected with
      | none => simp [hselected] at hname
      | some names =>
        rw [hselected, Option.getD_some] at hname
        exact h.selected names hselected name hname

/-- The rules that a filter selects are those it asks for. -/
theorem RuleFilter.select_eq_ok_iff {rules : List Rule} :
    f.select g = .ok rules ↔ f.KnownTo g ∧ rules = g.rules.filter fun r => f.Asks r.name := by
  have hrules : (g.rules.filter fun r => f.selects r.name) =
      g.rules.filter fun r => f.Asks r.name :=
    List.filter_congr fun r _ => by simp [← RuleFilter.selects_iff]
  rw [← unknown?_eq_none_iff, select, hrules]
  cases f.unknown? g with
  | none => simp [eq_comm]
  | some e => simp

end Filters

/-! ## What one rule reports -/

variable {s : Settings} {h : LinkHost} {subject : Subject}

/-- The diagnostics of a rule at a host, none where it breaks down. -/
def Rule.reported (s : Settings) (h : LinkHost) (subject : Subject) (r : Rule) :
    List Diagnostic :=
  match r.findings s h subject with
  | .ok (found, _) => found.map (Finding.diagnostic subject.check.id r.name)
  | .error _ => []

/-- A rule runs to its end at a host. -/
def Rule.Returns (s : Settings) (h : LinkHost) (subject : Subject) (r : Rule) : Prop :=
  ∃ found log, r.findings s h subject = .ok (found, log)

/-- Rules run to their end together where each of them does, and then they report one after the
other what each of them reports. -/
theorem exists_runRules_iff {rules : List Rule} {ds : List Diagnostic} :
    (∃ log, runRules (Rule.findings s h subject) subject.check.id rules = .ok (ds, log)) ↔
      (∀ r ∈ rules, r.Returns s h subject) ∧ ds = rules.flatMap (Rule.reported s h subject) := by
  induction rules generalizing ds with
  | nil => simp [runRules, pure, Except.pure, eq_comm]
  | cons r rules ih =>
    rw [List.forall_mem_cons, List.flatMap_cons]
    constructor
    · rintro ⟨log, hrun⟩
      rw [runRules] at hrun
      obtain ⟨⟨found, log⟩, hfound, hrun⟩ := bind_eq_ok_iff.1 hrun
      obtain ⟨⟨rest, more⟩, hrest, hrun⟩ := bind_eq_ok_iff.1 hrun
      cases hrun
      obtain ⟨hreturns, hds⟩ := ih.1 ⟨more, hrest⟩
      exact ⟨⟨⟨found, log, hfound⟩, hreturns⟩, by rw [Rule.reported, hfound, hds]⟩
    · rintro ⟨⟨⟨found, log, hfound⟩, hreturns⟩, rfl⟩
      obtain ⟨more, hrest⟩ := ih.2 ⟨hreturns, rfl⟩
      refine ⟨log ++ more, ?_⟩
      rw [runRules, hfound, hrest, Rule.reported, hfound]
      rfl

/-- A diagnostic of a rule bears the name of the rule and that of the Check. -/
theorem Rule.rule_of_mem_reported {r : Rule} {d : Diagnostic} (hd : d ∈ r.reported s h subject) :
    d.rule = r.name ∧ d.check = subject.check.id := by
  unfold reported at hd
  split at hd
  · obtain ⟨f, -, rfl⟩ := List.mem_map.1 hd
    exact ⟨rfl, rfl⟩
  · exact absurd hd List.not_mem_nil

/-- The diagnostics of a rule are all kept or all dropped where they are chosen by their rule. -/
theorem Rule.filter_reported (p : String → Prop) [DecidablePred p] (r : Rule) :
    (r.reported s h subject).filter (fun d => p d.rule) =
      if p r.name then r.reported s h subject else [] := by
  split_ifs with hp
  · exact List.filter_eq_self.2 fun d hd => by simpa [(rule_of_mem_reported hd).1] using hp
  · exact List.filter_eq_nil_iff.2 fun d hd => by simpa [(rule_of_mem_reported hd).1] using hp

/-- To choose diagnostics by their rule is to choose rules. -/
theorem filter_flatMap_reported (p : String → Prop) [DecidablePred p] (rules : List Rule) :
    (rules.flatMap (Rule.reported s h subject)).filter (fun d => p d.rule) =
      (rules.filter fun r => p r.name).flatMap (Rule.reported s h subject) := by
  induction rules with
  | nil => rfl
  | cons r rules ih =>
    rw [List.flatMap_cons, List.filter_append, ih, Rule.filter_reported, List.filter_cons]
    by_cases hp : p r.name
    · simp [hp]
    · simp [hp]

/-- Where the names of rules differ, what they report is grouped by their names. -/
theorem flatMap_reported_eq_grouped {rules : List Rule} (hnames : (rules.map (·.name)).Nodup) :
    rules.flatMap (Rule.reported s h subject) = (rules.map (·.name)).flatMap fun name =>
      (rules.flatMap (Rule.reported s h subject)).filter (·.rule = name) := by
  rw [List.flatMap_map]
  refine List.flatMap_congr fun r hr => ?_
  -- Of the rules only `r` has the name of `r`.
  have hsingle : (rules.filter fun q => q.name = r.name) = [r] := by
    rw [← List.perm_singleton, List.perm_ext_iff_of_nodup ((hnames.of_map _).filter _)
      (List.nodup_singleton r)]
    intro q
    rw [List.mem_filter, decide_eq_true_eq, List.mem_singleton]
    refine ⟨fun ⟨hq, hname⟩ => List.inj_on_of_nodup_map hnames hq hr hname, ?_⟩
    rintro rfl
    exact ⟨hr, rfl⟩
  rw [filter_flatMap_reported (· = r.name), hsingle, List.flatMap_singleton]

/-! ## The rules of a registry -/

/-- The names of the rules of a registry differ. -/
theorem nodup_registry_names (s : Settings) : s.registry.names.Nodup := by
  rw [Settings.registry_names_eq s .standard]
  decide

/-- A registry has the structural rules and the one on links. -/
theorem mem_registry_rules {r : Rule} :
    r ∈ s.registry.rules ↔ r ∈ structuralRules s ∨ r = linkRule := by
  rw [Settings.registry, Registry.builtIn_eq, List.mem_append, List.mem_singleton]

/-- A rule other than that on links reports the same at each host. -/
theorem reported_eq_of_ne_linkRule {r : Rule} (hr : r ∈ s.registry.rules)
    (hname : r.name ≠ linkRule.name) (h h' : LinkHost) :
    r.reported s h subject = r.reported s h' subject := by
  have hstructural := (mem_registry_rules.1 hr).resolve_right fun heq => hname (heq ▸ rfl)
  have hcancellable := cancellable_of_mem_structuralRules s r hstructural
  rw [Rule.reported, Rule.reported, Rule.findings_of_not_cancellable s h subject hcancellable,
    Rule.findings_of_not_cancellable s h' subject hcancellable]

/-- Of the structural rules only that on deprecated fields finds the use of what is deprecated, and
it finds nothing else. -/
theorem eq_premiumSet_iff_of_mem_found {r : Rule} (hr : r ∈ structuralRules s) {f : Finding}
    (hf : f ∈ r.found subject) : f = .premiumSet ↔ r.name = "deprecated-fields" := by
  obtain ⟨hempty, hform, hnames, hexpr, hreference, hcycles, hshape, hmetadata⟩ :=
    subject.premiumSet_not_mem s.targetTypes s.providers
  simp only [structuralRules, List.mem_cons, List.not_mem_nil, or_false] at hr
  rcases hr with rfl | rfl | rfl | rfl | rfl | rfl | rfl | rfl | rfl
  · exact iff_of_false (ne_of_mem_of_not_mem hf hempty) (by simp)
  · exact iff_of_false (ne_of_mem_of_not_mem hf hform) (by simp)
  · exact iff_of_false (ne_of_mem_of_not_mem hf hnames) (by simp)
  · exact iff_of_false (ne_of_mem_of_not_mem hf hexpr) (by simp)
  · exact iff_of_false (ne_of_mem_of_not_mem hf hreference) (by simp)
  · exact iff_of_false (ne_of_mem_of_not_mem hf hcycles) (by simp)
  · exact iff_of_false (ne_of_mem_of_not_mem hf hshape) (by simp)
  · exact iff_of_false (ne_of_mem_of_not_mem hf hmetadata) (by simp)
  · exact iff_of_true (Subject.eq_premiumSet_of_mem hf) rfl

/-- What the rule on links finds is not the use of what is deprecated. -/
theorem ne_premiumSet_of_linkRule {found : List Finding} {log : List TrialEntry}
    (hfound : linkRule.findings s h subject = .ok (found, log)) : .premiumSet ∉ found := by
  have hreport : ∀ report : LinkReport, .premiumSet ∉ report.findings subject.check := by
    intro report
    cases htruncated : report.truncated <;> simp [LinkReport.findings, htruncated]
  unfold Rule.findings at hfound
  simp only [linkRule] at hfound
  split at hfound
  · cases hfound
    exact List.not_mem_nil
  · obtain ⟨o, -, heq⟩ := map_eq_ok_iff.1 hfound
    cases heq
    exact hreport o.report

/-- A diagnostic of a rule is an error unless the rule is that on deprecated fields. -/
theorem severity_of_mem_reported {r : Rule} (hr : r ∈ s.registry.rules) {d : Diagnostic}
    (hd : d ∈ r.reported s h subject) : d.severity = .error ↔ d.rule ≠ "deprecated-fields" := by
  have hpremium : ∀ found log, r.findings s h subject = .ok (found, log) → ∀ f ∈ found,
      (f = .premiumSet ↔ r.name = "deprecated-fields") := by
    intro found log hfound f hf
    rcases mem_registry_rules.1 hr with hstructural | rfl
    · rw [Rule.findings_of_not_cancellable s h subject
        (cancellable_of_mem_structuralRules s r hstructural)] at hfound
      cases hfound
      exact eq_premiumSet_iff_of_mem_found hstructural hf
    · exact iff_of_false (ne_of_mem_of_not_mem hf (ne_premiumSet_of_linkRule hfound)) (by decide)
  unfold Rule.reported at hd
  split at hd
  · rename_i found log hfound
    obtain ⟨f, hf, rfl⟩ := List.mem_map.1 hd
    have hseverity : f.severity ≠ .error ↔ r.name = "deprecated-fields" :=
      Finding.severity_ne_error_iff.trans (hpremium found log hfound f hf)
    exact not_iff_not.1 (hseverity.trans not_not.symm)
  · exact absurd hd List.not_mem_nil

/-! ## Runs -/

/-- Diagnostics that are grouped by some names stay so where some of them are dropped. -/
theorem grouped_filter {ds : List Diagnostic} {names : List String} (p : Diagnostic → Prop)
    [DecidablePred p] (hds : ds = names.flatMap fun name => ds.filter (·.rule = name)) :
    ds.filter (fun d => p d) =
      names.flatMap fun name => (ds.filter fun d => p d).filter (·.rule = name) := by
  calc ds.filter (fun d => p d)
      = (names.flatMap fun name => ds.filter (·.rule = name)).filter fun d => p d := by rw [← hds]
    _ = names.flatMap fun name => (ds.filter (·.rule = name)).filter fun d => p d :=
      List.filter_flatMap
    _ = names.flatMap fun name => (ds.filter fun d => p d).filter (·.rule = name) :=
      List.flatMap_congr fun name _ => List.filter_comm _ _ _

namespace Settings

variable {f : RuleFilter} {c : Check}

/-- A run over a Check has an outcome, or the trial of its links breaks down. -/
theorem run_cases (hf : f.KnownTo s.registry) (h : LinkHost) (c : Check) :
    (∃ r, s.run f h c = .ok r) ∨ ∃ e, s.run f h c = .error (.trial e) := by
  rw [run_of_select_ok (RuleFilter.select_eq_ok_iff.2 ⟨hf, rfl⟩)]
  split
  · exact .inr ⟨_, rfl⟩
  · exact .inl ⟨_, rfl⟩

/-- A run of a filter has an outcome where the filter has known names only and each rule that it
asks for runs to its end. The diagnostics are then what these rules report. -/
theorem exists_run_iff {ds : List Diagnostic} :
    (∃ r, s.run f h c = .ok r ∧ r.diagnostics = ds) ↔ f.KnownTo s.registry ∧
      (∀ r ∈ s.registry.rules, f.Asks r.name → r.Returns s h (c.subject s.env)) ∧
      ds = (s.registry.rules.filter fun r => f.Asks r.name).flatMap
        (Rule.reported s h (c.subject s.env)) := by
  cases hselect : f.select s.registry with
  | error e =>
    refine iff_of_false ?_ fun hall => ?_
    · rintro ⟨r, hr, -⟩
      rw [run_of_select_error hselect] at hr
      cases hr
    · rw [RuleFilter.select_eq_ok_iff.2 ⟨hall.1, rfl⟩] at hselect
      cases hselect
  | ok rules =>
    obtain ⟨hknown, rfl⟩ := RuleFilter.select_eq_ok_iff.1 hselect
    have hrun : (∃ r, s.run f h c = .ok r ∧ r.diagnostics = ds) ↔
        ∃ log, runRules (Rule.findings s h (c.subject s.env)) c.id
          (s.registry.rules.filter fun r => f.Asks r.name) = .ok (ds, log) := by
      rw [run_of_select_ok hselect]
      split
      · rename_i heq
        simp [heq]
      · rename_i ds' log heq
        simp [heq, eq_comm]
    rw [hrun]
    refine exists_runRules_iff.trans ?_
    simp only [List.mem_filter, decide_eq_true_eq, and_imp, hknown, true_and]

/-- The diagnostics of a run are of its Check and grouped by rules, and it fails exactly where one
of them is not about a deprecated field. -/
theorem orderly_of_run {r : LintResult} (hr : s.run f h c = .ok r) : r.Orderly s c := by
  obtain ⟨-, -, hds⟩ := exists_run_iff.1 ⟨r, hr, rfl⟩
  have hgrouped : s.registry.rules.flatMap (Rule.reported s h (c.subject s.env)) =
      s.registry.names.flatMap fun name =>
        (s.registry.rules.flatMap (Rule.reported s h (c.subject s.env))).filter (·.rule = name) :=
    flatMap_reported_eq_grouped (nodup_registry_names s)
  rw [← filter_flatMap_reported f.Asks] at hds
  have hmem : ∀ d ∈ r.diagnostics,
      ∃ q ∈ s.registry.rules, d ∈ q.reported s h (c.subject s.env) := by
    intro d hd
    rw [hds] at hd
    exact List.mem_flatMap.1 (List.mem_of_mem_filter hd)
  refine ⟨fun d hd => ?_, ?_, ?_⟩
  · obtain ⟨q, -, hq⟩ := hmem d hd
    exact (Rule.rule_of_mem_reported hq).2
  · rw [hds]
    exact grouped_filter (fun d => f.Asks d.rule) hgrouped
  · have herror : ∀ d ∈ r.diagnostics, (d.severity = .error ↔ d.rule ≠ "deprecated-fields") := by
      intro d hd
      obtain ⟨q, hq, hdq⟩ := hmem d hd
      exact severity_of_mem_reported hq hdq
    have hfail : r.verdict = .fail ↔ r.verdict ≠ .pass := by
      cases r.verdict <;> simp
    rw [hfail, LintResult.verdict, ne_eq, Verdict.of_eq_pass_iff]
    simp only [not_forall, not_not, exists_prop]
    exact exists_congr fun d => and_congr_right (herror d)

/-- Where the run of all rules over a Check has an outcome, so has the run of each filter with known
names, and its diagnostics are, in the same order, those of the rules that the filter asks for. The
diagnostics of the rules other than that on links are the same at each host, and a run without that
rule has an outcome at each host. -/
theorem run_selected (s : Settings) (h : LinkHost) (c : Check) (whole : LintResult)
    (hwhole : s.run .all h c = .ok whole) :
    whole.Orderly s c ∧
    (∀ f, f.KnownTo s.registry → ∃ part, s.run f h c = .ok part ∧ part.Orderly s c ∧
      part.diagnostics = whole.diagnostics.filter fun d => f.Asks d.rule) ∧
    (∀ f h' other, s.run f h' c = .ok other →
      other.diagnostics.filter (·.rule ≠ linkRule.name) =
        whole.diagnostics.filter fun d => f.Asks d.rule ∧ d.rule ≠ linkRule.name) ∧
    ∀ f, f.KnownTo s.registry → ¬ f.Asks linkRule.name →
      ∀ h', ∃ other, s.run f h' c = .ok other := by
  have hall : ∀ name, RuleFilter.all.Asks name := fun name => ⟨nofun, List.not_mem_nil⟩
  obtain ⟨-, hreturns, hds⟩ := exists_run_iff.1 ⟨whole, hwhole, rfl⟩
  simp only [hall, decide_true, List.filter_true, forall_const] at hreturns hds
  refine ⟨orderly_of_run hwhole, fun f hf => ?_, fun f h' other hother => ?_,
    fun f hf hlinks h' => ?_⟩
  · obtain ⟨part, hpart, heq⟩ := exists_run_iff.2 ⟨hf, fun r hr _ => hreturns r hr, rfl⟩
    refine ⟨part, hpart, orderly_of_run hpart, ?_⟩
    rw [heq, hds, filter_flatMap_reported f.Asks]
  · obtain ⟨-, -, heq⟩ := exists_run_iff.1 ⟨other, hother, rfl⟩
    have hrules : ((s.registry.rules.filter fun r => f.Asks r.name).filter fun r =>
        r.name ≠ linkRule.name) =
          s.registry.rules.filter fun r => f.Asks r.name ∧ r.name ≠ linkRule.name := by
      rw [List.filter_filter]
      exact List.filter_congr fun r _ => by rw [Bool.decide_and, Bool.and_comm]
    rw [heq, hds, filter_flatMap_reported (· ≠ linkRule.name), hrules,
      filter_flatMap_reported fun name => f.Asks name ∧ name ≠ linkRule.name]
    refine List.flatMap_congr fun r hr => ?_
    obtain ⟨hr, hasked⟩ := List.mem_filter.1 hr
    exact reported_eq_of_ne_linkRule hr (of_decide_eq_true hasked).2 h' h
  · have hreturns' : ∀ r ∈ s.registry.rules, f.Asks r.name → r.Returns s h' (c.subject s.env) := by
      intro r hr hasked
      have hne : r ≠ linkRule := fun heq => hlinks (heq ▸ hasked)
      have hstructural := (mem_registry_rules.1 hr).resolve_right hne
      exact ⟨_, _, Rule.findings_of_not_cancellable s h' _
        (cancellable_of_mem_structuralRules s r hstructural)⟩
    obtain ⟨other, hother, -⟩ := exists_run_iff.2 ⟨hf, hreturns', rfl⟩
    exact ⟨other, hother⟩

/-- A Check with a link, a deprecated field and no expectations, at a host that stops before the
first request: skipping the rule on links takes away its error, and no other one. -/
theorem run_selected_excluding :
    let c : Check :=
      ⟨"1.1", "clock", "base", "See http://a.", "", none, [], [], [], some true⟩
    let h := { LinkHost.offline with signal := .already }
    let empty : Diagnostic :=
      ⟨"1.1", "expectations", "expectations-not-empty", .error, "List must not be empty"⟩
    let premium : Diagnostic := ⟨"1.1", "premium", "deprecated-fields", .warning,
      "Property 'premium' is deprecated and will be removed in the future"⟩
    let link : Diagnostic := ⟨"1.1", "links", "link-validity", .error,
      "Link check truncated: 1 of 1 link(s) not checked"⟩
    ∃ whole, standard.run .all h c = .ok whole ∧ whole.diagnostics = [empty, premium, link] ∧
      whole.Orderly standard c ∧
      ∃ part, standard.run (.excluding ["link-validity"]) h c = .ok part ∧
        part.Orderly standard c ∧ part.diagnostics = [empty, premium] := by
  intro c h empty premium link
  have hds : (standard.run .all h c).toOption.map (·.diagnostics) =
      some [empty, premium, link] := by decide +kernel
  obtain ⟨whole, hwhole, hdiagnostics⟩ := exists_of_map_toOption hds
  obtain ⟨horderly, hparts, -⟩ := run_selected standard h c whole hwhole
  obtain ⟨part, hpart, hpartOrderly, heq⟩ := hparts (.excluding ["link-validity"])
    (RuleFilter.unknown?_eq_none_iff.1 (by decide +kernel))
  refine ⟨whole, hwhole, hdiagnostics, horderly, part, hpart, hpartOrderly, ?_⟩
  rw [heq, hdiagnostics]
  decide +kernel

end Settings

end CheckDoc
