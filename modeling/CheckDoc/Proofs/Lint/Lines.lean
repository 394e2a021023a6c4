import CheckDoc.Proofs.Expr.RoundTrip
import CheckDoc.Proofs.Lint.Selection
import CheckDoc.Proofs.Lint.Wording
import CheckDoc.Proofs.Link.Extraction
import CheckDoc.Proofs.Link.Report

/-!
# Where the texts of a line come from

Of the texts that the line on a finding takes over, most are names: of entries of the Check, and of
what the settings know. The identifiers of references and the links are told from the rest of a text
by their characters, and line breaks are not among these. What is left is the character after a
backslash in an expression, and the reason that the probe gives for a link (`Rule.Finds.provides`).
-/

namespace CheckDoc

open Text

/-- The names that a line may take over: those of the entries of a Check, its target type and
providers, and what the settings know. -/
inductive Check.HasLabel (c : Check) (s : Settings) : String → Prop
  /-- The name of a fact. -/
  | fact {f : Fact} (hf : f ∈ c.facts) : c.HasLabel s f.name
  /-- The name of a value. -/
  | value {v : Value} (hv : v ∈ c.values) : c.HasLabel s v.name
  /-- The name of an expectation. -/
  | expectation {e : Expectation} (he : e ∈ c.expectations) : c.HasLabel s e.name
  /-- The kind of target. -/
  | targetType {m : Metadata} {t : String} (hm : c.metadata = some m)
    (ht : m.targetType = some t) : c.HasLabel s t
  /-- A provider. -/
  | provider {m : Metadata} {p : String} (hm : c.metadata = some m) (hp : p ∈ m.providers) :
    c.HasLabel s p
  /-- An identifier of the environment, a known kind of target or a known provider. -/
  | known {t : String} (ht : t ∈ s.env ++ s.targetTypes ++ s.providers) : c.HasLabel s t

/-- A string in an expression of a Check, at a site of the given place, has a backslash before a
character that it does not escape. -/
def Check.HasEscape (c : Check) (place : SitePlace) (position : Position) (esc : Char) : Prop :=
  ∃ site ∈ c.sites, site.place = place ∧ site.fault? = some ⟨.invalidEscape esc, position⟩

/-- A rule has a finding at a host. -/
def Rule.Finds (s : Settings) (h : LinkHost) (subject : Subject) (q : Rule) (x : Finding) : Prop :=
  ∃ found log, q.findings s h subject = .ok (found, log) ∧ x ∈ found

/-- Where a text comes from that the line on the finding `x` takes over. -/
inductive Check.Provides (c : Check) (s : Settings) (h : LinkHost) (x : Finding) : String → Prop
  /-- It is a name. -/
  | label {t : String} (ht : c.HasLabel s t) : c.Provides s h x t
  /-- It is the character after a backslash. -/
  | escape {place : SitePlace} {position : Position} {esc : Char}
    (hx : x = .badExpression place ⟨.invalidEscape esc, position⟩)
    (hesc : c.HasEscape place position esc) : c.Provides s h x (String.singleton esc)
  /-- It is what the probe says about a link. -/
  | reason {field : LinkField} {url reason : String} (hx : x = .badLink field url reason)
    (hfound : linkRule.Finds s h (c.subject s.env) x) : c.Provides s h x reason
  /-- It has no line break. -/
  | line {t : String} (ht : IsLine t) : c.Provides s h x t

variable {c : Check} {s : Settings} {h : LinkHost} {x : Finding}

/-! ## Identifiers and links -/

/-- A name has no line break. -/
theorem isLine_of_isName {name : String} (h : IsName name) : IsLine name := by
  obtain ⟨⟨d, ds, hname, hstart, hmore⟩, -⟩ := isName_iff.1 h
  refine isLine_of_forall (p := fun b => Lexeme.startsName b || Lexeme.continuesName b) ?_
    (by decide +kernel)
  rw [hname, List.forall_mem_cons]
  exact ⟨by rw [hstart, Bool.true_or], fun e he => by rw [hmore e he, Bool.or_true]⟩

/-- The identifiers of the references of a site are names. -/
theorem Site.isName_of_mem_references {site : Site} (hsite : site ∈ c.sites) {r : Reference}
    (hr : r ∈ site.references) : IsName r.identifier := by
  obtain ⟨tree, htree, hr⟩ := Site.mem_references.1 hr
  rcases Check.exists_site_tree.1 ⟨site, hsite, htree⟩ with
    ⟨t, e, -, hparse, rfl⟩ | ⟨t, choice, -, hparse, rfl⟩
  · exact (Expr.wellFormed_of_parse hparse).names r hr
  · obtain ⟨branch, hbranch, hr⟩ := List.mem_flatMap.1 hr
    exact ((Choice.wellFormed_of_parse hparse).conditions branch hbranch).names r hr

/-- A row of items has no white space. -/
theorem Link.Items.isSpace_eq_false {items : List Char} (h : Items items) :
    ∀ d ∈ items, isSpace d = false := by
  have hplain : ∀ d, isPlain d = true → isSpace d = false := fun d hd => by
    rw [isPlain, Bool.and_eq_true, Bool.not_eq_true'] at hd
    exact hd.1
  induction h with
  | nil => exact List.forall_mem_nil _
  | plain hd _ ih => exact List.forall_mem_cons.2 ⟨hplain _ hd, ih⟩
  | group hinner _ ih =>
    exact List.forall_mem_cons.2 ⟨rfl, List.forall_mem_append.2
      ⟨fun d hd => hplain d (hinner d hd), List.forall_mem_cons.2 ⟨rfl, ih⟩⟩⟩

/-- A link of a Check has no line break. -/
theorem Check.isLine_of_mem_links {url : String} (hurl : url ∈ c.links) : IsLine url := by
  have hextract : ∃ text, url ∈ Link.extract text := by
    rw [links, List.mem_eraseDups, List.mem_append] at hurl
    exact hurl.elim (fun h => ⟨_, h⟩) fun h => ⟨_, h⟩
  obtain ⟨text, htext⟩ := hextract
  obtain ⟨i, link, ⟨ms, hms, hm⟩, hstripped⟩ := Link.exists_isTaken_of_mem_extract htext
  obtain ⟨scheme, hscheme, items, hitems, heq⟩ :=
    hstripped.exists_items (hms.isLongestAt hm).stands.1
  have hschemes : (Link.schemes.all fun scheme => scheme.all (!isSpace ·)) = true := by decide
  have hspaces : ∀ d ∈ scheme ++ items, isSpace d = false := by
    refine List.forall_mem_append.2 ⟨fun d hd => ?_, hitems.isSpace_eq_false⟩
    simpa using List.all_eq_true.1 (List.all_eq_true.1 hschemes scheme hscheme) d hd
  intro b hb hmem
  rw [heq] at hmem
  exact Bool.false_ne_true ((hspaces b hmem).symm.trans (lineBreak_class hb).2)

/-- The place of a site is named after an entry of the Check. -/
theorem Check.hasLabel_owner {site : Site} (hsite : site ∈ c.sites) :
    c.HasLabel s site.place.owner := by
  rcases Check.cases_of_mem_sites hsite with ⟨v, hv, i, k, -, rfl⟩ | ⟨e, he, f, t, -, rfl⟩ |
    ⟨e, he, f, template, -, ⟨_, _, _, _, rfl⟩ | ⟨-, _, rfl⟩⟩
  · exact .value hv
  · exact .expectation he
  · exact .expectation he
  · exact .expectation he

/-! ## The structural rules -/

namespace Subject

/-- A name that is repeated is one of the names. -/
theorem mem_of_mem_repeated {n : String} {seen names : List String}
    (h : n ∈ repeated seen names) : n ∈ names := by
  induction names generalizing seen with
  | nil => cases h
  | cons m names ih =>
    rw [repeated, List.mem_append] at h
    rcases h with hm | hmore
    · split_ifs at hm
      · rw [List.mem_singleton.1 hm]
        exact List.mem_cons_self
      · cases hm
    · exact List.mem_cons_of_mem m (ih hmore)

/-- What is found in the form of an expectation takes over its name. -/
theorem texts_of_mem_expectation {subject : Subject} {e : Expectation}
    (hx : x ∈ expressionCount e ++ subject.choiceResults e ++ messageFit e) :
    x.texts = [e.name] := by
  rw [List.mem_append, List.mem_append] at hx
  rcases hx with (hx | hx) | hx
  · unfold expressionCount at hx
    split at hx
    · rw [List.mem_singleton.1 hx]
      rfl
    · cases hx
    · rw [List.mem_singleton.1 hx]
      rfl
  · unfold choiceResults at hx
    split at hx
    · cases hx
    · obtain ⟨r, -, rfl⟩ := List.mem_map.1 hx
      rfl
  · rw [messageFit, List.mem_append] at hx
    rcases hx with hx | hx
    · rw [List.mem_singleton.1 (List.mem_ite_nil_right.1 hx).2]
      rfl
    · rw [List.mem_singleton.1 (List.mem_ite_nil_right.1 hx).2]
      rfl

end Subject

namespace Check

/-- The rule on the form of expectations. -/
theorem provides_of_expectationForm (hx : x ∈ (c.subject s.env).expectationForm) :
    ∀ t ∈ x.texts, c.Provides s h x t := by
  obtain ⟨e, he, hx⟩ := List.mem_flatMap.1 hx
  rw [Subject.texts_of_mem_expectation hx]
  exact List.forall_mem_singleton.2 (.label (.expectation he))

/-- The rule on names. -/
theorem provides_of_uniqueNames (hx : x ∈ (c.subject s.env).uniqueNames) :
    ∀ t ∈ x.texts, c.Provides s h x t := by
  -- The texts are the name, in the path and in the message.
  have hname : ∃ name, c.HasLabel s name ∧ x.texts = [name, name] := by
    simp only [Subject.uniqueNames, List.mem_append] at hx
    rcases hx with ((hx | hx) | hx) | hx
    · obtain ⟨name, hmem, rfl⟩ := List.mem_map.1 hx
      obtain ⟨f, hf, rfl⟩ := List.mem_map.1 (Subject.mem_of_mem_repeated hmem)
      exact ⟨_, .fact hf, rfl⟩
    · obtain ⟨name, hmem, rfl⟩ := List.mem_map.1 hx
      obtain ⟨v, hv, rfl⟩ := List.mem_map.1 (Subject.mem_of_mem_repeated hmem)
      exact ⟨_, .value hv, rfl⟩
    · obtain ⟨name, hmem, rfl⟩ := List.mem_map.1 hx
      obtain ⟨e, he, rfl⟩ := List.mem_map.1 (Subject.mem_of_mem_repeated hmem)
      exact ⟨_, .expectation he, rfl⟩
    · obtain ⟨name, hmem, rfl⟩ := List.mem_map.1 hx
      obtain ⟨v, hv, rfl⟩ := List.mem_map.1 (List.mem_of_mem_filter hmem)
      exact ⟨_, .value hv, rfl⟩
  obtain ⟨name, hlabel, htexts⟩ := hname
  simp only [htexts, List.forall_mem_cons]
  exact ⟨.label hlabel, .label hlabel, List.forall_mem_nil _⟩

/-- The rule on expressions. -/
theorem provides_of_validExpression (hx : x ∈ (c.subject s.env).validExpression) :
    ∀ t ∈ x.texts, c.Provides s h x t := by
  obtain ⟨site, hsite, hx⟩ := List.mem_filterMap.1 hx
  obtain ⟨⟨cause, position⟩, hfault, rfl⟩ := Option.map_eq_some_iff.1 hx
  refine List.forall_mem_cons.2 ⟨.label (c.hasLabel_owner hsite), ?_⟩
  cases cause with
  | invalidEscape esc =>
    exact List.forall_mem_singleton.2 (.escape rfl ⟨site, hsite, rfl, hfault⟩)
  | _ => exact List.forall_mem_nil _

/-- The rule on references. -/
theorem provides_of_validReference (hx : x ∈ (c.subject s.env).validReference) :
    ∀ t ∈ x.texts, c.Provides s h x t := by
  obtain ⟨⟨site, r⟩, hmem, rfl⟩ := List.mem_map.1 hx
  obtain ⟨site', hsite, hmem⟩ := List.mem_flatMap.1 hmem
  obtain ⟨r', hr, heq⟩ := List.mem_map.1 hmem
  obtain ⟨rfl, rfl⟩ := Prod.mk.inj heq
  have hname := Site.isName_of_mem_references hsite (List.mem_of_mem_filter hr)
  refine List.forall_mem_cons.2 ⟨.label (c.hasLabel_owner hsite),
    List.forall_mem_cons.2 ⟨.line (isLine_of_isName hname), fun t ht => ?_⟩⟩
  have hknown : t ∈ s.env := mem_nameSet.1 (List.mem_ite_nil_right.1 ht).2
  exact .label (.known (by simp [hknown]))

/-- The rule on cycles. -/
theorem provides_of_valueCycles (hx : x ∈ (c.subject s.env).valueCycles) :
    ∀ t ∈ x.texts, c.Provides s h x t := by
  obtain ⟨cycle, hcycle, rfl⟩ := List.mem_map.1 hx
  have helementary : Digraph.IsElementary c.DependsOn cycle := by
    rw [← Check.edge_dependencies c s.env]
    exact Digraph.isElementary_of_mem_cycles hcycle
  have hnode : ∀ n ∈ cycle, c.Provides s h (.cycle cycle) n := fun n hn => by
    obtain ⟨v, hv, rfl⟩ := Check.declares_of_isElementary helementary hn
    exact .label (.value hv)
  refine List.forall_mem_cons.2 ⟨?_, hnode⟩
  -- The path names the first node.
  obtain ⟨⟨m, ms, rfl⟩, -, -⟩ := helementary
  exact hnode m List.mem_cons_self

/-- The rule on shapes. -/
theorem provides_of_shapeConsistency (hx : x ∈ (c.subject s.env).shapeConsistency) :
    ∀ t ∈ x.texts, c.Provides s h x t := by
  obtain ⟨v, hv, hx⟩ := List.mem_flatMap.1 hx
  obtain ⟨⟨k, i⟩, -, hx⟩ := List.mem_filterMap.1 hx
  have htexts : x.texts = [v.name, v.name] := by
    dsimp only at hx
    split_ifs at hx
    cases hx
    rfl
  simp only [htexts, List.forall_mem_cons]
  exact ⟨.label (.value hv), .label (.value hv), List.forall_mem_nil _⟩

/-- The rule on metadata. -/
theorem provides_of_metadataValidity
    (hx : x ∈ (c.subject s.env).metadataValidity s.targetTypes s.providers) :
    ∀ t ∈ x.texts, c.Provides s h x t := by
  unfold Subject.metadataValidity at hx
  split at hx
  · cases hx
  rename_i m hm
  rw [List.mem_append] at hx
  rcases hx with hx | hx
  · obtain ⟨t, ht, rfl⟩ := List.mem_map.1 hx
    refine List.forall_mem_cons.2 ⟨.label (.targetType hm ?_), fun u hu => ?_⟩
    · simpa using List.mem_of_mem_filter ht
    · exact .label (.known (by simp [mem_nameSet.1 hu]))
  · obtain ⟨⟨p, i⟩, hp, hx⟩ := List.mem_filterMap.1 hx
    dsimp only at hx
    split_ifs at hx
    cases hx
    refine List.forall_mem_cons.2 ⟨.label (.provider hm ?_), fun u hu => ?_⟩
    · exact List.fst_mem_of_mem_zipIdx hp
    · exact .label (.known (by simp [mem_nameSet.1 hu]))

/-- A rule that looks at the Check. -/
theorem provides_of_mem_structuralRules {q : Rule} (hq : q ∈ structuralRules s)
    (hx : x ∈ q.found (c.subject s.env)) : ∀ t ∈ x.texts, c.Provides s h x t := by
  simp only [structuralRules, List.mem_cons, List.not_mem_nil, or_false] at hq
  rcases hq with rfl | rfl | rfl | rfl | rfl | rfl | rfl | rfl | rfl
  · -- There are no expectations.
    rw [List.mem_singleton.1 (List.mem_ite_nil_right.1 hx).2]
    exact List.forall_mem_nil _
  · exact provides_of_expectationForm hx
  · exact provides_of_uniqueNames hx
  · exact provides_of_validExpression hx
  · exact provides_of_validReference hx
  · exact provides_of_valueCycles hx
  · exact provides_of_shapeConsistency hx
  · exact provides_of_metadataValidity hx
  · rw [Subject.eq_premiumSet_of_mem hx]
    exact List.forall_mem_nil _

/-- What the rule on links finds is about a link of the Check, or about those that were not tried to
their end. -/
theorem cases_of_linkRule (hx : linkRule.Finds s h (c.subject s.env) x) :
    (∃ field url reason, x = .badLink field url reason ∧ url ∈ c.links) ∨
      ∃ unfinished total, x = .linksUnfinished unfinished total := by
  obtain ⟨found, log, hfound, hx⟩ := hx
  have hreport : ∃ r : LinkReport, (∀ k ∈ r.checks, k.url ∈ c.links) ∧ found = r.findings c := by
    unfold Rule.findings at hfound
    simp only [linkRule, Check.subject] at hfound
    split at hfound
    · cases hfound
      exact ⟨⟨[], false⟩, List.forall_mem_nil _, rfl⟩
    · obtain ⟨o, ho, hfound⟩ := map_eq_ok_iff.1 hfound
      cases hfound
      obtain ⟨es, b, hrun, hr⟩ := TrialSetup.exists_run_of_outcome ho
      have hurls := (hrun.inv (Batch.inv_ofUrls _ _)).urls_of_report? hr
      refine ⟨o.report, fun k hk => ?_, rfl⟩
      have hmem : k.url ∈ o.report.checks.map (·.url) := List.mem_map_of_mem hk
      rwa [hurls, List.mem_eraseDups] at hmem
  obtain ⟨r, hlinks, rfl⟩ := hreport
  rcases List.mem_append.1 hx with hx | hx
  · obtain ⟨k, hk, rfl⟩ := List.mem_map.1 hx
    exact .inl ⟨_, _, _, rfl, hlinks k (List.mem_of_mem_filter hk)⟩
  · exact .inr ⟨_, _, List.mem_singleton.1 (List.mem_ite_nil_right.1 hx).2⟩

/-- The rule on links. -/
theorem provides_of_linkRule (hx : linkRule.Finds s h (c.subject s.env) x) :
    ∀ t ∈ x.texts, c.Provides s h x t := by
  rcases cases_of_linkRule hx with ⟨field, url, reason, rfl, hurl⟩ | ⟨_, _, rfl⟩
  · exact List.forall_mem_cons.2 ⟨.line (isLine_of_mem_links hurl),
      List.forall_mem_singleton.2 (.reason rfl hx)⟩
  · exact List.forall_mem_nil _

end Check

/-! ## Reports -/

/-- The diagnostics of a rule are those of its findings. -/
theorem Rule.mem_reported_iff {subject : Subject} {q : Rule} {d : Diagnostic} :
    d ∈ q.reported s h subject ↔
      ∃ x, q.Finds s h subject x ∧ d = x.diagnostic subject.check.id q.name := by
  unfold reported Finds
  split
  · rename_i found log hfound
    simp [hfound, eq_comm]
  · rename_i e hfailed
    simp [hfailed]

/-- The line on a finding of a rule takes over names, texts without line breaks, the character after
a backslash, and the reason for a link. -/
theorem Rule.Finds.provides {q : Rule} (hq : q ∈ s.registry.rules)
    (hx : q.Finds s h (c.subject s.env) x) : ∀ t ∈ x.texts, c.Provides s h x t := by
  rcases mem_registry_rules.1 hq with hstructural | rfl
  · obtain ⟨found, log, hfound, hx⟩ := hx
    rw [Rule.findings_of_not_cancellable s h _
      (cancellable_of_mem_structuralRules s q hstructural)] at hfound
    cases hfound
    exact Check.provides_of_mem_structuralRules hstructural hx
  · exact Check.provides_of_linkRule hx

end CheckDoc
