import CheckDoc.Proofs.Document.Dependencies
import CheckDoc.Proofs.Lint.Choices
import Mathlib.Data.List.Nodup

/-!
# When a structural rule finds nothing

For each structural rule the property of the Check that it asks for: the rule finds nothing exactly
where the property holds. The one rule that looks at what another asks for is that on the form of
expectations, which finds the choice of an expectation by name; where the names of expectations
differ this is the choice of the expectation itself (`choice?_eq_some_iff`).
-/

namespace CheckDoc

/-! ## Names -/

namespace Subject

/-- No name is repeated where the names differ from each other and from those seen before. -/
theorem repeated_eq_nil_iff {seen names : List String} :
    repeated seen names = [] ↔ names.Nodup ∧ ∀ n ∈ names, n ∉ seen := by
  induction names generalizing seen with
  | nil => simp [repeated]
  | cons n names ih =>
    rw [repeated, List.append_eq_nil_iff, ih, List.nodup_cons]
    have hseen : (if seen.contains n then [n] else []) = [] ↔ n ∉ seen := by
      by_cases h : n ∈ seen
      · simp [h]
      · simp [h]
    rw [hseen]
    simp only [List.mem_cons, not_or, forall_eq_or_imp]
    constructor
    · rintro ⟨hn, hnodup, hall⟩
      exact ⟨⟨fun hmem => (hall n hmem).1 rfl, hnodup⟩, hn, fun m hm => (hall m hm).2⟩
    · rintro ⟨⟨hmem, hnodup⟩, hn, hall⟩
      exact ⟨hn, hnodup, fun m hm => ⟨fun heq => hmem (heq ▸ hm), hall m hm⟩⟩

end Subject

/-- The facts, the values and the expectations of a Check have names of their own, and no value has
the name of a fact. -/
structure Check.HasUniqueNames (c : Check) : Prop where
  /-- The names of facts differ. -/
  facts : (c.facts.map (·.name)).Nodup
  /-- The names of values differ. -/
  values : (c.values.map (·.name)).Nodup
  /-- The names of expectations differ. -/
  expectations : (c.expectations.map (·.name)).Nodup
  /-- The names of values differ from those of facts. -/
  disjoint : ∀ v ∈ c.values, ∀ f ∈ c.facts, v.name ≠ f.name

variable {c : Check} {env : List String}

/-- The rule on names. -/
theorem Check.uniqueNames_eq_nil_iff :
    (c.subject env).uniqueNames = [] ↔ c.HasUniqueNames := by
  have hdisjoint : ((c.values.map (·.name)).filter (c.facts.map (·.name)).contains) = [] ↔
      ∀ v ∈ c.values, ∀ f ∈ c.facts, v.name ≠ f.name := by
    rw [List.filter_eq_nil_iff, List.forall_mem_map]
    simp only [List.contains_iff_mem, List.mem_map, not_exists, not_and]
    exact forall₂_congr fun v _ => forall₂_congr fun f _ => ne_comm
  simp only [Subject.uniqueNames, Check.subject, List.append_eq_nil_iff, List.map_eq_nil_iff,
    Subject.repeated_eq_nil_iff, List.not_mem_nil, not_false_eq_true, implies_true, and_true,
    hdisjoint]
  constructor
  · rintro ⟨⟨⟨hfacts, hvalues⟩, hexpectations⟩, hdisjoint⟩
    exact ⟨hfacts, hvalues, hexpectations, hdisjoint⟩
  · rintro ⟨hfacts, hvalues, hexpectations, hdisjoint⟩
    exact ⟨⟨⟨hfacts, hvalues⟩, hexpectations⟩, hdisjoint⟩

/-! ## The form of expectations -/

/-- An expectation has one expression, and its messages fit. -/
structure Expectation.IsFit (e : Expectation) : Prop where
  /-- One expression field is set. -/
  one : ∃! f, (e.expr? f).isSome
  /-- Only a choice has a warning message. -/
  warning : e.warningMessage.isSome → e.expectEnum.isSome
  /-- The failure message of a comparison across targets does not interpolate. -/
  failure : e.expectSame.isSome → ∀ m, e.failureMessage = some m →
    ¬ Segment.opening <:+: m.toList

namespace Subject

/-- A text interpolates where it has an opening. -/
theorem interpolates_iff {text : List Char} :
    interpolates text = true ↔ Segment.opening <:+: text := by
  fun_induction interpolates text with
  | case1 rest => exact iff_of_true rfl ⟨[], rest, rfl⟩
  | case2 c rest hno ih =>
    rw [ih, List.infix_cons_iff]
    refine ⟨.inr, fun h => h.resolve_left ?_⟩
    rintro ⟨tail, htail⟩
    obtain ⟨rfl, rfl⟩ := List.cons.inj htail
    exact hno tail rfl rfl
  | case3 => simp [Segment.opening]

/-- The fields that are set are listed once each. -/
theorem expressionCount_eq_nil_iff {e : Expectation} :
    expressionCount e = [] ↔ ∃! f, (e.expr? f).isSome := by
  have hmem : ∀ f, f ∈ e.setFields ↔ (e.expr? f).isSome := fun f => by
    have hall : f ∈ ExprField.all := by cases f <;> decide
    simp [Expectation.setFields, hall]
  have hnodup : e.setFields.Nodup := List.Nodup.filter _ (by decide)
  have hone : expressionCount e = [] ↔ ∃ f, e.setFields = [f] := by
    unfold expressionCount
    split <;> simp_all
  -- A list without repetition is `[f]` when `f` is its only member.
  rw [hone]
  refine exists_congr fun f => ?_
  rw [← List.perm_singleton, List.perm_ext_iff_of_nodup hnodup (List.nodup_singleton f)]
  simp only [hmem, List.mem_singleton]
  exact ⟨fun h => ⟨(h f).2 rfl, fun g hg => (h g).1 hg⟩,
    fun h g => ⟨h.2 g, fun hg => hg ▸ h.1⟩⟩

/-- The messages of an expectation fit its expression. -/
theorem messageFit_eq_nil_iff {e : Expectation} :
    messageFit e = [] ↔ (e.warningMessage.isSome → e.expectEnum.isSome) ∧
      (e.expectSame.isSome → ∀ m, e.failureMessage = some m →
        ¬ Segment.opening <:+: m.toList) := by
  simp only [messageFit, List.append_eq_nil_iff, ite_eq_right_iff, List.cons_ne_nil, imp_false,
    Bool.and_eq_true, not_and, ← interpolates_iff]
  refine and_congr ?_ ?_
  · cases e.expectEnum <;> simp
  · cases e.failureMessage <;> simp

/-- Where the names of expectations differ, the choice that is found for an expectation is its
own. -/
theorem choice?_eq_some_iff (hnames : (c.expectations.map (·.name)).Nodup) {e : Expectation}
    (he : e ∈ c.expectations) {choice : Choice} :
    (c.subject env).choice? e.name = some choice ↔
      ∃ t, e.expectEnum = some t ∧ Choice.parse t = .ok choice := by
  rw [Subject.choice?_eq, ← Expectation.choice?_eq_some_iff]
  constructor
  · intro hdeciding
    obtain ⟨x, hx, hchoice⟩ := Check.decidingChoice?_eq_some_iff.1 hdeciding
    rwa [← hx.eq hnames he]
  · intro hchoice
    obtain ⟨x, hx⟩ := Check.exists_decides he (hchoice ▸ Option.some_ne_none choice)
    obtain rfl := hx.eq hnames he
    exact Check.decidingChoice?_eq_some_iff.2 ⟨x, hx, hchoice⟩

/-- The results of a choice are looked at where there is one. -/
theorem choiceResults_eq_nil_iff {s : Subject} {e : Expectation} :
    s.choiceResults e = [] ↔ ∀ choice, s.choice? e.name = some choice →
      .str "passing" ∈ choice.results ∧ .str "warning" ∈ choice.results := by
  unfold choiceResults
  cases s.choice? e.name with
  | none => simp
  | some choice => simp [yields, RequiredResult.literal]

end Subject

/-- The rule on the form of expectations, where their names differ. -/
theorem Check.expectationForm_eq_nil_iff (hnames : (c.expectations.map (·.name)).Nodup) :
    (c.subject env).expectationForm = [] ↔ (∀ e ∈ c.expectations, e.IsFit) ∧
      ∀ t choice, c.HoldsChoice t → Choice.parse t = .ok choice →
        .str "passing" ∈ choice.results ∧ .str "warning" ∈ choice.results := by
  simp only [Subject.expectationForm, List.flatMap_eq_nil_iff, List.append_eq_nil_iff,
    Subject.expressionCount_eq_nil_iff, Subject.choiceResults_eq_nil_iff,
    Subject.messageFit_eq_nil_iff]
  constructor
  · intro h
    refine ⟨fun e he => ?_, ?_⟩
    · obtain ⟨⟨hone, -⟩, hwarning, hfailure⟩ := h e he
      exact ⟨hone, hwarning, hfailure⟩
    · rintro t choice ⟨e, he, ht⟩ hparse
      obtain ⟨⟨-, hresults⟩, -⟩ := h e he
      exact hresults choice ((Subject.choice?_eq_some_iff hnames he).2 ⟨t, ht, hparse⟩)
  · rintro ⟨hfit, hresults⟩ e he
    obtain ⟨hone, hwarning, hfailure⟩ := hfit e he
    refine ⟨⟨hone, fun choice hchoice => ?_⟩, hwarning, hfailure⟩
    obtain ⟨t, ht, hparse⟩ := (Subject.choice?_eq_some_iff hnames he).1 hchoice
    exact hresults t choice ⟨e, he, ht⟩ hparse

/-! ## Expressions and references -/

/-- The rule on expressions. -/
theorem Check.validExpression_eq_nil_iff :
    (c.subject env).validExpression = [] ↔
      (∀ t, c.Holds t → ∃ e, Expr.parse t = .ok e) ∧
        (∀ t, c.HoldsChoice t → ∃ choice, Choice.parse t = .ok choice) ∧ c.ClosesSegments := by
  rw [← Check.forall_site_tree]
  simp only [Subject.validExpression, List.filterMap_eq_nil_iff, Check.subject,
    Option.map_eq_none_iff]
  refine forall₂_congr fun s _ => ?_
  unfold Site.fault?
  cases s.outcome <;> simp

/-- Whether a reference names a fact or a value of the Check or an identifier of the
environment. -/
def Check.Knows (c : Check) (env : List String) (r : Reference) : Prop :=
  match r.scope with
  | .facts => ∃ f ∈ c.facts, f.name = r.identifier
  | .values => c.Declares r.identifier
  | .env => r.identifier ∈ env

/-- A reference is resolved where it names something. -/
theorem Check.resolves_iff {r : Reference} : (c.names env).resolves r = true ↔ c.Knows env r := by
  obtain ⟨scope, name⟩ := r
  cases scope with
  | facts => simp [Names.resolves, Names.fact?, Check.names, Check.Knows]
  | values => exact Check.resolves_values
  | env => simp [Names.resolves, Check.names, Check.Knows]

/-- The rule on references. -/
theorem Check.validReference_eq_nil_iff :
    (c.subject env).validReference = [] ↔
      (∀ t e, c.Holds t → Expr.parse t = .ok e → ∀ r ∈ e.references, c.Knows env r) ∧
        ∀ t choice, c.HoldsChoice t → Choice.parse t = .ok choice →
          ∀ r ∈ choice.references, c.Knows env r := by
  -- The rule goes over the trees of all sites, and these are the trees of the texts.
  have htrees : (c.subject env).validReference = [] ↔
      ∀ tree, (∃ s ∈ c.sites, s.outcome = .ok tree) → ∀ r ∈ tree.references, c.Knows env r := by
    simp only [Subject.validReference, Names.unresolved, Check.subject, List.map_eq_nil_iff,
      List.flatMap_eq_nil_iff, List.filter_eq_nil_iff, Bool.not_eq_true', Bool.not_eq_false,
      Check.resolves_iff, Site.mem_references]
    constructor
    · rintro h tree ⟨s, hs, htree⟩ r hr
      exact h s hs r ⟨tree, htree, hr⟩
    · rintro h s hs r ⟨tree, htree, hr⟩
      exact h tree ⟨s, hs, htree⟩ r hr
  rw [htrees]
  constructor
  · intro h
    refine ⟨fun t e ht hparse => ?_, fun t choice ht hparse => ?_⟩
    · exact h (.expr e) (Check.exists_site_tree.2 (.inl ⟨t, e, ht, hparse, rfl⟩))
    · exact h (.choice choice) (Check.exists_site_tree.2 (.inr ⟨t, choice, ht, hparse, rfl⟩))
  · rintro ⟨hexpr, hchoice⟩ tree htree
    rcases Check.exists_site_tree.1 htree with ⟨t, e, ht, hparse, rfl⟩ |
      ⟨t, choice, ht, hparse, rfl⟩
    · exact hexpr t e ht hparse
    · exact hchoice t choice ht hparse

/-- The rule on cycles of values. -/
theorem Check.valueCycles_eq_nil_iff :
    (c.subject env).valueCycles = [] ↔ ∀ n, ¬ Relation.TransGen c.DependsOn n n := by
  rw [Subject.valueCycles, List.map_eq_nil_iff]
  exact Check.cycles_eq_nil_iff

/-! ## Payloads and metadata -/

/-- The rule on the shapes of payloads. -/
theorem Check.shapeConsistency_eq_nil_iff :
    (c.subject env).shapeConsistency = [] ↔
      ∀ v ∈ c.values, ∀ k ∈ v.conditions, k.payload.shape = v.default.shape := by
  simp only [Subject.shapeConsistency, Check.subject, List.flatMap_eq_nil_iff,
    List.filterMap_eq_nil_iff, Prod.forall, List.mem_zipIdx_iff_getElem?, ite_eq_left_iff,
    reduceCtorEq, imp_false, not_not]
  refine forall₂_congr fun v _ => ⟨fun h k hk => ?_, fun h k i hk => h k (List.mem_of_getElem? hk)⟩
  obtain ⟨i, hi⟩ := List.mem_iff_getElem?.1 hk
  exact h k i hi

/-- The rule on metadata. -/
theorem Check.metadataValidity_eq_nil_iff {targetTypes providers : List String} :
    Subject.metadataValidity targetTypes providers (c.subject env) = [] ↔
      ∀ m, c.metadata = some m →
        (∀ t, m.targetType = some t → t ∈ targetTypes) ∧ ∀ p ∈ m.providers, p ∈ providers := by
  -- The rule numbers the providers, which does not matter to whether one is unknown.
  have hproviders : ∀ m : Metadata,
      (∀ x ∈ m.providers.zipIdx, x.1 ∈ providers) ↔ ∀ p ∈ m.providers, p ∈ providers := fun m => by
    simp only [Prod.forall, List.mem_zipIdx_iff_getElem?]
    refine ⟨fun h p hp => ?_, fun h p i hp => h p (List.mem_of_getElem? hp)⟩
    obtain ⟨i, hi⟩ := List.mem_iff_getElem?.1 hp
    exact h p i hi
  have hcheck : (c.subject env).check = c := rfl
  rw [Subject.metadataValidity, hcheck]
  cases c.metadata with
  | none => simp
  | some m =>
    simp only [List.append_eq_nil_iff, List.map_eq_nil_iff, List.filter_eq_nil_iff,
      Option.mem_toList, Bool.not_eq_true', Bool.not_eq_false, List.contains_iff_mem,
      List.filterMap_eq_nil_iff, ite_eq_left_iff, reduceCtorEq, imp_false, not_not,
      Option.some.injEq, forall_eq', hproviders]

end CheckDoc
