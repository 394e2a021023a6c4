import CheckDoc.Proofs.Lint.Choices

/-!
# Expectations judged alone

`Expectation.formFindings` says what the rule on the form of expectations finds in an expectation
with a given choice. A Check that holds one expectation is judged by the choice of this one, and the
rule judges each expectation of a Check as it would judge it alone exactly where the deciding choice
lacks the same results as its own (`Check.formDiagnostics_eq_flatMap_iff`).
-/

namespace CheckDoc

variable {c : Check} {env : List String} {name : String} {e x : Expectation} {choice : Choice}
  {r : RequiredResult}

/-! ## What is found in an expectation -/

/-- An expectation lacks a result where its text parses to a choice that cannot have it. -/
def Expectation.Lacks (e : Expectation) (r : RequiredResult) : Prop :=
  ∃ t choice, e.expectEnum = some t ∧ Choice.parse t = .ok choice ∧
    .str r.literal ∉ choice.results

/-- Whether a choice, where there is one, cannot have a result. -/
def lacks (choice : Option Choice) (r : RequiredResult) : Bool :=
  choice.any fun c => !Subject.yields c r

/-- An expectation lacks a result where its choice does. -/
theorem Expectation.lacks_choice?_iff : lacks e.choice? r = true ↔ e.Lacks r := by
  unfold lacks Expectation.Lacks Expectation.choice? Subject.yields
  cases e.expectEnum with
  | none => simp
  | some t =>
    cases hparse : Choice.parse t with
    | error fault => simp [hparse, Except.toOption]
    | ok choice => simp [hparse, Except.toOption]

/-- The deciding choice is the choice of each expectation that decides. -/
theorem Check.Decides.decidingChoice?_eq (h : c.Decides name x) :
    c.decidingChoice? name = x.choice? := by
  have hchoice : x.choice? ≠ none := by
    obtain ⟨-, -, -, -, hchoice, -⟩ := h
    exact hchoice
  cases hx : x.choice? with
  | none => exact absurd hx hchoice
  | some choice => exact decidingChoice?_eq_some_iff.2 ⟨x, h, hx⟩

/-- The deciding choice lacks what the expectation that decides does. -/
theorem Check.lacks_decidingChoice?_iff :
    lacks (c.decidingChoice? name) r = true ↔ ∃ x, c.Decides name x ∧ x.Lacks r := by
  constructor
  · intro hlacks
    cases hdeciding : c.decidingChoice? name with
    | none => simp [hdeciding, lacks] at hlacks
    | some choice =>
      obtain ⟨x, hx, hchoice⟩ := decidingChoice?_eq_some_iff.1 hdeciding
      rw [hdeciding, ← hchoice] at hlacks
      exact ⟨x, hx, Expectation.lacks_choice?_iff.1 hlacks⟩
  · rintro ⟨x, hx, hlacks⟩
    rw [hx.decidingChoice?_eq]
    exact Expectation.lacks_choice?_iff.2 hlacks

/-- What is found in the form of an expectation whose choice is taken to be `choice`. -/
def Expectation.formFindings (e : Expectation) (choice : Option Choice) : List Finding :=
  Subject.expressionCount e ++
    ([.passing, .warning].filter (lacks choice)).map (.missingResult e.name) ++
    Subject.messageFit e

/-- The rule on the form of expectations takes the choice of each one to be the deciding one. -/
theorem Subject.expectationForm_eq (c : Check) (env : List String) :
    (c.subject env).expectationForm =
      c.expectations.flatMap fun e => e.formFindings (c.decidingChoice? e.name) := by
  refine List.flatMap_congr fun e _ => ?_
  have hresults : (c.subject env).choiceResults e =
      ([.passing, .warning].filter (lacks (c.decidingChoice? e.name))).map
        (.missingResult e.name) := by
    rw [choiceResults, choice?_eq]
    cases c.decidingChoice? e.name <;> rfl
  rw [hresults, Expectation.formFindings]

/-! ## The diagnostics of the rule -/

/-- The diagnostics of the rule on the form of expectations. -/
def Check.formDiagnostics (c : Check) (env : List String) : List Diagnostic :=
  (c.subject env).expectationForm.map (Finding.diagnostic c.id "expectation-form")

/-- The diagnostic on a result that the choice of an expectation `name` lacks. -/
def Check.missing (c : Check) (name : String) (r : RequiredResult) : Diagnostic :=
  (Finding.missingResult name r).diagnostic c.id "expectation-form"

/-- The Check that holds one expectation only. -/
def Check.solo (c : Check) (e : Expectation) : Check := { c with expectations := [e] }

/-- What a Check is told of the form of an expectation with a choice. -/
def Check.formOf (c : Check) (e : Expectation) (choice : Option Choice) : List Diagnostic :=
  (e.formFindings choice).map (Finding.diagnostic c.id "expectation-form")

/-- The diagnostics are those of the expectations in order, each with the deciding choice. -/
theorem Check.formDiagnostics_eq (c : Check) (env : List String) :
    c.formDiagnostics env =
      c.expectations.flatMap fun e => c.formOf e (c.decidingChoice? e.name) := by
  rw [formDiagnostics, Subject.expectationForm_eq, List.map_flatMap]
  rfl

/-- An expectation that stands alone decides for itself. -/
theorem Check.formDiagnostics_solo (c : Check) (e : Expectation) (env : List String) :
    (c.solo e).formDiagnostics env = c.formOf e e.choice? := by
  have hdeciding : (c.solo e).decidingChoice? e.name = e.choice? := by
    show [e].findSome? (fun x => if x.name = e.name then x.choice? else none) = _
    rw [List.findSome?_singleton, if_pos rfl]
  rw [formDiagnostics_eq]
  show (c.solo e).formOf e ((c.solo e).decidingChoice? e.name) ++ [] = _
  rw [hdeciding, List.append_nil]
  rfl

/-- The wording of a missing result begins with a letter of its own. -/
theorem Finding.head?_missingResult (name : String) (r : RequiredResult) :
    (missingResult name r).message.toList.head? = some 'R' := by
  cases r with
  | passing =>
    have hmessage : (missingResult name .passing).message =
        "Return value \"passing\" not found" := rfl
    rw [hmessage]
    decide
  | warning =>
    have hmessage : (missingResult name .warning).message =
        "Return value \"warning\" not found; use 'expect' if no warning outcome is needed" := rfl
    rw [hmessage]
    decide

/-- The wording of what is found in the number of expressions begins with another letter. -/
theorem Finding.head?_of_mem_expressionCount {f : Finding} (hf : f ∈ Subject.expressionCount e) :
    f.message.toList.head? = some 'E' := by
  unfold Subject.expressionCount at hf
  split at hf
  · have hmessage : (noExpression e.name).message =
        "Expectation must set one of 'expect', 'expect_same' or 'expect_enum'" := rfl
    rw [List.mem_singleton.1 hf, hmessage]
    decide
  · cases hf
  · have hmessage : (manyExpressions e.name e.setFields).message =
        "Expectation must set only one expression field, found " ++
          row (e.setFields.map fun f => "'" ++ f.name ++ "'") := rfl
    have hhead : "Expectation must set only one expression field, found ".toList.head? =
        some 'E' := by
      decide
    rw [List.mem_singleton.1 hf, hmessage, String.toList_append, List.head?_append, hhead,
      Option.some_or]

/-- The wording of what is found in the messages begins with other letters. -/
theorem Finding.head?_of_mem_messageFit {f : Finding} (hf : f ∈ Subject.messageFit e) :
    f.message.toList.head? = some 'w' ∨ f.message.toList.head? = some 'S' := by
  simp only [Subject.messageFit, List.mem_append, List.mem_ite_nil_right, List.mem_singleton] at hf
  rcases hf with ⟨-, rfl⟩ | ⟨-, rfl⟩
  · have hmessage : (strayWarning e.name).message =
        "warning_message is only available for expect_enum expectations" := rfl
    rw [hmessage]
    decide
  · have hmessage : (strayInterpolation e.name).message =
        "String interpolation is not allowed here" := rfl
    rw [hmessage]
    decide

/-- The diagnostic on a result that is missing tells of the expectation and the result. -/
theorem Check.missing_inj {name' : String} {r' : RequiredResult} :
    c.missing name r = c.missing name' r' ↔ name = name' ∧ r = r' := by
  refine ⟨fun heq => ⟨?_, ?_⟩, by rintro ⟨rfl, rfl⟩; rfl⟩
  · have hpath : "expectations." ++ name ++ "." ++ "expect_enum" =
        "expectations." ++ name' ++ "." ++ "expect_enum" := congrArg Diagnostic.path heq
    rw [← String.toList_inj] at hpath ⊢
    simpa using hpath
  · have hmessage := congrArg Diagnostic.message heq
    have hne : "Return value \"passing\" not found" ≠
        "Return value \"warning\" not found; use 'expect' if no warning outcome is needed" := by
      decide
    cases r <;> cases r'
    · rfl
    · exact absurd hmessage hne
    · exact absurd hmessage.symm hne
    · rfl

/-- Of the diagnostics on an expectation only those on its choice tell of missing results. -/
theorem Check.count_missing_formOf (c : Check) (e : Expectation) (choice : Option Choice)
    (name : String) (r : RequiredResult) :
    (c.formOf e choice).count (c.missing name r) =
      if e.name = name ∧ lacks choice r = true then 1 else 0 := by
  have hother : ∀ fs : List Finding, (∀ f ∈ fs, f.message.toList.head? ≠ some 'R') →
      (fs.map (Finding.diagnostic c.id "expectation-form")).count (c.missing name r) = 0 := by
    intro fs hfs
    refine List.count_eq_zero.2 fun hmem => ?_
    obtain ⟨f, hf, heq⟩ := List.mem_map.1 hmem
    have hmessage : f.message = (Finding.missingResult name r).message :=
      congrArg Diagnostic.message heq
    exact hfs f hf (hmessage ▸ Finding.head?_missingResult name r)
  have hcount := hother (Subject.expressionCount e) fun f hf => by
    rw [Finding.head?_of_mem_expressionCount hf]
    decide
  have hfit := hother (Subject.messageFit e) fun f hf => by
    rcases Finding.head?_of_mem_messageFit hf with hhead | hhead <;> rw [hhead] <;> decide
  have hresults : (([.passing, .warning].filter (lacks choice)).map (c.missing e.name)).count
      (c.missing name r) = if e.name = name ∧ lacks choice r = true then 1 else 0 := by
    by_cases hname : e.name = name
    · cases r <;> cases hp : lacks choice .passing <;> cases hw : lacks choice .warning <;>
        simp [hp, hw, hname, Check.missing_inj]
    · simp [List.count_eq_zero, hname, Check.missing_inj]
  rw [formOf, Expectation.formFindings, List.map_append, List.map_append, List.count_append,
    List.count_append, hcount, hfit, Nat.zero_add, Nat.add_zero, List.map_map]
  exact hresults

/-- The diagnostics that tell of a result that is missing for a name, one for each expectation of
the name whose choice lacks it. -/
theorem Check.count_missing_flatMap (c : Check) (choiceOf : Expectation → Option Choice)
    (name : String) (r : RequiredResult) (es : List Expectation) :
    (es.flatMap fun e => c.formOf e (choiceOf e)).count (c.missing name r) =
      es.countP fun e => e.name = name ∧ lacks (choiceOf e) r = true := by
  induction es with
  | nil => rfl
  | cons e es ih =>
    rw [List.flatMap_cons, List.count_append, ih, count_missing_formOf, List.countP_cons,
      Nat.add_comm]
    simp only [decide_eq_true_eq]

/-- Where as many elements satisfy a condition as a stronger one, the conditions are the same. -/
theorem forall_of_countP_eq {α : Type} {l : List α} {p q : α → Bool}
    (hcount : l.countP p = l.countP q) (hstronger : ∀ x ∈ l, q x = true → p x = true) :
    ∀ x ∈ l, p x = true → q x = true := by
  have hfilter : (l.filter p).countP q = (l.filter p).length := by
    rw [List.countP_filter, ← List.countP_eq_length_filter, hcount]
    refine List.countP_congr fun x hx => ?_
    rw [Bool.and_eq_true, and_iff_left_iff_imp]
    exact hstronger x hx
  exact fun x hx hp => List.countP_eq_length.1 hfilter x (List.mem_filter.2 ⟨hx, hp⟩)

/-- With the deciding choices the diagnostics are those with the own choices of the expectations
exactly where both lack the same results. -/
theorem Check.flatMap_formOf_eq_iff (c : Check) :
    (c.expectations.flatMap fun e => c.formOf e (c.decidingChoice? e.name)) =
        (c.expectations.flatMap fun e => c.formOf e e.choice?) ↔
      ∀ e ∈ c.expectations, ∀ r, lacks (c.decidingChoice? e.name) r = lacks e.choice? r := by
  constructor
  · intro heq e he r
    have hcount := congrArg (List.count (c.missing e.name r)) heq
    rw [count_missing_flatMap c (fun e => c.decidingChoice? e.name),
      count_missing_flatMap c Expectation.choice?] at hcount
    cases hdeciding : lacks (c.decidingChoice? e.name) r with
    | false =>
      -- No diagnostic tells of the result, so no expectation of the name lacks it.
      rw [List.countP_eq_zero.2] at hcount
      · have hnone := List.countP_eq_zero.1 hcount.symm e he
        simpa using hnone
      · intro x _
        rw [decide_eq_true_eq]
        rintro ⟨hname, hlacks⟩
        rw [hname, hdeciding] at hlacks
        cases hlacks
    | true =>
      -- As many diagnostics tell of the result as there are expectations of the name.
      have hown := forall_of_countP_eq hcount (fun x _ => ?_) e he
      · simpa [hdeciding] using hown
      · simp only [decide_eq_true_eq]
        rintro ⟨hname, -⟩
        exact ⟨hname, hname ▸ hdeciding⟩
  · intro hall
    refine List.flatMap_congr fun e he => ?_
    have hsame : lacks (c.decidingChoice? e.name) = lacks e.choice? := funext (hall e he)
    rw [formOf, formOf, Expectation.formFindings, Expectation.formFindings, hsame]

/-- An expectation lacks what the one that decides for its name does where its choice lacks what the
deciding choice does. -/
theorem Check.lacks_eq_iff (he : e ∈ c.expectations) :
    lacks (c.decidingChoice? e.name) r = lacks e.choice? r ↔
      ∀ x, c.Decides e.name x → (e.Lacks r ↔ x.Lacks r) := by
  rw [Bool.eq_iff_iff, lacks_decidingChoice?_iff, Expectation.lacks_choice?_iff]
  constructor
  · intro hiff x hx
    rw [← hiff]
    refine ⟨fun ⟨y, hy, hlacks⟩ => ?_, fun hlacks => ⟨x, hx, hlacks⟩⟩
    rw [← Expectation.lacks_choice?_iff, ← hx.decidingChoice?_eq, hy.decidingChoice?_eq]
    exact Expectation.lacks_choice?_iff.2 hlacks
  · refine fun hall => ⟨fun ⟨x, hx, hlacks⟩ => (hall x hx).2 hlacks, fun hlacks => ?_⟩
    obtain ⟨x, hx⟩ := exists_decides he (by
      intro hnone
      have hown := Expectation.lacks_choice?_iff.2 hlacks
      rw [hnone] at hown
      cases hown)
    exact ⟨x, hx, (hall x hx).1 hlacks⟩

/-- A diagnostic on a missing result stands among those of some expectations where the choice of one
of the name lacks the result. -/
theorem Check.missing_mem_flatMap_iff {choiceOf : Expectation → Option Choice}
    {es : List Expectation} :
    c.missing name r ∈ es.flatMap (fun e => c.formOf e (choiceOf e)) ↔
      ∃ e ∈ es, e.name = name ∧ lacks (choiceOf e) r = true := by
  rw [← List.count_pos_iff, count_missing_flatMap, List.countP_pos_iff]
  simp only [decide_eq_true_eq]

/-- Among the expectations of a Check, the last one of each name with a choice that parses decides
for all of the name: the diagnostics of the rule are those of the expectations in order, each with
the deciding choice, and a result is reported as missing where the expectation that decides lacks
it. Alone, each expectation is judged by its own choice. So the rule judges the expectations as it
would judge each alone exactly where each one lacks the same results as the one that decides for its
name, as it is where the names differ. -/
theorem Check.formDiagnostics_eq_flatMap_iff (c : Check) (env : List String) :
    (c.formDiagnostics env =
      c.expectations.flatMap fun e => c.formOf e (c.decidingChoice? e.name)) ∧
    (∀ name r, c.missing name r ∈ c.formDiagnostics env ↔ ∃ x, c.Decides name x ∧ x.Lacks r) ∧
    (∀ e, (c.solo e).formDiagnostics env = c.formOf e e.choice?) ∧
    (∀ e r, c.missing e.name r ∈ (c.solo e).formDiagnostics env ↔ e.Lacks r) ∧
    (c.formDiagnostics env = (c.expectations.flatMap fun e => (c.solo e).formDiagnostics env) ↔
      ∀ e ∈ c.expectations, ∀ r x, c.Decides e.name x → (e.Lacks r ↔ x.Lacks r)) ∧
    ((c.expectations.map (·.name)).Nodup →
      c.formDiagnostics env = c.expectations.flatMap fun e => (c.solo e).formDiagnostics env) := by
  have hiff : c.formDiagnostics env =
      (c.expectations.flatMap fun e => (c.solo e).formDiagnostics env) ↔
      ∀ e ∈ c.expectations, ∀ r x, c.Decides e.name x → (e.Lacks r ↔ x.Lacks r) := by
    simp only [formDiagnostics_eq c, formDiagnostics_solo, flatMap_formOf_eq_iff]
    exact forall₂_congr fun e he => forall_congr' fun r => lacks_eq_iff he
  refine ⟨c.formDiagnostics_eq env, fun name r => ?_, fun e => c.formDiagnostics_solo e env,
    fun e r => ?_, hiff, fun hnames => hiff.2 fun e he r x hx => ?_⟩
  · rw [formDiagnostics_eq, missing_mem_flatMap_iff, ← lacks_decidingChoice?_iff]
    constructor
    · rintro ⟨e, -, rfl, hlacks⟩
      exact hlacks
    · intro hlacks
      obtain ⟨x, hx, -⟩ := lacks_decidingChoice?_iff.1 hlacks
      exact ⟨x, hx.mem_and_name.1, hx.mem_and_name.2, hx.mem_and_name.2 ▸ hlacks⟩
  · have hsolo : c.missing e.name r ∈ [e].flatMap (fun e => c.formOf e e.choice?) ↔ _ :=
      missing_mem_flatMap_iff
    rw [List.flatMap_singleton] at hsolo
    rw [formDiagnostics_solo, hsolo, ← Expectation.lacks_choice?_iff]
    simp
  · rw [hx.eq hnames he]

/-- Two expectations with names of their own, each with a choice that lacks a result. -/
theorem Check.formDiagnostics_eq_flatMap_iff_named :
    let c : Check := ⟨"id", "name", "group", "", "", none, [], [],
      [⟨"e", none, none, some "if facts.x == 1 \x7b \"passing\" \x7d", none, none⟩,
        ⟨"f", none, none, some "if facts.x == 1 \x7b \"warning\" \x7d", none, none⟩], none⟩
    (c.expectations.map (·.name)).Nodup ∧
      c.formDiagnostics [] = c.expectations.flatMap fun e => (c.solo e).formDiagnostics [] := by
  intro c
  have hnames : (c.expectations.map (·.name)).Nodup := by decide
  obtain ⟨-, -, -, -, -, hdiffer⟩ := formDiagnostics_eq_flatMap_iff c []
  exact ⟨hnames, hdiffer hnames⟩

/-- Two expectations with one name: the first one lacks a result and the second one does not, so
that nothing is reported of the first, as it would be if it stood alone. -/
theorem Check.not_formDiagnostics_eq_flatMap :
    ¬ ∀ (c : Check) (env : List String), c.formDiagnostics env =
      c.expectations.flatMap fun e => (c.solo e).formDiagnostics env := by
  intro hall
  let e : Expectation := ⟨"e", none, none, some "if facts.x == 1 \x7b \"passing\" \x7d", none, none⟩
  let x : Expectation := ⟨"e", none, none,
    some "if facts.x == 1 \x7b \"passing\" \x7d else \x7b \"warning\" \x7d", none, none⟩
  let c : Check := ⟨"id", "name", "group", "", "", none, [], [], [e, x], none⟩
  have hwhole : c.formDiagnostics [] = [] := by decide +kernel
  have hlacks : lacks e.choice? .warning = true := by decide +kernel
  have hreported := c.count_missing_formOf e e.choice? "e" .warning
  have heq := hall c []
  rw [hwhole] at heq
  have hnil := List.flatMap_eq_nil_iff.1 heq.symm e List.mem_cons_self
  rw [if_pos ⟨rfl, hlacks⟩, ← c.formDiagnostics_solo e [], hnil] at hreported
  cases hreported

end CheckDoc
