import CheckDoc.Document.Sites
import CheckDoc.Proofs.Expr.Segments
import Mathlib.Data.List.Basic

/-!
# Where the sites of a Check come from

Each site is that of a condition, of an expression field or of a message template, and each of these
has its sites whatever else the Check holds.
-/

namespace CheckDoc

/-- A site of a Check belongs to a value or to an expectation. -/
theorem Check.mem_sites {c : Check} {s : Site} :
    s ∈ c.sites ↔ (∃ v ∈ c.values, s ∈ v.sites) ∨ ∃ e ∈ c.expectations, s ∈ e.sites := by
  simp [Check.sites]

/-- The references of a site are those of its tree. -/
theorem Site.mem_references {s : Site} {r : Reference} :
    r ∈ s.references ↔ ∃ tree, s.outcome = .ok tree ∧ r ∈ tree.references := by
  unfold Site.references Site.tree?
  cases s.outcome with
  | error fault => simp [Except.toOption]
  | ok tree => simp [Except.toOption]

/-- The site of a condition, the `i`-th one of a value. -/
def Value.site (v : Value) (i : Nat) (k : Condition) : Site :=
  ⟨.condition v.name i, k.when, Tree.expr <$> Expr.parse k.when⟩

/-- A site of a value is that of one of its conditions. -/
theorem Value.mem_sites {v : Value} {s : Site} :
    s ∈ v.sites ↔ ∃ i k, v.conditions[i]? = some k ∧ s = v.site i k := by
  simp only [Value.sites, List.mem_map, Prod.exists, List.mem_zipIdx_iff_getElem?]
  constructor
  · rintro ⟨k, i, hk, rfl⟩
    exact ⟨i, k, hk, rfl⟩
  · rintro ⟨i, k, hk, rfl⟩
    exact ⟨k, i, hk, rfl⟩

/-- Every condition of a value has a site. -/
theorem Value.exists_site {v : Value} {k : Condition} (hk : k ∈ v.conditions) :
    ∃ i, v.site i k ∈ v.sites := by
  obtain ⟨i, hi⟩ := List.mem_iff_getElem?.1 hk
  exact ⟨i, Value.mem_sites.2 ⟨i, k, hi, rfl⟩⟩

/-- The site of an expression field. -/
def Expectation.site (e : Expectation) (f : ExprField) (source : String) : Site :=
  ⟨.expr e.name f, source, f.parse source⟩

/-- A site of an expectation is that of an expression field or one of a message template. -/
theorem Expectation.mem_sites {e : Expectation} {s : Site} :
    s ∈ e.sites ↔ (∃ f source, e.expr? f = some source ∧ s = e.site f source) ∨
      ∃ f template, e.message? f = some template ∧
        s ∈ templateSites (.message e.name f) template := by
  have hexpr : ∀ f : ExprField, f ∈ ExprField.all := fun f => by cases f <;> decide
  have hmessage : ∀ f : MessageField, f ∈ MessageField.all := fun f => by cases f <;> decide
  simp only [Expectation.sites, List.mem_append, List.mem_flatMap, List.mem_map,
    Option.mem_toList, hexpr, hmessage, true_and]
  constructor
  · rintro (⟨f, source, hf, rfl⟩ | h)
    · exact .inl ⟨f, source, hf, rfl⟩
    · exact .inr h
  · rintro (⟨f, source, hf, rfl⟩ | h)
    · exact .inl ⟨f, source, hf, rfl⟩
    · exact .inr h

/-- The site of a segment of a message. -/
def Segment.site (place : SitePlace) (s : Segment) : Site :=
  ⟨place, s.source, Tree.expr <$> s.parse⟩

/-- Every site of a template stands in its field. -/
theorem place_of_mem_templateSites {place : SitePlace} {template : String} {s : Site}
    (hs : s ∈ templateSites place template) : s.place = place := by
  unfold templateSites at hs
  split at hs
  · rw [List.mem_singleton.1 hs]
  · obtain ⟨_, _, rfl⟩ := List.mem_map.1 hs
    rfl

/-- The sites of an expectation do not belong to a value. -/
theorem Expectation.isValue_of_mem_sites {e : Expectation} {s : Site} (hs : s ∈ e.sites) :
    s.place.isValue = false := by
  rcases Expectation.mem_sites.1 hs with ⟨f, source, -, rfl⟩ | ⟨f, template, -, hs⟩
  · rfl
  · rw [place_of_mem_templateSites hs]
    rfl

/-- The texts of a Check that are to be expressions: conditions, two of the fields of expectations,
and the segments of message templates. -/
inductive Check.Holds (c : Check) : String → Prop
  /-- The text of a condition. -/
  | condition {v k} (hv : v ∈ c.values) (hk : k ∈ v.conditions) : c.Holds k.when
  /-- The text of `expect`. -/
  | expect {e t} (he : e ∈ c.expectations) (ht : e.expect = some t) : c.Holds t
  /-- The text of `expect_same`. -/
  | expectSame {e t} (he : e ∈ c.expectations) (ht : e.expectSame = some t) : c.Holds t
  /-- A segment of a message. -/
  | segment {e f template segments s} (he : e ∈ c.expectations)
    (hf : e.message? f = some template) (hcut : Segment.Cut .start template.toList segments)
    (hs : s ∈ segments) : c.Holds s.source

/-- The texts of a Check that are to be choices. -/
def Check.HoldsChoice (c : Check) (t : String) : Prop :=
  ∃ e ∈ c.expectations, e.expectEnum = some t

/-- Whether every segment that a message template opens is closed. -/
def Check.ClosesSegments (c : Check) : Prop :=
  ∀ e ∈ c.expectations, ∀ f template, e.message? f = some template →
    ∃ segments, Segment.Cut .start template.toList segments

/-- A segment parses when its text does. -/
theorem Segment.parse_eq_ok_iff {s : Segment} {e : Expr} :
    s.parse = .ok e ↔ Expr.parse s.source = .ok e := by
  unfold Segment.parse
  cases Expr.parse s.source with
  | ok e' => rfl
  | error fault => simp

/-- A template that is cut into segments has their sites. -/
theorem templateSites_of_cut {place : SitePlace} {template : String} {segments : List Segment}
    (h : Segment.Cut .start template.toList segments) :
    templateSites place template = segments.map (Segment.site place) := by
  have hscan : Segment.ofTemplate template = .ok segments := Segment.scan_eq_ok_iff.2 h
  rw [templateSites, hscan]
  rfl

/-- A template with an open segment is a site without a tree. -/
theorem templateSites_of_not_cut (place : SitePlace) {template : String}
    (h : ∀ segments, ¬ Segment.Cut .start template.toList segments) :
    ∃ fault, templateSites place template = [⟨place, template, .error fault⟩] := by
  cases hscan : Segment.ofTemplate template with
  | error fault => exact ⟨fault, by rw [templateSites, hscan]⟩
  | ok segments => exact absurd (Segment.scan_eq_ok_iff.1 hscan) (h segments)

/-- The tree of the site of a segment is that of its text. -/
theorem Segment.outcome_site {place : SitePlace} {s : Segment} {tree : Tree} :
    (s.site place).outcome = .ok tree ↔ ∃ e, Expr.parse s.source = .ok e ∧ tree = .expr e := by
  simp only [Segment.site, map_eq_ok_iff, Segment.parse_eq_ok_iff]
  exact exists_congr fun e => and_congr_right fun _ => eq_comm

variable {c : Check}

/-- Every condition of a Check has a site. -/
theorem Check.exists_site_of_condition {v : Value} {k : Condition} (hv : v ∈ c.values)
    (hk : k ∈ v.conditions) : ∃ i, v.site i k ∈ c.sites := by
  obtain ⟨i, hi⟩ := Value.exists_site hk
  exact ⟨i, Check.mem_sites.2 (.inl ⟨v, hv, hi⟩)⟩

/-- Every expression field that is set has a site. -/
theorem Check.site_mem_of_field {x : Expectation} {f : ExprField} {t : String}
    (hx : x ∈ c.expectations) (hf : x.expr? f = some t) : x.site f t ∈ c.sites :=
  Check.mem_sites.2 (.inr ⟨x, hx, Expectation.mem_sites.2 (.inl ⟨f, t, hf, rfl⟩)⟩)

/-- The sites of a message template that is set are sites of the Check. -/
theorem Check.mem_sites_of_template {x : Expectation} {f : MessageField} {template : String}
    {s : Site} (hx : x ∈ c.expectations) (hf : x.message? f = some template)
    (hs : s ∈ templateSites (.message x.name f) template) : s ∈ c.sites :=
  Check.mem_sites.2 (.inr ⟨x, hx, Expectation.mem_sites.2 (.inr ⟨f, template, hf, hs⟩)⟩)

/-- The sites of a Check are those of its conditions, fields and closed segments, and templates with
an open segment. -/
theorem Check.cases_of_mem_sites {s : Site} (hs : s ∈ c.sites) :
    (∃ v ∈ c.values, ∃ i, ∃ k ∈ v.conditions, s = v.site i k) ∨
    (∃ x ∈ c.expectations, ∃ f t, x.expr? f = some t ∧ s = x.site f t) ∨
    ∃ x ∈ c.expectations, ∃ f template, x.message? f = some template ∧
      ((∃ segments, Segment.Cut .start template.toList segments ∧
          ∃ segment ∈ segments, s = segment.site (.message x.name f)) ∨
        (∀ segments, ¬ Segment.Cut .start template.toList segments) ∧
          ∃ fault, s = ⟨.message x.name f, template, .error fault⟩) := by
  rcases Check.mem_sites.1 hs with ⟨v, hv, hs⟩ | ⟨x, hx, hs⟩
  · obtain ⟨i, k, hk, rfl⟩ := Value.mem_sites.1 hs
    exact .inl ⟨v, hv, i, k, List.mem_of_getElem? hk, rfl⟩
  rcases Expectation.mem_sites.1 hs with ⟨f, t, hf, rfl⟩ | ⟨f, template, hf, hs⟩
  · exact .inr (.inl ⟨x, hx, f, t, hf, rfl⟩)
  refine .inr (.inr ⟨x, hx, f, template, hf, ?_⟩)
  -- A template with an open segment has one site, which has no tree.
  by_cases hcut : ∃ segments, Segment.Cut .start template.toList segments
  · obtain ⟨segments, hcut⟩ := hcut
    rw [templateSites_of_cut hcut] at hs
    obtain ⟨segment, hsegment, rfl⟩ := List.mem_map.1 hs
    exact .inl ⟨segments, hcut, segment, hsegment, rfl⟩
  · obtain ⟨fault, hsites⟩ := templateSites_of_not_cut _ (not_exists.1 hcut)
    rw [hsites, List.mem_singleton] at hs
    exact .inr ⟨not_exists.1 hcut, fault, hs⟩

/-- The text of an expression field other than `expect_enum` is to be an expression. -/
theorem Check.parse_field {x : Expectation} {f : ExprField} {t : String} (hx : x ∈ c.expectations)
    (hf : x.expr? f = some t) :
    (c.Holds t ∧ f.parse t = Tree.expr <$> Expr.parse t) ∨
      (c.HoldsChoice t ∧ f.parse t = Tree.choice <$> Choice.parse t) := by
  cases f with
  | expect => exact .inl ⟨.expect hx hf, rfl⟩
  | expectSame => exact .inl ⟨.expectSame hx hf, rfl⟩
  | expectEnum => exact .inr ⟨⟨x, hx, hf⟩, rfl⟩

/-- A text that is to be an expression has a site that parses when the text does, to its tree. -/
theorem Check.Holds.exists_site {t : String} (h : c.Holds t) :
    ∃ s ∈ c.sites, ∀ tree, s.outcome = .ok tree ↔ ∃ e, Expr.parse t = .ok e ∧ tree = .expr e := by
  have hmap : ∀ tree, Tree.expr <$> Expr.parse t = .ok tree ↔
      ∃ e, Expr.parse t = .ok e ∧ tree = .expr e := fun tree => by
    rw [map_eq_ok_iff]
    exact exists_congr fun e => and_congr_right fun _ => eq_comm
  cases h with
  | condition hv hk =>
    obtain ⟨i, hi⟩ := Check.exists_site_of_condition hv hk
    exact ⟨_, hi, hmap⟩
  | expect hx hf => exact ⟨_, Check.site_mem_of_field (f := .expect) hx hf, hmap⟩
  | expectSame hx hf => exact ⟨_, Check.site_mem_of_field (f := .expectSame) hx hf, hmap⟩
  | @segment x f template segments s hx hf hcut hs =>
    -- The segment is among those of its template, since its template is cut.
    refine ⟨s.site (.message x.name f), Check.mem_sites_of_template hx hf ?_,
      fun _ => Segment.outcome_site⟩
    rw [templateSites_of_cut hcut]
    exact List.mem_map_of_mem hs

/-- A text that is to be a choice has a site that parses when the text does, to its tree. -/
theorem Check.HoldsChoice.exists_site {t : String} (h : c.HoldsChoice t) :
    ∃ s ∈ c.sites, ∀ tree, s.outcome = .ok tree ↔
      ∃ choice, Choice.parse t = .ok choice ∧ tree = .choice choice := by
  obtain ⟨x, hx, hf⟩ := h
  refine ⟨_, Check.site_mem_of_field (f := .expectEnum) hx hf, fun tree => ?_⟩
  refine map_eq_ok_iff.trans ?_
  exact exists_congr fun e => and_congr_right fun _ => eq_comm

/-- The trees of the sites of a Check are those of the texts that are to be expressions or
choices. -/
theorem Check.exists_site_tree {tree : Tree} :
    (∃ s ∈ c.sites, s.outcome = .ok tree) ↔
      (∃ t e, c.Holds t ∧ Expr.parse t = .ok e ∧ tree = .expr e) ∨
        ∃ t choice, c.HoldsChoice t ∧ Choice.parse t = .ok choice ∧ tree = .choice choice := by
  constructor
  · rintro ⟨s, hs, htree⟩
    rcases Check.cases_of_mem_sites hs with ⟨v, hv, i, k, hk, rfl⟩ | ⟨x, hx, f, t, hf, rfl⟩ |
      ⟨x, hx, f, template, hf, ⟨segments, hcut, segment, hsegment, rfl⟩ | ⟨-, fault, rfl⟩⟩
    · -- A condition.
      obtain ⟨e, hparse, rfl⟩ := map_eq_ok_iff.1 htree
      exact .inl ⟨_, e, .condition hv hk, hparse, rfl⟩
    · -- A field of an expectation.
      change f.parse t = .ok tree at htree
      rcases Check.parse_field hx hf with ⟨ht, heq⟩ | ⟨ht, heq⟩
      · obtain ⟨e, hparse, rfl⟩ := map_eq_ok_iff.1 (heq ▸ htree)
        exact .inl ⟨t, e, ht, hparse, rfl⟩
      · obtain ⟨choice, hparse, rfl⟩ := map_eq_ok_iff.1 (heq ▸ htree)
        exact .inr ⟨t, choice, ht, hparse, rfl⟩
    · -- A segment; a template with an open segment has no tree.
      obtain ⟨e, hparse, rfl⟩ := Segment.outcome_site.1 htree
      exact .inl ⟨_, e, .segment hx hf hcut hsegment, hparse, rfl⟩
    · cases htree
  · rintro (⟨t, e, ht, hparse, rfl⟩ | ⟨t, choice, ht, hparse, rfl⟩)
    · obtain ⟨s, hs, htree⟩ := ht.exists_site
      exact ⟨s, hs, (htree _).2 ⟨e, hparse, rfl⟩⟩
    · obtain ⟨s, hs, htree⟩ := ht.exists_site
      exact ⟨s, hs, (htree _).2 ⟨choice, hparse, rfl⟩⟩

/-- Every site of a Check has a tree exactly when every text of it parses and every segment is
closed. -/
theorem Check.forall_site_tree :
    (∀ s ∈ c.sites, ∃ tree, s.outcome = .ok tree) ↔
      (∀ t, c.Holds t → ∃ e, Expr.parse t = .ok e) ∧
        (∀ t, c.HoldsChoice t → ∃ choice, Choice.parse t = .ok choice) ∧
        c.ClosesSegments := by
  constructor
  · intro hall
    refine ⟨fun t ht => ?_, fun t ht => ?_, fun x hx f template hf => ?_⟩
    · obtain ⟨s, hs, htree⟩ := ht.exists_site
      obtain ⟨tree, htree'⟩ := hall s hs
      obtain ⟨e, he, -⟩ := (htree tree).1 htree'
      exact ⟨e, he⟩
    · obtain ⟨s, hs, htree⟩ := ht.exists_site
      obtain ⟨tree, htree'⟩ := hall s hs
      obtain ⟨choice, hchoice, -⟩ := (htree tree).1 htree'
      exact ⟨choice, hchoice⟩
    · -- An open segment would be the site of its template, which has no tree.
      by_contra hcut
      obtain ⟨fault, hsites⟩ :=
        templateSites_of_not_cut (.message x.name f) (not_exists.1 hcut)
      obtain ⟨tree, htree⟩ := hall _ (Check.mem_sites_of_template hx hf (by
        rw [hsites]
        exact List.mem_singleton_self _))
      cases htree
  · rintro ⟨hexpr, hchoice, hclosed⟩ s hs
    rcases Check.cases_of_mem_sites hs with ⟨v, hv, i, k, hk, rfl⟩ | ⟨x, hx, f, t, hf, rfl⟩ |
      ⟨x, hx, f, template, hf, ⟨segments, hcut, segment, hsegment, rfl⟩ | ⟨hcut, -⟩⟩
    · obtain ⟨e, he⟩ := hexpr _ (.condition hv hk)
      exact ⟨.expr e, map_eq_ok_iff.2 ⟨e, he, rfl⟩⟩
    · show ∃ tree, f.parse t = .ok tree
      rcases Check.parse_field hx hf with ⟨ht, heq⟩ | ⟨ht, heq⟩
      · obtain ⟨e, he⟩ := hexpr t ht
        exact ⟨.expr e, heq ▸ map_eq_ok_iff.2 ⟨e, he, rfl⟩⟩
      · obtain ⟨choice, hparse⟩ := hchoice t ht
        exact ⟨.choice choice, heq ▸ map_eq_ok_iff.2 ⟨choice, hparse, rfl⟩⟩
    · obtain ⟨e, he⟩ := hexpr _ (.segment hx hf hcut hsegment)
      exact ⟨.expr e, Segment.outcome_site.2 ⟨e, he, rfl⟩⟩
    · obtain ⟨segments, hsegments⟩ := hclosed x hx f template hf
      exact absurd hsegments (hcut segments)

end CheckDoc
