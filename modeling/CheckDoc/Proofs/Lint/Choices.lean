import CheckDoc.Lint.Structure
import CheckDoc.Proofs.Document.Sites
import Mathlib.Data.List.Nodup

/-!
# The choice that is found by a name

The rule on the form of expectations looks up the choice of an expectation by its name, so that of
the expectations of one name the last one with a choice that parses decides for all of them
(`Subject.choice?_eq`). Where the names differ each one decides for itself (`Check.Decides.eq`).
-/

namespace CheckDoc

/-! ## The choice that decides -/

/-- The choice of an expectation, where its text parses to one. -/
def Expectation.choice? (e : Expectation) : Option Choice :=
  e.expectEnum.bind fun t => (Choice.parse t).toOption

/-- The choice of an expectation is what its text parses to. -/
theorem Expectation.choice?_eq_some_iff {e : Expectation} {choice : Choice} :
    e.choice? = some choice ↔ ∃ t, e.expectEnum = some t ∧ Choice.parse t = .ok choice := by
  rw [Expectation.choice?, Option.bind_eq_some_iff]
  refine exists_congr fun t => and_congr_right fun _ => ?_
  cases Choice.parse t <;> simp [Except.toOption]

/-- The choice of a site that parses, where the site is that of the choice of the expectation
`name`. -/
def Site.choice? (name : String) (s : Site) : Option Choice :=
  match s.tree? with
  | some (.choice c) => if s.place = .expr name .expectEnum then some c else none
  | _ => none

/-- A site at another place has no choice for the expectation. -/
theorem Site.choice?_of_place_ne {name : String} {s : Site}
    (h : s.place ≠ .expr name .expectEnum) : s.choice? name = none := by
  unfold choice?
  split
  · exact if_neg h
  · rfl

/-- The site of the choice of an expectation has this choice. -/
theorem Expectation.choice?_site (e : Expectation) (name t : String) :
    (e.site .expectEnum t).choice? name =
      if e.name = name then (Choice.parse t).toOption else none := by
  unfold Site.choice? Site.tree? Expectation.site ExprField.parse
  cases Choice.parse t with
  | error fault => simp [Functor.map, Except.map, Except.toOption]
  | ok choice => simp [Functor.map, Except.map, Except.toOption]

/-- The last choice for `name` among the sites of an expectation is its own, if this is its name. -/
theorem Expectation.findSome?_choice?_sites (e : Expectation) (name : String) :
    e.sites.reverse.findSome? (Site.choice? name) = if e.name = name then e.choice? else none := by
  have hmessages : ∀ f : MessageField, ((e.message? f).toList.flatMap
      (templateSites (.message e.name f))).reverse.findSome? (Site.choice? name) = none := by
    intro f
    refine List.findSome?_eq_none_iff.2 fun s hs => Site.choice?_of_place_ne ?_
    obtain ⟨template, -, hs⟩ := List.mem_flatMap.1 (List.mem_reverse.1 hs)
    rw [place_of_mem_templateSites hs]
    intro hplace
    cases hplace
  have hexpr : ∀ f : ExprField, f ≠ .expectEnum → ((e.expr? f).toList.map fun source =>
      (⟨.expr e.name f, source, f.parse source⟩ : Site)).reverse.findSome? (Site.choice? name) =
        none := by
    intro f hf
    refine List.findSome?_eq_none_iff.2 fun s hs => Site.choice?_of_place_ne fun hplace => hf ?_
    obtain ⟨source, -, rfl⟩ := List.mem_map.1 (List.mem_reverse.1 hs)
    exact (SitePlace.expr.inj hplace).2
  simp only [Expectation.sites, ExprField.all, MessageField.all, List.flatMap_cons,
    List.flatMap_nil, List.append_nil, List.reverse_append, List.findSome?_append, hmessages,
    hexpr .expect (by decide), hexpr .expectSame (by decide), Option.none_or, Option.or_none]
  rw [Expectation.choice?]
  show (e.expectEnum.toList.map (e.site .expectEnum)).reverse.findSome? (Site.choice? name) = _
  cases e.expectEnum with
  | none => simp
  | some t => simp [Expectation.choice?_site]

/-- An expectation decides for those of a name: it is the last one of the name with a choice that
parses. -/
def Check.Decides (c : Check) (name : String) (x : Expectation) : Prop :=
  ∃ before after, c.expectations = before ++ x :: after ∧ x.name = name ∧ x.choice? ≠ none ∧
    ∀ y ∈ after, y.name = name → y.choice? = none

/-- The choice of the expectation that decides for those of a name. -/
def Check.decidingChoice? (c : Check) (name : String) : Option Choice :=
  c.expectations.reverse.findSome? fun x => if x.name = name then x.choice? else none

variable {c : Check} {name : String} {e x : Expectation} {choice : Choice}

/-- The deciding choice is that of the expectation that decides. -/
theorem Check.decidingChoice?_eq_some_iff :
    c.decidingChoice? name = some choice ↔ ∃ x, c.Decides name x ∧ x.choice? = some choice := by
  rw [decidingChoice?, List.findSome?_eq_some_iff]
  constructor
  · rintro ⟨after, x, before, hsplit, hx, hafter⟩
    rw [Option.ite_none_right_eq_some] at hx
    refine ⟨x, ⟨before.reverse, after.reverse, ?_, hx.1, by simp [hx.2], fun y hy hname => ?_⟩,
      hx.2⟩
    · rw [← List.reverse_reverse c.expectations, hsplit]
      simp
    · simpa [hname] using hafter y (List.mem_reverse.1 hy)
  · rintro ⟨x, ⟨before, after, hsplit, hname, -, hafter⟩, hx⟩
    refine ⟨after.reverse, x, before.reverse, by simp [hsplit], by simp [hname, hx], fun y hy => ?_⟩
    rw [ite_eq_right_iff]
    exact hafter y (List.mem_reverse.1 hy)

/-- An expectation that decides is one of the Check and has the name. -/
theorem Check.Decides.mem_and_name (h : c.Decides name x) : x ∈ c.expectations ∧ x.name = name := by
  obtain ⟨before, after, hsplit, hname, -, -⟩ := h
  exact ⟨hsplit ▸ List.mem_append_right before List.mem_cons_self, hname⟩

/-- Where the names of expectations differ, each one decides for itself. -/
theorem Check.Decides.eq (hx : c.Decides e.name x) (hnames : (c.expectations.map (·.name)).Nodup)
    (he : e ∈ c.expectations) : x = e := by
  obtain ⟨hmem, hname⟩ := hx.mem_and_name
  exact List.inj_on_of_nodup_map hnames hmem he hname

/-- An expectation with a choice leaves none of its name undecided. -/
theorem Check.exists_decides (he : e ∈ c.expectations) (hchoice : e.choice? ≠ none) :
    ∃ x, c.Decides e.name x := by
  cases hdeciding : c.decidingChoice? e.name with
  | some choice =>
    obtain ⟨x, hx, -⟩ := decidingChoice?_eq_some_iff.1 hdeciding
    exact ⟨x, hx⟩
  | none =>
    have hnone := List.findSome?_eq_none_iff.1 hdeciding e (List.mem_reverse.2 he)
    rw [if_pos rfl] at hnone
    exact absurd hnone hchoice

/-- The choice that the rule finds for a name is the deciding one. -/
theorem Subject.choice?_eq (c : Check) (env : List String) (name : String) :
    (c.subject env).choice? name = c.decidingChoice? name := by
  have hvalues : (c.values.flatMap Value.sites).reverse.findSome? (Site.choice? name) = none := by
    refine List.findSome?_eq_none_iff.2 fun s hs => Site.choice?_of_place_ne ?_
    obtain ⟨v, -, hs⟩ := List.mem_flatMap.1 (List.mem_reverse.1 hs)
    obtain ⟨i, k, -, rfl⟩ := Value.mem_sites.1 hs
    nofun
  have hexpectations : ∀ es : List Expectation,
      (es.flatMap Expectation.sites).reverse.findSome? (Site.choice? name) =
        es.reverse.findSome? fun x => if x.name = name then x.choice? else none := by
    intro es
    induction es with
    | nil => rfl
    | cons e es ih =>
      rw [List.flatMap_cons, List.reverse_append, List.findSome?_append, ih,
        Expectation.findSome?_choice?_sites, List.reverse_cons, List.findSome?_append,
        List.findSome?_singleton]
  show c.sites.reverse.findSome? (Site.choice? name) = _
  rw [Check.sites, List.reverse_append, List.findSome?_append, hvalues, Option.or_none,
    hexpectations, Check.decidingChoice?]

end CheckDoc
