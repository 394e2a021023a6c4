import CheckDoc.Document.Names
import CheckDoc.Proofs.Document.Sites
import CheckDoc.Proofs.Graph.Cycles

/-!
# Cyclic dependencies of values

`Check.DependsOn` says which declared values the conditions of a value refer to. The graph of
`Names.dependencies` is this relation (`edge_dependencies`), so that the reports of `Names.cycles`
are cycles of it, and every group of values that depend on each other is reported
(`cycles_dependsOn`).
-/

namespace CheckDoc

/-- Whether a value of the given name is declared. -/
def Check.Declares (c : Check) (name : String) : Prop := ∃ v ∈ c.values, v.name = name

/-- Whether a condition of a value named `a` parses and refers to the reference `r`. -/
def Check.Mentions (c : Check) (a : String) (r : Reference) : Prop :=
  ∃ v ∈ c.values, v.name = a ∧ ∃ k ∈ v.conditions, ∃ e,
    Expr.parse k.when = .ok e ∧ r ∈ e.references

/-- The value `a` depends on another declared value `b`: some condition of `a` refers to it. -/
def Check.DependsOn (c : Check) (a b : String) : Prop :=
  c.Mentions a ⟨.values, b⟩ ∧ c.Declares b ∧ b ≠ a

variable {c : Check} {env : List String}

/-- The references of the site of a condition are those of its expression. -/
theorem Value.mem_references_site {v : Value} {i : Nat} {k : Condition} {r : Reference} :
    r ∈ (v.site i k).references ↔ ∃ e, Expr.parse k.when = .ok e ∧ r ∈ e.references := by
  rw [Site.mem_references]
  constructor
  · rintro ⟨tree, htree, hr⟩
    obtain ⟨e, he, rfl⟩ := map_eq_ok_iff.1 htree
    exact ⟨e, he, hr⟩
  · rintro ⟨e, he, hr⟩
    exact ⟨.expr e, map_eq_ok_iff.2 ⟨e, he, rfl⟩, hr⟩

/-- The sites that belong to the values of a name refer to what the conditions of these values
mention. -/
theorem Check.mem_references_iff {name : String} {r : Reference} :
    (∃ s ∈ c.sites, (s.place.isValue = true ∧ s.place.owner = name) ∧ r ∈ s.references) ↔
      c.Mentions name r := by
  constructor
  · rintro ⟨s, hs, ⟨hvalue, howner⟩, hr⟩
    rcases Check.mem_sites.1 hs with ⟨v, hv, hs⟩ | ⟨e, -, hs⟩
    · obtain ⟨i, k, hk, rfl⟩ := Value.mem_sites.1 hs
      exact ⟨v, hv, howner, k, List.mem_of_getElem? hk, Value.mem_references_site.1 hr⟩
    · -- The sites of expectations belong to no value.
      rw [Expectation.isValue_of_mem_sites hs] at hvalue
      cases hvalue
  · rintro ⟨v, hv, rfl, k, hk, hr⟩
    obtain ⟨i, hi⟩ := Value.exists_site hk
    exact ⟨v.site i k, Check.mem_sites.2 (.inl ⟨v, hv, hi⟩), ⟨rfl, rfl⟩,
      Value.mem_references_site.2 hr⟩

/-- A reference to a value names something when the value is declared. -/
theorem Check.resolves_values {name : String} :
    (c.names env).resolves ⟨.values, name⟩ = true ↔ c.Declares name := by
  simp [Names.resolves, Names.value?, Check.names, Check.Declares]

/-- The neighbours of a value are those that its conditions refer to. -/
theorem Check.mem_dependenciesOf {a b : String} :
    b ∈ (c.names env).dependenciesOf c.sites a ↔ c.DependsOn a b := by
  simp only [Names.dependenciesOf, List.mem_eraseDups, List.mem_map, List.mem_filter,
    List.mem_flatMap, Bool.and_eq_true, decide_eq_true_eq, Check.DependsOn]
  constructor
  · rintro ⟨⟨scope, name⟩, ⟨⟨s, ⟨hs, hplace⟩, hr⟩, ⟨rfl, hne⟩, hdeclared⟩, rfl⟩
    exact ⟨Check.mem_references_iff.1 ⟨s, hs, hplace, hr⟩, Check.resolves_values.1 hdeclared,
      hne⟩
  · rintro ⟨hmentions, hdeclared, hne⟩
    obtain ⟨s, hs, hplace, hr⟩ := Check.mem_references_iff.2 hmentions
    exact ⟨_, ⟨⟨s, ⟨hs, hplace⟩, hr⟩, ⟨rfl, hne⟩, Check.resolves_values.2 hdeclared⟩, rfl⟩

/-- A value that mentions something is declared. -/
theorem Check.Mentions.declares {a : String} {r : Reference} (h : c.Mentions a r) :
    c.Declares a := by
  obtain ⟨v, hv, hname, -⟩ := h
  exact ⟨v, hv, hname⟩

/-- The neighbours in a graph that is given by a function on its nodes. -/
theorem Digraph.neighbours_map (nodes : List String) (f : String → List String) (a : String) :
    neighbours (nodes.map fun n => (n, f n)) a = if a ∈ nodes then f a else [] := by
  -- The first entry of a node is as good as any other: all of them have the same neighbours.
  have hfind : (nodes.map fun n => (n, f n)).find? (fun entry => entry.1 = a) =
      if a ∈ nodes then some (a, f a) else none := by
    induction nodes with
    | nil => rfl
    | cons n nodes ih =>
      by_cases hn : n = a
      · simp [hn]
      · simpa [hn, Ne.symm hn] using ih
  rw [neighbours, hfind]
  by_cases ha : a ∈ nodes
  · simp [ha]
  · simp [ha]

/-- The edges of the graph of dependencies. -/
theorem Check.edge_dependencies (c : Check) (env : List String) :
    ((c.names env).dependencies c.sites).Edge = c.DependsOn := by
  funext a b
  have hnodes : a ∈ ((c.names env).values.map (·.name)).eraseDups ↔ c.Declares a := by
    simp [Check.names, Check.Declares]
  rw [Digraph.Edge, Names.dependencies, Digraph.neighbours_map]
  refine propext ⟨fun h => ?_, fun h => ?_⟩
  · split_ifs at h
    · exact Check.mem_dependenciesOf.1 h
    · exact absurd h List.not_mem_nil
  · rw [if_pos (hnodes.2 h.1.declares)]
    exact Check.mem_dependenciesOf.2 h

/-- The nodes of a cycle of dependencies are declared values. -/
theorem Check.declares_of_isElementary {cycle : List String}
    (h : Digraph.IsElementary c.DependsOn cycle) {n : String} (hn : n ∈ cycle) :
    c.Declares n := by
  obtain ⟨⟨m, ms, rfl⟩, -, hchain⟩ := h
  refine hchain.backwards_induction c.Declares _ (fun x y hxy _ => hxy.1.declares) (fun _ => ?_)
    n hn
  -- The last node is the first one, which depends on the second one.
  rw [List.getLast_append_singleton]
  cases ms with
  | nil => exact (List.isChain_cons_cons.1 hchain).1.1.declares
  | cons k ks => exact (List.isChain_cons_cons.1 hchain).1.1.declares

/-- The values of a Check depend on each other in cycles exactly where a cycle is reported. -/
theorem Check.cycles_eq_nil_iff :
    (c.names env).cycles c.sites = [] ↔ ∀ n, ¬ Relation.TransGen c.DependsOn n n := by
  rw [← Check.edge_dependencies c env]
  constructor
  · intro hnil n hn
    obtain ⟨cycle, hcycle, -⟩ := Digraph.exists_cycle_of_transGen hn
    rw [← Names.cycles, hnil] at hcycle
    exact absurd hcycle List.not_mem_nil
  · intro hacyclic
    refine List.eq_nil_iff_forall_not_mem.2 fun cycle hcycle => ?_
    obtain ⟨n, hn⟩ := (Digraph.isElementary_of_mem_cycles hcycle).exists_transGen
    exact hacyclic n hn

/-- Each report on the values of a Check is a cycle of distinct declared values, each of which
depends on the next, and no two reports are rotations of one another. Without the last edge of every
report no value depends on itself, so that there are no reports exactly where there are no cycles,
and values that depend on each other have a report among them. -/
theorem Check.cycles_dependsOn (c : Check) (env : List String) :
    (∀ cycle ∈ (c.names env).cycles c.sites,
      Digraph.IsElementary c.DependsOn cycle ∧ ∀ n ∈ cycle, c.Declares n) ∧
    ((c.names env).cycles c.sites).Pairwise
      (fun cycle other => ¬ cycle.dropLast.IsRotated other.dropLast) ∧
    (∀ n, ¬ Relation.TransGen (fun a b => c.DependsOn a b ∧
      ∀ cycle ∈ (c.names env).cycles c.sites, ¬ [a, b] <:+ cycle) n n) ∧
    ((c.names env).cycles c.sites = [] ↔ ∀ n, ¬ Relation.TransGen c.DependsOn n n) ∧
    ∀ a b, Relation.TransGen c.DependsOn a b → Relation.TransGen c.DependsOn b a →
      ∃ cycle ∈ (c.names env).cycles c.sites, ∀ n ∈ cycle,
        Relation.TransGen c.DependsOn a n ∧ Relation.TransGen c.DependsOn n a := by
  have hedge := Check.edge_dependencies c env
  refine ⟨fun cycle hcycle => ?_, Digraph.pairwise_not_isRotated_cycles _, fun n => ?_,
    Check.cycles_eq_nil_iff, fun a b hab hba => ?_⟩
  · have helementary := Digraph.isElementary_of_mem_cycles hcycle
    rw [hedge] at helementary
    exact ⟨helementary, fun n hn => Check.declares_of_isElementary helementary hn⟩
  · rw [← hedge]
    exact Digraph.not_transGen_kept _ n
  · rw [← hedge] at hab hba ⊢
    exact Digraph.exists_cycle_of_transGen (hab.trans hba)

end CheckDoc
