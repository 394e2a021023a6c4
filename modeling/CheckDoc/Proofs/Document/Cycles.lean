import CheckDoc.Proofs.Document.Dependencies

/-!
# Which cycles of values are reported

A group of values that depend on each other has a report, but it can have many cycles. Those that
share no edge with another one are all reported, each of them once, whatever values they share
(`Check.countP_cycles`). Of two cycles that share an edge one may be missed
(`Check.not_countP_cycles_eq_one`).
-/

namespace CheckDoc

/-- What a value depends on, in a graph of dependencies that is known. -/
theorem Check.dependsOn_iff {c : Check} {env : List String} {g : Digraph} {a b : String}
    (h : (c.names env).dependencies c.sites = g) : c.DependsOn a b ↔ b ∈ g.neighbours a := by
  rw [← Check.edge_dependencies c env, h, Digraph.Edge]

/-- A Check with the given values, each with the texts of its conditions. -/
def Check.ofConditions (values : List (String × List String)) : Check where
  id := "cycles"
  name := "Cycles"
  group := "Values"
  description := ""
  remediation := ""
  metadata := none
  facts := []
  values := values.map fun (name, whens) =>
    ⟨name, .scalar (.int 0), whens.map fun text => ⟨.scalar (.int 1), text⟩⟩
  expectations := []
  premium := none

/-- A cycle of dependencies is reported at most once, and some report ends with one of its edges.
It is reported where it shares no edge with another cycle, whatever values it shares. -/
theorem Check.countP_cycles (c : Check) (env : List String) {cycle : List String}
    (h : Digraph.IsElementary c.DependsOn cycle) :
    (∃ report ∈ (c.names env).cycles c.sites, ∃ a b, [a, b] <:+ report ∧ [a, b] <:+: cycle) ∧
    ((c.names env).cycles c.sites).countP
      (fun report => report.dropLast.IsRotated cycle.dropLast) ≤ 1 ∧
    ((∀ other, Digraph.IsElementary c.DependsOn other → Digraph.ShareEdge cycle other →
        other.dropLast.IsRotated cycle.dropLast) →
      ((c.names env).cycles c.sites).countP
        (fun report => report.dropLast.IsRotated cycle.dropLast) = 1) := by
  rw [← Check.edge_dependencies c env] at h ⊢
  exact ⟨Digraph.exists_report_of_isElementary h, Digraph.countP_isRotated_le_one _ cycle,
    Digraph.countP_isRotated_eq_one h⟩

/-- Two cycles that share a value, but no edge. -/
theorem Check.countP_cycles_joined :
    let c := Check.ofConditions [("a", ["values.b == 1"]),
      ("b", ["values.a == 1", "values.c == 1"]), ("c", ["values.b == 1"])]
    Digraph.IsElementary c.DependsOn ["b", "c", "b"] ∧
      ((c.names []).cycles c.sites).countP (fun report => report.dropLast.IsRotated ["b", "c"]) =
        1 := by
  intro c
  have hgraph : (c.names []).dependencies c.sites =
      [("a", ["b"]), ("b", ["a", "c"]), ("c", ["b"])] := by decide +kernel
  have hedges : ["b", "c", "b"].IsChain c.DependsOn := by
    simp only [List.isChain_cons_cons, List.IsChain.singleton, Check.dependsOn_iff hgraph]
    decide
  have hcycle : Digraph.IsElementary c.DependsOn ["b", "c", "b"] :=
    ⟨⟨"b", ["c"], rfl⟩, by decide, hedges⟩
  refine ⟨hcycle, (Check.countP_cycles c [] hcycle).2.2 fun other hother hshare => ?_⟩
  have hnodes : other ⊆ ["a", "b", "c"] := fun x hx => by
    obtain ⟨v, hv, rfl⟩ := Check.declares_of_isElementary hother hx
    exact List.mem_map_of_mem hv
  obtain ⟨⟨n, ns, rfl⟩, hnodup, hchain⟩ := hother
  rw [List.dropLast_concat] at hnodup ⊢
  have hlength : (n :: ns).length ≤ 3 := (List.subperm_of_subset hnodup
    fun x hx => hnodes (List.mem_append_left _ hx)).length_le
  have hshared := hshare.of_pair
  -- The cycles through one, two and three of the values.
  rcases ns with _ | ⟨m, _ | ⟨k, _ | ⟨_, _⟩⟩⟩
  · exact absurd rfl (List.isChain_pair.1 hchain).2.2
  · simp only [List.cons_append, List.nil_append, List.isChain_cons_cons, List.IsChain.singleton,
      Check.dependsOn_iff hgraph, List.cons_subset, List.nil_subset] at hchain hnodes hshared ⊢
    have hpairs : ∀ n ∈ ["a", "b", "c"], ∀ m ∈ ["a", "b", "c"],
        ["b", "c"] <:+: [n, m, n] ∨ ["c", "b"] <:+: [n, m, n] → [n, m].IsRotated ["b", "c"] := by
      decide +kernel
    exact hpairs n hnodes.1 m hnodes.2.1 hshared
  · have hnone : ∀ n ∈ ["a", "b", "c"], ∀ m ∈ ["a", "b", "c"], ∀ k ∈ ["a", "b", "c"],
        m ∈ Digraph.neighbours [("a", ["b"]), ("b", ["a", "c"]), ("c", ["b"])] n →
        k ∈ Digraph.neighbours [("a", ["b"]), ("b", ["a", "c"]), ("c", ["b"])] m →
        n ∉ Digraph.neighbours [("a", ["b"]), ("b", ["a", "c"]), ("c", ["b"])] k := by
      decide +kernel
    simp only [List.cons_append, List.nil_append, List.isChain_cons_cons, List.IsChain.singleton,
      Check.dependsOn_iff hgraph, List.cons_subset, List.nil_subset] at hchain hnodes
    exact absurd hchain.2.2.1 (hnone n hnodes.1 m hnodes.2.1 k hnodes.2.2.1 hchain.1 hchain.2.1)
  · simp only [List.length_cons] at hlength
    omega

/-- Two cycles that share the edge from `c` to `a`: once the longer one is reported, `c` is left and
the shorter one is missed. -/
theorem Check.not_countP_cycles_eq_one :
    ¬ ∀ (c : Check) (env cycle : List String), Digraph.IsElementary c.DependsOn cycle →
      ((c.names env).cycles c.sites).countP
        (fun report => report.dropLast.IsRotated cycle.dropLast) = 1 := by
  intro hall
  let c := Check.ofConditions
    [("a", ["values.b == 1", "values.c == 1"]), ("b", ["values.c == 1"]), ("c", ["values.a == 1"])]
  have hgraph : (c.names []).dependencies c.sites =
      [("a", ["b", "c"]), ("b", ["c"]), ("c", ["a"])] := by decide +kernel
  have hedges : ["a", "c", "a"].IsChain c.DependsOn := by
    simp only [List.isChain_cons_cons, List.IsChain.singleton, Check.dependsOn_iff hgraph]
    decide
  have hreports : (c.names []).cycles c.sites = [["a", "b", "c", "a"]] := by decide +kernel
  have hone := hall c [] ["a", "c", "a"] ⟨⟨"a", ["c"], rfl⟩, by decide, hedges⟩
  rw [hreports] at hone
  exact absurd hone (by decide +kernel)

end CheckDoc
