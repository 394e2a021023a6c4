import CheckDoc.Proofs.Document.Cycles
import CheckDoc.Proofs.Graph.Order
import CheckDoc.Proofs.Text.NameSet

/-!
# The order in which cycles of values are reported

Reports come in the order of the walks that lead to them: from a declared value on, each value to
those that its conditions refer to (`Check.cycles_ordered`). The first value on a cycle is where its
walk comes back to, not where it starts, so reports need not be in the order in which these values
are declared (`Check.not_pairwise_declared`).
-/

namespace CheckDoc

/-- Members that come in the order of their first occurrences also first occur in this order. -/
theorem FirstOccurrences.idxOf_le {xs ys : List String} (h : FirstOccurrences xs ys) {a b : String}
    (hb : b ∈ xs) (hle : xs.idxOf a ≤ xs.idxOf b) : ys.idxOf a ≤ ys.idxOf b := by
  rcases hle.eq_or_lt with heq | hlt
  · rw [(List.idxOf_inj hb).1 heq.symm]
  · have hblt := List.idxOf_lt_length_of_mem hb
    have halt := hlt.trans hblt
    have hordered := List.pairwise_iff_getElem.1 h.ordered _ _ halt hblt hlt
    rw [List.getElem_idxOf, List.getElem_idxOf] at hordered
    exact hordered.le

namespace Check

/-- The nodes of the graph of dependencies are the values as they are declared. -/
theorem nodes_dependencies (c : Check) (env : List String) :
    ((c.names env).dependencies c.sites).nodes = (c.values.map (·.name)).eraseDups := by
  rw [Digraph.nodes, Names.dependencies, List.map_map]
  exact List.map_id _

/-- No value is twice among those that another one depends on. -/
theorem nodup_neighbours_dependencies (c : Check) (env : List String) (a : String) :
    (((c.names env).dependencies c.sites).neighbours a).Nodup := by
  rw [Names.dependencies, Digraph.neighbours_map]
  split_ifs
  · exact nodup_eraseDups _
  · exact List.nodup_nil

/-- To each report leads a walk that starts at a declared value and is, round the cycle, the first
of all walks to the last value on it. The reports are in the order of these walks, each with the
step back to the first value on its cycle. So they are in the order of the first values that lead to
them: for each value that leads to a later report, one that is declared no later leads to the
earlier one. Where the first value on a cycle is itself the first one that leads there, it is
declared no later than the first values on later reports. -/
theorem cycles_ordered (c : Check) (env : List String) :
    let g := (c.names env).dependencies c.sites
    let reports := (c.names env).cycles c.sites
    let place := fun name => (c.values.map (·.name)).idxOf name
    (g.Edge = c.DependsOn ∧ g.nodes = (c.values.map (·.name)).eraseDups) ∧
    (∀ x ∈ reports, ∃ lead, g.IsFirstWalk (lead ++ x.dropLast)) ∧
    reports.Pairwise (fun x y => ∀ lead lead', g.IsFirstWalk (lead ++ x.dropLast) →
      g.IsFirstWalk (lead' ++ y.dropLast) → g.Before g.nodes (lead ++ x) (lead' ++ y)) ∧
    reports.Pairwise fun x y => ∀ n ∈ x.head?, ∀ m ∈ y.head?,
      (∀ q, c.Declares q → Relation.ReflTransGen c.DependsOn q m →
        ∃ r, c.Declares r ∧ place r ≤ place q ∧ Relation.ReflTransGen c.DependsOn r n) ∧
      ((∀ r, c.Declares r → place r < place n → ¬ Relation.ReflTransGen c.DependsOn r n) →
        place n ≤ place m) := by
  intro g reports place
  have hedge : g.Edge = c.DependsOn := edge_dependencies c env
  have hnodes : g.nodes = (c.values.map (·.name)).eraseDups := nodes_dependencies c env
  have hdeclares : ∀ n, n ∈ g.nodes ↔ c.Declares n := fun n => by
    rw [hnodes, List.mem_eraseDups, List.mem_map]
    rfl
  have hnodup : g.nodes.Nodup := hnodes ▸ nodup_eraseDups _
  have hplace : ∀ {a b}, b ∈ g.nodes → g.nodes.idxOf a ≤ g.nodes.idxOf b → place a ≤ place b :=
    fun {a b} hb hle => by
      rw [hnodes] at hb hle
      exact (firstOccurrences_eraseDups _).idxOf_le hb hle
  have hneighbours := nodup_neighbours_dependencies c env
  obtain ⟨hlead, hsorted⟩ := Digraph.pairwise_before_cycles hnodup hneighbours
  refine ⟨⟨hedge, hnodes⟩, hlead, hsorted, ?_⟩
  refine (Digraph.pairwise_source_cycles hnodup hneighbours).imp_of_mem
    fun {x y} _ hy hsource n hn m hm => ?_
  have hleads : ∀ q, c.Declares q → Relation.ReflTransGen c.DependsOn q m →
      ∃ r, c.Declares r ∧ place r ≤ place q ∧ Relation.ReflTransGen c.DependsOn r n := by
    intro q hq hqm
    obtain ⟨r, hr, hle, hrn⟩ := hsource n hn m hm q ((hdeclares q).2 hq) (hedge ▸ hqm)
    exact ⟨r, (hdeclares r).1 hr, hplace ((hdeclares q).2 hq) hle, hedge ▸ hrn⟩
  refine ⟨hleads, fun hfirst => ?_⟩
  -- The first value on the later cycle is one of those that lead there.
  have helementary : Digraph.IsElementary c.DependsOn y :=
    hedge ▸ Digraph.isElementary_of_mem_cycles hy
  have hmDeclared := declares_of_isElementary helementary (List.mem_of_mem_head? hm)
  obtain ⟨r, hr, hle, hrn⟩ := hleads m hmDeclared .refl
  exact (not_lt.1 fun hlt => hfirst r hr hlt hrn).trans hle

/-- The value `a` leads to the cycle of `b` and `c`, which the search goes round before it comes
back to `a`: the report that starts at `b` is in front of the one that starts at `a`. -/
theorem not_pairwise_declared :
    ¬ ∀ (c : Check) (env : List String), ((c.names env).cycles c.sites).Pairwise fun x y =>
      ∀ n ∈ x.head?, ∀ m ∈ y.head?,
        (c.values.map (·.name)).idxOf n ≤ (c.values.map (·.name)).idxOf m := by
  intro hall
  let c := Check.ofConditions
    [("a", ["values.b == 1"]), ("b", ["values.c == 1", "values.a == 1"]), ("c", ["values.b == 1"])]
  have hreports : (c.names []).cycles c.sites = [["b", "c", "b"], ["a", "b", "a"]] := by decide +kernel
  have hplaces := hall c []
  rw [hreports, List.pairwise_pair] at hplaces
  exact absurd (hplaces "b" rfl "a" rfl) (by decide)

end Check

end CheckDoc
