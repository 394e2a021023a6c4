import CheckDoc.Proofs.Graph.Search
import Mathlib.Algebra.GroupWithZero.Nat
import Mathlib.Data.List.Rotate

/-!
# What the search for cycles reports

The searches from all roots come to an end within the bound of `Digraph.steps`, and then every node
has been left. Each report is an elementary cycle (`isElementary_of_mem_cycles`), no two reports are
rotations of one another (`pairwise_not_isRotated_cycles`), and without the last edges of the
reports no cycle is left (`not_transGen_kept`).
-/

namespace CheckDoc.Digraph

/-- A cycle of a relation: a list that ends with its first node, whose other nodes differ, and in
which each node is related to the next one. -/
structure IsElementary (R : String → String → Prop) (c : List String) : Prop where
  /-- The first node is repeated at the end. -/
  closed : ∃ n ns, c = n :: ns ++ [n]
  /-- No other node is repeated. -/
  nodup : c.dropLast.Nodup
  /-- Each node is related to the next one. -/
  chain : c.IsChain R

namespace Search

variable {g : Digraph} {s : Search}

/-! ## The end of a search -/

/-- What some unread neighbours of a node still ask for: each may be read and left, and then the
node itself is left. -/
def cost (unread : List String) : Nat := 2 * unread.length + 1

/-- What the nodes that satisfy `white` still ask for. -/
def unreached (g : Digraph) (white : String → Bool) : Nat :=
  ((g.filter fun entry => white entry.1).map fun entry => cost entry.2).sum

/-- Whether a node has not been reached. -/
def isWhite (s : Search) (n : String) : Bool := s.colour n = .white

/-- What is left to do in a search. -/
def work (g : Digraph) (s : Search) : Nat := (s.pending.map cost).sum + unreached g s.isWhite

/-- Fewer nodes ask for no more. -/
theorem unreached_mono {white white' : String → Bool} (himp : ∀ n, white' n → white n) :
    unreached g white' ≤ unreached g white := by
  unfold unreached
  induction g with
  | nil => exact le_rfl
  | cons entry g ih =>
    cases h' : white' entry.1 with
    | true => simpa [h', himp _ h'] using ih
    | false =>
      cases h : white entry.1 with
      | true => simpa [h', h] using ih.trans (Nat.le_add_left _ _)
      | false => simpa [h', h] using ih

/-- Where a node asks for nothing more, the cost of its neighbours is saved. -/
theorem unreached_add_le {white white' : String → Bool} (himp : ∀ n, white' n → white n)
    {n : String} (hn : white n = true) (hn' : white' n = false) :
    unreached g white' + 2 * (g.neighbours n).length ≤ unreached g white := by
  induction g with
  | nil => exact le_rfl
  | cons entry g ih =>
    by_cases he : entry.1 = n
    · -- The node is the first of the graph: all the others ask for no more than before.
      have hmono := unreached_mono (g := g) himp
      have hneighbours : neighbours (entry :: g) n = entry.2 := by simp [neighbours, he]
      rw [hneighbours]
      simp only [unreached, List.filter_cons, he, hn, hn', Bool.false_eq_true, if_false, if_true,
        List.map_cons, List.sum_cons, cost] at hmono ⊢
      omega
    · have hneighbours : neighbours (entry :: g) n = neighbours g n := by simp [neighbours, he]
      rw [hneighbours]
      have hw := himp entry.1
      unfold unreached at ih ⊢
      cases h' : white' entry.1 with
      | true =>
        simp only [List.filter_cons, h', hw h', if_true, List.map_cons, List.sum_cons]
        omega
      | false =>
        simp only [List.filter_cons, h', Bool.false_eq_true, if_false]
        split_ifs
        · simp only [List.map_cons, List.sum_cons]
          omega
        · exact ih

/-- What is saved when a white node is entered. -/
theorem unreached_enter_le {n : String} (hwhite : s.colour n = .white) :
    unreached g (s.enter g n).isWhite + 2 * (g.neighbours n).length ≤ unreached g s.isWhite := by
  have hcolour : ∀ m, (s.enter g n).colour m = if n = m then .grey else s.colour m :=
    fun m => colour_paint s n m .grey
  refine unreached_add_le (fun m hm => ?_) (n := n) (by simpa [isWhite] using hwhite)
    (by simp [isWhite, hcolour])
  rw [isWhite, hcolour] at hm
  split_ifs at hm
  · simp at hm
  · exact hm

/-- A step does some of the work. -/
theorem work_lt {t : Search} (hstep : Step g s t) : work g t < work g s := by
  unfold work
  cases hstep with
  | @leave n path more hpath hpending =>
    have hcolour : ∀ m, (s.leave n path more).colour m = if n = m then .black else s.colour m :=
      fun m => colour_paint s n m .black
    have hmono : unreached g (s.leave n path more).isWhite ≤ unreached g s.isWhite := by
      refine unreached_mono fun m hm => ?_
      rw [isWhite, hcolour] at hm
      split_ifs at hm
      · simp at hm
      · exact hm
    -- Leaving a node ends its own part of the cost.
    have hmore : (s.leave n path more).pending = more := rfl
    rw [hpending, hmore, List.map_cons, List.sum_cons, cost]
    omega
  | @report m path n unread more hpath hpending hgrey =>
    -- A report changes no colour, so only the neighbour that was read is saved.
    obtain ⟨cycles, seen, heq⟩ := report_eq (s.read unread more) n
    rw [heq, hpending]
    exact Nat.add_lt_add_right (by simp [Search.read, cost]) _
  | @enter m path n unread more hpath hpending hwhite =>
    -- What the node asks for goes from the white nodes to the path, less the node itself.
    have hsave := unreached_enter_le (g := g) (s := s.read unread more) hwhite
    have hwhites : (s.read unread more).isWhite = s.isWhite := rfl
    have hmore : ((s.read unread more).enter g n).pending = g.neighbours n :: unread :: more := rfl
    rw [hwhites] at hsave
    rw [hpending, hmore]
    simp only [List.map_cons, List.sum_cons, cost, List.length_cons]
    omega
  | @skip m path n unread more hpath hpending hblack =>
    rw [hpending]
    exact Nat.add_lt_add_right (by simp [Search.read, cost]) _

/-- Nodes that have been reached stay so. -/
theorem entered_subset {t : Search} (hstep : Step g s t) : s.entered ⊆ t.entered := by
  cases hstep with
  | @leave n path more _ _ =>
    have hentered : (s.leave n path more).entered = s.entered := painted_paint s n .black .grey
    rw [hentered]
    exact List.Subset.refl _
  | @report m path n unread more _ _ _ =>
    obtain ⟨cycles, seen, heq⟩ := report_eq (s.read unread more) n
    rw [heq]
    exact List.Subset.refl _
  | @enter m path n unread more _ _ _ =>
    have hentered : ((s.read unread more).enter g n).entered = n :: s.entered :=
      painted_paint _ n .grey .grey
    rw [hentered]
    exact List.subset_cons_self _ _
  | skip _ _ _ => exact List.Subset.refl _

/-- Steps for all the work keep the invariant, forget no node and empty the path. -/
theorem Inv.finish (h : Inv g s) (fuel : Nat) (hfuel : work g s ≤ fuel) :
    Inv g (s.finish g fuel) ∧ s.entered ⊆ (s.finish g fuel).entered ∧
      (s.finish g fuel).path = [] := by
  induction fuel generalizing s with
  | zero =>
    -- A node on the path asks for something, so without work the path is empty.
    have hpending : s.pending = [] := by
      cases hp : s.pending with
      | nil => rfl
      | cons unread more => simp [work, hp, cost] at hfuel
    refine ⟨h, List.Subset.refl _, List.eq_nil_of_length_eq_zero ?_⟩
    rw [Search.finish, h.frames.length_eq, hpending, List.length_nil]
  | succ fuel ih =>
    rw [Search.finish]
    split_ifs with hpending
    · refine ⟨h, List.Subset.refl _, List.eq_nil_of_length_eq_zero ?_⟩
      rw [h.frames.length_eq, List.isEmpty_iff.1 hpending, List.length_nil]
    · have hstep := step_spec (g := g) h.frames.length_eq (by simpa using hpending)
      have hless := work_lt hstep
      obtain ⟨hinv, hsub, hpath⟩ := ih (h.step hstep) (by omega)
      exact ⟨hinv, List.Subset.trans (entered_subset hstep) hsub, hpath⟩

/-- The bound on the steps of a search is more than any nodes ask for, and one more for each node. -/
theorem unreached_add_length_lt_steps (g : Digraph) (white : String → Bool) :
    unreached g white + g.length < steps g := by
  induction g with
  | nil => exact Nat.one_pos
  | cons entry g ih =>
    have hsteps : steps (entry :: g) = 2 * entry.2.length + 2 + steps g := rfl
    have hcost : cost entry.2 = 2 * entry.2.length + 1 := rfl
    rw [hsteps, List.length_cons]
    unfold unreached at ih ⊢
    cases h : white entry.1 with
    | true =>
      simp only [List.filter_cons, h, if_true, List.map_cons, List.sum_cons]
      omega
    | false =>
      simp only [List.filter_cons, h, Bool.false_eq_true, if_false]
      omega

/-- The search from a root keeps the invariant and leaves the root behind. -/
theorem Inv.searchFrom (h : Inv g s) (hpath : s.path = []) (root : String) :
    Inv g (g.searchFrom s root) ∧ (g.searchFrom s root).path = [] ∧
      s.entered ⊆ (g.searchFrom s root).entered ∧ root ∈ (g.searchFrom s root).entered := by
  unfold Digraph.searchFrom
  have hpending : s.pending = [] := by
    apply List.eq_nil_of_length_eq_zero
    rw [← h.frames.length_eq, hpath, List.length_nil]
  split_ifs with hwhite
  · have henter : Inv g (s.enter g root) := h.enter hwhite (by simp [hpath]) (by
      rw [hpath, hpending]
      exact .nil)
    have hentered : (s.enter g root).entered = root :: s.entered := painted_paint s root .grey .grey
    -- The root asks for no more than all white nodes do together, and this is below the bound.
    have hsave := unreached_enter_le (g := g) hwhite
    have hbound := unreached_add_length_lt_steps g s.isWhite
    have hmore : (s.enter g root).pending = [g.neighbours root] := by
      rw [← hpending]
      rfl
    have hwork : work g (s.enter g root) ≤ steps g := by
      rw [work, hmore, List.map_cons, List.sum_cons, cost, List.map_nil, List.sum_nil]
      omega
    obtain ⟨hinv, hsub, hend⟩ := henter.finish (steps g) hwork
    rw [hentered, List.cons_subset] at hsub
    exact ⟨hinv, hend, hsub.2, hsub.1⟩
  · exact ⟨h, hpath, List.Subset.refl _, not_not.1 fun hr => hwhite ((h.white_iff root).2 hr)⟩

/-- The searches from some roots keep the invariant and leave all of them behind. -/
theorem Inv.foldl_searchFrom (roots : List String) (h : Inv g s) (hpath : s.path = []) :
    Inv g (roots.foldl g.searchFrom s) ∧ (roots.foldl g.searchFrom s).path = [] ∧
      s.entered ⊆ (roots.foldl g.searchFrom s).entered ∧
      ∀ r ∈ roots, r ∈ (roots.foldl g.searchFrom s).entered := by
  induction roots generalizing s with
  | nil => exact ⟨h, hpath, List.Subset.refl _, by simp⟩
  | cons root roots ih =>
    obtain ⟨hroot, hrootPath, hrootSub, hmem⟩ := h.searchFrom hpath root
    obtain ⟨hinv, hend, hsub, hroots⟩ := ih hroot hrootPath
    refine ⟨hinv, hend, List.Subset.trans hrootSub hsub, fun r hr => ?_⟩
    rcases List.mem_cons.1 hr with rfl | hr
    · exact hsub hmem
    · exact hroots r hr

/-- The invariant holds before a search. -/
theorem inv_start (g : Digraph) : Inv g .start where
  grey_iff n := by simp [colour, start]
  black_iff n := by simp [colour, start, left, painted]
  mem_entered n := by simp [start, entered, left, painted]
  entered_nodup := List.nodup_nil
  left_nodup := List.nodup_nil
  path_sublist := List.Sublist.slnil
  path_chain := List.isChain_nil
  finished later n earlier hsplit := by simp [start, left, painted] at hsplit
  reports c hc := absurd hc List.not_mem_nil
  mem_seen k := by simp [start]
  rotations_ne := List.Pairwise.nil
  frames := .nil

/-- A report is an elementary cycle. -/
theorem IsReport.isElementary {entered c : List String} (h : IsReport g entered c)
    (hnodup : entered.Nodup) : IsElementary g.Edge c := by
  obtain ⟨n, ns, rfl, hsub, hchain⟩ := h
  refine ⟨⟨n, ns, rfl⟩, ?_, hchain⟩
  rw [List.dropLast_concat, ← List.nodup_reverse]
  exact hnodup.sublist hsub

end Search

variable {g : Digraph}

/-! ## The reports -/

/-- A node with an edge has an entry in the graph, hence it is one of the roots. -/
theorem Edge.mem_keys {a b : String} (hab : g.Edge a b) : a ∈ g.map (·.1) := by
  unfold Edge neighbours at hab
  split at hab
  · rename_i key ns hfind
    have hkey : key = a := by simpa using List.find?_some hfind
    exact List.mem_map.2 ⟨_, List.mem_of_find?_eq_some hfind, hkey⟩
  · exact absurd hab List.not_mem_nil

/-- After the search of a graph the invariant holds, the path is empty and every node that has an
edge has been left. -/
theorem inv_search (g : Digraph) :
    Search.Inv g g.search ∧ ∀ a b, g.Edge a b → a ∈ g.search.left := by
  obtain ⟨hinv, hpath, -, hroots⟩ :=
    (Search.inv_start g).foldl_searchFrom (g.map (·.1)) rfl
  refine ⟨hinv, fun a b hab => ?_⟩
  have := (hinv.mem_entered a).1 (hroots a hab.mem_keys)
  rwa [hpath, List.mem_nil_iff, false_or] at this

/-- Every report is an elementary cycle. -/
theorem isElementary_of_mem_cycles {c : List String} (hc : c ∈ g.cycles) :
    IsElementary g.Edge c :=
  have hinv := (inv_search g).1
  (hinv.reports c hc).isElementary hinv.entered_nodup

/-- No two reports are rotations of one another. -/
theorem pairwise_not_isRotated_cycles (g : Digraph) :
    g.cycles.Pairwise fun c d => ¬ c.dropLast.IsRotated d.dropLast := by
  have hinv := (inv_search g).1
  exact hinv.rotations_ne.imp_of_mem fun {c d} hc _ hne hrot =>
    hne ((rotated_eq_rotated_iff (isElementary_of_mem_cycles hc).nodup).2 hrot)

/-- The edges of a graph that are not the last edge of a report. -/
def Kept (g : Digraph) (a b : String) : Prop := g.Edge a b ∧ ∀ c ∈ g.cycles, ¬ [a, b] <:+ c

/-- A kept edge leads to a node that was left earlier. -/
theorem Kept.idxOf_lt {a b : String} (h : g.Kept a b) :
    g.search.left.idxOf a < g.search.left.idxOf b := by
  obtain ⟨hinv, hleft⟩ := inv_search g
  obtain ⟨hedge, hkept⟩ := h
  obtain ⟨later, earlier, hsplit, hlater⟩ := List.eq_append_cons_of_mem (hleft a b hedge)
  -- The edge closes no report, so its target was left before its source.
  have hb : b ∈ earlier := by
    refine (hinv.finished later a earlier hsplit b hedge).resolve_right ?_
    rintro ⟨c, hc, hab⟩
    exact hkept c hc hab
  have hnodup := hinv.left_nodup
  rw [hsplit, List.nodup_append] at hnodup
  have hblater : b ∉ later := fun hm => hnodup.2.2 b hm b (List.mem_cons_of_mem _ hb) rfl
  have hba : b ≠ a := fun e => (List.nodup_cons.1 hnodup.2.1).1 (e ▸ hb)
  rw [hsplit, List.idxOf_append_of_notMem hlater, List.idxOf_append_of_notMem hblater,
    List.idxOf_cons_self, List.idxOf_cons_ne _ hba.symm]
  omega

/-- Without the last edges of the reports a graph has no cycle. -/
theorem not_transGen_kept (g : Digraph) (n : String) : ¬ Relation.TransGen g.Kept n n := by
  intro h
  -- Along kept edges the places in the order of leaving ascend.
  have hlt := h.lift (p := (· < ·)) g.search.left.idxOf fun a b hab => hab.idxOf_lt
  rw [Relation.transGen_eq_self] at hlt
  exact lt_irrefl _ hlt

/-- All nodes of an elementary cycle are related to one another. -/
theorem IsElementary.reflTransGen {R : String → String → Prop} {c : List String}
    (h : IsElementary R c) {m n : String} (hm : m ∈ c) (hn : n ∈ c) :
    Relation.ReflTransGen R m n := by
  obtain ⟨⟨k, ks, rfl⟩, -, hchain⟩ := h
  -- Every node reaches the first one, and is reached from it.
  have hto : ∀ i ∈ k :: ks ++ [k], Relation.ReflTransGen R i k :=
    hchain.backwards_induction _ _ (fun x y hxy hy => .head hxy hy) fun _ => by
      rw [List.getLast_append_singleton]
  have hfrom : ∀ i ∈ k :: ks ++ [k], Relation.ReflTransGen R k i :=
    hchain.induction _ _ (fun x y hxy hx => .tail hx hxy) fun _ => .refl
  exact (hto m hm).trans (hfrom n hn)

/-- An edge is kept or is the last edge of a report. -/
theorem Edge.kept_or {a b : String} (h : g.Edge a b) :
    g.Kept a b ∨ ∃ c ∈ g.cycles, [a, b] <:+ c := by
  by_cases hc : ∃ c ∈ g.cycles, [a, b] <:+ c
  · exact .inr hc
  · exact .inl ⟨h, fun c hmem hab => hc ⟨c, hmem, hab⟩⟩

/-- A node that reaches itself is in the group of the nodes of a report. -/
theorem exists_cycle_of_transGen {a : String} (h : Relation.TransGen g.Edge a a) :
    ∃ c ∈ g.cycles, ∀ n ∈ c,
      Relation.TransGen g.Edge a n ∧ Relation.TransGen g.Edge n a := by
  -- Some edge of the walk from `a` to `a` is not kept, and it ends a report.
  obtain ⟨x, y, hax, hxy, hya, hnot⟩ : ∃ x y, Relation.ReflTransGen g.Edge a x ∧ g.Edge x y ∧
      Relation.ReflTransGen g.Edge y a ∧ ¬ g.Kept x y := by
    by_contra! hall
    have hkept : ∀ b, Relation.TransGen g.Edge a b → Relation.ReflTransGen g.Edge b a →
        Relation.TransGen g.Kept a b := by
      intro b hb
      induction hb with
      | single hab => exact fun hba => .single (hall a _ .refl hab hba)
      | tail hab hbc ih =>
        exact fun hca => (ih (.head hbc hca)).tail (hall _ _ hab.to_reflTransGen hbc hca)
    exact not_transGen_kept g a (hkept a h .refl)
  obtain ⟨c, hc, hlast⟩ := hxy.kept_or.resolve_left hnot
  have hcycle := isElementary_of_mem_cycles hc
  have hx : x ∈ c := hlast.subset (by simp)
  have hy : y ∈ c := hlast.subset (by simp)
  refine ⟨c, hc, fun n hn => ⟨?_, ?_⟩⟩
  · exact Relation.TransGen.trans_left (.tail' hax hxy) (hcycle.reflTransGen hy hn)
  · exact Relation.TransGen.trans_right (hcycle.reflTransGen hn hx) (.head' hxy hya)

/-! ## Cycles that share edges -/

/-- A node of a cycle reaches itself. -/
theorem IsElementary.exists_transGen {R : String → String → Prop} {c : List String}
    (h : IsElementary R c) : ∃ n, Relation.TransGen R n n := by
  obtain ⟨⟨n, ns, rfl⟩, -, hchain⟩ := h
  obtain ⟨m, ms, hsplit⟩ : ∃ m ms, ns ++ [n] = m :: ms := List.exists_cons_of_ne_nil (by simp)
  have hlast : (m :: ms).getLast (List.cons_ne_nil m ms) = n := by simp [← hsplit]
  -- The first node is related to the second one, which reaches the last one.
  rw [List.cons_append, hsplit, List.isChain_cons_cons] at hchain
  exact ⟨n, .head' hchain.1 (List.relationReflTransGen_of_exists_isChain_cons ms hchain.2 hlast)⟩

/-- Two cycles share an edge. -/
def ShareEdge (c d : List String) : Prop := ∃ a b, [a, b] <:+: c ∧ [a, b] <:+: d

/-- The edges of a cycle of two nodes. -/
theorem ShareEdge.of_pair {n m : String} {other : List String}
    (h : ShareEdge [n, m, n] other) : [n, m] <:+: other ∨ [m, n] <:+: other := by
  obtain ⟨a, b, hab, hother⟩ := h
  have hedges : (a = n ∧ b = m) ∨ (a = m ∧ b = n) := by
    simpa [List.infix_cons_iff, List.cons_prefix_cons] using hab
  rcases hedges with ⟨rfl, rfl⟩ | ⟨rfl, rfl⟩
  · exact .inl hother
  · exact .inr hother

/-- Each cycle of a graph has the last edge of a report among its edges. -/
theorem exists_report_of_isElementary {c : List String} (h : IsElementary g.Edge c) :
    ∃ report ∈ g.cycles, ∃ a b, [a, b] <:+ report ∧ [a, b] <:+: c := by
  by_contra! hnone
  -- Otherwise every edge of the cycle is kept, and the kept edges have no cycle.
  have hkept : c.IsChain g.Kept := (List.isChain_isInfix c).imp fun a b hab =>
    ⟨List.isChain_pair.1 <| List.IsChain.infix h.chain hab, fun report hreport hlast =>
      hnone report hreport a b hlast hab⟩
  obtain ⟨n, hn⟩ := IsElementary.exists_transGen ⟨h.closed, h.nodup, hkept⟩
  exact not_transGen_kept g n hn

/-- At most one report is a rotation of a given list. -/
theorem countP_isRotated_le_one (g : Digraph) (c : List String) :
    g.cycles.countP (fun report => report.dropLast.IsRotated c.dropLast) ≤ 1 := by
  have hpairwise := (pairwise_not_isRotated_cycles g).filter fun report =>
    report.dropLast.IsRotated c.dropLast
  have hmem : ∀ report ∈ g.cycles.filter fun report => report.dropLast.IsRotated c.dropLast,
      report.dropLast.IsRotated c.dropLast := fun report hreport => by
    simpa using (List.mem_filter.1 hreport).2
  rw [List.countP_eq_length_filter]
  generalize (g.cycles.filter fun report => report.dropLast.IsRotated c.dropLast) = found
    at hpairwise hmem ⊢
  cases hfound : found with
  | nil => exact Nat.zero_le 1
  | cons r rest =>
    rw [hfound, List.pairwise_cons] at hpairwise
    rw [hfound, List.forall_mem_cons] at hmem
    -- A second one would be a rotation of the first.
    have hrest : rest = [] := List.eq_nil_iff_forall_not_mem.2 fun r' hr' =>
      hpairwise.1 r' hr' (hmem.1.trans (hmem.2 r' hr').symm)
    rw [hrest, List.length_singleton]

/-- A cycle of a graph that shares no edge with another one is reported once. -/
theorem countP_isRotated_eq_one {c : List String} (h : IsElementary g.Edge c)
    (hapart : ∀ d, IsElementary g.Edge d → ShareEdge c d → d.dropLast.IsRotated c.dropLast) :
    g.cycles.countP (fun report => report.dropLast.IsRotated c.dropLast) = 1 := by
  obtain ⟨report, hreport, a, b, hlast, hab⟩ := exists_report_of_isElementary h
  have hrotated := hapart report (isElementary_of_mem_cycles hreport) ⟨a, b, hab, hlast.isInfix⟩
  refine le_antisymm (countP_isRotated_le_one g c) (List.countP_pos_iff.2 ⟨report, hreport, ?_⟩)
  exact decide_eq_true hrotated

end CheckDoc.Digraph
