import CheckDoc.Proofs.Graph.Cycles

/-!
# The order of the reports

Walks are compared where they part: `Before` holds of the one that goes on to an earlier neighbour.
The search reaches each node along the first of all walks to it, and it reads the edges in the order
of the walks that end with them. So the reports are in the order of the walks that lead to them and
round them once (`pairwise_before_cycles`), and in particular in the order of the first nodes that
lead to them (`pairwise_source_cycles`).
-/

namespace CheckDoc.Digraph

/-- The nodes of a graph in order. -/
def nodes (g : Digraph) : List String := g.map (·.1)

/-- Of two walks that start at one of the `choices`, the first is before the second: where they
part, it goes on to the node that comes first there. No walk is before one that it is a part of. -/
def Before (g : Digraph) : List String → List String → List String → Prop
  | choices, a :: u, b :: v =>
    choices.idxOf a < choices.idxOf b ∨ a = b ∧ Before g (g.neighbours a) u v
  | _, _, _ => False

/-- A walk from a node of the graph along its edges, on which no node is repeated. -/
structure IsWalk (g : Digraph) (w : List String) : Prop where
  /-- It starts at a node of the graph. -/
  starts : ∃ n ∈ w.head?, n ∈ g.nodes
  /-- It goes along edges. -/
  chain : w.IsChain g.Edge
  /-- No node is repeated. -/
  nodup : w.Nodup

/-- A walk that is before all other walks to its last node. -/
structure IsFirstWalk (g : Digraph) (w : List String) : Prop extends IsWalk g w where
  /-- Another walk to its last node is behind it. -/
  first : ∀ v, g.IsWalk v → v.getLast? = w.getLast? → v = w ∨ g.Before g.nodes w v

variable {g : Digraph} {choices p u v w : List String}

/-! ## Walks that part -/

/-- Walks that have parted stay so, however they go on. -/
theorem Before.append (h : g.Before choices u v) (x y : List String) :
    g.Before choices (u ++ x) (v ++ y) := by
  induction u generalizing choices v with
  | nil => exact h.elim
  | cons a u ih =>
    cases v with
    | nil => exact h.elim
    | cons b v => exact h.imp id (And.imp id ih)

/-- Of two walks at most one is before the other. -/
theorem Before.asymm (h : g.Before choices u v) : ¬ g.Before choices v u := by
  induction u generalizing choices v with
  | nil => exact h.elim
  | cons a u ih =>
    cases v with
    | nil => exact h.elim
    | cons b v =>
      rintro (hlt | ⟨rfl, hback⟩)
      · rcases h with hlt' | ⟨rfl, -⟩
        · exact absurd hlt hlt'.asymm
        · exact lt_irrefl _ hlt
      · rcases h with hlt | ⟨-, h⟩
        · exact lt_irrefl _ hlt
        · exact ih h hback

/-- The nodes that a walk can go on to. -/
def onward (g : Digraph) : List String → List String → List String
  | choices, [] => choices
  | _, a :: u => onward g (g.neighbours a) u

/-- A walk can go on to the neighbours of its last node. -/
theorem onward_concat (g : Digraph) (choices u : List String) (n : String) :
    g.onward choices (u ++ [n]) = g.neighbours n := by
  induction u generalizing choices with
  | nil => rfl
  | cons a u ih => exact ih _

/-- What two walks have in common does not matter. -/
theorem before_append_left :
    g.Before choices (p ++ u) (p ++ v) ↔ g.Before (g.onward choices p) u v := by
  induction p generalizing choices with
  | nil => rfl
  | cons a p ih =>
    show choices.idxOf a < choices.idxOf a ∨ a = a ∧ g.Before (g.neighbours a) (p ++ u) (p ++ v) ↔ _
    rw [ih]
    simp [onward]

/-- Of a walk that is before another, a part is before it, or is its part as well. -/
theorem Before.of_append {x : List String} (h : g.Before choices (u ++ x) v) :
    g.Before choices u v ∨ u <+: v ∨ v <+: u := by
  induction u generalizing choices v with
  | nil => exact .inr (.inl List.nil_prefix)
  | cons a u ih =>
    cases v with
    | nil => exact .inr (.inr List.nil_prefix)
    | cons b v =>
      rcases h with hlt | ⟨rfl, h⟩
      · exact .inl (.inl hlt)
      · simp only [List.cons_prefix_cons, true_and]
        exact (ih h).imp (fun h => .inr ⟨rfl, h⟩) id

/-- A first walk is the only one to its last node. -/
theorem IsFirstWalk.eq (hu : g.IsFirstWalk u) (hv : g.IsFirstWalk v)
    (hlast : u.getLast? = v.getLast?) : u = v := by
  rcases hv.first u hu.toIsWalk hlast with heq | hvu
  · exact heq
  · rcases hu.first v hv.toIsWalk hlast.symm with heq | huv
    · exact heq.symm
    · exact absurd huv hvu.asymm

/-- A walk that is a part of another one has another last node. -/
theorem eq_of_part (hv : v.Nodup) (hlast : u.getLast? = v.getLast?)
    (h : u <+: v) : u = v := by
  obtain ⟨x, rfl⟩ := h
  cases hx : x.getLast? with
  | none => rw [List.getLast?_eq_none_iff.1 hx, List.append_nil]
  | some n =>
    -- The last node of `x` would be that of `u` as well.
    have hn : u.getLast? = some n := by rw [hlast, List.getLast?_append, hx, Option.some_or]
    exact absurd rfl ((List.nodup_append.1 hv).2.2 n (List.mem_of_getLast? hn) n
      (List.mem_of_getLast? hx))

/-- In a list without repetitions the places ascend. -/
theorem pairwise_idxOf {l : List String} (h : l.Nodup) :
    l.Pairwise fun a b => l.idxOf a < l.idxOf b := by
  induction l with
  | nil => exact List.Pairwise.nil
  | cons x l ih =>
    obtain ⟨hx, hl⟩ := List.nodup_cons.1 h
    have hplace : ∀ a ∈ l, (x :: l).idxOf a = l.idxOf a + 1 := fun a ha =>
      List.idxOf_cons_ne _ fun heq => hx (heq ▸ ha)
    refine List.pairwise_cons.2 ⟨fun a ha => ?_, (ih hl).imp_of_mem fun {a b} ha hb hlt => ?_⟩
    · rw [hplace a ha, List.idxOf_cons_self]
      exact Nat.succ_pos _
    · rw [hplace a ha, hplace b hb]
      exact Nat.succ_lt_succ hlt

/-- What comes first in a list before one of its members stands in front of it. -/
theorem mem_of_idxOf_lt {front back : List String} {n k : String}
    (h : (front ++ n :: back).idxOf k < (front ++ n :: back).idxOf n) : k ∈ front := by
  by_contra hk
  rw [List.idxOf_append_of_notMem hk] at h
  by_cases hn : n ∈ front
  · rw [List.idxOf_append_of_mem hn] at h
    have hlength := List.idxOf_lt_length_of_mem hn
    omega
  · rw [List.idxOf_append_of_notMem hn, List.idxOf_cons_self] at h
    omega

/-- The walks that go one step on are in the order of their last nodes. -/
theorem pairwise_before_concat {l : List String} (hl : l.Nodup)
    (honward : g.onward choices p = l) :
    (l.map fun n => p ++ [n]).Pairwise (g.Before choices) := by
  rw [List.pairwise_map]
  refine (pairwise_idxOf hl).imp fun {a b} hlt => ?_
  rw [before_append_left, honward]
  exact .inl hlt

/-- In a list of walks, each before the next ones, a walk can be replaced by walks that go on from
it. -/
theorem pairwise_before_replace {front back more : List (List String)}
    (h : (front ++ p :: back).Pairwise (g.Before choices))
    (hmore : more.Pairwise (g.Before choices)) (hgo : ∀ w ∈ more, p <+: w) :
    (front ++ (more ++ back)).Pairwise (g.Before choices) := by
  obtain ⟨hfront, hrest, hacross⟩ := List.pairwise_append.1 h
  obtain ⟨hp, hback⟩ := List.pairwise_cons.1 hrest
  refine List.pairwise_append.2 ⟨hfront, List.pairwise_append.2 ⟨hmore, hback, ?_⟩, ?_⟩
  · intro w hw b hb
    obtain ⟨x, rfl⟩ := hgo w hw
    simpa using (hp b hb).append x []
  · intro a ha w hw
    rcases List.mem_append.1 hw with hw | hw
    · obtain ⟨x, rfl⟩ := hgo w hw
      simpa using (hacross a ha p List.mem_cons_self).append [] x
    · exact hacross a ha w (List.mem_cons_of_mem _ hw)

/-! ## What a search has read and has not -/

/-- A report, with the walk that leads to it. -/
structure Trail where
  /-- The nodes in front of the cycle. -/
  lead : List String
  /-- The report. -/
  report : List String

/-- The walk along a trail, round the cycle and back to its first node. -/
def Trail.whole (t : Trail) : List String := t.lead ++ t.report

/-- The walk to the last node of the cycle is the first one to this node. -/
def Trail.IsFirst (g : Digraph) (t : Trail) : Prop := g.IsFirstWalk (t.lead ++ t.report.dropLast)

/-- The walks to what is still unread: one step on from each node of the path. -/
def unreadWalks : List String → List (List String) → List (List String)
  | n :: path, unread :: pending =>
    (unread.map fun m => (n :: path).reverse ++ [m]) ++ unreadWalks path pending
  | _, _ => []

/-- How a walk compares with the path `p` of a search, when the nodes `left` have been left. -/
inductive Placed (g : Digraph) (left p w : List String) : Prop
  /-- It goes on from the path. -/
  | onward (h : p <+: w)
  /-- It is a part of the path. -/
  | within (h : w <+: p)
  /-- It parts from the path for a later neighbour. -/
  | behind (h : g.Before g.nodes p w)
  /-- Its last node has been left. -/
  | done (h : ∀ n ∈ w.getLast?, n ∈ left)

/-- When the last node of the path is left, walks stay in their places. -/
theorem Placed.leave {left path : List String} {n : String}
    (h : Placed g left (n :: path).reverse w) : Placed g (n :: left) path.reverse w := by
  rw [List.reverse_cons] at h
  cases h with
  | onward hpre => exact .onward ((List.prefix_append _ _).trans hpre)
  | within hpre =>
    rcases List.prefix_concat_iff.1 hpre with rfl | hpre
    · exact .onward (List.prefix_append _ _)
    · exact .within hpre
  | behind hbefore =>
    rcases hbefore.of_append with hbefore | hpre | hpre
    · exact .behind hbefore
    · exact .onward hpre
    · exact .within hpre
  | done hleft => exact .done fun m hm => List.mem_cons_of_mem _ (hleft m hm)

/-- When a node is entered, walks stay in their places, where those to an earlier choice lead to
nodes that have been left. -/
theorem Placed.enter {left : List String} {n : String} (h : Placed g left p w)
    (hn : n ∈ g.onward g.nodes p)
    (hearlier : ∀ k rest, w = p ++ k :: rest →
      (g.onward g.nodes p).idxOf k < (g.onward g.nodes p).idxOf n →
        ∀ m ∈ w.getLast?, m ∈ left) : Placed g left (p ++ [n]) w := by
  cases h with
  | onward hpre =>
    obtain ⟨x, rfl⟩ := hpre
    cases x with
    | nil => exact .within (by simp)
    | cons k rest =>
      rcases lt_trichotomy ((g.onward g.nodes p).idxOf k) ((g.onward g.nodes p).idxOf n) with
        hlt | heq | hgt
      · exact .done (hearlier k rest rfl hlt)
      · obtain rfl := ((List.idxOf_inj hn).1 heq.symm)
        exact .onward (by simp)
      · exact .behind (before_append_left.2 (.inl hgt))
  | within hpre => exact .within (hpre.trans (List.prefix_append _ _))
  | behind hbefore => exact .behind (by simpa using hbefore.append [n] [])
  | done hleft => exact .done hleft

/-- What every step of a search keeps of the order: `trails` are those of the reports so far, and
`roots` those that are still to come. -/
structure Search.Ordered (g : Digraph) (s : Search) (trails : List Trail) (roots : List String) :
    Prop where
  /-- The path starts at a node of the graph. -/
  starts : ∀ n ∈ s.path.getLast?, n ∈ g.nodes
  /-- Walks that are before the path lead to nodes that have been left. -/
  placed : ∀ w, g.IsWalk w → Placed g s.left s.path.reverse w
  /-- The trails belong to the reports. -/
  reports : s.cycles = trails.map (·.report)
  /-- The cycles have been reached by first walks. -/
  first : ∀ t ∈ trails, t.IsFirst g
  /-- What has been reported is before what is unread, and that in the order of the search. -/
  sorted : (trails.map Trail.whole ++
    (unreadWalks s.path s.pending ++ roots.map fun r => [r])).Pairwise (g.Before g.nodes)

namespace Search

variable {s t : Search} {trails : List Trail} {roots : List String}

/-- The last edge of a report leads to a node that has been reached. -/
theorem Marked.mem_entered_of_closes (h : Marked g s) {a b : String} (hab : s.Closes a b) :
    b ∈ s.entered := by
  obtain ⟨c, hc, hsuffix⟩ := hab
  obtain ⟨n, ns, rfl, hsub, -⟩ := h.reports c hc
  have hmem : b ∈ n :: ns ++ [n] := hsuffix.subset (by simp)
  have hcycle : b ∈ (n :: ns).reverse := by simpa [or_comm, or_assoc] using hmem
  exact hsub.subset hcycle

/-- An edge from a node that has been left leads to a node that has been reached. -/
theorem Marked.closed (h : Marked g s) {a b : String} (ha : a ∈ s.left) (hab : g.Edge a b) :
    b ∈ s.entered := by
  obtain ⟨later, earlier, hsplit⟩ := List.append_of_mem ha
  rcases h.finished later a earlier hsplit b hab with hb | hcloses
  · refine (h.mem_entered b).2 (.inr ?_)
    rw [hsplit]
    exact List.mem_append_right _ (List.mem_cons_of_mem _ hb)
  · exact h.mem_entered_of_closes hcloses

/-- A walk from a node that has been left stays among such nodes, unless it meets the path. -/
theorem Marked.forall_left (h : Marked g s) (hchain : u.IsChain g.Edge)
    (hhead : ∀ n ∈ u.head?, n ∈ s.left) (hpath : ∀ n ∈ u, n ∉ s.path) : ∀ n ∈ u, n ∈ s.left := by
  induction u with
  | nil => exact fun n hn => absurd hn List.not_mem_nil
  | cons a u ih =>
    have ha : a ∈ s.left := hhead a rfl
    obtain ⟨hedge, hchain⟩ := List.isChain_cons.1 hchain
    rw [List.forall_mem_cons] at hpath ⊢
    refine ⟨ha, ih hchain (fun b hb => ?_) hpath.2⟩
    exact ((h.mem_entered b).1 (h.closed ha (hedge b hb))).resolve_left
      (hpath.2 b (List.mem_of_mem_head? hb))

/-- The path is a walk. -/
theorem Ordered.isWalk (h : Ordered g s trails roots) (hmarked : Marked g s) (hne : s.path ≠ []) :
    g.IsWalk s.path.reverse := by
  obtain ⟨n, hn⟩ := Option.ne_none_iff_exists'.1 (mt List.getLast?_eq_none_iff.1 hne)
  refine ⟨⟨n, ?_, h.starts n hn⟩, List.isChain_reverse.2 hmarked.path_chain,
    List.nodup_reverse.2 hmarked.path_nodup⟩
  rw [List.head?_reverse]
  exact hn

/-- The path is the first walk to its last node. -/
theorem Ordered.isFirstWalk (h : Ordered g s trails roots) (hmarked : Marked g s)
    (hne : s.path ≠ []) : g.IsFirstWalk s.path.reverse := by
  have hwalk := h.isWalk hmarked hne
  refine ⟨hwalk, fun w hw hlast => ?_⟩
  cases h.placed w hw with
  | onward hpre =>
    exact .inl (eq_of_part hw.nodup hlast.symm hpre).symm
  | within hpre => exact .inl (eq_of_part hwalk.nodup hlast hpre)
  | behind hbefore => exact .inr hbefore
  | done hleft =>
    -- The last node of the path has not been left.
    obtain ⟨n, path, hpath⟩ := List.exists_cons_of_ne_nil hne
    have hn : n ∈ s.left := hleft n (by rw [hlast, List.getLast?_reverse, hpath]; rfl)
    exact absurd hn (hmarked.not_mem_left (hpath ▸ List.mem_cons_self))

/-- A walk that goes on from the path to a node that has been reached leads to a node that has been
left. -/
theorem Marked.getLast_left (h : Marked g s) {k : String} {rest : List String}
    (hw : g.IsWalk (s.path.reverse ++ k :: rest)) (hk : k ∈ s.entered) :
    ∀ n ∈ (s.path.reverse ++ k :: rest).getLast?, n ∈ s.left := by
  have hpath : ∀ n ∈ k :: rest, n ∉ s.path := fun n hn hmem =>
    (List.nodup_append.1 hw.nodup).2.2 n (List.mem_reverse.2 hmem) n hn rfl
  have hkleft : k ∈ s.left := ((h.mem_entered k).1 hk).resolve_left (hpath k List.mem_cons_self)
  have hall := h.forall_left hw.chain.right_of_append
    (fun n hn => Option.some.inj hn ▸ hkleft) hpath
  intro n hn
  rw [List.getLast?_append_of_ne_nil _ (List.cons_ne_nil k rest)] at hn
  exact hall n (List.mem_of_getLast? hn)

/-! ## What a step keeps -/

/-- Leaving the last node of the path keeps the order. -/
theorem Ordered.leave (h : Ordered g s trails roots) {n : String} {path : List String}
    {more : List (List String)} (hpath : s.path = n :: path) (hpending : s.pending = [] :: more) :
    Ordered g (s.leave n path more) trails roots := by
  have hleft : (s.leave n path more).left = n :: s.left := painted_paint s n .black .black
  refine { starts := fun m hm => ?_, placed := fun w hw => ?_, reports := h.reports,
           first := h.first, sorted := ?_ }
  · refine h.starts m ?_
    have hne : path ≠ [] := by
      rintro rfl
      cases hm
    rw [hpath, List.getLast?_cons_of_ne_nil hne]
    exact hm
  · rw [hleft]
    exact Placed.leave (hpath ▸ h.placed w hw)
  · have hsorted := h.sorted
    rw [hpath, hpending] at hsorted
    exact hsorted

/-- Before a neighbour of the last node of the path is read, the walk to it comes first among those
that are unread. -/
theorem Ordered.sorted_cons (h : Ordered g s trails roots) {m n : String}
    {path unread : List String} {more : List (List String)} (hpath : s.path = m :: path)
    (hpending : s.pending = (n :: unread) :: more) :
    (trails.map Trail.whole ++ (s.path.reverse ++ [n]) :: (unreadWalks s.path (unread :: more) ++
      roots.map fun r => [r])).Pairwise (g.Before g.nodes) := by
  have hsorted := h.sorted
  rw [hpending, hpath] at hsorted
  rw [hpath]
  exact hsorted

/-- Reading a neighbour of the last node of the path keeps the order. -/
theorem Ordered.read (h : Ordered g s trails roots) {m n : String} {path unread : List String}
    {more : List (List String)} (hpath : s.path = m :: path)
    (hpending : s.pending = (n :: unread) :: more) :
    Ordered g (s.read unread more) trails roots where
  starts := h.starts
  placed := h.placed
  reports := h.reports
  first := h.first
  sorted := (h.sorted_cons hpath hpending).sublist
    ((List.sublist_cons_self _ _).append_left _)

/-- Entering a node keeps the order, where the choices in front of it have been reached. -/
theorem Ordered.enter (h : Ordered g s trails roots) (hmarked : Marked g s)
    (hneighbours : ∀ n, (g.neighbours n).Nodup) {n : String}
    (hn : n ∈ g.onward g.nodes s.path.reverse)
    (hearlier : ∀ k, (g.onward g.nodes s.path.reverse).idxOf k <
      (g.onward g.nodes s.path.reverse).idxOf n → k ∈ s.entered)
    (hsorted : (trails.map Trail.whole ++ (s.path.reverse ++ [n]) ::
      (unreadWalks s.path s.pending ++ roots.map fun r => [r])).Pairwise (g.Before g.nodes)) :
    Ordered g (s.enter g n) trails roots := by
  have hleft : (s.enter g n).left = s.left := painted_paint s n .grey .black
  have hpath : (s.enter g n).path.reverse = s.path.reverse ++ [n] := List.reverse_cons
  refine { starts := fun m hm => ?_, placed := fun w hw => ?_, reports := h.reports,
           first := h.first, sorted := ?_ }
  · cases hs : s.path with
    | nil =>
      have hroot : n = m := by
        have hm' : m ∈ (n :: s.path).getLast? := hm
        rw [hs] at hm'
        exact Option.some.inj hm'
      rw [hs] at hn
      exact hroot ▸ hn
    | cons a path =>
      refine h.starts m ?_
      have hm' : m ∈ (n :: s.path).getLast? := hm
      rwa [List.getLast?_cons_of_ne_nil (by simp [hs])] at hm'
  · rw [hleft, hpath]
    refine (h.placed w hw).enter hn ?_
    rintro k rest rfl hlt
    exact hmarked.getLast_left hw (hearlier k hlt)
  · -- The walk to the node gives way to those to its neighbours.
    have hmore : ((g.neighbours n).map fun k => s.path.reverse ++ [n] ++ [k]).Pairwise
        (g.Before g.nodes) :=
      pairwise_before_concat (hneighbours n) (g.onward_concat g.nodes s.path.reverse n)
    have hreplace := pairwise_before_replace hsorted hmore fun w hw => by
      obtain ⟨k, -, rfl⟩ := List.mem_map.1 hw
      exact List.prefix_append _ _
    have hunread : unreadWalks (s.enter g n).path (s.enter g n).pending =
        ((g.neighbours n).map fun k => s.path.reverse ++ [n] ++ [k]) ++
          unreadWalks s.path s.pending := by
      rw [← hpath]
      rfl
    rw [hunread, List.append_assoc]
    exact hreplace

/-- A report keeps the order: its trail is the walk that has just been read. -/
theorem Ordered.report (h : Ordered g s trails roots) (hmarked : Marked g s) {n : String}
    (hn : n ∈ s.path)
    (hsorted : (trails.map Trail.whole ++ (s.path.reverse ++ [n]) ::
      (unreadWalks s.path s.pending ++ roots.map fun r => [r])).Pairwise (g.Before g.nodes)) :
    ∃ trails', Ordered g (s.report n) trails' roots := by
  unfold Search.report
  dsimp only
  split_ifs with hseen
  · exact ⟨trails, h⟩
  · obtain ⟨lead, hpath⟩ := cycleFrom_suffix hn
    let trail : Trail := ⟨lead, s.cycleFrom n ++ [n]⟩
    have hwhole : trail.whole = s.path.reverse ++ [n] := by
      rw [← hpath, List.append_assoc]
      rfl
    have hfirst : trail.IsFirst g := by
      have hwalk := h.isFirstWalk hmarked (List.ne_nil_of_mem hn)
      rw [← hpath] at hwalk
      rw [Trail.IsFirst, List.dropLast_concat]
      exact hwalk
    refine ⟨trails ++ [trail], { h with reports := ?_, first := ?_, sorted := ?_ }⟩
    · rw [List.map_append, ← h.reports]
      rfl
    · refine List.forall_mem_append.2 ⟨h.first, fun t ht => ?_⟩
      exact List.mem_singleton.1 ht ▸ hfirst
    · rw [List.map_append, List.map_singleton, hwhole, List.append_assoc]
      exact hsorted

/-- A step keeps the order. -/
theorem Ordered.step (h : Ordered g s trails roots) (hinv : Inv g s)
    (hneighbours : ∀ n, (g.neighbours n).Nodup) (hstep : Step g s t) :
    ∃ trails', Ordered g t trails' roots := by
  cases hstep with
  | leave hpath hpending => exact ⟨trails, h.leave hpath hpending⟩
  | @report m path n unread more hpath hpending hgrey =>
    have hread : Marked g (s.read unread more) := { hinv.toMarked with }
    exact (h.read hpath hpending).report hread ((hinv.grey_iff n).1 hgrey)
      (h.sorted_cons hpath hpending)
  | @enter m path n unread more hpath hpending hwhite =>
    have hread : Marked g (s.read unread more) := { hinv.toMarked with }
    have honward : g.onward g.nodes s.path.reverse = g.neighbours m := by
      rw [hpath, List.reverse_cons, onward_concat]
    have hframes := hinv.frames
    rw [hpath, hpending] at hframes
    cases hframes with
    | cons done split read_done below =>
    refine ⟨trails, (h.read hpath hpending).enter hread hneighbours ?_ (fun k hlt => ?_)
      (h.sorted_cons hpath hpending)⟩
    · show n ∈ g.onward g.nodes s.path.reverse
      rw [honward, split]
      simp
    · -- The neighbours in front of `n` have been read.
      change (g.onward g.nodes s.path.reverse).idxOf k <
        (g.onward g.nodes s.path.reverse).idxOf n at hlt
      rw [honward, split] at hlt
      rcases read_done k (mem_of_idxOf_lt hlt) with hk | hk
      · exact (hinv.mem_entered k).2 (.inr hk)
      · exact hinv.mem_entered_of_closes hk
  | skip hpath hpending hblack => exact ⟨trails, h.read hpath hpending⟩

/-! ## What a search keeps -/

/-- Steps keep the order. -/
theorem Ordered.finish (h : Ordered g s trails roots) (hinv : Inv g s)
    (hneighbours : ∀ n, (g.neighbours n).Nodup) (fuel : Nat) :
    ∃ trails', Ordered g (s.finish g fuel) trails' roots := by
  induction fuel generalizing s trails with
  | zero => exact ⟨trails, h⟩
  | succ fuel ih =>
    rw [Search.finish]
    split_ifs with hpending
    · exact ⟨trails, h⟩
    · have hstep := step_spec (g := g) hinv.frames.length_eq (by simpa using hpending)
      obtain ⟨trails', h'⟩ := h.step hinv hneighbours hstep
      exact ih h' (hinv.step hstep)

/-- The search from a root keeps the order, where the roots in front of it have been reached. -/
theorem Ordered.searchFrom {root : String} (h : Ordered g s trails (root :: roots))
    (hinv : Inv g s) (hneighbours : ∀ n, (g.neighbours n).Nodup) (hpath : s.path = [])
    (hroot : root ∈ g.nodes)
    (hearlier : ∀ k, g.nodes.idxOf k < g.nodes.idxOf root → k ∈ s.entered) :
    ∃ trails', Ordered g (g.searchFrom s root) trails' roots := by
  have hunread : unreadWalks s.path s.pending = [] := by
    rw [hpath]
    rfl
  have hsorted := h.sorted
  rw [hunread, List.nil_append, List.map_cons] at hsorted
  have hskip : Ordered g s trails roots :=
    { h with
      sorted := by
        rw [hunread, List.nil_append]
        exact hsorted.sublist ((List.sublist_cons_self _ _).append_left _) }
  unfold Digraph.searchFrom
  split_ifs with hwhite
  · have hpending : s.pending = [] := by
      apply List.eq_nil_of_length_eq_zero
      rw [← hinv.frames.length_eq, hpath, List.length_nil]
    have hinvEnter : Inv g (s.enter g root) := hinv.enter hwhite (by simp [hpath]) (by
      rw [hpath, hpending]
      exact .nil)
    have henter : Ordered g (s.enter g root) trails roots := by
      refine hskip.enter hinv.toMarked hneighbours ?_ ?_ ?_
      · rw [hpath]
        exact hroot
      · rw [hpath]
        exact hearlier
      · rw [hunread, hpath]
        exact hsorted
    exact henter.finish hinvEnter hneighbours _
  · exact ⟨trails, hskip⟩

/-- The searches from the roots that are left keep the order. -/
theorem Ordered.foldl_searchFrom {front : List String} (h : Ordered g s trails roots)
    (hinv : Inv g s) (hneighbours : ∀ n, (g.neighbours n).Nodup) (hpath : s.path = [])
    (hnodes : g.nodes = front ++ roots) (hfront : front ⊆ s.entered) :
    ∃ trails', Ordered g (roots.foldl g.searchFrom s) trails' [] := by
  induction roots generalizing s trails front with
  | nil => exact ⟨trails, h⟩
  | cons root roots ih =>
    have hroot : root ∈ g.nodes := by
      rw [hnodes]
      exact List.mem_append_right _ List.mem_cons_self
    obtain ⟨trails', h'⟩ := h.searchFrom hinv hneighbours hpath hroot fun k hlt => by
      rw [hnodes] at hlt
      exact hfront (mem_of_idxOf_lt hlt)
    obtain ⟨hinv', hpath', hsub, hmem⟩ := hinv.searchFrom hpath root
    have hnodes' : g.nodes = front ++ [root] ++ roots := by simpa using hnodes
    have hfront' : front ++ [root] ⊆ (g.searchFrom s root).entered :=
      List.append_subset.2 ⟨fun k hk => hsub (hfront hk), by simpa using hmem⟩
    exact ih h' hinv' hpath' hnodes' hfront'

/-- The order holds before a search. -/
theorem ordered_start (hnodes : g.nodes.Nodup) : Ordered g .start [] g.nodes where
  starts _ hn := by cases hn
  placed _ _ := .onward List.nil_prefix
  reports := rfl
  first t ht := absurd ht List.not_mem_nil
  sorted := pairwise_before_concat (p := []) hnodes rfl

end Search

/-! ## The order of the reports -/

/-- After the search of a graph the reports have trails, and these are in order. -/
theorem exists_trails (hnodes : g.nodes.Nodup) (hneighbours : ∀ n, (g.neighbours n).Nodup) :
    ∃ trails : List Trail, g.cycles = trails.map (·.report) ∧ (∀ t ∈ trails, t.IsFirst g) ∧
      trails.Pairwise fun t t' => g.Before g.nodes t.whole t'.whole := by
  obtain ⟨trails, h⟩ := (Search.ordered_start hnodes).foldl_searchFrom (Search.inv_start g)
    hneighbours rfl (List.nil_append _).symm (List.nil_subset _)
  exact ⟨trails, h.reports, h.first, List.pairwise_map.1 (List.pairwise_append.1 h.sorted).1⟩

/-- The part of a report without its last node. -/
theorem IsElementary.exists_dropLast {x : List String} (h : IsElementary g.Edge x) :
    ∃ n ns, x.dropLast = n :: ns ∧ x.head? = some n := by
  obtain ⟨n, ns, rfl⟩ := h.closed
  exact ⟨n, ns, List.dropLast_concat, rfl⟩

/-- A trail of a report is the one along the first walk to the last node of its cycle. -/
theorem Trail.IsFirst.lead_eq {t : Trail} {lead : List String} (ht : t.IsFirst g)
    (hreport : IsElementary g.Edge t.report)
    (hlead : g.IsFirstWalk (lead ++ t.report.dropLast)) : t.lead = lead := by
  obtain ⟨n, ns, hdrop, -⟩ := hreport.exists_dropLast
  rw [Trail.IsFirst, hdrop] at ht
  rw [hdrop] at hlead
  refine List.append_cancel_right (ht.eq hlead ?_)
  rw [List.getLast?_append_of_ne_nil _ (List.cons_ne_nil n ns),
    List.getLast?_append_of_ne_nil _ (List.cons_ne_nil n ns)]

/-- To each report leads a walk that is, round the cycle, the first walk to its last node. The
reports are in the order of these walks, each with the step back to the first node of its cycle. -/
theorem pairwise_before_cycles (hnodes : g.nodes.Nodup)
    (hneighbours : ∀ n, (g.neighbours n).Nodup) :
    (∀ x ∈ g.cycles, ∃ lead, g.IsFirstWalk (lead ++ x.dropLast)) ∧
    g.cycles.Pairwise fun x y => ∀ lead lead', g.IsFirstWalk (lead ++ x.dropLast) →
      g.IsFirstWalk (lead' ++ y.dropLast) → g.Before g.nodes (lead ++ x) (lead' ++ y) := by
  obtain ⟨trails, hcycles, hfirst, hsorted⟩ := exists_trails hnodes hneighbours
  have helementary : ∀ t ∈ trails, IsElementary g.Edge t.report := fun t ht =>
    isElementary_of_mem_cycles (hcycles ▸ List.mem_map_of_mem ht)
  rw [hcycles]
  refine ⟨List.forall_mem_map.2 fun t ht => ⟨t.lead, hfirst t ht⟩, ?_⟩
  rw [List.pairwise_map]
  refine hsorted.imp_of_mem fun {t t'} ht ht' hbefore lead lead' hlead hlead' => ?_
  rw [← (hfirst t ht).lead_eq (helementary t ht) hlead,
    ← (hfirst t' ht').lead_eq (helementary t' ht') hlead']
  exact hbefore

/-- A walk leads from its first node to each of its nodes. -/
theorem reflTransGen_of_isChain {R : String → String → Prop} {a b : String}
    (h : (a :: u).IsChain R) (hb : b ∈ a :: u) : Relation.ReflTransGen R a b := by
  rcases List.mem_cons.1 hb with rfl | hb
  · exact .refl
  · exact h.cons_induction (Relation.ReflTransGen R a) u (fun _ _ hxy hx => hx.tail hxy) .refl b hb

/-- Where a node leads to another one, so does a walk without repetitions. -/
theorem exists_isWalk {a b : String} (ha : a ∈ g.nodes) (h : Relation.ReflTransGen g.Edge a b) :
    ∃ u, g.IsWalk (a :: u) ∧ (a :: u).getLast? = some b := by
  suffices hwalk : ∃ u, (a :: u).IsChain g.Edge ∧ (a :: u).Nodup ∧ (a :: u).getLast? = some b by
    obtain ⟨u, hchain, hnodup, hlast⟩ := hwalk
    exact ⟨u, ⟨⟨a, rfl, ha⟩, hchain, hnodup⟩, hlast⟩
  clear ha
  induction h using Relation.ReflTransGen.head_induction_on with
  | refl => exact ⟨[], .singleton b, List.nodup_singleton b, rfl⟩
  | @head a c hac _ ih =>
    obtain ⟨u, hchain, hnodup, hlast⟩ := ih
    by_cases hmem : a ∈ c :: u
    · -- A walk that comes back to its first node starts there anew.
      obtain ⟨front, back, hsplit⟩ := List.append_of_mem hmem
      rw [hsplit] at hchain hnodup hlast
      refine ⟨back, hchain.right_of_append, hnodup.of_append_right, ?_⟩
      rwa [List.getLast?_append_of_ne_nil _ (List.cons_ne_nil a back)] at hlast
    · refine ⟨c :: u, List.isChain_cons_cons.2 ⟨hac, hchain⟩, List.nodup_cons.2 ⟨hmem, hnodup⟩, ?_⟩
      rwa [List.getLast?_cons_cons]

/-- Of two walks the one that is before the other starts at a node that comes no later. -/
theorem Before.idxOf_le {a b : String} (h : g.Before choices (a :: u) (b :: v)) :
    choices.idxOf a ≤ choices.idxOf b := by
  rcases h with hlt | ⟨rfl, -⟩
  · exact hlt.le
  · exact le_rfl

/-- The first walk to a node starts no later than any node that leads there. -/
theorem IsFirstWalk.idxOf_le {a q b : String} (h : g.IsFirstWalk (a :: u))
    (hlast : (a :: u).getLast? = some b) (hq : q ∈ g.nodes)
    (hqb : Relation.ReflTransGen g.Edge q b) : g.nodes.idxOf a ≤ g.nodes.idxOf q := by
  obtain ⟨v, hv, hvb⟩ := exists_isWalk hq hqb
  rcases h.first _ hv (hvb.trans hlast.symm) with heq | hbefore
  · rw [(List.cons.inj heq).1]
  · exact hbefore.idxOf_le

/-- The reports are in the order of the first nodes that lead to them: for each node that leads to a
later report, one that comes no later leads to the earlier one. -/
theorem pairwise_source_cycles (hnodes : g.nodes.Nodup)
    (hneighbours : ∀ n, (g.neighbours n).Nodup) :
    g.cycles.Pairwise fun x y => ∀ n ∈ x.head?, ∀ m ∈ y.head?, ∀ q ∈ g.nodes,
      Relation.ReflTransGen g.Edge q m → ∃ r ∈ g.nodes, g.nodes.idxOf r ≤ g.nodes.idxOf q ∧
        Relation.ReflTransGen g.Edge r n := by
  obtain ⟨hlead, hsorted⟩ := pairwise_before_cycles hnodes hneighbours
  -- A walk to a report starts at a node, and it goes through the first node of the cycle.
  have hstart : ∀ x ∈ g.cycles, ∃ lead r u n ns, g.IsFirstWalk (lead ++ x.dropLast) ∧
      lead ++ x.dropLast = r :: u ∧ x = n :: ns ++ [n] ∧ r ∈ g.nodes := fun x hx => by
    obtain ⟨lead, hfirst⟩ := hlead x hx
    obtain ⟨n, ns, hclosed⟩ := (isElementary_of_mem_cycles hx).closed
    obtain ⟨r, hr, hnode⟩ := hfirst.starts
    obtain ⟨u, hu⟩ := List.head?_eq_some_iff.1 hr
    exact ⟨lead, r, u, n, ns, hfirst, hu, hclosed, hnode⟩
  refine hsorted.imp_of_mem fun {x y} hx hy hbefore n hn m hm q hq hqm => ?_
  obtain ⟨lead, r, u, k, ns, hfirst, hu, rfl, hr⟩ := hstart x hx
  obtain ⟨lead', r', u', l, ms, hfirst', hu', rfl, hr'⟩ := hstart y hy
  obtain rfl := Option.some.inj hn
  obtain rfl := Option.some.inj hm
  have hwhole := hbefore lead lead' hfirst hfirst'
  rw [List.dropLast_concat] at hfirst hu hfirst' hu'
  rw [← List.append_assoc, hu, ← List.append_assoc, hu'] at hwhole
  have hle : g.nodes.idxOf r ≤ g.nodes.idxOf r' := hwhole.idxOf_le
  have hlast : ∃ b, (l :: ms).getLast? = some b ∧ Relation.ReflTransGen g.Edge l b := by
    refine ⟨(l :: ms).getLast (List.cons_ne_nil l ms), List.getLast?_eq_getLast_of_ne_nil _, ?_⟩
    exact reflTransGen_of_isChain hfirst'.chain.right_of_append (List.getLast_mem _)
  obtain ⟨b, hb, hlb⟩ := hlast
  have hb' : (r' :: u').getLast? = some b := by
    rw [← hu', List.getLast?_append_of_ne_nil _ (List.cons_ne_nil l ms), hb]
  rw [hu'] at hfirst'
  refine ⟨r, hr, hle.trans (hfirst'.idxOf_le hb' hq (hqm.trans hlb)), ?_⟩
  refine reflTransGen_of_isChain (hu ▸ hfirst.chain) ?_
  rw [← hu]
  exact List.mem_append_right _ List.mem_cons_self

end CheckDoc.Digraph
