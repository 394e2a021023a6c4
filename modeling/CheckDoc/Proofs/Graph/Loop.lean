import CheckDoc.Proofs.Graph.Order

/-!
# The loop of the search

A search goes through the nodes of the graph as roots, and from each root that has not been reached
it takes turns until its path is empty: a turn reads one neighbour of the last node of the path or
leaves this node. `Digraph.Run` is the search turn by turn, with the turns so far as a log and no
bound on their number.

At each turn the colours, the path, the lists of unread neighbours and the log fit together
(`Search.LoopInv`). What remains to be done gets less with each turn (`Run.length_add_le`), so that
there are fewer turns than `Digraph.steps`, and every run that has come to its end has found what
`Digraph.search` finds (`search_loop`).
-/

namespace CheckDoc.Digraph

/-- A turn of the loop. -/
inductive Turn where
  /-- Reads a neighbour of a node. -/
  | read (node neighbour : String)
  /-- Leaves a node. -/
  | leave (node : String)

/-- The neighbour of `m` that a turn reads. -/
def Turn.neighbour? (m : String) : Turn → Option String
  | .read node neighbour => if node = m then some neighbour else none
  | .leave _ => none

/-- The neighbours of a node that some turns read, in order. -/
def reads (log : List Turn) (m : String) : List String := log.filterMap (Turn.neighbour? m)

/-- The turn that a search takes next; there is none where the path is empty. -/
def Search.turn? (s : Search) : Option Turn :=
  match s.pending, s.path with
  | [] :: _, n :: _ => some (.leave n)
  | (n :: _) :: _, m :: _ => some (.read m n)
  | _, _ => none

/-- The states of a search, each with the roots that are still to come and the turns so far. -/
inductive Run (g : Digraph) : List String → Search → List Turn → Prop
  /-- All nodes of the graph are roots. -/
  | start : Run g g.nodes .start []
  /-- A root that has been reached is passed over. -/
  | pass {root roots s log} (h : Run g (root :: roots) s log) (hpending : s.pending = [])
    (hcolour : s.colour root ≠ .white) : Run g roots s log
  /-- A root that has not been reached is entered. -/
  | enter {root roots s log} (h : Run g (root :: roots) s log) (hpending : s.pending = [])
    (hcolour : s.colour root = .white) : Run g roots (s.enter g root) log
  /-- A turn of the loop. -/
  | turn {roots s log a} (h : Run g roots s log) (hturn : s.turn? = some a) :
    Run g roots (s.step g) (log ++ [a])

variable {g : Digraph} {s t : Search} {log : List Turn} {roots : List String} {a : Turn}
  {m n : String}

/-! ## The log -/

/-- Nothing is read when a node is left. -/
@[simp]
theorem reads_leave (log : List Turn) (n m : String) :
    reads (log ++ [.leave n]) m = reads log m := by
  simp [reads, Turn.neighbour?]

/-- One more neighbour is read of one node. -/
@[simp]
theorem reads_read (log : List Turn) (k n m : String) :
    reads (log ++ [.read k n]) m = reads log m ++ if k = m then [n] else [] := by
  by_cases hk : k = m
  · simp [reads, Turn.neighbour?, hk]
  · simp [reads, Turn.neighbour?, hk]

namespace Search

/-- How a state fits the turns that have led to it. -/
structure Logged (g : Digraph) (s : Search) (log : List Turn) : Prop where
  /-- What has been read of a node of the path and what is unread make up its neighbours. -/
  pending_eq : List.Forall₂ (fun n unread => g.neighbours n = reads log n ++ unread)
    s.path s.pending
  /-- Of a node that has been left all neighbours have been read. -/
  left_eq : ∀ m ∈ s.left, reads log m = g.neighbours m
  /-- Of a node that has not been reached no neighbour has been read. -/
  fresh : ∀ m ∉ s.entered, reads log m = []

/-- No turn has led to the state before a search. -/
theorem logged_start (g : Digraph) : Logged g .start [] where
  pending_eq := .nil
  left_eq _ hm := absurd hm List.not_mem_nil
  fresh _ _ := rfl

/-- Entering a node that has not been reached. -/
theorem Logged.enter (hlog : Logged g s log) (hn : n ∉ s.entered) : Logged g (s.enter g n) log := by
  have hentered : (s.enter g n).entered = n :: s.entered := painted_paint s n .grey .grey
  have hleft : (s.enter g n).left = s.left := painted_paint s n .grey .black
  refine ⟨.cons (by rw [hlog.fresh n hn, List.nil_append]) hlog.pending_eq, ?_, fun m hm => ?_⟩
  · rw [hleft]
    exact hlog.left_eq
  · rw [hentered, List.mem_cons, not_or] at hm
    exact hlog.fresh m hm.2

/-- Leaving the last node of the path. -/
theorem Logged.leave (hlog : Logged g s log) {path : List String} {more : List (List String)}
    (hpath : s.path = n :: path) (hpending : s.pending = [] :: more) :
    Logged g (s.leave n path more) (log ++ [.leave n]) := by
  have hentered : (s.leave n path more).entered = s.entered := painted_paint s n .black .grey
  have hleft : (s.leave n path more).left = n :: s.left := painted_paint s n .black .black
  have hpairs := hlog.pending_eq
  rw [hpath, hpending, List.forall₂_cons] at hpairs
  obtain ⟨hlast, hmore⟩ := hpairs
  refine ⟨?_, ?_, ?_⟩
  · simp only [reads_leave]
    exact hmore
  · -- Nothing of the node itself is unread.
    rw [hleft, List.forall_mem_cons]
    simp only [reads_leave]
    exact ⟨by rw [hlast, List.append_nil], hlog.left_eq⟩
  · simpa only [reads_leave, hentered] using hlog.fresh

/-- Reading a neighbour of the last node of the path. -/
theorem Logged.read (hlog : Logged g s log) (h : Marked g s) {path unread : List String}
    {more : List (List String)} (hpath : s.path = m :: path)
    (hpending : s.pending = (n :: unread) :: more) :
    Logged g (s.read unread more) (log ++ [.read m n]) := by
  -- Nothing changes of any other node.
  have hother : ∀ k, k ≠ m → reads (log ++ [.read m n]) k = reads log k := fun k hk => by
    rw [reads_read, if_neg hk.symm, List.append_nil]
  have hm : m ∈ s.path := hpath ▸ List.mem_cons_self
  have hpairs := hlog.pending_eq
  rw [hpath, hpending, List.forall₂_cons] at hpairs
  obtain ⟨hlast, hmore⟩ := hpairs
  refine ⟨?_, fun k hk => ?_, fun k hk => ?_⟩
  · show List.Forall₂ _ s.path (unread :: more)
    rw [hpath]
    refine .cons (by rw [hlast, reads_read, if_pos rfl, List.append_assoc]; rfl) ?_
    have hne : m ∉ path := (List.nodup_cons.1 (hpath ▸ h.path_nodup)).1
    rw [List.forall₂_iff_zip] at hmore ⊢
    refine ⟨hmore.1, fun {k ks} hk => ?_⟩
    rw [hother k (ne_of_mem_of_not_mem (List.of_mem_zip hk).1 hne)]
    exact hmore.2 hk
  · rw [hother k (ne_of_mem_of_not_mem hk (h.not_mem_left hm))]
    exact hlog.left_eq k hk
  · rw [hother k (ne_of_mem_of_not_mem ((h.mem_entered m).2 (.inl hm)) hk).symm]
    exact hlog.fresh k hk

/-- A turn is logged. -/
theorem Logged.step (hlog : Logged g s log) (h : Inv g s) (hstep : Step g s t)
    (hturn : s.turn? = some a) : Logged g t (log ++ [a]) := by
  cases hstep with
  | @leave n path more hpath hpending =>
    obtain rfl : Turn.leave n = a := by simpa [turn?, hpath, hpending] using hturn
    exact hlog.leave hpath hpending
  | @report m path n unread more hpath hpending hgrey =>
    obtain rfl : Turn.read m n = a := by simpa [turn?, hpath, hpending] using hturn
    obtain ⟨cycles, seen, heq⟩ := report_eq (s.read unread more) n
    have hread := hlog.read h.toMarked hpath hpending
    rw [heq]
    exact ⟨hread.pending_eq, hread.left_eq, hread.fresh⟩
  | @enter m path n unread more hpath hpending hwhite =>
    obtain rfl : Turn.read m n = a := by simpa [turn?, hpath, hpending] using hturn
    exact (hlog.read h.toMarked hpath hpending).enter ((h.white_iff n).1 hwhite)
  | @skip m path n unread more hpath hpending hblack =>
    obtain rfl : Turn.read m n = a := by simpa [turn?, hpath, hpending] using hturn
    exact hlog.read h.toMarked hpath hpending

/-- A neighbour that is read has been reached after the turn. -/
theorem mem_entered_of_step (h : Inv g s) (hstep : Step g s t)
    (hturn : s.turn? = some (.read m n)) : n ∈ t.entered := by
  cases hstep with
  | leave hpath hpending => simp [turn?, hpath, hpending] at hturn
  | @report _ _ k _ _ hpath hpending hgrey =>
    obtain ⟨-, rfl⟩ : _ = m ∧ k = n := by simpa [turn?, hpath, hpending] using hturn
    obtain ⟨cycles, seen, heq⟩ := report_eq (s.read _ _) k
    rw [heq]
    exact (h.mem_entered k).2 (.inl ((h.grey_iff k).1 hgrey))
  | @enter _ _ k unread more hpath hpending hwhite =>
    obtain ⟨-, rfl⟩ : _ = m ∧ k = n := by simpa [turn?, hpath, hpending] using hturn
    have hentered : ((s.read unread more).enter g k).entered = k :: s.entered :=
      painted_paint _ k .grey .grey
    rw [hentered]
    exact List.mem_cons_self
  | @skip _ _ k _ _ hpath hpending hblack =>
    obtain ⟨-, rfl⟩ : _ = m ∧ k = n := by simpa [turn?, hpath, hpending] using hturn
    exact (h.mem_entered k).2 (.inr ((h.black_iff k).1 hblack))

/-- There is a turn exactly while the path is not empty. -/
theorem Inv.exists_turn_iff (h : Inv g s) : (∃ a, s.turn? = some a) ↔ s.pending ≠ [] := by
  have hlength := h.frames.length_eq
  unfold turn?
  cases hpending : s.pending with
  | nil => simp
  | cons unread more =>
    obtain ⟨m, path, hpath⟩ :=
      List.exists_cons_of_length_eq_add_one (by rw [hlength, hpending]; rfl)
    cases unread <;> simp [hpath]

/-! ## The states of a search -/

/-- What holds at each state of a search, where some roots are still to come. -/
structure Fits (g : Digraph) (roots : List String) (s : Search) (log : List Turn) : Prop
    extends Inv g s, Logged g s log where
  /-- The neighbours that have been read have been reached. -/
  reached : ∀ m n, .read m n ∈ log → n ∈ s.entered
  /-- The roots that are not still to come have been reached. -/
  tried : ∀ n ∈ g.nodes, n ∈ roots ∨ n ∈ s.entered

end Search

/-- The path is empty before a root is tried. -/
theorem Search.Inv.path_eq_nil (h : Search.Inv g s) (hpending : s.pending = []) : s.path = [] := by
  apply List.eq_nil_of_length_eq_zero
  rw [h.frames.length_eq, hpending, List.length_nil]

/-- At each state of a run the search fits the log. -/
theorem Run.fits (h : Run g roots s log) : Search.Fits g roots s log := by
  induction h with
  | start =>
    exact ⟨Search.inv_start g, Search.logged_start g, fun _ _ h => absurd h List.not_mem_nil,
      fun n hn => .inl hn⟩
  | @pass root roots s log _ hpending hcolour ih =>
    refine ⟨ih.toInv, ih.toLogged, ih.reached, fun n hn => ?_⟩
    rcases ih.tried n hn with hn | hn
    · rcases List.mem_cons.1 hn with rfl | hn
      · exact .inr (not_not.1 (mt (ih.white_iff n).2 hcolour))
      · exact .inl hn
    · exact .inr hn
  | @enter root roots s log _ hpending hcolour ih =>
    have hpath := ih.path_eq_nil hpending
    have hentered : (s.enter g root).entered = root :: s.entered :=
      Search.painted_paint s root .grey .grey
    have hinv : Search.Inv g (s.enter g root) := ih.toMarked.enter hcolour (by simp [hpath]) (by
      rw [hpath, hpending]
      exact .nil)
    refine ⟨hinv, ih.toLogged.enter ((ih.white_iff root).1 hcolour), fun m n hread => ?_,
      fun n hn => ?_⟩
    · rw [hentered]
      exact List.mem_cons_of_mem _ (ih.reached m n hread)
    · rw [hentered, List.mem_cons]
      rcases ih.tried n hn with hn | hn
      · exact (List.mem_cons.1 hn).elim (fun heq => .inr (.inl heq)) .inl
      · exact .inr (.inr hn)
  | @turn roots s log a _ hturn ih =>
    have hne := ih.toInv.exists_turn_iff.1 ⟨a, hturn⟩
    have hstep := Search.step_spec (g := g) ih.frames.length_eq hne
    have hsub := Search.entered_subset hstep
    refine ⟨ih.toInv.step hstep, ih.toLogged.step ih.toInv hstep hturn, fun m n hread => ?_,
      fun n hn => (ih.tried n hn).imp id fun h => hsub h⟩
    rcases List.mem_append.1 hread with hread | hread
    · exact hsub (ih.reached m n hread)
    · obtain rfl := List.mem_singleton.1 hread
      exact Search.mem_entered_of_step ih.toInv hstep hturn

/-! ## The end of the loop -/

/-- The turns so far, the work that is left and the roots to come are never more than they were at
the start. -/
theorem Run.length_add_le (h : Run g roots s log) :
    log.length + Search.work g s + roots.length ≤
      Search.unreached g (fun _ => true) + g.length := by
  induction h with
  | start =>
    have hwhite : Search.isWhite .start = fun _ => true := rfl
    have hnodes : g.nodes.length = g.length := List.length_map _
    have hwork : Search.work g .start = Search.unreached g (fun _ => true) := by
      rw [Search.work, hwhite]
      exact Nat.zero_add _
    rw [hwork, hnodes, List.length_nil, Nat.zero_add]
  | pass _ _ _ ih =>
    rw [List.length_cons] at ih
    omega
  | @enter root roots s log _ hpending hcolour ih =>
    -- The root asks for one more turn than was saved for it, and it is no longer to come.
    have hsave := Search.unreached_enter_le (g := g) hcolour
    have hmore : (s.enter g root).pending = [g.neighbours root] := by
      rw [← hpending]
      rfl
    rw [Search.work, hpending, List.map_nil, List.sum_nil, List.length_cons] at ih
    rw [Search.work, hmore, List.map_cons, List.sum_cons, Search.cost, List.map_nil, List.sum_nil]
    omega
  | @turn roots s log a h hturn ih =>
    have hne := h.fits.toInv.exists_turn_iff.1 ⟨a, hturn⟩
    have hless := Search.work_lt (Search.step_spec (g := g) h.fits.frames.length_eq hne)
    rw [List.length_append, List.length_singleton]
    omega

/-- A run has fewer turns than there are steps in the bound, and so much work is never left. -/
theorem Run.lt_steps (h : Run g roots s log) : log.length + Search.work g s < g.steps := by
  have hle := h.length_add_le
  have hlt := Search.unreached_add_length_lt_steps g fun _ => true
  omega

/-- Where the path is empty there is nothing to finish. -/
theorem Search.finish_of_pending (hpending : s.pending = []) (fuel : ℕ) : s.finish g fuel = s := by
  cases fuel with
  | zero => rfl
  | succ fuel => simp [Search.finish, hpending]

/-- Where the path is not empty a step is taken. -/
theorem Search.finish_of_ne (hne : s.pending ≠ []) (fuel : ℕ) :
    s.finish g (fuel + 1) = (s.step g).finish g fuel := by
  rw [Search.finish, if_neg (by simpa using hne)]

/-- More steps than there is work change nothing. -/
theorem Search.Inv.finish_succ (h : Search.Inv g s) {fuel : ℕ} (hfuel : Search.work g s ≤ fuel) :
    s.finish g (fuel + 1) = s.finish g fuel := by
  induction fuel generalizing s with
  | zero =>
    have hpending : s.pending = [] := by
      cases hp : s.pending with
      | nil => rfl
      | cons unread more => simp [Search.work, hp, Search.cost] at hfuel
    rw [Search.finish_of_pending hpending, Search.finish_of_pending hpending]
  | succ fuel ih =>
    by_cases hpending : s.pending = []
    · rw [Search.finish_of_pending hpending, Search.finish_of_pending hpending]
    · have hstep := Search.step_spec (g := g) h.frames.length_eq hpending
      have hless := Search.work_lt hstep
      rw [Search.finish_of_ne hpending, Search.finish_of_ne hpending]
      exact ih (h.step hstep) (by omega)

/-- What a search comes to from a state of a run on. -/
def Search.outcome (g : Digraph) (roots : List String) (s : Search) : Search :=
  roots.foldl g.searchFrom (s.finish g g.steps)

/-- Each state of a run comes to what the search comes to. -/
theorem Run.outcome_eq (h : Run g roots s log) : s.outcome g roots = g.search := by
  induction h with
  | start => rw [Search.outcome, Search.finish_of_pending rfl, search, nodes]
  | @pass root roots s log _ hpending hcolour ih =>
    rw [← ih, Search.outcome, Search.outcome, Search.finish_of_pending hpending, List.foldl_cons,
      searchFrom, if_neg hcolour]
  | @enter root roots s log _ hpending hcolour ih =>
    rw [← ih, Search.outcome, Search.outcome, Search.finish_of_pending hpending, List.foldl_cons,
      searchFrom, if_pos hcolour]
  | @turn roots s log a h hturn ih =>
    have hne := h.fits.toInv.exists_turn_iff.1 ⟨a, hturn⟩
    have hstep := Search.step_spec (g := g) h.fits.frames.length_eq hne
    have hlt := h.lt_steps
    have hless := Search.work_lt hstep
    -- The bound leaves room for the step that is taken here.
    obtain ⟨fuel, hfuel⟩ : ∃ fuel, g.steps = fuel + 1 := Nat.exists_eq_add_one.2 (by omega)
    have hfinish : s.finish g g.steps = (s.step g).finish g g.steps := by
      rw [hfuel, Search.finish_of_ne hne, (h.fits.toInv.step hstep).finish_succ (by omega)]
    rw [← ih, Search.outcome, Search.outcome, hfinish]

/-- A run that cannot go on has found what the search finds. -/
theorem Run.eq_search (h : Run g [] s log) (hpending : s.pending = []) : s = g.search := by
  rw [← h.outcome_eq, Search.outcome, Search.finish_of_pending hpending, List.foldl_nil]

/-- The loop comes to an end. -/
theorem Run.exists_pending_eq_nil (h : Run g roots s log) :
    ∃ t more, Run g roots t (log ++ more) ∧ t.pending = [] := by
  induction hn : g.steps - log.length using Nat.strongRecOn generalizing s log with
  | _ n ih =>
  by_cases hpending : s.pending = []
  · exact ⟨s, [], by rwa [List.append_nil], hpending⟩
  · obtain ⟨a, hturn⟩ := h.fits.toInv.exists_turn_iff.2 hpending
    have hnext := h.turn hturn
    -- One more turn is taken, and the bound on the turns stays.
    have hlt := hnext.lt_steps
    rw [List.length_append, List.length_singleton] at hlt
    obtain ⟨t, more, ht, hend⟩ := ih (g.steps - (log ++ [a]).length)
      (by rw [List.length_append, List.length_singleton]; omega) hnext rfl
    exact ⟨t, a :: more, by simpa using ht, hend⟩

/-- Every run can be taken to the end of the search. -/
theorem Run.exists_search (h : Run g roots s log) :
    ∃ more, Run g [] g.search (log ++ more) ∧ g.search.pending = [] := by
  induction roots generalizing s log with
  | nil =>
    obtain ⟨t, more, ht, hend⟩ := h.exists_pending_eq_nil
    obtain rfl := ht.eq_search hend
    exact ⟨more, ht, hend⟩
  | cons root roots ih =>
    obtain ⟨t, more, ht, hend⟩ := h.exists_pending_eq_nil
    obtain ⟨rest, hrest⟩ : ∃ rest, Run g [] g.search (log ++ more ++ rest) ∧
        g.search.pending = [] := by
      by_cases hcolour : t.colour root = .white
      · exact ih (ht.enter hend hcolour)
      · exact ih (ht.pass hend hcolour)
    exact ⟨more ++ rest, by rwa [← List.append_assoc]⟩

/-! ## The loop as a whole -/

/-- What holds at each turn of the loop. The path is kept with its last node first. -/
structure Search.LoopInv (g : Digraph) (s : Search) (log : List Turn) : Prop where
  /-- The grey nodes are those of the path. -/
  grey_iff : ∀ n, s.colour n = .grey ↔ n ∈ s.path
  /-- The nodes of the path differ. -/
  path_nodup : s.path.Nodup
  /-- Each node of the path is followed by one of its neighbours. -/
  path_chain : s.path.reverse.IsChain g.Edge
  /-- Each node of the path has a list of unread neighbours: what is left of its list when the
  neighbours that have been read of it are taken away from the front. -/
  pending_eq : List.Forall₂ (fun n unread => g.neighbours n = reads log n ++ unread)
    s.path s.pending
  /-- No black node has a white neighbour. -/
  black_closed : ∀ m n, s.colour m = .black → g.Edge m n → s.colour n ≠ .white
  /-- A neighbour that has been read of any node is grey or black. -/
  read_reached : ∀ m, ∀ n ∈ reads log m, s.colour n ≠ .white
  /-- Of a black node the whole list has been read. -/
  black_read : ∀ m, s.colour m = .black → reads log m = g.neighbours m
  /-- Of a white node nothing has been read. -/
  white_unread : ∀ m, s.colour m = .white → reads log m = []

/-- A neighbour is read of a node in a turn. -/
theorem mem_reads : n ∈ reads log m ↔ .read m n ∈ log := by
  unfold reads
  rw [List.mem_filterMap]
  constructor
  · rintro ⟨turn, hturn, hn⟩
    cases turn with
    | leave k => cases hn
    | read k l =>
      simp only [Turn.neighbour?] at hn
      split_ifs at hn with hk
      obtain rfl := Option.some.inj hn
      exact hk ▸ hturn
  · intro hread
    exact ⟨_, hread, by simp [Turn.neighbour?]⟩

/-- A search that fits its log satisfies the invariant of the loop. -/
theorem Search.Fits.loopInv (h : Search.Fits g roots s log) : Search.LoopInv g s log where
  grey_iff := h.grey_iff
  path_nodup := h.path_nodup
  path_chain := List.isChain_reverse.2 h.path_chain
  pending_eq := h.pending_eq
  black_closed m n hm hmn hn :=
    (h.white_iff n).1 hn (h.toMarked.closed ((h.black_iff m).1 hm) hmn)
  read_reached m n hn hwhite := (h.white_iff n).1 hwhite (h.reached m n (mem_reads.1 hn))
  black_read m hm := h.left_eq m ((h.black_iff m).1 hm)
  white_unread m hm := h.fresh m ((h.white_iff m).1 hm)

/-- At each turn of the loop, from whichever root it comes, the invariant holds, and there are fewer
turns than the bound, so that the loop ends. A run goes on while its path is not empty, and one that
has gone through all roots has found what the search finds. There is such a run; when it ends, the
list of each node that was reached has been read once from its first entry to its last one and no
other entry has been read, and every node of the graph, also one that is named as a neighbour only,
is black. -/
theorem search_loop (g : Digraph) :
    (∀ roots s log, Run g roots s log → Search.LoopInv g s log ∧ log.length < g.steps ∧
      (s.pending ≠ [] → ∃ a, Run g roots (s.step g) (log ++ [a])) ∧
      (roots = [] → s.pending = [] → s = g.search)) ∧
    ∃ log, Run g [] g.search log ∧ g.search.pending = [] ∧
      (∀ m, reads log m = if g.search.colour m = .white then [] else g.neighbours m) ∧
      ∀ n, n ∈ g.nodes ∨ (∃ m, g.Edge m n) → g.search.colour n = .black := by
  constructor
  · intro roots s log h
    refine ⟨h.fits.loopInv, Nat.lt_of_le_of_lt (Nat.le_add_right _ _) h.lt_steps, fun hne => ?_, ?_⟩
    · obtain ⟨a, hturn⟩ := h.fits.toInv.exists_turn_iff.2 hne
      exact ⟨a, h.turn hturn⟩
    · rintro rfl hpending
      exact h.eq_search hpending
  · obtain ⟨log, hrun, hpending⟩ := Run.start.exists_search (g := g)
    rw [List.nil_append] at hrun
    have hfits := hrun.fits
    have hpath := hfits.path_eq_nil hpending
    have hblack : ∀ n ∈ g.search.entered, g.search.colour n = .black := fun n hn => by
      refine (hfits.black_iff n).2 (((hfits.mem_entered n).1 hn).resolve_left ?_)
      rw [hpath]
      exact List.not_mem_nil
    have hnodes : ∀ n ∈ g.nodes, n ∈ g.search.entered := fun n hn =>
      (hfits.tried n hn).resolve_left List.not_mem_nil
    refine ⟨log, hrun, hpending, fun m => ?_, fun n hn => ?_⟩
    · split_ifs with hwhite
      · exact hfits.loopInv.white_unread m hwhite
      · exact hfits.loopInv.black_read m
          (hblack m (not_not.1 (mt (hfits.white_iff m).2 hwhite)))
    · rcases hn with hn | ⟨m, hmn⟩
      · exact hblack n (hnodes n hn)
      · have hm := hblack m (hnodes m hmn.mem_keys)
        exact hblack n (hfits.toMarked.closed ((hfits.black_iff m).1 hm) hmn)

end CheckDoc.Digraph
