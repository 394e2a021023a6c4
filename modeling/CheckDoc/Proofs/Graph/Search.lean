import CheckDoc.Proofs.Graph.Rotation
import Mathlib.Data.List.Chain
import Mathlib.Logic.Relation

/-!
# The invariant of the search for cycles

What every step of `Digraph.Search.step` keeps, and what a whole search leaves behind. The colours
are kept as a history, so that two orders can be read off a state: `entered`, in which the nodes
were reached, and `left`, in which they were given up. The path is a part of the first, and every
cycle that is reported is a part of it backwards; this makes a report unique. A node is left when
each of its edges leads to a node that was left before it or closes a reported cycle; this makes
what remains of the graph acyclic (`Search.Inv.finished`).
-/

namespace CheckDoc.Digraph

/-- The edges of a graph. -/
def Edge (g : Digraph) (a b : String) : Prop := b ∈ g.neighbours a

namespace Search

variable {g : Digraph} {s : Search}

/-- The nodes that have been painted in a colour, the latest first. -/
def painted (s : Search) (c : Colour) : List String :=
  (s.colours.filter fun entry => entry.2 = c).map (·.1)

/-- The nodes that have been reached, the latest first. -/
def entered (s : Search) : List String := s.painted .grey

/-- The nodes that have been left behind, the latest first. -/
def left (s : Search) : List String := s.painted .black

/-- Whether a reported cycle ends with the edge from `a` to `b`. -/
def Closes (s : Search) (a b : String) : Prop := ∃ c ∈ s.cycles, [a, b] <:+ c

/-- Whether a list is the report of a cycle whose nodes were reached in its order. -/
def IsReport (g : Digraph) (entered : List String) (c : List String) : Prop :=
  ∃ n ns, c = n :: ns ++ [n] ∧ (n :: ns).reverse.Sublist entered ∧ c.IsChain g.Edge

/-- The frames of a path: each node with its unread neighbours. A neighbour `v` of `n` that has been
read is `done n v`, or it is the node above `n` on the path. -/
inductive Frames (g : Digraph) : (String → String → Prop) → List String → List (List String) → Prop
  /-- No node is left on the path. -/
  | nil {done} : Frames g done [] []
  /-- A node and its unread neighbours. -/
  | cons {done n path unread pending} (read : List String)
    (split : g.neighbours n = read ++ unread) (read_done : ∀ v ∈ read, done n v)
    (below : Frames g (fun m v => v = n ∨ done m v) path pending) :
    Frames g done (n :: path) (unread :: pending)

/-- Frames stay frames where more neighbours count as done. -/
theorem Frames.mono {done done' : String → String → Prop} {path : List String}
    {pending : List (List String)} (h : Frames g done path pending)
    (himp : ∀ n v, done n v → done' n v) : Frames g done' path pending := by
  induction h generalizing done' with
  | nil => exact .nil
  | cons read split read_done below ih =>
    refine .cons read split (fun v hv => himp _ _ (read_done v hv)) (ih fun m v h => ?_)
    exact h.imp id (himp m v)

/-- A path has as many lists of unread neighbours as nodes. -/
theorem Frames.length_eq {done : String → String → Prop} {path : List String}
    {pending : List (List String)} (h : Frames g done path pending) :
    path.length = pending.length := by
  induction h with
  | nil => rfl
  | cons _ _ _ _ ih => simp [ih]

/-- What every step of a search keeps, apart from the neighbours that have been read. -/
structure Marked (g : Digraph) (s : Search) : Prop where
  /-- The grey nodes are those of the path. -/
  grey_iff : ∀ n, s.colour n = .grey ↔ n ∈ s.path
  /-- The black nodes are those that have been left. -/
  black_iff : ∀ n, s.colour n = .black ↔ n ∈ s.left
  /-- The nodes that have been reached are on the path or have been left. -/
  mem_entered : ∀ n, n ∈ s.entered ↔ n ∈ s.path ∨ n ∈ s.left
  /-- No node is reached twice. -/
  entered_nodup : s.entered.Nodup
  /-- No node is left twice. -/
  left_nodup : s.left.Nodup
  /-- The path keeps the order in which its nodes were reached. -/
  path_sublist : s.path.Sublist s.entered
  /-- Each node of the path is a neighbour of the one before it. -/
  path_chain : s.path.IsChain fun b a => g.Edge a b
  /-- Each edge of a node that has been left leads to a node left before, or closes a cycle. -/
  finished : ∀ later n earlier, s.left = later ++ n :: earlier →
    ∀ v ∈ g.neighbours n, v ∈ earlier ∨ s.Closes n v
  /-- The cycles so far are reports. -/
  reports : ∀ c ∈ s.cycles, IsReport g s.entered c
  /-- The rotations that have been seen are those of the cycles so far. -/
  mem_seen : ∀ k, k ∈ s.seen ↔ ∃ c ∈ s.cycles, rotated c.dropLast = k
  /-- No two cycles so far have the same rotation. -/
  rotations_ne : s.cycles.Pairwise fun c d => rotated c.dropLast ≠ rotated d.dropLast

/-- What every step of a search keeps. -/
structure Inv (g : Digraph) (s : Search) : Prop extends Marked g s where
  /-- The neighbours that have been read were left or close a cycle. -/
  frames : Frames g (fun m v => v ∈ s.left ∨ s.Closes m v) s.path s.pending

/-! ## Paint -/

@[simp]
theorem colour_paint (s : Search) (n m : String) (c : Colour) :
    (s.paint n c).colour m = if n = m then c else s.colour m := by
  by_cases h : n = m
  · simp [colour, paint, h]
  · simp [colour, paint, h]

@[simp]
theorem painted_paint (s : Search) (n : String) (c d : Colour) :
    (s.paint n c).painted d = if c = d then n :: s.painted d else s.painted d := by
  by_cases h : c = d
  · simp [painted, paint, h]
  · simp [painted, paint, h]

/-- A node is white exactly when it has not been reached. -/
theorem Marked.white_iff (h : Marked g s) (n : String) : s.colour n = .white ↔ n ∉ s.entered := by
  rw [h.mem_entered, ← h.grey_iff, ← h.black_iff]
  cases s.colour n <;> simp

/-- The nodes of the path differ. -/
theorem Marked.path_nodup (h : Marked g s) : s.path.Nodup := h.entered_nodup.sublist h.path_sublist

/-- No node of the path has been left. -/
theorem Marked.not_mem_left (h : Marked g s) {n : String} (hn : n ∈ s.path) : n ∉ s.left := by
  intro hleft
  have hgrey := (h.grey_iff n).2 hn
  rw [(h.black_iff n).2 hleft] at hgrey
  cases hgrey

/-- Reports stay reports when more nodes are reached. -/
theorem IsReport.mono {entered entered' c : List String} (h : IsReport g entered c)
    (hsub : entered.Sublist entered') : IsReport g entered' c := by
  obtain ⟨n, ns, hc, hs, hchain⟩ := h
  exact ⟨n, ns, hc, hs.trans hsub, hchain⟩

/-! ## Reports -/

/-- A list without repetition has one part with given members. -/
theorem filter_mem_eq {l whole : List String} (h : l.Sublist whole) (hwhole : whole.Nodup) :
    (whole.filter fun n => n ∈ l) = l := by
  induction h with
  | slnil => rfl
  | cons a hsub ih =>
    rw [List.nodup_cons] at hwhole
    -- The member passed over is none of `l`, since `whole` has no repetition.
    rw [List.filter_cons_of_neg (by simpa using fun ha => hwhole.1 (hsub.subset ha)),
      ih hwhole.2]
  | cons_cons a hsub ih =>
    rw [List.nodup_cons] at hwhole
    rw [List.filter_cons_of_pos (by simp)]
    congr 1
    refine (List.filter_congr fun n hn => ?_).trans (ih hwhole.2)
    have hne : n ≠ a := fun e => hwhole.1 (e ▸ hn)
    simp [hne]

/-- A report is determined by its nodes: both orders are the one in which they were reached. -/
theorem IsReport.eq_of_perm {entered c d : List String} (hc : IsReport g entered c)
    (hd : IsReport g entered d) (hnodup : entered.Nodup) (hperm : c.dropLast.Perm d.dropLast) :
    c = d := by
  obtain ⟨m, ms, rfl, hcs, -⟩ := hc
  obtain ⟨n, ns, rfl, hds, -⟩ := hd
  simp only [List.dropLast_concat] at hperm
  -- Read backwards, both are the members of `entered` that they share.
  have hrev : (m :: ms).reverse = (n :: ns).reverse := by
    rw [← filter_mem_eq hcs hnodup, ← filter_mem_eq hds hnodup]
    refine List.filter_congr fun k _ => ?_
    simp only [List.mem_reverse, hperm.mem_iff]
  obtain ⟨rfl, rfl⟩ := List.cons.inj (List.reverse_injective hrev)
  rfl

/-- The part of a path from one of its nodes on. -/
theorem exists_cycleFrom_eq {n : String} (hn : n ∈ s.path) :
    ∃ above below, s.path = above ++ n :: below ∧ s.cycleFrom n = n :: above.reverse := by
  obtain ⟨above, below, hpath, hnotin⟩ := List.eq_append_cons_of_mem hn
  have htake : s.path.takeWhile (· ≠ n) = above := by
    have hne : ∀ m ∈ above, (decide (m ≠ n)) = true := fun m hm => by
      simpa using ne_of_mem_of_not_mem hm hnotin
    rw [hpath, List.takeWhile_append_of_pos hne]
    simp
  refine ⟨above, below, hpath, ?_⟩
  rw [cycleFrom, htake, List.reverse_append]
  rfl

/-- The part of a path from one of its nodes on is the end of the path. -/
theorem cycleFrom_suffix {n : String} (hn : n ∈ s.path) : s.cycleFrom n <:+ s.path.reverse := by
  obtain ⟨above, below, hpath, hcycle⟩ := exists_cycleFrom_eq hn
  exact ⟨below.reverse, by simp [hpath, hcycle]⟩

/-- The cycle that an edge from the last node of the path back into it closes is a report, and it
ends with that edge. -/
theorem Marked.isReport_cycleFrom (h : Marked g s) {m n : String} {path : List String}
    (hpath : s.path = m :: path) (hn : n ∈ s.path) (hedge : g.Edge m n) :
    IsReport g s.entered (s.cycleFrom n ++ [n]) ∧ [m, n] <:+ s.cycleFrom n ++ [n] := by
  obtain ⟨above, below, hsplit, hcycle⟩ := exists_cycleFrom_eq hn
  -- The path holds the cycle backwards, from its last node `m` down to `n`.
  have hback : above ++ [n] <+: m :: path := ⟨below, by simp [← hpath, hsplit]⟩
  obtain ⟨rest, hrest⟩ : ∃ rest, above ++ [n] = m :: rest := by
    cases above with
    | nil => exact ⟨[], by simpa using hback⟩
    | cons a as => exact ⟨as ++ [n], by simpa using (List.cons_prefix_cons.1 hback).1⟩
  have hrev : n :: above.reverse = (m :: rest).reverse := by rw [← hrest]; simp
  rw [hcycle]
  refine ⟨⟨n, above.reverse, rfl, ?_, ?_⟩, ?_⟩
  · rw [hrev, List.reverse_reverse, ← hrest]
    exact hback.sublist.trans (hpath ▸ h.path_sublist)
  · -- Read backwards, the cycle is `n` in front of a part of the path.
    have hpart : (m :: rest).IsChain fun b a => g.Edge a b := by
      obtain ⟨below, hbelow⟩ := hback
      have hwhole := h.path_chain
      rw [hpath, ← hbelow, hrest] at hwhole
      exact hwhole.left_of_append
    have hchain : (n :: m :: rest).IsChain fun b a => g.Edge a b :=
      List.isChain_cons_cons.2 ⟨hedge, hpart⟩
    have : n :: above.reverse ++ [n] = (n :: m :: rest).reverse := by
      rw [List.reverse_cons, ← hrev]
    rw [this, List.isChain_reverse]
    exact hchain
  · rw [hrev, List.reverse_cons, List.append_assoc]
    exact List.suffix_append _ _

/-! ## One step -/

/-- The state in which the last node of the path has been left. -/
def leave (s : Search) (n : String) (path : List String) (more : List (List String)) : Search :=
  { s.paint n .black with path, pending := more }

/-- The state in which one more neighbour of the last node of the path has been read. -/
def read (s : Search) (unread : List String) (more : List (List String)) : Search :=
  { s with pending := unread :: more }

/-- What a step does: it leaves the last node of the path, or it reads one of its neighbours `n`,
which is reported when it is grey and entered when it is white. -/
inductive Step (g : Digraph) (s : Search) : Search → Prop
  /-- The last node has no unread neighbour. -/
  | leave {n path more} (hpath : s.path = n :: path) (hpending : s.pending = [] :: more) :
    Step g s (s.leave n path more)
  /-- The neighbour is on the path. -/
  | report {m path n unread more} (hpath : s.path = m :: path)
    (hpending : s.pending = (n :: unread) :: more) (hgrey : s.colour n = .grey) :
    Step g s ((s.read unread more).report n)
  /-- The neighbour has not been reached. -/
  | enter {m path n unread more} (hpath : s.path = m :: path)
    (hpending : s.pending = (n :: unread) :: more) (hwhite : s.colour n = .white) :
    Step g s ((s.read unread more).enter g n)
  /-- The neighbour has been left. -/
  | skip {m path n unread more} (hpath : s.path = m :: path)
    (hpending : s.pending = (n :: unread) :: more) (hblack : s.colour n = .black) :
    Step g s (s.read unread more)

/-- While the path is not empty, `step` is a step. -/
theorem step_spec (hlength : s.path.length = s.pending.length) (hne : s.pending ≠ []) :
    Step g s (s.step g) := by
  obtain ⟨unread, more, hpending⟩ := List.exists_cons_of_ne_nil hne
  obtain ⟨m, path, hpath⟩ := List.exists_cons_of_length_eq_add_one (by rw [hlength, hpending]; rfl)
  cases unread with
  | nil =>
    have hstep : s.step g = s.leave m path more := by rw [Search.step, hpending, hpath]; rfl
    exact hstep ▸ .leave hpath hpending
  | cons n unread =>
    -- What is read does not change a colour.
    rw [Search.step, hpending]
    dsimp only
    split
    · rename_i hgrey
      exact .report hpath hpending hgrey
    · rename_i hwhite
      exact .enter hpath hpending hwhite
    · rename_i hblack
      exact .skip hpath hpending hblack

/-- Leaving the last node of the path keeps the invariant. -/
theorem Inv.leave (h : Inv g s) {n : String} {path : List String} {more : List (List String)}
    (hpath : s.path = n :: path) (hpending : s.pending = [] :: more) :
    Inv g (s.leave n path more) := by
  have hentered : (s.leave n path more).entered = s.entered := painted_paint s n .black .grey
  have hleft : (s.leave n path more).left = n :: s.left := painted_paint s n .black .black
  have hcolour : ∀ m, (s.leave n path more).colour m = if n = m then .black else s.colour m :=
    fun m => colour_paint s n m .black
  have hn : n ∉ path := (List.nodup_cons.1 (hpath ▸ h.path_nodup)).1
  -- The frame of `n` is the last one and has nothing left to read.
  have hframes := h.frames
  rw [hpath, hpending] at hframes
  cases hframes with
  | cons read split read_done below =>
  rw [List.append_nil] at split
  refine ⟨?_, ?_⟩
  · refine
      { grey_iff := fun m => ?_, black_iff := fun m => ?_, mem_entered := fun m => ?_,
        entered_nodup := hentered ▸ h.entered_nodup, left_nodup := ?_, path_sublist := ?_,
        path_chain := (hpath ▸ h.path_chain).tail, finished := ?_,
        reports := hentered ▸ h.reports, mem_seen := h.mem_seen,
        rotations_ne := h.rotations_ne }
    · -- `n` is no longer grey, and no longer on the path.
      rw [hcolour]
      split_ifs with hm
      · simpa [Search.leave, ← hm] using hn
      · rw [h.grey_iff, hpath, List.mem_cons]
        simp [Search.leave, Ne.symm hm]
    · -- `n` has turned black and has been left.
      rw [hcolour, hleft, List.mem_cons]
      split_ifs with hm
      · simp [hm]
      · rw [h.black_iff]
        simp [Ne.symm hm]
    · -- `n` has gone from the path to the nodes that have been left.
      rw [hentered, hleft, h.mem_entered, hpath, List.mem_cons, List.mem_cons]
      simp only [Search.leave]
      tauto
    · rw [hleft, List.nodup_cons]
      exact ⟨h.not_mem_left (hpath ▸ List.mem_cons_self), h.left_nodup⟩
    · rw [hentered]
      exact (List.sublist_cons_self n path).trans (hpath ▸ h.path_sublist)
    · -- The node just left has read all its neighbours.
      intro later m earlier hsplit v hv
      rw [hleft] at hsplit
      cases later with
      | nil =>
        obtain ⟨rfl, rfl⟩ := List.cons.inj hsplit
        exact read_done v (split ▸ hv)
      | cons k later => exact h.finished later m earlier (List.cons.inj hsplit).2 v hv
  · refine below.mono fun m v hv => ?_
    rw [hleft, List.mem_cons]
    exact or_assoc.2 hv

/-- Entering a neighbour of the last node of the path keeps the invariant. -/
theorem Marked.enter (h : Marked g s) {n : String} (hwhite : s.colour n = .white)
    (hedge : ∀ m ∈ s.path.head?, g.Edge m n)
    (hframes : Frames g (fun m v => v = n ∨ v ∈ s.left ∨ s.Closes m v) s.path s.pending) :
    Inv g (s.enter g n) := by
  have hentered : (s.enter g n).entered = n :: s.entered := painted_paint s n .grey .grey
  have hleft : (s.enter g n).left = s.left := painted_paint s n .grey .black
  have hcolour : ∀ m, (s.enter g n).colour m = if n = m then .grey else s.colour m :=
    fun m => colour_paint s n m .grey
  have hn : n ∉ s.entered := (h.white_iff n).1 hwhite
  have hnleft : n ∉ s.left := fun hl => hn ((h.mem_entered n).2 (.inr hl))
  refine ⟨?_, ?_⟩
  · refine
      { grey_iff := fun m => ?_, black_iff := fun m => ?_, mem_entered := fun m => ?_,
        entered_nodup := ?_, left_nodup := hleft ▸ h.left_nodup, path_sublist := ?_,
        path_chain := ?_, finished := hleft ▸ h.finished, reports := ?_,
        mem_seen := h.mem_seen, rotations_ne := h.rotations_ne }
    · -- `n` has turned grey and is on the path.
      rw [hcolour]
      split_ifs with hm
      · simp [Search.enter, hm]
      · rw [h.grey_iff]
        simp [Search.enter, Search.paint, Ne.symm hm]
    · rw [hcolour, hleft]
      split_ifs with hm
      · simpa [← hm] using hnleft
      · exact h.black_iff m
    · rw [hentered, hleft, List.mem_cons, h.mem_entered]
      simp [Search.enter, Search.paint, or_assoc]
    · rw [hentered, List.nodup_cons]
      exact ⟨hn, h.entered_nodup⟩
    · rw [hentered]
      exact h.path_sublist.cons_cons n
    · exact h.path_chain.cons hedge
    · rw [hentered]
      exact fun c hc => (h.reports c hc).mono (List.sublist_cons_self n _)
  · refine .cons [] rfl (fun v hv => absurd hv List.not_mem_nil) (hframes.mono fun m v hv => ?_)
    rw [hleft]
    exact hv

/-- A report changes the list of cycles only. -/
theorem report_eq (s : Search) (n : String) :
    ∃ cycles seen, s.report n = { s with cycles, seen } := by
  unfold Search.report
  dsimp only
  split_ifs
  · exact ⟨_, _, rfl⟩
  · exact ⟨_, _, rfl⟩

/-- After the report on an edge from the last node of the path back into it, the marks are kept and
some report ends with that edge. -/
theorem Marked.report (h : Marked g s) {m n : String} {path : List String}
    (hpath : s.path = m :: path) (hn : n ∈ s.path) (hedge : g.Edge m n) :
    Marked g (s.report n) ∧ (s.report n).Closes m n ∧
      ∀ a b, s.Closes a b → (s.report n).Closes a b := by
  obtain ⟨hreport, hlast⟩ := h.isReport_cycleFrom hpath hn hedge
  have hdrop : (s.cycleFrom n ++ [n]).dropLast = s.cycleFrom n := List.dropLast_concat
  unfold Search.report
  dsimp only
  by_cases hseen : rotated (s.cycleFrom n) ∈ s.seen
  · rw [if_pos (by simpa using hseen)]
    refine ⟨h, ?_, fun _ _ => id⟩
    -- The rotation was seen with a report on the same nodes, hence with this very report.
    obtain ⟨c, hc, hrot⟩ := (h.mem_seen _).1 hseen
    have hperm : c.dropLast.Perm (s.cycleFrom n ++ [n]).dropLast := by
      rw [hdrop]
      exact (isRotated_of_rotated_eq hrot).perm
    exact ⟨c, hc, (h.reports c hc).eq_of_perm hreport h.entered_nodup hperm ▸ hlast⟩
  · rw [if_neg (by simpa using hseen)]
    -- A new rotation: the report is one more cycle, and the marks stay as they are.
    refine ⟨{ h with finished := ?_, reports := ?_, mem_seen := ?_, rotations_ne := ?_ },
      ⟨_, List.mem_append_right _ List.mem_cons_self, hlast⟩,
      fun a b => Exists.imp fun c hc => ⟨List.mem_append_left _ hc.1, hc.2⟩⟩
    · intro later k earlier hsplit v hv
      refine (h.finished later k earlier hsplit v hv).imp id (Exists.imp fun c hc => ?_)
      exact ⟨List.mem_append_left _ hc.1, hc.2⟩
    · intro c hc
      rcases List.mem_append.1 hc with hc | hc
      · exact h.reports c hc
      · rw [List.mem_singleton.1 hc]
        exact hreport
    · intro k
      rw [List.mem_cons, h.mem_seen]
      simp only [List.mem_append, List.mem_singleton, or_and_right, exists_or, exists_eq_left,
        hdrop]
      rw [or_comm, eq_comm]
    · rw [List.pairwise_append]
      refine ⟨h.rotations_ne, List.pairwise_singleton _ _, fun c hc d hd hrot => hseen ?_⟩
      rw [List.mem_singleton.1 hd, hdrop] at hrot
      exact (h.mem_seen _).2 ⟨c, hc, hrot⟩

/-- Reading a neighbour `n` of the last node `m` of the path keeps the frames where `n` counts as
done for `m`. -/
theorem Inv.frames_read (h : Inv g s) {m n : String} {path unread : List String}
    {more : List (List String)} (hpath : s.path = m :: path)
    (hpending : s.pending = (n :: unread) :: more) :
    g.Edge m n ∧ ∀ done : String → String → Prop, (∀ a b, b ∈ s.left ∨ s.Closes a b → done a b) →
      done m n → Frames g done s.path (unread :: more) := by
  have hframes := h.frames
  rw [hpath, hpending] at hframes
  cases hframes with
  | cons read split read_done below =>
  refine ⟨by simp [Edge, split], fun done himp hdone => ?_⟩
  rw [hpath]
  refine .cons (read ++ [n]) (by simp [split]) (fun v hv => ?_)
    (below.mono fun a b hab => hab.imp id (himp a b))
  rcases List.mem_append.1 hv with hv | hv
  · exact himp m v (read_done v hv)
  · exact List.mem_singleton.1 hv ▸ hdone

/-- A step keeps the invariant. -/
theorem Inv.step (h : Inv g s) {t : Search} (hstep : Step g s t) : Inv g t := by
  cases hstep with
  | leave hpath hpending => exact h.leave hpath hpending
  | @report m path n unread more hpath hpending hgrey =>
    obtain ⟨hedge, hframes⟩ := h.frames_read hpath hpending
    have hread : Marked g (s.read unread more) := { h.toMarked with }
    obtain ⟨hmarked, hlast, hcloses⟩ := hread.report hpath ((h.grey_iff n).1 hgrey) hedge
    obtain ⟨cycles, seen, heq⟩ := report_eq (s.read unread more) n
    rw [heq] at hmarked hlast hcloses ⊢
    exact ⟨hmarked, hframes _ (fun a b hab => hab.imp id (hcloses a b)) (.inr hlast)⟩
  | @enter m path n unread more hpath hpending hwhite =>
    obtain ⟨hedge, hframes⟩ := h.frames_read hpath hpending
    have hread : Marked g (s.read unread more) := { h.toMarked with }
    exact hread.enter hwhite (by simpa [Search.read, hpath] using hedge)
      (hframes _ (fun _ _ => .inr) (.inl rfl))
  | @skip m path n unread more hpath hpending hblack =>
    -- A black neighbour has been left, so it is done.
    obtain ⟨-, hframes⟩ := h.frames_read hpath hpending
    exact ⟨{ h.toMarked with }, hframes _ (fun _ _ => id) (.inl ((h.black_iff n).1 hblack))⟩

end Search

end CheckDoc.Digraph
