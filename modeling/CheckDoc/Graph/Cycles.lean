import CheckDoc.Text.NameSet

/-!
# Cycles of a directed graph

A depth-first search that reports the cycle which each edge back into the current path closes. A
node is white until it is reached, grey while it is on the path and black after that. The search is
a step function on its state: the path, the neighbours still unread for each node of it, the
colours, and the cycles so far. A cycle is reported once, whichever of its nodes it is entered at:
its key is the rotation that starts at the smallest name.
-/

namespace CheckDoc

/-- A directed graph: its nodes in order, each with its neighbours in order. -/
abbrev Digraph := List (String × List String)

namespace Digraph

/-- The neighbours of a node; a node without an entry has none. -/
def neighbours (g : Digraph) (n : String) : List String :=
  match g.find? fun entry => entry.1 = n with
  | some (_, ns) => ns
  | none => []

/-- The colours of nodes. -/
inductive Colour where
  /-- Not reached yet. -/
  | white
  /-- On the path. -/
  | grey
  /-- Left behind. -/
  | black
  deriving DecidableEq

/-- The smaller of two names. -/
def smaller (a b : String) : String := if nameBefore b a then b else a

/-- The smallest of some names. -/
def smallest : List String → String
  | [] => ""
  | n :: ns => ns.foldl smaller n

/-- The rotation of a cycle that starts at its smallest name. -/
def rotated (cycle : List String) : List String :=
  let start := cycle.idxOf (smallest cycle)
  cycle.drop start ++ cycle.take start

/-- The state of a search. -/
structure Search where
  /-- The colours of the nodes that have been reached. -/
  colours : List (String × Colour)
  /-- The path, its last node first. -/
  path : List String
  /-- The unread neighbours of each node of the path. -/
  pending : List (List String)
  /-- The cycles so far, each with its first node repeated at its end. -/
  cycles : List (List String)
  /-- The rotations of these cycles. -/
  seen : List (List String)

namespace Search

/-- The colour of a node. -/
def colour (s : Search) (n : String) : Colour :=
  match s.colours.find? fun entry => entry.1 = n with
  | some (_, c) => c
  | none => .white

/-- Gives a node a colour. -/
def paint (s : Search) (n : String) (c : Colour) : Search :=
  { s with colours := (n, c) :: s.colours }

/-- The part of the path from `n` on, its first node first. -/
def cycleFrom (s : Search) (n : String) : List String :=
  (s.path.takeWhile (· ≠ n) ++ [n]).reverse

/-- Reports the cycle that an edge back to `n` closes, unless it is reported already. -/
def report (s : Search) (n : String) : Search :=
  let cycle := s.cycleFrom n
  let key := rotated cycle
  if s.seen.contains key then s
  else { s with cycles := s.cycles ++ [cycle ++ [n]], seen := key :: s.seen }

/-- Enters a node. -/
def enter (g : Digraph) (s : Search) (n : String) : Search :=
  { s.paint n .grey with path := n :: s.path, pending := g.neighbours n :: s.pending }

/-- One step: reads the next neighbour of the last node of the path, or leaves that node. -/
def step (g : Digraph) (s : Search) : Search :=
  match s.pending, s.path with
  | [] :: more, n :: path => { s.paint n .black with path, pending := more }
  | (n :: ns) :: more, _ =>
    let t := { s with pending := ns :: more }
    match t.colour n with
    | .grey => t.report n
    | .white => t.enter g n
    | .black => t
  | _, _ => s

/-- Steps until the path is empty, `fuel` times at most. -/
def finish (g : Digraph) : Nat → Search → Search
  | 0, s => s
  | fuel + 1, s => if s.pending.isEmpty then s else finish g fuel (s.step g)

/-- The state before a search. -/
def start : Search := ⟨[], [], [], [], []⟩

end Search

/-- A bound on the steps of a search: each node is entered once, and each entry of its list is read
once. -/
def steps (g : Digraph) : Nat :=
  g.foldr (fun entry n => 2 * entry.2.length + 2 + n) 1

/-- The search from a root that may be reached already. -/
def searchFrom (g : Digraph) (s : Search) (root : String) : Search :=
  if s.colour root = .white then (s.enter g root).finish g g.steps else s

/-- The search from all nodes in order. -/
def search (g : Digraph) : Search := (g.map (·.1)).foldl g.searchFrom .start

/-- The cycles of a graph, each with its first node repeated at its end. -/
def cycles (g : Digraph) : List (List String) := g.search.cycles

end Digraph

end CheckDoc
