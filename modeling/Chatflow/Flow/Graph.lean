import Chatflow.Flow.Basic
import Chatflow.Flow.Walk

/-!
# Graphs of flows

The nodes of a flow with the edges that lead from node to node. Of nodes with the same id the first
one counts, and edges to or from nowhere are left out. All orders follow the declarations.
-/

namespace Chatflow

/-- An edge between two nodes, with its place among the edges of the flow. -/
structure Arc where
  place : Nat
  edge : FlowEdge
deriving Repr, DecidableEq

namespace Arc

def source (a : Arc) : String := a.edge.source
def target (a : Arc) : String := a.edge.target

end Arc

namespace Graph

/-- The nodes whose ids no earlier node has. -/
def firstDeclared : List FlowNode → List FlowNode
  | [] => []
  | n :: rest => n :: (firstDeclared rest).filter (·.id != n.id)

theorem distinct_firstDeclared (nodes : List FlowNode) :
    ((firstDeclared nodes).map FlowNode.id).Nodup := by
  induction nodes with
  | nil => exact List.nodup_nil
  | cons n rest ih =>
    rw [firstDeclared, List.map_cons, List.nodup_cons]
    constructor
    · intro mem
      obtain ⟨m, hm, eq⟩ := List.mem_map.mp mem
      have ne := (List.mem_filter.mp hm).2
      simp [eq] at ne
    · exact (List.Sublist.map FlowNode.id List.filter_sublist).nodup ih

def hasNode (nodes : List FlowNode) (id : String) : Bool := nodes.any (·.id == id)

/-- Whether both ends of an edge are nodes. -/
def connects (nodes : List FlowNode) (e : FlowEdge) : Bool :=
  hasNode nodes e.source && hasNode nodes e.target

/-- Every edge with its place. -/
def placed (edges : List FlowEdge) : List Arc := edges.zipIdx.map fun e => ⟨e.2, e.1⟩

/-- The edges between the nodes. -/
def connecting (nodes : List FlowNode) (edges : List FlowEdge) : List Arc :=
  (placed edges).filter fun a => connects nodes a.edge

end Graph

/-- Nodes with distinct ids, edges, and the edges between the nodes. -/
structure Graph where
  nodes : List FlowNode
  edges : List FlowEdge
  arcs : List Arc
  distinct : (nodes.map FlowNode.id).Nodup
  arcs_eq : arcs = Graph.connecting nodes edges

namespace Graph

def ofFlow (f : Flow) : Graph where
  nodes := firstDeclared f.nodes
  edges := f.edges
  arcs := connecting (firstDeclared f.nodes) f.edges
  distinct := distinct_firstDeclared f.nodes
  arcs_eq := rfl

variable (g : Graph)

def get? (id : String) : Option FlowNode := g.nodes.find? (·.id == id)

def has (id : String) : Bool := hasNode g.nodes id

def outgoing (id : String) : List Arc := g.arcs.filter (·.source == id)

def incoming (id : String) : List Arc := g.arcs.filter (·.target == id)

/-- The edges of which an end is not a node. -/
def dangling : List Arc := (placed g.edges).filter fun a => !connects g.nodes a.edge

def triggers : List FlowNode := g.nodes.filter FlowNode.isTrigger

/-- The first trigger for a kind of event. -/
def trigger? (kind : String) : Option FlowNode :=
  g.triggers.find? (·.subType == Text.upper kind)

/-! ### Branches -/

/-- The outcome that a branch node stands for. -/
def branchOfSubType? (subType : String) : Option String :=
  if subType = "YES" then some "yes" else if subType = "NO" then some "no" else none

/-- Whether a node decides between outcomes. -/
def decides (n : FlowNode) : Bool :=
  n.category = .condition && (branchOfSubType? n.subType).isNone

/-- The outcome for which an edge is followed; without one it is followed for any. An edge without a
branch of its own takes that of the branch node it leads to, and else it is followed only when the
condition that it leaves holds. -/
def branchOf (e : FlowEdge) : Option String :=
  match e.branch.filter (!·.isEmpty) with
  | some branch => some (Text.lower (Text.strip branch))
  | none =>
    match (g.get? e.target).bind fun n => branchOfSubType? n.subType with
    | some branch => some branch
    | none => if (g.get? e.source).any decides then some "yes" else none

/-- Whether an edge is followed for an outcome. -/
def follows (e : FlowEdge) (outcome : Option String) : Bool :=
  match g.branchOf e, outcome with
  | some branch, some outcome => branch == Text.lower (Text.strip outcome)
  | _, _ => true

/-! ### Reachability -/

/-- The ids of all nodes that can be reached from some nodes, these included. -/
def reachable (starts : List String) : List String :=
  walk (fun id => (g.outgoing id).map Arc.target) (starts.length + g.arcs.length)
    (starts.filter g.has)

/-- The ids of all other nodes from which a node can be reached. -/
def ancestors (id : String) : List String :=
  (walk (fun id => (g.incoming id).map Arc.source) (2 * g.arcs.length)
    ((g.incoming id).map Arc.source)).filter (· != id)

/-! ### Cycles -/

/-- The nodes that a depth-first search has entered, and the arcs found to lead back. -/
structure Search where
  entered : List String
  back : List Arc

/-- Follows an arc from the innermost node of a path. The arc leads back if its target is on the
path; else the target is visited, unless it was entered before. -/
def followArc (visit : Search → String → Search) (path : List String) (s : Search) (arc : Arc) :
    Search :=
  if path.contains arc.target then { s with back := s.back ++ [arc] }
  else if s.entered.contains arc.target then s
  else visit s arc.target

/-- Searches from a node that was not entered before, at the end of a path. The fuel bounds how much
longer the path gets. -/
def search : Nat → List String → Search → String → Search
  | 0, _, s, _ => s
  | fuel + 1, path, s, id =>
    (g.outgoing id).foldl (followArc (search fuel (id :: path)) (id :: path))
      { s with entered := id :: s.entered }

/-- Searches from a start, unless it was entered before or is no node. -/
def searchStart (s : Search) (start : String) : Search :=
  if g.has start && !s.entered.contains start then g.search g.nodes.length [] s start else s

/-- The arcs that close cycles, in the order in which the search from some nodes finds them. -/
def backArcs (starts : List String) : List Arc := (starts.foldl g.searchStart ⟨[], []⟩).back

/-! ### Orders -/

/-- The nodes to which no arc leads but some of a node's own, each where the last of these arcs
stands. -/
def readied (rest : List Arc) : List Arc → List String
  | [] => []
  | arc :: more =>
    if more.any (·.target == arc.target) || rest.any (·.target == arc.target) then
      readied rest more
    else arc.target :: readied rest more

/-- Settles the nodes of a queue. Settling a node closes the arcs that leave it, and a node to which
no open arc leads any more joins the queue. The fuel bounds how many nodes are settled. -/
def settlingOrder : Nat → List Arc → List String → List String
  | 0, _, _ => []
  | _ + 1, _, [] => []
  | fuel + 1, opened, id :: queue =>
    let (own, rest) := opened.partition (·.source == id)
    id :: settlingOrder fuel rest (queue ++ readied rest own)

/-- The arcs that a topological order from some nodes respects. -/
def forwardArcs (starts : List String) : List Arc :=
  let reach := g.reachable starts
  let back := g.backArcs starts
  g.arcs.filter fun a => reach.contains a.source && !back.contains a

/-- The reachable nodes, each after all nodes from which an arc leads to it that closes no cycle. -/
def topologicalOrder (starts : List String) : List String :=
  let reach := g.reachable starts
  let arcs := g.forwardArcs starts
  let ready := (g.nodes.map FlowNode.id).filter fun id =>
    reach.contains id && !arcs.any (·.target == id)
  settlingOrder (ready.length + arcs.length) arcs ready

/-- The arcs that a run from a node waits for: those that leave reachable nodes and lead neither
back to the start nor to their own source. -/
def runArcs (start : String) : List Arc :=
  let reach := g.reachable [start]
  g.arcs.filter fun a =>
    reach.contains a.source && a.target != start && a.target != a.source

/-- The nodes that a run from a node settles after it, in order: each once everything that leads to
it is settled. -/
def runOrder (start : String) : List String :=
  let arcs := g.runArcs start
  (settlingOrder (1 + arcs.length) arcs [start]).tail

/-- The nodes that a run from a node visits, in order. -/
def runNodes (start : String) : List FlowNode := (g.runOrder start).filterMap g.get?

/-- Follows an arc from a node on a path with some nodes up to there. -/
def deepen (depth : Nat) (depths : Table String Nat) (arc : Arc) : Table String Nat :=
  depths.put arc.target (max ((depths.get? arc.target).getD 1) (depth + 1))

/-- How many nodes the longest path to each node has, as far as the nodes before it say. -/
def extendDepths (arcs : List Arc) (depths : Table String Nat) (id : String) : Table String Nat :=
  let depth := (depths.get? id).getD 1
  (arcs.filter (·.source == id)).foldl (deepen depth) (depths.put id depth)

/-- The number of nodes on the longest path from any of some nodes. -/
def longestDepth (starts : List String) : Nat :=
  let depths := (g.topologicalOrder starts).foldl (extendDepths (g.forwardArcs starts)) []
  (depths.map (·.2)).foldl max 0

end Graph

end Chatflow
