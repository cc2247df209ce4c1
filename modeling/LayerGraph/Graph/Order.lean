import LayerGraph.Graph.Basic

/-! Dependency order of the nodes of a graph.

Nodes are taken from a queue that starts with those without sources. Taking a node releases the
targets of its connections; a node joins the queue when its last connection is released. What a
cycle holds back never joins.
-/

set_option autoImplicit false

namespace LayerGraph.Graph

/-- The target nodes of a list of connections that leave a node, one for every connection. -/
def targetsFrom (edges : List (PortRef × PortRef)) (place : Nat) : List Nat :=
  edges.filterMap fun (source, target) =>
    if source.node = place then some target.node.toNat else none

/-- Connections still to be released, by target node. -/
abbrev Waiting := List Nat

/-- Release one connection into a node. -/
def releaseOne (state : Waiting × List Nat) (target : Nat) : Waiting × List Nat :=
  match state.1[target]? with
  | some 1 => (state.1.set target 0, state.2 ++ [target])
  | some (n + 1) => (state.1.set target n, state.2)
  | _ => state

/-- Take nodes off the queue; every node is taken at most once, so their number is fuel enough. -/
def drain (edges : List (PortRef × PortRef)) : Nat → Waiting → List Nat → List Nat
  | 0, _, _ => []
  | _ + 1, _, [] => []
  | fuel + 1, waiting, place :: queue =>
    let (waiting, queue) := (targetsFrom edges place).foldl releaseOne (waiting, queue)
    place :: drain edges fuel waiting queue

/-- The number of connections into each node. -/
def incoming (graph : Graph) : Waiting :=
  graph.nodes.map fun layer => layer.inputs.countP InputPort.isBound

/-- The nodes that can be ordered, each after the sources of its connections. -/
def orderable (graph : Graph) : List Nat :=
  let waiting := graph.incoming
  let start := (List.range graph.size).filter fun place => waiting[place]? = some 0
  drain graph.edges graph.size waiting start

/-- Every node once: the orderable ones in order, then the others by number. -/
def topologicalOrder (graph : Graph) : List Nat :=
  let order := graph.orderable
  order ++ (List.range graph.size).filter fun place => !order.contains place

def isAcyclic (graph : Graph) : Bool := graph.orderable.length = graph.size

end LayerGraph.Graph
