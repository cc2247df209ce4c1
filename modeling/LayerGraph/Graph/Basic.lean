import LayerGraph.Layer.Basic
import LayerGraph.Number.Word

/-! Graphs: layers in an arena, wired by references to their ports.

A node number that is negative counts from the end. The boundary lists name nodes that take data
in and hand data out.
-/

set_option autoImplicit false

namespace LayerGraph

open Text

/-- The place of a number in a list of some length; negative numbers count from the end. -/
def position? (length : Nat) (index : Int) : Option Nat :=
  let shifted := if index < 0 then index + length else index
  if 0 ≤ shifted ∧ shifted < length then some shifted.toNat else none

/-- Why a number names no place: it has none, or it is no machine-sized number at all. -/
def placeFault (index : Int) : Fault :=
  if Number.isWord index then .indexRange else .indexSize

@[simp] theorem position?_natCast {length index : Nat} (h : index < length) :
    position? length (index : Int) = some index := by
  have nonnegative : ¬ (index : Int) < 0 := by omega
  simp [position?, nonnegative, h]

structure Graph where
  nodes : List Layer := []
  inputs : List Int := []
  outputs : List Int := []
  deriving DecidableEq, Repr

namespace Graph

def empty : Graph := {}

def size (graph : Graph) : Nat := graph.nodes.length

/-- Append a node; its number is the old size. -/
def add (graph : Graph) (layer : Layer) : Graph := { graph with nodes := graph.nodes ++ [layer] }

/-- The place of a node. -/
def place (graph : Graph) (index : Int) : Attempt Nat :=
  match position? graph.nodes.length index with
  | some place => .ok place
  | none => .fault (placeFault index)

def node (graph : Graph) (index : Int) : Attempt Layer := do
  match graph.nodes[← graph.place index]? with
  | some layer => return layer
  | none => .fault .indexRange

/-- The item of a list that a signed number names. -/
def pick {α : Type} (items : List α) (index : Int) : Attempt (Nat × α) :=
  match position? items.length index with
  | none => .fault (placeFault index)
  | some place =>
    match items[place]? with
    | some item => .ok (place, item)
    | none => .fault .indexRange

def inputPort (graph : Graph) (ref : PortRef) : Attempt InputPort := do
  return (← pick (← graph.node ref.node).inputs ref.slot).2

def outputPort (graph : Graph) (ref : PortRef) : Attempt OutputPort := do
  return (← pick (← graph.node ref.node).outputs ref.slot).2

/-- Put a layer at a place. -/
def setNode (graph : Graph) (place : Nat) (layer : Layer) : Graph :=
  { graph with nodes := graph.nodes.set place layer }

/-- Set the source of an input port that has none. -/
def bind (graph : Graph) (target source : PortRef) : Attempt Graph := do
  let (place, layer) ← pick graph.nodes target.node
  let (slot, port) ← pick layer.inputs target.slot
  let bound ← port.bind source
  return graph.setNode place { layer with inputs := layer.inputs.set slot bound }

/-- Add a consumer to an output port. -/
def attach (graph : Graph) (source target : PortRef) : Attempt Graph := do
  let (place, layer) ← pick graph.nodes source.node
  let (slot, port) ← pick layer.outputs source.slot
  return graph.setNode place { layer with outputs := layer.outputs.set slot (port.attach target) }

/-- Wire an output port to an input port. The target is bound first and stays bound when there is no
such source. -/
def connect (graph : Graph) (source target : PortRef) : Attempt Unit × Graph :=
  match graph.bind target source with
  | .error failure => (.error failure, graph)
  | .ok bound =>
    -- The source is looked up in the graph whose target is bound already.
    match bound.attach source target with
    | .error failure => (.error failure, bound)
    | .ok wired => (.ok (), wired)

/-- Hand the consumers of old ports over to new ones. -/
def inherit (old new : List OutputPort) : List OutputPort :=
  old.zipWith (fun o n => { n with consumers := n.consumers ++ o.consumers }) new

/-- Exchange a node for one without inputs and with as many outputs; the consumers stay. -/
def replace (graph : Graph) (index : Int) (layer : Layer) : Attempt Graph := do
  let (place, old) ← pick graph.nodes index
  if !layer.inputs.isEmpty || layer.outputs.length != old.outputs.length then
    .graph (.replacement old.kind index layer.kind)
  else
    let graph := graph.setNode place { layer with outputs := inherit old.outputs layer.outputs }
    -- A node that is no input any more leaves the boundary; only its first entry goes.
    if layer.kind = .input then return graph
    else return { graph with inputs := graph.inputs.erase index }

def inputLayers (graph : Graph) : Attempt (List Layer) := graph.inputs.mapM graph.node

def outputLayers (graph : Graph) : Attempt (List Layer) := graph.outputs.mapM graph.node

/-- The references of a node's ports with the ports. -/
def numbered {α : Type} (place : Nat) (ports : List α) : List (PortRef × α) :=
  ports.zipIdx.map fun (port, slot) => (⟨place, slot⟩, port)

/-- Every input port with its reference, by node and slot. -/
def inputPorts (graph : Graph) : List (PortRef × InputPort) :=
  graph.nodes.zipIdx.flatMap fun (layer, place) => numbered place layer.inputs

/-- Every output port with its reference, by node and slot. -/
def outputPorts (graph : Graph) : List (PortRef × OutputPort) :=
  graph.nodes.zipIdx.flatMap fun (layer, place) => numbered place layer.outputs

/-- The connections as pairs of source and target, by target. -/
def edges (graph : Graph) : List (PortRef × PortRef) :=
  graph.inputPorts.filterMap fun (target, port) => port.source.map fun source => (source, target)

/-- The input ports without a source. -/
def unboundPorts (graph : Graph) : List PortRef :=
  graph.inputPorts.filterMap fun (target, port) => if port.isBound then none else some target

/-- Count one more node of a kind. -/
def countKind (counts : List (LayerKind × Nat)) (kind : LayerKind) : List (LayerKind × Nat) :=
  if counts.any fun entry => entry.1 = kind then
    counts.map fun (k, n) => if k = kind then (k, n + 1) else (k, n)
  else counts ++ [(kind, 1)]

/-- The number of nodes of each kind, in order of first appearance. -/
def kinds (graph : Graph) : List (LayerKind × Nat) :=
  (graph.nodes.map Layer.kind).foldl countKind []

/-- Kind, input shapes and output shapes of every node. -/
def summary (graph : Graph) : List (LayerKind × List Shape × List Shape) :=
  graph.nodes.map fun layer =>
    (layer.kind, layer.inputs.map InputPort.shape, layer.outputs.map OutputPort.shape)

def text (graph : Graph) : String :=
  "Graph(nodes=" ++ toString graph.size ++ ", inputs=" ++ integers graph.inputs ++ ", outputs="
    ++ integers graph.outputs ++ ")"

end Graph

end LayerGraph
