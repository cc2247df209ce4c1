import LayerGraph.Data.Keyed
import LayerGraph.Graph.Basic
import LayerGraph.Journal.Basic
import LayerGraph.Lowering.Operator

/-! Wiring the operators of a block into a graph.

Every operator is lowered in order and its layers join the arena. Then each pending port is
connected to the writer of its variable, or to a source made up for it; a fed input whose variable
has a stored payload gives way to it; and every output that nobody reads is handed out.

A reader takes the last writer before it, or the first one after it, never its own operator. The
state is kept when a step fails.
-/

set_option autoImplicit false

namespace LayerGraph

open Text

structure Wiring where
  graph : Graph := {}
  /-- Ports that wait for a variable, with the operator that reads it. -/
  pending : List (PortRef × (String × Nat)) := []
  /-- The writers of each variable, with the ports that supply it. -/
  produced : List (String × List (Nat × PortRef)) := []
  /-- Fed variables and the nodes that a stored payload may replace. -/
  provisional : List (String × Int) := []
  /-- The sources made up for variables that nobody writes. -/
  synthesized : List (String × PortRef) := []
  finished : Bool := false
  journal : Journal := {}
  deriving DecidableEq, Repr

namespace Wiring

/-- A wiring that has seen nothing yet. -/
def start (threshold : Int := 20) : Wiring := { journal := { threshold := threshold } }

/-- The writers of a variable, in order. -/
def writers (wiring : Wiring) (name : String) : List (Nat × PortRef) :=
  (Keyed.get? name wiring.produced).getD []

/-- The port among the writers of a variable that a reader takes it from. -/
def writerAmong? (history : List (Nat × PortRef)) (reader : Int) : Option PortRef :=
  match (history.filter fun entry => (entry.1 : Int) < reader).getLast? with
  | some entry => some entry.2
  -- Nobody wrote it before: a forward reference takes the first writer to come.
  | none => ((history.filter fun entry => reader < (entry.1 : Int)).head?).map Prod.snd

/-- The port that a reader takes a variable from. -/
def writer? (wiring : Wiring) (name : String) (reader : Int) : Option PortRef :=
  writerAmong? (wiring.writers name) reader

/-- An effect on the graph alone. -/
def onGraph {α : Type} (step : Graph → Attempt α × Graph) : Run Wiring α :=
  fun wiring =>
    let (result, graph) := step wiring.graph
    (result, { wiring with graph := graph })

/-- Look something up without an effect. -/
def look {α : Type} (find : Wiring → Attempt α) : Run Wiring α :=
  fun wiring => (find wiring, wiring)

/-- Change the state. -/
def change (update : Wiring → Wiring) : Run Wiring Unit := fun wiring => (.ok (), update wiring)

/-- Append a layer and give its number. -/
def addNode (layer : Layer) : Run Wiring Int :=
  onGraph fun graph => (.ok graph.size, graph.add layer)

def connect (source target : PortRef) : Run Wiring Unit :=
  onGraph fun graph => graph.connect source target

def log (severity : Severity) (message : String) : Run Wiring Unit :=
  Run.onPart Wiring.journal (fun wiring journal => { wiring with journal := journal })
    (Journal.report severity message)

/-- Add a writer of a variable. -/
def addWriter (wiring : Wiring) (name : String) (entry : Nat × PortRef) : Wiring :=
  { wiring with
    produced := Keyed.put name (wiring.writers name ++ [entry]) wiring.produced }

/-- Put the bindings of a fragment into the tables, its references shifted by an offset. -/
def register (wiring : Wiring) (reader : Nat) (offset : Nat) (fragment : Fragment) : Wiring :=
  let wiring := fragment.pending.foldl (fun w (port, name) =>
    { w with pending := Keyed.put (port.rebase offset) (name, reader) w.pending }) wiring
  let wiring := fragment.produced.foldl (fun w (name, port) =>
    w.addWriter name (reader, port.rebase offset)) wiring
  { wiring with
    graph := { wiring.graph with
      inputs := wiring.graph.inputs
        ++ fragment.boundaryInputs.map fun (n : Nat) => (n + offset : Int)
      outputs := wiring.graph.outputs
        ++ fragment.boundaryOutputs.map fun (n : Nat) => (n + offset : Int) }
    provisional := fragment.provisional.foldl (fun kept (name, (node : Nat)) =>
      Keyed.put name (node + offset : Int) kept) wiring.provisional }

/-- Connect the links of a fragment, its references shifted by an offset. -/
def connectLinks (offset : Nat) (links : List (PortRef × PortRef)) : Run Wiring Unit := do
  for (source, target) in links do
    connect (source.rebase offset) (target.rebase offset)

/-- Append the fragment of an operator. -/
def append (reader : Nat) (fragment : Fragment) : Run Wiring Unit := do
  -- The fragment counts from its own first layer; the arena continues from here.
  let offset := (← get).graph.size
  change fun wiring =>
    { wiring with graph := fragment.layers.foldl Graph.add wiring.graph }
  connectLinks offset fragment.links
  change fun wiring => wiring.register reader offset fragment

/-- What is reported of one lowered layer. -/
def loweredText (reader : Nat) (op : Operator) (layer : Layer) : String :=
  "Lowered #" ++ toString reader ++ " " ++ op.tag ++ " into " ++ layer.text ++ " "
    ++ layer.body.paramsText

/-- Report one lowered layer; its integers have to be shown only when the line is kept. -/
def logLowered (reader : Nat) (op : Operator) (layer : Layer) : Run Wiring Unit := do
  let line := loweredText reader op layer
  if (← get).journal.keeps .debug && !showsNumerals line then
    Run.ofAttempt (.fault .shownInteger)
  else log .debug line

/-- Lower one operator and append it. -/
def lowerOne (context : Context) (reader : Nat) (op : Operator) : Run Wiring Unit := do
  let fragment ← Run.ofAttempt (op.lower context)
  append reader fragment
  for layer in fragment.layers do
    logLowered reader op layer

/-- Make a constant of a stored tensor, or of zeros for a persistable variable without one. -/
def makeConstant (context : Context) (name : String) (stored : Bool) : Run Wiring Int := do
  if !stored then
    log .warning ("No payload for persistable [var]" ++ name ++ "[/var], using zeros")
  let value ← Run.ofAttempt (context.loadOrZeros name)
  let node ← addNode (Layer.constant value)
  log .debug ("Bound " ++ name ++ " to a constant")
  return node

/-- Make a boundary input of the declared shape. -/
def makeInput (shape : Shape) (name : String) : Run Wiring Int := do
  let node ← addNode (Layer.input shape)
  change fun wiring =>
    { wiring with graph := { wiring.graph with inputs := wiring.graph.inputs ++ [node] } }
  log .debug ("Bound " ++ name ++ " to a new graph input")
  return node

/-- The source of a variable that nobody writes, made once. -/
def synthesize (context : Context) (name : String) : Run Wiring PortRef := do
  match Keyed.get? name (← get).synthesized with
  | some source => return source
  | none =>
    let declaration ← Run.ofAttempt (context.block.declaration name)
    let stored ← Run.ofAttempt (context.tensors.contains name)
    -- A stored payload makes a constant even of a variable that is not declared persistable.
    let node ←
      if declaration.persistable || stored then makeConstant context name stored
      else makeInput declaration.shape name
    change fun wiring =>
      { wiring with synthesized := Keyed.put name ⟨node, 0⟩ wiring.synthesized }
    return ⟨node, 0⟩

/-- A boundary output must agree with the declaration; a refusal has to show both shapes. -/
def checkBoundary (name : String) (inferred declared : Shape) : Attempt Unit :=
  if Shape.compatible inferred declared then .ok ()
  else if showsNumerals (inferred.mismatchText declared) then
    .graph (.boundary inferred declared) (some name)
  else .fault .shownInteger

/-- The shapes at an output layer's port and at the source it is to be bound to must agree. -/
def checkTarget (graph : Graph) (name : String) (source target : PortRef) : Attempt Unit := do
  if (← graph.node target.node).kind = .output then
    checkBoundary name (← graph.outputPort source).shape (← graph.inputPort target).shape

/-- Connect a waiting port. -/
def bindOne (context : Context) (target : PortRef) (name : String) (reader : Nat) :
    Run Wiring Unit := do
  let source ←
    match (← get).writer? name reader with
    | some source => pure source
    | none => synthesize context name
  look fun wiring => checkTarget wiring.graph name source target
  connect source target

/-- Connect every waiting port. -/
def bindPending (context : Context) : Run Wiring Unit := do
  for (target, name, reader) in (← get).pending do
    bindOne context target name reader

/-- Whether a fed variable gives way to its stored payload: it has no other writer. -/
def isReplaceable (context : Context) (wiring : Wiring) (name : String) : Attempt Bool :=
  if (wiring.writers name).length ≠ 1 then .ok false else context.tensors.contains name

/-- Exchange a node; the graph stays when that fails. -/
def replaceNode (node : Int) (layer : Layer) : Run Wiring Unit :=
  onGraph fun graph =>
    match graph.replace node layer with
    | .ok replaced => (.ok (), replaced)
    | .error failure => (.error failure, graph)

/-- Put a stored payload in the place of a fed input. -/
def replaceOne (context : Context) (name : String) (node : Int) : Run Wiring Unit := do
  if ← look fun wiring => isReplaceable context wiring name then
    let value ← Run.ofAttempt (context.load name)
    replaceNode node (Layer.constant value)
    log .debug ("Replaced feed " ++ name ++ " with its stored payload")

/-- Put stored payloads in the place of fed inputs. -/
def replaceFed (context : Context) : Run Wiring Unit := do
  for (name, node) in (← get).provisional do
    replaceOne context name node

/-- Every written port with its variable, by operator. -/
def written (wiring : Wiring) : List (Nat × String × PortRef) :=
  (wiring.produced.flatMap fun (name, history) =>
    history.map fun (reader, source) => (reader, name, source)).mergeSort
      fun a b => a.1 ≤ b.1

/-- Hand out a written port that nobody reads. -/
def exposeOne (context : Context) (name : String) (source : PortRef) : Run Wiring Unit := do
  let port ← look fun wiring => wiring.graph.outputPort source
  if port.consumers.isEmpty then
    let declared ←
      if context.block.declares name then Run.ofAttempt (context.shape name)
      else pure port.shape
    Run.ofAttempt (checkBoundary name port.shape declared)
    let node ← addNode (Layer.output declared)
    change fun wiring =>
      { wiring with graph := { wiring.graph with outputs := wiring.graph.outputs ++ [node] } }
    connect source ⟨node, 0⟩
    log .debug ("Exposed " ++ name ++ " as a graph output")

/-- Hand out every written port that nobody reads. -/
def exposeOutputs (context : Context) : Run Wiring Unit := do
  for (_, name, source) in (← get).written do
    exposeOne context name source

/-- Lower and append every operator. -/
def lowerAll (context : Context) : Run Wiring Unit := do
  for (op, reader) in context.block.operators.zipIdx do
    lowerOne context reader op

/-- Wire the block; a finished wiring gives the same graph again. -/
def resolve (context : Context) : Run Wiring Graph := do
  if (← get).finished then return (← get).graph
  lowerAll context
  bindPending context
  replaceFed context
  exposeOutputs context
  change fun wiring => { wiring with finished := true }
  return (← get).graph

end Wiring

/-- Wire a block from the start. -/
def Context.resolve (context : Context) (threshold : Int := 20) : Attempt Graph :=
  ((Wiring.resolve context).perform (Wiring.start threshold)).1

end LayerGraph
