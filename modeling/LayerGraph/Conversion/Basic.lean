import LayerGraph.Failure.Basic
import LayerGraph.Graph.Basic
import LayerGraph.Settings.Load
import LayerGraph.Wiring.Basic

/-! Converting the blocks of a model directory.

A run reports what it does and comes to an outcome: a graph, or the conversion error that stopped it. A fault
is none and escapes. A plain conversion gives the graph or fails.
-/

set_option autoImplicit false

namespace LayerGraph

inductive Outcome where
  | converted (graph : Graph)
  | failed (error : ConversionError)
  deriving DecidableEq, Repr

namespace Outcome

def graph? : Outcome → Option Graph
  | .converted graph => some graph
  | .failed _ => none

def error? : Outcome → Option ConversionError
  | .converted _ => none
  | .failed error => some error

def succeeded (outcome : Outcome) : Bool := outcome.error?.isNone

/-- The texts of the errors met: at most one. -/
def errors (outcome : Outcome) : List String := (outcome.error?.map ConversionError.text).toList

def hasErrors (outcome : Outcome) : Bool := !outcome.errors.isEmpty

/-- The first error text. -/
def message? (outcome : Outcome) : Option String := outcome.errors.head?

def kind? (outcome : Outcome) : Option ErrorKind := outcome.error?.map ConversionError.kind

def operator? (outcome : Outcome) : Option String := outcome.error?.bind ConversionError.operator

def subject? (outcome : Outcome) : Option String := outcome.error?.bind ConversionError.subject

@[simp] theorem errors_converted (graph : Graph) : (converted graph).errors = [] := rfl

@[simp] theorem errors_failed (error : ConversionError) : (failed error).errors = [error.text] := rfl

theorem succeeded_iff (outcome : Outcome) : outcome.succeeded = true ↔ outcome.graph?.isSome = true := by
  cases outcome <;> simp [succeeded, error?, graph?]

end Outcome

/-- A model directory with the settings that it is converted under. -/
structure Conversion where
  settings : Settings
  files : FileTree
  deriving DecidableEq, Repr

namespace Conversion

/-- A conversion under given settings, or under those that are loaded for a directory. -/
def prepare (files : FileTree) (settings : Option Settings) (directory : Option Path) :
    Attempt Conversion :=
  match settings, directory with
  | some settings, _ => .ok ⟨settings, files⟩
  | none, some directory => do return ⟨← Settings.load files directory, files⟩
  | none, none => .fault .unconfigured

/-- The stored program of the directory. -/
def program (conversion : Conversion) : ProgramStore :=
  ⟨conversion.files, conversion.settings.directory, conversion.settings.filename⟩

/-- The stored tensors of the directory. -/
def tensors (conversion : Conversion) : PayloadStore :=
  ⟨conversion.files, conversion.settings.directory, conversion.settings.payloadVersion⟩

/-- What the operators of a block may look at. -/
def context (conversion : Conversion) (block : Block) : Context :=
  ⟨block, conversion.tensors, conversion.settings.elementType⟩

/-- Wire a block from the start. -/
def wire (conversion : Conversion) (block : Block) : Run Journal Graph :=
  fun journal =>
    let (result, wiring) := (Wiring.resolve (conversion.context block)).perform { journal := journal }
    (result, wiring.journal)

/-- Read a block of the program and wire it. -/
def convertBlock (conversion : Conversion) (index : Json) : Run Journal (Block × Graph) := do
  let block ← conversion.program.readBlock index
  return (block, ← conversion.wire block)

/-- Report how a conversion came out. -/
def conclude : Except ConversionError (Block × Graph) → Run Journal Outcome
  | .ok (block, graph) => do
    Journal.report .success <| "Converted " ++ toString block.operators.length ++ " operators into "
      ++ toString graph.size ++ " nodes"
    return .converted graph
  | .error error => do
    Journal.report .error <| "Conversion failed (" ++ error.kind.text ++ "): "
      ++ Markup.escape error.text
    return .failed error

/-- A conversion error as a value; faults pass. -/
def capture {σ α : Type} (run : Run σ α) : Run σ (Except ConversionError α) :=
  fun state =>
    match run.perform state with
    | (.ok value, state) => (.ok (.ok value), state)
    | (.error (.conversion error), state) => (.ok (.error error), state)
    | (.error failure, state) => (.error failure, state)

/-- Report that a block is going to be converted. The log level of the settings comes into force, and
stays. -/
def announce (conversion : Conversion) (index : Json) : Run Journal Unit := do
  -- The threshold changes before anything is reported, and is not set back.
  modify fun journal => { journal with threshold := conversion.settings.logLevel.number }
  Journal.report .info <| "Converting block " ++ (← Run.ofAttempt index.text) ++ " of [var]"
    ++ conversion.settings.directory.text ++ "[/var]"

/-- Convert a block, that of the settings unless another one is named. -/
def run (conversion : Conversion) (index : Option Json := none) : Run Journal Outcome := do
  let index := index.getD (.int conversion.settings.blockIndex)
  conversion.announce index
  conclude (← capture (conversion.convertBlock index))

/-- The arguments of converting a directory; the block is the first one unless another is named. -/
def arguments (fields : List (String × Json)) : Attempt Settings.Overrides := do
  let overrides ← Settings.Overrides.ofArguments "convert" [Settings.directoryKey]
    [Settings.blockIndexKey, Settings.filenameKey, Settings.elementTypeKey] fields
  if fields.any fun field => field.1 = Settings.blockIndexKey then return overrides
  else return { overrides with blockIndex := some (.int 0) }

/-- Convert a block of a directory under the settings loaded for it. -/
def convert (files : FileTree) (directory : Path) (overrides : Settings.Overrides) :
    Run Journal Graph := do
  let settings ← Run.ofAttempt (Settings.load files directory overrides)
  let conversion : Conversion := ⟨settings, files⟩
  return (← conversion.convertBlock (.int settings.blockIndex)).2

end Conversion

end LayerGraph
