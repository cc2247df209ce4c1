import LayerGraph.Json.Basic
import LayerGraph.Layer.Basic
import LayerGraph.Validation.Coercion

/-! Layers from loose values: numbers are coerced where a layer first needs them.
-/

set_option autoImplicit false

namespace LayerGraph

open Number

def LayerKind.all : List LayerKind :=
  [.input, .output, .constant, .conv2d, .depthwiseConv2d, .add, .batchNormalization, .relu,
    .averagePool2d, .reshape, .softmax, .spaceToBatch]

def LayerKind.ofName? (name : String) : Option LayerKind :=
  LayerKind.all.find? fun kind => kind.name = name

/-- The loose values and the tensors that a layer is built from, by name. -/
structure Recipe where
  kind : LayerKind
  value? : String → Option Json
  tensor? : String → Option Tensor

namespace Recipe

/-- A loose value by its name; one that is not given is null. -/
def value (recipe : Recipe) (name : String) : Json := (recipe.value? name).getD .null

/-- A tensor by its name; one that is not given is empty. -/
def tensor (recipe : Recipe) (name : String) : Tensor :=
  (recipe.tensor? name).getD ⟨.float 4, .little, [], []⟩

/-- A shape by its name. -/
def shape (recipe : Recipe) (name : String) : Attempt Shape := (recipe.value name).toIntegers

/-- The axis; it is the last one unless it is given. -/
def axis (recipe : Recipe) : Attempt Int :=
  match recipe.value? "axis" with
  | none => .ok (-1)
  | some value => value.toInteger

/-- The padding mode; it is checked before anything else is read. -/
def padding (recipe : Recipe) : Attempt Padding :=
  match recipe.value? "padding" with
  | none => .ok .valid
  | some value =>
    match value with
    | .str name =>
      match Padding.ofName? name with
      | some padding => .ok padding
      | none => .fault (.padding value.shown)
    | value => .fault (.padding value.shown)

/-- A convolution of either kind; its strides are not read before its weights fit. -/
def convolution (recipe : Recipe)
    (build : Shape → Tensor → Option Tensor → Padding → Int × Int → Attempt Layer) :
    Attempt Layer := do
  let padding ← recipe.padding
  let shape ← recipe.shape "shape"
  let weights := recipe.tensor "weights"
  let _ ← Layer.convolutionPlan recipe.kind shape weights
  let strides ← (recipe.value "strides").toPair
  build shape weights (recipe.tensor? "bias") padding strides

/-- A normalization; its shape is not read before its statistics agree. -/
def normalization (recipe : Recipe) : Attempt Layer := do
  let statistics : Statistics :=
    ⟨recipe.tensor "scale", recipe.tensor "offset", recipe.tensor "mean", recipe.tensor "variance"⟩
  let size ← Layer.statisticsSize statistics
  let shape ← recipe.shape "shape"
  Layer.checkStatistics shape size
  let epsilon ← (recipe.value "epsilon").toReal
  Layer.batchNormalization shape statistics epsilon

/-- An average over windows. -/
def pooling (recipe : Recipe) : Attempt Layer := do
  let padding ← recipe.padding
  let shape ← recipe.shape "shape"
  let _ ← Images.ofShape .averagePool2d shape
  let kernel ← (recipe.value "kernel").toPair
  let strides ← (recipe.value "strides").toPair
  Layer.averagePool2d shape padding kernel strides

/-- Read a loose value as two integers, no more and no fewer. -/
def exactPair (value : Json) : Attempt (Int × Int) := do
  let items ← match value with
    | .arr _ | .str _ | .obj _ => value.toItems
    | value => .fault (.notUnpacked value.type)
  match items with
  | [before, after] => return (← before.toInteger, ← after.toInteger)
  | items => .fault (.notPair items.length)

/-- A layer that folds blocks into the batch. -/
def folding (recipe : Recipe) : Attempt Layer := do
  let shape ← recipe.shape "shape"
  let _ ← Images.ofShape .spaceToBatch shape
  let block ← (recipe.value "block_shape").toPair
  let paddings ← (← (recipe.value "paddings").toItems).mapM exactPair
  Layer.spaceToBatch shape block paddings

def build (recipe : Recipe) : Attempt Layer :=
  match recipe.kind with
  | .input => return Layer.input (← recipe.shape "shape")
  | .output => return Layer.output (← recipe.shape "shape")
  | .relu => return Layer.relu (← recipe.shape "shape")
  | .constant => return Layer.constant (recipe.tensor "value")
  | .conv2d => recipe.convolution Layer.conv2d
  | .depthwiseConv2d => recipe.convolution Layer.depthwiseConv2d
  | .add => do
    let a ← recipe.shape "a"
    let b ← recipe.shape "b"
    Layer.add a b (← recipe.axis)
  | .batchNormalization => recipe.normalization
  | .averagePool2d => recipe.pooling
  | .reshape => do
    let shape ← recipe.shape "shape"
    Layer.reshape shape (← recipe.shape "new_shape")
  | .softmax => do
    let axis ← recipe.axis
    return Layer.softmax (← recipe.shape "shape") axis
  | .spaceToBatch => recipe.folding

end Recipe

end LayerGraph
