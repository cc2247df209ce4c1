import LayerGraph.Graph.Port
import LayerGraph.Layer.Inference
import LayerGraph.Tensor.Basic

/-! Layers: a kind with its parameters, input ports and output ports.

Every constructor infers the shapes of the outputs from those of the inputs.
-/

set_option autoImplicit false

namespace LayerGraph

open Number Text

/-- The parameters of a convolution; the kernel is read off the weights. -/
structure Convolution where
  weights : Tensor
  bias : Option Tensor
  padding : Padding
  strides : Int × Int
  kernel : Int × Int
  deriving DecidableEq, Repr

/-- The four vectors of a normalization. -/
structure Statistics where
  scale : Tensor
  offset : Tensor
  mean : Tensor
  variance : Tensor
  deriving DecidableEq, Repr

/-- What a layer computes. -/
inductive LayerBody where
  | input
  | output
  | constant (value : Tensor)
  | conv2d (convolution : Convolution)
  | depthwiseConv2d (convolution : Convolution)
  | add (axis : Int)
  | batchNormalization (statistics : Statistics) (epsilon : Binary64)
  | relu
  | averagePool2d (padding : Padding) (kernel strides : Int × Int)
  | reshape (target : Shape)
  | softmax (axis : Int)
  | spaceToBatch (block : Int × Int) (paddings : List (Int × Int))
  deriving DecidableEq, Repr

def LayerBody.kind : LayerBody → LayerKind
  | .input => .input
  | .output => .output
  | .constant _ => .constant
  | .conv2d _ => .conv2d
  | .depthwiseConv2d _ => .depthwiseConv2d
  | .add _ => .add
  | .batchNormalization .. => .batchNormalization
  | .relu => .relu
  | .averagePool2d .. => .averagePool2d
  | .reshape _ => .reshape
  | .softmax _ => .softmax
  | .spaceToBatch .. => .spaceToBatch

structure Layer where
  body : LayerBody
  inputs : List InputPort
  outputs : List OutputPort
  deriving DecidableEq, Repr

namespace Layer

def kind (layer : Layer) : LayerKind := layer.body.kind

/-- A layer with one input and one output. -/
def unary (body : LayerBody) (input output : Shape) : Layer :=
  ⟨body, [⟨"input", input, none⟩], [⟨"output", output, []⟩]⟩

/-- A boundary layer that takes data in. -/
def input (shape : Shape) : Layer := ⟨.input, [], [⟨"output", shape, []⟩]⟩

/-- A boundary layer that hands data out. -/
def output (shape : Shape) : Layer := ⟨.output, [⟨"input", shape, none⟩], []⟩

/-- A tensor that is known beforehand. -/
def constant (value : Tensor) : Layer := ⟨.constant value, [], [⟨"output", value.shape, []⟩]⟩

def relu (shape : Shape) : Layer := unary .relu shape shape

def softmax (shape : Shape) (axis : Int) : Layer := unary (.softmax axis) shape shape

/-- The output channels of a standard convolution with weights `[out, in, height, width]`. -/
def standardChannels (channels filters depth : Int) : Attempt Int :=
  if channels ≠ unknown ∧ channels ≠ depth then .layer (.inputChannels .conv2d depth channels)
  else .ok filters

/-- The output channels of a depthwise convolution with weights `[multiplier, channels, height, width]`. -/
def depthwiseChannels (channels filters : Int) : Attempt Int :=
  if channels = unknown then .ok filters
  else do
    if ← divides channels filters then return filters
    else .layer (.coverChannels .depthwiseConv2d filters channels)

/-- The images, output channels and kernel of a convolution, before its windows are known. -/
def convolutionPlan (kind : LayerKind) (shape : Shape) (weights : Tensor) :
    Attempt (Images × Int × (Int × Int)) := do
  let images ← Images.ofShape kind shape
  match weights.shape with
  | [first, second, height, width] =>
    let channels ←
      if kind = .depthwiseConv2d then depthwiseChannels images.channels second
      else standardChannels images.channels first second
    return (images, channels, (height, width))
  | extents => .layer (.weightsRank kind extents)

/-- The height and width that windows leave. -/
def windows (images : Images) (kernel strides : Int × Int) (padding : Padding) :
    Attempt (Int × Int) := do
  let height ← windowExtent images.height kernel.1 strides.1 padding
  let width ← windowExtent images.width kernel.2 strides.2 padding
  return (height, width)

/-- A convolution of either kind. -/
def convolution (kind : LayerKind) (body : Convolution → LayerBody) (shape : Shape)
    (weights : Tensor) (bias : Option Tensor) (padding : Padding) (strides : Int × Int) :
    Attempt Layer := do
  let (images, channels, kernel) ← convolutionPlan kind shape weights
  let (height, width) ← windows images kernel strides padding
  return unary (body ⟨weights, bias, padding, strides, kernel⟩) shape
    [images.batch, channels, height, width]

def conv2d (shape : Shape) (weights : Tensor) (bias : Option Tensor) (padding : Padding)
    (strides : Int × Int) : Attempt Layer :=
  convolution .conv2d .conv2d shape weights bias padding strides

def depthwiseConv2d (shape : Shape) (weights : Tensor) (bias : Option Tensor) (padding : Padding)
    (strides : Int × Int) : Attempt Layer :=
  convolution .depthwiseConv2d .depthwiseConv2d shape weights bias padding strides

/-- An elementwise sum. -/
def add (a b : Shape) (axis : Int) : Attempt Layer := do
  let sum ← broadcast a b axis
  return ⟨.add axis, [⟨"a", a, none⟩, ⟨"b", b, none⟩], [⟨"output", sum, []⟩]⟩

/-- The common size of the statistics. -/
def statisticsSize (statistics : Statistics) : Attempt Nat :=
  let sizes := [statistics.scale.count, statistics.offset.count, statistics.mean.count,
    statistics.variance.count]
  match (sizes.mergeSort (· ≤ ·)).eraseDups with
  | [size] => .ok size
  | sizes => .layer (.statisticsDiffer .batchNormalization sizes)

/-- The channel axis must exist and have as many channels as there are statistics. -/
def checkStatistics (shape : Shape) (size : Nat) : Attempt Unit :=
  match shape with
  | _ :: channels :: _ =>
    if channels ≠ unknown ∧ channels ≠ size then
      .layer (.statisticsCount .batchNormalization size channels)
    else .ok ()
  | shape => .layer (.rankAtLeast .batchNormalization 2 shape)

def batchNormalization (shape : Shape) (statistics : Statistics) (epsilon : Binary64) :
    Attempt Layer := do
  let size ← statisticsSize statistics
  checkStatistics shape size
  return unary (.batchNormalization statistics epsilon) shape shape

def averagePool2d (shape : Shape) (padding : Padding) (kernel strides : Int × Int) :
    Attempt Layer := do
  let images ← Images.ofShape .averagePool2d shape
  let (height, width) ← windows images kernel strides padding
  return unary (.averagePool2d padding kernel strides) shape
    [images.batch, images.channels, height, width]

def reshape (shape target : Shape) : Attempt Layer := do
  return unary (.reshape target) shape (← reshapeExtents shape target)

/-- Pad the spatial axes, then fold blocks of them into the batch. -/
def spaceToBatch (shape : Shape) (block : Int × Int) (paddings : List (Int × Int)) :
    Attempt Layer := do
  let images ← Images.ofShape .spaceToBatch shape
  let batch := if images.batch = unknown then unknown else images.batch * (block.1 * block.2)
  match ← foldedExtents [images.height, images.width] [block.1, block.2] paddings with
  | [height, width] =>
    return unary (.spaceToBatch block paddings) shape [batch, images.channels, height, width]
  | _ => .fault .indexRange

/-- The shape of the first output. -/
def outputShape (layer : Layer) : Shape :=
  match layer.outputs with
  | port :: _ => port.shape
  | [] => []

/-- A layer by its kind and output shapes. -/
def text (layer : Layer) : String :=
  layer.kind.name ++ "(" ++ join ", " (layer.outputs.map fun port => port.shape.text) ++ ")"

/-- The text of a layer, if its integers can be shown. -/
def shown (layer : Layer) : Attempt String :=
  if showsNumerals layer.text then .ok layer.text else .fault .shownInteger

end Layer

/-- The value of a layer parameter. -/
inductive ParamValue where
  | text (value : String)
  | int (value : Int)
  | float (value : Binary64)
  | ints (values : List Int)
  | pairs (values : List (Int × Int))
  deriving DecidableEq, Repr

def ParamValue.shown : ParamValue → String
  | .text value => quoted value
  | .int value => toString value
  | .float value => value.text
  | .ints values => integers values
  | .pairs values => "[" ++ join ", " (values.map fun (a, b) => integers [a, b]) ++ "]"

namespace LayerBody

/-- The parameters of a convolution. -/
def convolutionParams (c : Convolution) : List (String × ParamValue) :=
  [("padding", .text c.padding.name), ("strides", .ints [c.strides.1, c.strides.2]),
    ("kernel", .ints [c.kernel.1, c.kernel.2])]

/-- The parameters of a layer, tensors apart. -/
def params : LayerBody → List (String × ParamValue)
  | .input | .output | .relu => []
  | .constant value => [("dtype", .text value.element.name)]
  | .conv2d c | .depthwiseConv2d c => convolutionParams c
  | .add axis | .softmax axis => [("axis", .int axis)]
  | .batchNormalization _ epsilon => [("epsilon", .float epsilon)]
  | .averagePool2d padding kernel strides =>
    [("padding", .text padding.name), ("kernel", .ints [kernel.1, kernel.2]),
      ("strides", .ints [strides.1, strides.2])]
  | .reshape target => [("shape", .ints target)]
  | .spaceToBatch block paddings =>
    [("block_shape", .ints [block.1, block.2]), ("paddings", .pairs paddings)]

/-- The parameters as one text. -/
def paramsText (body : LayerBody) : String :=
  "\x7b" ++ join ", " (body.params.map fun (name, value) => quoted name ++ ": " ++ value.shown)
    ++ "\x7d"

/-- The tensors of a layer by name; an absent one is named too. -/
def tensors : LayerBody → List (String × Option Tensor)
  | .constant value => [("value", some value)]
  | .conv2d c | .depthwiseConv2d c => [("weights", some c.weights), ("bias", c.bias)]
  | .batchNormalization s _ =>
    [("scale", some s.scale), ("offset", some s.offset), ("mean", some s.mean),
      ("variance", some s.variance)]
  | _ => []

end LayerBody

end LayerGraph
