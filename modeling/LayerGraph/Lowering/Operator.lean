import LayerGraph.Lowering.Context
import LayerGraph.Lowering.Fragment
import LayerGraph.Tensor.View
import LayerGraph.Validation.Coercion

/-! The lowering of each supported operator.

Attributes are read first, then arguments, then shapes and tensors, so that an operator with
several faults fails for the first of them. A failure names the operator.
-/

set_option autoImplicit false

namespace LayerGraph

open Number Text

/-- The supported operators. -/
inductive OperatorKind where
  | feed
  | fetch
  | conv2d
  | elementwiseAdd
  | batchNorm
  | relu
  | pool2d
  | reshape
  | softmax
  deriving DecidableEq, Repr

namespace OperatorKind

def all : List OperatorKind :=
  [.feed, .fetch, .conv2d, .elementwiseAdd, .batchNorm, .relu, .pool2d, .reshape, .softmax]

def tag : OperatorKind → String
  | .feed => "feed"
  | .fetch => "fetch"
  | .conv2d => "conv2d"
  | .elementwiseAdd => "elementwise_add"
  | .batchNorm => "batch_norm"
  | .relu => "relu"
  | .pool2d => "pool2d"
  | .reshape => "reshape"
  | .softmax => "softmax"

def ofTag? (tag : String) : Option OperatorKind := all.find? fun kind => kind.tag = tag

/-- The kind that a tag names. -/
def ofTag (tag : String) : Attempt OperatorKind :=
  match ofTag? tag with
  | some kind => .ok kind
  | none => .fail (.lowering (.operator tag)) (some tag)

theorem ofTag?_tag (kind : OperatorKind) : ofTag? kind.tag = some kind := by cases kind <;> decide

end OperatorKind

namespace Operator

/-- Refuse an operator for what its attributes or shapes ask. -/
def unsupported {α : Type} (op : Operator) (defect : LoweringDefect)
    (subject : Option String := none) : Attempt α :=
  .fail (.lowering defect) (some op.tag) subject

/-- A required attribute of two integers. -/
def integerPair (op : Operator) (name : String) : Attempt (Int × Int) := do
  let value ← op.requiredAttribute name
  match value.toJson with
  | .arr [first, second] => return (← first.toInteger, ← second.toInteger)
  | _ => op.unsupported (.integerPair name value)

/-- An optional axis; the last one unless it is given. -/
def axis (op : Operator) : Attempt Int :=
  match op.attribute? "axis" with
  | some value => value.toJson.toInteger
  | none => .ok (-1)

/-- The same amount on both sides: none of it, or one. -/
def symmetricPadding (op : Operator) (paddings : Int × Int) : Attempt Padding :=
  if paddings = (0, 0) then .ok .valid
  else if paddings = (1, 1) then .ok .same
  else op.unsupported (.paddings paddings.1 paddings.2)

/-- A zero stride counts as one. -/
def unitStride (stride : Int) : Int := if stride = 0 then 1 else stride

/-- Windows of three by three at stride two with one row and column of padding. -/
def isStridedSame (paddings strides kernel : Int × Int) : Bool :=
  paddings = (1, 1) && strides = (2, 2) && kernel = (3, 3)

def lowerFeed (op : Operator) (context : Context) : Attempt Fragment := do
  let name ← op.output "Out"
  return .feed (← context.shape name) name

def lowerFetch (op : Operator) (context : Context) : Attempt Fragment := do
  let name ← op.input "X"
  return .fetch (← context.shape name) name

/-- The extents of a filter: filters, depth, height and width. -/
def filterExtents (op : Operator) (context : Context) (name : String) :
    Attempt (Int × Int × Int × Int) := do
  match ← context.shape name with
  | [filters, depth, height, width] => return (filters, depth, height, width)
  | shape => op.unsupported (.filterRank shape) (some name)

/-- Whether a convolution is depthwise: one group makes a standard one, a group per filter a
depthwise one. -/
def isDepthwise (op : Operator) (groups filters : Int) (name : String) : Attempt Bool :=
  if groups = 1 then .ok false
  else if groups = filters then .ok true
  else op.unsupported (.groups groups filters) (some name)

/-- The convolution layer over an input shape; depthwise weights have their leading axes exchanged. -/
def convolve (depthwise : Bool) (shape : Shape) (weights : Tensor) (padding : Padding)
    (strides : Int × Int) : Attempt Layer :=
  if depthwise then Layer.depthwiseConv2d shape weights.swapLeadingAxes none padding strides
  else Layer.conv2d shape weights none padding strides

/-- A strided convolution that keeps its borders is padded by a layer of its own, which folds
nothing, and then needs no padding. -/
def lowerConv2d (op : Operator) (context : Context) : Attempt Fragment := do
  let paddings ← op.integerPair "paddings"
  let (down, across) ← op.integerPair "strides"
  let strides := (unitStride down, unitStride across)
  let groups ← (← op.requiredAttribute "groups").toJson.toInteger
  let source ← op.input "Input"
  let filter ← op.input "Filter"
  let output ← op.output "Output"
  let (filters, _, height, width) ← op.filterExtents context filter
  let depthwise ← op.isDepthwise groups filters filter
  if isStridedSame paddings strides (height, width) then
    -- The padding is a layer of its own, so the convolution reads the padded shape.
    let weights ← context.load filter
    let space ← Layer.spaceToBatch (← context.shape source) (1, 1) [(1, 1), (1, 1)]
    let conv ← convolve depthwise space.outputShape weights .valid strides
    return .chain space conv source output
  else
    let padding ← op.symmetricPadding paddings
    let weights ← context.load filter
    let conv ← convolve depthwise (← context.shape source) weights padding strides
    return .ofLayer conv [source] output

def lowerAdd (op : Operator) (context : Context) : Attempt Fragment := do
  let x ← op.input "X"
  let y ← op.input "Y"
  let output ← op.output "Out"
  let axis ← op.axis
  let layer ← Layer.add (← context.shape x) (← context.shape y) axis
  return .ofLayer layer [x, y] output

/-- The four statistics are read at once; only the data input stays pending. -/
def lowerBatchNorm (op : Operator) (context : Context) : Attempt Fragment := do
  let epsilon ← (← op.requiredAttribute "epsilon").toJson.toReal
  let offset ← op.input "Bias"
  let mean ← op.input "Mean"
  let scale ← op.input "Scale"
  let variance ← op.input "Variance"
  let x ← op.input "X"
  let output ← op.output "Y"
  let shape ← context.shape x
  -- The payloads are read in the order in which the statistics are listed.
  let scale ← context.load scale
  let offset ← context.load offset
  let mean ← context.load mean
  let variance ← context.load variance
  let layer ← Layer.batchNormalization shape ⟨scale, offset, mean, variance⟩ epsilon
  return .ofLayer layer [x] output

def lowerRelu (op : Operator) (context : Context) : Attempt Fragment := do
  let x ← op.input "X"
  let output ← op.output "Out"
  return .ofLayer (Layer.relu (← context.shape x)) [x] output

/-- Whether any item is an integer other than zero; later items are not looked at. -/
def anyNonzero : List Json → Attempt Bool
  | [] => .ok false
  | item :: items => do
    if (← item.toInteger) ≠ 0 then return true else anyNonzero items

/-- The items of a value as messages list them. -/
def itemsText : AttrValue → String
  | .str text => (AttrValue.strs (text.toList.map Char.toString)).text
  | value => value.text

/-- The name that a value gives; a text is its own name. -/
def nameText : AttrValue → String
  | .str text => text
  | value => value.text

/-- Pooling paddings must be absent or zero. -/
def checkPoolingPaddings (op : Operator) : Attempt Unit :=
  match op.attribute? "paddings" with
  | none => .ok ()
  | some value => do
    if ← anyNonzero (← value.toJson.toItems) then
      op.unsupported (.poolingPaddings (itemsText value))
    else return ()

/-- The kernel and strides of a pooling; a global one covers the whole extent. -/
def poolingWindow (op : Operator) (x : String) (shape : Shape) :
    Attempt ((Int × Int) × (Int × Int)) := do
  if ((op.attribute? "global_pooling").map AttrValue.isTruthy).getD false then
    match shape with
    | [_, _, height, width] =>
      if min height width < 0 then op.unsupported (.poolingExtent shape) (some x)
      else return ((height, width), (1, 1))
    | shape => op.unsupported (.poolingExtent shape) (some x)
  else
    let kernel ← op.integerPair "ksize"
    let strides ← op.integerPair "strides"
    return (kernel, strides)

/-- Only average pooling without paddings has a lowering. -/
def lowerPool2d (op : Operator) (context : Context) : Attempt Fragment := do
  let name := nameText (← op.requiredAttribute "pooling_type")
  if name ≠ "avg" then op.unsupported (.poolingType name)
  else
    let x ← op.input "X"
    let output ← op.output "Out"
    let shape ← context.shape x
    op.checkPoolingPaddings
    let (kernel, strides) ← op.poolingWindow x shape
    let layer ← Layer.averagePool2d shape .valid kernel strides
    return .ofLayer layer [x] output

def lowerReshape (op : Operator) (context : Context) : Attempt Fragment := do
  let target ← op.requiredAttribute "shape"
  let x ← op.input "X"
  let output ← op.output "Out"
  let shape ← context.shape x
  let layer ← Layer.reshape shape (← target.toJson.toIntegers)
  return .ofLayer layer [x] output

def lowerSoftmax (op : Operator) (context : Context) : Attempt Fragment := do
  let x ← op.input "X"
  let output ← op.output "Out"
  let axis ← op.axis
  return .ofLayer (Layer.softmax (← context.shape x) axis) [x] output

/-- Lower an operator of a known kind. -/
def lowerAs (op : Operator) (kind : OperatorKind) (context : Context) : Attempt Fragment :=
  match kind with
  | .feed => op.lowerFeed context
  | .fetch => op.lowerFetch context
  | .conv2d => op.lowerConv2d context
  | .elementwiseAdd => op.lowerAdd context
  | .batchNorm => op.lowerBatchNorm context
  | .relu => op.lowerRelu context
  | .pool2d => op.lowerPool2d context
  | .reshape => op.lowerReshape context
  | .softmax => op.lowerSoftmax context

/-- Lower an operator; a conversion error names it. -/
def lower (op : Operator) (context : Context) : Attempt Fragment := do
  let kind ← OperatorKind.ofTag op.tag
  -- An operator that an error names already stays named.
  (op.lowerAs kind context).mapError (Failure.withOperator · op.tag)

end Operator

end LayerGraph
