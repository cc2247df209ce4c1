/-! The closed set of layer kinds and of the modes that windowed layers pad by.
-/

set_option autoImplicit false

namespace LayerGraph

inductive LayerKind where
  | input
  | output
  | constant
  | conv2d
  | depthwiseConv2d
  | add
  | batchNormalization
  | relu
  | averagePool2d
  | reshape
  | softmax
  | spaceToBatch
  deriving DecidableEq, Repr

def LayerKind.name : LayerKind → String
  | .input => "Input"
  | .output => "Output"
  | .constant => "Constant"
  | .conv2d => "Conv2d"
  | .depthwiseConv2d => "DepthwiseConv2d"
  | .add => "Add"
  | .batchNormalization => "BatchNormalization"
  | .relu => "Relu"
  | .averagePool2d => "AveragePool2d"
  | .reshape => "Reshape"
  | .softmax => "Softmax"
  | .spaceToBatch => "SpaceToBatch"

/-- How a window meets the border of its input. -/
inductive Padding where
  | valid
  | same
  deriving DecidableEq, Repr

def Padding.name : Padding → String
  | .valid => "valid"
  | .same => "same"

def Padding.ofName? : String → Option Padding
  | "valid" => some .valid
  | "same" => some .same
  | _ => none

theorem Padding.ofName?_name (padding : Padding) : ofName? padding.name = some padding := by
  cases padding <;> rfl

end LayerGraph
