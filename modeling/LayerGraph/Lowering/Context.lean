import LayerGraph.Program.Descriptor
import LayerGraph.Tensor.Store

/-! What the lowering of an operator may look at: declarations and stored tensors.
-/

set_option autoImplicit false

namespace LayerGraph

structure Context where
  block : Block
  tensors : PayloadStore
  defaultType : String := "float32"

namespace Context

def shape (context : Context) (name : String) : Attempt Shape := context.block.shape name

/-- The declared element type; an empty one stands for the default. -/
def elementType (context : Context) (name : String) : Attempt String := do
  let declared ← context.block.declaration name
  return if declared.dtype.isEmpty then context.defaultType else declared.dtype

/-- A variable's tensor in its declared shape and type. -/
def load (context : Context) (name : String) : Attempt Tensor := do
  context.tensors.load name (← context.shape name) (← context.elementType name)

/-- A variable's tensor, or zeros when none is stored. -/
def loadOrZeros (context : Context) (name : String) : Attempt Tensor := do
  context.tensors.loadOrZeros name (← context.shape name) (← context.elementType name)

end Context

end LayerGraph
