import LayerGraph.Failure.Basic

/-! Ports of a node: an input takes one source, an output feeds any number of consumers.
-/

set_option autoImplicit false

namespace LayerGraph

open Text

structure InputPort where
  name : String
  shape : Shape
  source : Option PortRef := none
  deriving DecidableEq, Repr

/-- The consumers stand in the order in which they were attached. -/
structure OutputPort where
  name : String
  shape : Shape
  consumers : List PortRef := []
  deriving DecidableEq, Repr

/-- Extents in parentheses; a lone extent keeps its comma. -/
def Shape.tupleText : Shape → String
  | [extent] => "(" ++ toString extent ++ ",)"
  | shape => "(" ++ join ", " (shape.map toString) ++ ")"

namespace InputPort

def isBound (port : InputPort) : Bool := port.source.isSome

/-- Set the source of a port that has none. -/
def bind (port : InputPort) (source : PortRef) : Attempt InputPort :=
  match port.source with
  | none => .ok { port with source := some source }
  | some present => .graph (.bound port.name present)

def text (port : InputPort) : String :=
  "InputPort(name=" ++ quoted port.name ++ ", shape=" ++ port.shape.tupleText ++ ", source="
    ++ (port.source.map PortRef.text).getD "None" ++ ")"

end InputPort

namespace OutputPort

/-- Attach a consumer after those present. -/
def attach (port : OutputPort) (consumer : PortRef) : OutputPort :=
  { port with consumers := port.consumers ++ [consumer] }

def text (port : OutputPort) : String :=
  "OutputPort(name=" ++ quoted port.name ++ ", shape=" ++ port.shape.tupleText ++ ", consumers=["
    ++ join ", " (port.consumers.map PortRef.text) ++ "])"

end OutputPort

end LayerGraph
