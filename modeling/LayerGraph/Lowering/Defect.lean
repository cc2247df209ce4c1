import LayerGraph.Failure.Class
import LayerGraph.Program.Attribute
import LayerGraph.Shape

/-! Operators that have no lowering.
-/

set_option autoImplicit false

namespace LayerGraph

open Text

inductive LoweringDefect where
  | operator (tag : String)
  | integerPair (name : String) (value : AttrValue)
  | paddings (first second : Int)
  | filterRank (shape : Shape)
  | groups (found filters : Int)
  | poolingType (name : String)
  | poolingPaddings (items : String)
  | poolingExtent (shape : Shape)
  deriving DecidableEq, Repr

namespace LoweringDefect

def errorClass : LoweringDefect → ErrorClass
  | .operator _ => .unsupportedOperation
  | _ => .unsupportedConfiguration

def message : LoweringDefect → String
  | .operator tag => "Unsupported operator '" ++ tag ++ "'"
  | .integerPair name value =>
    "Attribute '" ++ name ++ "' must hold two integers, got " ++ value.text
  | .paddings first second => "Unsupported paddings " ++ integers [first, second]
  | .filterRank shape => "Filter must be rank 4, got shape " ++ shape.text
  | .groups found filters =>
    "Unsupported groups=" ++ toString found ++ " for " ++ toString filters ++ " filters"
  | .poolingType name => "Unsupported pooling_type '" ++ name ++ "'"
  | .poolingPaddings items => "Unsupported pooling paddings " ++ items
  | .poolingExtent shape => "Global pooling needs known spatial dims, got " ++ shape.text

end LoweringDefect

end LayerGraph
