import LayerGraph.Layer.Kind
import LayerGraph.Shape

/-! Shapes and parameters that no layer can be built from.
-/

set_option autoImplicit false

namespace LayerGraph

open Text

inductive LayerDefect where
  | rank (kind : LayerKind) (expected : Nat) (shape : Shape)
  | rankAtLeast (kind : LayerKind) (least : Nat) (shape : Shape)
  | weightsRank (kind : LayerKind) (shape : Shape)
  | inputChannels (kind : LayerKind) (expected found : Int)
  | coverChannels (kind : LayerKind) (filters channels : Int)
  | window (kernel stride extent : Int)
  | alignment (b a : Shape) (axis : Int)
  | broadcast (a b : Shape)
  | statisticsDiffer (kind : LayerKind) (sizes : List Nat)
  | statisticsCount (kind : LayerKind) (size : Nat) (channels : Int)
  | copiedExtent (position : Nat) (input : Shape)
  | targetExtent (extent : Int)
  | severalUnknown (target : Shape)
  | elementCount (input target : Shape)
  | block (padded size : Int)
  deriving DecidableEq, Repr

def LayerDefect.message : LayerDefect → String
  | .rank kind expected shape =>
    kind.name ++ " expects a rank-" ++ toString expected ++ " input, got shape " ++ shape.text
  | .rankAtLeast kind least shape =>
    kind.name ++ " expects an input of rank " ++ toString least ++ " or more, got shape " ++ shape.text
  | .weightsRank kind shape => kind.name ++ " weights must be rank 4, got " ++ shape.text
  | .inputChannels kind expected found =>
    kind.name ++ " weights expect " ++ toString expected ++ " input channels, input has "
      ++ toString found
  | .coverChannels kind filters channels =>
    kind.name ++ " with " ++ toString filters ++ " filters cannot cover " ++ toString channels
      ++ " channels"
  | .window kernel stride extent =>
    "Window " ++ toString kernel ++ " with stride " ++ toString stride
      ++ " does not fit input extent " ++ toString extent
  | .alignment b a axis =>
    "Cannot align shape " ++ b.text ++ " to " ++ a.text ++ " at axis " ++ toString axis
  | .broadcast a b => "Shapes " ++ a.text ++ " and " ++ b.text ++ " are not broadcastable"
  | .statisticsDiffer kind sizes =>
    kind.name ++ " statistics differ in size: " ++ integers (sizes.map Int.ofNat)
  | .statisticsCount kind size channels =>
    kind.name ++ " has " ++ toString size ++ " statistics for " ++ toString channels
      ++ " input channels"
  | .copiedExtent position input =>
    "Reshape copies dim " ++ toString position ++ " but input " ++ input.text ++ " has rank "
      ++ toString input.length
  | .targetExtent extent => "Invalid reshape dimension " ++ toString extent
  | .severalUnknown target =>
    "Reshape target " ++ target.text ++ " has more than one unknown dimension"
  | .elementCount input target => "Cannot reshape " ++ input.text ++ " into " ++ target.text
  | .block padded size =>
    "Padded extent " ++ toString padded ++ " is not divisible by block " ++ toString size

end LayerGraph
