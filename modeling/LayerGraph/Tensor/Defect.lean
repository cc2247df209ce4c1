import LayerGraph.Files.Tree
import LayerGraph.Shape
import LayerGraph.Tensor.ElementType
import LayerGraph.Failure.Class

/-! What can be wrong with a tensor payload.
-/

set_option autoImplicit false

namespace LayerGraph

/-- A part of a payload, in the order of the layout. -/
inductive PayloadPart where
  | version
  | entryCount
  | entryLength (index : Nat)
  | entryData (index : Nat)
  | tensorVersion
  | descriptorSize
  | descriptor
  deriving DecidableEq, Repr

def PayloadPart.text : PayloadPart → String
  | .version => "version"
  | .entryCount => "lod level"
  | .entryLength index => "lod[" ++ toString index ++ "] length"
  | .entryData index => "lod[" ++ toString index ++ "] data"
  | .tensorVersion => "tensor version"
  | .descriptorSize => "tensor desc size"
  | .descriptor => "tensor desc"

inductive PayloadDefect where
  | truncated (part : PayloadPart) (need offset left : Nat)
  | negativeLength (part : PayloadPart) (length : Int)
  | version (found : Nat) (expected : Int)
  | partialElement (size : Nat) (element : ElementType)
  | elementCount (count : Nat) (shape : Shape)
  | severalUnknown (shape : Shape)
  | unknownExtent (count : Nat) (known : Int) (shape : Shape)
  | absent (path : Path)
  | unreadable (path : Path) (defect : FileDefect)
  deriving DecidableEq, Repr

namespace PayloadDefect

def errorClass : PayloadDefect → ErrorClass
  | .truncated .. => .truncatedPayload
  | .negativeLength .. | .version .. | .absent .. | .unreadable .. => .tensorFormat
  | .partialElement .. | .elementCount .. | .severalUnknown .. | .unknownExtent .. => .shapeMismatch

def message : PayloadDefect → String
  | .truncated part need offset left =>
    "Payload truncated reading " ++ part.text ++ ": need " ++ toString need ++ " bytes at offset "
      ++ toString offset ++ ", have " ++ toString left
  | .negativeLength part length => "Negative length " ++ toString length ++ " for " ++ part.text
  | .version found expected =>
    "Unsupported tensor version " ++ toString found ++ ", expected " ++ toString expected
  | .partialElement size element =>
    "Payload body of " ++ toString size ++ " bytes is not a multiple of " ++ element.name
      ++ " width " ++ toString element.size
  | .elementCount count shape =>
    "Payload holds " ++ toString count ++ " elements but shape " ++ shape.text ++ " needs "
      ++ toString shape.count
  | .severalUnknown shape => "Shape " ++ shape.text ++ " has more than one unknown dimension"
  | .unknownExtent count known shape =>
    "Payload holds " ++ toString count ++ " elements, not a multiple of " ++ toString known
      ++ " for shape " ++ shape.text
  | .absent path => "Payload file not found: " ++ path.text
  | .unreadable path defect => "Cannot read payload file " ++ path.text ++ ": " ++ defect.text path

/-- The integers of a message that no number of bytes bounds. -/
def integers : PayloadDefect → List Int
  | .truncated .. | .negativeLength .. | .partialElement .. | .absent _ | .unreadable .. => []
  | .version _ expected => [expected]
  | .elementCount _ shape => shape.count :: shape
  | .severalUnknown shape => shape
  | .unknownExtent _ known shape => known :: shape

/-- Whether the integers of the message are short enough to be shown. -/
def isShown (defect : PayloadDefect) : Bool := defect.integers.all Text.showsInteger

end PayloadDefect

end LayerGraph
