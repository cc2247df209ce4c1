import LayerGraph.Files.Tree
import LayerGraph.Markup.Basic
import LayerGraph.Tensor.Spelling
import LayerGraph.Text.ByteSize

/-! Faults: values that an operation cannot work on at all, apart from conversion errors.
-/

set_option autoImplicit false

namespace LayerGraph

open Text

/-- The family of a fault. -/
inductive FaultKind where
  | division
  | overflow
  | index
  | key
  | type
  | value
  | member
  | encoding
  | system
  | assertion
  | markup
  | packing
  | memory
  /-- A text that should be an expression and is none. -/
  | written
  deriving DecidableEq, Repr

/-- The name of a value's type, as faults mention it. -/
inductive ValueType where
  | nothing
  | bool
  | int
  | float
  | text
  | list
  | mapping
  | date
  | time
  | dateTime
  deriving DecidableEq, Repr

def ValueType.name : ValueType → String
  | .nothing => "NoneType"
  | .bool => "bool"
  | .int => "int"
  | .float => "float"
  | .text => "str"
  | .list => "list"
  | .mapping => "dict"
  | .date => "datetime.date"
  | .time => "datetime.time"
  | .dateTime => "datetime.datetime"

inductive Fault where
  | quotientByZero
  | floorByZero
  | remainderByZero
  | quotientSize
  | floatSize
  | infiniteInteger
  | notANumberInteger
  | indexRange
  | indexSize
  | textRange
  | noKey (position : Nat)
  | integerText (text : String)
  | integerDigits (count : Nat)
  /-- An integer of too many digits to be shown. -/
  | shownInteger
  | floatText (text : String)
  | integerFrom (type : ValueType)
  | floatFrom (type : ValueType)
  | notInteger (type : ValueType)
  | notPath (type : ValueType)
  | notIterable (type : ValueType)
  | notOrdered (type : ValueType)
  | notBounded (type : ValueType)
  | notContainer (type : ValueType)
  | notIndexed (type : ValueType)
  | notUnpacked (type : ValueType)
  | notKind (type : ValueType)
  | notFields (type : ValueType)
  | textIndex
  | listIndex (type : ValueType)
  | notPair (length : Nat)
  | padding (shown : String)
  | elementType (defect : SpellingDefect)
  | reorderedText
  | referenceBuffer
  | rankLimit (rank : Nat)
  | extentLimit
  | arraySize
  /-- Elements that no memory holds, with the name of their type. -/
  | allocation (bytes : Nat) (extents : List Nat) (element : String)
  | reshape (count : Nat) (extents : List Int)
  | severalUnknown
  | negativeExtent
  | countLimit
  | partialBuffer
  /-- An integer that an element type, given by name, does not hold. -/
  | integerBounds (value : Int) (element : String)
  | packedRange
  | packedWidth (letter : Char) (low high : Int)
  | noMember (owner member : String)
  /-- A member that nothing can be assigned to. -/
  | fixedMember (owner member : String)
  /-- A member that is computed whenever it is looked up. -/
  | computedMember (owner member : String)
  | unexpectedArgument (operation name : String)
  | repeatedArgument (operation name : String)
  | missingArgument (operation name : String)
  | notText (defect : Utf8Defect)
  | file (defect : FileDefect) (path : Path)
  | markup (defect : Markup.Defect)
  | logLevel (shown : String)
  | unconfigured
  | notRecording
  deriving DecidableEq, Repr

namespace Fault

def kind : Fault → FaultKind
  | .quotientByZero | .floorByZero | .remainderByZero => .division
  | .quotientSize | .floatSize | .infiniteInteger | .integerBounds .. => .overflow
  | .indexRange | .indexSize | .textRange => .index
  | .noKey _ => .key
  | .integerFrom _ | .floatFrom _ | .notInteger _ | .notPath _ | .notIterable _ | .notOrdered _
  | .notBounded _ | .notContainer _ | .notIndexed _ | .notUnpacked _ | .notKind _ | .notFields _ | .textIndex
  | .listIndex _ | .reorderedText | .unexpectedArgument .. | .repeatedArgument .. | .missingArgument .. => .type
  | .notANumberInteger | .integerText _ | .integerDigits _ | .shownInteger | .floatText _
  | .notPair _ | .padding _ | .referenceBuffer | .rankLimit _ | .extentLimit | .arraySize
  | .reshape .. | .severalUnknown | .negativeExtent | .countLimit | .partialBuffer | .logLevel _
  | .unconfigured => .value
  | .packedRange | .packedWidth .. => .packing
  | .noMember .. | .fixedMember .. | .computedMember .. => .member
  | .notText _ => .encoding
  | .file .nullByte _ => .value
  | .file .. => .system
  | .markup (.colour _) => .value
  | .elementType defect =>
    match defect.kind with
    | .type => .type
    | .value => .value
    | .written => .written
  | .markup _ => .markup
  | .notRecording => .assertion
  | .allocation .. => .memory

def message : Fault → String
  | .quotientByZero => "division by zero"
  | .floorByZero => "integer division or modulo by zero"
  | .remainderByZero => "integer modulo by zero"
  | .quotientSize => "integer division result too large for a float"
  | .floatSize => "int too large to convert to float"
  | .infiniteInteger => "cannot convert float infinity to integer"
  | .notANumberInteger => "cannot convert float NaN to integer"
  | .indexRange => "list index out of range"
  | .indexSize => "cannot fit 'int' into an index-sized integer"
  | .textRange => "string index out of range"
  | .noKey position => toString position
  -- Only the start of a long text is shown.
  | .integerText text =>
    "invalid literal for int() with base 10: " ++ String.ofList ((quoted text).toList.take 200)
  | .integerDigits count =>
    "Exceeds the limit (4300 digits) for integer string conversion: value has " ++ toString count
      ++ " digits; use sys.set_int_max_str_digits() to increase the limit"
  | .shownInteger =>
    "Exceeds the limit (4300 digits) for integer string conversion; use sys.set_int_max_str_digits() "
      ++ "to increase the limit"
  | .floatText text => "could not convert string to float: " ++ quoted text
  | .integerFrom type =>
    "int() argument must be a string, a bytes-like object or a real number, not '" ++ type.name ++ "'"
  | .floatFrom type =>
    "float() argument must be a string or a real number, not '" ++ type.name ++ "'"
  | .notInteger type => "'" ++ type.name ++ "' object cannot be interpreted as an integer"
  | .notPath type => "expected str, bytes or os.PathLike object, not " ++ type.name
  | .notIterable type => "'" ++ type.name ++ "' object is not iterable"
  | .notOrdered type =>
    "'<' not supported between instances of '" ++ type.name ++ "' and 'int'"
  | .notBounded type =>
    "'<=' not supported between instances of 'int' and '" ++ type.name ++ "'"
  | .notContainer type => "argument of type '" ++ type.name ++ "' is not iterable"
  | .notIndexed type => "'" ++ type.name ++ "' object is not subscriptable"
  | .notUnpacked type => "cannot unpack non-iterable " ++ type.name ++ " object"
  | .notKind type => "__class__ must be set to a class, not '" ++ type.name ++ "' object"
  | .notFields type => "__dict__ must be set to a dictionary, not a '" ++ type.name ++ "'"
  | .textIndex => "string indices must be integers, not 'str'"
  | .listIndex type => "list indices must be integers or slices, not " ++ type.name
  | .notPair length =>
    if 2 < length then "too many values to unpack (expected 2)"
    else "not enough values to unpack (expected 2, got " ++ toString length ++ ")"
  | .padding shown => shown ++ " is not a valid Padding"
  | .elementType defect => defect.message
  | .reorderedText => "Cannot use DescrNewByteOrder for this new style DTypes."
  | .referenceBuffer => "cannot create an OBJECT array from memory buffer"
  | .rankLimit rank =>
    "maximum supported dimension for an ndarray is currently 64, found " ++ toString rank
  | .extentLimit => "Maximum allowed dimension exceeded"
  | .arraySize =>
    "array is too big; `arr.size * arr.dtype.itemsize` is larger than the maximum possible size."
  | .reshape count extents =>
    let comma := if extents.length = 1 ∧ (extents.dropWhile (· < 0)).length = 1 then "," else ""
    "cannot reshape array of size " ++ toString count ++ " into shape ("
      ++ join "," ((extents.dropWhile (· < 0)).map fun extent =>
        if extent < 0 then "newaxis" else toString extent) ++ comma ++ ")"
  | .allocation bytes extents element =>
    let comma := if extents.length = 1 then "," else ""
    "Unable to allocate " ++ byteSize bytes ++ " for an array with shape ("
      ++ join ", " (extents.map toString) ++ comma ++ ") and data type " ++ element
  | .severalUnknown => "can only specify one unknown dimension"
  | .negativeExtent => "negative dimensions are not allowed"
  | .countLimit => "Maximum allowed size exceeded"
  | .partialBuffer => "buffer size must be a multiple of element size"
  | .integerBounds value element =>
    "Python integer " ++ toString value ++ " out of bounds for " ++ element
  | .packedRange => "argument out of range"
  | .packedWidth letter low high =>
    "'" ++ letter.toString ++ "' format requires " ++ toString low ++ " <= number <= "
      ++ toString high
  | .noMember owner member => "'" ++ owner ++ "' object has no attribute '" ++ member ++ "'"
  | .fixedMember owner member =>
    "attribute '" ++ member ++ "' of '" ++ owner ++ "' objects is not writable"
  | .computedMember owner member =>
    "property '" ++ member ++ "' of '" ++ owner ++ "' object has no setter"
  | .unexpectedArgument operation name =>
    operation ++ "() got an unexpected keyword argument '" ++ name ++ "'"
  | .repeatedArgument operation name =>
    operation ++ "() got multiple values for argument '" ++ name ++ "'"
  | .missingArgument operation name =>
    operation ++ "() missing 1 required positional argument: '" ++ name ++ "'"
  | .notText defect => defect.message
  | .file defect path => defect.text path
  | .markup defect => defect.message
  | .logLevel shown => "Unknown log level: " ++ shown
  | .unconfigured => "ConversionEngine needs a config or a model_dir"
  | .notRecording => "To export console contents set record=True in the constructor or instance"

end Fault

end LayerGraph
