/-! The classes of conversion errors and the kinds that callers branch on.

A class refines its parent; the most general class has none.
-/

set_option autoImplicit false

namespace LayerGraph

/-- The category of a failed conversion. -/
inductive ErrorKind where
  | unsupportedOperation
  | unsupportedConfiguration
  | format
  | descriptor
  | graph
  deriving DecidableEq, Repr

def ErrorKind.text : ErrorKind → String
  | .unsupportedOperation => "unsupported_operation"
  | .unsupportedConfiguration => "unsupported_configuration"
  | .format => "format"
  | .descriptor => "descriptor"
  | .graph => "graph"

inductive ErrorClass where
  | conversion
  | unsupportedOperation
  | unsupportedConfiguration
  | tensorFormat
  | truncatedPayload
  | shapeMismatch
  | descriptor
  | unknownVariable
  | missingAttribute
  | missingArgument
  | programNotFound
  | descriptorFormat
  | portConnection
  deriving DecidableEq, Repr

namespace ErrorClass

def all : List ErrorClass :=
  [.conversion, .unsupportedOperation, .unsupportedConfiguration, .tensorFormat, .truncatedPayload,
    .shapeMismatch, .descriptor, .unknownVariable, .missingAttribute, .missingArgument,
    .programNotFound, .descriptorFormat, .portConnection]

def name : ErrorClass → String
  | .conversion => "ConversionError"
  | .unsupportedOperation => "UnsupportedOperationError"
  | .unsupportedConfiguration => "UnsupportedConfigurationError"
  | .tensorFormat => "TensorFormatError"
  | .truncatedPayload => "TruncatedPayloadError"
  | .shapeMismatch => "ShapeMismatchError"
  | .descriptor => "DescriptorError"
  | .unknownVariable => "UnknownVariableError"
  | .missingAttribute => "MissingAttributeError"
  | .missingArgument => "MissingArgumentError"
  | .programNotFound => "ProgramNotFoundError"
  | .descriptorFormat => "DescriptorFormatError"
  | .portConnection => "PortConnectionError"

def ofName? (name : String) : Option ErrorClass := all.find? fun c => c.name = name

def parent? : ErrorClass → Option ErrorClass
  | .conversion => none
  | .truncatedPayload | .shapeMismatch => some .tensorFormat
  | .unknownVariable | .missingAttribute | .missingArgument | .programNotFound
  | .descriptorFormat => some .descriptor
  | .unsupportedOperation | .unsupportedConfiguration | .tensorFormat | .descriptor
  | .portConnection => some .conversion

def kind : ErrorClass → ErrorKind
  | .unsupportedOperation => .unsupportedOperation
  | .unsupportedConfiguration => .unsupportedConfiguration
  | .tensorFormat | .truncatedPayload | .shapeMismatch => .format
  | .descriptor | .unknownVariable | .missingAttribute | .missingArgument | .programNotFound
  | .descriptorFormat => .descriptor
  | .conversion | .portConnection => .graph

/-- A class followed by those it refines, up to the most general one. -/
def ancestry (c : ErrorClass) : List ErrorClass :=
  match c.parent? with
  | none => [c]
  | some parent =>
    match parent.parent? with
    | none => [c, parent]
    | some root => [c, parent, root]

theorem mem_all (c : ErrorClass) : c ∈ all := by cases c <;> decide

theorem ofName?_name (c : ErrorClass) : ofName? c.name = some c := by cases c <;> decide

/-- Every class refines the most general one. -/
theorem conversion_mem_ancestry (c : ErrorClass) : .conversion ∈ c.ancestry := by cases c <;> decide

end ErrorClass

end LayerGraph
