import LayerGraph.Failure.Class
import LayerGraph.Files.Path
import LayerGraph.Validation.Issue

/-! Programs that lack something: a file, a block, a variable, an attribute or an argument.
-/

set_option autoImplicit false

namespace LayerGraph

/-- The side of an operator that an argument is on. -/
inductive Direction where
  | input
  | output
  deriving DecidableEq, Repr

def Direction.name : Direction → String
  | .input => "input"
  | .output => "output"

inductive ProgramDefect where
  | absent (path : Path)
  | invalid (path : Path) (issues : List Issue)
  | block (count : Nat) (index : String)
  | unknownVariable (name : String) (scope : Int)
  | missingAttribute (name : String)
  | missingArgument (direction : Direction) (role : String)
  deriving DecidableEq, Repr

namespace ProgramDefect

def errorClass : ProgramDefect → ErrorClass
  | .absent _ => .programNotFound
  | .invalid .. | .block .. => .descriptorFormat
  | .unknownVariable .. => .unknownVariable
  | .missingAttribute _ => .missingAttribute
  | .missingArgument .. => .missingArgument

private def countText (count : Nat) : String :=
  toString count ++ (if count = 1 then " validation error" else " validation errors")

def message : ProgramDefect → String
  | .absent path => "Program descriptor not found: " ++ path.text
  | .invalid path issues =>
    "Invalid program descriptor " ++ path.text ++ ": " ++ "\n".intercalate
      ((countText issues.length ++ " for ProgramDescriptor") :: issues.flatMap Issue.report)
  | .block count index =>
    "Program has " ++ toString count ++ " block(s); block " ++ index ++ " requested"
  | .unknownVariable name scope =>
    "Variable '" ++ name ++ "' is not declared in block " ++ toString scope
  | .missingAttribute name => "Operator lacks attribute '" ++ name ++ "'"
  | .missingArgument direction role =>
    "Operator lacks " ++ direction.name ++ " role '" ++ role ++ "'"

end ProgramDefect

end LayerGraph
