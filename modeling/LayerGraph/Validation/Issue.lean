import LayerGraph.Json.Reader

/-! Issues found while a loose value is read as a record: where, and which rule was broken.

Checks go on after an issue and report all of them in order.
-/

set_option autoImplicit false

namespace LayerGraph

/-- One step into a value. -/
inductive Step where
  | key (name : String)
  | index (position : Nat)
  deriving DecidableEq, Repr

/-- The rule that a value broke. -/
inductive Rule where
  /-- A text that is no document. -/
  | document (defect : Json.ReadDefect)
  | missing
  | model
  | text
  | integer
  | integerText
  | integerSize
  | wholeNumber
  | finite
  | truth
  | truthText
  | tuple
  | list
  | mapping
  | number
  | numberText
  | nonnegative
  | path
  | frozen
  | elementType (value : String)
  | logLevel (value : String)
  /-- A value that is refused with words of its own. -/
  | refused (message : String)
  deriving DecidableEq, Repr

/-- The code of a rule. -/
def Rule.code : Rule → String
  | .document _ => "json_invalid"
  | .missing => "missing"
  | .model => "model_type"
  | .text => "string_type"
  | .integer => "int_type"
  | .integerText => "int_parsing"
  | .integerSize => "int_parsing_size"
  | .wholeNumber => "int_from_float"
  | .finite => "finite_number"
  | .truth => "bool_type"
  | .truthText => "bool_parsing"
  | .tuple => "tuple_type"
  | .list => "list_type"
  | .mapping => "dict_type"
  | .number => "float_type"
  | .numberText => "float_parsing"
  | .nonnegative => "greater_than_equal"
  | .path => "path_type"
  | .frozen => "frozen_instance"
  | .elementType _ | .logLevel _ | .refused _ => "value_error"

/-- What a rule asks for. -/
def Rule.message : Rule → String
  | .document defect => "Invalid JSON: " ++ defect.message
  | .missing => "Field required"
  | .model => "Input should be an object"
  | .text => "Input should be a valid string"
  | .integer => "Input should be a valid integer"
  | .integerText => "Input should be a valid integer, unable to parse string as an integer"
  | .integerSize => "Unable to parse input string as an integer, exceeded maximum size"
  | .wholeNumber => "Input should be a valid integer, got a number with a fractional part"
  | .finite => "Input should be a finite number"
  | .truth => "Input should be a valid boolean"
  | .truthText => "Input should be a valid boolean, unable to interpret input"
  | .tuple => "Input should be a valid tuple"
  | .list => "Input should be a valid list"
  | .mapping => "Input should be a valid dictionary"
  | .number => "Input should be a valid number"
  | .numberText => "Input should be a valid number, unable to parse string as a number"
  | .nonnegative => "Input should be greater than or equal to 0"
  | .path => "Input is not a valid path for <class 'pathlib.Path'>"
  | .frozen => "Instance is frozen"
  | .elementType value => "Value error, Unknown dtype: '" ++ value ++ "'"
  | .logLevel value => "Value error, Unknown log level: '" ++ value ++ "'"
  | .refused message => "Value error, " ++ message

/-- A step in a report; a key that holds a point is set apart. -/
def Step.text : Step → String
  | .key name => if name.toList.contains '.' then "`" ++ name ++ "`" else name
  | .index position => toString position

structure Issue where
  location : List Step
  rule : Rule
  deriving DecidableEq, Repr

/-- Put an issue under a step. -/
def Issue.under (step : Step) (issue : Issue) : Issue := ⟨step :: issue.location, issue.rule⟩

/-- The lines that report an issue: its place, unless that is the whole value, and its rule. -/
def Issue.report (issue : Issue) : List String :=
  let place := ".".intercalate (issue.location.map Step.text)
  (if issue.location.isEmpty then [] else [place])
    ++ ["  " ++ issue.rule.message ++ " [type=" ++ issue.rule.code ++ "]"]

/-- A checked value, or every issue found. -/
abbrev Checked := Except (List Issue)

namespace Checked

variable {α β : Type}

def refuse (rule : Rule) : Checked α := .error [⟨[], rule⟩]

/-- Put the issues of a check under a step. -/
def under (step : Step) (check : Checked α) : Checked α :=
  check.mapError fun issues => issues.map (Issue.under step)

/-- Both values, or the issues of the first check followed by those of the second. -/
def both (first : Checked α) (second : Checked β) : Checked (α × β) :=
  match first, second with
  | .ok a, .ok b => .ok (a, b)
  | .ok _, .error issues => .error issues
  | .error issues, .ok _ => .error issues
  | .error left, .error right => .error (left ++ right)

/-- All values, or the issues of all checks. -/
def all : List (Checked α) → Checked (List α)
  | [] => .ok []
  | check :: checks => (both check (all checks)).map fun (a, as) => a :: as

/-- Check the items of a list, each under its index. -/
def items (check : α → Checked β) (values : List α) : Checked (List β) :=
  all (values.zipIdx.map fun (value, i) => (check value).under (.index i))

@[simp] theorem both_ok (a : α) (b : β) : both (.ok a) (.ok b) = .ok (a, b) := rfl

@[simp] theorem all_nil : all ([] : List (Checked α)) = .ok [] := rfl

end Checked

end LayerGraph
