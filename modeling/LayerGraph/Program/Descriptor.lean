import LayerGraph.Validation.Coercion

/-! Programs: blocks of declared variables and operators, and the lookups that a conversion needs.

A name that is declared twice stands for its last declaration. Arguments and attributes keep their
order and have distinct names.
-/

set_option autoImplicit false

namespace LayerGraph

/-- A named tensor; a persistable one is stored beside the program. -/
structure Variable where
  name : String
  shape : Shape := []
  dtype : String := "float32"
  persistable : Bool := false
  deriving DecidableEq, Repr

/-- A typed step of a program; arguments are lists of variable names under a role. -/
structure Operator where
  tag : String
  inputs : List (String × List String) := []
  outputs : List (String × List String) := []
  attributes : List (String × AttrValue) := []
  deriving DecidableEq, Repr

structure Block where
  index : Int := 0
  parent : Int := -1
  declarations : List Variable := []
  operators : List Operator := []
  deriving DecidableEq, Repr

structure Program where
  blocks : List Block := []
  version : Int := 0
  deriving DecidableEq, Repr

namespace Operator

/-- The first name under a role. -/
def firstName? (arguments : List (String × List String)) (role : String) : Option String :=
  match arguments.lookup role with
  | some (name :: _) => some name
  | _ => none

private def named (op : Operator) (direction : Direction) (role : String) :
    Option String → Attempt String
  | some name => .ok name
  | none => .fail (.program (.missingArgument direction role)) (some op.tag)

/-- The variable under an input role. -/
def input (op : Operator) (role : String) : Attempt String :=
  op.named .input role (firstName? op.inputs role)

/-- The variable under an output role. -/
def output (op : Operator) (role : String) : Attempt String :=
  op.named .output role (firstName? op.outputs role)

theorem input_eq_ok {op : Operator} {role name : String} :
    op.input role = .ok name ↔ firstName? op.inputs role = some name := by
  unfold input
  cases firstName? op.inputs role <;> simp [named, Attempt.fail]

theorem output_eq_ok {op : Operator} {role name : String} :
    op.output role = .ok name ↔ firstName? op.outputs role = some name := by
  unfold output
  cases firstName? op.outputs role <;> simp [named, Attempt.fail]

def attribute? (op : Operator) (name : String) : Option AttrValue := op.attributes.lookup name

/-- A required attribute. -/
def requiredAttribute (op : Operator) (name : String) : Attempt AttrValue :=
  match op.attribute? name with
  | some value => .ok value
  | none => .fail (.program (.missingAttribute name)) (some op.tag)

end Operator

namespace Block

/-- The declaration of a variable. -/
def declaration? (block : Block) (name : String) : Option Variable :=
  block.declarations.reverse.find? fun v => v.name = name

def declares (block : Block) (name : String) : Bool := (block.declaration? name).isSome

def declaration (block : Block) (name : String) : Attempt Variable :=
  match block.declaration? name with
  | some v => .ok v
  | none => .fail (.program (.unknownVariable name block.index)) none (some name)

/-- The declared shape of a variable. -/
def shape (block : Block) (name : String) : Attempt Shape :=
  (block.declaration name).map Variable.shape

theorem declaration_name {block : Block} {name : String} {v : Variable}
    (h : block.declaration? name = some v) : v.name = name := by
  have := List.find?_some h
  simpa using this

end Block

/-- The block that a loose value asks for by its place. -/
def Program.block (program : Program) (index : Json) : Attempt Block := do
  match (← index.placeAmong program.blocks.length).bind fun place => program.blocks[place]? with
  | some block => return block
  | none => .fail (.program (.block program.blocks.length (← index.text)))

end LayerGraph
