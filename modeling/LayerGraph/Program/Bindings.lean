import LayerGraph.Data.Keyed
import LayerGraph.Program.Document

/-! Declarations as they are bound: the values that the fields of a declared variable have at present.

No field can be assigned. What can be assigned are names with a leading underscore: most of them mean
nothing, one stands for all fields together, and one for a value in which absent fields are looked up.
-/

set_option autoImplicit false

namespace LayerGraph

/-- What the fields of a declaration are bound to. -/
structure Bindings where
  fields : List (String × Json)
  /-- Where a field is looked up that is bound to nothing. -/
  spare : Json := .null

namespace Bindings

/-- The name under which faults mention a declaration. -/
def owner : String := "VariableDescriptor"

/-- The name that stands for all fields together. -/
def fieldsName : String := "__dict__"

/-- The name of the value in which absent fields are looked up. -/
def spareName : String := "__pydantic_extra__"

/-- The name of the kind of a declaration, which no value can be. -/
def kindName : String := "__class__"

def ofVariable (v : Variable) : Bindings :=
  match v.toJson with
  | .obj fields => ⟨fields, .null⟩
  | _ => ⟨[], .null⟩

/-- The value of a field. -/
def get (bindings : Bindings) (field : String) : Attempt Json :=
  match Json.last? field bindings.fields with
  | some value => .ok value
  | none =>
    if bindings.spare.isEmpty then .fault (.noMember owner field)
    else
      match bindings.spare with
      | .obj fields =>
        match Json.last? field fields with
        | some value => .ok value
        | none => .fault (.noMember owner field)
      | .str _ => .fault .textIndex
      | .arr _ => .fault (.listIndex .text)
      | value => .fault (.notIndexed value.type)

/-- The extents that the shape is bound to. -/
def shape (bindings : Bindings) : Attempt Json := do
  return .arr (← (← bindings.get "shape").toItems)

/-- The declaration as a document. -/
def toJson (bindings : Bindings) : Attempt Json := do
  let name ← bindings.get "name"
  let shape ← bindings.shape
  let element ← bindings.get "dtype"
  let persistable ← bindings.get "persistable"
  return .obj [("name", name), ("shape", shape), ("dtype", element), ("persistable", persistable)]

/-- Assign a value to a name. -/
def assign (bindings : Bindings) (name : String) (value : Json) : Attempt Bindings :=
  if name.toList.head? ≠ some '_' then .error (.refused [⟨[.key name], .frozen⟩])
  else if name = kindName then .fault (.notKind value.type)
  else if name = fieldsName then
    match value with
    | .obj fields => .ok { bindings with fields }
    | value => .fault (.notFields value.type)
  else if name = spareName then .ok { bindings with spare := value }
  else if name = "__weakref__" then .fault (.fixedMember owner name)
  else if name = "__fields_set__" then .fault (.computedMember owner name)
  else .ok { bindings with fields := Keyed.put name value bindings.fields }

end Bindings

/-- A block with what the fields of its declarations are bound to after assignments. -/
structure Accessor where
  block : Block
  assigned : List (String × Bindings) := []

namespace Accessor

/-- What the fields of a declared variable are bound to. -/
def bindings (accessor : Accessor) (name : String) : Attempt Bindings :=
  match Keyed.get? name accessor.assigned with
  | some bindings => .ok bindings
  | none => (accessor.block.declaration name).map Bindings.ofVariable

/-- Assign a value to a name of a declared variable. -/
def assign (accessor : Accessor) (name field : String) (value : Json) : Attempt Accessor := do
  let bindings ← (← accessor.bindings name).assign field value
  return { accessor with assigned := Keyed.put name bindings accessor.assigned }

end Accessor

end LayerGraph
