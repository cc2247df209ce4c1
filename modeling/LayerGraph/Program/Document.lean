import LayerGraph.Data.Keyed
import LayerGraph.Json.Printer
import LayerGraph.Json.Reader
import LayerGraph.Program.Descriptor
import LayerGraph.Validation.Lax

/-! Programs as documents.

Reading takes the last value of a repeated key, ignores unknown keys and reports every issue.
An attribute value is read by the member of the attribute types that it fits most closely, the
first of them on a tie. Writing gives every field in declaration order.
-/

set_option autoImplicit false

namespace LayerGraph

open Number

namespace AttrValue

/-- A reading of an attribute by one member type, under the name of the member. -/
abbrev Member := String × (Json → Checked (AttrValue × Fit))

def lift {α : Type} (wrap : α → AttrValue) (read : Json → Checked (α × Fit)) (value : Json) :
    Checked (AttrValue × Fit) :=
  (read value).map fun (a, fit) => (wrap a, fit)

/-- The member types in order. -/
def members : List Member := [
  ("bool", lift .bool Json.readBool),
  ("int", lift .int Json.readInt),
  ("float", lift .float Json.readReal),
  ("str", lift .str Json.readText),
  ("list[int]", lift .ints (Json.readList Json.readInt)),
  ("list[float]", lift .floats (Json.readList Json.readReal)),
  ("list[str]", lift .strs (Json.readList Json.readText))]

/-- The closer of two readings; the first stays on a tie. -/
def closer (best : Option (AttrValue × Fit)) (next : AttrValue × Fit) : Option (AttrValue × Fit) :=
  match best with
  | none => some next
  | some found => if found.2.rank < next.2.rank then some next else some found

/-- Read an attribute value by the closest member. -/
def ofJson (value : Json) : Checked AttrValue :=
  let readings := members.map fun (name, read) => (read value).under (.key name)
  -- Without a fitting member the issues of all members are reported, under their names.
  let fitting := readings.filterMap Except.toOption
  match fitting.foldl closer none with
  | some (found, _) => .ok found
  | none =>
    .error (readings.flatMap fun reading =>
      match reading with
      | .ok _ => []
      | .error issues => issues)

end AttrValue

namespace Json

/-- Read a mapping from texts. -/
def readMapping {α : Type} (read : Json → Checked α) : Json → Checked (List (String × α))
  | .obj fields =>
    (Checked.all (fields.map fun (key, value) =>
      ((read value).under (.key key)).map fun a => (key, a))).map Keyed.distinct
  | _ => Checked.refuse .mapping

/-- Read a required field of an object. -/
def required {α : Type} (fields : List (String × Json)) (name : String) (read : Json → Checked α) :
    Checked α :=
  Checked.under (.key name) <|
    match last? name fields with
    | some value => read value
    | none => Checked.refuse .missing

/-- Read a field of an object that has a default. -/
def defaulted {α : Type} (fields : List (String × Json)) (name : String) (fallback : α)
    (read : Json → Checked α) : Checked α :=
  match last? name fields with
  | some value => (read value).under (.key name)
  | none => .ok fallback

/-- Forget how closely a value fits. -/
def plain {α : Type} (read : Json → Checked (α × Fit)) (value : Json) : Checked α :=
  (read value).map Prod.fst

def readIntegers : Json → Checked Shape
  | .arr items => Checked.items (plain readInt) items
  | _ => Checked.refuse .tuple

def readRecords {α : Type} (read : Json → Checked α) : Json → Checked (List α)
  | .arr items => Checked.items read items
  | _ => Checked.refuse .list

def readNames : Json → Checked (List String) := plain (readList readText)

end Json

open Json in
def Variable.ofJson : Json → Checked Variable
  | .obj fields =>
    (Checked.both (required fields "name" (plain readText))
      (Checked.both (defaulted fields "shape" [] readIntegers)
        (Checked.both (defaulted fields "dtype" "float32" (plain readText))
          (defaulted fields "persistable" false (plain readBool))))).map
      fun (name, shape, dtype, persistable) => ⟨name, shape, dtype, persistable⟩
  | _ => Checked.refuse .model

open Json in
def Operator.ofJson : Json → Checked Operator
  | .obj fields =>
    (Checked.both (required fields "type" (plain readText))
      (Checked.both (defaulted fields "inputs" [] (readMapping readNames))
        (Checked.both (defaulted fields "outputs" [] (readMapping readNames))
          (defaulted fields "attrs" [] (readMapping AttrValue.ofJson))))).map
      fun (tag, inputs, outputs, attributes) => ⟨tag, inputs, outputs, attributes⟩
  | _ => Checked.refuse .model

open Json in
def Block.ofJson : Json → Checked Block
  | .obj fields =>
    (Checked.both (defaulted fields "idx" 0 (plain readInt))
      (Checked.both (defaulted fields "parent_idx" (-1) (plain readInt))
        (Checked.both (defaulted fields "vars" [] (readRecords Variable.ofJson))
          (defaulted fields "ops" [] (readRecords Operator.ofJson))))).map
      fun (index, parent, declarations, operators) => ⟨index, parent, declarations, operators⟩
  | _ => Checked.refuse .model

open Json in
def Program.ofJson : Json → Checked Program
  | .obj fields =>
    (Checked.both (defaulted fields "blocks" [] (readRecords Block.ofJson))
      (defaulted fields "version" 0 (plain readInt))).map
      fun (blocks, version) => ⟨blocks, version⟩
  | _ => Checked.refuse .model

/-- The limits of a stored document: nesting of 200 and 4300 digits before a point. -/
def documentLimits : Json.Limits := ⟨200, 4300⟩

/-- The text of a stored document. Bytes that are no text leave a control character, which no
document contains, behind the text before them. -/
def Json.textOf (bytes : Bytes) : String :=
  match Text.decodeUtf8 bytes with
  | .ok text => text
  | .error defect => (Text.decodeUtf8 (bytes.take defect.position)).toOption.getD "" ++ "\x00"

/-- Read the bytes of a stored document. -/
def Json.ofBytes (bytes : Bytes) : Checked Json :=
  match Json.read documentLimits (Json.textOf bytes) with
  | .ok document => .ok document
  | .error defect => Checked.refuse (.document defect)

/-- A document at hand has to keep the limits of its own text. -/
def Json.bounded (document : Json) : Checked Json :=
  match Json.read documentLimits (document.render .spaced) with
  | .ok _ => .ok document
  | .error defect => Checked.refuse (.document defect)

/-- Read a block from a document at hand. -/
def Block.ofDocument (document : Json) : Checked Block := do
  Block.ofJson (← document.bounded)

/-- Read a program from a document at hand. -/
def Program.ofDocument (document : Json) : Checked Program := do
  Program.ofJson (← document.bounded)

/-- Read a program from the bytes of a stored document. -/
def Program.ofBytes (bytes : Bytes) : Checked Program := do
  Program.ofJson (← Json.ofBytes bytes)

def Variable.toJson (v : Variable) : Json :=
  .obj [("name", .str v.name), ("shape", .arr (v.shape.map .int)), ("dtype", .str v.dtype),
    ("persistable", .bool v.persistable)]

def argumentsJson (arguments : List (String × List String)) : Json :=
  .obj (arguments.map fun (role, names) => (role, .arr (names.map .str)))

def Operator.toJson (op : Operator) : Json :=
  .obj [("type", .str op.tag), ("inputs", argumentsJson op.inputs),
    ("outputs", argumentsJson op.outputs),
    ("attrs", .obj (op.attributes.map fun (name, value) => (name, value.toJson)))]

def Block.toJson (block : Block) : Json :=
  .obj [("idx", .int block.index), ("parent_idx", .int block.parent),
    ("vars", .arr (block.declarations.map Variable.toJson)),
    ("ops", .arr (block.operators.map Operator.toJson))]

def Program.toJson (program : Program) : Json :=
  .obj [("blocks", .arr (program.blocks.map Block.toJson)), ("version", .int program.version)]

/-- The stored document of a program. -/
def Program.render (program : Program) : String := program.toJson.render .document

end LayerGraph
