import LayerGraph.Data.Keyed
import LayerGraph.Failure.Fault
import LayerGraph.Json.Basic

/-! Values of a TOML document.

A moment, that is a date, a time or both, is kept as it is written.
-/

set_option autoImplicit false

namespace LayerGraph

open Number

/-- What a moment says. -/
inductive MomentKind where
  | date
  | time
  | dateTime
  deriving DecidableEq, Repr

inductive Toml where
  | string (value : String)
  | integer (value : Int)
  | float (value : Binary64)
  | boolean (value : Bool)
  | moment (kind : MomentKind) (written : String)
  | array (items : List Toml)
  | table (fields : List (String × Toml))
  deriving Inhabited

namespace Toml

def type : Toml → ValueType
  | .string _ => .text
  | .integer _ => .int
  | .float _ => .float
  | .boolean _ => .bool
  | .moment .date _ => .date
  | .moment .time _ => .time
  | .moment .dateTime _ => .dateTime
  | .array _ => .list
  | .table _ => .mapping

mutual

/-- The value as a loose value, which has no form for a moment: it becomes null. -/
def toJson : Toml → Json
  | .string value => .str value
  | .integer value => .int value
  | .float value => .float value
  | .boolean value => .bool value
  | .moment _ _ => .null
  | .array items => .arr (itemsToJson items)
  | .table fields => .obj (fieldsToJson fields)

def itemsToJson : List Toml → List Json
  | [] => []
  | item :: items => item.toJson :: itemsToJson items

def fieldsToJson : List (String × Toml) → List (String × Json)
  | [] => []
  | (key, value) :: fields => (key, value.toJson) :: fieldsToJson fields

end

/-- Whether a value is a given text. -/
def isText (value : Toml) (text : String) : Bool :=
  match value with
  | .string other => other = text
  | _ => false

/-- What a key leads to. A text or a list that holds the key cannot be entered by it. -/
def member? (value : Toml) (key : String) : Except Fault (Option Toml) :=
  match value with
  | .table fields => .ok (Keyed.get? key fields)
  | .string text => if 1 < (text.splitOn key).length then .error .textIndex else .ok none
  | .array items => if items.any (isText · key) then .error (.listIndex .text) else .ok none
  | value => .error (.notContainer value.type)

@[simp] theorem member?_table (fields : List (String × Toml)) (key : String) :
    (Toml.table fields).member? key = .ok (Keyed.get? key fields) := rfl

end Toml

end LayerGraph
