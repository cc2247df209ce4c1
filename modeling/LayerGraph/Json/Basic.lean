import LayerGraph.Number.Decimal
import LayerGraph.Text.CodePoints
import LayerGraph.Text.Quoted

/-! Documents as data, and loose values as messages show them.

Objects keep the order of their fields and every occurrence of a key. Integers and floating-point numbers
are different values.
-/

set_option autoImplicit false

namespace LayerGraph

open Number

inductive Json where
  | null
  | bool (value : Bool)
  | int (value : Int)
  | float (value : Binary64)
  | str (value : String)
  | arr (items : List Json)
  | obj (fields : List (String × Json))
  deriving Inhabited

namespace Json

/-- The last value of a key. -/
def last? (key : String) (fields : List (String × Json)) : Option Json :=
  (fields.reverse.find? fun field => field.1 = key).map Prod.snd

/-- The value of a key of an object. -/
def get? (document : Json) (key : String) : Option Json :=
  match document with
  | .obj fields => last? key fields
  | _ => none

open Text

mutual

/-- The text of a value. -/
def shown : Json → String
  | .null => "None"
  | .bool b => truth b
  | .int n => toString n
  | .float x => x.text
  | .str s => quoted s
  | .arr items => "[" ++ join ", " (shownItems items) ++ "]"
  | .obj fields => "\x7b" ++ join ", " (shownFields fields) ++ "\x7d"

def shownItems : List Json → List String
  | [] => []
  | item :: items => item.shown :: shownItems items

def shownFields : List (String × Json) → List String
  | [] => []
  | (key, value) :: fields => (quoted key ++ ": " ++ value.shown) :: shownFields fields

end

end Json

end LayerGraph
