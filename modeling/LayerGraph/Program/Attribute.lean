import LayerGraph.Json.Basic
import LayerGraph.Text.Quoted

/-! Attribute values of operators and their texts in messages.
-/

set_option autoImplicit false

namespace LayerGraph

open Number Text

/-- The value of an operator attribute. -/
inductive AttrValue where
  | bool (value : Bool)
  | int (value : Int)
  | float (value : Binary64)
  | str (value : String)
  | ints (values : List Int)
  | floats (values : List Binary64)
  | strs (values : List String)
  deriving DecidableEq, Repr, Inhabited

namespace AttrValue

private def listText (parts : List String) : String := "[" ++ join ", " parts ++ "]"

/-- The text of a value as messages show it. -/
def text : AttrValue → String
  | .bool b => truth b
  | .int n => toString n
  | .float x => x.text
  | .str s => quoted s
  | .ints ns => listText (ns.map toString)
  | .floats xs => listText (xs.map Binary64.text)
  | .strs ss => listText (ss.map quoted)

/-- The same value as a document. -/
def toJson : AttrValue → Json
  | .bool b => .bool b
  | .int n => .int n
  | .float x => .float x
  | .str s => .str s
  | .ints ns => .arr (ns.map .int)
  | .floats xs => .arr (xs.map .float)
  | .strs ss => .arr (ss.map .str)

/-- Zero, the empty text and empty lists are false. -/
def isTruthy : AttrValue → Bool
  | .bool b => b
  | .int n => n != 0
  | .float x => !x.isZero
  | .str s => !s.isEmpty
  | .ints ns => !ns.isEmpty
  | .floats xs => !xs.isEmpty
  | .strs ss => !ss.isEmpty

end AttrValue

end LayerGraph
