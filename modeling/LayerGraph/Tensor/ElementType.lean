import LayerGraph.Tensor.TimeStep

/-! Element types of tensors: their item sizes and canonical names.
-/

set_option autoImplicit false

namespace LayerGraph

inductive ByteOrder where
  | little
  | big
  deriving DecidableEq, Repr

/-- What the parts of a record refer to outside their bytes. -/
inductive Reach where
  | none
  | references
  /-- Texts of any length, and references beside them. -/
  | longTexts
  deriving DecidableEq, Repr

/-- The farther of two reaches. -/
def Reach.join : Reach → Reach → Reach
  | .longTexts, _ | _, .longTexts => .longTexts
  | .references, _ | _, .references => .references
  | .none, .none => .none

/-- Successive units of one width in a record, and the byte order they are stored in. -/
structure Stretch where
  unit : Nat
  count : Nat
  order : ByteOrder
  deriving DecidableEq, Repr

namespace Stretch

/-- Bytes of the units. -/
def size (stretch : Stretch) : Nat := stretch.count * stretch.unit

/-- Bytes of stretches side by side. -/
def total : List Stretch → Nat
  | [] => 0
  | stretch :: stretches => stretch.size + total stretches

/-- So many bytes that no byte order concerns. -/
def raw (size : Nat) : Stretch := ⟨1, size, .little⟩

/-- The stretches of so many elements one after the other. -/
def repeated (count : Nat) : List Stretch → List Stretch
  | [stretch] => [{ stretch with count := count * stretch.count }]
  | stretches => (List.replicate count stretches).flatten

end Stretch

/-- An element type; numeric types are given by their width in bytes. -/
inductive ElementType where
  | bool
  | signed (width : Nat)
  | unsigned (width : Nat)
  | float (width : Nat)
  | complex (width : Nat)
  | bytes (size : Nat)
  | text (length : Nat)
  /-- Several elements side by side. -/
  | record (stretches : List Stretch) (reach : Reach)
  | reference
  /-- A text of any length. -/
  | longText
  | instant (step : TimeStep)
  | duration (step : TimeStep)
  /-- A block of elements of one type; one without elements may have a size all the same. -/
  | block (base : ElementType) (extents : List Nat) (size : Nat)
  deriving DecidableEq, Repr

namespace ElementType

/-- So many bytes without a type. -/
def raw (size : Nat) : ElementType := .record [.raw size] .none

/-- Bytes of one element. -/
def size : ElementType → Nat
  | .bool => 1
  | .signed width | .unsigned width | .float width | .complex width => width
  | .bytes size => size
  | .record stretches _ => Stretch.total stretches
  | .text length => 4 * length
  | .reference | .instant _ | .duration _ => 8
  | .longText => 16
  | .block _ _ size => size

/-- What an element refers to outside its bytes. -/
def reach : ElementType → Reach
  | .reference => .references
  | .longText => .longTexts
  | .record _ reach => reach
  | .block base _ _ => base.reach
  | _ => .none

/-- The type in the blocks of a type, and the extents of the blocks. -/
def unblocked : ElementType → ElementType × List Nat
  | .block base extents _ =>
    let (type, inner) := base.unblocked
    (type, extents ++ inner)
  | type => (type, [])

/-- The type with room for one character where it has room for none. A block of no bytes is a record. -/
def sized : ElementType → ElementType
  | .bytes 0 => .bytes 1
  | .text 0 => .text 1
  | .block _ _ 0 => .raw 0
  | type => type

/-- Bytes of a unit whose order depends on the byte order. -/
def unit : ElementType → Nat
  | .signed width | .unsigned width | .float width => width
  | .complex width => width / 2
  | .text _ => 4
  | .instant _ | .duration _ | .reference => 8
  | .block base _ _ => base.unit
  | .bool | .bytes _ | .record .. | .longText => 1

/-- The stretches of an element that is stored in a byte order; a record has orders of its own. -/
def stretches (order : ByteOrder) : ElementType → List Stretch
  | .record stretches _ => stretches
  | .block base extents size =>
    let items := extents.foldr (· * ·) 1
    -- A block without elements may have a size, which nothing fills.
    if size = items * base.size then Stretch.repeated items (base.stretches order)
    else [.raw size]
  | type => [⟨type.unit, type.size / type.unit, order⟩]

/-- The same type with every unit least significant byte first. -/
def native : ElementType → ElementType
  | .record stretches reach => .record (stretches.map ({ · with order := .little })) reach
  | .block base extents size => .block base.native extents size
  | type => type

private def bits (stem : String) (size : Nat) : String :=
  if size = 0 then stem else stem ++ toString (8 * size)

/-- The canonical name. -/
def name : ElementType → String
  | .bool => "bool"
  | .signed width => bits "int" width
  | .unsigned width => bits "uint" width
  | .float width => bits "float" width
  | .complex width => bits "complex" width
  | .bytes size => bits "bytes" size
  | .text length => bits "str" (4 * length)
  | .record stretches _ => bits "void" (Stretch.total stretches)
  | .reference => "object"
  | .longText => "StringDType128"
  | .instant step => "datetime64" ++ step.text
  | .duration step => "timedelta64" ++ step.text
  | .block _ _ size => bits "void" size

/-- The code of a type: a letter for its kind, and its size. -/
private def code (letter : String) (size : Nat) : String := letter ++ toString size

/-- The name under which a failure shows a type. -/
def shownName : ElementType → String
  | .bytes size => code "|S" size
  | .text length => code "<U" length
  | .record stretches _ => code "|V" (Stretch.total stretches)
  | .longText => "StringDType()"
  | type => type.name

end ElementType

end LayerGraph
