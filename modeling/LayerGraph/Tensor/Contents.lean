import LayerGraph.Tensor.Payload

/-! Tensors from what they hold: stored bytes, listed numbers, successive integers, or one number in
every place.

Bytes, lists and successive integers bring a number of elements of their own, which the shape has to
hold. One number fills whatever shape it is given, as far as there is memory for it.
-/

set_option autoImplicit false

namespace LayerGraph

open Number

/-- What a new tensor holds. -/
inductive Contents where
  | stored (bytes : Bytes)
  | listed (values : List Scalar)
  | successive (first : Int)
  | uniform (value : Scalar)
  | zeros

/-- The integers that an element holds, least and greatest, for the integer types. -/
def ElementType.bounds? : ElementType → Option (Int × Int)
  | .signed width => some (-(Nat.pow 256 width / 2 : Nat), (Nat.pow 256 width / 2 : Nat) - 1)
  | .unsigned width => some (0, (Nat.pow 256 width : Nat) - 1)
  | _ => none

/-- The type with room for so many characters where it is a text without a size. -/
def ElementType.withRoom (room : Nat) : ElementType → ElementType
  | .bytes 0 => .bytes room
  | .text 0 => .text room
  | type => type

/-- The characters that any integer of a machine word is given as a text. -/
def wordCharacters : Nat := 21

/-- An integer must lie in the bounds of the type that is to hold it. -/
def Scalar.checkBounds (element : ElementType) : Scalar → Attempt Unit
  | .truth _ => .ok ()
  | .int n =>
    match element.bounds? with
    | some (low, high) =>
      if n < low ∨ high < n then .fault (.integerBounds n element.name) else .ok ()
    | none => .ok ()
  | .float _ => .ok ()

/-- A listed number must also be finite where an integer is to hold it. -/
def Scalar.checkListed (element : ElementType) (value : Scalar) : Attempt Unit :=
  match value, element.bounds? with
  | .float x, some _ =>
    if x.isNaN then .fault .notANumberInteger
    else if x.isInfinite then .fault .infiniteInteger
    else .ok ()
  | _, _ => value.checkBounds element

namespace Tensor

/-- The extents of so many elements under a shape; a negative extent takes what the others leave. -/
def arrange (count : Nat) (shape : Shape) : Attempt (List Nat) := do
  checkExtents shape
  match shape.fill count with
  | .ok extents =>
    if extents.count = count then return extents.map Int.toNat else .fault (.reshape count shape)
  | .error (.severalUnknown _) => .fault .severalUnknown
  | .error _ => .fault (.reshape count shape)

/-- The extents of a new array of elements. -/
def reserve (element : ElementType) (shape : Shape) : Attempt (List Nat) := do
  checkExtents shape
  if shape.any (· < 0) then .fault .negativeExtent
  checkStorage element shape
  let extents := shape.map Int.toNat
  checkMemory element extents
  return extents

/-- Successive integers are counted before they are arranged. -/
def successiveCount (shape : Shape) : Attempt Nat := do
  let count := shape.count.toNat
  if wordHalf ≤ (count : Int) then .fault .countLimit
  checkMemory (.signed 8) [count]
  return count

/-- A tensor of a type and a shape. Every element of a block type is spread over a block. -/
def ofContents (spelled : ElementType) (order : ByteOrder) (shape : Shape) (contents : Contents) :
    Attempt Tensor := do
  let (element, inner) := spelled.unblocked
  let blocked := shape ++ inner.map Int.ofNat
  match contents with
  | .stored bytes =>
    if spelled.size ≠ 0 ∧ bytes.length % spelled.size ≠ 0 then .fault .partialBuffer
    let count := bytes.length / spelled.size * elementCount inner
    return ⟨element, order, ← arrange count shape, bytes.take (count * element.size)⟩
  | .listed values =>
    let values := values.flatMap (List.replicate (elementCount inner))
    let _ ← values.mapM (Scalar.checkListed element)
    let element := element.withRoom (values.foldl (fun room value => max room value.text.length) 1)
    return .ofScalars element order (← arrange values.length shape) values
  | .successive first =>
    let count ← successiveCount shape
    return .ofRange (element.withRoom wordCharacters) order (← arrange (count * elementCount inner) shape) first
  | .uniform value =>
    let element := element.withRoom 1
    let extents ← reserve element blocked
    value.checkBounds element
    return .ofScalars element order extents (List.replicate (elementCount extents) value)
  | .zeros =>
    let extents ← reserve element.sized blocked
    return { Tensor.zeros element extents with order := order }

end Tensor

end LayerGraph
