import LayerGraph.Tensor.Basic

/-! Views: elements at regular distances in a buffer.

A view may run through its buffer in any order, leave bytes out or meet them more than once. Copied in
row-major order its elements make a tensor, and a tensor is a view of its own bytes.
-/

set_option autoImplicit false

namespace LayerGraph

/-- An axis of a view, with the distance of neighbours in bytes. -/
structure Axis where
  extent : Nat
  stride : Int
  deriving DecidableEq, Repr

structure View where
  element : ElementType
  order : ByteOrder
  buffer : Array UInt8
  /-- The position of the first element. -/
  start : Int
  axes : List Axis
  deriving DecidableEq, Repr

/-- The axes of elements in row-major order, at so many bytes each. -/
def rowMajor (size : Nat) : List Nat → List Axis
  | [] => []
  | extent :: extents => ⟨extent, (elementCount extents * size : Nat)⟩ :: rowMajor size extents

namespace View

def extents (view : View) : List Nat := view.axes.map Axis.extent

/-- The distances of all elements from the first one, in row-major order. -/
def walk : List Axis → List Int
  | [] => [0]
  | axis :: axes =>
    (List.range axis.extent).flatMap fun (i : Nat) => (walk axes).map (i * axis.stride + ·)

/-- The bytes of the element at a distance from the first one. -/
def elementAt (view : View) (distance : Int) : List UInt8 :=
  let position := (view.start + distance).toNat
  (view.buffer.extract position (position + view.element.size)).toList

/-- Copy the elements into row-major order. -/
def contiguous (view : View) : Tensor :=
  ⟨view.element, view.order, view.extents, (walk view.axes).flatMap view.elementAt⟩

/-- Reorder the axes. -/
def transpose (view : View) (axes : List Nat) : View :=
  { view with axes := axes.filterMap fun axis => view.axes[axis]? }

end View

namespace Tensor

/-- The elements of a tensor where they are. -/
def view (tensor : Tensor) : View :=
  ⟨tensor.element, tensor.order, tensor.bytes.toArray, 0, rowMajor tensor.element.size tensor.extents⟩

/-- Reorder the axes; the elements are copied into row-major order. -/
def transpose (tensor : Tensor) (axes : List Nat) : Tensor := (tensor.view.transpose axes).contiguous

/-- Exchange the first two axes. -/
def swapLeadingAxes (tensor : Tensor) : Tensor :=
  match List.range tensor.extents.length with
  | first :: second :: rest => tensor.transpose (second :: first :: rest)
  | _ => tensor

end Tensor

end LayerGraph
