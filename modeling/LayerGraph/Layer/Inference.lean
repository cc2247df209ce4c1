import LayerGraph.Failure.Basic
import LayerGraph.Number.Binary

/-! Output shapes from input shapes.

An unknown extent passes through every rule. Windows without padding count whole steps; windows
that keep the extent divide it by the stride as floating-point numbers do.
-/

set_option autoImplicit false

namespace LayerGraph

open Number

/-- Division towards the floor, refused for a zero divisor. -/
def floorQuotient (a b : Int) : Attempt Int :=
  if b = 0 then .fault .floorByZero else .ok (Int.fdiv a b)

/-- Whether one integer divides another, refused for zero. -/
def divides (b a : Int) : Attempt Bool :=
  if b = 0 then .fault .remainderByZero else .ok (Int.fmod a b = 0)

/-- The least integer not below the floating-point quotient of two integers. -/
def roundedCeiling (a b : Int) : Attempt Int :=
  if b = 0 then .fault .quotientByZero
  else
    -- The quotient is rounded first: the ceiling of two large integers need not be exact.
    let quotient := Binary64.ofRatio (decide (a < 0) != decide (b < 0)) a.natAbs b.natAbs
    if quotient.isInfinite then .fault .quotientSize else .ok quotient.ceiling

/-- The output extent of a window on one axis. -/
def windowExtent (size kernel stride : Int) (padding : Padding) : Attempt Int :=
  if size = unknown then .ok unknown
  else
    match padding with
    | .same => roundedCeiling size stride
    | .valid => do
      let extent := (← floorQuotient (size - kernel) stride) + 1
      if extent ≤ 0 then .layer (.window kernel stride size) else return extent

/-- The four extents of a batch of images: batch, channels, height, width. -/
structure Images where
  batch : Int
  channels : Int
  height : Int
  width : Int
  deriving DecidableEq, Repr

def Images.shape (images : Images) : Shape :=
  [images.batch, images.channels, images.height, images.width]

/-- Read a shape of rank four as a batch of images. -/
def Images.ofShape (kind : LayerKind) (shape : Shape) : Attempt Images :=
  match shape with
  | [batch, channels, height, width] => .ok ⟨batch, channels, height, width⟩
  | shape => .layer (.rank kind 4 shape)

/-- The extents of a broadcast on one axis. -/
def broadcastExtent? (x y : Int) : Option Int :=
  if x = y ∨ y = 1 then some x
  else if x = 1 then some y
  else if x = unknown ∨ y = unknown then some (if y = unknown then x else y)
  else none

/-- Broadcast two shapes of one rank. -/
def broadcastAligned? : Shape → Shape → Option Shape
  | x :: xs, y :: ys => do return (← broadcastExtent? x y) :: (← broadcastAligned? xs ys)
  | _, _ => some []

/-- Put ones before a shape up to a rank. -/
def padLeading (rank : Nat) (shape : Shape) : Shape :=
  List.replicate (rank - shape.length) 1 ++ shape

/-- Align `b` to `a` at an axis, when it has a lower rank and the axis is not negative. -/
def alignAt (a b : Shape) (axis : Int) : Attempt Shape :=
  if b.length < a.length ∧ 0 ≤ axis then
    if (a.length : Int) < axis + b.length then .layer (.alignment b a axis)
    else
      .ok (List.replicate axis.toNat 1 ++ b
        ++ List.replicate (a.length - axis.toNat - b.length) 1)
  else .ok b

/-- The shape of an elementwise sum. -/
def broadcast (a b : Shape) (axis : Int) : Attempt Shape := do
  let b ← alignAt a b axis
  let rank := max a.length b.length
  let a := padLeading rank a
  let b := padLeading rank b
  match broadcastAligned? a b with
  | some shape => return shape
  | none => .layer (.broadcast a b)

/-- Replace each zero of a target by the input extent at its position. -/
def copyExtents (input : Shape) : Nat → Shape → Attempt Shape
  | _, [] => .ok []
  | position, extent :: target => do
    let here ←
      if extent = 0 then
        match input[position]? with
        | some copied => (.ok copied : Attempt Int)
        | none => .layer (.copiedExtent position input)
      else if extent < unknown then .layer (.targetExtent extent)
      else .ok extent
    return here :: (← copyExtents input (position + 1) target)

/-- The shape that a target gives to the elements of an input. -/
def reshapeExtents (input target : Shape) : Attempt Shape := do
  let extents ← copyExtents input 0 target
  let unknowns := List.count unknown target
  if 1 < unknowns then .layer (.severalUnknown target)
  else if unknown ∈ input then return extents
  else
    -- Every extent of the input is known, so the element counts must agree.
    let total := Shape.count input
    let known := Shape.count (extents.filter (· ≠ unknown))
    if unknowns = 1 then
      if known = 0 ∨ Int.fmod total known ≠ 0 then .layer (.elementCount input target)
      else
        return (target.zip extents).map fun (wanted, extent) =>
          if wanted = unknown then Int.fdiv total known else extent
    else if known ≠ total then .layer (.elementCount input target)
    else return extents

/-- The extent of one spatial axis after padding and folding blocks of it away. -/
def foldedExtent (size block : Int) (padding : Int × Int) : Attempt Int :=
  if size = unknown then .ok unknown
  else do
    let padded := size + padding.1 + padding.2
    if ← divides block padded then floorQuotient padded block else .layer (.block padded block)

/-- The folded extents of as many axes as have a block and a padding. -/
def foldedExtents : List Int → List Int → List (Int × Int) → Attempt (List Int)
  | size :: sizes, block :: blocks, padding :: paddings => do
    return (← foldedExtent size block padding) :: (← foldedExtents sizes blocks paddings)
  | _, _, _ => .ok []

end LayerGraph
