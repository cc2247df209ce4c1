import LayerGraph.Tensor.ElementType
import LayerGraph.Number.Decimal
import LayerGraph.Shape

/-! Dense tensors: row-major elements as bytes, with the byte order they are stored in.
-/

set_option autoImplicit false

namespace LayerGraph

open Number

/-- The number of elements of a list of extents. -/
def elementCount (extents : List Nat) : Nat := extents.foldr (· * ·) 1

@[simp] theorem elementCount_nil : elementCount [] = 1 := rfl

@[simp] theorem elementCount_cons (extent : Nat) (extents : List Nat) :
    elementCount (extent :: extents) = extent * elementCount extents := rfl

structure Tensor where
  /-- The type of the elements; it is no block. -/
  element : ElementType
  order : ByteOrder
  extents : List Nat
  bytes : List UInt8
  deriving DecidableEq, Repr

/-- Cut bytes into chunks of one width; `fuel` bounds their number. -/
def chunks (width : Nat) : Nat → List UInt8 → List (List UInt8)
  | 0, _ => []
  | _ + 1, [] => []
  | fuel + 1, bytes => bytes.take width :: chunks width fuel (bytes.drop width)

/-- Reverse every unit of a width. -/
def reverseUnits (width : Nat) (bytes : List UInt8) : List UInt8 :=
  if width ≤ 1 then bytes else (chunks width bytes.length bytes).flatMap List.reverse

/-- The low `width` bytes of a number, least significant first. -/
def littleEndian : Nat → Nat → List UInt8
  | 0, _ => []
  | width + 1, n => UInt8.ofNat n :: littleEndian width (n / 256)

/-- The number that bytes stand for, least significant first. -/
def ofLittleEndian : List UInt8 → Nat
  | [] => 0
  | byte :: bytes => byte.toNat + 256 * ofLittleEndian bytes

@[simp] theorem length_littleEndian (width n : Nat) : (littleEndian width n).length = width := by
  induction width generalizing n with
  | zero => rfl
  | succ width ih => simp [littleEndian, ih]

theorem ofLittleEndian_littleEndian (width n : Nat) (h : n < Nat.pow 256 width) :
    ofLittleEndian (littleEndian width n) = n := by
  induction width generalizing n with
  | zero => simp at h; simp [littleEndian, ofLittleEndian, h]
  | succ width ih =>
    have rest : n / 256 < Nat.pow 256 width := by
      exact Nat.div_lt_of_lt_mul (by rw [Nat.mul_comm]; exact h)
    simp only [littleEndian, ofLittleEndian, ih _ rest, UInt8.toNat_ofNat']
    omega

theorem littleEndian_ofLittleEndian (bytes : List UInt8) :
    littleEndian bytes.length (ofLittleEndian bytes) = bytes := by
  induction bytes with
  | nil => rfl
  | cons byte bytes ih =>
    have small : byte.toNat < 256 := byte.toNat_lt
    have high : (byte.toNat + 256 * ofLittleEndian bytes) / 256 = ofLittleEndian bytes := by omega
    simp only [List.length_cons, littleEndian, ofLittleEndian, high, ih, List.cons.injEq, and_true]
    apply UInt8.toNat_inj.1
    simp only [UInt8.toNat_ofNat']
    omega

theorem ofLittleEndian_lt (bytes : List UInt8) : ofLittleEndian bytes < Nat.pow 256 bytes.length := by
  induction bytes with
  | nil => simp [ofLittleEndian]
  | cons byte bytes ih =>
    have small : byte.toNat < 256 := byte.toNat_lt
    have grown : Nat.pow 256 (bytes.length + 1) = Nat.pow 256 bytes.length * 256 := rfl
    simp only [ofLittleEndian, List.length_cons, grown]
    omega

/-- The signed reading of a number of a width in bytes. -/
def signedValue (width n : Nat) : Int :=
  if 2 * n < Nat.pow 256 width then n else (n : Int) - Nat.pow 256 width

/-- The bytes of a stretch, least significant first in every unit. -/
def Stretch.littleBytes (stretch : Stretch) (bytes : List UInt8) : List UInt8 :=
  match stretch.order with
  | .little => bytes
  | .big => reverseUnits stretch.unit bytes

/-- The bytes of an element made of stretches, least significant first in every unit. -/
def Stretch.littleElement : List Stretch → List UInt8 → List UInt8
  | [], _ => []
  | stretch :: stretches, bytes =>
    stretch.littleBytes (bytes.take stretch.size)
      ++ littleElement stretches (bytes.drop stretch.size)

namespace Tensor

def count (tensor : Tensor) : Nat := elementCount tensor.extents

/-- The extents as a shape. -/
def shape (tensor : Tensor) : Shape := tensor.extents.map Int.ofNat

/-- The bytes hold exactly the elements that the extents ask for. -/
def WellFormed (tensor : Tensor) : Prop :=
  tensor.bytes.length = tensor.count * tensor.element.size

instance (tensor : Tensor) : Decidable tensor.WellFormed :=
  inferInstanceAs (Decidable (_ = _))

/-- The bytes of the elements, least significant first in every unit. -/
def littleBytes (tensor : Tensor) : List UInt8 :=
  match tensor.element, tensor.order with
  | .record stretches _, _ =>
    (chunks tensor.element.size tensor.bytes.length tensor.bytes).flatMap
      (Stretch.littleElement stretches)
  | _, .little => tensor.bytes
  | element, .big => reverseUnits element.unit tensor.bytes

/-- The same elements in the order of the machine. -/
def native (tensor : Tensor) : Tensor :=
  { tensor with element := tensor.element.native, order := .little, bytes := tensor.littleBytes }

/-- Zeros; a text without a size gets room for one character. -/
def zeros (element : ElementType) (extents : List Nat) : Tensor :=
  ⟨element.sized, .little, extents,
    List.replicate (elementCount extents * element.sized.size) 0⟩

end Tensor

/-- A truth value or a number to be stored as an element. -/
inductive Scalar where
  | truth (value : Bool)
  | int (value : Int)
  | float (value : Binary64)
  deriving DecidableEq, Repr

namespace Scalar

def toFloat : Scalar → Binary64
  | .truth b => .ofInt (if b then 1 else 0)
  | .int n => .ofInt n
  | .float x => x

def toInt : Scalar → Int
  | .truth b => if b then 1 else 0
  | .int n => n
  | .float x => if x.isFinite then x.truncate else 0

def isNonzero : Scalar → Bool
  | .truth b => b
  | .int n => n != 0
  | .float x => !x.isZero

/-- How an element that is a text shows it. -/
def text : Scalar → String
  | .truth b => if b then "True" else "False"
  | .int n => toString n
  | .float x => x.text

end Scalar

/-- A number of extended precision: a mantissa of 64 bits, then exponent and sign, then padding. -/
private def extendedBytes (negative : Bool) (mantissa exponent : Nat) : List UInt8 :=
  littleEndian 8 mantissa ++ littleEndian 2 (exponent + if negative then 0x8000 else 0)
    ++ List.replicate 6 0

/-- A multiple of a power of two in extended precision. -/
private def extendedMultiple (negative : Bool) (count : Nat) (unit : Int) : List UInt8 :=
  if count = 0 then extendedBytes negative 0 0
  else
    let leading := count.log2
    let mantissa :=
      if leading ≤ 63 then count * Nat.pow 2 (63 - leading)
      else roundQuotient count (Nat.pow 2 (leading - 63))
    extendedBytes negative mantissa (16383 + leading + unit).toNat

/-- A number in extended precision. -/
def Scalar.extended : Scalar → List UInt8
  | .truth b => extendedMultiple false (if b then 1 else 0) 0
  | .int n => extendedMultiple (n < 0) n.natAbs 0
  | .float x =>
    if x.isNaN then extendedBytes x.negative 0xc000000000000000 0x7fff
    else if x.isInfinite then extendedBytes x.negative 0x8000000000000000 0x7fff
    else
      let (count, unit) := binary64.decompose x.magnitude
      extendedMultiple x.negative count unit

namespace ElementType

/-- The format of a floating-point width. -/
def floatFormat (width : Nat) : Format :=
  if width = 2 then binary16 else if width = 4 then binary32 else binary64

/-- So many bytes of a text, with zeros behind a shorter one. -/
private def filled (size : Nat) (bytes : List UInt8) : List UInt8 :=
  bytes.take size ++ List.replicate (size - bytes.length) 0

/-- One element that holds a number: integers wrap, floats round, a truth value is one or zero, and a
text shows as much of it as has room. -/
def encodeScalar (type : ElementType) (value : Scalar) : List UInt8 :=
  match type with
  | .bool => [if value.isNonzero then 1 else 0]
  | .signed width | .unsigned width => littleEndian width (value.toInt % Nat.pow 256 width).toNat
  | .float 16 => value.extended
  | .float width => littleEndian width ((floatFormat width).narrow value.toFloat)
  | .complex 32 => value.extended ++ List.replicate 16 0
  | .complex width =>
    littleEndian (width / 2) ((floatFormat (width / 2)).narrow value.toFloat)
      ++ List.replicate (width / 2) 0
  | .instant _ | .duration _ => littleEndian 8 (value.toInt % 0x10000000000000000).toNat
  | .bytes size => filled size (value.text.toList.map fun c => UInt8.ofNat c.toNat)
  | .text length => filled (4 * length) (value.text.toList.flatMap fun c => littleEndian 4 c.toNat)
  | type => List.replicate type.size 0

end ElementType

/-- An integer rounded to a width; only the least width is reached through the next one. -/
def narrowInteger (width : Nat) (n : Int) : Nat :=
  let format := if width ≤ 4 then binary32 else binary64
  let rounded := (if n < 0 then format.sign else 0) + format.roundRatio n.natAbs 1
  if width = 2 then binary16.narrow (binary32.widen rounded) else rounded

/-- One element that holds an integer: it wraps, or is rounded once. -/
def ElementType.encodeInteger (type : ElementType) (n : Int) : List UInt8 :=
  match type with
  | .float 16 | .complex 32 => type.encodeScalar (.int n)
  | .float width => littleEndian width (narrowInteger width n)
  | .complex width =>
    littleEndian (width / 2) (narrowInteger (width / 2) n) ++ List.replicate (width / 2) 0
  | type => type.encodeScalar (.int n)

namespace Tensor

/-- A tensor of elements given least significant byte first, stored in a byte order. -/
def ofElements (element : ElementType) (order : ByteOrder) (extents : List Nat)
    (elements : List (List UInt8)) : Tensor :=
  let little := elements.flatten
  ⟨element, order, extents,
    match order with
    | .little => little
    | .big => reverseUnits element.unit little⟩

/-- A tensor of numbers. -/
def ofScalars (element : ElementType) (order : ByteOrder) (extents : List Nat)
    (values : List Scalar) : Tensor :=
  ofElements element order extents (values.map element.encodeScalar)

/-- A tensor of successive integers. -/
def ofRange (element : ElementType) (order : ByteOrder) (extents : List Nat) (first : Int) : Tensor :=
  ofElements element order extents
    ((List.range (elementCount extents)).map fun (i : Nat) => element.encodeInteger (first + i))

/-- What an element shows as: a truth value, an integer or a double. -/
inductive Shown where
  | bool (value : Bool)
  | int (value : Int)
  | float (value : Binary64)

/-- The value of an extended-precision element: a mantissa of 64 bits, then exponent and sign. -/
private def extended (bytes : List UInt8) : Binary64 :=
  let mantissa := ofLittleEndian (bytes.take 8)
  let top := ofLittleEndian ((bytes.drop 8).take 2)
  let negative := 0x8000 ≤ top
  let exponent : Nat := top % 0x8000
  if exponent = 0x7fff then
    if mantissa % 0x8000000000000000 = 0 then .infinity negative else .nan
  else
    let unit : Int := (if exponent = 0 then 1 else exponent : Int) - 16383 - 63
    if 0 ≤ unit then .ofRatio negative (mantissa * Nat.pow 2 unit.toNat) 1
    else .ofRatio negative mantissa (Nat.pow 2 (-unit).toNat)

/-- The value of an element given least significant byte first, for the numeric types that have one. -/
def shown? (element : ElementType) (bytes : List UInt8) : Option Shown :=
  match element with
  | .bool => some (.bool (ofLittleEndian bytes != 0))
  | .unsigned _ => some (.int (ofLittleEndian bytes))
  | .signed width => some (.int (signedValue width (ofLittleEndian bytes)))
  | .float 16 => some (.float (extended bytes))
  | .float width => some (.float ((ElementType.floatFormat width).widen (ofLittleEndian bytes)))
  | _ => none

/-- The values of all elements, in row-major order. -/
def values? (tensor : Tensor) : Option (List Shown) :=
  (chunks tensor.element.size tensor.bytes.length tensor.littleBytes).mapM (shown? tensor.element)

end Tensor

end LayerGraph
