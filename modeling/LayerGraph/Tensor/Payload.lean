import LayerGraph.Failure.Basic
import LayerGraph.Number.Word
import LayerGraph.Tensor.Basic

/-! The binary layout of a stored tensor.

A version, a counted list of opaque entries, an inner version, an opaque descriptor and the packed
elements follow one another; numbers are stored least significant byte first. Reading walks the
layout and takes every byte; writing puts the parts back in the same order.
-/

set_option autoImplicit false

namespace LayerGraph

open Number

/-- The bytes that are left and the number of bytes taken. -/
structure Cursor where
  rest : Bytes
  offset : Nat
  deriving DecidableEq, Repr

namespace Cursor

def start (bytes : Bytes) : Cursor := ⟨bytes, 0⟩

/-- Take the next bytes for a part. -/
def take (cursor : Cursor) (count : Nat) (part : PayloadPart) :
    Except PayloadDefect (Bytes × Cursor) :=
  let taken := cursor.rest.take count
  if taken.length = count then .ok (taken, ⟨cursor.rest.drop count, cursor.offset + count⟩)
  else .error (.truncated part count cursor.offset cursor.rest.length)

/-- Take an unsigned number of a width. -/
def number (cursor : Cursor) (width : Nat) (part : PayloadPart) :
    Except PayloadDefect (Nat × Cursor) :=
  (cursor.take width part).map fun (taken, cursor) => (ofLittleEndian taken, cursor)

end Cursor

/-- The parts of a stored tensor. -/
structure Payload where
  version : Nat
  entries : List Bytes
  tensorVersion : Nat
  descriptor : Bytes
  body : Bytes
  deriving DecidableEq, Repr

namespace Payload

/-- Take `count` entries, the first of which has the given index. -/
def readEntries : Nat → Nat → Cursor → Except PayloadDefect (List Bytes × Cursor)
  | 0, _, cursor => .ok ([], cursor)
  | count + 1, index, cursor => do
    let (length, cursor) ← cursor.number 8 (.entryLength index)
    let (entry, cursor) ← cursor.take length (.entryData index)
    let (entries, cursor) ← readEntries count (index + 1) cursor
    return (entry :: entries, cursor)

/-- Take the descriptor after its signed size. -/
def readDescriptor (cursor : Cursor) : Except PayloadDefect (Bytes × Cursor) := do
  let (raw, cursor) ← cursor.number 4 .descriptorSize
  let size := signedValue 4 raw
  if size < 0 then .error (.negativeLength .descriptor size)
  else cursor.take size.toNat .descriptor

/-- Read a payload whose inner version is the expected one. -/
def read (expected : Int) (bytes : Bytes) : Except PayloadDefect Payload := do
  let (version, cursor) ← (Cursor.start bytes).number 4 .version
  let (count, cursor) ← cursor.number 8 .entryCount
  let (entries, cursor) ← readEntries count 0 cursor
  let (tensorVersion, cursor) ← cursor.number 4 .tensorVersion
  if (tensorVersion : Int) ≠ expected then .error (.version tensorVersion expected)
  else
    let (descriptor, cursor) ← readDescriptor cursor
    return ⟨version, entries, tensorVersion, descriptor, cursor.rest⟩

/-- The bytes of one entry. -/
def entryBytes (entry : Bytes) : Bytes := littleEndian 8 entry.length ++ entry

/-- The parts before the body. -/
def header (payload : Payload) : Bytes :=
  littleEndian 4 payload.version ++ littleEndian 8 payload.entries.length
    ++ payload.entries.flatMap entryBytes ++ littleEndian 4 payload.tensorVersion
    ++ littleEndian 4 payload.descriptor.length ++ payload.descriptor

def bytes (payload : Payload) : Bytes := payload.header ++ payload.body

end Payload

/-- Replace the single negative extent by the one that `count` elements imply. -/
def Shape.fill (shape : Shape) (count : Nat) : Except PayloadDefect Shape :=
  match shape.filter (· < 0) with
  | [] => .ok shape
  | [_] =>
    -- What the other extents leave of the count goes to the unknown one.
    let known := Shape.count (shape.filter (0 ≤ ·))
    if known = 0 ∨ (count : Int) % known ≠ 0 then .error (.unknownExtent count known shape)
    else .ok (shape.map fun extent => if extent < 0 then (count : Int) / known else extent)
  | _ => .error (.severalUnknown shape)

namespace Tensor

/-- What a dense array can hold: at most 64 axes, each with a machine-sized extent. -/
def checkExtents (shape : Shape) : Attempt Unit :=
  if 64 < shape.length then .fault (.rankLimit shape.length)
  else if shape.any fun extent => wordHalf ≤ extent then .fault .extentLimit
  else .ok ()

/-- The bytes of an array: those of its elements, an extent of zero apart. -/
def storage (element : ElementType) (shape : Shape) : Nat :=
  element.size * elementCount ((shape.map Int.toNat).filter (· ≠ 0))

/-- The bytes of an array are counted by a machine-sized number. -/
def checkStorage (element : ElementType) (shape : Shape) : Attempt Unit :=
  if wordHalf ≤ storage element shape then .fault .arraySize else .ok ()

/-- The bytes that no memory holds. -/
def memoryLimit : Nat := 0x100000000

/-- The memory for the elements of an array must be at hand. -/
def checkMemory (element : ElementType) (extents : List Nat) : Attempt Unit :=
  if memoryLimit ≤ storage element (extents.map Int.ofNat) then
    .fault (.allocation (element.size * elementCount extents) extents element.shownName)
  else .ok ()

/-- Whether the product of the extents outgrows a machine-sized number before one of them is zero. -/
def outgrows : Nat → Shape → Bool
  | _, [] => false
  | count, extent :: shape =>
    let count := count * extent.toNat
    wordHalf ≤ count || outgrows count shape

/-- What a body of elements can be laid out as. -/
def checkLayout (element : ElementType) (shape : Shape) : Attempt Unit := do
  checkExtents shape
  if outgrows 1 shape then .fault (.reshape 0 shape) else checkStorage element shape

/-- Name the variable that a payload defect concerns, as long as its integers can be shown. -/
def payloadFailure (name : String) (defect : PayloadDefect) : Failure :=
  if defect.isShown then .conversion ⟨.payload defect, none, if name.isEmpty then none else some name⟩
  else .fault .shownInteger

/-- The extents of a body of elements under a declared shape. -/
def bodyExtents (element : ElementType) (shape : Shape) (size : Nat) :
    Except PayloadDefect Shape :=
  if size % element.size ≠ 0 then .error (.partialElement size element)
  else do
    let count := size / element.size
    let extents ← shape.fill count
    if (count : Int) ≠ extents.count then .error (.elementCount count extents) else return extents

/-- Lay out a body under extents that hold its elements. -/
def layOut (element : ElementType) (extents : Shape) (body : Bytes) : Attempt Tensor :=
  if element.reach ≠ .none then .fault .referenceBuffer
  else do
    checkLayout element extents
    let (base, inner) := element.unblocked
    let items := elementCount inner
    -- Every item of a block is spread over a block again.
    if 0 < body.length ∧ items ≠ 1 then
      .fault (.reshape (body.length / element.size * items * items) extents)
    else return ⟨base.native, .little, extents.map Int.toNat, body⟩

/-- Decode a body as a tensor of an element type and a declared shape, which is read when the elements are
known to be whole. -/
def decodeBody (element : ElementType) (declared : Attempt Shape) (name : String) (body : Bytes) :
    Attempt Tensor :=
  if element.reach = .longTexts then .fault .reorderedText
  -- An element without a width divides no body.
  else if element.size = 0 then .fault .remainderByZero
  else if body.length % element.size ≠ 0 then
    .error (payloadFailure name (.partialElement body.length element))
  else do
    let extents ← (bodyExtents element (← declared) body.length).mapError (payloadFailure name)
    layOut element extents body

/-- Decode a payload as a tensor of an element type and a declared shape; its header is read first, then the
type and last the shape. -/
def decodeTyped (bytes : Bytes) (type : Attempt ElementType) (declared : Attempt Shape) (expected : Int)
    (name : String) : Attempt Tensor := do
  let payload ← (Payload.read expected bytes).mapError (payloadFailure name)
  decodeBody (← type) declared name payload.body

/-- The element type that a spelling names. -/
def spelledType (spelling : String) : Attempt ElementType := do
  let (element, _) ← (ElementType.parse spelling).mapError fun defect => .fault (.elementType defect)
  return element

/-- Decode a payload as a tensor of a spelled element type and a declared shape. -/
def decodeDeclared (bytes : Bytes) (spelling : String) (declared : Attempt Shape) (expected : Int)
    (name : String) : Attempt Tensor :=
  decodeTyped bytes (spelledType spelling) declared expected name

/-- Decode a payload under a shape at hand. -/
def decode (bytes : Bytes) (spelling : String) (shape : Shape) (expected : Int := 0)
    (name : String := "") : Attempt Tensor :=
  decodeDeclared bytes spelling (.ok shape) expected name

/-- An unsigned number of four bytes, if it fits. -/
def packUnsigned (n : Int) : Attempt Nat :=
  if n < 0 ∨ 0x10000000000000000 ≤ n then .fault .packedRange
  else if 0xffffffff < n then .fault (.packedWidth 'I' 0 0xffffffff)
  else .ok n.toNat

/-- Encode a tensor with the opaque parts around it. -/
def encode (tensor : Tensor) (entries : List Bytes := []) (version : Int := 0)
    (tensorVersion : Int := 0) (descriptor : Bytes := []) : Attempt Bytes := do
  let version ← packUnsigned version
  let tensorVersion ← packUnsigned tensorVersion
  if 0x7fffffff < descriptor.length then .fault (.packedWidth 'i' (-0x80000000) 0x7fffffff)
  else return (Payload.mk version entries tensorVersion descriptor tensor.littleBytes).bytes

end Tensor

end LayerGraph
