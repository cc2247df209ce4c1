import LayerGraph.Proofs.Tensor.Outcomes
import LayerGraph.Proofs.Tensor.View

/-! Decoded tensors written and read again.

What is decoded has its elements in the order of the machine and lies in the bounds of an array, so it is written to bytes
that are decoded to it. It stays so when its first two axes are exchanged. The type that it was decoded as may be a block
around a single element, or a block without elements.
-/

set_option autoImplicit false

namespace LayerGraph

open Attempt Payload

namespace ElementType

variable {type : ElementType}

theorem reach_unblocked (type : ElementType) : type.unblocked.1.reach = type.reach := by
  induction type with
  | block base extents size ih => exact ih
  | _ => rfl

theorem single_unblocked (type : ElementType) : type.unblocked.1.Single := by
  induction type with
  | block base extents size ih => exact ih
  | _ => trivial

/-- A block with elements is filled by those of the type in it. -/
theorem size_eq_of_filled (regular : type.Regular) (filled : elementCount type.unblocked.2 ≠ 0) :
    type.size = elementCount type.unblocked.2 * type.unblocked.1.size := by
  induction type with
  | block base extents size ih =>
    obtain ⟨inner, _, items⟩ := regular
    change elementCount (extents ++ base.unblocked.2) ≠ 0 at filled
    rw [elementCount_append, Nat.mul_ne_zero_iff] at filled
    calc size = elementCount extents * base.size := items.resolve_left filled.1
      _ = elementCount extents * (elementCount base.unblocked.2 * base.unblocked.1.size) := by rw [ih inner filled.2]
      _ = elementCount (extents ++ base.unblocked.2) * base.unblocked.1.size := by
        rw [elementCount_append, Nat.mul_assoc]
  | _ => exact (Nat.one_mul _).symm

/-- Turned to the order of the machine, a type stays one whose elements stand alone. -/
theorem Fixed.native (fixed : type.Fixed) : type.native.Fixed := by
  refine ⟨?_, ?_, ?_, size_native.symm ▸ fixed.sized⟩
  all_goals obtain ⟨regular, single, closed, _⟩ := fixed
  all_goals cases type with
    | block base extents size => exact single.elim
    | _ => assumption

theorem native_native (single : type.Single) : type.native.native = type.native := by
  cases type with
  | block base extents size => exact single.elim
  | record stretches reach => simp [native]
  | _ => rfl

end ElementType

namespace Tensor

/-- The bound of an array does not depend on the order of its extents. -/
theorem Bounded.perm {element : ElementType} {first second : List Nat} (bounded : Bounded element first)
    (same : first.Perm second) : Bounded element second :=
  ⟨same.length_eq ▸ bounded.rank, elementCount_perm (same.filter _) ▸ bounded.storage⟩

/-- A tensor as it is decoded from elements of a type: it has the elements of their blocks in the order of the machine,
and its array can be had. -/
structure DecodedAs (tensor : Tensor) (type : ElementType) : Prop where
  regular : type.Regular
  sized : 0 < type.size
  closed : type.reach = .none
  element : tensor.element = type.unblocked.1.native
  order : tensor.order = .little
  whole : tensor.WellFormed
  single : tensor.bytes = [] ∨ elementCount type.unblocked.2 = 1
  bounded : Bounded type tensor.extents

/-- Written behind any header, a tensor is read again under its extents, or with one of them left open. -/
def RestoredAs (tensor : Tensor) (type : ElementType) : Prop :=
  ∀ header : Payload, header.Fits → ∃ bytes,
    tensor.encode header.entries header.version header.tensorVersion header.descriptor = .ok bytes ∧
      ∀ shape name, StandsUnder tensor.extents shape →
        decodeTyped bytes (.ok type) (.ok shape) header.tensorVersion name = .ok tensor

variable {tensor : Tensor} {type : ElementType}

theorem decodedAs_of_decodeTyped {bytes : Bytes} {declared : Attempt Shape} {expected : Int} {name : String}
    (regular : type.Regular) (read : decodeTyped bytes (.ok type) declared expected name = .ok tensor) :
    tensor.DecodedAs type := by
  obtain ⟨payload, _, _, same, decoded⟩ := decodeTyped_eq_ok.mp read
  cases same
  obtain ⟨sized, _, _, shape, _, found, filled, laid⟩ := decodeBody_eq_ok.mp decoded
  obtain ⟨extents, ⟨_, size⟩, rfl⟩ := (bodyExtents_eq_ok_iff_fills sized).mp filled
  obtain ⟨closed, checked, single, rfl⟩ := layOut_eq_ok.mp laid
  rw [map_toNat_map_ofNat]
  refine ⟨regular, sized, closed, rfl, rfl, ?_, single, (checkLayout_eq_ok sized).mp checked⟩
  change payload.body.length = elementCount extents * type.unblocked.1.native.size
  rw [ElementType.size_native, size, Nat.mul_comm]
  -- An empty body has no elements, and in a block around a single one it is this that is counted.
  rcases single with empty | one
  · rw [empty, List.length_nil] at size
    rw [(Nat.mul_eq_zero.mp size.symm).resolve_left (Nat.pos_iff_ne_zero.mp sized), Nat.zero_mul, Nat.zero_mul]
  · rw [ElementType.size_eq_of_filled regular (by rw [one]; decide), one, Nat.one_mul]

namespace DecodedAs

/-- The bytes are those of the elements that the extents ask for. -/
theorem length_bytes (decoded : tensor.DecodedAs type) : tensor.bytes.length = type.size * elementCount tensor.extents := by
  have whole : tensor.bytes.length = elementCount tensor.extents * type.unblocked.1.size := by
    rw [← ElementType.size_native, ← decoded.element]
    exact decoded.whole
  rcases decoded.single with empty | one
  · have sized := (ElementType.regular_unblocked decoded.regular decoded.sized).2
    rw [empty, List.length_nil] at whole ⊢
    rw [(Nat.mul_eq_zero.mp whole.symm).resolve_right (Nat.pos_iff_ne_zero.mp sized), Nat.mul_zero]
  · rw [ElementType.size_eq_of_filled decoded.regular (by rw [one]; decide), one, Nat.one_mul, whole, Nat.mul_comm]

theorem littleBytes (decoded : tensor.DecodedAs type) : tensor.littleBytes = tensor.bytes := by
  obtain ⟨element, order, extents, bytes⟩ := tensor
  obtain rfl := decoded.element
  obtain rfl := decoded.order
  exact littleBytes_of_native (ElementType.regular_unblocked decoded.regular decoded.sized).2

/-- Elements of a type that were decoded are written, and read again as that type. -/
theorem restored (decoded : tensor.DecodedAs type) : tensor.RestoredAs type := by
  intro header fits
  have written : tensor.encode header.entries header.version header.tensorVersion header.descriptor =
      .ok { header with body := tensor.littleBytes }.bytes :=
    encode_eq_ok.mpr ⟨header.version, header.tensorVersion, rfl, rfl, fits.version, fits.tensorVersion, fits.descriptor, rfl⟩
  refine ⟨_, written, fun shape name under => decodeTyped_eq_ok.mpr ⟨{ header with body := tensor.littleBytes },
    read_eq_ok.mpr ⟨⟨fits.version, fits.entries, fits.tensorVersion, fits.descriptor⟩, rfl, rfl⟩, type, rfl, ?_⟩⟩
  -- The elements are in the order that they are written in.
  rw [decoded.littleBytes]
  refine decodeBody_eq_ok.mpr ⟨decoded.sized, by rw [decoded.closed]; decide,
    by rw [decoded.length_bytes, Nat.mul_mod_right], shape, rfl, _,
    (bodyExtents_eq_ok_iff_fills decoded.sized).mpr ⟨tensor.extents, ⟨under, decoded.length_bytes⟩, rfl⟩,
    layOut_eq_ok.mpr ⟨decoded.closed, checkLayout_of_bounded decoded.bounded decoded.sized, decoded.single, ?_⟩⟩
  rw [← decoded.element, ← decoded.order, map_toNat_map_ofNat]

/-- What was decoded as elements of a type could have been decoded as elements of its own one. -/
theorem own (decoded : tensor.DecodedAs type) (bounded : Bounded tensor.element tensor.extents) :
    tensor.DecodedAs tensor.element := by
  obtain ⟨regular, sized⟩ := ElementType.regular_unblocked decoded.regular decoded.sized
  have fixed : type.unblocked.1.Fixed :=
    ⟨regular, type.single_unblocked, type.reach_unblocked.trans decoded.closed, sized⟩
  have turned : tensor.element.Fixed := decoded.element ▸ fixed.native
  have alone := ElementType.unblocked_of_single turned.single
  refine ⟨turned.regular, turned.sized, turned.closed, ?_, decoded.order, decoded.whole, .inr (by rw [alone]; rfl), bounded⟩
  rw [alone, decoded.element, ElementType.native_native type.single_unblocked]

/-- Elements in blocks that hold some take no more bytes than their blocks. -/
theorem bounded_own (decoded : tensor.DecodedAs type) (filled : elementCount type.unblocked.2 ≠ 0) :
    Bounded tensor.element tensor.extents := by
  refine ⟨decoded.bounded.rank, Nat.lt_of_le_of_lt (Nat.mul_le_mul_right _ ?_) decoded.bounded.storage⟩
  rw [decoded.element, ElementType.size_native, ElementType.size_eq_of_filled decoded.regular filled]
  exact Nat.le_mul_of_pos_left _ (Nat.pos_of_ne_zero filled)

/-- The exchange of the first two axes keeps what a tensor was decoded as. -/
theorem exchanged {first second : Nat} {rest : List Nat} {other : Tensor} (decoded : tensor.DecodedAs type)
    (extents : tensor.extents = first :: second :: rest) (exchanges : tensor.Exchanges other first second rest) :
    other.DecodedAs type := by
  have same : tensor.extents.Perm other.extents := by
    rw [extents, exchanges.extents]
    exact .swap second first rest
  refine ⟨decoded.regular, decoded.sized, decoded.closed, exchanges.element.trans decoded.element,
    exchanges.order.trans decoded.order, exchanges.whole, decoded.single.imp_left fun empty => ?_,
    decoded.bounded.perm same⟩
  have long : other.bytes.length = tensor.bytes.length := by
    rw [exchanges.whole, decoded.whole, exchanges.element, count, count, elementCount_perm same]
  exact List.length_eq_zero_iff.mp (long.trans (List.length_eq_zero_iff.mpr empty))

end DecodedAs

end Tensor

end LayerGraph
