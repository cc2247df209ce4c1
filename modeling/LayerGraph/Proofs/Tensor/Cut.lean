import LayerGraph.Proofs.Tensor.Outcomes

/-! Payloads with bytes missing or too many.

A payload that is decoded under a shape of known extents is decoded from no fewer bytes and from no more. Where the bytes
stop tells the errors apart: inside the header it is cut short, and behind it the body does not fill the shape.
-/

set_option autoImplicit false

namespace LayerGraph

open Attempt Number Payload

/-- Only extents themselves stand under a shape of known extents. -/
theorem StandsUnder.eq_of_nonneg {extents : List Nat} {shape : Shape} (under : StandsUnder extents shape)
    (static : ∀ extent ∈ shape, 0 ≤ extent) : shape = extents.map Int.ofNat := by
  cases under with
  | known => rfl
  | @inferred _ _ _ gap _ negative _ => exact absurd (static gap (by simp)) (Int.not_le.mpr negative)

/-- A payload with another body has the same header. -/
theorem Payload.Whole.withBody {payload : Payload} {expected : Int} {bytes : Bytes} (whole : payload.Whole expected bytes)
    (body : Bytes) : Payload.Whole { payload with body := body } expected (payload.header ++ body) :=
  ⟨⟨whole.fits.version, whole.fits.entries, whole.fits.tensorVersion, whole.fits.descriptor⟩, whole.same, rfl⟩

/-- An inner version is a number of four bytes, so words about it are shown. -/
theorem Payload.Whole.shows {payload : Payload} {expected : Int} {bytes : Bytes} (whole : payload.Whole expected bytes) :
    Text.showsInteger expected = true := by
  have small := whole.fits.tensorVersion
  have word : expected.natAbs ≤ wordHalf := by
    rw [← whole.same, Int.natAbs_natCast, wordHalf]
    omega
  exact Shape.shows_of_le (Nat.le_trans word (Nat.le_self_pow (by decide) wordHalf))

namespace Tensor

/-- The extents of an array could be declared. -/
theorem Bounded.representable {element : ElementType} {extents : List Nat} (bounded : Bounded element extents)
    (sized : 0 < element.size) : Shape.Representable (extents.map Int.ofNat) := by
  refine ⟨by simpa using bounded.rank, fun _ listed => ?_⟩
  obtain ⟨extent, member, rfl⟩ := List.mem_map.mp listed
  have small : extent < wordHalf := by
    calc extent ≤ elementCount (extents.filter (· ≠ 0)) := le_elementCount_nonzero member
      _ ≤ element.size * elementCount (extents.filter (· ≠ 0)) := Nat.le_mul_of_pos_left _ sized
      _ < wordHalf := bounded.storage
  simp only [isWord, Int.ofNat_eq_natCast, Bool.and_eq_true, decide_eq_true_eq]
  omega

section
variable {bytes : Bytes} {type : Attempt ElementType} {shape : Shape} {expected : Int} {name : String} {tensor : Tensor}

/-- What is decoded under a shape of known extents: a whole payload, the body of which has as many bytes as they ask for. -/
theorem exists_whole (accepted : decodeTyped bytes type (.ok shape) expected name = .ok tensor)
    (static : ∀ extent ∈ shape, 0 ≤ extent) :
    ∃ (element : ElementType) (payload : Payload), type = .ok element ∧ element.FixedWidth ∧ shape.Representable ∧
      payload.Whole expected bytes ∧ (payload.body.length : Int) = element.size * shape.count := by
  obtain ⟨_, _, element, rfl, decoded⟩ := decodeTyped_eq_ok.mp accepted
  obtain ⟨sized, short, _⟩ := decodeBody_eq_ok.mp decoded
  have width : element.FixedWidth := ⟨sized, short⟩
  obtain ⟨payload, whole, extents, ⟨under, size⟩, held⟩ := (decodeTyped_succeeds_iff width).mp ⟨tensor, accepted⟩
  obtain rfl := under.eq_of_nonneg static
  refine ⟨element, payload, rfl, width, held.bounded.representable sized, whole, ?_⟩
  rw [size, Int.natCast_mul, count_map_ofNat]

/-- A body with other than the bytes that known extents ask for does not fill them. -/
theorem refuses_withBody {element : ElementType} {payload : Payload} {body : Bytes} (width : element.FixedWidth)
    (represented : shape.Representable) (static : ∀ extent ∈ shape, 0 ≤ extent) (whole : payload.Whole expected bytes)
    (other : (body.length : Int) ≠ element.size * shape.count) :
    Refuses (decodeTyped (payload.header ++ body) (.ok element) (.ok shape) expected name) name .shapeMismatch := by
  refine (refuses_shapeMismatch_iff width represented whole.shows).mpr ⟨_, whole.withBody body, ?_⟩
  rintro ⟨extents, under, size⟩
  obtain rfl := under.eq_of_nonneg static
  refine other ?_
  rw [size, Int.natCast_mul, count_map_ofNat]

/-- Bytes that are decoded under known extents are refused when they stop anywhere, and when any others follow them. -/
theorem decodeTyped_take_append (accepted : decodeTyped bytes type (.ok shape) expected name = .ok tensor)
    (static : ∀ extent ∈ shape, 0 ≤ extent) :
    ∃ payload : Payload, payload.Whole expected bytes ∧
      (∀ count < bytes.length, Refuses (decodeTyped (bytes.take count) type (.ok shape) expected name) name
        (if count < payload.header.length then .truncatedPayload else .shapeMismatch)) ∧
      ∀ extra : Bytes, extra ≠ [] →
        Refuses (decodeTyped (bytes ++ extra) type (.ok shape) expected name) name .shapeMismatch := by
  obtain ⟨element, payload, rfl, width, represented, whole, size⟩ := exists_whole accepted static
  have split : bytes = payload.header ++ payload.body := whole.bytes_eq.symm
  refine ⟨payload, whole, fun count less => ?_, fun extra some => ?_⟩
  · split
    · next inside =>
      -- Nothing of the body is left, and the header is walked up to the cut.
      have front : bytes.take count ++ payload.header.drop count = payload.header := by
        rw [split, List.take_append_of_le_length (Nat.le_of_lt inside), List.take_append_drop]
      have missing : payload.header.drop count ≠ [] := by simpa using inside
      have cut := exists_cutShort whole.fits front missing
      rw [whole.same] at cut
      exact (refuses_truncatedPayload_iff width represented whole.shows).mpr cut
    · next behind =>
      -- The header is whole, and what is left of the body is too short for the extents.
      rw [split, List.length_append] at less
      rw [split, List.take_append, List.take_of_length_le (Nat.not_lt.mp behind)]
      refine refuses_withBody width represented static whole fun same => ?_
      rw [← size, List.length_take] at same
      omega
  · rw [split, List.append_assoc]
    refine refuses_withBody width represented static whole fun same => ?_
    rw [← size, List.length_append] at same
    have := List.length_pos_iff.mpr some
    omega

end

/-- Two numbers are not decoded from fewer bytes, wherever these stop. -/
theorem take_pair : decodeTyped pair.bytes (.ok (.signed 2)) (.ok [2]) 0 "pair" = .ok ⟨.signed 2, .little, [2], [1, 0, 2, 0]⟩ ∧
    ∀ count < pair.bytes.length, ∃ errorClass,
      Refuses (decodeTyped (pair.bytes.take count) (.ok (.signed 2)) (.ok [2]) 0 "pair") "pair" errorClass := by
  have accepted : decodeTyped pair.bytes (.ok (.signed 2)) (.ok [2]) 0 "pair" =
      .ok ⟨.signed 2, .little, [2], [1, 0, 2, 0]⟩ := rfl
  obtain ⟨payload, _, cut, _⟩ := decodeTyped_take_append accepted (by decide)
  exact ⟨accepted, fun count less => ⟨_, cut count less⟩⟩

end Tensor

end LayerGraph
