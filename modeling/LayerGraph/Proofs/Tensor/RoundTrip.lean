import LayerGraph.Proofs.Tensor.View

/-! Writing and reading a tensor undo each other.

Whatever is written is read back: the elements in row-major order and in the order of the machine, under
the extents themselves or with one of them left open. Whatever is read is written back to the same
bytes by the parts that were read with it, and by no others.
-/

set_option autoImplicit false

namespace LayerGraph

open Attempt Number Payload

/-! ### Shapes that extents stand under -/

/-- A shape that extents are laid out under: the extents, or these with one left open that the number of
elements gives back. -/
inductive StandsUnder (extents : List Nat) : Shape → Prop where
  | known : StandsUnder extents (extents.map Int.ofNat)
  | inferred {front back : List Nat} {extent : Nat} {gap : Int} (split : extents = front ++ extent :: back)
      (negative : gap < 0) (determined : elementCount (front ++ back) ≠ 0) :
      StandsUnder extents (front.map Int.ofNat ++ gap :: back.map Int.ofNat)

theorem elementCount_append (front back : List Nat) :
    elementCount (front ++ back) = elementCount front * elementCount back := by
  induction front with
  | nil => simp
  | cons extent front ih => simp [ih, Nat.mul_assoc]

theorem elementCount_middle (front back : List Nat) (extent : Nat) :
    elementCount (front ++ extent :: back) = elementCount (front ++ back) * extent := by
  simp only [elementCount_append, elementCount_cons]
  rw [Nat.mul_assoc, Nat.mul_comm extent]

theorem count_map_ofNat (extents : List Nat) :
    Shape.count (extents.map Int.ofNat) = elementCount extents := by
  induction extents with
  | nil => rfl
  | cons extent extents ih => simp [ih]

theorem map_toNat_map_ofNat (extents : List Nat) : (extents.map Int.ofNat).map Int.toNat = extents := by
  rw [List.map_map]
  exact (List.map_congr_left fun _ _ => rfl).trans (List.map_id extents)

theorem filter_negative_map_ofNat (extents : List Nat) :
    (extents.map Int.ofNat).filter (· < 0) = [] := by
  simp

theorem filter_known_map_ofNat (extents : List Nat) :
    (extents.map Int.ofNat).filter (0 ≤ ·) = extents.map Int.ofNat := by
  simp

/-- The known extents beside an open one. -/
theorem filter_known_split (front back : List Nat) {gap : Int} (negative : gap < 0) :
    (front.map Int.ofNat ++ gap :: back.map Int.ofNat).filter (0 ≤ ·) = (front ++ back).map Int.ofNat := by
  rw [List.filter_append, List.filter_cons_of_neg (by simpa using negative), filter_known_map_ofNat,
    filter_known_map_ofNat, List.map_append]

/-- Extents that are known stay as they are. -/
theorem map_known (extents : List Nat) (inferred : Int) :
    (extents.map Int.ofNat).map (fun extent => if extent < 0 then inferred else extent) =
      extents.map Int.ofNat := by
  rw [List.map_map]
  refine List.map_congr_left fun extent _ => ?_
  have known : ¬ Int.ofNat extent < 0 := Int.not_lt.mpr (Int.natCast_nonneg extent)
  rw [Function.comp_apply, if_neg known]

/-- Under a shape that leaves one of them open, extents are found from their number of elements. -/
theorem fill_of_standsUnder {extents : List Nat} {shape : Shape} (under : StandsUnder extents shape) :
    shape.fill (elementCount extents) = .ok (extents.map Int.ofNat) := by
  cases under with
  | known => rw [Shape.fill, filter_negative_map_ofNat]
  | @inferred front back extent gap split negative determined =>
    subst split
    have unknown : (front.map Int.ofNat ++ gap :: back.map Int.ofNat).filter (· < 0) = [gap] := by
      rw [List.filter_append, List.filter_cons_of_pos (by simpa using negative),
        filter_negative_map_ofNat, filter_negative_map_ofNat, List.nil_append]
    -- Over the product of the others, the count of all elements gives back the open extent.
    have nonzero : (elementCount (front ++ back) : Int) ≠ 0 := Int.natCast_ne_zero.mpr determined
    have quotient : ((elementCount (front ++ extent :: back) : Nat) : Int) / elementCount (front ++ back) =
        extent := by
      rw [elementCount_middle, Int.natCast_mul, Int.mul_ediv_cancel_left _ nonzero]
    have divides : ((elementCount (front ++ extent :: back) : Nat) : Int) % elementCount (front ++ back) =
        0 := by
      rw [elementCount_middle, Int.natCast_mul, Int.mul_emod_right]
    rw [Shape.fill, unknown]
    dsimp only
    rw [filter_known_split front back negative, count_map_ofNat, if_neg (not_or.mpr ⟨nonzero, Decidable.not_not.mpr divides⟩), quotient,
      List.map_append, List.map_append, map_known, List.map_cons, List.map_cons, map_known, if_pos negative]
    rfl

/-! ### What an array may be -/

theorem elementCount_nonzero_pos (extents : List Nat) : 0 < elementCount (extents.filter (· ≠ 0)) := by
  induction extents with
  | nil => exact Nat.one_pos
  | cons extent extents ih =>
    rcases Nat.eq_zero_or_pos extent with rfl | positive
    · exact ih
    · rw [List.filter_cons_of_pos (by simpa using Nat.pos_iff_ne_zero.mp positive), elementCount_cons]
      exact Nat.mul_pos positive ih

/-- The extents that are not zero multiply to no less than any of them. -/
theorem le_elementCount_nonzero {extents : List Nat} {extent : Nat} (member : extent ∈ extents) :
    extent ≤ elementCount (extents.filter (· ≠ 0)) := by
  induction extents with
  | nil => cases member
  | cons first extents ih =>
    rcases Nat.eq_zero_or_pos first with rfl | positive
    · rcases List.mem_cons.mp member with rfl | among
      · exact Nat.zero_le _
      · exact ih among
    · rw [List.filter_cons_of_pos (by simpa using Nat.pos_iff_ne_zero.mp positive), elementCount_cons]
      rcases List.mem_cons.mp member with rfl | among
      · exact Nat.le_mul_of_pos_right _ (elementCount_nonzero_pos extents)
      · exact Nat.le_trans (ih among) (Nat.le_mul_of_pos_left _ positive)

/-- A product that stays small with every extent that is not zero does not outgrow a word on the way. -/
theorem outgrows_eq_false {extents : List Nat} {count : Nat}
    (small : count * elementCount (extents.filter (· ≠ 0)) < wordHalf) :
    Tensor.outgrows count (extents.map Int.ofNat) = false := by
  induction extents generalizing count with
  | nil => rfl
  | cons extent extents ih =>
    have step : count * extent * elementCount (extents.filter (· ≠ 0)) < wordHalf := by
      rcases Nat.eq_zero_or_pos extent with rfl | positive
      · simp [wordHalf]
      · rwa [List.filter_cons_of_pos (by simpa using Nat.pos_iff_ne_zero.mp positive), elementCount_cons,
          ← Nat.mul_assoc] at small
    have here : count * extent < wordHalf :=
      Nat.lt_of_le_of_lt (Nat.le_mul_of_pos_right _ (elementCount_nonzero_pos extents)) step
    change (decide (wordHalf ≤ count * extent) || Tensor.outgrows (count * extent) _) = false
    rw [ih step, Bool.or_false]
    exact decide_eq_false (Nat.not_le.mpr here)

namespace Tensor

/-- What bounds a dense array: its axes, and its bytes, an extent of zero apart. -/
structure Bounded (element : ElementType) (extents : List Nat) : Prop where
  rank : extents.length ≤ 64
  storage : element.size * elementCount (extents.filter (· ≠ 0)) < wordHalf

theorem checkLayout_of_bounded {element : ElementType} {extents : List Nat}
    (bounded : Bounded element extents) (sized : 0 < element.size) :
    checkLayout element (extents.map Int.ofNat) = .ok () := by
  have counted : elementCount (extents.filter (· ≠ 0)) < wordHalf :=
    Nat.lt_of_le_of_lt (Nat.le_mul_of_pos_left _ sized) bounded.storage
  have ranked : checkExtents (extents.map Int.ofNat) = .ok () := by
    have small : (extents.map Int.ofNat).any (fun extent => wordHalf ≤ extent) = false := by
      simp only [List.any_eq_false, List.mem_map, decide_eq_true_eq]
      -- An extent of zero makes the count zero, whatever the others are, so it is left out of the bound.
      rintro _ ⟨extent, member, rfl⟩ large
      have := Nat.lt_of_le_of_lt (le_elementCount_nonzero member) counted
      exact absurd (Int.ofNat_le.mp large) (Nat.not_le.mpr this)
    rw [checkExtents, List.length_map, if_neg (Nat.not_lt.mpr bounded.rank), small]
    rfl
  have stored : checkStorage element (extents.map Int.ofNat) = .ok () := by
    rw [checkStorage, storage, map_toNat_map_ofNat, if_neg (Nat.not_le.mpr bounded.storage)]
  rw [checkLayout, ranked]
  change (if outgrows 1 (extents.map Int.ofNat) = true then _ else _) = _
  rw [outgrows_eq_false (by rw [Nat.one_mul]; exact counted), stored]
  rfl

/-! ### Reading a body -/

theorem decodeTyped_eq_ok {bytes : Bytes} {type : Attempt ElementType} {declared : Attempt Shape}
    {expected : Int} {name : String} {tensor : Tensor} :
    decodeTyped bytes type declared expected name = .ok tensor ↔
      ∃ payload, Payload.read expected bytes = .ok payload ∧ ∃ element, type = .ok element ∧
        decodeBody element declared name payload.body = .ok tensor := by
  simp only [decodeTyped, bind_eq_ok, mapError_eq_ok]

theorem bodyExtents_eq_ok {element : ElementType} {shape extents : Shape} {size : Nat} :
    bodyExtents element shape size = .ok extents ↔
      size % element.size = 0 ∧ shape.fill (size / element.size) = .ok extents ∧
        ((size / element.size : Nat) : Int) = extents.count := by
  unfold bodyExtents
  split
  · next ragged => exact ⟨nofun, fun all => absurd all.1 ragged⟩
  · next whole =>
    rw [bind_eq_ok]
    constructor
    · rintro ⟨filled, found, same⟩
      split at same
      · cases same
      · next counted =>
        cases same
        exact ⟨Decidable.not_not.mp whole, found, Decidable.not_not.mp counted⟩
    · rintro ⟨_, found, counted⟩
      exact ⟨extents, found, if_neg (Decidable.not_not.mpr counted)⟩

theorem layOut_eq_ok {element : ElementType} {extents : Shape} {body : Bytes} {tensor : Tensor} :
    layOut element extents body = .ok tensor ↔
      element.reach = .none ∧ checkLayout element extents = .ok () ∧
        (body = [] ∨ elementCount element.unblocked.2 = 1) ∧
        tensor = ⟨element.unblocked.1.native, .little, extents.map Int.toNat, body⟩ := by
  unfold layOut
  split
  · next reaching => exact ⟨fun found => absurd found fault_ne_ok, fun all => absurd all.1 reaching⟩
  · next closed =>
    rw [bind_eq_ok]
    constructor
    · rintro ⟨checked, sound, found⟩
      dsimp only at found
      split at found
      · cases found
      · next single =>
        refine ⟨Decidable.not_not.mp closed, sound, ?_, (Except.ok.inj found).symm⟩
        rcases List.eq_nil_or_concat body with empty | ⟨front, last, rfl⟩
        · exact .inl empty
        · exact .inr (Decidable.not_not.mp fun several => single ⟨by simp, several⟩)
    · rintro ⟨_, sound, single, rfl⟩
      refine ⟨(), sound, if_neg fun several => ?_⟩
      rcases single with rfl | one
      · exact Nat.lt_irrefl 0 several.1
      · exact several.2 one

theorem decodeBody_eq_ok {element : ElementType} {declared : Attempt Shape} {name : String}
    {body : Bytes} {tensor : Tensor} :
    decodeBody element declared name body = .ok tensor ↔
      0 < element.size ∧ element.reach ≠ .longTexts ∧ body.length % element.size = 0 ∧
        ∃ shape, declared = .ok shape ∧ ∃ extents, bodyExtents element shape body.length = .ok extents ∧
          layOut element extents body = .ok tensor := by
  unfold decodeBody
  by_cases long : element.reach = .longTexts
  · simp [long]
  by_cases empty : element.size = 0
  · simp [long, empty]
  by_cases ragged : body.length % element.size = 0
  · simp [long, empty, ragged, bind_eq_ok, mapError_eq_ok, Nat.pos_of_ne_zero empty]
  · simp [long, empty, ragged]

/-- The bytes of a tensor in the order of the machine stand as they are. -/
theorem littleBytes_of_native {type : ElementType} {extents : List Nat} {bytes : Bytes}
    (sized : 0 < type.size) :
    (⟨type.native, .little, extents, bytes⟩ : Tensor).littleBytes = bytes := by
  -- Only a record is reordered piece by piece.
  cases type with
  | record stretches reach =>
    have width : (ElementType.record stretches reach).native.size = Stretch.total stretches :=
      ElementType.size_native
    obtain ⟨joined, short⟩ := chunks_whole
      (ElementType.size_native.symm ▸ sized : 0 < (ElementType.record stretches reach).native.size)
      (Nat.le_refl bytes.length)
    have kept : (chunks (ElementType.record stretches reach).native.size bytes.length bytes).map
        (Stretch.littleElement (stretches.map Stretch.little)) =
        chunks (ElementType.record stretches reach).native.size bytes.length bytes := by
      refine (List.map_congr_left fun piece found => ?_).trans (List.map_id _)
      exact Stretch.littleElement_map_little (width ▸ short piece found)
    exact (congrArg List.flatten kept).trans joined
  | _ => rfl

/-- What is written of an array is read back as the same array in the order of the machine. -/
theorem decodeBody_littleBytes {tensor : Tensor} {shape : Shape} (name : String)
    (fixed : tensor.element.Fixed) (whole : tensor.WellFormed)
    (bounded : Bounded tensor.element tensor.extents) (under : StandsUnder tensor.extents shape) :
    decodeBody tensor.element (.ok shape) name tensor.littleBytes = .ok tensor.native := by
  have long : tensor.littleBytes.length = tensor.count * tensor.element.size := by
    have native := whole.native fixed.regular fixed.single fixed.sized
    rwa [WellFormed, Tensor.native, ElementType.size_native] at native
  have counted : tensor.littleBytes.length / tensor.element.size = elementCount tensor.extents := by
    rw [long]
    exact Nat.mul_div_cancel _ fixed.sized
  have ragged : tensor.littleBytes.length % tensor.element.size = 0 := by
    rw [long, Nat.mul_mod_left]
  have single := ElementType.unblocked_of_single fixed.single
  have filled : bodyExtents tensor.element shape tensor.littleBytes.length =
      .ok (tensor.extents.map Int.ofNat) :=
    bodyExtents_eq_ok.mpr ⟨ragged, by rw [counted]; exact fill_of_standsUnder under,
      by rw [counted, count_map_ofNat]⟩
  refine decodeBody_eq_ok.mpr ⟨fixed.sized, by rw [fixed.closed]; decide, ragged, shape, rfl, _, filled,
    layOut_eq_ok.mpr ⟨fixed.closed, checkLayout_of_bounded bounded fixed.sized, .inr ?_, ?_⟩⟩
  · rw [single]
    rfl
  · rw [single, map_toNat_map_ofNat]
    rfl

/-- What is read of a body holds all of it. -/
theorem littleBytes_of_decodeBody {element : ElementType} {declared : Attempt Shape} {name : String}
    {body : Bytes} {tensor : Tensor} (regular : element.Regular)
    (read : decodeBody element declared name body = .ok tensor) : tensor.littleBytes = body := by
  obtain ⟨sized, _, _, shape, _, extents, _, laid⟩ := decodeBody_eq_ok.mp read
  obtain ⟨_, _, _, rfl⟩ := layOut_eq_ok.mp laid
  exact littleBytes_of_native (ElementType.regular_unblocked regular sized).2

/-- Only the parts that a payload was read with are written to its bytes, whatever tensor they are written
around. -/
theorem parts_of_encode {payload : Payload} {other : Tensor} {entries : List Bytes} {version : Int}
    {descriptor : Bytes} (fits : payload.Fits) (entriesFit : EntriesFit entries)
    (written : other.encode entries version payload.tensorVersion descriptor = .ok payload.bytes) :
    version = payload.version ∧ entries = payload.entries ∧ descriptor = payload.descriptor ∧
      other.littleBytes = payload.body := by
  obtain ⟨outer, inner, rfl, same, outerFits, innerFits, short, bytes⟩ := encode_eq_ok.mp written
  have otherFits : (Payload.mk outer entries inner descriptor other.littleBytes).Fits :=
    ⟨outerFits, entriesFit, innerFits, short⟩
  obtain rfl := eq_of_bytes fits otherFits (Int.ofNat_inj.mp same) bytes.symm
  exact ⟨rfl, rfl, rfl, rfl⟩

/-- Every payload that is read as a tensor is written again from that tensor, byte for byte, with an outer
version, entries and a descriptor that no other ones can stand in for. -/
theorem encode_of_decode {bytes : Bytes} {type : Attempt ElementType} {declared : Attempt Shape}
    {expected : Int} {name : String} {tensor : Tensor}
    (regular : ∀ element, type = .ok element → element.Regular)
    (read : decodeTyped bytes type declared expected name = .ok tensor) :
    ∃ (version : Int) (entries : List Bytes) (descriptor : Bytes), EntriesFit entries ∧
      tensor.encode entries version expected descriptor = .ok bytes ∧
      ∀ (other : Tensor) (version' : Int) (entries' : List Bytes) (descriptor' : Bytes),
        EntriesFit entries' → other.encode entries' version' expected descriptor' = .ok bytes →
          version' = version ∧ entries' = entries ∧ descriptor' = descriptor ∧
            other.littleBytes = tensor.littleBytes := by
  obtain ⟨payload, parsed, element, typed, decoded⟩ := decodeTyped_eq_ok.mp read
  obtain ⟨fits, rfl, rfl⟩ := read_eq_ok.mp parsed
  have body := littleBytes_of_decodeBody (regular element typed) decoded
  refine ⟨payload.version, payload.entries, payload.descriptor, fits.entries, ?_, ?_⟩
  · refine encode_eq_ok.mpr ⟨payload.version, payload.tensorVersion, rfl, rfl, fits.version,
      fits.tensorVersion, fits.descriptor, ?_⟩
    rw [body]
  · intro other version' entries' descriptor' entriesFit written
    rw [body]
    exact parts_of_encode fits entriesFit written

/-- A payload of two numbers behind one entry and a descriptor. -/
def pair : Payload := ⟨3, [[7]], 0, [9], [1, 0, 2, 0]⟩

/-- The numbers of a payload are written back behind its own entry and descriptor. -/
theorem encode_pair : ∃ tensor version entries descriptor,
    decodeTyped pair.bytes (.ok (.signed 2)) (.ok [-1]) 0 "pair" = .ok tensor ∧
      tensor.encode entries version 0 descriptor = .ok pair.bytes := by
  have read : decodeTyped pair.bytes (.ok (.signed 2)) (.ok [-1]) 0 "pair" =
      .ok ⟨.signed 2, .little, [2], [1, 0, 2, 0]⟩ := by rfl
  obtain ⟨version, entries, descriptor, _, written, _⟩ :=
    encode_of_decode (fun element same => by cases same; exact Nat.dvd_refl 2) read
  exact ⟨_, version, entries, descriptor, read, written⟩

end Tensor

namespace View

/-- A view that is an array: elements of a fixed width inside the buffer, within the bounds of an array. -/
structure IsArray (view : View) : Prop where
  fixed : view.element.Fixed
  within : view.InBuffer
  bounded : Tensor.Bounded view.element view.extents

/-- What is written of an array, in whatever order its elements lie and are stored, is read back under its
extents, or with one of them left open: the same type in the order of the machine, the same extents and
the same numbers in the element at every index. -/
theorem decode_of_encode {view : View} {entries : List Bytes} {version tensorVersion : Nat}
    {descriptor : Bytes} (array : view.IsArray) (entriesFit : EntriesFit entries)
    (versionFits : version < 0x100000000) (tensorFits : tensorVersion < 0x100000000)
    (short : descriptor.length < 0x80000000) :
    ∃ bytes decoded,
      view.contiguous.encode entries version tensorVersion descriptor = .ok bytes ∧
      decoded.element = view.element.native ∧ decoded.order = .little ∧ decoded.extents = view.extents ∧
      decoded.WellFormed ∧
      (∀ index, Inside view.extents index → decoded.view.numbersAt index = view.numbersAt index) ∧
      ∀ type shape name, type = .ok view.element → StandsUnder view.extents shape →
        Tensor.decodeTyped bytes type (.ok shape) tensorVersion name = .ok decoded := by
  have regular := array.fixed.regular
  have single := array.fixed.single
  have sized := array.fixed.sized
  have whole : view.contiguous.WellFormed := wellFormed_contiguous array.within
  refine ⟨_, view.contiguous.native, Tensor.encode_eq_ok.mpr
    ⟨version, tensorVersion, rfl, rfl, versionFits, tensorFits, short, rfl⟩, rfl, rfl, rfl,
    whole.native regular single sized, fun index inside => ?_, fun type shape name typed under => ?_⟩
  · calc view.contiguous.native.view.numbersAt index
        = view.contiguous.view.numbersAt index := Tensor.numbersAt_native whole regular single sized inside
      _ = view.numbersAt index := numbersAt_contiguous array.within inside
  · refine Tensor.decodeTyped_eq_ok.mpr ⟨_, read_eq_ok.mpr
      ⟨⟨versionFits, entriesFit, tensorFits, short⟩, rfl, rfl⟩, view.element, typed, ?_⟩
    exact Tensor.decodeBody_littleBytes name array.fixed whole array.bounded under

/-- Three rows of two numbers, most significant byte first, stored column by column. -/
def columns : View :=
  ⟨.signed 2, .big, #[0, 1, 0, 3, 0, 5, 0, 2, 0, 4, 0, 6], 0, [⟨3, 2⟩, ⟨2, 6⟩]⟩

theorem isArray_columns : columns.IsArray :=
  ⟨⟨⟨1, rfl⟩, trivial, rfl, by decide⟩, by decide, ⟨by decide, by decide⟩⟩

/-- The rows are read back when their number is left open. -/
theorem decode_columns : ∃ bytes decoded,
    columns.contiguous.encode [[7], []] 3 5 [9] = .ok bytes ∧ decoded.extents = [3, 2] ∧
      Tensor.decodeTyped bytes (.ok (.signed 2)) (.ok [-1, 2]) 5 "columns" = .ok decoded ∧
      decoded.view.numbersAt [2, 1] = [6] := by
  have rows : StandsUnder columns.extents [-1, 2] :=
    @StandsUnder.inferred [3, 2] [] [2] 3 (-1) rfl (by decide) (by decide)
  obtain ⟨bytes, decoded, written, _, _, extents, _, same, read⟩ :=
    decode_of_encode isArray_columns (⟨by decide, by decide⟩ : EntriesFit [[7], []])
      (by decide : 3 < 0x100000000) (by decide : 5 < 0x100000000) (by decide : [(9 : UInt8)].length < 0x80000000)
  have inside : Inside columns.extents [2, 1] := ⟨by decide, by decide, trivial⟩
  exact ⟨bytes, decoded, written, extents, read _ _ _ rfl rows, (same [2, 1] inside).trans (by decide)⟩

end View

end LayerGraph
