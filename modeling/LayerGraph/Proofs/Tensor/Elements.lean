import LayerGraph.Proofs.Tensor.Header

/-! What elements hold, apart from the byte order they are stored in.

An element is a row of units, each of which is read as a number. Turning the units around changes the
bytes of an element but, read in the new order, none of its numbers. Bytes that hold whole elements
are cut into pieces of one width, and every rearrangement works piece by piece.
-/

set_option autoImplicit false

namespace LayerGraph

/-! ### Bytes in pieces -/

/-- Bytes cut into pieces of one width. -/
structure Cut (width : Nat) (pieces : List Bytes) (bytes : Bytes) : Prop where
  uniform : ∀ piece ∈ pieces, piece.length = width
  joined : pieces.flatten = bytes

namespace Cut

variable {width : Nat} {pieces : List Bytes} {bytes : Bytes}

theorem nil (width : Nat) : Cut width [] [] := ⟨by simp, rfl⟩

theorem cons {piece : Bytes} (whole : piece.length = width) (cut : Cut width pieces bytes) :
    Cut width (piece :: pieces) (piece ++ bytes) :=
  ⟨by simpa using ⟨whole, cut.uniform⟩, by rw [List.flatten_cons, cut.joined]⟩

theorem tail {piece : Bytes} (cut : Cut width (piece :: pieces) bytes) :
    piece.length = width ∧ bytes = piece ++ pieces.flatten ∧ Cut width pieces pieces.flatten :=
  ⟨cut.uniform piece (by simp), cut.joined.symm,
    fun other found => cut.uniform other (by simp [found]), rfl⟩

/-- Pieces that are changed one by one without a change of their width. -/
theorem map {change : Bytes → Bytes} (cut : Cut width pieces bytes)
    (kept : ∀ piece : Bytes, piece.length = width → (change piece).length = width) :
    Cut width (pieces.map change) (pieces.map change).flatten := by
  refine ⟨fun piece found => ?_, rfl⟩
  obtain ⟨original, among, rfl⟩ := List.mem_map.mp found
  exact kept original (cut.uniform original among)

theorem length_eq (cut : Cut width pieces bytes) : bytes.length = pieces.length * width := by
  induction pieces generalizing bytes with
  | nil => simp [← cut.joined]
  | cons piece pieces ih =>
    obtain ⟨whole, rfl, rest⟩ := cut.tail
    rw [List.length_append, whole, ih rest, List.length_cons, Nat.succ_mul, Nat.add_comm]

/-- Bytes that are so many times a width long can be cut. -/
theorem exists_of_length {count : Nat} (long : bytes.length = count * width) :
    ∃ pieces, pieces.length = count ∧ Cut width pieces bytes := by
  induction count generalizing bytes with
  | zero =>
    rw [Nat.zero_mul, List.length_eq_zero_iff] at long
    exact ⟨[], rfl, long ▸ nil width⟩
  | succ count ih =>
    rw [Nat.succ_mul] at long
    have behind : (bytes.drop width).length = count * width := by rw [List.length_drop]; omega
    obtain ⟨pieces, counted, cut⟩ := ih behind
    refine ⟨bytes.take width :: pieces, by simp [counted], ?_⟩
    have whole : (bytes.take width).length = width := by rw [List.length_take]; omega
    simpa using cut.cons whole

theorem chunks_eq (cut : Cut width pieces bytes) (positive : 0 < width) {fuel : Nat}
    (enough : pieces.length ≤ fuel) : chunks width fuel bytes = pieces := by
  induction pieces generalizing bytes fuel with
  | nil => cases fuel <;> simp [← cut.joined, chunks]
  | cons piece pieces ih =>
    obtain ⟨whole, rfl, rest⟩ := cut.tail
    obtain ⟨fuel, rfl⟩ : ∃ less, fuel = less + 1 := ⟨fuel - 1, by rw [List.length_cons] at enough; omega⟩
    -- A piece of a positive width begins with a byte, so the bytes are not used up.
    obtain ⟨byte, behind, rfl⟩ : ∃ byte behind, piece = byte :: behind :=
      List.exists_cons_of_length_pos (whole ▸ positive)
    have step : chunks width (fuel + 1) ((byte :: behind) ++ pieces.flatten) =
        ((byte :: behind) ++ pieces.flatten).take width ::
          chunks width fuel (((byte :: behind) ++ pieces.flatten).drop width) := rfl
    rw [step, ← whole, List.take_left, List.drop_left, whole,
      ih rest (by rw [List.length_cons] at enough; omega)]

/-- The pieces of bytes do not depend on how many more there could be. -/
theorem chunks_length_eq (cut : Cut width pieces bytes) (positive : 0 < width) :
    chunks width bytes.length bytes = pieces :=
  cut.chunks_eq positive (by rw [cut.length_eq]; exact Nat.le_mul_of_pos_right _ positive)

/-- Units are turned around one by one. -/
theorem reverseUnits_eq (cut : Cut width pieces bytes) (positive : 0 < width) :
    reverseUnits width bytes = (pieces.map List.reverse).flatten := by
  unfold reverseUnits
  split
  · next narrow =>
    have same : pieces.map List.reverse = pieces := by
      refine (List.map_congr_left fun piece found => ?_).trans (List.map_id pieces)
      obtain ⟨byte, rfl⟩ := List.length_eq_one_iff.mp
        ((cut.uniform piece found).trans (Nat.le_antisymm narrow positive))
      rfl
    rw [same, cut.joined]
  · rw [cut.chunks_length_eq positive, List.flatMap_def]

/-- Pieces of several units are turned around one by one. -/
theorem reverseUnits_pieces {unit count : Nat} (cut : Cut (count * unit) pieces bytes)
    (positive : 0 < unit) : reverseUnits unit bytes = (pieces.map (reverseUnits unit)).flatten := by
  induction pieces generalizing bytes with
  | nil =>
    have empty : bytes = [] := cut.joined.symm
    subst empty
    exact (nil unit).reverseUnits_eq positive
  | cons piece pieces ih =>
    obtain ⟨whole, rfl, rest⟩ := cut.tail
    obtain ⟨front, _, frontCut⟩ := exists_of_length whole
    have units : pieces.flatten.length = pieces.length * count * unit := by
      rw [rest.length_eq, Nat.mul_assoc]
    obtain ⟨back, _, backCut⟩ := exists_of_length units
    have both : Cut unit (front ++ back) (piece ++ pieces.flatten) := by
      refine ⟨fun unitBytes found => ?_, by rw [List.flatten_append, frontCut.joined, backCut.joined]⟩
      exact (List.mem_append.mp found).elim (frontCut.uniform _) (backCut.uniform _)
    rw [both.reverseUnits_eq positive, List.map_append, List.flatten_append,
      ← frontCut.reverseUnits_eq positive, ← backCut.reverseUnits_eq positive, List.map_cons,
      List.flatten_cons, ih rest]

end Cut

/-- The chunks of any bytes make them up, and none is longer than its width. -/
theorem chunks_whole {width fuel : Nat} {bytes : Bytes} (positive : 0 < width)
    (enough : bytes.length ≤ fuel) :
    (chunks width fuel bytes).flatten = bytes ∧
      ∀ piece ∈ chunks width fuel bytes, piece.length ≤ width := by
  induction fuel generalizing bytes with
  | zero =>
    obtain rfl := List.length_eq_zero_iff.mp (Nat.le_zero.mp enough)
    simp [chunks]
  | succ fuel ih =>
    cases bytes with
    | nil => simp [chunks]
    | cons byte bytes =>
      have shorter : ((byte :: bytes).drop width).length ≤ fuel := by
        rw [List.length_drop]
        rw [List.length_cons] at enough ⊢
        omega
      obtain ⟨joined, short⟩ := ih shorter
      constructor
      · change (byte :: bytes).take width ++ (chunks width fuel _).flatten = byte :: bytes
        rw [joined, List.take_append_drop]
      · intro piece found
        rcases List.mem_cons.mp found with rfl | behind
        · exact List.length_take_le _ _
        · exact short piece behind

/-! ### Units and their numbers -/

/-- The number that the bytes of a unit stand for in a byte order. -/
def ByteOrder.number : ByteOrder → Bytes → Nat
  | .little, bytes => ofLittleEndian bytes
  | .big, bytes => ofLittleEndian bytes.reverse

namespace Stretch

/-- The same units stored least significant byte first. -/
def little (stretch : Stretch) : Stretch := { stretch with order := .little }

/-- The numbers in the units of a stretch. -/
def numbers (stretch : Stretch) (bytes : Bytes) : List Nat :=
  (chunks stretch.unit stretch.count bytes).map stretch.order.number

/-- The numbers in an element made of stretches. -/
def elementNumbers : List Stretch → Bytes → List Nat
  | [], _ => []
  | stretch :: stretches, bytes =>
    stretch.numbers (bytes.take stretch.size) ++ elementNumbers stretches (bytes.drop stretch.size)

@[simp] theorem total_nil : total [] = 0 := rfl

@[simp] theorem total_cons (stretch : Stretch) (stretches : List Stretch) :
    total (stretch :: stretches) = stretch.size + total stretches := rfl

@[simp] theorem size_little (stretch : Stretch) : stretch.little.size = stretch.size := rfl

@[simp] theorem total_map_little (stretches : List Stretch) :
    total (stretches.map little) = total stretches := by
  induction stretches with
  | nil => rfl
  | cons stretch stretches ih => rw [List.map_cons, total_cons, total_cons, ih, size_little]

theorem littleBytes_numbers {stretch : Stretch} {bytes : Bytes} (long : bytes.length = stretch.size) :
    (stretch.littleBytes bytes).length = stretch.size ∧
      stretch.little.numbers (stretch.littleBytes bytes) = stretch.numbers bytes := by
  obtain ⟨unit, count, order⟩ := stretch
  cases order with
  | little => exact ⟨long, rfl⟩
  | big =>
    rcases Nat.eq_zero_or_pos unit with rfl | positive
    · -- A unit of no bytes cuts nothing: the body is empty in both orders.
      have empty : bytes = [] := by simpa [size] using long
      subst empty
      cases count <;> exact ⟨by simp [littleBytes, reverseUnits, size], rfl⟩
    · obtain ⟨pieces, counted, cut⟩ : ∃ pieces, pieces.length = count ∧ Cut unit pieces bytes :=
        Cut.exists_of_length long
      have turned : Cut unit (pieces.map List.reverse) (reverseUnits unit bytes) := by
        rw [cut.reverseUnits_eq positive]
        exact cut.map fun piece whole => by rw [List.length_reverse, whole]
      constructor
      · change (reverseUnits unit bytes).length = count * unit
        rw [turned.length_eq, List.length_map, counted]
      · change (chunks unit count (reverseUnits unit bytes)).map ofLittleEndian =
          (chunks unit count bytes).map fun piece => ofLittleEndian piece.reverse
        rw [turned.chunks_eq positive (by rw [List.length_map]; exact Nat.le_of_eq counted),
          cut.chunks_eq positive (Nat.le_of_eq counted), List.map_map]
        rfl

theorem length_littleElement {stretches : List Stretch} {bytes : Bytes}
    (long : bytes.length = total stretches) : (littleElement stretches bytes).length = total stretches := by
  induction stretches generalizing bytes with
  | nil => rfl
  | cons stretch stretches ih =>
    rw [total_cons] at long
    rw [littleElement, List.length_append, total_cons,
      (littleBytes_numbers (by rw [List.length_take]; omega)).1, ih (by rw [List.length_drop]; omega)]

/-- Turning the units around keeps the numbers. -/
theorem elementNumbers_littleElement {stretches : List Stretch} {bytes : Bytes}
    (long : bytes.length = total stretches) :
    elementNumbers (stretches.map little) (littleElement stretches bytes) =
      elementNumbers stretches bytes := by
  induction stretches generalizing bytes with
  | nil => rfl
  | cons stretch stretches ih =>
    rw [total_cons] at long
    have whole : (bytes.take stretch.size).length = stretch.size := by rw [List.length_take]; omega
    obtain ⟨front, same⟩ := littleBytes_numbers whole
    rw [littleElement, List.map_cons, elementNumbers, elementNumbers, size_little, List.take_left' front,
      List.drop_left' front, same, ih (by rw [List.length_drop]; omega)]

/-- Units that are stored least significant byte first stay as they are. -/
theorem littleElement_map_little {stretches : List Stretch} {bytes : Bytes}
    (short : bytes.length ≤ total stretches) : littleElement (stretches.map little) bytes = bytes := by
  induction stretches generalizing bytes with
  | nil => exact (List.length_eq_zero_iff.mp (Nat.le_zero.mp short)).symm
  | cons stretch stretches ih =>
    rw [total_cons] at short
    rw [List.map_cons, littleElement, ih (by rw [List.length_drop, size_little]; omega)]
    exact List.take_append_drop _ _

end Stretch

end LayerGraph
