import LayerGraph.Proofs.Failure.Run
import LayerGraph.Tensor.Payload

/-! The binary layout read backwards and forwards.

Every reader of a part succeeds exactly on the bytes that the part is written as, and leaves what stands
behind them. A payload is read exactly from its own bytes, so the bytes determine all of its parts.
-/

set_option autoImplicit false

namespace LayerGraph

open Attempt

namespace Cursor

variable {cursor next : Cursor} {part : PayloadPart}

theorem take_eq_ok {count : Nat} {taken : Bytes} :
    cursor.take count part = .ok (taken, next) ↔
      taken.length = count ∧ cursor.rest = taken ++ next.rest ∧
        next.offset = cursor.offset + taken.length := by
  unfold take
  constructor
  · intro found
    dsimp only at found
    split at found
    · next long =>
      obtain ⟨rfl, rfl⟩ := Prod.mk.inj (Except.ok.inj found)
      exact ⟨long, (List.take_append_drop count cursor.rest).symm, by rw [long]⟩
    · cases found
  · rintro ⟨rfl, rest, offset⟩
    have front : cursor.rest.take taken.length = taken := by rw [rest, List.take_left]
    have back : cursor.rest.drop taken.length = next.rest := by rw [rest, List.drop_left]
    simp only [front, back, ↓reduceIte, Except.ok.injEq, Prod.mk.injEq, true_and]
    rw [← offset]

theorem number_eq_ok {width n : Nat} :
    cursor.number width part = .ok (n, next) ↔
      n < Nat.pow 256 width ∧ cursor.rest = littleEndian width n ++ next.rest ∧
        next.offset = cursor.offset + width := by
  unfold number
  rw [map_eq_ok]
  constructor
  · rintro ⟨⟨taken, after⟩, found, same⟩
    obtain ⟨rfl, rfl⟩ := Prod.mk.inj same
    obtain ⟨rfl, rest, offset⟩ := take_eq_ok.mp found
    exact ⟨ofLittleEndian_lt taken, by rw [littleEndian_ofLittleEndian]; exact rest, offset⟩
  · rintro ⟨small, rest, offset⟩
    refine ⟨(littleEndian width n, next), take_eq_ok.mpr ⟨length_littleEndian width n, rest, ?_⟩, ?_⟩
    · rw [length_littleEndian, offset]
    · simp only [ofLittleEndian_littleEndian width n small]

end Cursor

/-- A signed number of four bytes is not negative exactly when its top bit is clear. -/
theorem signedValue_nonneg_iff {n : Nat} (small : n < Nat.pow 256 4) :
    0 ≤ signedValue 4 n ↔ n < 0x80000000 := by
  have whole : Nat.pow 256 4 = 0x100000000 := rfl
  rw [whole] at small
  unfold signedValue
  rw [whole]
  split <;> omega

theorem signedValue_of_lt {n : Nat} (small : n < 0x80000000) : signedValue 4 n = n := by
  have whole : Nat.pow 256 4 = 0x100000000 := rfl
  unfold signedValue
  rw [if_pos (by rw [whole]; omega)]

namespace Payload

/-- The number of the entries and their lengths fit eight bytes each. -/
structure EntriesFit (entries : List Bytes) : Prop where
  count : entries.length < 0x10000000000000000
  lengths : ∀ entry ∈ entries, entry.length < 0x10000000000000000

/-- The parts in front of the body fit the numbers that they are written as. -/
structure Fits (payload : Payload) : Prop where
  version : payload.version < 0x100000000
  entries : EntriesFit payload.entries
  tensorVersion : payload.tensorVersion < 0x100000000
  descriptor : payload.descriptor.length < 0x80000000

theorem readEntries_eq_ok {count index : Nat} {cursor next : Cursor} {entries : List Bytes} :
    readEntries count index cursor = .ok (entries, next) ↔
      entries.length = count ∧ (∀ entry ∈ entries, entry.length < 0x10000000000000000) ∧
        cursor.rest = entries.flatMap entryBytes ++ next.rest ∧
        next.offset = cursor.offset + (entries.flatMap entryBytes).length := by
  -- The cursor moves at every entry, and the index in the errors with it.
  induction count generalizing index cursor next entries with
  | zero =>
    simp only [readEntries, Except.ok.injEq, Prod.mk.injEq, List.length_eq_zero_iff]
    constructor
    · rintro ⟨rfl, rfl⟩
      simp
    · rintro ⟨rfl, _, rest, offset⟩
      refine ⟨rfl, ?_⟩
      simp only [List.flatMap_nil, List.nil_append, List.length_nil, Nat.add_zero] at rest offset
      cases cursor
      cases next
      simp_all
  | succ count ih =>
    have eight : Nat.pow 256 8 = 0x10000000000000000 := rfl
    simp only [readEntries, bind_eq_ok, Prod.exists, Cursor.number_eq_ok, Cursor.take_eq_ok, ih, eight]
    constructor
    · rintro ⟨length, atEntry, ⟨small, front, offset⟩, entry, behind, ⟨rfl, body, offset'⟩, others, after,
        ⟨rfl, bounded, rest, offset''⟩, found⟩
      obtain ⟨rfl, rfl⟩ := Prod.mk.inj (Except.ok.inj found)
      refine ⟨rfl, ?_, ?_, ?_⟩
      · simpa using ⟨small, bounded⟩
      · simp only [List.flatMap_cons, entryBytes, front, body, rest, List.append_assoc]
      · simp only [List.flatMap_cons, entryBytes, List.length_append, length_littleEndian]
        omega
    · rintro ⟨counted, bounded, rest, offset⟩
      obtain ⟨entry, others, rfl⟩ := List.exists_cons_of_length_eq_add_one counted
      simp only [List.flatMap_cons, entryBytes, List.length_append, length_littleEndian,
        List.append_assoc] at rest offset
      refine ⟨entry.length, ⟨entry ++ (others.flatMap entryBytes ++ next.rest), cursor.offset + 8⟩,
        ⟨bounded entry (by simp), rest, rfl⟩, entry,
        ⟨others.flatMap entryBytes ++ next.rest, cursor.offset + 8 + entry.length⟩, ⟨rfl, rfl, rfl⟩,
        others, next, ⟨by simpa using counted, fun other found => bounded other (by simp [found]), rfl, ?_⟩,
        rfl⟩
      dsimp only
      omega

theorem readDescriptor_eq_ok {cursor next : Cursor} {descriptor : Bytes} :
    readDescriptor cursor = .ok (descriptor, next) ↔
      descriptor.length < 0x80000000 ∧
        cursor.rest = littleEndian 4 descriptor.length ++ descriptor ++ next.rest ∧
        next.offset = cursor.offset + 4 + descriptor.length := by
  simp only [readDescriptor, bind_eq_ok, Prod.exists, Cursor.number_eq_ok]
  constructor
  · rintro ⟨raw, middle, ⟨small, front, offset⟩, found⟩
    split at found
    · cases found
    · next large =>
      -- The length is read as a signed number, so it has to stay below the sign bit.
      have low := (signedValue_nonneg_iff small).mp (Int.not_lt.mp large)
      rw [signedValue_of_lt low, Int.toNat_natCast] at found
      obtain ⟨rfl, rest, offset'⟩ := Cursor.take_eq_ok.mp found
      exact ⟨low, by rw [front, rest, List.append_assoc], by rw [offset', offset]⟩
  · rintro ⟨small, rest, offset⟩
    have whole : Nat.pow 256 4 = 0x100000000 := rfl
    refine ⟨descriptor.length, ⟨descriptor ++ next.rest, cursor.offset + 4⟩, ⟨by omega, ?_, rfl⟩, ?_⟩
    · rw [rest, List.append_assoc]
    · rw [signedValue_of_lt small, if_neg (by omega), Int.toNat_natCast]
      exact Cursor.take_eq_ok.mpr ⟨rfl, rfl, offset⟩

/-- A payload is read from exactly the bytes that it is written as. -/
theorem read_eq_ok {expected : Int} {bytes : Bytes} {payload : Payload} :
    read expected bytes = .ok payload ↔
      payload.Fits ∧ (payload.tensorVersion : Int) = expected ∧ payload.bytes = bytes := by
  have four : Nat.pow 256 4 = 0x100000000 := rfl
  have eight : Nat.pow 256 8 = 0x10000000000000000 := rfl
  simp only [read, bind_eq_ok, Prod.exists, Cursor.number_eq_ok, readEntries_eq_ok, four, eight,
    Cursor.start]
  constructor
  · rintro ⟨version, atCount, ⟨versionFits, front, _⟩, count, atEntries, ⟨countFits, counted, _⟩, entries,
      behind, ⟨rfl, entriesFit, listed, _⟩, tensorVersion, atDescriptor, ⟨tensorFits, tensor, _⟩, found⟩
    split at found
    · cases found
    · next same =>
      obtain ⟨⟨descriptor, atBody⟩, described, found⟩ := bind_eq_ok.mp found
      obtain ⟨descriptorFits, rest, _⟩ := readDescriptor_eq_ok.mp described
      cases found
      refine ⟨⟨versionFits, ⟨countFits, entriesFit⟩, tensorFits, descriptorFits⟩, Decidable.not_not.mp same, ?_⟩
      simp only [Payload.bytes, header, front, counted, listed, tensor, rest, List.append_assoc]
  · obtain ⟨version, entries, tensorVersion, descriptor, body⟩ := payload
    rintro ⟨fits, same, rfl⟩
    simp only [Payload.bytes, header, List.append_assoc]
    -- The cursor stands behind each part in turn; its offsets are those of the errors that are not met.
    refine ⟨version, ⟨_, 4⟩, ⟨fits.version, rfl, rfl⟩, entries.length, ⟨_, 12⟩, ⟨fits.entries.count, rfl, rfl⟩,
      entries, ⟨_, 12 + (entries.flatMap entryBytes).length⟩, ⟨rfl, fits.entries.lengths, rfl, rfl⟩, tensorVersion,
      ⟨_, 12 + (entries.flatMap entryBytes).length + 4⟩, ⟨fits.tensorVersion, rfl, rfl⟩, ?_⟩
    rw [if_neg (Decidable.not_not.mpr same)]
    refine bind_eq_ok.mpr ⟨(descriptor, ⟨body, _⟩), readDescriptor_eq_ok.mpr ⟨fits.descriptor, ?_, rfl⟩, rfl⟩
    simp only [List.append_assoc]

/-- Bytes are those of one payload at most. -/
theorem eq_of_bytes {first second : Payload} (left : first.Fits) (right : second.Fits)
    (sameVersion : first.tensorVersion = second.tensorVersion) (same : first.bytes = second.bytes) :
    first = second := by
  have one : read first.tensorVersion first.bytes = .ok first := read_eq_ok.mpr ⟨left, rfl, rfl⟩
  have other : read second.tensorVersion second.bytes = .ok second := read_eq_ok.mpr ⟨right, rfl, rfl⟩
  rw [sameVersion, same, other] at one
  exact (Except.ok.inj one).symm

end Payload

namespace Tensor

theorem packUnsigned_eq_ok {n : Int} {packed : Nat} :
    packUnsigned n = .ok packed ↔ packed < 0x100000000 ∧ n = packed := by
  unfold packUnsigned
  split
  · simp only [fault_ne_ok, false_iff]
    omega
  · split
    · simp only [fault_ne_ok, false_iff]
      omega
    · simp only [Except.ok.injEq]
      omega

theorem encode_eq_ok {tensor : Tensor} {entries : List Bytes} {outer inner : Int}
    {descriptor bytes : Bytes} :
    tensor.encode entries outer inner descriptor = .ok bytes ↔
      ∃ version tensorVersion : Nat, outer = version ∧ inner = tensorVersion ∧
        version < 0x100000000 ∧ tensorVersion < 0x100000000 ∧ descriptor.length < 0x80000000 ∧
        (Payload.mk version entries tensorVersion descriptor tensor.littleBytes).bytes = bytes := by
  simp only [encode, bind_eq_ok, packUnsigned_eq_ok]
  constructor
  · rintro ⟨version, ⟨versionFits, sameOuter⟩, tensorVersion, ⟨tensorFits, sameInner⟩, written⟩
    split at written
    · cases written
    · next short =>
      exact ⟨version, tensorVersion, sameOuter, sameInner, versionFits, tensorFits, by omega,
        Except.ok.inj written⟩
  · rintro ⟨version, tensorVersion, sameOuter, sameInner, versionFits, tensorFits, short, rfl⟩
    refine ⟨version, ⟨versionFits, sameOuter⟩, tensorVersion, ⟨tensorFits, sameInner⟩, ?_⟩
    rw [if_neg (by omega)]
    rfl

end Tensor

end LayerGraph
