import LayerGraph.Proofs.Failure.Faults
import LayerGraph.Proofs.Tensor.Header

/-! The walk over a header.

A header is walked piece by piece. The walk ends in a piece that is longer than the bytes left, at an inner version that
is not the expected one, or at a negative size of the descriptor; it ends nowhere else, so otherwise a payload is read.
-/

set_option autoImplicit false

namespace LayerGraph

open Attempt

/-- A part of a header with its bytes. -/
abbrev Piece := PayloadPart × Bytes

/-- The bytes of pieces one after the other. -/
def joined (pieces : List Piece) : Bytes := pieces.flatMap Prod.snd

@[simp] theorem joined_nil : joined [] = [] := rfl

@[simp] theorem joined_cons (piece : Piece) (pieces : List Piece) : joined (piece :: pieces) = piece.2 ++ joined pieces :=
  List.flatMap_cons

@[simp] theorem joined_append (front back : List Piece) : joined (front ++ back) = joined front ++ joined back :=
  List.flatMap_append

namespace Cursor

variable {cursor : Cursor} {part : PayloadPart} {defect : PayloadDefect}

theorem take_eq_error {count : Nat} :
    cursor.take count part = .error defect ↔
      cursor.rest.length < count ∧ defect = .truncated part count cursor.offset cursor.rest.length := by
  unfold take
  dsimp only
  rw [List.length_take]
  split
  · next long => exact iff_of_false nofun fun short => absurd short.1 (by omega)
  · next short =>
    rw [Except.error.injEq, eq_comm]
    exact (and_iff_right (by omega)).symm

theorem number_eq_error {width : Nat} :
    cursor.number width part = .error defect ↔
      cursor.rest.length < width ∧ defect = .truncated part width cursor.offset cursor.rest.length := by
  rw [← take_eq_error, number]
  cases cursor.take width part <;> simp [Except.map]

/-- A walk over pieces ends in one that is longer than the bytes left. -/
inductive Ends : Cursor → List Piece → PayloadDefect → Prop
  | here {cursor : Cursor} {part : PayloadPart} {region : Bytes} {later : List Piece}
      (short : cursor.rest.length < region.length) :
      Ends cursor ((part, region) :: later) (.truncated part region.length cursor.offset cursor.rest.length)
  | later {cursor : Cursor} {rest : Bytes} {part : PayloadPart} {region : Bytes} {later : List Piece}
      {defect : PayloadDefect} (passed : cursor.rest = region ++ rest)
      (ends : Ends ⟨rest, cursor.offset + region.length⟩ later defect) : Ends cursor ((part, region) :: later) defect

theorem Ends.errorClass {pieces : List Piece} (ends : cursor.Ends pieces defect) :
    defect.errorClass = .truncatedPayload := by
  induction ends with
  | here => rfl
  | later _ _ ih => exact ih

theorem not_ends_nil : ¬ cursor.Ends [] defect := nofun

theorem ends_cons {region : Bytes} {later : List Piece} :
    cursor.Ends ((part, region) :: later) defect ↔
      cursor.rest.length < region.length ∧ defect = .truncated part region.length cursor.offset cursor.rest.length ∨
        ∃ rest, cursor.rest = region ++ rest ∧ Ends ⟨rest, cursor.offset + region.length⟩ later defect := by
  constructor
  · intro ends
    cases ends with
    | here short => exact .inl ⟨short, rfl⟩
    | later passed ends => exact .inr ⟨_, passed, ends⟩
  · rintro (⟨short, rfl⟩ | ⟨rest, passed, ends⟩)
    · exact .here short
    · exact .later passed ends

theorem ends_singleton {region : Bytes} :
    cursor.Ends [(part, region)] defect ↔
      cursor.rest.length < region.length ∧ defect = .truncated part region.length cursor.offset cursor.rest.length := by
  simp [ends_cons, not_ends_nil]

/-- A walk ends in the front pieces, or passes all of them and ends in those behind. -/
theorem ends_append {front back : List Piece} :
    cursor.Ends (front ++ back) defect ↔ cursor.Ends front defect ∨
      ∃ rest, cursor.rest = joined front ++ rest ∧ Ends ⟨rest, cursor.offset + (joined front).length⟩ back defect := by
  induction front generalizing cursor with
  | nil =>
    simp only [List.nil_append, joined_nil, List.length_nil, Nat.add_zero, exists_eq_left', not_ends_nil, false_or]
  | cons piece front ih =>
    obtain ⟨part, region⟩ := piece
    rw [List.cons_append, ends_cons, ends_cons, or_assoc]
    refine or_congr Iff.rfl ⟨?_, ?_⟩
    · rintro ⟨rest, passed, ends⟩
      rcases ih.mp ends with inside | ⟨left, rfl, behind⟩
      · exact .inl ⟨rest, passed, inside⟩
      · refine .inr ⟨left, by rw [passed, joined_cons, List.append_assoc], ?_⟩
        rwa [joined_cons, List.length_append, ← Nat.add_assoc]
    · rintro (⟨rest, passed, inside⟩ | ⟨left, passed, behind⟩)
      · exact ⟨rest, passed, ih.mpr (.inl inside)⟩
      · refine ⟨joined front ++ left, by rw [passed, joined_cons, List.append_assoc], ih.mpr (.inr ⟨left, rfl, ?_⟩)⟩
        rwa [joined_cons, List.length_append, ← Nat.add_assoc] at behind

/-- Bytes that stop before the end of pieces stop inside one of them. -/
theorem exists_ends {pieces : List Piece} {missing : Bytes} (cut : cursor.rest ++ missing = joined pieces)
    (some : missing ≠ []) : ∃ defect, cursor.Ends pieces defect := by
  induction pieces generalizing cursor with
  | nil => exact absurd (List.append_eq_nil_iff.mp cut).2 some
  | cons piece pieces ih =>
    obtain ⟨part, region⟩ := piece
    rcases Nat.lt_or_ge cursor.rest.length region.length with short | long
    · exact ⟨_, .here short⟩
    · -- The piece is there as a whole, and what is behind it stops as well.
      obtain ⟨rest, passed⟩ := List.prefix_of_prefix_length_le ⟨joined pieces, cut.symm⟩ ⟨missing, rfl⟩ long
      have behind : rest ++ missing = joined pieces := by
        rw [joined_cons, ← passed, List.append_assoc] at cut
        exact List.append_cancel_left cut
      obtain ⟨defect, ends⟩ := @ih ⟨rest, cursor.offset + region.length⟩ behind
      exact ⟨defect, .later passed.symm ends⟩

end Cursor

namespace Payload

/-- The pieces of entries, the first of which has the given index. -/
def entryPieces : Nat → List Bytes → List Piece
  | _, [] => []
  | index, entry :: entries =>
    (.entryLength index, littleEndian 8 entry.length) :: (.entryData index, entry) :: entryPieces (index + 1) entries

theorem joined_entryPieces (index : Nat) (entries : List Bytes) :
    joined (entryPieces index entries) = entries.flatMap entryBytes := by
  induction entries generalizing index with
  | nil => rfl
  | cons entry entries ih =>
    simp only [entryPieces, joined_cons, ih, List.flatMap_cons, entryBytes, List.append_assoc]

theorem readEntries_eq_error {count index : Nat} {cursor : Cursor} {defect : PayloadDefect} :
    readEntries count index cursor = .error defect ↔
      ∃ entries : List Bytes, entries.length = count ∧ (∀ entry ∈ entries, entry.length < 0x10000000000000000) ∧
        cursor.Ends (entryPieces index entries) defect := by
  have eight : Nat.pow 256 8 = 0x10000000000000000 := rfl
  induction count generalizing index cursor with
  | zero =>
    simp only [readEntries, reduceCtorEq, List.length_eq_zero_iff, exists_eq_left, entryPieces, Cursor.not_ends_nil,
      and_false]
  | succ count ih =>
    simp only [readEntries, bind_eq_error, Prod.exists, Cursor.number_eq_error, Cursor.number_eq_ok,
      Cursor.take_eq_error, Cursor.take_eq_ok, ih, eight]
    constructor
    · -- Nothing is known of the entries behind the piece that is too long, so they may be empty.
      have empty : ∀ entry ∈ List.replicate count ([] : Bytes), entry.length < 0x10000000000000000 := by
        intro entry member
        rw [List.eq_of_mem_replicate member]
        decide
      rintro (⟨short, rfl⟩ | ⟨length, atEntry, ⟨small, front, offset⟩, ⟨short, rfl⟩ |
        ⟨entry, behind, ⟨rfl, body, offset'⟩, ⟨entries, rfl, bounded, ends⟩ | ⟨_, _, _, found⟩⟩⟩)
      · refine ⟨[] :: List.replicate count [], by simp, List.forall_mem_cons.mpr ⟨by decide, empty⟩,
          Cursor.ends_cons.mpr (.inl ?_)⟩
        rw [length_littleEndian]
        exact ⟨short, rfl⟩
      · obtain ⟨entry, rfl⟩ : ∃ entry : Bytes, entry.length = length := ⟨List.replicate length 0, by simp⟩
        refine ⟨entry :: List.replicate count [], by simp, List.forall_mem_cons.mpr ⟨small, empty⟩,
          .later front (Cursor.ends_cons.mpr (.inl ?_))⟩
        rw [length_littleEndian, offset]
        exact ⟨short, rfl⟩
      · refine ⟨entry :: entries, rfl, List.forall_mem_cons.mpr ⟨small, bounded⟩, .later front (.later body ?_)⟩
        rwa [length_littleEndian, ← offset, ← offset']
      · cases found
    · rintro ⟨entries, counted, bounded, ends⟩
      obtain ⟨entry, others, rfl⟩ := List.exists_cons_of_length_eq_add_one counted
      obtain ⟨small, bounded⟩ := List.forall_mem_cons.mp bounded
      rcases Cursor.ends_cons.mp ends with ⟨short, rfl⟩ | ⟨rest, front, ends⟩
      · rw [length_littleEndian] at short ⊢
        exact .inl ⟨short, rfl⟩
      · rw [length_littleEndian] at ends
        refine .inr ⟨entry.length, ⟨rest, cursor.offset + 8⟩, ⟨small, front, rfl⟩, ?_⟩
        rcases Cursor.ends_cons.mp ends with ⟨short, rfl⟩ | ⟨rest, body, ends⟩
        · exact .inl ⟨short, rfl⟩
        · exact .inr ⟨entry, ⟨rest, cursor.offset + 8 + entry.length⟩, ⟨rfl, body, rfl⟩,
            .inl ⟨others, by simpa using counted, bounded, ends⟩⟩

/-- The pieces of a header up to the inner version. -/
def front (payload : Payload) : List Piece :=
  (.version, littleEndian 4 payload.version) :: (.entryCount, littleEndian 8 payload.entries.length) ::
    (entryPieces 0 payload.entries ++ [(.tensorVersion, littleEndian 4 payload.tensorVersion)])

/-- The pieces of a header behind the inner version. -/
def back (payload : Payload) : List Piece :=
  [(.descriptorSize, littleEndian 4 payload.descriptor.length), (.descriptor, payload.descriptor)]

/-- A header is its pieces one after the other. -/
theorem header_eq_joined (payload : Payload) : payload.header = joined payload.front ++ joined payload.back := by
  simp only [header, front, back, joined_cons, joined_append, joined_entryPieces, joined_nil, List.append_assoc,
    List.append_nil]

/-- The bytes end inside a header. The pieces behind its inner version are walked when it is the expected one. -/
inductive CutShort (expected : Int) (bytes : Bytes) : PayloadDefect → Prop
  | front {payload : Payload} {defect : PayloadDefect} (fits : payload.Fits)
      (ends : (Cursor.start bytes).Ends payload.front defect) : CutShort expected bytes defect
  | back {payload : Payload} {rest : Bytes} {defect : PayloadDefect} (fits : payload.Fits)
      (same : (payload.tensorVersion : Int) = expected) (passed : bytes = joined payload.front ++ rest)
      (ends : Cursor.Ends ⟨rest, (joined payload.front).length⟩ payload.back defect) : CutShort expected bytes defect

/-- An inner version is read that is not the expected one, or it is and a negative size of the descriptor is read. -/
inductive Foreign (expected : Int) (bytes : Bytes) : PayloadDefect → Prop
  | version {payload : Payload} {rest : Bytes} (fits : payload.Fits) (passed : bytes = joined payload.front ++ rest)
      (other : (payload.tensorVersion : Int) ≠ expected) :
      Foreign expected bytes (.version payload.tensorVersion expected)
  | size {payload : Payload} {rest : Bytes} {size : Nat} (fits : payload.Fits)
      (same : (payload.tensorVersion : Int) = expected) (small : size < 0x100000000)
      (passed : bytes = joined payload.front ++ (littleEndian 4 size ++ rest)) (negative : signedValue 4 size < 0) :
      Foreign expected bytes (.negativeLength .descriptor (signedValue 4 size))

theorem readDescriptor_eq_error {cursor : Cursor} {defect : PayloadDefect} :
    readDescriptor cursor = .error defect ↔
      (∃ descriptor : Bytes, descriptor.length < 0x80000000 ∧ cursor.Ends
        [(.descriptorSize, littleEndian 4 descriptor.length), (.descriptor, descriptor)] defect) ∨
      ∃ size rest, size < 0x100000000 ∧ cursor.rest = littleEndian 4 size ++ rest ∧ signedValue 4 size < 0 ∧
        defect = .negativeLength .descriptor (signedValue 4 size) := by
  have four : Nat.pow 256 4 = 0x100000000 := rfl
  simp only [readDescriptor, bind_eq_error, Prod.exists, Cursor.number_eq_error, Cursor.number_eq_ok, four]
  constructor
  · rintro (⟨short, rfl⟩ | ⟨size, atDescriptor, ⟨small, front, offset⟩, found⟩)
    · refine .inl ⟨[], by decide, Cursor.ends_cons.mpr (.inl ?_)⟩
      rw [length_littleEndian]
      exact ⟨short, rfl⟩
    · -- The size is read as a signed number: one above the middle is negative.
      split at found
      · next negative => exact .inr ⟨size, _, small, front, negative, (Except.error.inj found).symm⟩
      · next large =>
        have low := (signedValue_nonneg_iff small).mp (Int.not_lt.mp large)
        rw [signedValue_of_lt low, Int.toNat_natCast] at found
        obtain ⟨short, rfl⟩ := Cursor.take_eq_error.mp found
        obtain ⟨descriptor, rfl⟩ : ∃ descriptor : Bytes, descriptor.length = size := ⟨List.replicate size 0, by simp⟩
        refine .inl ⟨descriptor, low, .later front (Cursor.ends_cons.mpr (.inl ?_))⟩
        rw [length_littleEndian, offset]
        exact ⟨short, rfl⟩
  · rintro (⟨descriptor, small, ends⟩ | ⟨size, rest, small, front, negative, rfl⟩)
    · rcases Cursor.ends_cons.mp ends with ⟨short, rfl⟩ | ⟨rest, front, ends⟩
      · rw [length_littleEndian] at short ⊢
        exact .inl ⟨short, rfl⟩
      · rw [length_littleEndian] at ends
        refine .inr ⟨descriptor.length, ⟨rest, cursor.offset + 4⟩, ⟨by omega, front, rfl⟩, ?_⟩
        rw [signedValue_of_lt small, if_neg (by omega), Int.toNat_natCast]
        exact Cursor.take_eq_error.mpr (Cursor.ends_singleton.mp ends)
    · refine .inr ⟨size, ⟨rest, cursor.offset + 4⟩, ⟨small, front, rfl⟩, ?_⟩
      rw [if_pos negative]

theorem length_joined_front (payload : Payload) :
    (joined payload.front).length = 4 + 8 + (payload.entries.flatMap entryBytes).length + 4 := by
  simp only [front, joined_cons, joined_append, joined_entryPieces, joined_nil, List.append_nil, List.length_append,
    length_littleEndian]
  omega

theorem fits_front {version tensorVersion : Nat} {entries : List Bytes} (versionFits : version < 0x100000000)
    (entriesFit : EntriesFit entries) (tensorFits : tensorVersion < 0x100000000) :
    Payload.Fits ⟨version, entries, tensorVersion, [], []⟩ :=
  ⟨versionFits, entriesFit, tensorFits, Nat.zero_lt_succ _⟩

/-- Behind the inner version a descriptor is read if that is the expected one. -/
theorem read_of_front {expected : Int} {bytes rest : Bytes} {payload : Payload} (fits : payload.Fits)
    (passed : bytes = joined payload.front ++ rest) :
    read expected bytes =
      if (payload.tensorVersion : Int) ≠ expected then .error (.version payload.tensorVersion expected)
      else do
        let (descriptor, cursor) ← readDescriptor ⟨rest, (joined payload.front).length⟩
        return ⟨payload.version, payload.entries, payload.tensorVersion, descriptor, cursor.rest⟩ := by
  simp only [front, joined_cons, joined_append, joined_entryPieces, joined_nil, List.append_nil, List.append_assoc] at passed
  -- Whatever lies behind a piece is left for the next one.
  have version : (Cursor.start bytes).number 4 .version = .ok (payload.version, ⟨_, 4⟩) :=
    Cursor.number_eq_ok.mpr ⟨fits.version, passed, rfl⟩
  have count (tail : Bytes) : Cursor.number ⟨littleEndian 8 payload.entries.length ++ tail, 4⟩ 8 .entryCount =
      .ok (payload.entries.length, ⟨tail, 12⟩) :=
    Cursor.number_eq_ok.mpr ⟨fits.entries.count, rfl, rfl⟩
  have entries (tail : Bytes) : readEntries payload.entries.length 0 ⟨payload.entries.flatMap entryBytes ++ tail, 12⟩ =
      .ok (payload.entries, ⟨tail, 12 + (payload.entries.flatMap entryBytes).length⟩) :=
    readEntries_eq_ok.mpr ⟨rfl, fits.entries.lengths, rfl, rfl⟩
  have inner : Cursor.number ⟨littleEndian 4 payload.tensorVersion ++ rest,
      12 + (payload.entries.flatMap entryBytes).length⟩ 4 .tensorVersion =
      .ok (payload.tensorVersion, ⟨rest, (joined payload.front).length⟩) :=
    Cursor.number_eq_ok.mpr ⟨fits.tensorVersion, rfl, length_joined_front payload⟩
  simp only [read, version, count, entries, inner, bind, Except.bind]

/-- A header in which the bytes end is not read. -/
theorem CutShort.read {expected : Int} {bytes : Bytes} {defect : PayloadDefect} (cut : CutShort expected bytes defect) :
    read expected bytes = .error defect := by
  have four : Nat.pow 256 4 = 0x100000000 := rfl
  have eight : Nat.pow 256 8 = 0x10000000000000000 := rfl
  cases cut with
  | @front payload _ fits ends =>
    -- Each piece of the front is read in its turn, up to the one that is too long.
    simp only [Payload.read, bind_eq_error, Prod.exists, Cursor.number_eq_ok, Cursor.number_eq_error, readEntries_eq_ok,
      readEntries_eq_error, four, eight]
    rcases Cursor.ends_cons.mp ends with ⟨short, rfl⟩ | ⟨rest, first, ends⟩
    · rw [length_littleEndian] at short ⊢
      exact .inl ⟨short, rfl⟩
    refine .inr ⟨payload.version, ⟨rest, 4⟩, ⟨fits.version, first, rfl⟩, ?_⟩
    rcases Cursor.ends_cons.mp ends with ⟨short, rfl⟩ | ⟨rest, counted, ends⟩
    · simp only [length_littleEndian] at short ⊢
      exact .inl ⟨short, rfl⟩
    refine .inr ⟨payload.entries.length, ⟨rest, 12⟩, ⟨fits.entries.count, counted, rfl⟩, ?_⟩
    rcases Cursor.ends_append.mp ends with ends | ⟨rest, listed, ends⟩
    · exact .inl ⟨payload.entries, rfl, fits.entries.lengths, ends⟩
    refine .inr ⟨payload.entries, ⟨rest, 12 + (payload.entries.flatMap entryBytes).length⟩,
      ⟨rfl, fits.entries.lengths, joined_entryPieces 0 payload.entries ▸ listed, rfl⟩, ?_⟩
    obtain ⟨short, rfl⟩ := Cursor.ends_singleton.mp ends
    simp only [length_littleEndian, joined_entryPieces] at short ⊢
    exact .inl ⟨short, rfl⟩
  | back fits same passed ends =>
    rw [read_of_front fits passed, if_neg (Decidable.not_not.mpr same)]
    exact bind_eq_error.mpr (.inl (readDescriptor_eq_error.mpr (.inl ⟨_, fits.descriptor, ends⟩)))

theorem Foreign.read {expected : Int} {bytes : Bytes} {defect : PayloadDefect}
    (foreign : Foreign expected bytes defect) : read expected bytes = .error defect := by
  cases foreign with
  | version fits passed other => rw [read_of_front fits passed, if_pos other]
  | size fits same small passed negative =>
    rw [read_of_front fits passed, if_neg (Decidable.not_not.mpr same)]
    exact bind_eq_error.mpr (.inl (readDescriptor_eq_error.mpr (.inr ⟨_, _, small, rfl, negative, rfl⟩)))

/-- A header is refused exactly where its bytes end inside it, at a foreign inner version and at a negative size. -/
theorem read_eq_error {expected : Int} {bytes : Bytes} {defect : PayloadDefect} :
    read expected bytes = .error defect ↔ CutShort expected bytes defect ∨ Foreign expected bytes defect := by
  have four : Nat.pow 256 4 = 0x100000000 := rfl
  have eight : Nat.pow 256 8 = 0x10000000000000000 := rfl
  have none : EntriesFit [] := ⟨by decide, nofun⟩
  have zero : 0 < 0x100000000 := by decide
  refine ⟨fun failed => ?_, fun failed => failed.elim CutShort.read Foreign.read⟩
  simp only [read, bind_eq_error, Prod.exists, Cursor.number_eq_ok, Cursor.number_eq_error, readEntries_eq_ok,
    readEntries_eq_error, four, eight, Cursor.start] at failed
  -- What the walk has not come to is nothing yet in the header that the bytes end in.
  rcases failed with ⟨short, rfl⟩ | ⟨version, atCount, ⟨versionFits, first, offset⟩, ⟨short, rfl⟩ | ⟨count, atEntries,
    ⟨countFits, counted, offset'⟩, ⟨entries, rfl, entriesFit, ends⟩ | ⟨entries, behind, ⟨rfl, entriesFit, listed, offset''⟩,
    ⟨short, rfl⟩ | ⟨tensorVersion, atDescriptor, ⟨tensorFits, tensor, offset'''⟩, failed⟩⟩⟩⟩
  · refine .inl (.front (fits_front zero none zero) (Cursor.ends_cons.mpr (.inl ?_)))
    rw [length_littleEndian]
    exact ⟨short, rfl⟩
  · refine .inl (.front (fits_front versionFits none zero) (.later first (Cursor.ends_cons.mpr (.inl ?_))))
    rw [length_littleEndian, length_littleEndian, offset]
    exact ⟨short, rfl⟩
  · refine .inl (.front (fits_front versionFits ⟨countFits, entriesFit⟩ zero)
      (.later first (.later counted (Cursor.ends_append.mpr (.inl ?_)))))
    simpa only [Cursor.start, length_littleEndian, ← offset, ← offset'] using ends
  · refine .inl (.front (fits_front versionFits ⟨countFits, entriesFit⟩ zero) (.later first (.later counted
      (Cursor.ends_append.mpr (.inr ⟨behind.rest, ?_, Cursor.ends_singleton.mpr ?_⟩)))))
    · rw [joined_entryPieces]
      exact listed
    · simp only [Cursor.start, joined_entryPieces, length_littleEndian, ← offset, ← offset', ← offset'']
      exact ⟨short, trivial⟩
  · have fits := fits_front versionFits ⟨countFits, entriesFit⟩ tensorFits
    have passed : bytes = joined (Payload.front ⟨version, entries, tensorVersion, [], []⟩) ++ atDescriptor.rest := by
      simp only [front, joined_cons, joined_append, joined_entryPieces, joined_nil, List.append_nil, List.append_assoc,
        ← tensor, ← listed, ← counted, ← first]
    split at failed
    · next other =>
      cases failed
      exact .inr (.version fits passed other)
    · next same =>
      have same := Decidable.not_not.mp same
      have place : atDescriptor.offset = (joined (Payload.front ⟨version, entries, tensorVersion, [], []⟩)).length := by
        rw [length_joined_front, offset''', offset'', offset', offset, Nat.zero_add]
      rcases bind_eq_error.mp failed with failed | ⟨_, _, found⟩
      · rcases readDescriptor_eq_error.mp failed with ⟨descriptor, small, ends⟩ | ⟨size, rest, small, left, negative, rfl⟩
        · have fits : Payload.Fits ⟨version, entries, tensorVersion, descriptor, []⟩ :=
            ⟨versionFits, ⟨countFits, entriesFit⟩, tensorFits, small⟩
          exact .inl (.back fits same passed (place ▸ ends))
        · exact .inr (.size fits same small (by rw [passed, left]) negative)
      · cases found

theorem CutShort.errorClass {expected : Int} {bytes : Bytes} {defect : PayloadDefect}
    (cut : CutShort expected bytes defect) : defect.errorClass = .truncatedPayload := by
  cases cut with
  | front _ ends | back _ _ _ ends => exact ends.errorClass

theorem Foreign.errorClass {expected : Int} {bytes : Bytes} {defect : PayloadDefect}
    (foreign : Foreign expected bytes defect) : defect.errorClass = .tensorFormat := by
  cases foreign <;> rfl

/-- Bytes that stop before the end of a header whose inner version is the expected one are cut short. -/
theorem exists_cutShort {payload : Payload} {bytes missing : Bytes} (fits : payload.Fits)
    (cut : bytes ++ missing = payload.header) (some : missing ≠ []) :
    ∃ defect, CutShort payload.tensorVersion bytes defect := by
  rw [header_eq_joined, ← joined_append] at cut
  obtain ⟨defect, ends⟩ : ∃ defect, (Cursor.start bytes).Ends _ defect := Cursor.exists_ends cut some
  rcases Cursor.ends_append.mp ends with inside | ⟨rest, passed, behind⟩
  · exact ⟨defect, .front fits inside⟩
  · refine ⟨defect, .back fits rfl passed ?_⟩
    simpa only [Cursor.start, Nat.zero_add] using behind

end Payload

end LayerGraph
