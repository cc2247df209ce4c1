import LayerGraph.Proofs.Tensor.Errors
import LayerGraph.Proofs.Tensor.Extents
import LayerGraph.Proofs.Tensor.Faults
import LayerGraph.Proofs.Tensor.Walk

/-! What becomes of a payload that is decoded.

Its header is cut short, or foreign, or it is read and the elements behind it do not fill the declared shape, or they do.
Then they are laid out, unless no array holds them. Each outcome comes about under a condition of its own on the bytes.
-/

set_option autoImplicit false

namespace LayerGraph

open Attempt Number

/-! ### Shapes in messages -/

namespace Shape

/-- Extents that an array could be declared with: at most 64 machine words. -/
structure Representable (shape : Shape) : Prop where
  rank : shape.length ≤ 64
  words : ∀ extent ∈ shape, isWord extent = true

theorem natAbs_count_le {shape : Shape} {bound : Nat} (each : ∀ extent ∈ shape, extent.natAbs ≤ bound) :
    shape.count.natAbs ≤ Nat.pow bound shape.length := by
  induction shape with
  | nil => exact Nat.le_refl 1
  | cons extent shape ih =>
    obtain ⟨here, rest⟩ := List.forall_mem_cons.mp each
    rw [count_cons, Int.natAbs_mul, Nat.mul_comm]
    exact Nat.mul_le_mul (ih rest) here

theorem words_lt_numerals {base : Nat} (more : 1 < base) :
    Nat.pow (Nat.pow base 63) 64 < Nat.pow base Text.numeralLimit := by
  have flat : ∀ inner outer, Nat.pow base (inner * outer) = Nat.pow (Nat.pow base inner) outer := Nat.pow_mul base
  rw [← flat]
  generalize same : 63 * 64 = digits
  exact Nat.pow_lt_pow_right more (by rw [← same]; decide)

/-- A product of 64 machine words has less digits than a message shows. -/
theorem shows_of_le {n : Int} (small : n.natAbs ≤ Nat.pow wordHalf 64) : Text.showsInteger n = true := by
  have digits : Nat.pow wordHalf 64 ≤ Nat.pow (Nat.pow 10 63) 64 := Nat.pow_le_pow_left (by decide) 64
  have limit := words_lt_numerals (by decide : 1 < 10)
  unfold Text.showsInteger
  rw [decide_eq_true_eq]
  -- The limit is far too large to be computed.
  generalize Nat.pow 10 Text.numeralLimit = bound at limit ⊢
  exact Nat.lt_of_le_of_lt (Nat.le_trans small digits) limit

section
variable {shape : Shape}

theorem Representable.natAbs_le (represented : shape.Representable) {extent : Int} (member : extent ∈ shape) :
    extent.natAbs ≤ wordHalf := by
  have word := represented.words extent member
  simp only [isWord, Bool.and_eq_true, decide_eq_true_eq] at word
  omega

theorem Representable.shows (represented : shape.Representable) {extent : Int} (member : extent ∈ shape) :
    Text.showsInteger extent = true :=
  shows_of_le (Nat.le_trans (represented.natAbs_le member) (Nat.le_self_pow (by decide) wordHalf))

theorem Representable.shows_count (represented : shape.Representable) {part : Shape} (sublist : part.Sublist shape) :
    Text.showsInteger part.count = true := by
  refine shows_of_le (Nat.le_trans (natAbs_count_le fun extent member => ?_) (Nat.pow_le_pow_right (by decide) ?_))
  · exact represented.natAbs_le (sublist.subset member)
  · exact Nat.le_trans sublist.length_le represented.rank

/-- Extents none of which is negative are natural numbers. -/
theorem exists_map_ofNat (known : shape.filter (· < 0) = []) : ∃ extents : List Nat, shape = extents.map Int.ofNat := by
  refine ⟨shape.map Int.toNat, (map_toNat fun extent member => ?_).symm⟩
  simpa using List.filter_eq_nil_iff.mp known extent member

/-- Extents that are found for a shape stand under it, and make up the elements unless they are the shape itself. -/
theorem exists_standsUnder {found : Shape} {count : Nat} (filled : shape.fill count = .ok found) :
    ∃ extents, found = extents.map Int.ofNat ∧ StandsUnder extents shape ∧
      (found = shape ∨ count = elementCount extents) := by
  unfold fill at filled
  split at filled
  · next closed =>
    cases filled
    obtain ⟨extents, rfl⟩ := exists_map_ofNat closed
    exact ⟨extents, rfl, .known, .inl rfl⟩
  · -- One extent is left open, and the count fills it if it is a multiple of the others.
    next gap open' =>
    obtain ⟨front, back, rfl, before, negative, behind⟩ := List.filter_eq_cons_iff.mp open'
    obtain ⟨front, rfl⟩ := exists_map_ofNat (List.filter_eq_nil_iff.mpr before)
    obtain ⟨back, rfl⟩ := exists_map_ofNat behind
    have negative : gap < 0 := by simpa using negative
    dsimp only at filled
    rw [filter_known_split front back negative, count_map_ofNat] at filled
    split at filled
    · cases filled
    · next determined =>
      obtain ⟨nonzero, divides⟩ := not_or.mp determined
      have whole : count = elementCount (front ++ count / elementCount (front ++ back) :: back) := by
        have divides := Int.natCast_dvd_natCast.mp (Int.dvd_of_emod_eq_zero (Decidable.not_not.mp divides))
        rw [elementCount_middle, Nat.mul_div_cancel' divides]
      refine ⟨_, ?_, .inferred rfl negative fun none => nonzero (Int.natCast_eq_zero.mpr none), .inr whole⟩
      cases filled
      rw [List.map_append, List.map_append, map_known, List.map_cons, List.map_cons, map_known, if_pos negative]
      rfl
  · cases filled

/-- A shape that could be declared is refused in words that are shown. -/
theorem fill_refused (represented : shape.Representable) {count : Nat} {defect : PayloadDefect}
    (failed : shape.fill count = .error defect) : defect.errorClass = .shapeMismatch ∧ defect.isShown = true := by
  have shown : shape.all Text.showsInteger = true := List.all_eq_true.mpr fun _ => represented.shows
  unfold fill at failed
  split at failed
  · cases failed
  · dsimp only at failed
    split at failed
    · cases failed
      refine ⟨rfl, ?_⟩
      rw [PayloadDefect.isShown, PayloadDefect.integers, List.all_cons, shown, represented.shows_count List.filter_sublist]
      rfl
    · cases failed
  · cases failed
    exact ⟨rfl, shown⟩

end

end Shape

namespace Tensor

/-! ### Bodies -/

/-- A body of so many bytes is the elements of extents that stand under a shape. -/
def Fills (element : ElementType) (shape : Shape) (size : Nat) (extents : List Nat) : Prop :=
  StandsUnder extents shape ∧ size = element.size * elementCount extents

/-- An array holds a body: its elements lie in their bytes, and in no blocks of several, within the bounds of an array. -/
structure Held (element : ElementType) (extents : List Nat) (body : Bytes) : Prop where
  closed : element.reach = .none
  bounded : Bounded element extents
  single : body = [] ∨ elementCount element.unblocked.2 = 1

section
variable {element : ElementType} {shape : Shape} {size : Nat}

theorem bodyExtents_eq_ok_iff_fills (sized : 0 < element.size) {found : Shape} :
    bodyExtents element shape size = .ok found ↔ ∃ extents, Fills element shape size extents ∧
      found = extents.map Int.ofNat := by
  rw [bodyExtents_eq_ok]
  constructor
  · rintro ⟨whole, filled, counted⟩
    obtain ⟨extents, rfl, under, _⟩ := Shape.exists_standsUnder filled
    rw [count_map_ofNat, Int.natCast_inj] at counted
    exact ⟨extents, ⟨under, by rw [← counted, Nat.mul_div_cancel' (Nat.dvd_of_mod_eq_zero whole)]⟩, rfl⟩
  · rintro ⟨extents, ⟨under, rfl⟩, rfl⟩
    rw [Nat.mul_div_cancel_left _ sized, count_map_ofNat]
    exact ⟨Nat.mul_mod_right _ _, fill_of_standsUnder under, rfl⟩

theorem bodyExtents_refused (represented : shape.Representable) {defect : PayloadDefect}
    (failed : bodyExtents element shape size = .error defect) :
    defect.errorClass = .shapeMismatch ∧ defect.isShown = true := by
  unfold bodyExtents at failed
  split at failed
  · cases failed
    exact ⟨rfl, rfl⟩
  · rcases bind_eq_error.mp failed with failed | ⟨found, filled, failed⟩
    · exact Shape.fill_refused represented failed
    · split at failed
      · next other =>
        cases failed
        -- An open extent is found from the count, so the extents that differ from it are the shape.
        obtain ⟨extents, rfl, _, rfl | counted⟩ := Shape.exists_standsUnder filled
        · refine ⟨rfl, ?_⟩
          rw [PayloadDefect.isShown, PayloadDefect.integers, List.all_cons, represented.shows_count (.refl _)]
          exact List.all_eq_true.mpr fun _ => represented.shows
        · exact absurd (by rw [counted, count_map_ofNat]) other
      · cases failed

theorem bodyExtents_fails_iff (sized : 0 < element.size) :
    (∃ defect, bodyExtents element shape size = .error defect) ↔ ¬ ∃ extents, Fills element shape size extents := by
  constructor
  · rintro ⟨defect, failed⟩ ⟨extents, fills⟩
    cases failed.symm.trans ((bodyExtents_eq_ok_iff_fills sized).mpr ⟨extents, fills, rfl⟩)
  · intro none
    cases found : bodyExtents element shape size with
    | ok extents =>
      obtain ⟨extents, fills, _⟩ := (bodyExtents_eq_ok_iff_fills sized).mp found
      exact absurd ⟨extents, fills⟩ none
    | error defect => exact ⟨defect, rfl⟩

theorem checkLayout_eq_ok (sized : 0 < element.size) {extents : List Nat} :
    checkLayout element (extents.map Int.ofNat) = .ok () ↔ Bounded element extents := by
  refine ⟨fun checked => ?_, fun bounded => checkLayout_of_bounded bounded sized⟩
  obtain ⟨_, ranked, stored⟩ := bind_eq_ok.mp checked
  constructor
  · unfold checkExtents at ranked
    split at ranked
    · exact absurd ranked fault_ne_ok
    · next rank => simpa using rank
  · split at stored
    · exact absurd stored fault_ne_ok
    · unfold checkStorage storage at stored
      rw [map_toNat_map_ofNat] at stored
      split at stored
      · exact absurd stored fault_ne_ok
      · next small => exact Nat.not_le.mp small

theorem layOut_succeeds_iff (sized : 0 < element.size) {extents : List Nat} {body : Bytes} :
    (∃ tensor, layOut element (extents.map Int.ofNat) body = .ok tensor) ↔ Held element extents body := by
  simp only [layOut_eq_ok, checkLayout_eq_ok sized]
  constructor
  · rintro ⟨_, closed, bounded, single, _⟩
    exact ⟨closed, bounded, single⟩
  · rintro ⟨closed, bounded, single⟩
    exact ⟨_, closed, bounded, single, rfl⟩

/-- Laying out meets faults only. -/
theorem fault_of_layOut {extents : Shape} {body : Bytes} {failure : Failure}
    (failed : layOut element extents body = .error failure) : ∃ fault, failure = .fault fault := by
  cases failure with
  | conversion error => exact (errorless_layOut element extents body error failed).elim
  | fault fault => exact ⟨fault, rfl⟩
  | refused issues => exact ((faults_layOut element extents body).meets _ failed).elim

end

end Tensor

/-! ### Payloads -/

/-- Elements of a fixed width: of some bytes, and without texts of any length in them. -/
structure ElementType.FixedWidth (type : ElementType) : Prop where
  sized : 0 < type.size
  short : type.reach ≠ .longTexts

/-- The bytes are those of a payload whose inner version is the expected one. -/
structure Payload.Whole (payload : Payload) (expected : Int) (bytes : Bytes) : Prop where
  fits : payload.Fits
  same : (payload.tensorVersion : Int) = expected
  bytes_eq : payload.bytes = bytes

theorem Payload.read_eq_ok_iff_whole {payload : Payload} {expected : Int} {bytes : Bytes} :
    read expected bytes = .ok payload ↔ payload.Whole expected bytes :=
  read_eq_ok.trans ⟨fun ⟨fits, same, bytes⟩ => ⟨fits, same, bytes⟩, fun ⟨fits, same, bytes⟩ => ⟨fits, same, bytes⟩⟩

namespace Tensor

open Payload

/-- An answer is a conversion error of a class with a name, an empty one apart, and without an operator. -/
def Refuses (answer : Attempt Tensor) (name : String) (errorClass : ErrorClass) : Prop :=
  ∃ defect, answer = .error (.conversion ⟨.payload defect, none, if name.isEmpty then none else some name⟩) ∧
    defect.errorClass = errorClass

section
variable {bytes : Bytes} {element : ElementType} {shape : Shape} {expected : Int} {name : String}

/-- A payload is decoded in three steps: its header, the extents of its body, and their layout. -/
theorem decodeTyped_eq (width : element.FixedWidth) :
    decodeTyped bytes (.ok element) (.ok shape) expected name =
      (read expected bytes).mapError (payloadFailure name) >>= fun payload =>
        (bodyExtents element shape payload.body.length).mapError (payloadFailure name) >>= fun extents =>
          layOut element extents payload.body := by
  have body : ∀ payload : Payload, decodeBody element (.ok shape) name payload.body =
      (bodyExtents element shape payload.body.length).mapError (payloadFailure name) >>= fun extents =>
        layOut element extents payload.body := by
    intro payload
    rw [decodeBody, if_neg width.short, if_neg (Nat.pos_iff_ne_zero.mp width.sized)]
    split
    · next ragged =>
      rw [bodyExtents, if_pos ragged]
      rfl
    · rfl
  unfold decodeTyped
  exact congrArg _ (funext body)

/-- Words about a header are shown when the expected version is. -/
theorem isShown_of_read (shown : Text.showsInteger expected = true) {defect : PayloadDefect}
    (failed : read expected bytes = .error defect) : defect.isShown = true := by
  rcases read_eq_error.mp failed with cut | foreign
  · have truncated := cut.errorClass
    cases defect with
    | truncated => rfl
    | _ => cases truncated
  · cases foreign with
    | version => simp [PayloadDefect.isShown, PayloadDefect.integers, shown]
    | size => rfl

theorem decodeTyped_succeeds_iff (width : element.FixedWidth) :
    (∃ tensor, decodeTyped bytes (.ok element) (.ok shape) expected name = .ok tensor) ↔
      ∃ payload : Payload, payload.Whole expected bytes ∧
        ∃ extents, Fills element shape payload.body.length extents ∧ Held element extents payload.body := by
  simp only [decodeTyped_eq width, bind_eq_ok, mapError_eq_ok, read_eq_ok_iff_whole, bodyExtents_eq_ok_iff_fills width.sized]
  constructor
  · rintro ⟨tensor, payload, whole, _, ⟨extents, fills, rfl⟩, laid⟩
    exact ⟨payload, whole, extents, fills, (layOut_succeeds_iff width.sized).mp ⟨tensor, laid⟩⟩
  · rintro ⟨payload, whole, extents, fills, held⟩
    obtain ⟨tensor, laid⟩ := (layOut_succeeds_iff width.sized).mpr held
    exact ⟨tensor, payload, whole, _, ⟨extents, fills, rfl⟩, laid⟩

section
variable (width : element.FixedWidth) (represented : shape.Representable) (shown : Text.showsInteger expected = true)
include width represented shown

/-- The conversion errors of decoding are those of the header and of the extents of the body, under the name. -/
theorem decodeTyped_eq_error {failure : Failure} :
    decodeTyped bytes (.ok element) (.ok shape) expected name = .error failure ↔
      (∃ defect, failure = .conversion ⟨.payload defect, none, if name.isEmpty then none else some name⟩ ∧
        (read expected bytes = .error defect ∨ ∃ payload, read expected bytes = .ok payload ∧
          bodyExtents element shape payload.body.length = .error defect)) ∨
      ∃ payload extents, read expected bytes = .ok payload ∧
        bodyExtents element shape payload.body.length = .ok extents ∧ layOut element extents payload.body = .error failure := by
  have header : ∀ {defect}, read expected bytes = .error defect → payloadFailure name defect =
      .conversion ⟨.payload defect, none, if name.isEmpty then none else some name⟩ :=
    fun failed => payloadFailure_of_isShown (isShown_of_read shown failed)
  have body : ∀ {size defect}, bodyExtents element shape size = .error defect → payloadFailure name defect =
      .conversion ⟨.payload defect, none, if name.isEmpty then none else some name⟩ :=
    fun failed => payloadFailure_of_isShown (bodyExtents_refused represented failed).2
  simp only [decodeTyped_eq width, bind_eq_error, mapError_eq_error, mapError_eq_ok]
  constructor
  · rintro (⟨defect, failed, rfl⟩ | ⟨payload, parsed, ⟨defect, failed, rfl⟩ | ⟨extents, found, laid⟩⟩)
    · exact .inl ⟨defect, header failed, .inl failed⟩
    · exact .inl ⟨defect, body failed, .inr ⟨payload, parsed, failed⟩⟩
    · exact .inr ⟨payload, extents, parsed, found, laid⟩
  · rintro (⟨defect, rfl, failed | ⟨payload, parsed, failed⟩⟩ | ⟨payload, extents, parsed, found, laid⟩)
    · exact .inl ⟨defect, failed, header failed⟩
    · exact .inr ⟨payload, parsed, .inl ⟨defect, failed, body failed⟩⟩
    · exact .inr ⟨payload, parsed, .inr ⟨extents, found, laid⟩⟩

/-- Decoding is refused for its header or for the extents of its body. -/
theorem refuses_iff {errorClass : ErrorClass} :
    Refuses (decodeTyped bytes (.ok element) (.ok shape) expected name) name errorClass ↔
      ∃ defect, (read expected bytes = .error defect ∨ ∃ payload, read expected bytes = .ok payload ∧
        bodyExtents element shape payload.body.length = .error defect) ∧ defect.errorClass = errorClass := by
  unfold Refuses
  refine exists_congr fun defect => and_congr_left fun _ => ?_
  rw [decodeTyped_eq_error width represented shown]
  constructor
  · rintro (⟨other, same, failed⟩ | ⟨payload, extents, _, _, laid⟩)
    · cases same
      exact failed
    · obtain ⟨fault, same⟩ := fault_of_layOut laid
      cases same
  · exact fun failed => .inl ⟨defect, rfl, failed⟩

/-- The errors of a header have no class of the errors of a body. -/
theorem header_refuses_iff {errorClass : ErrorClass} (other : errorClass ≠ .shapeMismatch) :
    Refuses (decodeTyped bytes (.ok element) (.ok shape) expected name) name errorClass ↔
      ∃ defect, (CutShort expected bytes defect ∨ Foreign expected bytes defect) ∧ defect.errorClass = errorClass := by
  rw [refuses_iff width represented shown]
  refine exists_congr fun defect => and_congr_left fun same => ?_
  rw [read_eq_error]
  refine or_iff_left ?_
  rintro ⟨payload, _, failed⟩
  exact other (same.symm.trans (bodyExtents_refused represented failed).1)

theorem refuses_truncatedPayload_iff :
    Refuses (decodeTyped bytes (.ok element) (.ok shape) expected name) name .truncatedPayload ↔
      ∃ defect, CutShort expected bytes defect := by
  rw [header_refuses_iff width represented shown (by decide)]
  refine exists_congr fun defect => ⟨?_, fun cut => ⟨.inl cut, cut.errorClass⟩⟩
  rintro ⟨cut | foreign, same⟩
  · exact cut
  · cases foreign.errorClass.symm.trans same

theorem refuses_tensorFormat_iff :
    Refuses (decodeTyped bytes (.ok element) (.ok shape) expected name) name .tensorFormat ↔
      ∃ defect, Foreign expected bytes defect := by
  rw [header_refuses_iff width represented shown (by decide)]
  refine exists_congr fun defect => ⟨?_, fun foreign => ⟨.inr foreign, foreign.errorClass⟩⟩
  rintro ⟨cut | foreign, same⟩
  · cases cut.errorClass.symm.trans same
  · exact foreign

theorem refuses_shapeMismatch_iff :
    Refuses (decodeTyped bytes (.ok element) (.ok shape) expected name) name .shapeMismatch ↔
      ∃ payload : Payload, payload.Whole expected bytes ∧ ¬ ∃ extents, Fills element shape payload.body.length extents := by
  rw [refuses_iff width represented shown]
  constructor
  · rintro ⟨defect, failed | ⟨payload, parsed, failed⟩, same⟩
    · rcases read_eq_error.mp failed with cut | foreign
      · cases cut.errorClass.symm.trans same
      · cases foreign.errorClass.symm.trans same
    · exact ⟨payload, read_eq_ok_iff_whole.mp parsed, (bodyExtents_fails_iff width.sized).mp ⟨defect, failed⟩⟩
  · rintro ⟨payload, whole, none⟩
    obtain ⟨defect, failed⟩ := (bodyExtents_fails_iff width.sized).mpr none
    exact ⟨defect, .inr ⟨payload, read_eq_ok_iff_whole.mpr whole, failed⟩, (bodyExtents_refused represented failed).1⟩

/-- Every failure of decoding is an error under the name, or a fault when no array holds the body. -/
theorem failure_of_decodeTyped {failure : Failure}
    (failed : decodeTyped bytes (.ok element) (.ok shape) expected name = .error failure) :
    (∃ defect, failure = .conversion ⟨.payload defect, none, if name.isEmpty then none else some name⟩ ∧
      defect.errorClass ∈ [.truncatedPayload, .tensorFormat, .shapeMismatch]) ∨
    ∃ fault, failure = .fault fault ∧ ∃ payload : Payload, payload.Whole expected bytes ∧
      ∃ extents, Fills element shape payload.body.length extents ∧ ¬ Held element extents payload.body := by
  rcases (decodeTyped_eq_error width represented shown).mp failed with
    ⟨defect, same, failed | ⟨payload, _, failed⟩⟩ | ⟨payload, found, parsed, filled, laid⟩
  · refine .inl ⟨defect, same, ?_⟩
    rcases read_eq_error.mp failed with cut | foreign
    · simp [cut.errorClass]
    · simp [foreign.errorClass]
  · exact .inl ⟨defect, same, by simp [(bodyExtents_refused represented failed).1]⟩
  · obtain ⟨extents, fills, rfl⟩ := (bodyExtents_eq_ok_iff_fills width.sized).mp filled
    obtain ⟨fault, same⟩ := fault_of_layOut laid
    refine .inr ⟨fault, same, payload, read_eq_ok_iff_whole.mp parsed, extents, fills, fun held => ?_⟩
    obtain ⟨tensor, laid'⟩ := (layOut_succeeds_iff width.sized).mpr held
    cases laid.symm.trans laid'

end

/-- A payload is refused exactly for a header that is cut short, a foreign header, or a body that fills no extents of the
shape, and it is decoded exactly when an array holds the body. Nothing else fails but the making of that array. -/
theorem decodeTyped_outcome (width : element.FixedWidth) (represented : shape.Representable)
    (shown : Text.showsInteger expected = true) :
    let answer := decodeTyped bytes (.ok element) (.ok shape) expected name
    (Refuses answer name .truncatedPayload ↔ ∃ defect, CutShort expected bytes defect) ∧
    (Refuses answer name .tensorFormat ↔ ∃ defect, Foreign expected bytes defect) ∧
    (Refuses answer name .shapeMismatch ↔ ∃ payload : Payload, payload.Whole expected bytes ∧
      ¬ ∃ extents, Fills element shape payload.body.length extents) ∧
    ((∃ tensor, answer = .ok tensor) ↔ ∃ payload : Payload, payload.Whole expected bytes ∧
      ∃ extents, Fills element shape payload.body.length extents ∧ Held element extents payload.body) ∧
    ∀ failure, answer = .error failure →
      (∃ defect, failure = .conversion ⟨.payload defect, none, if name.isEmpty then none else some name⟩ ∧
        defect.errorClass ∈ [.truncatedPayload, .tensorFormat, .shapeMismatch]) ∨
      ∃ fault, failure = .fault fault ∧ ∃ payload : Payload, payload.Whole expected bytes ∧
        ∃ extents, Fills element shape payload.body.length extents ∧ ¬ Held element extents payload.body :=
  ⟨refuses_truncatedPayload_iff width represented shown, refuses_tensorFormat_iff width represented shown,
    refuses_shapeMismatch_iff width represented shown, decodeTyped_succeeds_iff width,
    fun _ => failure_of_decodeTyped width represented shown⟩

end

/-- Two numbers behind a header are decoded under a shape that leaves their number open. -/
theorem outcome_pair : ElementType.FixedWidth (.signed 2) ∧ Shape.Representable [-1] ∧ Text.showsInteger 0 = true ∧
    ∃ tensor, decodeTyped pair.bytes (.ok (.signed 2)) (.ok [-1]) 0 "pair" = .ok tensor := by
  have width : ElementType.FixedWidth (.signed 2) := ⟨by decide, by decide⟩
  have represented : Shape.Representable [-1] := ⟨by decide, by decide⟩
  have shown : Text.showsInteger 0 = true := Shape.shows_of_le (Nat.zero_le _)
  obtain ⟨_, _, _, succeeds, _⟩ := @decodeTyped_outcome pair.bytes (.signed 2) [-1] 0 "pair" width represented shown
  have whole : pair.Whole 0 pair.bytes := ⟨⟨by decide, ⟨by decide, by decide⟩, by decide, by decide⟩, rfl, rfl⟩
  have under : StandsUnder [2] [-1] := @StandsUnder.inferred [2] [] [] 2 (-1) rfl (by decide) (by decide)
  exact ⟨width, represented, shown, succeeds.mpr ⟨pair, whole, [2], ⟨under, rfl⟩, rfl, ⟨by decide, by decide⟩, .inr rfl⟩⟩

/-- A header of zeros without a body. -/
def bare : Bytes := List.replicate 20 0

theorem whole_bare : (Payload.mk 0 [] 0 [] []).Whole 0 bare :=
  ⟨⟨by decide, ⟨by decide, by decide⟩, by decide, by decide⟩, rfl, rfl⟩

/-- An inner version is told from one with too many digits, but not in words. -/
theorem decodeTyped_shownInteger {expected : Int} (long : Text.showsInteger expected = false) (other : 0 ≠ expected)
    (type : Attempt ElementType) (declared : Attempt Shape) (name : String) :
    decodeTyped bare type declared expected name = .fault .shownInteger := by
  have front : bare = joined (Payload.front ⟨0, [], 0, [], []⟩) ++ [0, 0, 0, 0] := rfl
  have failed : Payload.read expected bare = .error (.version 0 expected) :=
    (Foreign.version whole_bare.fits front other).read
  have unshown : (PayloadDefect.version 0 expected).isShown = false := by
    rw [PayloadDefect.isShown, PayloadDefect.integers, List.all_cons, long, Bool.false_and]
  unfold decodeTyped
  rw [failed]
  change Except.error (payloadFailure name (.version 0 expected)) = _
  rw [payloadFailure, unshown]
  rfl

/-- A body may fill the extents of a shape that no array has, or hold elements that no array is made of; and a version may
be expected that has too many digits for the words about it. -/
theorem decodeTyped_bare :
    (Shape.Representable [4611686018427387904, 4, 0] ∧
      Fills (.float 4) [4611686018427387904, 4, 0] 0 [4611686018427387904, 4, 0] ∧
      decodeTyped bare (.ok (.float 4)) (.ok [4611686018427387904, 4, 0]) 0 "w" =
        .fault (.reshape 0 [4611686018427387904, 4, 0])) ∧
    decodeTyped bare (.ok .reference) (.ok [0]) 0 "w" = .fault .referenceBuffer ∧
    decodeTyped (bare ++ List.replicate 8 0) (.ok (.block (.float 4) [2] 8)) (.ok [1]) 0 "w" = .fault (.reshape 4 [1]) ∧
    ∃ expected : Int, decodeTyped bare (.ok (.float 4)) (.ok [0]) expected "w" = .fault .shownInteger := by
  refine ⟨⟨⟨by decide, by decide⟩, ⟨.known, rfl⟩, ?_⟩, ?_, ?_, ?_⟩
  · rfl
  · rfl
  · rfl
  · obtain ⟨bound, limit⟩ : ∃ bound, bound = Nat.pow 10 Text.numeralLimit := ⟨_, rfl⟩
    have positive : 0 < bound := by
      rw [limit]
      apply Nat.pow_pos
      decide
    refine ⟨bound, decodeTyped_shownInteger ?_ (by omega) _ _ _⟩
    unfold Text.showsInteger
    rw [← limit]
    exact decide_eq_false (Nat.lt_irrefl bound)

end Tensor

end LayerGraph
