import LayerGraph.Proofs.Failure.Run
import LayerGraph.Proofs.Tensor.Elements
import LayerGraph.Tensor.Spelling

/-! The element types that spellings lead to.

A plain spelling is a step of time, a character, a kind with a size, or a name. Lists of formats count types, which gives
the types without a size one and makes blocks of the others, and put them side by side in records.

All these types are regular: their units make up their bytes, and the elements of a block fill it unless it has none. Such a
type has the same bytes whatever byte order its units are stored in.
-/

set_option autoImplicit false

namespace LayerGraph

open Attempt

namespace ElementType

section
variable {spelling : String} {type counted : ElementType} {order : ByteOrder} {extents : List Nat} {several : Bool}

theorem ofCharacter?_cases {c : Char} (named : ofCharacter? c = some type) :
    type = .bytes 1 ∨ type ∈ numbered ∨ ofCode? c = some type := by
  unfold ofCharacter? at named
  split at named
  · exact .inl (Option.some.inj named).symm
  · rcases Option.or_eq_some_iff.mp named with listed | ⟨_, coded⟩
    · exact .inr (.inl (List.mem_of_getElem? listed))
    · exact .inr (.inr coded)

theorem ofTime?_cases {text : List Char} (named : ofTime? text = some (.ok type)) :
    ∃ written step, TimeStep.read written = .ok step ∧ (type = .instant step ∨ type = .duration step) := by
  unfold ofTime? at named
  dsimp only at named
  split at named
  · obtain ⟨step, read, rfl⟩ := map_eq_ok.mp (Option.some.inj named)
    exact ⟨_, step, read, .inl rfl⟩
  · obtain ⟨step, read, rfl⟩ := map_eq_ok.mp (Option.some.inj named)
    exact ⟨_, step, read, .inr rfl⟩
  · cases named

theorem ofPlain_cases (parsed : ofPlain spelling = .ok (type, order)) :
    (∃ text, ofTime? text = some (.ok type)) ∨ (∃ c, ofCharacter? c = some type) ∨
      (∃ kind size, ofSized? kind size = some type) ∨ ∃ name, ofName? name = some type := by
  unfold ofPlain at parsed
  dsimp only at parsed
  split at parsed
  · next timed =>
    cases parsed
    exact .inl ⟨_, timed⟩
  · cases parsed
  · split at parsed
    · next short =>
      cases parsed
      split at short
      · exact .inr (.inl ⟨_, short⟩)
      · obtain ⟨_, _, sized⟩ := Option.bind_eq_some_iff.mp short
        exact .inr (.inr (.inl ⟨_, _, sized⟩))
      · cases short
    · next named =>
      cases parsed
      exact .inr (.inr (.inr ⟨_, named⟩))
    · cases parsed

/-- A count gives a type without a size one, or makes blocks of it, or leaves it as it is. -/
theorem repeated_cases (made : repeated type extents several = .ok counted) :
    (type.size = 0 ∧ ∃ size, counted = type.withSize size) ∨ counted = type ∨
      (0 < type.size ∧ counted = .block type extents (type.size * extents.foldr (· * ·) 1)) := by
  unfold repeated at made
  split at made
  · next empty =>
    split at made
    · -- The limit depends on the type, but not what is made.
      split at made <;> dsimp only at made <;> split at made
      · cases made
      · exact .inl ⟨empty, _, (Except.ok.inj made).symm⟩
      · cases made
      · exact .inl ⟨empty, _, (Except.ok.inj made).symm⟩
    · cases made
  · next sized =>
    split at made
    · exact .inr (.inl (Except.ok.inj made).symm)
    · unfold blockOf at made
      dsimp only at made
      split at made
      · cases made
      · split at made
        · cases made
        · split at made
          · cases made
          · exact .inr (.inr ⟨Nat.pos_of_ne_zero sized, (Except.ok.inj made).symm⟩)

/-- A property of element types that no way to spell one breaks. -/
structure Kept (P : ElementType → Prop) : Prop where
  timed : ∀ {written step}, TimeStep.read written = .ok step → P (.instant step) ∧ P (.duration step)
  single : P (.bytes 1)
  numbered : ∀ type ∈ numbered, P type
  coded : ∀ {c type}, ofCode? c = some type → P type
  sized : ∀ {kind size type}, ofSized? kind size = some type → P type
  named : ∀ {name type}, ofName? name = some type → P type
  counted : ∀ {type counted extents several}, P type → repeated type extents several = .ok counted → P counted
  record : ∀ stretches reach, P (.record stretches reach)

section
variable {P : ElementType → Prop} (kept : Kept P)
include kept

theorem Kept.of_ofPlain (parsed : ofPlain spelling = .ok (type, order)) : P type := by
  rcases ofPlain_cases parsed with ⟨_, timed⟩ | ⟨_, character⟩ | ⟨_, _, sized⟩ | ⟨_, named⟩
  · obtain ⟨_, step, read, rfl | rfl⟩ := ofTime?_cases timed
    · exact (kept.timed read).1
    · exact (kept.timed read).2
  · rcases ofCharacter?_cases character with rfl | listed | coded
    · exact kept.single
    · exact kept.numbered _ listed
    · exact kept.coded coded
  · exact kept.sized sized
  · exact kept.named named

theorem Kept.of_parseWith {fuel : Nat} (parsed : parseWith fuel spelling = .ok (type, order)) : P type := by
  induction fuel generalizing spelling type order with
  | zero => cases parsed
  | succ fuel ih =>
    unfold parseWith at parsed
    split at parsed
    · exact kept.of_ofPlain parsed
    · obtain ⟨⟨formats, listed⟩, _, parsed⟩ := bind_eq_ok.mp parsed
      dsimp only at parsed
      split at parsed
      · obtain ⟨⟨base, baseOrder⟩, named, parsed⟩ := bind_eq_ok.mp parsed
        dsimp only at parsed
        split at parsed
        · obtain ⟨counted, made, same⟩ := bind_eq_ok.mp parsed
          cases same
          exact kept.counted (ih named) made
        · cases parsed
          exact ih named
      · split at parsed <;> split at parsed
        all_goals try cases parsed
        all_goals
          obtain ⟨types, _, same⟩ := bind_eq_ok.mp parsed
          cases same
          exact kept.record _ _

end

end

/-! ### Regular types -/

/-- The bytes of an element are those of its units or, in a block, those of its elements. -/
def Regular : ElementType → Prop
  | .record .. => True
  | .block base extents size =>
    base.Regular ∧ 0 < base.size ∧ (elementCount extents = 0 ∨ size = elementCount extents * base.size)
  | type => type.unit ∣ type.size

/-- A type that is no block. -/
def Single : ElementType → Prop
  | .block .. => False
  | _ => True

/-- A type whose elements stand alone and refer to nothing outside their bytes, of which there are some. -/
structure Fixed (type : ElementType) : Prop where
  regular : type.Regular
  single : type.Single
  closed : type.reach = .none
  sized : 0 < type.size

theorem regular_of_ofCode? {code : Char} {type : ElementType} (named : ofCode? code = some type) :
    type.Regular := by
  unfold ofCode? at named
  split at named <;> cases named <;> simp [Regular, raw, unit, size]

theorem regular_of_mem_numbered : ∀ type ∈ numbered, type.Regular := by
  simp [numbered, Regular, raw, unit, size]

theorem regular_of_ofSized? {kind : Char} {size : Nat} {type : ElementType}
    (named : ofSized? kind size = some type) : type.Regular := by
  unfold ofSized? at named
  split at named
  all_goals try split at named
  all_goals cases named
  case h_5.isTrue halves =>
    have even : 2 ∣ size := by
      simp only [List.contains_iff_mem, List.mem_cons, List.not_mem_nil, or_false] at halves
      omega
    exact Nat.div_dvd_of_dvd even
  all_goals simp [Regular, raw, unit, ElementType.size, Nat.dvd_mul_right]

theorem regular_of_ofName? {name : String} {type : ElementType} (named : ofName? name = some type) :
    type.Regular := by
  unfold ofName? at named
  split at named <;> cases named <;> simp [Regular, raw, unit, size]

theorem regular_withSize {type : ElementType} (regular : type.Regular) (empty : type.size = 0)
    (size : Nat) : (type.withSize size).Regular := by
  cases type with
  | block base extents old =>
    obtain ⟨baseRegular, filled, items⟩ := regular
    refine ⟨baseRegular, filled, .inl (items.elim id fun same => ?_)⟩
    exact (Nat.mul_eq_zero.mp (same.symm.trans empty)).resolve_right (Nat.pos_iff_ne_zero.mp filled)
  | text length => exact Nat.dvd_mul_right 4 size
  | bytes length => exact Nat.one_dvd size
  | record stretches reach => trivial
  | _ => exact regular

theorem regular_of_repeated {type counted : ElementType} {extents : List Nat} {several : Bool}
    (regular : type.Regular) (made : repeated type extents several = .ok counted) : counted.Regular := by
  rcases repeated_cases made with ⟨empty, size, rfl⟩ | rfl | ⟨sized, rfl⟩
  · exact regular_withSize regular empty size
  · exact regular
  · exact ⟨regular, sized, .inr (Nat.mul_comm _ _)⟩

theorem kept_regular : Kept Regular where
  timed _ := ⟨Nat.dvd_refl 8, Nat.dvd_refl 8⟩
  single := Nat.dvd_refl 1
  numbered := regular_of_mem_numbered
  coded := regular_of_ofCode?
  sized := regular_of_ofSized?
  named := regular_of_ofName?
  counted := regular_of_repeated
  record _ _ := trivial

end ElementType

namespace Tensor

/-- Whatever a spelling names is regular. -/
theorem regular_of_spelledType {spelling : String} {element : ElementType}
    (named : spelledType spelling = .ok element) : element.Regular := by
  obtain ⟨⟨type, order⟩, parsed, same⟩ := bind_eq_ok.mp named
  cases same
  exact ElementType.kept_regular.of_parseWith (mapError_eq_ok.mp parsed)

end Tensor

namespace ElementType

variable {type : ElementType}

/-- The units of a type that is no block take as many bytes as it has. -/
theorem total_stretches (regular : type.Regular) (single : type.Single) (order : ByteOrder) :
    Stretch.total (type.stretches order) = type.size := by
  cases type with
  | block base extents size => exact single.elim
  | record stretches reach => rfl
  | _ => exact (Nat.add_zero _).trans (Nat.div_mul_cancel regular)

theorem stretches_native (single : type.Single) (order : ByteOrder) :
    type.native.stretches .little = (type.stretches order).map Stretch.little := by
  cases type with
  | block base extents size => exact single.elim
  | _ => rfl

@[simp] theorem size_native : type.native.size = type.size := by
  cases type with
  | record stretches reach => exact Stretch.total_map_little stretches
  | _ => rfl

theorem unblocked_of_single (single : type.Single) : type.unblocked = (type, []) := by
  cases type with
  | block base extents size => exact single.elim
  | _ => rfl

/-- What lies in the blocks of a regular type is regular, and has bytes if the type has. -/
theorem regular_unblocked (regular : type.Regular) (sized : 0 < type.size) :
    type.unblocked.1.Regular ∧ 0 < type.unblocked.1.size := by
  induction type with
  | block base extents size ih => exact ih regular.1 regular.2.1
  | _ => exact ⟨regular, sized⟩

end ElementType

end LayerGraph
