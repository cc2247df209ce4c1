import LayerGraph.Lowering.Context
import LayerGraph.Proofs.Tensor.RoundTrip
import Mathlib.Data.List.Forall2

/-! The extents of tensors that stand for variables.

A stored tensor has the declared extents, the unknown one settled by the number of its elements. Zeros have
the declared extents with every unknown one settled to one; behind these come the extents of the blocks of
their element type, if it has blocks.
-/

set_option autoImplicit false

namespace LayerGraph

open Attempt

namespace Shape

/-- No extent lies below the unknown one. -/
def Known (shape : Shape) : Prop := ∀ extent ∈ shape, unknown ≤ extent

instance (shape : Shape) : Decidable shape.Known := inferInstanceAs (Decidable (∀ extent ∈ shape, unknown ≤ extent))

/-- Extents realize a shape when they have its rank and its extents wherever these are known. -/
def Realizes (declared found : Shape) : Prop :=
  List.Forall₂ (fun wanted extent => wanted = unknown ∨ extent = wanted) declared found

/-- The extents with every open one settled. -/
def settle (inferred : Int) (shape : Shape) : Shape :=
  shape.map fun extent => if extent < 0 then inferred else extent

theorem realizes_settle {shape : Shape} (known : shape.Known) (inferred : Int) :
    shape.Realizes (shape.settle inferred) := by
  refine List.forall₂_map_right_iff.mpr (List.forall₂_same.mpr fun extent member => ?_)
  have low := known extent member
  split
  · exact .inl (by unfold unknown at *; omega)
  · exact .inr rfl

theorem nonneg_settle {shape : Shape} {inferred : Int} (nonneg : 0 ≤ inferred) :
    ∀ extent ∈ shape.settle inferred, 0 ≤ extent := by
  intro extent member
  obtain ⟨wanted, _, rfl⟩ := List.mem_map.mp member
  split <;> omega

/-- Extents that realize a shape agree with it. -/
theorem Realizes.compatible {declared found : Shape} (realizes : declared.Realizes found) :
    Shape.compatible found declared = true := by
  induction realizes with
  | nil => rfl
  | cons here _ ih =>
    rw [Shape.compatible, ih, Bool.and_true, agree]
    rcases here with rfl | rfl <;> simp

theorem compatible_self (shape : Shape) : Shape.compatible shape shape = true := by
  induction shape with
  | nil => rfl
  | cons extent shape ih => rw [Shape.compatible, ih, agree, decide_eq_true rfl]; rfl

theorem count_nonneg {shape : Shape} (nonneg : ∀ extent ∈ shape, 0 ≤ extent) : 0 ≤ shape.count := by
  induction shape with
  | nil => exact Int.one_nonneg
  | cons extent shape ih =>
    rw [count_cons]
    exact Int.mul_nonneg (nonneg extent (by simp)) (ih fun other found => nonneg other (by simp [found]))

/-- The number of the elements settles the open extent of a shape. -/
theorem settle_of_fill {shape extents : Shape} {count : Nat} (filled : shape.fill count = .ok extents) :
    ∃ inferred, 0 ≤ inferred ∧ extents = shape.settle inferred := by
  unfold fill at filled
  split at filled
  · next closed =>
    refine ⟨0, Int.le_refl 0, ?_⟩
    rw [← Except.ok.inj filled, settle]
    refine ((List.map_congr_left fun extent member => ?_).trans (List.map_id shape)).symm
    exact if_neg fun negative => List.filter_eq_nil_iff.mp closed extent member (by simpa using negative)
  · dsimp only at filled
    split at filled
    · cases filled
    · have nonneg : 0 ≤ Shape.count (shape.filter (0 ≤ ·)) :=
        count_nonneg fun extent member => by simpa using (List.mem_filter.mp member).2
      exact ⟨_, Int.ediv_nonneg (Int.natCast_nonneg count) nonneg, (Except.ok.inj filled).symm⟩
  · cases filled

theorem map_toNat {shape : Shape} (nonneg : ∀ extent ∈ shape, 0 ≤ extent) :
    (shape.map Int.toNat).map Int.ofNat = shape := by
  rw [List.map_map]
  exact (List.map_congr_left fun extent member => Int.toNat_of_nonneg (nonneg extent member)).trans
    (List.map_id shape)

end Shape

namespace Tensor

/-- What is read under a shape has its extents, the open one settled. -/
theorem settle_of_decodeTyped {bytes : Bytes} {type : Attempt ElementType} {declared : Shape}
    {expected : Int} {name : String} {tensor : Tensor}
    (read : decodeTyped bytes type (.ok declared) expected name = .ok tensor) :
    ∃ inferred, 0 ≤ inferred ∧ tensor.shape = declared.settle inferred := by
  obtain ⟨payload, _, element, _, decoded⟩ := decodeTyped_eq_ok.mp read
  obtain ⟨_, _, _, shape, same, extents, found, laid⟩ := decodeBody_eq_ok.mp decoded
  cases same
  obtain ⟨_, filled, _⟩ := bodyExtents_eq_ok.mp found
  obtain ⟨inferred, nonneg, rfl⟩ := Shape.settle_of_fill filled
  obtain ⟨_, _, _, rfl⟩ := layOut_eq_ok.mp laid
  exact ⟨inferred, nonneg, Shape.map_toNat (Shape.nonneg_settle nonneg)⟩

theorem reserve_eq_ok {element : ElementType} {shape : Shape} {extents : List Nat}
    (reserved : reserve element shape = .ok extents) :
    (∀ extent ∈ shape, 0 ≤ extent) ∧ extents = shape.map Int.toNat := by
  obtain ⟨_, _, rest⟩ := bind_eq_ok.mp reserved
  dsimp only at rest
  split at rest
  · obtain ⟨_, failed, _⟩ := bind_eq_ok.mp rest
    cases failed
  · next nonneg =>
    obtain ⟨_, _, rest⟩ := bind_eq_ok.mp rest
    obtain ⟨_, _, rest⟩ := bind_eq_ok.mp rest
    refine ⟨fun extent member => ?_, (Except.ok.inj rest).symm⟩
    simp only [List.any_eq_true, decide_eq_true_eq, not_exists, not_and, Int.not_lt] at nonneg
    exact nonneg extent member

end Tensor

namespace PayloadStore

theorem settle_of_load {store : PayloadStore} {name spelling : String} {declared : Shape}
    {value : Tensor} (loaded : store.load name declared spelling = .ok value) :
    ∃ inferred, 0 ≤ inferred ∧ value.shape = declared.settle inferred := by
  obtain ⟨bytes, _, read⟩ := bind_eq_ok.mp loaded
  exact Tensor.settle_of_decodeTyped read

/-- Zeros have the extents that are asked for, and behind them those of a block. -/
theorem shape_of_zeros {extents : Shape} {spelling : String} {value : Tensor}
    (made : zeros extents spelling = .ok value) :
    ∃ element, Tensor.spelledType spelling = .ok element ∧
      value.shape = extents ++ element.sized.unblocked.2.map Int.ofNat := by
  obtain ⟨element, named, made⟩ := bind_eq_ok.mp made
  obtain ⟨found, reserved, made⟩ := bind_eq_ok.mp made
  cases made
  obtain ⟨nonneg, rfl⟩ := Tensor.reserve_eq_ok reserved
  exact ⟨element, named, Shape.map_toNat nonneg⟩

end PayloadStore

namespace Context

variable {context : Context} {name : String} {value : Tensor}

/-- Zeros in the place of a variable without a payload have extents behind the declared ones, those of the
blocks of its element type. -/
def HasBlocks (context : Context) (name : String) (inner : List Nat) : Prop :=
  context.tensors.contains name = .ok false ∧ ∃ spelling element,
    context.elementType name = .ok spelling ∧ Tensor.spelledType spelling = .ok element ∧
      element.sized.unblocked.2 = inner

/-- A stored tensor has the declared extents, and zeros have them too before those of blocks. -/
theorem realizes_of_loadOrZeros (known : ∀ declared, context.shape name = .ok declared → declared.Known)
    (loaded : context.loadOrZeros name = .ok value) :
    ∃ declared found inner, context.shape name = .ok declared ∧ declared.Realizes found ∧
      value.shape = found ++ inner.map Int.ofNat ∧ (inner = [] ∨ context.HasBlocks name inner) := by
  obtain ⟨declared, shaped, loaded⟩ := bind_eq_ok.mp loaded
  obtain ⟨spelling, typed, loaded⟩ := bind_eq_ok.mp loaded
  obtain ⟨stored, contained, loaded⟩ := bind_eq_ok.mp loaded
  have realizes := Shape.realizes_settle (known declared shaped)
  cases stored with
  | true =>
    obtain ⟨inferred, _, same⟩ := PayloadStore.settle_of_load loaded
    exact ⟨declared, _, [], shaped, realizes inferred, same.trans (List.append_nil _).symm, .inl rfl⟩
  | false =>
    obtain ⟨element, named, same⟩ := PayloadStore.shape_of_zeros loaded
    exact ⟨declared, _, _, shaped, realizes 1, same,
      .inr ⟨contained, spelling, element, typed, named, rfl⟩⟩

/-- A stored tensor agrees with the declared shape. -/
theorem compatible_of_load {shape : Shape} (known : shape.Known) (declared : context.shape name = .ok shape)
    (loaded : context.load name = .ok value) : Shape.compatible value.shape shape = true := by
  obtain ⟨other, shaped, loaded⟩ := bind_eq_ok.mp loaded
  obtain ⟨spelling, _, loaded⟩ := bind_eq_ok.mp loaded
  cases declared.symm.trans shaped
  obtain ⟨inferred, _, same⟩ := PayloadStore.settle_of_load loaded
  rw [same]
  exact (Shape.realizes_settle known inferred).compatible

end Context

end LayerGraph
