import LayerGraph.Proofs.Layer.Windows
import LayerGraph.Proofs.Tensor.Extents

/-! Layers over known shapes.

Where no extent of an input lies below the unknown one, none of the output does, and windows leave an extent open only
where it is open before. One kind of axis is left out: windows that keep the border under a negative stride.
-/

set_option autoImplicit false

namespace LayerGraph

open Attempt Number

/-- Windows that keep the border run backwards along an axis. -/
def Convolution.RunsBack (convolution : Convolution) (axis : Nat) : Prop :=
  convolution.padding = .same ∧
    (axis = 2 ∧ convolution.strides.1 < 0 ∨ axis = 3 ∧ convolution.strides.2 < 0)

namespace Layer

def RunsBack (layer : Layer) (axis : Nat) : Prop :=
  match layer.body with
  | .conv2d convolution | .depthwiseConv2d convolution => convolution.RunsBack axis
  | _ => False

/-- The extents at the ports of a layer are unknown or not negative, on axes along which no windows run backwards. -/
structure WellShaped (layer : Layer) : Prop where
  inputs : ∀ port ∈ layer.inputs, port.shape.Known
  outputs : ∀ port ∈ layer.outputs, ∀ (axis : Nat) (extent : Int), port.shape[axis]? = some extent →
    layer.RunsBack axis ∨ unknown ≤ extent

/-- What a layer gives out is open only where a shape is, on axes along which no windows run backwards. -/
def OpenAs (layer : Layer) (shape : Shape) : Prop :=
  ∀ axis : Nat, layer.outputShape[axis]? = some unknown → layer.RunsBack axis ∨ shape[axis]? = some unknown

end Layer

/-! ### Shapes -/

namespace Shape

variable {a b : Shape}

theorem known_cons {extent : Int} : Known (extent :: a) ↔ unknown ≤ extent ∧ a.Known := by
  simp [Known]

theorem known_append : Known (a ++ b) ↔ a.Known ∧ b.Known := by
  simp [Known, or_imp, forall_and]

/-- Extents that are not zero or more are one of the two. -/
theorem known_replicate_one (count : Nat) : Known (List.replicate count 1) := by
  intro extent member
  rw [List.eq_of_mem_replicate member]
  decide

/-- A known shape without an open extent has no negative ones. -/
theorem nonneg_of_closed (known : a.Known) (closed : unknown ∉ a) : ∀ extent ∈ a, 0 ≤ extent := by
  intro extent member
  have low := known extent member
  have apart : extent ≠ unknown := fun same => closed (same ▸ member)
  unfold unknown at low apart
  omega

theorem count_nonneg_of_known (known : a.Known) (closed : unknown ∉ a) : 0 ≤ a.count :=
  count_nonneg (nonneg_of_closed known closed)

end Shape

section
variable {a b sum : Shape}

theorem known_broadcastExtent? {x y extent : Int} (first : unknown ≤ x) (second : unknown ≤ y)
    (found : broadcastExtent? x y = some extent) : unknown ≤ extent := by
  unfold broadcastExtent? at found
  split at found
  · cases found
    exact first
  · split at found
    · cases found
      exact second
    · split at found
      · cases found
        split
        · exact first
        · exact second
      · cases found

theorem known_broadcastAligned? (first : a.Known) (second : b.Known) (found : broadcastAligned? a b = some sum) :
    sum.Known := by
  induction a generalizing b sum with
  | nil =>
    cases found
    nofun
  | cons x xs ih =>
    cases b with
    | nil =>
      cases found
      nofun
    | cons y ys =>
      obtain ⟨here, same, found⟩ := Option.bind_eq_some_iff.mp found
      obtain ⟨rest, others, found⟩ := Option.bind_eq_some_iff.mp found
      cases found
      rw [Shape.known_cons] at first second ⊢
      exact ⟨known_broadcastExtent? first.1 second.1 same, ih first.2 second.2 others⟩

theorem known_alignAt {axis : Int} {aligned : Shape} (second : b.Known) (found : alignAt a b axis = .ok aligned) :
    aligned.Known := by
  unfold alignAt at found
  split at found
  · split at found
    · exact absurd found layer_ne_ok
    · cases found
      simp only [Shape.known_append, Shape.known_replicate_one, second, and_self]
  · cases found
    exact second

theorem known_padLeading (known : a.Known) (rank : Nat) : (padLeading rank a).Known :=
  Shape.known_append.mpr ⟨Shape.known_replicate_one _, known⟩

/-- The extents of a sum are those of its summands, or ones. -/
theorem known_broadcast {axis : Int} (first : a.Known) (second : b.Known) (found : broadcast a b axis = .ok sum) :
    sum.Known := by
  obtain ⟨aligned, same, found⟩ := bind_eq_ok.mp found
  dsimp only at found
  split at found
  · next shape fits =>
    cases found
    exact known_broadcastAligned? (known_padLeading first _) (known_padLeading (known_alignAt second same) _) fits
  · exact absurd found layer_ne_ok

end

section
variable {input target extents : Shape}

theorem known_copyExtents {position : Nat} (known : input.Known)
    (copied : copyExtents input position target = .ok extents) : extents.Known := by
  induction target generalizing position extents with
  | nil =>
    cases copied
    nofun
  | cons wanted target ih =>
    unfold copyExtents at copied
    dsimp only at copied
    have rest : ∀ here : Int, unknown ≤ here →
        (do return here :: (← copyExtents input (position + 1) target)) = .ok extents → extents.Known := by
      intro here low copied
      obtain ⟨later, copies, same⟩ := bind_eq_ok.mp copied
      cases same
      exact Shape.known_cons.mpr ⟨low, ih copies⟩
    split at copied
    · split at copied
      · next found => exact rest _ (known _ (List.mem_of_getElem? found)) copied
      · exact absurd (bind_eq_ok.mp copied).choose_spec.1 layer_ne_ok
    · split at copied
      · exact absurd (bind_eq_ok.mp copied).choose_spec.1 layer_ne_ok
      · next low => exact rest wanted (Int.not_lt.mp low) copied

/-- A reshape copies extents, keeps those of its target, or divides what is not negative. -/
theorem known_reshapeExtents (known : input.Known) (found : reshapeExtents input target = .ok extents) :
    extents.Known := by
  obtain ⟨copied, same, found⟩ := bind_eq_ok.mp found
  have kept := known_copyExtents known same
  dsimp only at found
  split at found
  · exact absurd found layer_ne_ok
  · split at found
    · cases found
      exact kept
    · next closed =>
      split at found
      · split at found
        · exact absurd found layer_ne_ok
        · cases found
          intro extent member
          obtain ⟨⟨wanted, old⟩, pair, rfl⟩ := List.mem_map.mp member
          dsimp only
          split
          · -- The extent that is worked out is a quotient of two counts, neither of which is negative.
            have total := Shape.count_nonneg_of_known known closed
            have divisor : 0 ≤ Shape.count (copied.filter (· ≠ unknown)) := by
              refine Shape.count_nonneg_of_known (fun other among => kept other (List.mem_filter.mp among).1) ?_
              simp [List.mem_filter]
            exact Int.le_trans (by decide) (Int.fdiv_nonneg total divisor)
          · exact kept old (List.of_mem_zip pair).2
      · split at found
        · exact absurd found layer_ne_ok
        · cases found
          exact kept

end

/-! ### Windows -/

section
variable {size kernel stride extent : Int} {padding : Padding}

/-- Windows leave an axis open only where it is open before, unless they keep the border and run backwards. -/
theorem windowExtent_cases (known : unknown ≤ size) (left : windowExtent size kernel stride padding = .ok extent) :
    padding = .same ∧ stride < 0 ∨ unknown ≤ extent ∧ (extent = unknown → size = unknown) := by
  by_cases open_ : size = unknown
  · subst open_
    cases windowExtent_unknown.symm.trans left
    exact .inr ⟨Int.le_refl _, fun _ => rfl⟩
  · -- What windows leave of a known extent is not negative, so it cannot be taken for the open one.
    have natural : padding = .same ∧ stride < 0 ∨ 0 ≤ extent := by
      cases padding with
      | valid => exact .inr ((windowExtent_valid_eq_ok open_).mp left).2.2.le
      | same =>
        rw [windowExtent_same open_] at left
        rcases lt_or_ge stride 0 with back | forward
        · exact .inl ⟨rfl, back⟩
        · exact .inr (nonneg_of_roundedCeiling (by unfold unknown at *; omega) forward left)
    refine natural.imp_right fun low => ?_
    unfold unknown at *
    omega

theorem known_windowExtent (known : unknown ≤ size) (left : windowExtent size kernel stride .valid = .ok extent) :
    unknown ≤ extent ∧ (extent = unknown → size = unknown) :=
  (windowExtent_cases known left).resolve_left nofun

theorem widened_cases (known : unknown ≤ size) : unknown ≤ widened size ∧ (widened size = unknown → size = unknown) := by
  unfold widened
  split
  · next open_ => exact ⟨Int.le_refl _, fun _ => open_⟩
  · unfold unknown at *
    omega

end

namespace Images

variable {images : Images}

theorem known_shape : images.shape.Known ↔ unknown ≤ images.batch ∧ unknown ≤ images.channels ∧
    unknown ≤ images.height ∧ unknown ≤ images.width := by
  simp [shape, Shape.Known]

end Images

/-- What holds of four extents at their places holds at every axis. -/
theorem forall_axis {property : Nat → Int → Prop} {batch channels height width : Int} (first : property 0 batch)
    (second : property 1 channels) (third : property 2 height) (fourth : property 3 width) :
    ∀ (axis : Nat) (extent : Int), [batch, channels, height, width][axis]? = some extent → property axis extent := by
  intro axis extent found
  match axis, found with
  | 0, found => cases found; exact first
  | 1, found => cases found; exact second
  | 2, found => cases found; exact third
  | 3, found => cases found; exact fourth

namespace Layer

section
variable {layer : Layer} {shape : Shape}

theorem WellShaped.known_outputShape (shaped : layer.WellShaped) (forward : ∀ axis, ¬ layer.RunsBack axis) :
    layer.outputShape.Known := by
  intro extent member
  obtain ⟨axis, found⟩ := List.mem_iff_getElem?.mp member
  unfold outputShape at found
  split at found
  · next port ports outputs =>
    exact (shaped.outputs port (by simp [outputs]) axis extent found).resolve_left (forward axis)
  · cases found

/-- What is open only as a layer in front is open only as the shape in front of that. -/
theorem OpenAs.trans {front : Layer} (behind : layer.OpenAs front.outputShape) (before : front.OpenAs shape)
    (forward : ∀ axis, ¬ front.RunsBack axis) : layer.OpenAs shape := fun axis found =>
  (behind axis found).imp_right fun open_ => (before axis open_).resolve_left (forward axis)

end

theorem wellShaped_of_known {layer : Layer} (inputs : ∀ port ∈ layer.inputs, port.shape.Known)
    (outputs : ∀ port ∈ layer.outputs, port.shape.Known) : layer.WellShaped where
  inputs := inputs
  outputs port member _ extent found := .inr (outputs port member extent (List.mem_of_getElem? found))

theorem wellShaped_unary {body : LayerBody} {source target : Shape} (enters : source.Known) (leaves : target.Known) :
    (unary body source target).WellShaped :=
  wellShaped_of_known (by simpa [unary] using enters) (by simpa [unary] using leaves)

/-- A layer over known images with extents that are as open as those of the images. -/
theorem wellShaped_of_axes {body : LayerBody} {images : Images} {target : Shape} (known : images.shape.Known)
    (axes : ∀ (axis : Nat) (extent : Int), target[axis]? = some extent →
      (unary body images.shape target).RunsBack axis ∨
        unknown ≤ extent ∧ (extent = unknown → images.shape[axis]? = some unknown)) :
    (unary body images.shape target).WellShaped ∧ (unary body images.shape target).OpenAs images.shape := by
  refine ⟨⟨by simpa [unary] using known, ?_⟩, fun axis found => ?_⟩
  · intro port member axis extent found
    rw [List.mem_singleton.mp member] at found
    exact (axes axis extent found).imp_right And.left
  · exact (axes axis unknown found).imp_right fun both => both.2 rfl

/-- A convolution over known images is well shaped, and open only where they are. -/
theorem wellShaped_convolution {kind : LayerKind} {body : Convolution → LayerBody} {shape : Shape} {weights : Tensor}
    {bias : Option Tensor} {padding : Padding} {strides : Int × Int} {layer : Layer} (known : shape.Known)
    (runs : ∀ (plan : Convolution) (axis : Nat), plan.RunsBack axis →
      ∀ source target, (unary (body plan) source target).RunsBack axis)
    (built : convolution kind body shape weights bias padding strides = .ok layer) :
    layer.WellShaped ∧ layer.OpenAs shape := by
  obtain ⟨images, first, second, kernel, given, height, width, rfl, extents, fits, down, across, rfl⟩ :=
    convolution_eq_ok.mp built
  obtain ⟨batch, channels, tall, wide⟩ := Images.known_shape.mp known
  have filters : 0 ≤ given := by
    have counted : given = first ∨ given = second := by
      unfold Channels at fits
      split at fits
      · exact .inr fits.2
      · exact .inl fits.2
    have member : given ∈ weights.shape := by
      rw [extents]
      rcases counted with rfl | rfl <;> simp
    obtain ⟨extent, _, rfl⟩ := List.mem_map.mp member
    exact Int.natCast_nonneg extent
  -- Batch and filters are known as they stand; the two spatial axes are those that windows run along.
  refine wellShaped_of_axes known (forall_axis ?_ ?_ ?_ ?_)
  · exact .inr ⟨batch, fun open_ => congrArg some open_⟩
  · exact .inr ⟨by unfold unknown; omega, fun open_ => by unfold unknown at open_; omega⟩
  · exact (windowExtent_cases tall down).imp (fun back => runs _ _ ⟨back.1, .inl ⟨rfl, back.2⟩⟩ _ _)
      (And.imp_right fun only open_ => congrArg some (only open_))
  · exact (windowExtent_cases wide across).imp (fun back => runs _ _ ⟨back.1, .inr ⟨rfl, back.2⟩⟩ _ _)
      (And.imp_right fun only open_ => congrArg some (only open_))

/-- A pooling without padding over known images is well shaped, and open only where they are. -/
theorem wellShaped_averagePool2d {shape : Shape} {kernel strides : Int × Int} {layer : Layer} (known : shape.Known)
    (built : averagePool2d shape .valid kernel strides = .ok layer) : layer.WellShaped ∧ layer.OpenAs shape := by
  obtain ⟨images, height, width, rfl, down, across, rfl⟩ := averagePool2d_eq_ok.mp built
  obtain ⟨batch, channels, tall, wide⟩ := Images.known_shape.mp known
  refine wellShaped_of_axes known (forall_axis ?_ ?_ ?_ ?_)
  · exact .inr ⟨batch, fun open_ => congrArg some open_⟩
  · exact .inr ⟨channels, fun open_ => congrArg some open_⟩
  · exact .inr ((known_windowExtent tall down).imp_right fun only open_ => congrArg some (only open_))
  · exact .inr ((known_windowExtent wide across).imp_right fun only open_ => congrArg some (only open_))

/-- Known images behind a border of one are well shaped, and open only where they are. -/
theorem wellShaped_spaceToBatch {shape : Shape} {layer : Layer} (known : shape.Known)
    (built : spaceToBatch shape (1, 1) [(1, 1), (1, 1)] = .ok layer) :
    (layer.WellShaped ∧ layer.OpenAs shape) ∧ ∀ axis, ¬ layer.RunsBack axis := by
  obtain ⟨images, rfl, rfl⟩ := spaceToBatch_one_eq_ok.mp built
  obtain ⟨batch, channels, tall, wide⟩ := Images.known_shape.mp known
  refine ⟨wellShaped_of_axes known (forall_axis ?_ ?_ ?_ ?_), fun _ back => back⟩
  · exact .inr ⟨batch, fun open_ => congrArg some open_⟩
  · exact .inr ⟨channels, fun open_ => congrArg some open_⟩
  · exact .inr ((widened_cases tall).imp_right fun only open_ => congrArg some (only open_))
  · exact .inr ((widened_cases wide).imp_right fun only open_ => congrArg some (only open_))

theorem wellShaped_add {a b : Shape} {axis : Int} {layer : Layer} (first : a.Known) (second : b.Known)
    (built : add a b axis = .ok layer) : layer.WellShaped ∧ layer.kind = .add := by
  obtain ⟨sum, summed, built⟩ := bind_eq_ok.mp built
  cases built
  have known := known_broadcast first second summed
  exact ⟨wellShaped_of_known (by simp [first, second]) (by simpa using known), rfl⟩

theorem wellShaped_batchNormalization {shape : Shape} {statistics : Statistics} {epsilon : Binary64} {layer : Layer}
    (known : shape.Known) (built : batchNormalization shape statistics epsilon = .ok layer) :
    layer.WellShaped ∧ layer.kind = .batchNormalization := by
  obtain ⟨size, _, built⟩ := bind_eq_ok.mp built
  obtain ⟨_, _, built⟩ := bind_eq_ok.mp built
  cases built
  exact ⟨wellShaped_unary known known, rfl⟩

theorem wellShaped_reshape {shape target : Shape} {layer : Layer} (known : shape.Known)
    (built : reshape shape target = .ok layer) : layer.WellShaped ∧ layer.kind = .reshape := by
  obtain ⟨extents, inferred, built⟩ := bind_eq_ok.mp built
  cases built
  exact ⟨wellShaped_unary known (known_reshapeExtents known inferred), rfl⟩

end Layer

end LayerGraph
