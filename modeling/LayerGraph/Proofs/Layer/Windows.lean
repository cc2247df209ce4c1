import LayerGraph.Proofs.Layer.Faults
import LayerGraph.Proofs.Number.Ceiling

/-! What windows leave of an axis.

A layer with windows is built exactly when its images and channels fit and a window fits each axis, and then the extents
of its output are known. Windows of three leave the same of an axis whether its border is padded beforehand or the extent
is kept and divided by the stride.
-/

set_option autoImplicit false

namespace LayerGraph

open Attempt Number

theorem ne_unknown {extent : Int} (natural : 0 ≤ extent) : extent ≠ unknown := by
  unfold unknown
  omega

section
variable {size kernel stride extent : Int} {padding : Padding}

theorem windowExtent_unknown : windowExtent unknown kernel stride padding = .ok unknown := if_pos rfl

/-- Without padding some window has to fit. -/
theorem windowExtent_valid_eq_ok (known : size ≠ unknown) : windowExtent size kernel stride .valid = .ok extent ↔
    stride ≠ 0 ∧ extent = Int.fdiv (size - kernel) stride + 1 ∧ 0 < extent := by
  rw [windowExtent, if_neg known]
  simp only [bind_eq_ok, floorQuotient_eq_ok]
  constructor
  · rintro ⟨quotient, ⟨nonzero, rfl⟩, found⟩
    split at found
    · exact absurd found layer_ne_ok
    · next fits =>
      cases found
      exact ⟨nonzero, rfl, by omega⟩
  · rintro ⟨nonzero, rfl, fits⟩
    exact ⟨_, ⟨nonzero, rfl⟩, if_neg (by omega)⟩

theorem windowExtent_same (known : size ≠ unknown) :
    windowExtent size kernel stride .same = roundedCeiling size stride := if_neg known

/-- Rounded up, a quotient of positive integers is one more than that of the integer below. -/
theorem ceil_div_eq (num : Nat) {den : Nat} (positive : 0 < den) :
    ⌈(num : ℚ) / den⌉ = Int.fdiv (num - 1) den + 1 := by
  have denPos : (0 : ℚ) < den := by exact_mod_cast positive
  have whole : (den : Int) * ((num - 1) / den) + (num - 1) % den = num - 1 := Int.mul_ediv_add_emod _ _
  have rest : ((num : Int) - 1) % den < den := Int.emod_lt_of_pos _ (by exact_mod_cast positive)
  have low : 0 ≤ ((num : Int) - 1) % den := Int.emod_nonneg _ (by omega)
  rw [Int.fdiv_eq_ediv_of_nonneg _ (Int.natCast_nonneg den)]
  generalize ((num : Int) - 1) / den = quotient at whole ⊢
  refine Int.ceil_eq_iff.mpr ⟨?_, ?_⟩
  · have : quotient * den < num := by rw [Int.mul_comm]; omega
    rw [lt_div_iff₀ denPos]
    push_cast
    rw [add_sub_cancel_right]
    exact_mod_cast this
  · have : (num : Int) ≤ (quotient + 1) * den := by rw [Int.add_mul, Int.one_mul, Int.mul_comm]; omega
    rw [div_le_iff₀ denPos]
    exact_mod_cast this

/-- The quotient of integers that fit a mantissa is divided without an error. -/
theorem roundedCeiling_of_lt (some : 0 < size) (positive : 0 < stride) (short : size < 2 ^ 53)
    (shortToo : stride < 2 ^ 53) : roundedCeiling size stride = .ok (Int.fdiv (size - 1) stride + 1) := by
  obtain ⟨num, rfl⟩ := Int.eq_ofNat_of_zero_le some.le
  obtain ⟨den, rfl⟩ := Int.eq_ofNat_of_zero_le positive.le
  have above : 0 < num := by omega
  have divides : 0 < den := by omega
  obtain ⟨finite, exact⟩ := Binary64.ceiling_ofRatio above divides (by exact_mod_cast short) (by exact_mod_cast shortToo)
  have signs : (decide ((num : Int) < 0) != decide ((den : Int) < 0)) = false := by
    rw [decide_eq_false (by omega), decide_eq_false (by omega)]
    rfl
  rw [roundedCeiling, if_neg (by omega)]
  dsimp only
  rw [signs, Int.natAbs_natCast, Int.natAbs_natCast, finite, if_neg (by decide), exact, ceil_div_eq num divides]

/-- Over a stride that is not negative a known extent is divided into one that is not. -/
theorem nonneg_of_roundedCeiling (natural : 0 ≤ size) (forward : 0 ≤ stride)
    (divided : roundedCeiling size stride = .ok extent) : 0 ≤ extent := by
  have signs : (decide (size < 0) != decide (stride < 0)) = false := by
    rw [decide_eq_false (by omega), decide_eq_false (by omega)]
    rfl
  unfold roundedCeiling at divided
  split at divided
  · cases divided
  · dsimp only at divided
    rw [signs] at divided
    split at divided
    · cases divided
    · cases divided
      exact Binary64.ceiling_ofRatio_nonneg _ _

end

/-! ### Windows of three -/

/-- What windows of three leave of an axis that is padded by as much on both sides. -/
def paddedExtent (size padding stride : Int) : Int :=
  if size = unknown then unknown else Int.fdiv (size + 2 * padding - 3) stride + 1

/-- Some window of three fits an axis that is padded by as much on both sides. -/
def PaddedFits (size padding stride : Int) : Prop := size = unknown ∨ 0 < paddedExtent size padding stride

instance (size padding stride : Int) : Decidable (PaddedFits size padding stride) :=
  inferInstanceAs (Decidable (_ ∨ _))

section
variable {size stride extent : Int}

theorem paddedExtent_unknown (padding stride : Int) : paddedExtent unknown padding stride = unknown := if_pos rfl

theorem paddedExtent_of_ne (known : size ≠ unknown) (padding stride : Int) :
    paddedExtent size padding stride = Int.fdiv (size + 2 * padding - 3) stride + 1 := if_neg known

theorem windowExtent_three_valid (positive : 0 < stride) : windowExtent size 3 stride .valid = .ok extent ↔
    PaddedFits size 0 stride ∧ extent = paddedExtent size 0 stride := by
  by_cases known : size = unknown
  · subst known
    rw [windowExtent_unknown, paddedExtent_unknown]
    simp [PaddedFits, eq_comm]
  · rw [windowExtent_valid_eq_ok known, PaddedFits, paddedExtent_of_ne known, Int.mul_zero, Int.add_zero]
    constructor
    · rintro ⟨-, rfl, fits⟩
      exact ⟨.inr fits, rfl⟩
    · rintro ⟨fits, rfl⟩
      exact ⟨by omega, rfl, fits.resolve_left known⟩

/-- With one row more on each side a window of three always fits. -/
theorem paddedFits_one (some : size = unknown ∨ 0 < size) (positive : 0 < stride) : PaddedFits size 1 stride := by
  refine some.imp_right fun above => ?_
  have natural : 0 ≤ Int.fdiv (size + 2 * 1 - 3) stride := Int.fdiv_nonneg (by omega) positive.le
  rw [paddedExtent_of_ne (by unfold unknown; omega)]
  omega

theorem windowExtent_three_same (some : size = unknown ∨ 0 < size ∧ size < 2 ^ 53) (positive : 0 < stride)
    (short : stride < 2 ^ 53) : windowExtent size 3 stride .same = .ok (paddedExtent size 1 stride) := by
  rcases some with rfl | ⟨above, below⟩
  · rw [windowExtent_unknown, paddedExtent_unknown]
  · have known : size ≠ unknown := ne_unknown above.le
    rw [windowExtent_same known, roundedCeiling_of_lt above positive below short, paddedExtent_of_ne known]
    congr 3
    omega

/-- An axis as it is behind a layer that pads it by one on both sides and folds nothing. -/
def widened (size : Int) : Int := if size = unknown then unknown else size + 2

theorem foldedExtent_one (size : Int) : foldedExtent size 1 (1, 1) = .ok (widened size) := by
  unfold foldedExtent widened
  split
  · rfl
  · simp only [divides, floorQuotient, Int.fmod_one, Int.fdiv_one]
    exact congrArg Except.ok (Int.add_assoc size 1 1)

/-- The windows over an axis that has been padded are those over an axis that is padded on the way. -/
theorem windowExtent_three_widened (some : size = unknown ∨ 0 < size) (positive : 0 < stride) :
    windowExtent (widened size) 3 stride .valid = .ok (paddedExtent size 1 stride) := by
  refine (windowExtent_three_valid positive).mpr ?_
  have fits := paddedFits_one some positive
  by_cases known : size = unknown
  · subst known
    exact ⟨.inl (if_pos rfl), rfl⟩
  · have open_ : widened size ≠ unknown := by
      unfold widened unknown at *
      omega
    have same : paddedExtent (widened size) 0 stride = paddedExtent size 1 stride := by
      rw [paddedExtent_of_ne open_, paddedExtent_of_ne known, widened, if_neg known]
      congr 2
      omega
    exact ⟨.inr (same ▸ fits.resolve_left known), same.symm⟩

end

/-! ### Layers with windows -/

theorem Images.ofShape_eq_ok {kind : LayerKind} {shape : Shape} {images : Images} :
    ofShape kind shape = .ok images ↔ shape = images.shape := by
  unfold ofShape
  constructor
  · intro found
    split at found
    · cases found
      rfl
    · exact absurd found layer_ne_ok
  · rintro rfl
    rfl

theorem Images.shape_inj {one other : Images} : one.shape = other.shape ↔ one = other := by
  cases one
  cases other
  simp [shape]

namespace Layer

theorem windows_eq_ok {images : Images} {kernel strides : Int × Int} {padding : Padding} {height width : Int} :
    windows images kernel strides padding = .ok (height, width) ↔
      windowExtent images.height kernel.1 strides.1 padding = .ok height ∧
        windowExtent images.width kernel.2 strides.2 padding = .ok width := by
  simp only [windows, bind_eq_ok]
  constructor
  · rintro ⟨_, down, _, across, same⟩
    cases same
    exact ⟨down, across⟩
  · rintro ⟨down, across⟩
    exact ⟨height, down, width, across, rfl⟩

theorem standardChannels_eq_ok {channels filters depth given : Int} :
    standardChannels channels filters depth = .ok given ↔ (channels = unknown ∨ channels = depth) ∧ given = filters := by
  unfold standardChannels
  split
  · next differ => exact iff_of_false layer_ne_ok fun both => both.1.elim differ.1 differ.2
  · next fits =>
    rw [not_and_or, Decidable.not_not, Decidable.not_not] at fits
    simp [fits, eq_comm]

theorem depthwiseChannels_eq_ok {channels filters given : Int} : depthwiseChannels channels filters = .ok given ↔
    (channels = unknown ∨ channels ≠ 0 ∧ Int.fmod filters channels = 0) ∧ given = filters := by
  unfold depthwiseChannels divides
  by_cases open_ : channels = unknown
  · simp [open_, eq_comm]
  · by_cases zero : channels = 0
    · simp [zero, unknown, bind_eq_ok]
    · by_cases covers : Int.fmod filters channels = 0
      · rw [if_neg open_, if_neg zero, decide_eq_true covers]
        simp [open_, zero, covers, eq_comm, bind, Except.bind, pure, Except.pure]
      · simp [open_, zero, covers, bind_eq_ok]

/-- The channels of images fit weights of a kind of convolution, and it gives out so many. -/
def Channels (kind : LayerKind) (channels first second given : Int) : Prop :=
  if kind = .depthwiseConv2d then
    (channels = unknown ∨ channels ≠ 0 ∧ Int.fmod second channels = 0) ∧ given = second
  else (channels = unknown ∨ channels = second) ∧ given = first

theorem convolutionPlan_eq_ok {kind : LayerKind} {shape : Shape} {weights : Tensor} {images : Images} {given : Int}
    {kernel : Int × Int} : convolutionPlan kind shape weights = .ok (images, given, kernel) ↔
      shape = images.shape ∧ ∃ first second, weights.shape = [first, second, kernel.1, kernel.2] ∧
        Channels kind images.channels first second given := by
  simp only [convolutionPlan, bind_eq_ok, Images.ofShape_eq_ok, Channels]
  constructor
  · rintro ⟨found, rfl, planned⟩
    split at planned
    · next first second height width extents =>
      split at planned
      · next depthwise =>
        obtain ⟨channels, fits, same⟩ := bind_eq_ok.mp planned
        cases same
        exact ⟨rfl, first, second, extents, by rwa [if_pos depthwise, ← depthwiseChannels_eq_ok]⟩
      · next standard =>
        obtain ⟨channels, fits, same⟩ := bind_eq_ok.mp planned
        cases same
        exact ⟨rfl, first, second, extents, by rwa [if_neg standard, ← standardChannels_eq_ok]⟩
    · exact absurd planned layer_ne_ok
  · rintro ⟨rfl, first, second, extents, fits⟩
    refine ⟨images, rfl, ?_⟩
    rw [extents]
    dsimp only
    split
    · next depthwise =>
      rw [if_pos depthwise, ← depthwiseChannels_eq_ok] at fits
      exact bind_eq_ok.mpr ⟨given, fits, rfl⟩
    · next standard =>
      rw [if_neg standard, ← @standardChannels_eq_ok _ _ second] at fits
      exact bind_eq_ok.mpr ⟨given, fits, rfl⟩

/-- A convolution is built exactly when its channels and its windows fit. -/
theorem convolution_eq_ok {kind : LayerKind} {body : Convolution → LayerBody} {shape : Shape} {weights : Tensor}
    {bias : Option Tensor} {padding : Padding} {strides : Int × Int} {layer : Layer} :
    convolution kind body shape weights bias padding strides = .ok layer ↔
      ∃ (images : Images) (first second : Int) (kernel : Int × Int) (given height width : Int), shape = images.shape ∧
        weights.shape = [first, second, kernel.1, kernel.2] ∧ Channels kind images.channels first second given ∧
        windowExtent images.height kernel.1 strides.1 padding = .ok height ∧
        windowExtent images.width kernel.2 strides.2 padding = .ok width ∧
        layer = unary (body ⟨weights, bias, padding, strides, kernel⟩) shape [images.batch, given, height, width] := by
  simp only [convolution, bind_eq_ok]
  constructor
  · rintro ⟨⟨images, given, kernel⟩, planned, ⟨height, width⟩, fitted, built⟩
    obtain ⟨same, first, second, extents, fits⟩ := convolutionPlan_eq_ok.mp planned
    obtain ⟨down, across⟩ := windows_eq_ok.mp fitted
    cases built
    exact ⟨images, first, second, kernel, given, height, width, same, extents, fits, down, across, rfl⟩
  · rintro ⟨images, first, second, kernel, given, height, width, same, extents, fits, down, across, rfl⟩
    exact ⟨(images, given, kernel), convolutionPlan_eq_ok.mpr ⟨same, first, second, extents, fits⟩, (height, width),
      windows_eq_ok.mpr ⟨down, across⟩, rfl⟩

/-- Over images whose channels fit, a convolution is built exactly when its windows fit. -/
theorem convolution_of_channels {kind : LayerKind} {images : Images} {weights : Tensor} {kernel : Int × Int}
    {first second given : Int} (extents : weights.shape = [first, second, kernel.1, kernel.2])
    (fits : Channels kind images.channels first second given) (body : Convolution → LayerBody) (bias : Option Tensor)
    (padding : Padding) (strides : Int × Int) {layer : Layer} :
    convolution kind body images.shape weights bias padding strides = .ok layer ↔ ∃ height width,
      windowExtent images.height kernel.1 strides.1 padding = .ok height ∧
        windowExtent images.width kernel.2 strides.2 padding = .ok width ∧
        layer = unary (body ⟨weights, bias, padding, strides, kernel⟩) images.shape
          [images.batch, given, height, width] := by
  rw [convolution_eq_ok]
  constructor
  · rintro ⟨other, one, two, ⟨tall, wide⟩, number, height, width, same, found, matching, down, across, rfl⟩
    obtain rfl := Images.shape_inj.mp same
    rw [extents] at found
    cases found
    -- The channels that fit fix the number of filters.
    have counted : number = given := by
      unfold Channels at fits matching
      split at fits
      · next depthwise =>
        rw [if_pos depthwise] at matching
        rw [matching.2, fits.2]
      · next standard =>
        rw [if_neg standard] at matching
        rw [matching.2, fits.2]
    exact ⟨height, width, down, across, counted ▸ rfl⟩
  · rintro ⟨height, width, down, across, rfl⟩
    exact ⟨images, first, second, kernel, given, height, width, rfl, extents, fits, down, across, rfl⟩

/-- A pooling is built exactly when its windows fit. -/
theorem averagePool2d_eq_ok {shape : Shape} {padding : Padding} {kernel strides : Int × Int} {layer : Layer} :
    averagePool2d shape padding kernel strides = .ok layer ↔ ∃ (images : Images) (height width : Int), shape = images.shape ∧
      windowExtent images.height kernel.1 strides.1 padding = .ok height ∧
      windowExtent images.width kernel.2 strides.2 padding = .ok width ∧
      layer = unary (.averagePool2d padding kernel strides) shape [images.batch, images.channels, height, width] := by
  simp only [averagePool2d, bind_eq_ok, Prod.exists, Images.ofShape_eq_ok, windows_eq_ok]
  constructor
  · rintro ⟨images, same, height, width, ⟨down, across⟩, built⟩
    cases built
    exact ⟨images, height, width, same, down, across, rfl⟩
  · rintro ⟨images, height, width, same, down, across, rfl⟩
    exact ⟨images, same, height, width, ⟨down, across⟩, rfl⟩

/-- Padding by one row and column keeps the batch and the channels. -/
theorem spaceToBatch_one_eq_ok {shape : Shape} {layer : Layer} :
    spaceToBatch shape (1, 1) [(1, 1), (1, 1)] = .ok layer ↔ ∃ images : Images, shape = images.shape ∧
      layer = unary (.spaceToBatch (1, 1) [(1, 1), (1, 1)]) shape
        [images.batch, images.channels, widened images.height, widened images.width] := by
  have folded : ∀ images : Images, foldedExtents [images.height, images.width] [1, 1] [(1, 1), (1, 1)] =
      .ok [widened images.height, widened images.width] := by
    intro images
    simp only [foldedExtents, foldedExtent_one]
    rfl
  simp only [spaceToBatch, bind_eq_ok, Images.ofShape_eq_ok, folded]
  have kept : ∀ batch : Int, (if batch = unknown then unknown else batch * (1 * 1)) = batch := by
    intro batch
    split
    · next open_ => exact open_.symm
    · rw [Int.mul_one, Int.mul_one]
  constructor
  · rintro ⟨images, same, extents, found, built⟩
    cases found
    cases built
    exact ⟨images, same, by rw [kept]⟩
  · rintro ⟨images, same, rfl⟩
    exact ⟨images, same, _, rfl, by rw [kept]; rfl⟩

end Layer

end LayerGraph
