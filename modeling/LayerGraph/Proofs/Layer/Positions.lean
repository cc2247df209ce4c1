import LayerGraph.Proofs.Layer.Windows
import LayerGraph.Proofs.Layer.Words
import LayerGraph.Proofs.Number.Nearest
import Mathlib.Data.Set.Card

/-! Positions of windows.

Without padding a window stands at every multiple of the stride from which it does not reach beyond the axis, and the
extent of the output counts these positions exactly. Windows that keep the extent divide it by the stride instead, and
there the quotient is a floating-point number: the ceiling is that of the number nearest to it.
-/

set_option autoImplicit false

namespace LayerGraph

open Attempt Number Text

/-- The places at which a window stands within an axis, in strides. -/
def positions (size kernel stride : Int) : Set Nat := {i | i * stride + kernel ≤ size}

/-- The floating-point quotient of an extent and a stride, rounded up. If the extent fits a mantissa and the quotient is
not too small for a number, this is the least number of strides that cover the extent. -/
structure RoundedUp (size stride extent : Int) : Prop where
  nearest : ∃ nearest, binary64.IsNearest (size / stride) nearest ∧ extent = ⌈binary64.value nearest⌉
  least : size < 2 ^ 53 → stride ≤ 2 ^ 1074 → IsLeast {n : Int | size ≤ n * stride} extent

/-! ### One axis -/

section
variable {size kernel stride extent : Int}

theorem mem_positions (forward : 0 < stride) {i : Nat} :
    i ∈ positions size kernel stride ↔ (i : Int) < Int.fdiv (size - kernel) stride + 1 := by
  rw [Int.fdiv_eq_ediv_of_nonneg _ forward.le, Int.lt_add_one_iff, Int.le_ediv_iff_mul_le forward]
  change (i : Int) * stride + kernel ≤ size ↔ _
  omega

/-- The positions are as many as whole strides fit behind the first window, and that one. -/
theorem positions_eq (forward : 0 < stride) : positions size kernel stride =
    (Finset.range (Int.fdiv (size - kernel) stride + 1).toNat : Set Nat) := by
  ext i
  rw [mem_positions forward, Finset.coe_range, Set.mem_Iio, Int.lt_toNat]

theorem positions_nonempty (forward : 0 < stride) :
    (positions size kernel stride).Nonempty ↔ 0 < Int.fdiv (size - kernel) stride + 1 := by
  rw [positions_eq forward, Finset.coe_nonempty, Finset.nonempty_range_iff]
  omega

theorem windowExtent_valid (some : 0 < size) (forward : 0 < stride) :
    (positions size kernel stride).Nonempty ∧
        windowExtent size kernel stride .valid = .ok ((positions size kernel stride).ncard : Int) ∨
      ¬ (positions size kernel stride).Nonempty ∧
        windowExtent size kernel stride .valid = .layer (.window kernel stride size) := by
  have known : size ≠ unknown := ne_unknown some.le
  rw [positions_nonempty forward, positions_eq forward, Set.ncard_coe_finset, Finset.card_range]
  rw [windowExtent, if_neg known, floorQuotient, if_neg forward.ne']
  dsimp only [bind, Except.bind]
  by_cases fits : 0 < Int.fdiv (size - kernel) stride + 1
  · refine .inl ⟨fits, ?_⟩
    rw [if_neg (by omega), Int.toNat_of_nonneg fits.le]
    rfl
  · exact .inr ⟨fits, if_pos (by omega)⟩

theorem windowExtent_valid_iff (some : 0 < size) (forward : 0 < stride) :
    windowExtent size kernel stride .valid = .ok extent ↔
      (positions size kernel stride).Nonempty ∧ extent = (positions size kernel stride).ncard := by
  rcases windowExtent_valid some forward with ⟨fits, left⟩ | ⟨none, refused⟩
  · rw [left, Except.ok.injEq, and_iff_right fits, eq_comm]
  · rw [refused]
    exact iff_of_false layer_ne_ok fun both => none both.1

theorem answers_windowExtent {among : Int → Prop} (some : 0 < size) (forward : 0 < stride)
    (told : ∀ n ∈ [kernel, stride, size], among n) : (windowExtent size kernel stride .valid).Answers among := by
  rcases windowExtent_valid some forward with ⟨_, left⟩ | ⟨_, refused⟩
  · rw [left]
    exact .ok _
  · rw [refused]
    exact .layer _ told

theorem windowExtent_nearest (some : 0 < size) (forward : 0 < stride) :
    size < Binary64.overflow * stride ∧ (∃ nearest, binary64.IsNearest (size / stride) nearest ∧
        windowExtent size kernel stride .same = .ok ⌈binary64.value nearest⌉) ∨
      ¬ size < Binary64.overflow * stride ∧ windowExtent size kernel stride .same = .fault .quotientSize := by
  obtain ⟨num, rfl⟩ := Int.eq_ofNat_of_zero_le some.le
  obtain ⟨den, rfl⟩ := Int.eq_ofNat_of_zero_le forward.le
  have above : 0 < num := by omega
  have divides : 0 < den := by omega
  have short : (num : Int) < Binary64.overflow * den ↔ (num : ℚ) / den < Binary64.overflow := by
    rw [div_lt_iff₀ (by exact_mod_cast divides)]
    exact_mod_cast Iff.rfl
  have signs : (decide ((num : Int) < 0) != decide ((den : Int) < 0)) = false := by
    rw [decide_eq_false (by omega), decide_eq_false (by omega)]
    rfl
  have known : (num : Int) ≠ unknown := ne_unknown some.le
  rw [windowExtent_same known, roundedCeiling, if_neg (by omega)]
  dsimp only
  rw [signs, Int.natAbs_natCast, Int.natAbs_natCast, short]
  -- Up to halfway past the largest number the quotient is a finite one, and its ceiling is taken.
  by_cases finite : (num : ℚ) / den < Binary64.overflow
  · obtain ⟨nearest, rounded, ceiling⟩ := Binary64.exists_nearest_ceiling above divides finite
    rw [if_neg (mt (Binary64.isInfinite_ofRatio above divides).mp (not_le.mpr finite))]
    exact .inl ⟨finite, nearest, by rwa [Int.cast_natCast, Int.cast_natCast], congrArg Except.ok ceiling⟩
  · rw [if_pos ((Binary64.isInfinite_ofRatio above divides).mpr (not_lt.mp finite))]
    exact .inr ⟨finite, rfl⟩

/-- Of an axis that fits a mantissa windows that keep the extent leave as many strides as cover it, unless the quotient
is too small for a number. -/
theorem isLeast_of_short (some : 0 < size) (forward : 0 < stride)
    (left : windowExtent size kernel stride .same = .ok extent) (short : size < 2 ^ 53) (near : stride ≤ 2 ^ 1074) :
    IsLeast {n : Int | size ≤ n * stride} extent := by
  have covers : ∀ n, size ≤ n * stride ↔ (size - 1) / stride + 1 ≤ n := by
    intro n
    rw [Int.add_one_le_iff, Int.ediv_lt_iff_lt_mul forward]
    omega
  -- A quotient of two numbers that fit a mantissa is not rounded over an integer, and under a longer stride it is at
  -- most one.
  have same : extent = (size - 1) / stride + 1 := by
    by_cases shortToo : stride < 2 ^ 53
    · rw [windowExtent_same (ne_unknown some.le), roundedCeiling_of_lt some forward short shortToo,
        Int.fdiv_eq_ediv_of_nonneg _ forward.le] at left
      cases left
      rfl
    · rcases windowExtent_nearest some forward with ⟨_, nearest, stands, rounded⟩ | ⟨_, failed⟩
      · have positive : (0 : ℚ) < stride := by exact_mod_cast forward
        have low : (2 : ℚ) ^ (-1074 : Int) ≤ size / stride := by
          have whole : (1 : ℚ) ≤ size := by exact_mod_cast some
          have bound : (stride : ℚ) ≤ 2 ^ (1074 : Int) := by
            refine (Int.cast_le.mpr near).trans_eq ?_
            rw [Int.cast_pow, Int.cast_ofNat]
            exact (zpow_natCast 2 1074).symm
          rw [zpow_neg, le_div_iff₀ positive, inv_mul_le_iff₀ (by positivity)]
          exact bound.trans (le_mul_of_one_le_right (by positivity) whole)
        have high : (size : ℚ) / stride ≤ 1 := by
          rw [div_le_one positive]
          exact_mod_cast (by omega : size ≤ stride)
        rw [left] at rounded
        cases rounded
        rw [Binary64.ceil_nearest_eq_one stands low high, Int.ediv_eq_zero_of_lt (by omega) (by omega)]
        rfl
      · rw [left] at failed
        cases failed
  rw [same]
  exact ⟨(covers _).mpr le_rfl, fun n covered => (covers n).mp covered⟩

theorem windowExtent_rounded (kernel : Int) (some : 0 < size) (forward : 0 < stride) :
    size < Binary64.overflow * stride ∧
        (∃ extent, windowExtent size kernel stride .same = .ok extent ∧ RoundedUp size stride extent) ∨
      ¬ size < Binary64.overflow * stride ∧ windowExtent size kernel stride .same = .fault .quotientSize := by
  refine (windowExtent_nearest some forward).imp_left ?_
  rintro ⟨finite, nearest, stands, left⟩
  exact ⟨finite, _, left, ⟨nearest, stands, rfl⟩, isLeast_of_short some forward left⟩

end

/-! ### Both axes -/

namespace Layer

/-- A layer with windows over images whose channels fit it, as a function of its padding and its strides. -/
inductive Slides (images : Images) (kernel : Int × Int) (given : Int) :
    (Padding → Int × Int → Attempt Layer) → Prop
  | conv2d {weights : Tensor} {first second : Int} (bias : Option Tensor)
      (extents : weights.shape = [first, second, kernel.1, kernel.2])
      (fits : Channels .conv2d images.channels first second given) :
      Slides images kernel given (conv2d images.shape weights bias)
  | depthwiseConv2d {weights : Tensor} {first second : Int} (bias : Option Tensor)
      (extents : weights.shape = [first, second, kernel.1, kernel.2])
      (fits : Channels .depthwiseConv2d images.channels first second given) :
      Slides images kernel given (depthwiseConv2d images.shape weights bias)
  | averagePool2d (same : given = images.channels) :
      Slides images kernel given fun padding strides => averagePool2d images.shape padding kernel strides

/-- What is left of both axes counts the positions of the windows, and a layer is refused for want of one. -/
structure CountsPositions (images : Images) (kernel strides : Int × Int) (given : Int) (attempt : Attempt Layer) :
    Prop where
  built : (∃ layer, attempt = .ok layer) ↔ (positions images.height kernel.1 strides.1).Nonempty ∧
    (positions images.width kernel.2 strides.2).Nonempty
  extents : ∀ layer, attempt = .ok layer → layer.outputShape =
    [images.batch, given, ((positions images.height kernel.1 strides.1).ncard : Int),
      ((positions images.width kernel.2 strides.2).ncard : Int)]
  refused : (¬ ∃ layer, attempt = .ok layer) → ∃ defect, attempt = Attempt.layer defect
  disconnects : (¬ ∃ layer, attempt = .ok layer) →
    (∀ n ∈ [images.height, images.width, kernel.1, kernel.2, strides.1, strides.2], showsInteger n = true) →
    attempt.Disconnects

/-- What is left of both axes is a floating-point quotient rounded up, and a layer fails if one is too large. -/
structure RoundsUp (images : Images) (strides : Int × Int) (given : Int) (attempt : Attempt Layer) : Prop where
  built : (∃ layer, attempt = .ok layer) ↔
    images.height < Binary64.overflow * strides.1 ∧ images.width < Binary64.overflow * strides.2
  extents : ∀ layer, attempt = .ok layer → ∃ height width, layer.outputShape = [images.batch, given, height, width] ∧
    RoundedUp images.height strides.1 height ∧ RoundedUp images.width strides.2 width
  failed : (¬ ∃ layer, attempt = .ok layer) → attempt = .fault .quotientSize

section
variable {images : Images} {kernel strides : Int × Int} {given : Int} {make : Padding → Int × Int → Attempt Layer}

/-- Apart from its body a layer with windows hangs on their extents alone. -/
theorem Slides.eq_bind (slides : Slides images kernel given make) : ∃ body : Padding → Int × Int → LayerBody,
    ∀ padding strides, make padding strides = (do
      let (height, width) ← windows images kernel strides padding
      return unary (body padding strides) images.shape [images.batch, given, height, width]) := by
  cases slides with
  | @conv2d weights first second bias extents fits =>
    refine ⟨fun padding strides => .conv2d ⟨weights, bias, padding, strides, kernel⟩, fun padding strides => ?_⟩
    rw [Layer.conv2d, convolution, convolutionPlan_eq_ok.mpr ⟨rfl, first, second, extents, fits⟩]
    rfl
  | @depthwiseConv2d weights first second bias extents fits =>
    refine ⟨fun padding strides => .depthwiseConv2d ⟨weights, bias, padding, strides, kernel⟩,
      fun padding strides => ?_⟩
    rw [Layer.depthwiseConv2d, convolution, convolutionPlan_eq_ok.mpr ⟨rfl, first, second, extents, fits⟩]
    rfl
  | averagePool2d same =>
    refine ⟨fun padding strides => .averagePool2d padding kernel strides, fun padding strides => ?_⟩
    dsimp only
    rw [Layer.averagePool2d, Images.ofShape_eq_ok.mpr rfl, same]
    rfl

theorem Slides.eq_ok (slides : Slides images kernel given make) : ∃ body : Padding → Int × Int → LayerBody,
    ∀ padding strides layer, make padding strides = .ok layer ↔ ∃ height width,
      windowExtent images.height kernel.1 strides.1 padding = .ok height ∧
        windowExtent images.width kernel.2 strides.2 padding = .ok width ∧
        layer = unary (body padding strides) images.shape [images.batch, given, height, width] := by
  obtain ⟨body, same⟩ := slides.eq_bind
  refine ⟨body, fun padding strides layer => ?_⟩
  rw [same, bind_eq_ok]
  constructor
  · rintro ⟨⟨height, width⟩, left, built⟩
    obtain ⟨down, across⟩ := windows_eq_ok.mp left
    cases built
    exact ⟨height, width, down, across, rfl⟩
  · rintro ⟨height, width, down, across, rfl⟩
    exact ⟨(height, width), windows_eq_ok.mpr ⟨down, across⟩, rfl⟩

variable (slides : Slides images kernel given make) (tall : 0 < images.height) (wide : 0 < images.width)
  (down : 0 < strides.1) (across : 0 < strides.2)

include slides tall wide down across

theorem Slides.answers {among : Int → Prop}
    (told : ∀ n ∈ [images.height, images.width, kernel.1, kernel.2, strides.1, strides.2], among n) :
    (make .valid strides).Answers among := by
  obtain ⟨body, same⟩ := slides.eq_bind
  rw [same]
  refine Answers.bind ?_ fun _ _ => .ok _
  refine (answers_windowExtent tall down ?_).bind fun _ _ => (answers_windowExtent wide across ?_).bind fun _ _ => .ok _
  · exact fun n member => told n (by simp at member ⊢; tauto)
  · exact fun n member => told n (by simp at member ⊢; tauto)

theorem Slides.countsPositions : CountsPositions images kernel strides given (make .valid strides) := by
  obtain ⟨body, eq_ok⟩ := slides.eq_ok
  have built := eq_ok .valid strides
  simp only [windowExtent_valid_iff tall down, windowExtent_valid_iff wide across] at built
  have unbuilt : (¬ ∃ layer, make .valid strides = .ok layer) → ∀ layer, make .valid strides ≠ .ok layer :=
    fun none layer same => none ⟨layer, same⟩
  constructor
  case built =>
    simp only [built]
    constructor
    · rintro ⟨_, _, _, ⟨rows, _⟩, ⟨columns, _⟩, _⟩
      exact ⟨rows, columns⟩
    · rintro ⟨rows, columns⟩
      exact ⟨_, _, _, ⟨rows, rfl⟩, ⟨columns, rfl⟩, rfl⟩
  case extents =>
    intro layer made
    obtain ⟨_, _, ⟨_, rfl⟩, ⟨_, rfl⟩, rfl⟩ := (built layer).mp made
    rfl
  case refused =>
    intro none
    have answers : (make .valid strides).Answers fun _ => True := slides.answers tall wide down across fun _ _ => trivial
    obtain ⟨defect, _, refused⟩ := answers.refused (unbuilt none)
    exact ⟨defect, refused⟩
  case disconnects =>
    intro none shown
    exact (slides.answers tall wide down across shown).disconnects (unbuilt none)

theorem Slides.roundsUp : RoundsUp images strides given (make .same strides) := by
  obtain ⟨body, same⟩ := slides.eq_bind
  have made_eq := same .same strides
  rw [windows] at made_eq
  have of_failed : make .same strides = .fault .quotientSize →
      ¬ (images.height < Binary64.overflow * strides.1 ∧ images.width < Binary64.overflow * strides.2) →
      RoundsUp images strides given (make .same strides) := by
    intro failed large
    have unbuilt : ∀ layer, make .same strides ≠ .ok layer := by
      rw [failed]
      exact fun _ => fault_ne_ok
    exact ⟨iff_of_false (not_exists.mpr unbuilt) large,
      fun layer made => absurd made (unbuilt layer), fun _ => failed⟩
  -- Either axis can be too large for its quotient, and then the layer is not built.
  rcases windowExtent_rounded kernel.1 tall down with ⟨low, height, left, tallRounded⟩ | ⟨high, failed⟩
  · rcases windowExtent_rounded kernel.2 wide across with ⟨short, width, leftToo, wideRounded⟩ | ⟨long, failed⟩
    · rw [left, leftToo] at made_eq
      refine ⟨iff_of_true ⟨_, made_eq⟩ ⟨low, short⟩, fun layer made => ?_, fun none => absurd ⟨_, made_eq⟩ none⟩
      rw [made_eq] at made
      cases made
      exact ⟨height, width, rfl, tallRounded, wideRounded⟩
    · rw [left, failed] at made_eq
      exact of_failed made_eq fun both => long both.2
  · rw [failed] at made_eq
    exact of_failed made_eq fun both => high both.1

/-- Over images of one row and column or more, and with strides of one or more, windows without padding are counted
exactly, whatever the integers; those that keep the extents divide them as floating-point numbers. -/
theorem Slides.outcome : CountsPositions images kernel strides given (make .valid strides) ∧
    RoundsUp images strides given (make .same strides) :=
  ⟨slides.countsPositions tall wide down across, slides.roundsUp tall wide down across⟩

end

/-- Of one row more than a mantissa holds the last one is lost under a stride of one. -/
theorem outcome_lostRow : let images : Images := ⟨1, 1, 2 ^ 53 + 1, 1⟩
    Slides images (1, 1) 1 (fun padding strides => averagePool2d images.shape padding (1, 1) strides) ∧
      0 < images.height ∧ 0 < images.width ∧
      RoundsUp images (1, 1) 1 (averagePool2d images.shape .same (1, 1) (1, 1)) ∧
      (∃ layer, averagePool2d images.shape .same (1, 1) (1, 1) = .ok layer ∧ layer.outputShape = [1, 1, 2 ^ 53, 1]) ∧
      ¬ IsLeast {n : Int | images.height ≤ n * 1} (2 ^ 53) := by
  intro images
  have slides : Slides images (1, 1) 1 fun padding strides => averagePool2d images.shape padding (1, 1) strides :=
    .averagePool2d rfl
  refine ⟨slides, by decide, by decide, (slides.outcome (by decide) (by decide) Int.one_pos Int.one_pos).2, ?_, ?_⟩
  · have lost : windowExtent images.height 1 1 .same = .ok (2 ^ 53) := by decide +kernel
    have kept : windowExtent images.width 1 1 .same = .ok 1 := by decide +kernel
    exact ⟨_, averagePool2d_eq_ok.mpr ⟨images, _, _, rfl, lost, kept, rfl⟩, rfl⟩
  · intro least
    exact absurd least.1 (by decide)

end Layer

end LayerGraph
