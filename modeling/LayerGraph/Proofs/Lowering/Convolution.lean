import LayerGraph.Proofs.Files.Path
import LayerGraph.Proofs.Layer.Windows
import LayerGraph.Proofs.Lowering.Form
import LayerGraph.Proofs.Tensor.View

/-! The lowerings of a convolution by windows of three.

Such a convolution becomes a layer without padding, a layer that keeps its extent, or a layer that pads the border and
one without padding behind it. They agree with the arithmetic of padding: each of them can be built exactly when a window
fits the padded axes, and what it leaves of an axis is what explicit padding leaves.
-/

set_option autoImplicit false

namespace LayerGraph

open Attempt Operator

/-- A convolution by windows of three: its padding, strides and groups, its input and its weights. -/
structure Convolving where
  padding : Int
  strides : Int × Int
  groups : Int
  images : Images
  /-- The extents of the weights: their filters and their depth. -/
  filters : Int
  depth : Int
  weights : Tensor

namespace Convolving

/-- A group per filter makes a convolution depthwise. -/
def isDepthwise (plan : Convolving) : Bool := plan.groups ≠ 1

/-- The strides of the windows. -/
def steps (plan : Convolving) : Int × Int := (unitStride plan.strides.1, unitStride plan.strides.2)

/-- The channels of the input fit the weights. -/
def Fed (plan : Convolving) : Prop :=
  plan.images.channels = unknown ∨
    if plan.isDepthwise then plan.images.channels ≠ 0 ∧ Int.fmod plan.filters plan.images.channels = 0
    else plan.images.channels = plan.depth

/-- A window of three fits each axis with its padding. -/
def Fits (plan : Convolving) : Prop :=
  PaddedFits plan.images.height plan.padding plan.steps.1 ∧ PaddedFits plan.images.width plan.padding plan.steps.2

/-- What the windows give out: the batch, the filters, and what they leave of the padded axes. -/
def outputShape (plan : Convolving) : Shape :=
  [plan.images.batch, plan.filters, paddedExtent plan.images.height plan.padding plan.steps.1,
    paddedExtent plan.images.width plan.padding plan.steps.2]

/-- A padding by none or one, and strides and known extents that a mantissa holds. -/
structure Bounded (plan : Convolving) : Prop where
  padding : plan.padding = 0 ∨ plan.padding = 1
  down : 0 ≤ plan.strides.1 ∧ plan.strides.1 < 2 ^ 53
  across : 0 ≤ plan.strides.2 ∧ plan.strides.2 < 2 ^ 53
  height : plan.images.height = unknown ∨ 0 < plan.images.height ∧ plan.images.height < 2 ^ 53
  width : plan.images.width = unknown ∨ 0 < plan.images.width ∧ plan.images.width < 2 ^ 53

/-- The layer of a convolution over images, with so much left of their axes. -/
def layer (plan : Convolving) (images : Images) (padding : Padding) (height width : Int) : Layer :=
  .unary
    (if plan.isDepthwise then .depthwiseConv2d ⟨plan.weights.swapLeadingAxes, none, padding, plan.steps, (3, 3)⟩
    else .conv2d ⟨plan.weights, none, padding, plan.steps, (3, 3)⟩)
    images.shape [images.batch, plan.filters, height, width]

/-- The images behind a layer that pads the border. -/
def bordered (plan : Convolving) : Images :=
  { plan.images with height := widened plan.images.height, width := widened plan.images.width }

/-- The fragment of a convolution with its last layer, in the three forms that it has. -/
inductive Form (plan : Convolving) (source output : String) : Fragment → Layer → Prop
  | plain {conv : Layer} (padding : plan.padding = 0)
      (built : convolve plan.isDepthwise plan.images.shape plan.weights .valid plan.steps = .ok conv) :
      Form plan source output (.ofLayer conv [source] output) conv
  | kept {conv : Layer} (padding : plan.padding = 1) (other : plan.steps ≠ (2, 2))
      (built : convolve plan.isDepthwise plan.images.shape plan.weights .same plan.steps = .ok conv) :
      Form plan source output (.ofLayer conv [source] output) conv
  | padded {space conv : Layer} (padding : plan.padding = 1) (strided : plan.steps = (2, 2))
      (before : Layer.spaceToBatch plan.images.shape (1, 1) [(1, 1), (1, 1)] = .ok space)
      (built : convolve plan.isDepthwise space.outputShape plan.weights .valid plan.steps = .ok conv) :
      Form plan source output (.chain space conv source output) conv

instance (plan : Convolving) : Decidable plan.Fits := inferInstanceAs (Decidable (_ ∧ _))

section
variable {plan : Convolving}

/-- The convolution is the last layer of its fragment. -/
theorem Form.exists_front {source output : String} {fragment : Fragment} {conv : Layer}
    (form : plan.Form source output fragment conv) : ∃ front, fragment.layers = front ++ [conv] := by
  cases form with
  | plain | kept => exact ⟨[], rfl⟩
  | @padded space => exact ⟨[space], rfl⟩

theorem steps_bounded (bounded : plan.Bounded) :
    (0 < plan.steps.1 ∧ plan.steps.1 < 2 ^ 53) ∧ 0 < plan.steps.2 ∧ plan.steps.2 < 2 ^ 53 := by
  have unit : ∀ stride : Int, 0 ≤ stride ∧ stride < 2 ^ 53 → 0 < unitStride stride ∧ unitStride stride < 2 ^ 53 := by
    intro stride range
    unfold unitStride
    split <;> omega
  exact ⟨unit _ bounded.down, unit _ bounded.across⟩

/-- Over images with the channels of the input the convolution is built exactly when its windows fit. -/
theorem convolve_eq_ok (extents : plan.weights.shape = [plan.filters, plan.depth, 3, 3]) (fed : plan.Fed)
    {images : Images} (same : images.channels = plan.images.channels) {padding : Padding} {conv : Layer} :
    convolve plan.isDepthwise images.shape plan.weights padding plan.steps = .ok conv ↔
      ∃ height width, windowExtent images.height 3 plan.steps.1 padding = .ok height ∧
        windowExtent images.width 3 plan.steps.2 padding = .ok width ∧ conv = plan.layer images padding height width := by
  unfold Fed at fed
  rw [← same] at fed
  unfold convolve layer
  generalize plan.isDepthwise = depthwise at fed ⊢
  cases depthwise with
  | false =>
    have fits : Layer.Channels .conv2d images.channels plan.filters plan.depth plan.filters := by
      simpa [Layer.Channels] using fed
    exact @Layer.convolution_of_channels _ _ _ (3, 3) _ _ _ extents fits _ _ _ _ _
  | true =>
    have fits : Layer.Channels .depthwiseConv2d images.channels plan.depth plan.filters plan.filters := by
      simpa [Layer.Channels] using fed
    exact @Layer.convolution_of_channels _ _ _ (3, 3) _ _ _ (Tensor.shape_swapLeadingAxes extents) fits _ _ _ _ _

/-- A convolution in one of its forms gives out what padding explicitly does. -/
theorem outputShape_of_form (bounded : plan.Bounded) (extents : plan.weights.shape = [plan.filters, plan.depth, 3, 3])
    (fed : plan.Fed) {source output : String} {fragment : Fragment} {conv : Layer}
    (form : plan.Form source output fragment conv) : plan.Fits ∧ conv.outputShape = plan.outputShape := by
  obtain ⟨⟨down, short⟩, across, narrow⟩ := steps_bounded bounded
  have tall := bounded.height.imp_right And.left
  have wide := bounded.width.imp_right And.left
  unfold Fits outputShape
  cases form with
  | plain padding built =>
    obtain ⟨height, width, first, second, rfl⟩ := (convolve_eq_ok extents fed rfl).mp built
    obtain ⟨fitsDown, rfl⟩ := (windowExtent_three_valid down).mp first
    obtain ⟨fitsAcross, rfl⟩ := (windowExtent_three_valid across).mp second
    rw [padding]
    exact ⟨⟨fitsDown, fitsAcross⟩, rfl⟩
  | kept padding other built =>
    obtain ⟨height, width, first, second, rfl⟩ := (convolve_eq_ok extents fed rfl).mp built
    rw [windowExtent_three_same bounded.height down short] at first
    rw [windowExtent_three_same bounded.width across narrow] at second
    cases first
    cases second
    rw [padding]
    exact ⟨⟨paddedFits_one tall down, paddedFits_one wide across⟩, rfl⟩
  | padded padding strided before built =>
    -- The layer in front has widened the image, so the convolution itself runs without padding.
    obtain ⟨images, same, rfl⟩ := Layer.spaceToBatch_one_eq_ok.mp before
    obtain rfl := Images.shape_inj.mp same
    obtain ⟨height, width, first, second, rfl⟩ := (convolve_eq_ok extents fed (rfl : plan.bordered.channels = _)).mp built
    rw [bordered, windowExtent_three_widened tall down] at first
    rw [bordered, windowExtent_three_widened wide across] at second
    cases first
    cases second
    rw [padding]
    exact ⟨⟨paddedFits_one tall down, paddedFits_one wide across⟩, rfl⟩

/-- Padded by one, the convolution can keep its extent, whatever its strides are. -/
theorem exists_kept (bounded : plan.Bounded) (extents : plan.weights.shape = [plan.filters, plan.depth, 3, 3])
    (fed : plan.Fed) (one : plan.padding = 1) :
    ∃ conv, convolve plan.isDepthwise plan.images.shape plan.weights .same plan.steps = .ok conv ∧
      conv.outputShape = plan.outputShape := by
  obtain ⟨⟨down, short⟩, across, narrow⟩ := steps_bounded bounded
  refine ⟨_, (convolve_eq_ok extents fed rfl).mpr ⟨_, _, windowExtent_three_same bounded.height down short,
    windowExtent_three_same bounded.width across narrow, rfl⟩, ?_⟩
  rw [outputShape, one]
  rfl

/-- Where a window fits each axis one of the forms can be built. -/
theorem exists_form (bounded : plan.Bounded) (extents : plan.weights.shape = [plan.filters, plan.depth, 3, 3])
    (fed : plan.Fed) (fits : plan.Fits) (source output : String) :
    ∃ fragment conv, plan.Form source output fragment conv := by
  obtain ⟨⟨down, short⟩, across, narrow⟩ := steps_bounded bounded
  rcases bounded.padding with none | one
  · unfold Fits at fits
    rw [none] at fits
    exact ⟨_, _, .plain none ((convolve_eq_ok extents fed rfl).mpr ⟨_, _,
      (windowExtent_three_valid down).mpr ⟨fits.1, rfl⟩, (windowExtent_three_valid across).mpr ⟨fits.2, rfl⟩, rfl⟩)⟩
  · by_cases strided : plan.steps = (2, 2)
    · have before := Layer.spaceToBatch_one_eq_ok.mpr ⟨plan.images, rfl, rfl⟩
      have built := (convolve_eq_ok extents fed (rfl : plan.bordered.channels = _)).mpr ⟨_, _,
        windowExtent_three_widened (bounded.height.imp_right And.left) down,
        windowExtent_three_widened (bounded.width.imp_right And.left) across, rfl⟩
      exact ⟨_, _, .padded one strided before built⟩
    · obtain ⟨conv, built, -⟩ := exists_kept bounded extents fed one
      exact ⟨_, conv, .kept one strided built⟩

end

end Convolving

namespace Operator

variable {op : Operator} {context : Context} {plan : Convolving} {fragment : Fragment}

/-- An operator that convolves by windows of three: it has all of its roles and attributes, its filter has weights of the
declared extents, and the channels of its input fit them. -/
structure Convolves (op : Operator) (context : Context) (plan : Convolving) (source output : String) : Prop where
  kind : OperatorKind.ofTag? op.tag = some .conv2d
  paddings : op.integerPair "paddings" = .ok (plan.padding, plan.padding)
  strides : op.integerPair "strides" = .ok plan.strides
  groups : ∃ value, op.requiredAttribute "groups" = .ok value ∧ value.toJson.toInteger = .ok plan.groups
  input : op.input "Input" = .ok source
  result : op.output "Output" = .ok output
  filter : ∃ name filters depth, op.input "Filter" = .ok name ∧ context.shape name = .ok [filters, depth, 3, 3] ∧
    (plan.groups = 1 ∨ plan.groups = filters) ∧ context.load name = .ok plan.weights
  images : context.shape source = .ok plan.images.shape
  extents : plan.weights.shape = [plan.filters, plan.depth, 3, 3]
  fed : plan.Fed

/-- An operator of a known kind is lowered by the handler of the kind. -/
theorem lower_eq_ok {kind : OperatorKind} (known : OperatorKind.ofTag? op.tag = some kind) :
    op.lower context = .ok fragment ↔ op.lowerAs kind context = .ok fragment := by
  constructor
  · intro lowered
    obtain ⟨other, same, lowered⟩ := kind_of_lower lowered
    cases known.symm.trans same
    exact lowered
  · intro lowered
    have tagged : OperatorKind.ofTag op.tag = .ok kind := by rw [OperatorKind.ofTag, known]
    exact bind_eq_ok.mpr ⟨kind, tagged, mapError_eq_ok.mpr lowered⟩

theorem isDepthwise_eq_ok {groups filters : Int} {name : String} (single : groups = 1 ∨ groups = filters) :
    op.isDepthwise groups filters name = .ok (decide (groups ≠ 1)) := by
  unfold isDepthwise
  by_cases one : groups = 1
  · rw [if_pos one, decide_eq_false (not_not.mpr one)]
  · rw [if_neg one, if_pos (single.resolve_left one), decide_eq_true one]

theorem symmetricPadding_eq_ok {amount : Int} {padding : Padding} (padded : amount = 0 ∨ amount = 1) :
    op.symmetricPadding (amount, amount) = .ok padding ↔ padding = if amount = 0 then .valid else .same := by
  rcases padded with rfl | rfl <;> simp [symmetricPadding, eq_comm]

/-- The rewrite into two layers is for padding by one and strides of two. -/
theorem isStridedSame_iff {amount : Int} {strides : Int × Int} (padded : amount = 0 ∨ amount = 1) :
    isStridedSame (amount, amount) strides (3, 3) = true ↔ amount = 1 ∧ strides = (2, 2) := by
  rcases padded with rfl | rfl <;> simp [isStridedSame]

/-- With its arguments and attributes known, lowering a convolution only has to build its layers. -/
theorem Convolves.lowerConv2d_eq {source output : String} (convolves : op.Convolves context plan source output) :
    op.lowerConv2d context =
      if isStridedSame (plan.padding, plan.padding) plan.steps (3, 3) then do
        let space ← Layer.spaceToBatch plan.images.shape (1, 1) [(1, 1), (1, 1)]
        let conv ← convolve plan.isDepthwise space.outputShape plan.weights .valid plan.steps
        return .chain space conv source output
      else do
        let padding ← op.symmetricPadding (plan.padding, plan.padding)
        let conv ← convolve plan.isDepthwise plan.images.shape plan.weights padding plan.steps
        return .ofLayer conv [source] output := by
  obtain ⟨value, given, grouped⟩ := convolves.groups
  obtain ⟨name, filters, depth, filter, declared, single, loaded⟩ := convolves.filter
  have extents : op.filterExtents context name = .ok (filters, depth, 3, 3) := filterExtents_eq_ok.mpr declared
  -- Each `change` brings the next of the program's steps to the front.
  unfold lowerConv2d
  rw [convolves.paddings, convolves.strides, given]
  change (value.toJson.toInteger >>= _) = _
  rw [grouped, convolves.input, filter, convolves.result]
  change (op.filterExtents context name >>= _) = _
  rw [extents]
  change (op.isDepthwise plan.groups filters name >>= _) = _
  rw [isDepthwise_eq_ok single, loaded, convolves.images]
  rfl

/-- A convolution by windows of three is lowered into one of its forms. -/
theorem lower_iff_form {source output : String} (convolves : op.Convolves context plan source output)
    (padded : plan.padding = 0 ∨ plan.padding = 1) :
    op.lower context = .ok fragment ↔ ∃ conv, plan.Form source output fragment conv := by
  rw [lower_eq_ok convolves.kind, lowerAs, convolves.lowerConv2d_eq]
  -- Padding by one with strides of two is what becomes two layers.
  split
  · next strided =>
    obtain ⟨one, two⟩ := (isStridedSame_iff padded).mp strided
    simp only [bind_eq_ok]
    constructor
    · rintro ⟨space, before, conv, built, same⟩
      cases same
      exact ⟨conv, .padded one two before built⟩
    · rintro ⟨conv, form⟩
      cases form with
      | plain padding => exact absurd (one.symm.trans padding) (by decide)
      | kept _ other => exact absurd two other
      | padded _ _ before built => exact ⟨_, before, _, built, rfl⟩
  · next other =>
    simp only [bind_eq_ok, symmetricPadding_eq_ok padded]
    constructor
    · rintro ⟨padding, rfl, conv, built, same⟩
      cases same
      rcases padded with none | one
      · rw [if_pos none] at built
        exact ⟨conv, .plain none built⟩
      · rw [if_neg (by omega)] at built
        exact ⟨conv, .kept one (fun two => other ((isStridedSame_iff (.inr one)).mpr ⟨one, two⟩)) built⟩
    · rintro ⟨conv, form⟩
      cases form with
      | plain none built => exact ⟨_, rfl, _, by rw [if_pos none]; exact built, rfl⟩
      | kept one _ built => exact ⟨_, rfl, _, by rw [if_neg (by omega)]; exact built, rfl⟩
      | padded one two => exact absurd ((isStridedSame_iff padded).mpr ⟨one, two⟩) other

/-- A convolution by windows of three is lowered exactly when a window fits each padded axis, and in each of its forms it
gives out what explicit padding leaves. So does the layer that keeps its extent, in the place of which two layers come. -/
theorem lower_of_convolves {source output : String} (convolves : op.Convolves context plan source output)
    (bounded : plan.Bounded) :
    ((∃ fragment, op.lower context = .ok fragment) ↔ plan.Fits) ∧
      (∀ fragment, op.lower context = .ok fragment → ∃ front conv, fragment.layers = front ++ [conv] ∧
        plan.Form source output fragment conv ∧ conv.outputShape = plan.outputShape) ∧
      (plan.padding = 1 → ∃ direct, convolve plan.isDepthwise plan.images.shape plan.weights .same plan.steps = .ok direct ∧
        direct.outputShape = plan.outputShape) := by
  have forms : ∀ fragment, op.lower context = .ok fragment ↔ ∃ conv, plan.Form source output fragment conv :=
    fun _ => lower_iff_form convolves bounded.padding
  refine ⟨⟨?_, fun fits => ?_⟩, fun fragment lowered => ?_, fun one => ?_⟩
  · rintro ⟨fragment, lowered⟩
    obtain ⟨conv, form⟩ := (forms fragment).mp lowered
    exact (Convolving.outputShape_of_form bounded convolves.extents convolves.fed form).1
  · obtain ⟨fragment, conv, form⟩ := Convolving.exists_form bounded convolves.extents convolves.fed fits source output
    exact ⟨fragment, (forms fragment).mpr ⟨conv, form⟩⟩
  · obtain ⟨conv, form⟩ := (forms fragment).mp lowered
    have given := (Convolving.outputShape_of_form bounded convolves.extents convolves.fed form).2
    obtain ⟨front, layers⟩ := form.exists_front
    exact ⟨front, conv, layers, form, given⟩
  · exact Convolving.exists_kept bounded convolves.extents convolves.fed one

/-- Windows of three at stride two over an image of five rows and any number of columns. -/
def strided : Operator where
  tag := "conv2d"
  inputs := [("Input", ["x"]), ("Filter", ["w"])]
  outputs := [("Output", ["y"])]
  attributes := [("paddings", .ints [1, 1]), ("strides", .ints [2, 2]), ("groups", .int 1)]

/-- Two images and a filter of zeros with its payload. -/
def image : Context where
  block := { declarations := [{ name := "x", shape := [-1, 1, 5, -1] }, { name := "z", shape := [1, 1, 4, 4] },
    { name := "w", shape := [1, 1, 3, 3], dtype := "f" }] }
  tensors := { files := ⟨[(["w"], .file (List.replicate 56 0))]⟩, directory := ⟨"/", []⟩ }

def stridedPlan : Convolving where
  padding := 1
  strides := (2, 2)
  groups := 1
  images := ⟨-1, 1, 5, -1⟩
  filters := 1
  depth := 1
  weights := ⟨.float 4, .little, [1, 1, 3, 3], List.replicate 36 0⟩

theorem load_image : image.load "w" = .ok stridedPlan.weights := by
  have path : image.tensors.path "w" = ⟨"/", ["w"]⟩ := Path.join_bare _ (by decide) (by decide)
  change image.tensors.load "w" [1, 1, 3, 3] "f" = _
  unfold PayloadStore.load PayloadStore.loadDeclared
  rw [path]
  rfl

theorem convolves_strided : strided.Convolves image stridedPlan "x" "y" where
  kind := by decide
  paddings := rfl
  strides := rfl
  groups := ⟨.int 1, rfl, rfl⟩
  input := rfl
  result := rfl
  filter := ⟨"w", 1, 1, rfl, rfl, .inl rfl, load_image⟩
  images := rfl
  extents := rfl
  fed := .inr rfl

theorem lower_strided : strided.Convolves image stridedPlan "x" "y" ∧ stridedPlan.Bounded ∧
    ∃ fragment, strided.lower image = .ok fragment ∧ stridedPlan.outputShape = [-1, 1, 3, -1] := by
  have bounded : stridedPlan.Bounded := ⟨.inr rfl, by decide, by decide, by decide, by decide⟩
  obtain ⟨succeeds, _, _⟩ := lower_of_convolves convolves_strided bounded
  obtain ⟨fragment, lowered⟩ := succeeds.mpr (by decide)
  exact ⟨convolves_strided, bounded, fragment, lowered, by decide⟩

end Operator

end LayerGraph
