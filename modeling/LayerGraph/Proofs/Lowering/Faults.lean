import LayerGraph.Lowering.Operator
import LayerGraph.Proofs.Layer.Faults
import LayerGraph.Proofs.Tensor.Faults
import LayerGraph.Proofs.Validation.Faults

/-! The faults of lowering an operator.

Attributes hold whatever the program says, so reading them as numbers may fail; declarations name
element types that nobody checked; and a pooling divides by the strides that it is given. The hazard
of each kind follows the order in which its lowering reads what it needs.
-/

set_option autoImplicit false

namespace LayerGraph.Operator

open Attempt

variable (op : Operator) (context : Context)

/-- The faults of an attribute of two integers. -/
def PairHazard (name : String) (fault : Fault) : Prop :=
  ∃ value, op.requiredAttribute name = .ok value ∧
    ∃ first second, value.toJson = .arr [first, second] ∧
      (first.IntegerHazard fault ∨ ∃ n, first.toInteger = .ok n ∧ second.IntegerHazard fault)

/-- The faults of an axis that is given. -/
def AxisHazard (fault : Fault) : Prop :=
  ∃ value, op.attribute? "axis" = some value ∧ value.toJson.IntegerHazard fault

/-- The faults of a convolution once its attributes and arguments are read: those of its filter, of the
layer that pads, and of its own layer. -/
def FilterHazard (source filter : String) (depthwise : Bool) (paddings strides kernel : Int × Int)
    (fault : Fault) : Prop :=
  let convolving (shape : Shape) (weights : Tensor) (padding : Padding) : Prop :=
    if depthwise then
      Layer.ConvolutionHazard .depthwiseConv2d shape weights.swapLeadingAxes padding strides fault
    else Layer.ConvolutionHazard .conv2d shape weights padding strides fault
  if isStridedSame paddings strides kernel then
    context.LoadHazard filter fault ∨ ∃ weights, context.load filter = .ok weights ∧
      ∃ shape, context.shape source = .ok shape ∧
        (RankHazard .spaceToBatch shape fault ∨
          ∃ space, Layer.spaceToBatch shape (1, 1) [(1, 1), (1, 1)] = .ok space ∧
            convolving space.outputShape weights .valid)
  else
    ∃ padding, op.symmetricPadding paddings = .ok padding ∧
      (context.LoadHazard filter fault ∨ ∃ weights, context.load filter = .ok weights ∧
        ∃ shape, context.shape source = .ok shape ∧ convolving shape weights padding)

/-- The faults of a convolution: of its attributes in order, then of its filter and layers. A zero stride
counts as one here, so it is no fault. -/
def Conv2dHazard (fault : Fault) : Prop :=
  op.PairHazard "paddings" fault ∨ ∃ paddings, op.integerPair "paddings" = .ok paddings ∧
    (op.PairHazard "strides" fault ∨ ∃ strides, op.integerPair "strides" = .ok strides ∧
      ∃ value, op.requiredAttribute "groups" = .ok value ∧
        (value.toJson.IntegerHazard fault ∨ ∃ groups, value.toJson.toInteger = .ok groups ∧
          ∃ source, op.input "Input" = .ok source ∧ ∃ filter, op.input "Filter" = .ok filter ∧
          ∃ output, op.output "Output" = .ok output ∧
          ∃ extents, op.filterExtents context filter = .ok extents ∧
          ∃ depthwise, op.isDepthwise groups extents.1 filter = .ok depthwise ∧
            op.FilterHazard context source filter depthwise paddings
              (unitStride strides.1, unitStride strides.2) (extents.2.2.1, extents.2.2.2) fault))

/-- The faults of a sum: its axis, and words about shapes that cannot be shown. -/
def AddHazard (fault : Fault) : Prop :=
  ∃ x, op.input "X" = .ok x ∧ ∃ y, op.input "Y" = .ok y ∧ ∃ output, op.output "Out" = .ok output ∧
    (op.AxisHazard fault ∨ ∃ axis, op.axis = .ok axis ∧
      ∃ a, context.shape x = .ok a ∧ ∃ b, context.shape y = .ok b ∧ Layer.SumHazard a b axis fault)

/-- The faults of a normalization: its epsilon, its four statistics in the order in which they are
loaded, and words that cannot be shown. -/
def BatchNormHazard (fault : Fault) : Prop :=
  ∃ value, op.requiredAttribute "epsilon" = .ok value ∧
    (value.toJson.RealHazard fault ∨ ∃ epsilon, value.toJson.toReal = .ok epsilon ∧
      ∃ bias, op.input "Bias" = .ok bias ∧ ∃ average, op.input "Mean" = .ok average ∧
      ∃ factor, op.input "Scale" = .ok factor ∧ ∃ spread, op.input "Variance" = .ok spread ∧
      ∃ x, op.input "X" = .ok x ∧ ∃ output, op.output "Y" = .ok output ∧
      ∃ shape, context.shape x = .ok shape ∧
        (context.LoadHazard factor fault ∨ ∃ scale, context.load factor = .ok scale ∧
        (context.LoadHazard bias fault ∨ ∃ offset, context.load bias = .ok offset ∧
        (context.LoadHazard average fault ∨ ∃ mean, context.load average = .ok mean ∧
        (context.LoadHazard spread fault ∨ ∃ variance, context.load spread = .ok variance ∧
          Layer.NormalizationHazard shape ⟨scale, offset, mean, variance⟩ fault)))))

/-- The faults of looking for an item that is not zero: an item behind zeros that is no integer. -/
def NonzeroHazard (items : List Json) (fault : Fault) : Prop :=
  ∃ done item rest, items = done ++ item :: rest ∧ (∀ other ∈ done, other.toInteger = .ok 0) ∧
    item.IntegerHazard fault

/-- The faults of pooling paddings that are given: no list, or an item that is no integer. -/
def PoolingPaddingsHazard (fault : Fault) : Prop :=
  ∃ value, op.attribute? "paddings" = some value ∧
    (value.toJson.ItemsHazard fault ∨ ∃ items, value.toJson.toItems = .ok items ∧
      NonzeroHazard items fault)

/-- The faults of the window of a pooling that is not global: its kernel, then its strides. -/
def PoolingWindowHazard (fault : Fault) : Prop :=
  ((op.attribute? "global_pooling").map AttrValue.isTruthy).getD false = false ∧
    (op.PairHazard "ksize" fault ∨ ∃ kernel, op.integerPair "ksize" = .ok kernel ∧
      op.PairHazard "strides" fault)

/-- The faults of an average pooling: its paddings, its window, and its layer, which divides by the
strides. -/
def Pool2dHazard (fault : Fault) : Prop :=
  ∃ value, op.requiredAttribute "pooling_type" = .ok value ∧ nameText value = "avg" ∧
    ∃ x, op.input "X" = .ok x ∧ ∃ output, op.output "Out" = .ok output ∧
    ∃ shape, context.shape x = .ok shape ∧
      (op.PoolingPaddingsHazard fault ∨ op.checkPoolingPaddings = .ok () ∧
        (op.PoolingWindowHazard fault ∨ ∃ window, op.poolingWindow x shape = .ok window ∧
          Layer.PoolingHazard shape .valid window.1 window.2 fault))

/-- The faults of a reshape: extents that are no integers, and words that cannot be shown. -/
def ReshapeHazard (fault : Fault) : Prop :=
  ∃ target, op.requiredAttribute "shape" = .ok target ∧ ∃ x, op.input "X" = .ok x ∧
    ∃ output, op.output "Out" = .ok output ∧ ∃ shape, context.shape x = .ok shape ∧
      (target.toJson.IntegersHazard fault ∨ ∃ extents, target.toJson.toIntegers = .ok extents ∧
        Layer.TargetHazard shape extents fault)

/-- The faults of a softmax: its axis. -/
def SoftmaxHazard (fault : Fault) : Prop :=
  ∃ x, op.input "X" = .ok x ∧ ∃ output, op.output "Out" = .ok output ∧ op.AxisHazard fault

/-- The faults of lowering an operator of a known kind. -/
def KindHazard (kind : OperatorKind) (fault : Fault) : Prop :=
  match kind with
  | .feed | .fetch | .relu => False
  | .conv2d => op.Conv2dHazard context fault
  | .elementwiseAdd => op.AddHazard context fault
  | .batchNorm => op.BatchNormHazard context fault
  | .pool2d => op.Pool2dHazard context fault
  | .reshape => op.ReshapeHazard context fault
  | .softmax => op.SoftmaxHazard fault

/-- The faults of lowering an operator. -/
def Hazard (fault : Fault) : Prop :=
  ∃ kind, OperatorKind.ofTag? op.tag = some kind ∧ op.KindHazard context kind fault

section
variable {op : Operator} {context : Context} {name : String}

theorem faultless_input (role : String) : (op.input role).Faultless := by
  unfold input
  cases firstName? op.inputs role with
  | some name => exact faultless_ok _
  | none => exact faultless_fail _ _ _

theorem faultless_output (role : String) : (op.output role).Faultless := by
  unfold output
  cases firstName? op.outputs role with
  | some name => exact faultless_ok _
  | none => exact faultless_fail _ _ _

theorem faultless_requiredAttribute (name : String) : (op.requiredAttribute name).Faultless := by
  unfold requiredAttribute
  split
  · exact faultless_ok _
  · exact faultless_fail _ _ _

theorem faultless_unsupported {α : Type} (defect : LoweringDefect) (subject : Option String) :
    (op.unsupported defect subject : Attempt α).Faultless :=
  faultless_fail _ _ _

theorem faults_integerPair (name : String) : (op.integerPair name).Faults (op.PairHazard name) := by
  unfold integerPair PairHazard
  refine Faults.after (faultless_requiredAttribute name) fun value _ => ?_
  split
  · next first second listed =>
    refine (first.faults_toInteger.bind fun n _ =>
      second.faults_toInteger.before fun m _ => faultless_ok _).congr fun fault => ?_
    simp [listed]
  · next unlisted =>
    refine (faultless_unsupported _ _).congr fun fault => ⟨False.elim, ?_⟩
    rintro ⟨first, second, listed, _⟩
    exact unlisted first second listed

theorem faults_axis : op.axis.Faults op.AxisHazard := by
  unfold axis AxisHazard
  cases op.attribute? "axis" with
  | some value => exact value.toJson.faults_toInteger.congr fun fault => by simp
  | none => exact (faultless_ok _).congr fun fault => by simp

theorem faultless_symmetricPadding (paddings : Int × Int) : (op.symmetricPadding paddings).Faultless := by
  unfold symmetricPadding
  split
  · exact faultless_ok _
  · split
    · exact faultless_ok _
    · exact faultless_unsupported _ _

theorem faultless_filterExtents (name : String) : (op.filterExtents context name).Faultless := by
  unfold filterExtents
  refine (context.faultless_shape name).before fun shape _ => ?_
  split
  · exact faultless_ok _
  · exact faultless_unsupported _ _

theorem faultless_isDepthwise (groups filters : Int) : (op.isDepthwise groups filters name).Faultless := by
  unfold isDepthwise
  split
  · exact faultless_ok _
  · split
    · exact faultless_ok _
    · exact faultless_unsupported _ _

theorem faults_convolve (depthwise : Bool) (shape : Shape) (weights : Tensor) (padding : Padding)
    (strides : Int × Int) : (convolve depthwise shape weights padding strides).Faults fun fault =>
      if depthwise then
        Layer.ConvolutionHazard .depthwiseConv2d shape weights.swapLeadingAxes padding strides fault
      else Layer.ConvolutionHazard .conv2d shape weights padding strides fault :=
  Faults.ite (fun _ => Layer.faults_convolution _ _ _ _ _ _ _)
    fun _ => Layer.faults_convolution _ _ _ _ _ _ _

theorem faults_lowerConv2d : (op.lowerConv2d context).Faults (op.Conv2dHazard context) := by
  unfold lowerConv2d Conv2dHazard
  refine (faults_integerPair _).bind fun paddings _ => (faults_integerPair _).bind fun strides _ =>
    Faults.after (faultless_requiredAttribute _) fun value _ =>
    value.toJson.faults_toInteger.bind fun groups _ =>
    Faults.after (faultless_input _) fun source _ => Faults.after (faultless_input _) fun filter _ =>
    Faults.after (faultless_output _) fun output _ =>
    Faults.after (faultless_filterExtents _) fun extents _ =>
    Faults.after (faultless_isDepthwise _ _) fun depthwise _ => ?_
  unfold FilterHazard
  refine Faults.ite (fun _ => ?_) fun _ => ?_
  · exact (context.faults_load filter).bind fun weights _ =>
      Faults.after (context.faultless_shape source) fun shape _ =>
      (Layer.faults_spaceToBatch _ _ _).bind fun space _ =>
      (faults_convolve _ _ _ _ _).before fun layer _ => faultless_ok _
  · exact Faults.after (faultless_symmetricPadding _) fun padding _ =>
      (context.faults_load filter).bind fun weights _ =>
      Faults.after (context.faultless_shape source) fun shape _ =>
      (faults_convolve _ _ _ _ _).before fun layer _ => faultless_ok _

theorem faults_lowerAdd : (op.lowerAdd context).Faults (op.AddHazard context) := by
  unfold lowerAdd AddHazard
  exact Faults.after (faultless_input _) fun x _ => Faults.after (faultless_input _) fun y _ =>
    Faults.after (faultless_output _) fun output _ => faults_axis.bind fun axis _ =>
    Faults.after (context.faultless_shape x) fun a _ => Faults.after (context.faultless_shape y) fun b _ =>
    (Layer.faults_add a b axis).before fun layer _ => faultless_ok _

theorem faults_lowerBatchNorm : (op.lowerBatchNorm context).Faults (op.BatchNormHazard context) := by
  unfold lowerBatchNorm BatchNormHazard
  exact Faults.after (faultless_requiredAttribute _) fun value _ => value.toJson.faults_toReal.bind fun epsilon _ =>
    Faults.after (faultless_input _) fun bias _ => Faults.after (faultless_input _) fun average _ =>
    Faults.after (faultless_input _) fun factor _ => Faults.after (faultless_input _) fun spread _ =>
    Faults.after (faultless_input _) fun x _ => Faults.after (faultless_output _) fun output _ =>
    Faults.after (context.faultless_shape x) fun shape _ =>
    (context.faults_load factor).bind fun scale _ => (context.faults_load bias).bind fun offset _ =>
    (context.faults_load average).bind fun mean _ => (context.faults_load spread).bind fun variance _ =>
    (Layer.faults_batchNormalization shape ⟨scale, offset, mean, variance⟩ epsilon).before
      fun layer _ => faultless_ok _

theorem nonzeroHazard_cons {item : Json} {items : List Json} {fault : Fault} :
    NonzeroHazard (item :: items) fault ↔
      item.IntegerHazard fault ∨ item.toInteger = .ok 0 ∧ NonzeroHazard items fault := by
  constructor
  · rintro ⟨done, other, rest, split, zeros, named⟩
    cases done with
    | nil =>
      cases split
      exact .inl named
    | cons first done =>
      cases split
      exact .inr ⟨zeros item (List.mem_cons_self ..), done, other, rest, rfl,
        fun x member => zeros x (List.mem_cons_of_mem _ member), named⟩
  · rintro (named | ⟨zero, done, other, rest, rfl, zeros, named⟩)
    · exact ⟨[], item, items, rfl, nofun, named⟩
    · refine ⟨item :: done, other, rest, rfl, ?_, named⟩
      simpa using ⟨zero, zeros⟩

theorem faults_anyNonzero (items : List Json) : (anyNonzero items).Faults (NonzeroHazard items) := by
  induction items with
  | nil => exact (faultless_ok _).congr fun fault => by simp [NonzeroHazard]
  | cons item items ih =>
    unfold anyNonzero
    refine (item.faults_toInteger.bind fun n _ =>
      Faults.ite (fun _ => faultless_ok true) fun _ => ih).congr fun fault => ?_
    rw [nonzeroHazard_cons]
    refine or_congr_right ⟨?_, ?_⟩
    · rintro ⟨n, read, named⟩
      split at named
      · exact named.elim
      · next zero =>
        rw [not_not.mp zero] at read
        exact ⟨read, named⟩
    · rintro ⟨read, named⟩
      exact ⟨0, read, by simpa using named⟩

theorem faults_checkPoolingPaddings : op.checkPoolingPaddings.Faults op.PoolingPaddingsHazard := by
  unfold checkPoolingPaddings PoolingPaddingsHazard
  cases op.attribute? "paddings" with
  | none => exact (faultless_ok _).congr fun fault => by simp
  | some value =>
    refine (value.toJson.faults_toItems.bind fun items _ => (faults_anyNonzero items).before
      fun nonzero _ => ?_).congr fun fault => by simp
    split
    · exact faultless_unsupported _ _
    · exact faultless_ok _

theorem faults_poolingWindow (x : String) (shape : Shape) :
    (op.poolingWindow x shape).Faults op.PoolingWindowHazard := by
  unfold poolingWindow PoolingWindowHazard
  refine (Faults.ite (fun _ => (?whole : Faultless _)) fun _ =>
    (faults_integerPair "ksize").bind fun kernel _ =>
      (faults_integerPair "strides").before fun strides _ => faultless_ok _).congr fun fault => ?_
  case whole =>
    split
    · split
      · exact faultless_unsupported _ _
      · exact faultless_ok _
    · exact faultless_unsupported _ _
  cases ((op.attribute? "global_pooling").map AttrValue.isTruthy).getD false <;> simp

theorem faults_lowerPool2d : (op.lowerPool2d context).Faults (op.Pool2dHazard context) := by
  unfold lowerPool2d Pool2dHazard
  refine Faults.after (faultless_requiredAttribute _) fun value _ => ?_
  refine (Faults.ite (fun _ => faultless_unsupported _ _) fun _ =>
    Faults.after (faultless_input _) fun x _ => Faults.after (faultless_output _) fun output _ =>
    Faults.after (context.faultless_shape x) fun shape _ =>
    faults_checkPoolingPaddings.followed fun _ => (faults_poolingWindow x shape).bind fun window _ =>
    (Layer.faults_averagePool2d shape .valid window.1 window.2).before fun layer _ =>
      faultless_ok _).congr fun fault => ?_
  by_cases average : nameText value = "avg"
  · simp [average]
  · simp [average]

theorem faults_lowerReshape : (op.lowerReshape context).Faults (op.ReshapeHazard context) := by
  unfold lowerReshape ReshapeHazard
  exact Faults.after (faultless_requiredAttribute _) fun target _ => Faults.after (faultless_input _) fun x _ =>
    Faults.after (faultless_output _) fun output _ => Faults.after (context.faultless_shape x) fun shape _ =>
    target.toJson.faults_toIntegers.bind fun extents _ =>
    (Layer.faults_reshape shape extents).before fun layer _ => faultless_ok _

theorem faults_lowerSoftmax : (op.lowerSoftmax context).Faults op.SoftmaxHazard := by
  unfold lowerSoftmax SoftmaxHazard
  exact Faults.after (faultless_input _) fun x _ => Faults.after (faultless_output _) fun output _ =>
    faults_axis.before fun axis _ => (context.faultless_shape x).before fun shape _ => faultless_ok _

theorem faults_lowerAs (kind : OperatorKind) : (op.lowerAs kind context).Faults (op.KindHazard context kind) := by
  cases kind with
  | feed => exact (faultless_output _).before fun name _ =>
      (context.faultless_shape name).before fun shape _ => faultless_ok _
  | fetch => exact (faultless_input _).before fun name _ =>
      (context.faultless_shape name).before fun shape _ => faultless_ok _
  | relu => exact (faultless_input _).before fun x _ => (faultless_output _).before fun output _ =>
      (context.faultless_shape x).before fun shape _ => faultless_ok _
  | conv2d => exact faults_lowerConv2d
  | elementwiseAdd => exact faults_lowerAdd
  | batchNorm => exact faults_lowerBatchNorm
  | pool2d => exact faults_lowerPool2d
  | reshape => exact faults_lowerReshape
  | softmax => exact faults_lowerSoftmax

/-- Lowering an operator meets the faults of its hazard, and fails with conversion errors otherwise. -/
theorem faults_lower : (op.lower context).Faults (op.Hazard context) := by
  unfold lower OperatorKind.ofTag Hazard
  cases OperatorKind.ofTag? op.tag with
  | none =>
    refine Faults.congr (Faults.after (faultless_fail _ _ _) fun kind _ =>
      (faults_lowerAs kind).withOperator op.tag) fun fault => ?_
    simp
  | some kind =>
    refine (Faults.after (faultless_ok kind) fun kind _ =>
      (faults_lowerAs kind).withOperator op.tag).congr fun fault => ?_
    simp

end

end LayerGraph.Operator
