import LayerGraph.Lowering.Operator
import LayerGraph.Proofs.Layer.Errors
import LayerGraph.Proofs.Tensor.Errors

/-! The conversion errors of lowering an operator.

A handler refuses attributes and arguments under the tag of the operator; what it calls names no operator, and gets
the tag on the way out. So every conversion error names the operator that is lowered, and none is about a graph,
which no handler has.
-/

set_option autoImplicit false

namespace LayerGraph

open Attempt Number Text

namespace Json

theorem errorless_toInteger (value : Json) : value.toInteger.Errorless := by
  cases value with
  | int n | bool b => exact errs_ok _
  | null | arr items | obj fields => exact errs_fault _
  | float x => exact Errs.ite (fun _ => errs_fault _) fun _ => Errs.ite (fun _ => errs_fault _) fun _ => errs_ok _
  | str text =>
    unfold toInteger integerOfText
    dsimp only
    split
    · exact errs_fault _
    · exact Errs.ite (fun _ => errs_fault _) fun _ => Errs.ite (fun _ => errs_fault _) fun _ => errs_ok _

theorem errorless_toReal (value : Json) : value.toReal.Errorless := by
  cases value <;> unfold toReal <;> dsimp only
  case float x => exact errs_ok _
  case bool b => exact errs_ok _
  case int n =>
    generalize Binary64.ofInt n = x
    exact Errs.ite (fun _ => errs_fault _) fun _ => errs_ok _
  case str text =>
    cases realOfText? text with
    | some x => exact errs_ok _
    | none => exact errs_fault _
  all_goals exact errs_fault _

theorem errorless_toItems (value : Json) : value.toItems.Errorless := by
  cases value with
  | arr items | str text | obj fields => exact errs_ok _
  | null | bool b | int n | float x => exact errs_fault _

theorem errorless_toIntegers (value : Json) : value.toIntegers.Errorless :=
  value.errorless_toItems.bind fun items _ => errs_mapM errorless_toInteger items

end Json

namespace Operator

/-- An error of an operator: it names this one or none yet, and a graph is not its cause. -/
def Answers (op : Operator) (error : ConversionError) : Prop :=
  (error.operator = none ∨ error.operator = some op.tag) ∧ ∀ defect, error.cause ≠ .graph defect

section
variable {op : Operator} {context : Context}

theorem errs_ofLayer {α : Type} {attempt : Attempt α} (errs : attempt.Errs ConversionError.OfLayer) :
    attempt.Errs op.Answers := by
  refine errs.imp ?_
  rintro error ⟨defect, rfl⟩
  exact ⟨.inl rfl, nofun⟩

theorem errs_shape (name : String) : (context.shape name).Errs op.Answers := by
  refine Errs.map ?_
  unfold Block.declaration
  split
  · exact errs_ok _
  · exact errs_fail ⟨.inl rfl, nofun⟩

theorem errs_load (name : String) : (context.load name).Errs op.Answers := by
  unfold Context.load
  refine (errs_shape name).bind fun shape declared => (Context.errs_elementType declared).bind fun spelling _ =>
    (context.tensors.errs_load name shape spelling).imp ?_
  rintro error ⟨defect, subject, rfl, _⟩
  exact ⟨.inl rfl, nofun⟩

theorem errs_input (role : String) : (op.input role).Errs op.Answers := by
  unfold input
  cases firstName? op.inputs role with
  | some name => exact errs_ok _
  | none => exact errs_fail ⟨.inr rfl, nofun⟩

theorem errs_output (role : String) : (op.output role).Errs op.Answers := by
  unfold output
  cases firstName? op.outputs role with
  | some name => exact errs_ok _
  | none => exact errs_fail ⟨.inr rfl, nofun⟩

theorem errs_requiredAttribute (name : String) : (op.requiredAttribute name).Errs op.Answers := by
  unfold requiredAttribute
  split
  · exact errs_ok _
  · exact errs_fail ⟨.inr rfl, nofun⟩

theorem errs_unsupported {α : Type} (defect : LoweringDefect) (subject : Option String) :
    (op.unsupported defect subject : Attempt α).Errs op.Answers :=
  errs_fail ⟨.inr rfl, nofun⟩

theorem errs_integerPair (name : String) : (op.integerPair name).Errs op.Answers := by
  unfold integerPair
  refine (errs_requiredAttribute name).bind fun value _ => ?_
  split
  · next first second _ =>
    exact first.errorless_toInteger.of_errorless.bind fun _ _ =>
      second.errorless_toInteger.of_errorless.bind fun _ _ => errs_ok _
  · exact errs_unsupported _ _

theorem errs_axis : op.axis.Errs op.Answers := by
  unfold axis
  split
  · next value _ => exact value.toJson.errorless_toInteger.of_errorless
  · exact errs_ok _

theorem errs_symmetricPadding (paddings : Int × Int) : (op.symmetricPadding paddings).Errs op.Answers :=
  Errs.ite (fun _ => errs_ok _) fun _ => Errs.ite (fun _ => errs_ok _) fun _ => errs_unsupported _ _

theorem errs_filterExtents (name : String) : (op.filterExtents context name).Errs op.Answers := by
  unfold filterExtents
  refine (errs_shape name).bind fun shape _ => ?_
  split
  · exact errs_ok _
  · exact errs_unsupported _ _

theorem errs_isDepthwise (groups filters : Int) (name : String) : (op.isDepthwise groups filters name).Errs op.Answers :=
  Errs.ite (fun _ => errs_ok _) fun _ => Errs.ite (fun _ => errs_ok _) fun _ => errs_unsupported _ _

theorem errs_convolve (depthwise : Bool) (shape : Shape) (weights : Tensor) (padding : Padding)
    (strides : Int × Int) : (convolve depthwise shape weights padding strides).Errs op.Answers :=
  Errs.ite (fun _ => errs_ofLayer (Layer.errs_convolution _ _ _ _ _ _ _))
    fun _ => errs_ofLayer (Layer.errs_convolution _ _ _ _ _ _ _)

theorem errs_lowerConv2d : (op.lowerConv2d context).Errs op.Answers := by
  unfold lowerConv2d
  refine (errs_integerPair _).bind fun paddings _ => (errs_integerPair _).bind fun strides _ =>
    (errs_requiredAttribute _).bind fun value _ => value.toJson.errorless_toInteger.of_errorless.bind fun groups _ =>
    (errs_input _).bind fun source _ => (errs_input _).bind fun filter _ => (errs_output _).bind fun output _ =>
    (errs_filterExtents _).bind fun extents _ => (errs_isDepthwise _ _ _).bind fun depthwise _ => ?_
  refine Errs.ite (fun _ => ?_) fun _ => ?_
  · exact (errs_load filter).bind fun weights _ => (errs_shape source).bind fun shape _ =>
      (errs_ofLayer (Layer.errs_spaceToBatch _ _ _)).bind fun space _ =>
      (errs_convolve _ _ _ _ _).bind fun layer _ => errs_ok _
  · exact (errs_symmetricPadding _).bind fun padding _ => (errs_load filter).bind fun weights _ =>
      (errs_shape source).bind fun shape _ => (errs_convolve _ _ _ _ _).bind fun layer _ => errs_ok _

theorem errs_lowerAdd : (op.lowerAdd context).Errs op.Answers :=
  (errs_input _).bind fun x _ => (errs_input _).bind fun y _ => (errs_output _).bind fun _ _ =>
    errs_axis.bind fun axis _ => (errs_shape x).bind fun a _ => (errs_shape y).bind fun b _ =>
    (errs_ofLayer (Layer.errs_add a b axis)).bind fun _ _ => errs_ok _

theorem errs_lowerBatchNorm : (op.lowerBatchNorm context).Errs op.Answers := by
  unfold lowerBatchNorm
  exact (errs_requiredAttribute _).bind fun value _ => value.toJson.errorless_toReal.of_errorless.bind fun epsilon _ =>
    (errs_input _).bind fun bias _ => (errs_input _).bind fun average _ => (errs_input _).bind fun factor _ =>
    (errs_input _).bind fun spread _ => (errs_input _).bind fun x _ => (errs_output _).bind fun output _ =>
    (errs_shape x).bind fun shape _ => (errs_load factor).bind fun scale _ => (errs_load bias).bind fun offset _ =>
    (errs_load average).bind fun mean _ => (errs_load spread).bind fun variance _ =>
    (errs_ofLayer (Layer.errs_batchNormalization shape ⟨scale, offset, mean, variance⟩ epsilon)).bind
      fun layer _ => errs_ok _

theorem errs_anyNonzero (items : List Json) : (anyNonzero items).Errorless := by
  induction items with
  | nil => exact errs_ok _
  | cons item items ih =>
    unfold anyNonzero
    exact item.errorless_toInteger.bind fun n _ => Errs.ite (fun _ => errs_ok _) fun _ => ih

theorem errs_checkPoolingPaddings : op.checkPoolingPaddings.Errs op.Answers := by
  unfold checkPoolingPaddings
  cases op.attribute? "paddings" with
  | none => exact errs_ok _
  | some value =>
    refine value.toJson.errorless_toItems.of_errorless.bind fun items _ =>
      (errs_anyNonzero items).of_errorless.bind fun nonzero _ => ?_
    exact Errs.ite (fun _ => errs_unsupported _ _) fun _ => errs_ok _

theorem errs_poolingWindow (x : String) (shape : Shape) : (op.poolingWindow x shape).Errs op.Answers := by
  unfold poolingWindow
  refine Errs.ite (fun _ => ?_) fun _ => (errs_integerPair "ksize").bind fun kernel _ =>
    (errs_integerPair "strides").bind fun strides _ => errs_ok _
  split
  · exact Errs.ite (fun _ => errs_unsupported _ _) fun _ => errs_ok _
  · exact errs_unsupported _ _

theorem errs_lowerPool2d : (op.lowerPool2d context).Errs op.Answers := by
  unfold lowerPool2d
  refine (errs_requiredAttribute _).bind fun value _ => Errs.ite (fun _ => errs_unsupported _ _) fun _ => ?_
  exact (errs_input _).bind fun x _ => (errs_output _).bind fun output _ => (errs_shape x).bind fun shape _ =>
    errs_checkPoolingPaddings.bind fun _ _ => (errs_poolingWindow x shape).bind fun window _ =>
    (errs_ofLayer (Layer.errs_averagePool2d shape .valid window.1 window.2)).bind fun layer _ => errs_ok _

theorem errs_lowerAs (kind : OperatorKind) : (op.lowerAs kind context).Errs op.Answers := by
  cases kind with
  | feed => exact (errs_output _).bind fun name _ => (errs_shape name).bind fun shape _ => errs_ok _
  | fetch => exact (errs_input _).bind fun name _ => (errs_shape name).bind fun shape _ => errs_ok _
  | relu => exact (errs_input _).bind fun x _ => (errs_output _).bind fun output _ =>
      (errs_shape x).bind fun shape _ => errs_ok _
  | conv2d => exact errs_lowerConv2d
  | elementwiseAdd => exact errs_lowerAdd
  | batchNorm => exact errs_lowerBatchNorm
  | pool2d => exact errs_lowerPool2d
  | reshape => exact (errs_requiredAttribute _).bind fun target _ => (errs_input _).bind fun x _ =>
      (errs_output _).bind fun output _ => (errs_shape x).bind fun shape _ =>
      target.toJson.errorless_toIntegers.of_errorless.bind fun extents _ =>
      (errs_ofLayer (Layer.errs_reshape shape extents)).bind fun layer _ => errs_ok _
  | softmax => exact (errs_input _).bind fun x _ => (errs_output _).bind fun output _ =>
      errs_axis.bind fun axis _ => (errs_shape x).bind fun shape _ => errs_ok _

/-- Every conversion error of lowering an operator names it, and a graph is never the cause. -/
theorem errs_lower : (op.lower context).Errs fun error =>
    error.operator = some op.tag ∧ ∀ defect, error.cause ≠ .graph defect := by
  unfold lower OperatorKind.ofTag
  cases OperatorKind.ofTag? op.tag with
  | none => exact (errs_fail ⟨rfl, nofun⟩).bind fun kind failed => absurd failed fail_ne_ok
  | some kind =>
    refine (errs_ok kind).bind fun kind _ => ((errs_lowerAs kind).withOperator op.tag).imp ?_
    rintro _ ⟨⟨cause, operator, subject⟩, ⟨rfl | rfl, ungraphed⟩, rfl⟩
    · exact ⟨rfl, ungraphed⟩
    · exact ⟨rfl, ungraphed⟩

end

end Operator

end LayerGraph
