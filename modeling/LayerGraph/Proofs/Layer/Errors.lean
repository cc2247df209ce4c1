import LayerGraph.Layer.Basic
import LayerGraph.Proofs.Failure.Errors

/-! The conversion errors of layer constructors.

A constructor refuses the shapes and parameters that it is given, and names neither an operator nor a variable.
-/

set_option autoImplicit false

namespace LayerGraph

open Attempt Number

/-- An error about a layer that names nothing else. -/
def ConversionError.OfLayer (error : ConversionError) : Prop := ∃ defect, error = ⟨.layer defect, none, none⟩

theorem errs_layer_ofLayer {α : Type} (defect : LayerDefect) :
    (Attempt.layer defect : Attempt α).Errs ConversionError.OfLayer :=
  errs_layer ⟨defect, rfl⟩

theorem errorless_floorQuotient (a b : Int) : (floorQuotient a b).Errorless :=
  Errs.ite (fun _ => errs_fault _) fun _ => errs_ok _

theorem errorless_divides (b a : Int) : (divides b a).Errorless :=
  Errs.ite (fun _ => errs_fault _) fun _ => errs_ok _

theorem errorless_roundedCeiling (a b : Int) : (roundedCeiling a b).Errorless :=
  Errs.ite (fun _ => errs_fault _) fun _ => Errs.ite (fun _ => errs_fault _) fun _ => errs_ok _

theorem errs_windowExtent (size kernel stride : Int) (padding : Padding) :
    (windowExtent size kernel stride padding).Errs ConversionError.OfLayer := by
  unfold windowExtent
  refine Errs.ite (fun _ => errs_ok _) fun _ => ?_
  cases padding with
  | same => exact (errorless_roundedCeiling size stride).of_errorless
  | valid =>
    exact (errorless_floorQuotient _ _).of_errorless.bind fun quotient _ =>
      Errs.ite (fun _ => errs_layer_ofLayer _) fun _ => errs_ok _

theorem errs_ofShape (kind : LayerKind) (shape : Shape) : (Images.ofShape kind shape).Errs ConversionError.OfLayer := by
  unfold Images.ofShape
  split
  · exact errs_ok _
  · exact errs_layer_ofLayer _

theorem errs_alignAt (a b : Shape) (axis : Int) : (alignAt a b axis).Errs ConversionError.OfLayer :=
  Errs.ite (fun _ => Errs.ite (fun _ => errs_layer_ofLayer _) fun _ => errs_ok _) fun _ => errs_ok _

theorem errs_broadcast (a b : Shape) (axis : Int) : (broadcast a b axis).Errs ConversionError.OfLayer := by
  unfold broadcast
  refine (errs_alignAt a b axis).bind fun aligned _ => ?_
  dsimp only
  split
  · exact errs_ok _
  · exact errs_layer_ofLayer _

theorem errs_copyExtents (input : Shape) (position : Nat) (target : Shape) :
    (copyExtents input position target).Errs ConversionError.OfLayer := by
  induction target generalizing position with
  | nil => exact errs_ok _
  | cons extent target ih =>
    have later : ∀ here : Int, Errs (do return here :: (← copyExtents input (position + 1) target))
        ConversionError.OfLayer := fun here => (ih (position + 1)).bind fun rest _ => errs_ok _
    unfold copyExtents
    dsimp only
    split
    · split
      · exact (errs_ok _).bind fun here _ => later here
      · exact (errs_layer_ofLayer _).bind fun here _ => later here
    · split
      · exact (errs_layer_ofLayer _).bind fun here _ => later here
      · exact (errs_ok _).bind fun here _ => later here

theorem errs_reshapeExtents (input target : Shape) :
    (reshapeExtents input target).Errs ConversionError.OfLayer := by
  unfold reshapeExtents
  refine (errs_copyExtents input 0 target).bind fun extents _ => ?_
  exact Errs.ite (fun _ => errs_layer_ofLayer _) fun _ => Errs.ite (fun _ => errs_ok _) fun _ =>
    Errs.ite (fun _ => Errs.ite (fun _ => errs_layer_ofLayer _) fun _ => errs_ok _) fun _ =>
      Errs.ite (fun _ => errs_layer_ofLayer _) fun _ => errs_ok _

theorem errs_foldedExtent (size block : Int) (padding : Int × Int) :
    (foldedExtent size block padding).Errs ConversionError.OfLayer := by
  unfold foldedExtent
  exact Errs.ite (fun _ => errs_ok _) fun _ => (errorless_divides _ _).of_errorless.bind fun whole _ =>
    Errs.ite (fun _ => (errorless_floorQuotient _ _).of_errorless) fun _ => errs_layer_ofLayer _

theorem errs_foldedExtents (sizes blocks : List Int) (paddings : List (Int × Int)) :
    (foldedExtents sizes blocks paddings).Errs ConversionError.OfLayer := by
  induction sizes generalizing blocks paddings with
  | nil => exact errs_ok _
  | cons size sizes ih =>
    match blocks, paddings with
    | block :: blocks, padding :: paddings =>
      exact (errs_foldedExtent size block padding).bind fun _ _ => (ih blocks paddings).bind fun _ _ => errs_ok _
    | [], _ | _ :: _, [] => exact errs_ok _

namespace Layer

theorem errs_windows (images : Images) (kernel strides : Int × Int) (padding : Padding) :
    (windows images kernel strides padding).Errs ConversionError.OfLayer :=
  (errs_windowExtent _ _ _ _).bind fun _ _ => (errs_windowExtent _ _ _ _).bind fun _ _ => errs_ok _

theorem errs_standardChannels (channels filters depth : Int) :
    (standardChannels channels filters depth).Errs ConversionError.OfLayer :=
  Errs.ite (fun _ => errs_layer_ofLayer _) fun _ => errs_ok _

theorem errs_depthwiseChannels (channels filters : Int) :
    (depthwiseChannels channels filters).Errs ConversionError.OfLayer := by
  unfold depthwiseChannels
  exact Errs.ite (fun _ => errs_ok _) fun _ => (errorless_divides _ _).of_errorless.bind fun whole _ =>
    Errs.ite (fun _ => errs_ok _) fun _ => errs_layer_ofLayer _

theorem errs_convolution (kind : LayerKind) (body : Convolution → LayerBody) (shape : Shape) (weights : Tensor)
    (bias : Option Tensor) (padding : Padding) (strides : Int × Int) :
    (convolution kind body shape weights bias padding strides).Errs ConversionError.OfLayer := by
  have plan : (convolutionPlan kind shape weights).Errs ConversionError.OfLayer := by
    unfold convolutionPlan
    refine (errs_ofShape kind shape).bind fun images _ => ?_
    split
    · dsimp only
      split
      · exact (errs_depthwiseChannels _ _).bind fun _ _ => errs_ok _
      · exact (errs_standardChannels _ _ _).bind fun _ _ => errs_ok _
    · exact errs_layer_ofLayer _
  unfold convolution
  exact plan.bind fun _ _ => (errs_windows _ _ _ _).bind fun _ _ => errs_ok _

theorem errs_add (a b : Shape) (axis : Int) : (add a b axis).Errs ConversionError.OfLayer :=
  (errs_broadcast a b axis).bind fun _ _ => errs_ok _

theorem errs_batchNormalization (shape : Shape) (statistics : Statistics) (epsilon : Binary64) :
    (batchNormalization shape statistics epsilon).Errs ConversionError.OfLayer := by
  unfold batchNormalization statisticsSize checkStatistics
  refine Errs.bind ?_ fun size _ => Errs.bind ?_ fun _ _ => errs_ok _
  · dsimp only
    split
    · exact errs_ok _
    · exact errs_layer_ofLayer _
  · split
    · exact Errs.ite (fun _ => errs_layer_ofLayer _) fun _ => errs_ok _
    · exact errs_layer_ofLayer _

theorem errs_averagePool2d (shape : Shape) (padding : Padding) (kernel strides : Int × Int) :
    (averagePool2d shape padding kernel strides).Errs ConversionError.OfLayer :=
  (errs_ofShape _ _).bind fun _ _ => (errs_windows _ _ _ _).bind fun _ _ => errs_ok _

theorem errs_reshape (shape target : Shape) : (reshape shape target).Errs ConversionError.OfLayer :=
  (errs_reshapeExtents shape target).bind fun _ _ => errs_ok _

theorem errs_spaceToBatch (shape : Shape) (block : Int × Int) (paddings : List (Int × Int)) :
    (spaceToBatch shape block paddings).Errs ConversionError.OfLayer := by
  unfold spaceToBatch
  refine (errs_ofShape _ shape).bind fun images _ => (errs_foldedExtents _ _ _).bind fun extents _ => ?_
  split
  · exact errs_ok _
  · exact errs_fault _

end Layer

end LayerGraph
