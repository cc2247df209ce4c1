import LayerGraph.Layer.Basic
import LayerGraph.Proofs.Failure.Faults

/-! The faults of layer constructors.

A constructor divides by strides and by channels that nobody checks, and it refuses what it is given
with words that hold integers of any size. Apart from these it fails with conversion errors.
-/

set_option autoImplicit false

namespace LayerGraph

open Number Text

/-- Words about a layer that hold an integer too long to be shown. -/
def LayerDefect.Unshown (defect : LayerDefect) (fault : Fault) : Prop :=
  showsNumerals defect.message = false ∧ fault = .shownInteger

namespace Attempt

variable {α β : Type} {attempt : Attempt α} {next : α → Attempt β}

theorem faults_layer (defect : LayerDefect) : Faults (layer defect : Attempt α) defect.Unshown := by
  unfold layer LayerDefect.Unshown
  split
  · next shown => exact (faultless_fail _ none none).congr fun fault => by simp [shown]
  · next unshown =>
    exact (faults_fault _).congr fun fault => by simp [Bool.eq_false_iff.mpr unshown]

end Attempt

open Attempt

/-- The floating-point quotient of two integers, which may be infinite. -/
def roundedQuotient (a b : Int) : Binary64 :=
  Binary64.ofRatio (decide (a < 0) != decide (b < 0)) a.natAbs b.natAbs

/-- The faults of a window on an axis of known extent: a zero stride, a quotient that is too large, and
words that cannot be shown. -/
def WindowHazard (size kernel stride : Int) (padding : Padding) (fault : Fault) : Prop :=
  size ≠ unknown ∧
    match padding with
    | .same =>
      if stride = 0 then fault = .quotientByZero
      else (roundedQuotient size stride).isInfinite = true ∧ fault = .quotientSize
    | .valid =>
      if stride = 0 then fault = .floorByZero
      else Int.fdiv (size - kernel) stride + 1 ≤ 0 ∧
        (LayerDefect.window kernel stride size).Unshown fault

theorem faults_floorQuotient (a b : Int) :
    (floorQuotient a b).Faults fun fault => b = 0 ∧ fault = .floorByZero := by
  unfold floorQuotient
  refine (Faults.ite (fun _ => faults_fault _) fun _ => faultless_ok _).congr fun fault => ?_
  by_cases zero : b = 0 <;> simp [zero]

theorem floorQuotient_eq_ok {a b quotient : Int} :
    floorQuotient a b = .ok quotient ↔ b ≠ 0 ∧ quotient = Int.fdiv a b := by
  unfold floorQuotient
  split
  · next zero => simp [zero]
  · next nonzero => simp [nonzero, eq_comm]

theorem faults_roundedCeiling (a b : Int) : (roundedCeiling a b).Faults fun fault =>
    if b = 0 then fault = .quotientByZero
    else (roundedQuotient a b).isInfinite = true ∧ fault = .quotientSize := by
  unfold roundedCeiling
  refine (Faults.ite (fun _ => faults_fault _) fun _ =>
    Faults.ite (fun _ => faults_fault _) fun _ => faultless_ok _).congr fun fault => ?_
  simp [roundedQuotient]

theorem faults_windowExtent (size kernel stride : Int) (padding : Padding) :
    (windowExtent size kernel stride padding).Faults (WindowHazard size kernel stride padding) := by
  unfold windowExtent WindowHazard
  split
  · next open_ => exact (faultless_ok _).congr fun fault => by simp [open_]
  · next known =>
    cases padding with
    | same => exact (faults_roundedCeiling size stride).congr fun fault => by simp [known]
    | valid =>
      refine ((faults_floorQuotient _ _).bind fun quotient _ =>
        Faults.ite (fun _ => faults_layer _) fun _ => faultless_ok _).congr fun fault => ?_
      simp only [floorQuotient_eq_ok]
      by_cases zero : stride = 0 <;> simp [known, zero]

/-- The faults of the windows on both axes, the height first. -/
def WindowsHazard (images : Images) (kernel strides : Int × Int) (padding : Padding)
    (fault : Fault) : Prop :=
  WindowHazard images.height kernel.1 strides.1 padding fault ∨
    (∃ height, windowExtent images.height kernel.1 strides.1 padding = .ok height) ∧
      WindowHazard images.width kernel.2 strides.2 padding fault

/-- A shape that is no batch of images, in words that cannot be shown. -/
def RankHazard (kind : LayerKind) (shape : Shape) (fault : Fault) : Prop :=
  shape.length ≠ 4 ∧ (LayerDefect.rank kind 4 shape).Unshown fault

theorem faults_ofShape (kind : LayerKind) (shape : Shape) :
    (Images.ofShape kind shape).Faults (RankHazard kind shape) := by
  unfold Images.ofShape
  split
  · exact (faultless_ok _).congr fun fault => by simp [RankHazard]
  · next other =>
    refine (faults_layer _).congr fun fault => (and_iff_right fun rank => ?_).symm
    match shape, rank with
    | [batch, channels, height, width], _ => exact other batch channels height width rfl

namespace Layer

theorem faults_windows (images : Images) (kernel strides : Int × Int) (padding : Padding) :
    (windows images kernel strides padding).Faults (WindowsHazard images kernel strides padding) := by
  unfold windows
  refine ((faults_windowExtent _ _ _ _).bind fun height _ =>
    (faults_windowExtent _ _ _ _).before fun width _ => faultless_ok _).congr fun fault => ?_
  simp [WindowsHazard]

/-- The faults of a depthwise convolution over a known number of channels: there are none of them, or
words that cannot be shown. -/
def DepthwiseHazard (channels filters : Int) (fault : Fault) : Prop :=
  channels ≠ unknown ∧
    if channels = 0 then fault = .remainderByZero
    else Int.fmod filters channels ≠ 0 ∧
      (LayerDefect.coverChannels .depthwiseConv2d filters channels).Unshown fault

/-- The faults of a standard convolution over a known number of channels. -/
def StandardHazard (channels depth : Int) (fault : Fault) : Prop :=
  (channels ≠ unknown ∧ channels ≠ depth) ∧
    (LayerDefect.inputChannels .conv2d depth channels).Unshown fault

/-- The faults of a convolution before its windows: of its images, and then of its weights. -/
def PlanHazard (kind : LayerKind) (shape : Shape) (weights : Tensor) (fault : Fault) : Prop :=
  RankHazard kind shape fault ∨ ∃ images, Images.ofShape kind shape = .ok images ∧
    match weights.shape with
    | [_, second, _, _] =>
      if kind = .depthwiseConv2d then DepthwiseHazard images.channels second fault
      else StandardHazard images.channels second fault
    | extents => (LayerDefect.weightsRank kind extents).Unshown fault

theorem faults_depthwiseChannels (channels filters : Int) :
    (depthwiseChannels channels filters).Faults (DepthwiseHazard channels filters) := by
  unfold depthwiseChannels DepthwiseHazard
  split
  · next open_ => exact (faultless_ok _).congr fun fault => by simp [open_]
  · next known =>
    unfold divides
    split
    · next zero =>
      refine ((faults_fault _).before fun _ failed => absurd failed fault_ne_ok).congr fun fault => ?_
      simp [known]
    · next nonzero =>
      have covers : (if decide (Int.fmod filters channels = 0) then return filters
          else .layer (.coverChannels .depthwiseConv2d filters channels) : Attempt Int).Faults
            fun fault => Int.fmod filters channels ≠ 0 ∧
              (LayerDefect.coverChannels .depthwiseConv2d filters channels).Unshown fault :=
        (Faults.ite (fun _ => faultless_ok _) fun _ => faults_layer _).congr fun fault => by simp
      exact covers.congr fun fault => by simp [known]

theorem faults_standardChannels (channels filters depth : Int) :
    (standardChannels channels filters depth).Faults (StandardHazard channels depth) :=
  (Faults.ite (fun _ => faults_layer _) fun _ => faultless_ok _).congr fun fault => by
    simp [StandardHazard]

theorem faults_convolutionPlan (kind : LayerKind) (shape : Shape) (weights : Tensor) :
    (convolutionPlan kind shape weights).Faults (PlanHazard kind shape weights) := by
  unfold convolutionPlan PlanHazard
  refine (faults_ofShape kind shape).bind fun images _ => ?_
  generalize weights.shape = extents
  match extents with
  | [first, second, height, width] =>
    dsimp only
    split
    · exact (faults_depthwiseChannels images.channels second).before fun _ _ => faultless_ok _
    · exact (faults_standardChannels images.channels first second).before fun _ _ => faultless_ok _
  | [] | [_] | [_, _] | [_, _, _] | _ :: _ :: _ :: _ :: _ :: _ => exact faults_layer _

/-- The faults of a convolution: before its windows, or of its windows. -/
def ConvolutionHazard (kind : LayerKind) (shape : Shape) (weights : Tensor) (padding : Padding)
    (strides : Int × Int) (fault : Fault) : Prop :=
  PlanHazard kind shape weights fault ∨ ∃ images channels kernel,
    convolutionPlan kind shape weights = .ok (images, channels, kernel) ∧
      WindowsHazard images kernel strides padding fault

theorem faults_convolution (kind : LayerKind) (body : Convolution → LayerBody) (shape : Shape)
    (weights : Tensor) (bias : Option Tensor) (padding : Padding) (strides : Int × Int) :
    (convolution kind body shape weights bias padding strides).Faults
      (ConvolutionHazard kind shape weights padding strides) := by
  unfold convolution
  refine ((faults_convolutionPlan kind shape weights).bind fun plan _ =>
    (faults_windows _ _ _ _).before fun sizes _ => faultless_ok _).congr fun fault => ?_
  simp [ConvolutionHazard]

/-- The faults of a pooling: words that cannot be shown, or those of its windows. -/
def PoolingHazard (shape : Shape) (padding : Padding) (kernel strides : Int × Int) (fault : Fault) :
    Prop :=
  RankHazard .averagePool2d shape fault ∨ ∃ images,
    Images.ofShape .averagePool2d shape = .ok images ∧
      WindowsHazard images kernel strides padding fault

theorem faults_averagePool2d (shape : Shape) (padding : Padding) (kernel strides : Int × Int) :
    (averagePool2d shape padding kernel strides).Faults (PoolingHazard shape padding kernel strides) := by
  unfold averagePool2d
  exact (faults_ofShape _ _).bind fun images _ =>
    (faults_windows _ _ _ _).before fun sizes _ => faultless_ok _

/-- A layer of stride zero over an axis of known extent divides by zero. -/
example : PoolingHazard [1, 1, 4, 4] .valid (2, 2) (0, 0) .floorByZero :=
  .inr ⟨⟨1, 1, 4, 4⟩, rfl, .inl ⟨by decide, rfl⟩⟩

/-- The faults of a sum: words about shapes that cannot be aligned, or cannot be broadcast. -/
def SumHazard (a b : Shape) (axis : Int) (fault : Fault) : Prop :=
  (b.length < a.length ∧ 0 ≤ axis ∧ (a.length : Int) < axis + b.length) ∧
      (LayerDefect.alignment b a axis).Unshown fault ∨
    ∃ aligned, alignAt a b axis = .ok aligned ∧
      let rank := max a.length aligned.length
      broadcastAligned? (padLeading rank a) (padLeading rank aligned) = none ∧
        (LayerDefect.broadcast (padLeading rank a) (padLeading rank aligned)).Unshown fault

theorem faults_alignAt (a b : Shape) (axis : Int) : (alignAt a b axis).Faults fun fault =>
    (b.length < a.length ∧ 0 ≤ axis ∧ (a.length : Int) < axis + b.length) ∧
      (LayerDefect.alignment b a axis).Unshown fault := by
  unfold alignAt
  refine (Faults.ite (fun _ => Faults.ite (fun _ => faults_layer _) fun _ => faultless_ok _)
    fun _ => faultless_ok _).congr fun fault => ?_
  by_cases lower : b.length < a.length ∧ 0 ≤ axis <;> simp [lower, ← and_assoc]

theorem faults_add (a b : Shape) (axis : Int) : (add a b axis).Faults (SumHazard a b axis) := by
  unfold add broadcast SumHazard
  refine Faults.before ((faults_alignAt a b axis).bind fun aligned _ => ?_) fun sum _ => faultless_ok _
  dsimp only
  split
  · next sum found => exact (faultless_ok _).congr fun fault => by simp [found]
  · next none => exact (faults_layer _).congr fun fault => by simp [none]

/-- The faults of a normalization: words about statistics that differ, or that do not fit the channels. -/
def NormalizationHazard (shape : Shape) (statistics : Statistics) (fault : Fault) : Prop :=
  let sizes := ([statistics.scale.count, statistics.offset.count, statistics.mean.count,
    statistics.variance.count].mergeSort (· ≤ ·)).eraseDups
  sizes.length ≠ 1 ∧ (LayerDefect.statisticsDiffer .batchNormalization sizes).Unshown fault ∨
    ∃ size, statisticsSize statistics = .ok size ∧
      match shape with
      | _ :: channels :: _ => (channels ≠ unknown ∧ channels ≠ size) ∧
        (LayerDefect.statisticsCount .batchNormalization size channels).Unshown fault
      | shape => (LayerDefect.rankAtLeast .batchNormalization 2 shape).Unshown fault

theorem faults_batchNormalization (shape : Shape) (statistics : Statistics) (epsilon : Binary64) :
    (batchNormalization shape statistics epsilon).Faults (NormalizationHazard shape statistics) := by
  unfold batchNormalization NormalizationHazard
  refine Faults.bind ?_ fun size _ => Faults.before ?_ fun _ _ => faultless_ok _
  · unfold statisticsSize
    dsimp only
    split
    · next size same => exact (faultless_ok _).congr fun fault => by simp [same]
    · next several =>
      refine (faults_layer _).congr fun fault => (and_iff_right fun one => ?_).symm
      obtain ⟨size, same⟩ := List.length_eq_one_iff.mp one
      exact several size same
  · unfold checkStatistics
    match shape with
    | _ :: channels :: _ =>
      exact (Faults.ite (fun _ => faults_layer _) fun _ => faultless_ok _).congr fun fault => by simp
    | [] | [_] => exact faults_layer _

/-- The faults of taking over the extents of a target in order: words about the first one that stands for
an extent that is missing, or for none. -/
def CopyHazard (input : Shape) (fault : Fault) : Nat → Shape → Prop
  | _, [] => False
  | position, extent :: target =>
    if extent = 0 then
      if position < input.length then CopyHazard input fault (position + 1) target
      else (LayerDefect.copiedExtent position input).Unshown fault
    else if extent < unknown then (LayerDefect.targetExtent extent).Unshown fault
    else CopyHazard input fault (position + 1) target

/-- The faults of a reshape: of the extents of its target, and words about extents that do not fit. -/
def TargetHazard (shape target : Shape) (fault : Fault) : Prop :=
  CopyHazard shape fault 0 target ∨ ∃ extents, copyExtents shape 0 target = .ok extents ∧
    let unknowns := List.count unknown target
    let total := Shape.count shape
    let known := Shape.count (extents.filter (· ≠ unknown))
    if 1 < unknowns then (LayerDefect.severalUnknown target).Unshown fault
    else (unknown ∉ shape ∧ if unknowns = 1 then known = 0 ∨ Int.fmod total known ≠ 0 else known ≠ total) ∧
      (LayerDefect.elementCount shape target).Unshown fault

theorem faults_copyExtents (input : Shape) (position : Nat) (target : Shape) :
    (copyExtents input position target).Faults fun fault => CopyHazard input fault position target := by
  induction target generalizing position with
  | nil => exact faultless_ok _
  | cons extent target ih =>
    have later : ∀ here : Int, Faults (do return here :: (← copyExtents input (position + 1) target))
        fun fault => CopyHazard input fault (position + 1) target :=
      fun here => (ih (position + 1)).before fun rest _ => faultless_ok _
    unfold copyExtents CopyHazard
    dsimp only
    split
    · split
      · next found =>
        have inside := (List.getElem?_eq_some_iff.mp found).1
        exact (later _).congr fun fault => by rw [if_pos inside]
      · next missing =>
        have outside := Nat.not_lt.mpr (List.getElem?_eq_none_iff.mp missing)
        refine ((faults_layer _).before fun here refused => absurd refused layer_ne_ok).congr
          fun fault => by rw [if_neg outside]
    · split
      · exact (faults_layer _).before fun here refused => absurd refused layer_ne_ok
      · exact later _

theorem faults_reshape (shape target : Shape) :
    (reshape shape target).Faults (TargetHazard shape target) := by
  unfold reshape reshapeExtents TargetHazard
  refine Faults.before ((faults_copyExtents shape 0 target).bind fun extents _ => ?_)
    fun result _ => faultless_ok _
  dsimp only
  refine Faults.ite (fun _ => faults_layer _) fun _ => ?_
  split
  · next open_ => exact (faultless_ok _).congr fun fault => by simp [open_]
  · next known =>
    refine (Faults.ite (fun _ => Faults.ite (fun _ => faults_layer _) fun _ => faultless_ok _) fun _ =>
      Faults.ite (fun _ => faults_layer _) fun _ => faultless_ok _).congr fun fault => ?_
    split <;> simp [known]

/-- Folding blocks of one row and column never fails, so only the rank can be refused. -/
theorem faults_spaceToBatch (shape : Shape) (first second : Int × Int) :
    (spaceToBatch shape (1, 1) [first, second]).Faults (RankHazard .spaceToBatch shape) := by
  have folded : ∀ (size : Int) (padding : Int × Int), ∃ extent, foldedExtent size 1 padding = .ok extent := by
    intro size padding
    unfold foldedExtent divides floorQuotient
    split
    · exact ⟨_, rfl⟩
    · exact ⟨size + padding.1 + padding.2, by simp [Int.fmod_one, Bind.bind, Except.bind]⟩
  unfold spaceToBatch
  refine (faults_ofShape _ shape).before fun images _ => ?_
  obtain ⟨height, down⟩ := folded images.height first
  obtain ⟨width, across⟩ := folded images.width second
  have extents : foldedExtents [images.height, images.width] [1, 1] [first, second] =
      .ok [height, width] := by
    simp only [foldedExtents, down, across]
    rfl
  rw [extents]
  exact faultless_ok _

end Layer

end LayerGraph
