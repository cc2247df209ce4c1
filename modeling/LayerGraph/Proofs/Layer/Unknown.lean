import LayerGraph.Layer.Recipe
import LayerGraph.Proofs.Failure.Run
import Mathlib.Data.List.Forall2

/-! Layers over shapes with unknown extents.

A shape with unknown extents stands for all shapes of its rank that have its known extents. Whatever is inferred from
it holds for each of them: if a layer can be built over one of these shapes, it can be built before the extents are
known, and what is known of its ports then stays true.
-/

set_option autoImplicit false

namespace LayerGraph

open Number

namespace Shape

/-- An unknown extent stands for every extent, a known one for itself. -/
def StandsFor (extent exact : Int) : Prop := extent = unknown ∨ exact = extent

/-- A shape admits those of its rank that have its known extents. -/
def Admits : Shape → Shape → Prop := List.Forall₂ StandsFor

section
variable {extent exact : Int} {shape filled : Shape}

theorem StandsFor.refl (extent : Int) : StandsFor extent extent := .inr rfl

theorem StandsFor.unknown (exact : Int) : StandsFor LayerGraph.unknown exact := .inl rfl

/-- A known extent is that of all that it stands for. -/
theorem StandsFor.eq (stands : StandsFor extent exact) (known : extent ≠ LayerGraph.unknown) : exact = extent :=
  stands.resolve_left known

theorem Admits.refl (shape : Shape) : shape.Admits shape := List.forall₂_same.mpr fun extent _ => .refl extent

theorem Admits.length_eq (admits : shape.Admits filled) : filled.length = shape.length :=
  (List.Forall₂.length_eq admits).symm

/-- A shape without unknown extents admits only itself. -/
theorem Admits.eq (admits : shape.Admits filled) (known : LayerGraph.unknown ∉ shape) : filled = shape := by
  induction admits with
  | nil => rfl
  | cons stands _ ih =>
    rw [List.mem_cons, not_or] at known
    rw [stands.eq (Ne.symm known.1), ih known.2]

theorem Admits.append {back filledBack : Shape} (front : shape.Admits filled) (rest : back.Admits filledBack) :
    Admits (shape ++ back) (filled ++ filledBack) :=
  List.rel_append front rest

/-- At every position that a shape has, those that it admits have an extent that it stands for. -/
theorem Admits.getElem? (admits : shape.Admits filled) (position : Nat) :
    Option.Rel StandsFor shape[position]? filled[position]? := by
  induction admits generalizing position with
  | nil => exact .none
  | cons stands _ ih =>
    cases position with
    | zero => exact .some stands
    | succ position => exact ih position

end

end Shape

namespace Attempt

variable {α β γ δ : Type}

/-- An attempt anticipates another one: it succeeds whenever that does, with a result that is related. -/
def Anticipates (related : β → α → Prop) (early : Attempt β) (late : Attempt α) : Prop :=
  ∀ value, late = .ok value → ∃ other, early = .ok other ∧ related other value

section
variable {related : β → α → Prop} {early : Attempt β} {late : Attempt α}

theorem anticipates_ok {other : β} {value : α} (relation : related other value) :
    Anticipates related (.ok other) (.ok value) := by
  intro _ succeeded
  cases succeeded
  exact ⟨other, rfl, relation⟩

/-- What a failure would have to be anticipated by does not matter. -/
theorem anticipates_error {failure : Failure} : Anticipates related early (.error failure) := nofun

theorem anticipates_layer {defect : LayerDefect} : Anticipates related early (.layer defect) :=
  fun _ succeeded => absurd succeeded layer_ne_ok

theorem anticipates_self (attempt : Attempt α) : Anticipates Eq attempt attempt :=
  fun value succeeded => ⟨value, succeeded, rfl⟩

theorem Anticipates.mono {weaker : β → α → Prop} (anticipates : Anticipates related early late)
    (implies : ∀ other value, related other value → weaker other value) : Anticipates weaker early late := by
  intro value succeeded
  obtain ⟨other, same, relation⟩ := anticipates value succeeded
  exact ⟨other, same, implies _ _ relation⟩

theorem Anticipates.ite {condition : Prop} [Decidable condition] {early' : Attempt β} {late' : Attempt α}
    (yes : condition → Anticipates related early late) (no : ¬ condition → Anticipates related early' late') :
    Anticipates related (if condition then early else early') (if condition then late else late') := by
  split
  · next holds => exact yes holds
  · next fails => exact no fails

theorem Anticipates.bind {following : δ → γ → Prop} {next : β → Attempt δ} {then_ : α → Attempt γ}
    (anticipates : Anticipates related early late)
    (rest : ∀ other value, related other value → Anticipates following (next other) (then_ value)) :
    Anticipates following (early >>= next) (late >>= then_) := by
  intro value succeeded
  obtain ⟨middle, first, last⟩ := bind_eq_ok.mp succeeded
  obtain ⟨other, same, relation⟩ := anticipates middle first
  obtain ⟨result, ends, follows⟩ := rest other middle relation value last
  exact ⟨result, bind_eq_ok.mpr ⟨other, same, ends⟩, follows⟩

/-- What does not depend on the shapes is the same early and late. -/
theorem anticipates_bind {attempt : Attempt α} {following : δ → γ → Prop} {next : α → Attempt δ} {then_ : α → Attempt γ}
    (rest : ∀ result, Anticipates following (next result) (then_ result)) :
    Anticipates following (attempt >>= next) (attempt >>= then_) :=
  (anticipates_self attempt).bind fun other _ same => same ▸ rest other

end

end Attempt

open Attempt Shape

section
variable {size exactSize : Int}

theorem anticipates_windowExtent (stands : StandsFor size exactSize) (kernel stride : Int) (padding : Padding) :
    Anticipates StandsFor (windowExtent size kernel stride padding) (windowExtent exactSize kernel stride padding) := by
  by_cases known : size = unknown
  · intro extent _
    exact ⟨unknown, if_pos known, .unknown extent⟩
  · rw [stands.eq known]
    exact (anticipates_self _).mono fun _ _ same => same ▸ .refl _

theorem anticipates_foldedExtent (stands : StandsFor size exactSize) (block : Int) (padding : Int × Int) :
    Anticipates StandsFor (foldedExtent size block padding) (foldedExtent exactSize block padding) := by
  by_cases known : size = unknown
  · intro extent _
    exact ⟨unknown, if_pos known, .unknown extent⟩
  · rw [stands.eq known]
    exact (anticipates_self _).mono fun _ _ same => same ▸ .refl _

theorem anticipates_foldedExtents {sizes exactSizes : Shape} (admits : sizes.Admits exactSizes) (blocks : List Int)
    (paddings : List (Int × Int)) :
    Anticipates Admits (foldedExtents sizes blocks paddings) (foldedExtents exactSizes blocks paddings) := by
  induction admits generalizing blocks paddings with
  | nil => exact anticipates_ok .nil
  | cons stands _ ih =>
    match blocks, paddings with
    | block :: blocks, padding :: paddings =>
      exact (anticipates_foldedExtent stands block padding).bind fun _ _ here =>
        (ih blocks paddings).bind fun _ _ later => anticipates_ok (.cons here later)
    | [], _ | _ :: _, [] => exact anticipates_ok .nil

end

section
variable {a b exactA exactB : Shape}

/-- Where one of two extents is unknown, the other one decides, unless it can be stretched. -/
theorem exists_broadcastExtent? {x y exactX exactY exact : Int} (first : StandsFor x exactX)
    (second : StandsFor y exactY)
    (fits : broadcastExtent? exactX exactY = some exact) :
    ∃ extent, broadcastExtent? x y = some extent ∧ StandsFor extent exact := by
  unfold broadcastExtent? StandsFor unknown at *
  rcases first with rfl | rfl <;> rcases second with rfl | rfl <;> grind

theorem exists_broadcastAligned? (first : a.Admits exactA) (second : b.Admits exactB) {exact : Shape}
    (fits : broadcastAligned? exactA exactB = some exact) :
    ∃ sum, broadcastAligned? a b = some sum ∧ sum.Admits exact := by
  induction first generalizing b exactB exact with
  | nil =>
    cases fits
    exact ⟨[], rfl, .nil⟩
  | cons here _ ih =>
    cases second with
    | nil =>
      cases fits
      exact ⟨[], rfl, .nil⟩
    | cons there rest =>
      obtain ⟨exactExtent, one, fits⟩ := Option.bind_eq_some_iff.mp fits
      obtain ⟨exactRest, others, fits⟩ := Option.bind_eq_some_iff.mp fits
      cases fits
      obtain ⟨extent, same, stands⟩ := exists_broadcastExtent? here there one
      obtain ⟨sum, follow, admits⟩ := ih rest others
      exact ⟨extent :: sum, by simp [broadcastAligned?, same, follow], .cons stands admits⟩

theorem Shape.Admits.padLeading (admits : a.Admits exactA) (rank : Nat) :
    Admits (padLeading rank a) (LayerGraph.padLeading rank exactA) := by
  unfold LayerGraph.padLeading
  rw [admits.length_eq]
  exact (Admits.refl _).append admits

/-- The place of the second shape hangs on the ranks alone. -/
theorem anticipates_alignAt (first : a.Admits exactA) (second : b.Admits exactB) (axis : Int) :
    Anticipates Admits (alignAt a b axis) (alignAt exactA exactB axis) := by
  unfold alignAt
  rw [first.length_eq, second.length_eq]
  split
  · split
    · exact anticipates_layer
    · exact anticipates_ok (((Admits.refl _).append second).append (.refl _))
  · exact anticipates_ok second

theorem anticipates_broadcast (first : a.Admits exactA) (second : b.Admits exactB) (axis : Int) :
    Anticipates Admits (broadcast a b axis) (broadcast exactA exactB axis) := by
  refine (anticipates_alignAt first second axis).bind fun b exactB second => ?_
  dsimp only
  rw [first.length_eq, second.length_eq]
  cases fits : broadcastAligned? (padLeading (max a.length b.length) exactA)
      (padLeading (max a.length b.length) exactB) with
  | none => exact anticipates_layer
  | some exact =>
    obtain ⟨sum, same, admits⟩ := exists_broadcastAligned? (first.padLeading _) (second.padLeading _) fits
    rw [same]
    exact anticipates_ok admits

end

section
variable {input exactInput target : Shape}

theorem anticipates_copyExtents (admits : input.Admits exactInput) (position : Nat) (target : Shape) :
    Anticipates Admits (copyExtents input position target) (copyExtents exactInput position target) := by
  induction target generalizing position with
  | nil => exact anticipates_ok .nil
  | cons wanted target ih =>
    have later : ∀ here exact, StandsFor here exact →
        Anticipates Admits (do return here :: (← copyExtents input (position + 1) target))
          (do return exact :: (← copyExtents exactInput (position + 1) target)) :=
      fun here exact stands => (ih (position + 1)).bind fun _ _ rest => anticipates_ok (.cons stands rest)
    unfold copyExtents
    dsimp only
    by_cases copies : wanted = 0
    · rw [if_pos copies, if_pos copies]
      have copied := admits.getElem? position
      generalize input[position]? = here at copied ⊢
      generalize exactInput[position]? = exact at copied ⊢
      cases copied with
      | none => exact fun _ succeeded => absurd (bind_eq_ok.mp succeeded).choose_spec.1 layer_ne_ok
      | some stands => exact (anticipates_ok stands).bind later
    · rw [if_neg copies, if_neg copies]
      refine Anticipates.ite (fun _ => ?_) fun _ => ?_
      · exact fun _ succeeded => absurd (bind_eq_ok.mp succeeded).choose_spec.1 layer_ne_ok
      · exact (anticipates_ok (.refl _)).bind later

/-- An extent of the target that is to be inferred stays unknown while the others are copied. -/
theorem unknown_of_copyExtents {position : Nat} {extents : Shape}
    (copied : copyExtents input position target = .ok extents) :
    List.Forall₂ (fun wanted extent => wanted = unknown → extent = unknown) target extents := by
  induction target generalizing position extents with
  | nil =>
    cases copied
    exact .nil
  | cons wanted target ih =>
    unfold copyExtents at copied
    dsimp only at copied
    have rest : ∀ here : Int, (do return here :: (← copyExtents input (position + 1) target)) = .ok extents →
        ∃ later, extents = here :: later ∧ copyExtents input (position + 1) target = .ok later := by
      intro here copied
      obtain ⟨later, copies, same⟩ := bind_eq_ok.mp copied
      exact ⟨later, (Except.ok.inj same).symm, copies⟩
    -- An unknown extent is taken over as it stands, before any is looked up.
    by_cases open_ : wanted = unknown
    · rw [if_neg (by rw [open_]; decide), if_neg (by rw [open_]; decide)] at copied
      obtain ⟨later, rfl, copies⟩ := rest wanted copied
      exact .cons id (ih copies)
    · have split : ∃ here, (do return here :: (← copyExtents input (position + 1) target)) = .ok extents := by
        split at copied
        · split at copied
          · exact ⟨_, copied⟩
          · exact absurd (bind_eq_ok.mp copied).choose_spec.1 layer_ne_ok
        · split at copied
          · exact absurd (bind_eq_ok.mp copied).choose_spec.1 layer_ne_ok
          · exact ⟨_, copied⟩
      obtain ⟨here, copied⟩ := split
      obtain ⟨later, rfl, copies⟩ := rest here copied
      exact .cons (fun same => absurd same open_) (ih copies)

/-- Extents that are still to be inferred stand for whatever is inferred. -/
theorem admits_inferred {extents exact : Shape} (value : Int)
    (open_ : List.Forall₂ (fun wanted extent => wanted = unknown → extent = unknown) target extents)
    (admits : extents.Admits exact) :
    extents.Admits ((target.zip exact).map fun (wanted, extent) => if wanted = unknown then value else extent) := by
  induction open_ generalizing exact with
  | nil =>
    cases admits
    exact .nil
  | cons here _ ih =>
    cases admits with
    | cons stands rest =>
      refine .cons ?_ (ih rest)
      dsimp only
      split
      · next inferred =>
        rw [here inferred]
        exact .unknown value
      · exact stands

/-- With unknown extents nothing is inferred yet, and the element counts are not compared. -/
theorem anticipates_reshapeExtents (admits : input.Admits exactInput) (target : Shape) :
    Anticipates Admits (reshapeExtents input target) (reshapeExtents exactInput target) := by
  by_cases open_ : unknown ∈ input
  · intro exact reshaped
    obtain ⟨exactExtents, copied, reshaped⟩ := bind_eq_ok.mp reshaped
    obtain ⟨extents, early, stand⟩ := anticipates_copyExtents admits 0 target _ copied
    have inferred := unknown_of_copyExtents early
    dsimp only at reshaped
    split at reshaped
    · exact absurd reshaped layer_ne_ok
    · next single =>
      refine ⟨extents, bind_eq_ok.mpr ⟨extents, early, ?_⟩, ?_⟩
      · dsimp only
        rw [if_neg single, if_pos open_]
        rfl
      · -- The element counts are compared only now, and they can fill in but one extent.
        split at reshaped
        · cases reshaped
          exact stand
        · split at reshaped
          · split at reshaped
            · exact absurd reshaped layer_ne_ok
            · cases reshaped
              exact admits_inferred _ inferred stand
          · split at reshaped
            · exact absurd reshaped layer_ne_ok
            · cases reshaped
              exact stand
  · rw [admits.eq open_]
    exact (anticipates_self _).mono fun _ _ same => same ▸ .refl _

end

/-- The extents of images stand for those of others. -/
structure Images.Admit (images exact : Images) : Prop where
  batch : StandsFor images.batch exact.batch
  channels : StandsFor images.channels exact.channels
  height : StandsFor images.height exact.height
  width : StandsFor images.width exact.width

/-- A layer is the same as another one but for shapes that its own ones admit. -/
structure Layer.Admits (layer exact : Layer) : Prop where
  body : exact.body = layer.body
  inputs : List.Forall₂ (fun port filled => filled.name = port.name ∧ port.shape.Admits filled.shape)
    layer.inputs exact.inputs
  outputs : List.Forall₂ (fun port filled => filled.name = port.name ∧ port.shape.Admits filled.shape)
    layer.outputs exact.outputs

section
variable {shape filled : Shape}

theorem anticipates_ofShape (admits : shape.Admits filled) (kind : LayerKind) :
    Anticipates Images.Admit (Images.ofShape kind shape) (Images.ofShape kind filled) := by
  have rank := admits.length_eq
  intro exact read
  unfold Images.ofShape at read
  split at read
  · cases read
    obtain _ | ⟨batch, _ | ⟨channels, _ | ⟨height, _ | ⟨width, ⟨⟩⟩⟩⟩⟩ := admits
    exact ⟨_, rfl, batch, channels, height, width⟩
  · exact absurd read layer_ne_ok

namespace Layer

theorem anticipates_windows {images exact : Images} (matching : images.Admit exact) (kernel strides : Int × Int)
    (padding : Padding) :
    Anticipates (fun (extents : Int × Int) found => StandsFor extents.1 found.1 ∧ StandsFor extents.2 found.2)
      (windows images kernel strides padding) (windows exact kernel strides padding) :=
  (anticipates_windowExtent matching.height _ _ _).bind fun _ _ height =>
    (anticipates_windowExtent matching.width _ _ _).bind fun _ _ width => anticipates_ok ⟨height, width⟩

/-- Unknown channels are not held against the weights. -/
theorem anticipates_standardChannels {channels exact : Int} (stands : StandsFor channels exact) (filters depth : Int) :
    Anticipates Eq (standardChannels channels filters depth) (standardChannels exact filters depth) := by
  unfold standardChannels
  by_cases known : channels = unknown
  · rw [if_neg (not_and.mpr fun other => absurd known other)]
    split
    · exact anticipates_layer
    · exact anticipates_ok rfl
  · rw [stands.eq known]
    exact anticipates_self _

theorem anticipates_depthwiseChannels {channels exact : Int} (stands : StandsFor channels exact) (filters : Int) :
    Anticipates Eq (depthwiseChannels channels filters) (depthwiseChannels exact filters) := by
  by_cases known : channels = unknown
  · intro found succeeded
    refine ⟨filters, if_pos known, ?_⟩
    unfold depthwiseChannels at succeeded
    split at succeeded
    · exact Except.ok.inj succeeded
    · obtain ⟨whole, _, succeeded⟩ := bind_eq_ok.mp succeeded
      split at succeeded
      · exact Except.ok.inj succeeded
      · exact absurd succeeded layer_ne_ok
  · rw [stands.eq known]
    exact anticipates_self _

theorem anticipates_convolutionPlan (admits : shape.Admits filled) (kind : LayerKind) (weights : Tensor) :
    Anticipates (fun plan exact => plan.1.Admit exact.1 ∧ plan.2 = exact.2)
      (convolutionPlan kind shape weights) (convolutionPlan kind filled weights) := by
  refine (anticipates_ofShape admits kind).bind fun images exact matching => ?_
  split
  · next first second height width _ =>
    have finish : ∀ found same : Int, found = same → Anticipates (fun (plan : Images × Int × (Int × Int)) other =>
        plan.1.Admit other.1 ∧ plan.2 = other.2) (pure (images, found, (height, width)))
          (pure (exact, same, (height, width))) :=
      fun found same equal => anticipates_ok ⟨matching, by rw [equal]⟩
    exact Anticipates.ite (fun _ => (anticipates_depthwiseChannels matching.channels second).bind finish) fun _ =>
      (anticipates_standardChannels matching.channels first second).bind finish
  · exact anticipates_layer

theorem admits_unary {body : LayerBody} {output filledOutput : Shape} (enters : shape.Admits filled)
    (leaves : output.Admits filledOutput) : (unary body shape output).Admits (unary body filled filledOutput) where
  body := rfl
  inputs := .cons ⟨rfl, enters⟩ .nil
  outputs := .cons ⟨rfl, leaves⟩ .nil

theorem anticipates_convolution (admits : shape.Admits filled) (kind : LayerKind) (body : Convolution → LayerBody)
    (weights : Tensor) (bias : Option Tensor) (padding : Padding) (strides : Int × Int) :
    Anticipates Admits (convolution kind body shape weights bias padding strides)
      (convolution kind body filled weights bias padding strides) := by
  refine (anticipates_convolutionPlan admits kind weights).bind ?_
  rintro ⟨images, channels, kernel⟩ ⟨exact, _, _⟩ ⟨matching, ⟨⟩⟩
  refine (anticipates_windows matching kernel strides padding).bind fun _ _ extents => ?_
  exact anticipates_ok (admits_unary admits
    (.cons matching.batch (.cons (.refl channels) (.cons extents.1 (.cons extents.2 .nil)))))

theorem anticipates_add {a b exactA exactB : Shape} (first : a.Admits exactA) (second : b.Admits exactB) (axis : Int) :
    Anticipates Admits (add a b axis) (add exactA exactB axis) :=
  (anticipates_broadcast first second axis).bind fun _ _ sum => anticipates_ok
    ⟨rfl, .cons ⟨rfl, first⟩ (.cons ⟨rfl, second⟩ .nil), .cons ⟨rfl, sum⟩ .nil⟩

theorem anticipates_checkStatistics (admits : shape.Admits filled) (size : Nat) :
    Anticipates Eq (checkStatistics shape size) (checkStatistics filled size) := by
  cases admits with
  | nil => exact anticipates_self _
  | cons _ rest =>
    cases rest with
    | nil => exact anticipates_layer
    | @cons channels exact _ _ stands _ =>
      unfold checkStatistics
      dsimp only
      by_cases known : channels = unknown
      · rw [if_neg (not_and.mpr fun other => absurd known other)]
        split
        · exact anticipates_layer
        · exact anticipates_ok rfl
      · rw [stands.eq known]
        exact anticipates_self _

theorem anticipates_batchNormalization (admits : shape.Admits filled) (statistics : Statistics) (epsilon : Binary64) :
    Anticipates Admits (batchNormalization shape statistics epsilon) (batchNormalization filled statistics epsilon) :=
  anticipates_bind fun size => (anticipates_checkStatistics admits size).bind fun _ _ _ =>
    anticipates_ok (admits_unary admits admits)

theorem anticipates_averagePool2d (admits : shape.Admits filled) (padding : Padding) (kernel strides : Int × Int) :
    Anticipates Admits (averagePool2d shape padding kernel strides) (averagePool2d filled padding kernel strides) :=
  (anticipates_ofShape admits _).bind fun _ _ matching => (anticipates_windows matching _ _ _).bind fun _ _ extents =>
    anticipates_ok (admits_unary admits
      (.cons matching.batch (.cons matching.channels (.cons extents.1 (.cons extents.2 .nil)))))

theorem anticipates_reshape (admits : shape.Admits filled) (target : Shape) :
    Anticipates Admits (reshape shape target) (reshape filled target) :=
  (anticipates_reshapeExtents admits target).bind fun _ _ extents => anticipates_ok (admits_unary admits extents)

theorem anticipates_spaceToBatch (admits : shape.Admits filled) (block : Int × Int) (paddings : List (Int × Int)) :
    Anticipates Admits (spaceToBatch shape block paddings) (spaceToBatch filled block paddings) := by
  refine (anticipates_ofShape admits _).bind fun images exact matching => ?_
  have folded : StandsFor (if images.batch = unknown then unknown else images.batch * (block.1 * block.2))
      (if exact.batch = unknown then unknown else exact.batch * (block.1 * block.2)) := by
    by_cases known : images.batch = unknown
    · rw [if_pos known]
      exact .unknown _
    · rw [matching.batch.eq known]
      exact .refl _
  have spatial : Shape.Admits [images.height, images.width] [exact.height, exact.width] :=
    .cons matching.height (.cons matching.width .nil)
  refine (anticipates_foldedExtents spatial [block.1, block.2] paddings).bind fun extents found leaves => ?_
  -- Folding keeps the rank, so both shapes are built from two folded extents or neither is.
  have rank := leaves.length_eq
  split
  · obtain _ | ⟨height, _ | ⟨width, ⟨⟩⟩⟩ := leaves
    exact anticipates_ok
      (admits_unary admits (.cons folded (.cons matching.channels (.cons height (.cons width .nil)))))
  · next other =>
    split
    · next height width =>
      obtain _ | ⟨_, _ | ⟨_, ⟨⟩⟩⟩ := leaves
      exact (other _ _ rfl).elim
    · exact anticipates_error

end Layer

end

namespace Recipe

/-- The names under which a kind takes its shapes. -/
def shapeNames : LayerKind → List String
  | .add => ["a", "b"]
  | _ => ["shape"]

/-- A recipe is the same as another one but for shapes that its own ones matching. -/
structure Admits (recipe exact : Recipe) : Prop where
  kind : exact.kind = recipe.kind
  shapes : ∀ name ∈ shapeNames recipe.kind, ∃ shape filled, recipe.shape name = .ok shape ∧
    exact.shape name = .ok filled ∧ shape.Admits filled
  values : ∀ name ∉ shapeNames recipe.kind, exact.value? name = recipe.value? name
  tensors : exact.tensor? = recipe.tensor?

namespace Admits

variable {recipe exact : Recipe} (admits : recipe.Admits exact)
include admits

theorem anticipates_shape {name : String} (member : name ∈ shapeNames recipe.kind) :
    Anticipates Shape.Admits (recipe.shape name) (exact.shape name) := by
  obtain ⟨shape, filled, early, late, here⟩ := admits.shapes name member
  rw [early, late]
  exact anticipates_ok here

theorem value_eq {name : String} (other : name ∉ shapeNames recipe.kind) : exact.value name = recipe.value name := by
  unfold value
  rw [admits.values name other]

theorem tensor_eq (name : String) : exact.tensor name = recipe.tensor name := by
  unfold tensor
  rw [admits.tensors]

theorem axis_eq : exact.axis = recipe.axis := by
  unfold axis
  rw [admits.values "axis" (by unfold shapeNames; split <;> decide)]

theorem padding_eq : exact.padding = recipe.padding := by
  unfold padding
  rw [admits.values "padding" (by unfold shapeNames; split <;> decide)]

theorem anticipates_convolution {make : Shape → Tensor → Option Tensor → Padding → Int × Int → Attempt Layer}
    (single : shapeNames recipe.kind = ["shape"])
    (makes : ∀ shape filled weights bias padding strides, Shape.Admits shape filled →
      Anticipates Layer.Admits (make shape weights bias padding strides) (make filled weights bias padding strides)) :
    Anticipates Layer.Admits (recipe.convolution make) (exact.convolution make) := by
  unfold convolution
  rw [admits.padding_eq, admits.tensor_eq, admits.tensors, admits.kind, admits.value_eq (by rw [single]; decide)]
  refine anticipates_bind fun padding =>
    (admits.anticipates_shape (by rw [single]; decide)).bind fun shape filled here => ?_
  exact (Layer.anticipates_convolutionPlan here _ _).bind fun _ _ _ => anticipates_bind fun strides =>
    makes _ _ _ _ _ _ here

theorem anticipates_normalization (single : shapeNames recipe.kind = ["shape"]) :
    Anticipates Layer.Admits recipe.normalization exact.normalization := by
  unfold normalization
  rw [admits.tensor_eq, admits.tensor_eq, admits.tensor_eq, admits.tensor_eq, admits.value_eq (by rw [single]; decide)]
  refine anticipates_bind fun size => (admits.anticipates_shape (by rw [single]; decide)).bind fun _ _ here => ?_
  exact (Layer.anticipates_checkStatistics here size).bind fun _ _ _ => anticipates_bind fun epsilon =>
    Layer.anticipates_batchNormalization here _ epsilon

theorem anticipates_pooling (single : shapeNames recipe.kind = ["shape"]) :
    Anticipates Layer.Admits recipe.pooling exact.pooling := by
  unfold pooling
  rw [admits.padding_eq, admits.value_eq (by rw [single]; decide), admits.value_eq (by rw [single]; decide)]
  refine anticipates_bind fun padding =>
    (admits.anticipates_shape (by rw [single]; decide)).bind fun shape filled here => ?_
  exact (anticipates_ofShape here _).bind fun _ _ _ => anticipates_bind fun kernel => anticipates_bind fun strides =>
    Layer.anticipates_averagePool2d here padding kernel strides

theorem anticipates_folding (single : shapeNames recipe.kind = ["shape"]) :
    Anticipates Layer.Admits recipe.folding exact.folding := by
  unfold folding
  rw [admits.value_eq (by rw [single]; decide), admits.value_eq (by rw [single]; decide)]
  refine (admits.anticipates_shape (by rw [single]; decide)).bind fun shape filled here => ?_
  exact (anticipates_ofShape here _).bind fun _ _ _ => anticipates_bind fun block => anticipates_bind fun items =>
    anticipates_bind fun paddings => Layer.anticipates_spaceToBatch here block paddings

end Admits

/-- A layer that can be built over a shape can be built before its extents are known, and whatever is known of the
ports of that layer is so of those of this one. -/
theorem exists_build_of_admits {recipe exact : Recipe} (admits : recipe.Admits exact) {layer : Layer}
    (built : exact.build = .ok layer) : ∃ early, recipe.build = .ok early ∧ early.Admits layer := by
  have takes : ∀ {name}, name ∈ shapeNames recipe.kind →
      Anticipates Shape.Admits (recipe.shape name) (exact.shape name) := admits.anticipates_shape
  have anticipates : Anticipates Layer.Admits recipe.build exact.build := by
    unfold build
    rw [admits.kind, admits.axis_eq, admits.tensor_eq]
    -- The recipes differ in their shapes only, and each kind of layer passes on what these leave open.
    cases same : recipe.kind with
    | input =>
      exact (takes (by rw [same]; decide)).bind fun _ _ here => anticipates_ok ⟨rfl, .nil, .cons ⟨rfl, here⟩ .nil⟩
    | output =>
      exact (takes (by rw [same]; decide)).bind fun _ _ here => anticipates_ok ⟨rfl, .cons ⟨rfl, here⟩ .nil, .nil⟩
    | constant => exact anticipates_ok ⟨rfl, .nil, .cons ⟨rfl, .refl _⟩ .nil⟩
    | relu => exact (takes (by rw [same]; decide)).bind fun _ _ here => anticipates_ok (Layer.admits_unary here here)
    | softmax =>
      exact anticipates_bind fun axis => (takes (by rw [same]; decide)).bind fun _ _ here =>
        anticipates_ok (Layer.admits_unary here here)
    | conv2d =>
      exact admits.anticipates_convolution (by rw [same]; rfl) fun _ _ _ _ _ _ here =>
        Layer.anticipates_convolution here _ _ _ _ _ _
    | depthwiseConv2d =>
      exact admits.anticipates_convolution (by rw [same]; rfl) fun _ _ _ _ _ _ here =>
        Layer.anticipates_convolution here _ _ _ _ _ _
    | add =>
      exact (takes (by rw [same]; decide)).bind fun _ _ first => (takes (by rw [same]; decide)).bind fun _ _ second =>
        anticipates_bind fun axis => Layer.anticipates_add first second axis
    | batchNormalization => exact admits.anticipates_normalization (by rw [same]; rfl)
    | averagePool2d => exact admits.anticipates_pooling (by rw [same]; rfl)
    | reshape =>
      refine (takes (by rw [same]; decide)).bind fun _ _ here => ?_
      have target : exact.shape "new_shape" = recipe.shape "new_shape" := by
        unfold shape
        rw [admits.value_eq (by rw [same]; decide)]
      rw [target]
      exact anticipates_bind fun target => Layer.anticipates_reshape here target
    | spaceToBatch => exact admits.anticipates_folding (by rw [same]; rfl)
  exact anticipates layer built

/-- A batch of 2 × 3 matrices that are made flat. -/
def flattening (batch : Int) : Recipe where
  kind := .reshape
  value? name :=
    if name = "shape" then some (.arr [.int batch, .int 2, .int 3])
    else if name = "new_shape" then some (.arr [.int 0, .int unknown]) else none
  tensor? _ := none

theorem admits_flattening (batch : Int) : (flattening unknown).Admits (flattening batch) where
  kind := rfl
  shapes name member := by
    cases List.mem_singleton.mp member
    exact ⟨[unknown, 2, 3], [batch, 2, 3], rfl, rfl, List.Forall₂.cons (.unknown batch) (Shape.Admits.refl _)⟩
  values name other := by
    have different : name ≠ "shape" := fun same => other (by rw [same]; decide)
    simp only [flattening, if_neg different]
  tensors := rfl

theorem exists_build_flattening : (flattening unknown).Admits (flattening 4) ∧
    (flattening 4).build = .ok (.unary (.reshape [0, unknown]) [4, 2, 3] [4, 6]) ∧
      ∃ early, (flattening unknown).build = .ok early ∧
        early.Admits (.unary (.reshape [0, unknown]) [4, 2, 3] [4, 6]) :=
  have built : (flattening 4).build = .ok (.unary (.reshape [0, unknown]) [4, 2, 3] [4, 6]) := by rfl
  ⟨admits_flattening 4, built, exists_build_of_admits (admits_flattening 4) built⟩

end Recipe

end LayerGraph
