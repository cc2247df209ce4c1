import LayerGraph.Proofs.Layer.Known
import LayerGraph.Proofs.Lowering.Convolution

/-! Operators over known shapes.

Declared shapes go into the layers of an operator at the variables that it reads, and at the one that it feeds. Where none
of their extents lies below the unknown one, none at a port does, and windows give out an open extent only where the data
of the operator has one. The axes along which windows run backwards are left out.
-/

set_option autoImplicit false

namespace LayerGraph

open Attempt

namespace Operator

/-- The variables in whose declared shapes an operator has ports: those that it reads, and the one that it feeds. -/
def shaped (op : Operator) : List String :=
  op.reads ++ if OperatorKind.ofTag? op.tag = some .feed then op.write?.toList else []

section
variable {op : Operator} {context : Context} {fragment : Fragment} {kind : OperatorKind}

/-- An operator with one role of data reads the variable under it. -/
theorem reads_eq_singleton {role name : String} (known : OperatorKind.ofTag? op.tag = some kind)
    (single : kind.dataRoles = [role]) (input : op.input role = .ok name) : op.reads = [name] := by
  rw [reads_eq known, single, List.filterMap_cons_some (input_eq_ok.mp input), List.filterMap_nil]

theorem wellShaped_convolve {depthwise : Bool} {shape : Shape} {weights : Tensor} {padding : Padding}
    {strides : Int × Int} {layer : Layer} (known : shape.Known)
    (built : convolve depthwise shape weights padding strides = .ok layer) : layer.WellShaped ∧ layer.OpenAs shape := by
  unfold convolve at built
  split at built
  · exact @Layer.wellShaped_convolution _ .depthwiseConv2d _ _ _ _ _ _ known (fun _ _ back _ _ => back) built
  · exact @Layer.wellShaped_convolution _ .conv2d _ _ _ _ _ _ known (fun _ _ back _ _ => back) built

/-- The kinds of layers with windows, and of the one that pads for them. -/
def windowed : List LayerKind := [.conv2d, .depthwiseConv2d, .averagePool2d, .spaceToBatch]

/-- The layers of a fragment are well shaped, and those with windows give out an open extent only where the one variable
has it that their operator reads. -/
structure WellShaped (op : Operator) (context : Context) (fragment : Fragment) : Prop where
  layers : ∀ layer ∈ fragment.layers, layer.WellShaped
  windows : ∀ layer ∈ fragment.layers, layer.kind ∈ windowed →
    ∃ source shape, op.reads = [source] ∧ context.shape source = .ok shape ∧ layer.OpenAs shape

/-- A layer without windows has to be well shaped itself. -/
theorem wellShaped_single {layer : Layer} {kind : LayerKind} (layers : fragment.layers = [layer])
    (shaped : layer.WellShaped ∧ layer.kind = kind) (other : kind ∉ windowed) : op.WellShaped context fragment where
  layers _ member := by
    rw [layers] at member
    exact List.mem_singleton.mp member ▸ shaped.1
  windows _ member found := by
    rw [layers] at member
    exact absurd (shaped.2 ▸ List.mem_singleton.mp member ▸ found) other

theorem wellShaped_of_padded {source output : String} {shape : Shape} {depthwise : Bool} {weights : Tensor}
    {strides : Int × Int} {space conv : Layer} (reads : op.reads = [source]) (declared : context.shape source = .ok shape)
    (known : shape.Known) (before : Layer.spaceToBatch shape (1, 1) [(1, 1), (1, 1)] = .ok space)
    (built : convolve depthwise space.outputShape weights .valid strides = .ok conv) :
    op.WellShaped context (.chain space conv source output) := by
  obtain ⟨⟨shaped, opens⟩, forward⟩ := Layer.wellShaped_spaceToBatch known before
  obtain ⟨shaped', opens'⟩ := wellShaped_convolve (shaped.known_outputShape forward) built
  -- The convolution is fed what the padding in front of it gives out, so it is open only where the input is.
  refine ⟨fun layer member => ?_, fun layer member _ => ⟨source, shape, reads, declared, ?_⟩⟩
  · rcases List.mem_cons.mp member with rfl | last
    · exact shaped
    · exact List.mem_singleton.mp last ▸ shaped'
  · rcases List.mem_cons.mp member with rfl | last
    · exact opens
    · exact List.mem_singleton.mp last ▸ opens'.trans opens forward

/-- A layer with windows gives out an open extent only where the variable that it reads has it. -/
theorem wellShaped_windows {source output : String} {shape : Shape} {layer : Layer} (reads : op.reads = [source])
    (declared : context.shape source = .ok shape) (shaped : layer.WellShaped ∧ layer.OpenAs shape) :
    op.WellShaped context (.ofLayer layer [source] output) where
  layers _ member := List.mem_singleton.mp member ▸ shaped.1
  windows _ member _ := ⟨source, shape, reads, declared, List.mem_singleton.mp member ▸ shaped.2⟩

/-- Over known shapes every port of a lowered operator has extents that are unknown or not negative, and windows give out
an open extent only where the data of the operator has one, on axes along which no windows run backwards. -/
theorem wellShaped_of_lower (known : ∀ name ∈ op.shaped, ∀ shape, context.shape name = .ok shape → shape.Known)
    (lowered : op.lower context = .ok fragment) : op.WellShaped context fragment := by
  obtain ⟨kind, tagged, made⟩ := lowered_of_lower lowered
  have data : ∀ {name : String} {shape : Shape}, name ∈ op.reads → context.shape name = .ok shape → shape.Known :=
    fun member => known _ (List.mem_append_left _ member) _
  have read : ∀ {role name : String} {shape : Shape}, role ∈ kind.dataRoles → op.input role = .ok name →
      context.shape name = .ok shape → shape.Known := fun role input => data (mem_reads tagged role input)
  cases made with
  | @feed name shape writes declared =>
    -- A feed has its port in the shape of the variable that it writes.
    have fed : name ∈ op.shaped := by
      rw [shaped, if_pos tagged, write?_eq tagged]
      exact List.mem_append_right _ (by simp [OperatorKind.writeRole?, output_eq_ok.mp writes])
    have outputs : ∀ port ∈ (Layer.input shape).outputs, port.shape.Known := by
      simpa [Layer.input] using known name fed shape declared
    have none : ∀ port ∈ (Layer.input shape).inputs, port.shape.Known := fun _ member => absurd member List.not_mem_nil
    exact wellShaped_single rfl ⟨Layer.wellShaped_of_known none outputs, rfl⟩ (by decide : LayerKind.input ∉ windowed)
  | @fetch name shape input declared =>
    have inputs : ∀ port ∈ (Layer.output shape).inputs, port.shape.Known := by
      simpa [Layer.output] using read List.mem_cons_self input declared
    have none : ∀ port ∈ (Layer.output shape).outputs, port.shape.Known := fun _ member => absurd member List.not_mem_nil
    exact wellShaped_single rfl ⟨Layer.wellShaped_of_known inputs none, rfl⟩ (by decide : LayerKind.output ∉ windowed)
  | padded convolved before built =>
    exact wellShaped_of_padded (reads_eq_singleton tagged rfl convolved.reads) convolved.declared
      (read List.mem_cons_self convolved.reads convolved.declared) before built
  | conv2d convolved built =>
    exact wellShaped_windows (reads_eq_singleton tagged rfl convolved.reads) convolved.declared
      (wellShaped_convolve (read List.mem_cons_self convolved.reads convolved.declared) built)
  | elementwiseAdd first second writes declared declared' built =>
    exact wellShaped_single rfl (Layer.wellShaped_add (read List.mem_cons_self first declared)
      (read (List.mem_cons_of_mem _ List.mem_cons_self) second declared') built) (by decide)
  | batchNorm unary built =>
    exact wellShaped_single rfl
      (Layer.wellShaped_batchNormalization (read List.mem_cons_self unary.reads unary.declared) built) (by decide)
  | relu unary =>
    have known := read List.mem_cons_self unary.reads unary.declared
    exact wellShaped_single rfl ⟨Layer.wellShaped_unary known known, rfl⟩ (by decide : LayerKind.relu ∉ windowed)
  | pool2d unary built =>
    exact wellShaped_windows (reads_eq_singleton tagged rfl unary.reads) unary.declared
      (Layer.wellShaped_averagePool2d (read List.mem_cons_self unary.reads unary.declared) built)
  | reshape unary built =>
    exact wellShaped_single rfl (Layer.wellShaped_reshape (read List.mem_cons_self unary.reads unary.declared) built)
      (by decide)
  | softmax unary =>
    have known := read List.mem_cons_self unary.reads unary.declared
    exact wellShaped_single rfl ⟨Layer.wellShaped_unary known known, rfl⟩ (by decide : LayerKind.softmax ∉ windowed)

end

theorem wellShaped_strided : (∀ name ∈ strided.shaped, ∀ shape, image.shape name = .ok shape → shape.Known) ∧
    ∃ fragment, strided.lower image = .ok fragment ∧ strided.WellShaped image fragment := by
  have known : ∀ name ∈ strided.shaped, ∀ shape, image.shape name = .ok shape → shape.Known := by
    intro name member shape declared
    rw [show strided.shaped = ["x"] by decide, List.mem_singleton] at member
    subst member
    cases declared
    decide
  obtain ⟨fragment, lowered⟩ : ∃ fragment, strided.lower image = .ok fragment :=
    ⟨_, (lower_iff_form convolves_strided (.inr rfl)).mpr ⟨_, .padded rfl rfl rfl rfl⟩⟩
  exact ⟨known, fragment, lowered, wellShaped_of_lower known lowered⟩

/-- Windows that run backwards over an image of four rows and columns. -/
def backward : Operator :=
  { strided with
    inputs := [("Input", ["z"]), ("Filter", ["w"])]
    attributes := [("paddings", .ints [1, 1]), ("strides", .ints [-1, -4]), ("groups", .int 1)] }

def backwardPlan : Convolving := { stridedPlan with strides := (-1, -4), images := ⟨1, 1, 4, 4⟩ }

theorem convolves_backward : backward.Convolves image backwardPlan "z" "y" where
  kind := by decide
  paddings := rfl
  strides := rfl
  groups := ⟨.int 1, rfl, rfl⟩
  input := rfl
  result := rfl
  filter := ⟨"w", 1, 1, rfl, rfl, .inl rfl, load_image⟩
  images := rfl
  extents := rfl
  fed := .inr rfl

/-- A feed reads nothing. -/
def feeding : Operator where
  tag := "feed"
  inputs := []
  outputs := [("Out", ["v"])]
  attributes := []

def fed : Context := { image with block := { declarations := [{ name := "v", shape := [-7] }] } }

/-- Windows that run backwards leave fewer than no rows of known ones, and an open number of known columns. What a feed
gives out has the extents that its variable is declared with, none of which is read. -/
theorem lower_backward_feeding :
    ((∀ declared ∈ image.block.declarations, declared.shape.Known) ∧ image.shape "z" = .ok [1, 1, 4, 4] ∧
      ∃ conv, backward.lower image = .ok (.ofLayer conv ["z"] "y") ∧ conv.kind = .conv2d ∧
        conv.outputShape = [1, 1, -4, unknown] ∧ ¬ conv.outputShape.Known) ∧
    feeding.inputs = [] ∧ ∃ fragment, feeding.lower fed = .ok fragment ∧
      ∃ layer ∈ fragment.layers, ∃ port ∈ layer.outputs, port.shape = [-7] ∧ ¬ port.shape.Known := by
  refine ⟨⟨by decide, rfl, backwardPlan.layer ⟨1, 1, 4, 4⟩ .same (-4) unknown, ?_, rfl, rfl, by decide⟩, rfl, ?_⟩
  · refine (lower_iff_form convolves_backward (.inr rfl)).mpr ⟨_, .kept rfl (by decide) ?_⟩
    rfl
  · exact ⟨.feed [-7] "v", by rfl, .input [-7], List.mem_cons_self, _, List.mem_cons_self, rfl, by decide⟩

end Operator

end LayerGraph
