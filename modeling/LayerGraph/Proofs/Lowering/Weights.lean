import LayerGraph.Proofs.Lowering.Convolution
import LayerGraph.Proofs.Tensor.Decoded

/-! The weights of lowered convolutions.

A convolution takes the elements of its filter as they are, and a depthwise one takes them with the first two axes
exchanged: each element is found behind the exchanged index, as it was. The weights of either are written and read again.
-/

set_option autoImplicit false

namespace LayerGraph

open Attempt

namespace PayloadStore

theorem decodedAs_of_load {store : PayloadStore} {name spelling : String} {declared : Shape} {value : Tensor}
    (loaded : store.load name declared spelling = .ok value) :
    ∃ type, Tensor.spelledType spelling = .ok type ∧ value.DecodedAs type := by
  obtain ⟨bytes, _, read⟩ := bind_eq_ok.mp loaded
  obtain ⟨_, _, type, named, _⟩ := Tensor.decodeTyped_eq_ok.mp read
  change Tensor.decodeTyped bytes (Tensor.spelledType spelling) _ _ _ = _ at read
  rw [named] at read
  exact ⟨type, named, Tensor.decodedAs_of_decodeTyped (Tensor.regular_of_spelledType named) read⟩

end PayloadStore

namespace Layer

theorem kind_of_spaceToBatch {shape : Shape} {block : Int × Int} {paddings : List (Int × Int)} {layer : Layer}
    (built : spaceToBatch shape block paddings = .ok layer) : layer.kind = .spaceToBatch := by
  obtain ⟨images, _, built⟩ := bind_eq_ok.mp built
  obtain ⟨extents, _, built⟩ := bind_eq_ok.mp built
  split at built
  · cases built
    rfl
  · cases built

/-- A layer that convolves by the elements of a filter of extents `[first, second, height, width]`. A single group makes
it a standard convolution by the filter itself, and others a depthwise one by the filter with its first two axes exchanged. -/
structure FilteredBy (layer : Layer) (groups : Int) (filter : Tensor) (first second height width : Nat)
    (convolution : Convolution) : Prop where
  body : layer.body = if groups = 1 then .conv2d convolution else .depthwiseConv2d convolution
  standard : groups = 1 → convolution.weights = filter
  depthwise : groups ≠ 1 → filter.Exchanges convolution.weights first second [height, width]
  kernel : convolution.kernel = ((height : Int), (width : Int))
  channels : ∃ batch down across : Int, layer.outputShape = [batch, first, down, across]

end Layer

namespace Operator

variable {op : Operator} {context : Context} {fragment : Fragment}

variable {source output name : String} {shape : Shape} {groups : Int} {filter : Tensor}

/-- The filter has the rank that it is declared with. -/
theorem Convolved.exists_extents (convolved : op.Convolved context source output name shape groups filter) :
    ∃ first second height width : Nat, filter.extents = [first, second, height, width] := by
  obtain ⟨_, _, _, _, ranked⟩ := convolved.ranked
  obtain ⟨declared, same, loaded⟩ := bind_eq_ok.mp convolved.loaded
  obtain ⟨spelling, _, loaded⟩ := bind_eq_ok.mp loaded
  cases ranked.symm.trans same
  obtain ⟨inferred, _, settled⟩ := PayloadStore.settle_of_load loaded
  have four : filter.extents.length = 4 := (List.length_map Int.ofNat).symm.trans (congrArg List.length settled)
  match filter.extents, four with
  | [first, second, height, width], _ => exact ⟨first, second, height, width, rfl⟩

theorem Convolved.decodedAs (convolved : op.Convolved context source output name shape groups filter) :
    ∃ spelling type, context.elementType name = .ok spelling ∧ Tensor.spelledType spelling = .ok type ∧
      filter.DecodedAs type := by
  obtain ⟨_, _, loaded⟩ := bind_eq_ok.mp convolved.loaded
  obtain ⟨spelling, typed, loaded⟩ := bind_eq_ok.mp loaded
  obtain ⟨type, named, decoded⟩ := PayloadStore.decodedAs_of_load loaded
  exact ⟨spelling, type, typed, named, decoded⟩

/-- The convolution is the last layer, and in front of it there is nothing but padding. -/
theorem exists_front (lowered : op.lowerConv2d context = .ok fragment) :
    ∃ source output name shape groups filter, op.Convolved context source output name shape groups filter ∧
      ∃ images padding strides front layer, fragment.layers = front ++ [layer] ∧
        (∀ other ∈ front, other.kind = .spaceToBatch) ∧
        convolve (decide (groups ≠ 1)) images filter padding strides = .ok layer := by
  obtain ⟨source, output, name, shape, groups, filter, strides, convolved, ⟨space, layer, padded, built, rfl⟩ |
    ⟨padding, layer, built, rfl⟩⟩ := convolved_of_lowerConv2d lowered
  · refine ⟨source, output, name, shape, groups, filter, convolved, _, _, _, [space], layer, rfl, ?_, built⟩
    exact fun other member => List.mem_singleton.mp member ▸ Layer.kind_of_spaceToBatch padded
  · exact ⟨source, output, name, shape, groups, filter, convolved, _, _, _, [], layer, rfl, nofun, built⟩

/-- The layer of a convolution has the elements of the filter, its kernel, and as many channels as it has filters. -/
theorem filteredBy_of_convolve {padding : Padding} {strides : Int × Int} {layer : Layer}
    {first second height width : Nat} (whole : filter.WellFormed) (extents : filter.extents = [first, second, height, width])
    (built : convolve (decide (groups ≠ 1)) shape filter padding strides = .ok layer) :
    ∃ convolution, layer.FilteredBy groups filter first second height width convolution := by
  have shaped : filter.shape = [(first : Int), second, height, width] := by
    rw [Tensor.shape, extents]
    rfl
  unfold convolve at built
  -- The filters are counted on the first axis, and on the second one after the exchange.
  by_cases one : groups = 1
  · rw [if_neg (by simp [one])] at built
    obtain ⟨images, _, _, ⟨tall, wide⟩, given, down, across, _, same, fits, _, _, rfl⟩ :=
      Layer.convolution_eq_ok.mp built
    cases shaped.symm.trans same
    obtain rfl : given = first := fits.2
    exact ⟨_, by rw [if_pos one]; rfl, fun _ => rfl, fun other => absurd one other, rfl, images.batch, down, across, rfl⟩
  · rw [if_pos (by simp [one])] at built
    obtain ⟨images, _, _, ⟨tall, wide⟩, given, down, across, _, same, fits, _, _, rfl⟩ :=
      Layer.convolution_eq_ok.mp built
    cases (Tensor.shape_swapLeadingAxes shaped).symm.trans same
    obtain rfl : given = first := fits.2
    exact ⟨_, by rw [if_neg one]; rfl, fun single => absurd single one,
      fun _ => Tensor.exchanges_swapLeadingAxes extents whole, rfl, images.batch, down, across, rfl⟩

/-- A lowered convolution has every element of its filter in its place. It is a standard one by the filter itself, or a
depthwise one by the filter with its first two axes exchanged; its kernel has the last two extents of the filter, and its
output as many channels as there are filters. What is written of its weights is read again as the declared type of the
filter. So it is as their own type, unless that type was declared in blocks without elements and no array has the extents. -/
theorem filteredBy_of_lower (known : OperatorKind.ofTag? op.tag = some .conv2d) (lowered : op.lower context = .ok fragment) :
    ∃ source output name shape groups filter, op.Convolved context source output name shape groups filter ∧
      ∃ first second height width : Nat, filter.extents = [first, second, height, width] ∧
      ∃ front layer convolution, fragment.layers = front ++ [layer] ∧ (∀ other ∈ front, other.kind = .spaceToBatch) ∧
        layer.FilteredBy groups filter first second height width convolution ∧
      ∃ spelling type, context.elementType name = .ok spelling ∧ Tensor.spelledType spelling = .ok type ∧
        filter.DecodedAs type ∧ convolution.weights.RestoredAs type ∧
        (convolution.weights.RestoredAs convolution.weights.element ∨ elementCount type.unblocked.2 = 0 ∧
          ¬ Tensor.Bounded convolution.weights.element convolution.weights.extents) := by
  rw [lower_eq_ok known] at lowered
  obtain ⟨source, output, name, shape, groups, filter, convolved, images, padding, strides, front, layer, layers, padded,
    built⟩ := exists_front lowered
  obtain ⟨first, second, height, width, extents⟩ := convolved.exists_extents
  obtain ⟨spelling, type, typed, named, decoded⟩ := convolved.decodedAs
  obtain ⟨convolution, filtered⟩ := filteredBy_of_convolve decoded.whole extents built
  -- Exchanging axes moves elements, so the weights hold what was decoded.
  have weights : convolution.weights.DecodedAs type := by
    by_cases one : groups = 1
    · exact filtered.standard one ▸ decoded
    · exact decoded.exchanged extents (filtered.depthwise one)
  refine ⟨source, output, name, shape, groups, filter, convolved, first, second, height, width, extents, front, layer,
    convolution, layers, padded, filtered, spelling, type, typed, named, decoded, weights.restored, ?_⟩
  by_cases bounded : Tensor.Bounded convolution.weights.element convolution.weights.extents
  · exact .inl (weights.own bounded).restored
  · exact .inr ⟨of_not_not fun filled => bounded (weights.bounded_own filled), bounded⟩

/-- Two filters over two channels, with a group for each of them. -/
def depthwise : Operator where
  tag := "conv2d"
  inputs := [("Input", ["x"]), ("Filter", ["w"])]
  outputs := [("Output", ["y"])]
  attributes := [("paddings", .ints [0, 0]), ("strides", .ints [1, 1]), ("groups", .int 2)]

/-- An image, and filters with an open depth whose elements are numbered. -/
def numbered : Context where
  block := { declarations := [{ name := "x", shape := [1, 2, 3, 3] }, { name := "w", shape := [2, -1, 3, 3], dtype := "b" }] }
  tensors :=
    { files := ⟨[(["w"], .file (List.replicate 20 0 ++ (List.range 36).map UInt8.ofNat))]⟩, directory := ⟨"/", []⟩ }

def depthwisePlan : Convolving where
  padding := 0
  strides := (1, 1)
  groups := 2
  images := ⟨1, 2, 3, 3⟩
  filters := 2
  depth := 2
  weights := ⟨.signed 1, .little, [2, 2, 3, 3], (List.range 36).map UInt8.ofNat⟩

theorem load_numbered : numbered.load "w" = .ok depthwisePlan.weights := by
  have path : numbered.tensors.path "w" = ⟨"/", ["w"]⟩ := Path.join_bare _ (by decide) (by decide)
  change numbered.tensors.load "w" [2, -1, 3, 3] "b" = _
  unfold PayloadStore.load PayloadStore.loadDeclared
  rw [path]
  rfl

theorem convolves_depthwise : depthwise.Convolves numbered depthwisePlan "x" "y" where
  kind := by decide
  paddings := rfl
  strides := rfl
  groups := ⟨.int 2, rfl, rfl⟩
  input := rfl
  result := rfl
  filter := ⟨"w", 2, -1, rfl, rfl, .inr rfl, load_numbered⟩
  images := rfl
  extents := rfl
  fed := .inr ⟨by decide, by decide⟩

/-- The last element of the second channel of the first filter comes to the first channel of the second one. -/
theorem filteredBy_depthwise : OperatorKind.ofTag? depthwise.tag = some .conv2d ∧
    ∃ fragment, depthwise.lower numbered = .ok fragment ∧ ∃ front layer convolution,
      fragment.layers = front ++ [layer] ∧ layer.body = .depthwiseConv2d convolution ∧
        convolution.weights.elementAt [1, 0, 2, 2] = [17] := by
  obtain ⟨fragment, lowered⟩ : ∃ fragment, depthwise.lower numbered = .ok fragment :=
    ⟨_, (lower_iff_form convolves_depthwise (.inl rfl)).mpr ⟨_, .plain rfl rfl⟩⟩
  obtain ⟨_, _, name, _, groups, filter, convolved, first, second, height, width, extents, front, layer, convolution,
    layers, _, filtered, _⟩ := filteredBy_of_lower convolves_depthwise.kind lowered
  refine ⟨convolves_depthwise.kind, fragment, lowered, front, layer, convolution, layers, ?_⟩
  -- The groups and the filter are those that the attributes and the context give.
  obtain ⟨_, given, grouped⟩ := convolved.grouped
  cases given
  cases grouped
  cases convolved.takes
  cases load_numbered.symm.trans convolved.loaded
  cases extents
  have inside : Inside [2, 2, 3, 3] [0, 1, 2, 2] := by simp [Inside]
  exact ⟨filtered.body, (filtered.depthwise (by decide)).moved 0 1 [2, 2] inside⟩

end Operator

end LayerGraph
