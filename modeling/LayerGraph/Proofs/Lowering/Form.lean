import LayerGraph.Lowering.Operator
import LayerGraph.Proofs.Graph.Ports

/-! The forms of the fragments that operators become.

What an operator reads as data and what it writes can be told from its arguments. A lowered operator
is a boundary layer, one layer, or two layers in a row, and waits for exactly what it reads, in the shapes
that are declared for it.
-/

set_option autoImplicit false

namespace LayerGraph

namespace OperatorKind

/-- The roles under which an operator reads data; parameters are taken from stored tensors. -/
def dataRoles : OperatorKind → List String
  | .feed => []
  | .conv2d => ["Input"]
  | .elementwiseAdd => ["X", "Y"]
  | .fetch | .batchNorm | .relu | .pool2d | .reshape | .softmax => ["X"]

/-- The role under which an operator writes. -/
def writeRole? : OperatorKind → Option String
  | .fetch => none
  | .conv2d => some "Output"
  | .batchNorm => some "Y"
  | .feed | .elementwiseAdd | .relu | .pool2d | .reshape | .softmax => some "Out"

end OperatorKind

namespace Operator

/-- The variables that an operator reads as data, by slot. -/
def reads (op : Operator) : List String :=
  match OperatorKind.ofTag? op.tag with
  | some kind => kind.dataRoles.filterMap (firstName? op.inputs)
  | none => []

/-- The variable that an operator writes. -/
def write? (op : Operator) : Option String := do
  firstName? op.outputs (← (← OperatorKind.ofTag? op.tag).writeRole?)

theorem reads_eq {op : Operator} {kind : OperatorKind}
    (known : OperatorKind.ofTag? op.tag = some kind) :
    op.reads = kind.dataRoles.filterMap (firstName? op.inputs) := by
  unfold reads
  rw [known]

theorem write?_eq {op : Operator} {kind : OperatorKind}
    (known : OperatorKind.ofTag? op.tag = some kind) :
    op.write? = kind.writeRole?.bind (firstName? op.outputs) := by
  unfold write?
  rw [known]
  rfl

end Operator

namespace Layer

/-- A fresh layer with inputs of some shapes and one output that is no boundary and no constant. -/
structure Interior (layer : Layer) (shapes : List Shape) : Prop where
  fresh : layer.Fresh
  inputs : layer.inputs.map InputPort.shape = shapes
  outputs : layer.outputs.length = 1
  kind : layer.kind ∉ [LayerKind.input, .output, .constant]

theorem Interior.length_inputs {layer : Layer} {shapes : List Shape} (interior : layer.Interior shapes) :
    layer.inputs.length = shapes.length := by
  rw [← interior.inputs, List.length_map]

theorem fresh_input (shape : Shape) : (input shape).Fresh := rfl

theorem fresh_output (shape : Shape) : (output shape).Fresh := rfl

theorem fresh_constant (value : Tensor) : (constant value).Fresh := rfl

theorem interior_unary {body : LayerBody} (source target : Shape)
    (kind : body.kind ∉ [LayerKind.input, .output, .constant]) : (unary body source target).Interior [source] :=
  ⟨rfl, rfl, rfl, kind⟩

theorem interior_convolution {kind : LayerKind} {body : Convolution → LayerBody} {shape : Shape}
    {weights : Tensor} {bias : Option Tensor} {padding : Padding} {strides : Int × Int} {layer : Layer}
    (interior : ∀ plan, (body plan).kind ∉ [LayerKind.input, .output, .constant])
    (built : convolution kind body shape weights bias padding strides = .ok layer) :
    layer.Interior [shape] := by
  unfold convolution at built
  obtain ⟨⟨images, channels, kernel⟩, _, built⟩ := Attempt.bind_eq_ok.mp built
  obtain ⟨⟨height, width⟩, _, built⟩ := Attempt.bind_eq_ok.mp built
  cases built
  exact interior_unary _ _ (interior _)

theorem interior_add {a b : Shape} {axis : Int} {layer : Layer} (built : add a b axis = .ok layer) :
    layer.Interior [a, b] := by
  unfold add at built
  obtain ⟨sum, _, built⟩ := Attempt.bind_eq_ok.mp built
  cases built
  exact ⟨rfl, rfl, rfl, by simp [kind, LayerBody.kind]⟩

theorem interior_batchNormalization {shape : Shape} {statistics : Statistics} {epsilon : Number.Binary64}
    {layer : Layer} (built : batchNormalization shape statistics epsilon = .ok layer) :
    layer.Interior [shape] := by
  unfold batchNormalization at built
  obtain ⟨size, _, built⟩ := Attempt.bind_eq_ok.mp built
  obtain ⟨_, _, built⟩ := Attempt.bind_eq_ok.mp built
  cases built
  exact interior_unary _ _ (by simp [LayerBody.kind])

theorem interior_averagePool2d {shape : Shape} {padding : Padding} {kernel strides : Int × Int}
    {layer : Layer} (built : averagePool2d shape padding kernel strides = .ok layer) :
    layer.Interior [shape] := by
  unfold averagePool2d at built
  obtain ⟨images, _, built⟩ := Attempt.bind_eq_ok.mp built
  obtain ⟨⟨height, width⟩, _, built⟩ := Attempt.bind_eq_ok.mp built
  cases built
  exact interior_unary _ _ (by simp [LayerBody.kind])

theorem interior_reshape {shape target : Shape} {layer : Layer}
    (built : reshape shape target = .ok layer) : layer.Interior [shape] := by
  unfold reshape at built
  obtain ⟨extents, _, built⟩ := Attempt.bind_eq_ok.mp built
  cases built
  exact interior_unary _ _ (by simp [LayerBody.kind])

theorem interior_spaceToBatch {shape : Shape} {block : Int × Int} {paddings : List (Int × Int)}
    {layer : Layer} (built : spaceToBatch shape block paddings = .ok layer) : layer.Interior [shape] := by
  unfold spaceToBatch at built
  obtain ⟨images, _, built⟩ := Attempt.bind_eq_ok.mp built
  obtain ⟨extents, _, built⟩ := Attempt.bind_eq_ok.mp built
  split at built
  · cases built
    exact interior_unary _ _ (by simp [LayerBody.kind])
  · cases built

end Layer

namespace Operator

theorem interior_convolve {depthwise : Bool} {shape : Shape} {weights : Tensor} {padding : Padding}
    {strides : Int × Int} {layer : Layer}
    (built : convolve depthwise shape weights padding strides = .ok layer) : layer.Interior [shape] := by
  unfold convolve at built
  split at built
  · exact Layer.interior_convolution (fun plan => by simp [LayerBody.kind]) built
  · exact Layer.interior_convolution (fun plan => by simp [LayerBody.kind]) built

end Operator

/-- The forms of a fragment by the kind of its operator, with the variables that it reads and the one that it
writes. Its ports have the shapes that the variables are declared with. -/
inductive Fragment.Form (context : Context) : OperatorKind → Fragment → List String → Option String → Prop
  | feed {shape : Shape} {name : String} (declared : context.shape name = .ok shape) :
      Form context .feed (.feed shape name) [] (some name)
  | fetch {shape : Shape} {name : String} (declared : context.shape name = .ok shape) :
      Form context .fetch (.fetch shape name) [name] none
  | single {kind : OperatorKind} (inner : kind ∉ [.feed, .fetch]) {layer : Layer} {reads : List String}
      {shapes : List Shape} (write : String) (declared : reads.map context.shape = shapes.map .ok)
      (interior : layer.Interior shapes) : Form context kind (.ofLayer layer reads write) reads (some write)
  | chain {kind : OperatorKind} (inner : kind ∉ [.feed, .fetch]) {first second : Layer} {shape : Shape}
      {read : String} (write : String) (declared : context.shape read = .ok shape)
      (before : first.Interior [shape]) (after : second.Interior [first.outputShape]) :
      Form context kind (.chain first second read write) [read] (some write)

section
variable {context : Context} {kind : OperatorKind} {fragment : Fragment} {reads : List String}
  {write : Option String}

/-- A layer of an operator lies inside, or is the only one of an operator that feeds or fetches. -/
theorem Fragment.Form.layer_cases (form : fragment.Form context kind reads write) {index : Nat} {layer : Layer}
    (here : fragment.layers[index]? = some layer) : layer.kind ∉ [LayerKind.input, .output, .constant] ∨
      index = 0 ∧ ∃ shape name, context.shape name = .ok shape ∧
        (kind = .feed ∧ write = some name ∧ fragment = .feed shape name ∧ layer = Layer.input shape ∨
          kind = .fetch ∧ reads = [name] ∧ fragment = .fetch shape name ∧ layer = Layer.output shape) := by
  have only : ∀ {other : Layer}, [other][index]? = some layer → index = 0 ∧ other = layer := by
    intro other single
    rw [List.getElem?_singleton] at single
    split at single
    · next first => exact ⟨first, Option.some.inj single⟩
    · cases single
  cases form with
  | feed declared =>
    obtain ⟨rfl, rfl⟩ := only here
    exact .inr ⟨rfl, _, _, declared, .inl ⟨rfl, rfl, rfl, rfl⟩⟩
  | fetch declared =>
    obtain ⟨rfl, rfl⟩ := only here
    exact .inr ⟨rfl, _, _, declared, .inr ⟨rfl, rfl, rfl, rfl⟩⟩
  | single _ write _ interior =>
    exact .inl (List.mem_singleton.mp (List.mem_of_getElem? here) ▸ interior.kind)
  | chain _ write _ before after =>
    rcases List.mem_cons.mp (List.mem_of_getElem? here) with rfl | last
    · exact .inl before.kind
    · exact .inl (List.mem_singleton.mp last ▸ after.kind)

/-- An operator that feeds becomes a boundary layer in the declared shape. -/
theorem Fragment.Form.eq_feed (form : fragment.Form context .feed reads write) : ∃ shape name,
    context.shape name = .ok shape ∧ fragment = .feed shape name ∧ write = some name := by
  cases form with
  | feed declared => exact ⟨_, _, declared, rfl, rfl⟩
  | single inner | chain inner => exact absurd List.mem_cons_self inner

theorem Fragment.Form.eq_fetch (form : fragment.Form context .fetch reads write) : ∃ shape name,
    context.shape name = .ok shape ∧ fragment = .fetch shape name ∧ reads = [name] := by
  cases form with
  | fetch declared => exact ⟨_, _, declared, rfl, rfl⟩
  | single inner | chain inner => exact absurd (List.mem_cons_of_mem _ List.mem_cons_self) inner

/-- Operators become no constants. -/
theorem Fragment.Form.kind_ne_constant (form : fragment.Form context kind reads write) {layer : Layer}
    (member : layer ∈ fragment.layers) : layer.kind ≠ .constant := by
  obtain ⟨index, here⟩ := List.mem_iff_getElem?.mp member
  rcases form.layer_cases here with inner | ⟨_, shape, name, _, ⟨_, _, _, rfl⟩ | ⟨_, _, _, rfl⟩⟩
  · exact fun same => inner (by simp [same])
  · nofun
  · nofun

end

namespace Operator

section
variable {op : Operator} {context : Context} {fragment : Fragment}

theorem filterExtents_eq_ok {name : String} {filters depth height width : Int} :
    op.filterExtents context name = .ok (filters, depth, height, width) ↔
      context.shape name = .ok [filters, depth, height, width] := by
  unfold filterExtents
  rw [Attempt.bind_eq_ok]
  constructor
  · rintro ⟨shape, declared, found⟩
    split at found
    · cases found
      exact declared
    · cases found
  · exact fun declared => ⟨_, declared, rfl⟩

theorem eq_of_isDepthwise {groups filters : Int} {name : String} {depthwise : Bool}
    (told : op.isDepthwise groups filters name = .ok depthwise) : depthwise = decide (groups ≠ 1) := by
  unfold isDepthwise at told
  split at told
  · next one =>
    cases told
    simp [one]
  · next other =>
    split at told
    · cases told
      simp [other]
    · cases told

/-- What a convolution is made from: its data and its result, its groups, and the weights of its filter. -/
structure Convolved (op : Operator) (context : Context) (source output filter : String) (shape : Shape) (groups : Int)
    (weights : Tensor) : Prop where
  grouped : ∃ value, op.requiredAttribute "groups" = .ok value ∧ value.toJson.toInteger = .ok groups
  reads : op.input "Input" = .ok source
  takes : op.input "Filter" = .ok filter
  writes : op.output "Output" = .ok output
  ranked : ∃ filters depth height width, context.shape filter = .ok [filters, depth, height, width]
  loaded : context.load filter = .ok weights
  declared : context.shape source = .ok shape

/-- A convolution is lowered to a layer, or to one that pads the border and one behind it. -/
theorem convolved_of_lowerConv2d (lowered : op.lowerConv2d context = .ok fragment) :
    ∃ source output filter shape groups weights strides, op.Convolved context source output filter shape groups weights ∧
      ((∃ space conv, Layer.spaceToBatch shape (1, 1) [(1, 1), (1, 1)] = .ok space ∧
          convolve (decide (groups ≠ 1)) space.outputShape weights .valid strides = .ok conv ∧
          fragment = .chain space conv source output) ∨
        ∃ padding conv, convolve (decide (groups ≠ 1)) shape weights padding strides = .ok conv ∧
          fragment = .ofLayer conv [source] output) := by
  unfold lowerConv2d at lowered
  obtain ⟨paddings, _, lowered⟩ := Attempt.bind_eq_ok.mp lowered
  obtain ⟨⟨down, across⟩, _, lowered⟩ := Attempt.bind_eq_ok.mp lowered
  obtain ⟨value, given, lowered⟩ := Attempt.bind_eq_ok.mp lowered
  obtain ⟨groups, grouped, lowered⟩ := Attempt.bind_eq_ok.mp lowered
  obtain ⟨source, input, lowered⟩ := Attempt.bind_eq_ok.mp lowered
  obtain ⟨filter, role, lowered⟩ := Attempt.bind_eq_ok.mp lowered
  obtain ⟨name, output, lowered⟩ := Attempt.bind_eq_ok.mp lowered
  obtain ⟨⟨filters, depth, height, width⟩, extents, lowered⟩ := Attempt.bind_eq_ok.mp lowered
  obtain ⟨depthwise, told, lowered⟩ := Attempt.bind_eq_ok.mp lowered
  obtain rfl := eq_of_isDepthwise told
  have declared := filterExtents_eq_ok.mp extents
  -- Both branches load the weights and look the shape up, each behind what it needs for itself.
  split at lowered
  · obtain ⟨weights, loaded, lowered⟩ := Attempt.bind_eq_ok.mp lowered
    obtain ⟨shape, shaped, lowered⟩ := Attempt.bind_eq_ok.mp lowered
    obtain ⟨space, padded, lowered⟩ := Attempt.bind_eq_ok.mp lowered
    obtain ⟨conv, built, lowered⟩ := Attempt.bind_eq_ok.mp lowered
    exact ⟨source, name, filter, shape, groups, weights, _,
      ⟨⟨value, given, grouped⟩, input, role, output, ⟨_, _, _, _, declared⟩, loaded, shaped⟩,
      .inl ⟨space, conv, padded, built, (Except.ok.inj lowered).symm⟩⟩
  · obtain ⟨padding, _, lowered⟩ := Attempt.bind_eq_ok.mp lowered
    obtain ⟨weights, loaded, lowered⟩ := Attempt.bind_eq_ok.mp lowered
    obtain ⟨shape, shaped, lowered⟩ := Attempt.bind_eq_ok.mp lowered
    obtain ⟨conv, built, lowered⟩ := Attempt.bind_eq_ok.mp lowered
    exact ⟨source, name, filter, shape, groups, weights, _,
      ⟨⟨value, given, grouped⟩, input, role, output, ⟨_, _, _, _, declared⟩, loaded, shaped⟩,
      .inr ⟨padding, conv, built, (Except.ok.inj lowered).symm⟩⟩

/-- An operator reads one variable of a declared shape and writes one. -/
structure Unary (op : Operator) (context : Context) (role out x name : String) (shape : Shape) : Prop where
  reads : op.input role = .ok x
  writes : op.output out = .ok name
  declared : context.shape x = .ok shape

/-- What an operator of each kind is lowered to, and from what. -/
inductive Lowered (op : Operator) (context : Context) : OperatorKind → Fragment → Prop
  | feed {name : String} {shape : Shape} (writes : op.output "Out" = .ok name)
      (declared : context.shape name = .ok shape) : Lowered op context .feed (.feed shape name)
  | fetch {name : String} {shape : Shape} (reads : op.input "X" = .ok name)
      (declared : context.shape name = .ok shape) : Lowered op context .fetch (.fetch shape name)
  | padded {source output filter : String} {shape : Shape} {groups : Int} {weights : Tensor} {strides : Int × Int}
      {space conv : Layer} (convolved : op.Convolved context source output filter shape groups weights)
      (before : Layer.spaceToBatch shape (1, 1) [(1, 1), (1, 1)] = .ok space)
      (built : convolve (decide (groups ≠ 1)) space.outputShape weights .valid strides = .ok conv) :
      Lowered op context .conv2d (.chain space conv source output)
  | conv2d {source output filter : String} {shape : Shape} {groups : Int} {weights : Tensor} {strides : Int × Int}
      {padding : Padding} {conv : Layer} (convolved : op.Convolved context source output filter shape groups weights)
      (built : convolve (decide (groups ≠ 1)) shape weights padding strides = .ok conv) :
      Lowered op context .conv2d (.ofLayer conv [source] output)
  | elementwiseAdd {x y name : String} {a b : Shape} {axis : Int} {layer : Layer} (first : op.input "X" = .ok x)
      (second : op.input "Y" = .ok y) (writes : op.output "Out" = .ok name) (declared : context.shape x = .ok a)
      (declared' : context.shape y = .ok b) (built : Layer.add a b axis = .ok layer) :
      Lowered op context .elementwiseAdd (.ofLayer layer [x, y] name)
  | batchNorm {x name : String} {shape : Shape} {statistics : Statistics} {epsilon : Number.Binary64} {layer : Layer}
      (unary : op.Unary context "X" "Y" x name shape)
      (built : Layer.batchNormalization shape statistics epsilon = .ok layer) :
      Lowered op context .batchNorm (.ofLayer layer [x] name)
  | relu {x name : String} {shape : Shape} (unary : op.Unary context "X" "Out" x name shape) :
      Lowered op context .relu (.ofLayer (Layer.relu shape) [x] name)
  | pool2d {x name : String} {shape : Shape} {kernel strides : Int × Int} {layer : Layer}
      (unary : op.Unary context "X" "Out" x name shape)
      (built : Layer.averagePool2d shape .valid kernel strides = .ok layer) :
      Lowered op context .pool2d (.ofLayer layer [x] name)
  | reshape {x name : String} {shape target : Shape} {layer : Layer} (unary : op.Unary context "X" "Out" x name shape)
      (built : Layer.reshape shape target = .ok layer) : Lowered op context .reshape (.ofLayer layer [x] name)
  | softmax {x name : String} {shape : Shape} {axis : Int} (unary : op.Unary context "X" "Out" x name shape) :
      Lowered op context .softmax (.ofLayer (Layer.softmax shape axis) [x] name)

theorem lowered_of_lowerFeed (lowered : op.lowerFeed context = .ok fragment) : op.Lowered context .feed fragment := by
  obtain ⟨name, writes, lowered⟩ := Attempt.bind_eq_ok.mp lowered
  obtain ⟨shape, declared, lowered⟩ := Attempt.bind_eq_ok.mp lowered
  cases lowered
  exact .feed writes declared

theorem lowered_of_lowerFetch (lowered : op.lowerFetch context = .ok fragment) :
    op.Lowered context .fetch fragment := by
  obtain ⟨name, reads, lowered⟩ := Attempt.bind_eq_ok.mp lowered
  obtain ⟨shape, declared, lowered⟩ := Attempt.bind_eq_ok.mp lowered
  cases lowered
  exact .fetch reads declared

theorem lowered_of_lowerConv2d (lowered : op.lowerConv2d context = .ok fragment) :
    op.Lowered context .conv2d fragment := by
  obtain ⟨source, name, filter, shape, groups, weights, strides, convolved, ⟨space, conv, before, built, rfl⟩ |
    ⟨padding, conv, built, rfl⟩⟩ := convolved_of_lowerConv2d lowered
  · exact .padded convolved before built
  · exact .conv2d convolved built

theorem lowered_of_lowerAdd (lowered : op.lowerAdd context = .ok fragment) :
    op.Lowered context .elementwiseAdd fragment := by
  obtain ⟨x, first, lowered⟩ := Attempt.bind_eq_ok.mp lowered
  obtain ⟨y, second, lowered⟩ := Attempt.bind_eq_ok.mp lowered
  obtain ⟨name, writes, lowered⟩ := Attempt.bind_eq_ok.mp lowered
  obtain ⟨axis, _, lowered⟩ := Attempt.bind_eq_ok.mp lowered
  obtain ⟨a, declared, lowered⟩ := Attempt.bind_eq_ok.mp lowered
  obtain ⟨b, declared', lowered⟩ := Attempt.bind_eq_ok.mp lowered
  obtain ⟨layer, built, lowered⟩ := Attempt.bind_eq_ok.mp lowered
  cases lowered
  exact .elementwiseAdd first second writes declared declared' built

theorem lowered_of_lowerBatchNorm (lowered : op.lowerBatchNorm context = .ok fragment) :
    op.Lowered context .batchNorm fragment := by
  obtain ⟨value, _, lowered⟩ := Attempt.bind_eq_ok.mp lowered
  obtain ⟨epsilon, _, lowered⟩ := Attempt.bind_eq_ok.mp lowered
  -- The names of the statistics are looked up before the data, and their payloads are read after it.
  obtain ⟨offset, _, lowered⟩ := Attempt.bind_eq_ok.mp lowered
  obtain ⟨mean, _, lowered⟩ := Attempt.bind_eq_ok.mp lowered
  obtain ⟨scale, _, lowered⟩ := Attempt.bind_eq_ok.mp lowered
  obtain ⟨variance, _, lowered⟩ := Attempt.bind_eq_ok.mp lowered
  obtain ⟨x, reads, lowered⟩ := Attempt.bind_eq_ok.mp lowered
  obtain ⟨name, writes, lowered⟩ := Attempt.bind_eq_ok.mp lowered
  obtain ⟨shape, declared, lowered⟩ := Attempt.bind_eq_ok.mp lowered
  obtain ⟨scale, _, lowered⟩ := Attempt.bind_eq_ok.mp lowered
  obtain ⟨offset, _, lowered⟩ := Attempt.bind_eq_ok.mp lowered
  obtain ⟨mean, _, lowered⟩ := Attempt.bind_eq_ok.mp lowered
  obtain ⟨variance, _, lowered⟩ := Attempt.bind_eq_ok.mp lowered
  obtain ⟨layer, built, lowered⟩ := Attempt.bind_eq_ok.mp lowered
  cases lowered
  exact .batchNorm ⟨reads, writes, declared⟩ built

theorem lowered_of_lowerRelu (lowered : op.lowerRelu context = .ok fragment) : op.Lowered context .relu fragment := by
  obtain ⟨x, reads, lowered⟩ := Attempt.bind_eq_ok.mp lowered
  obtain ⟨name, writes, lowered⟩ := Attempt.bind_eq_ok.mp lowered
  obtain ⟨shape, declared, lowered⟩ := Attempt.bind_eq_ok.mp lowered
  cases lowered
  exact .relu ⟨reads, writes, declared⟩

theorem lowered_of_lowerPool2d (lowered : op.lowerPool2d context = .ok fragment) :
    op.Lowered context .pool2d fragment := by
  obtain ⟨value, _, lowered⟩ := Attempt.bind_eq_ok.mp lowered
  dsimp only at lowered
  split at lowered
  · cases lowered
  · obtain ⟨x, reads, lowered⟩ := Attempt.bind_eq_ok.mp lowered
    obtain ⟨name, writes, lowered⟩ := Attempt.bind_eq_ok.mp lowered
    obtain ⟨shape, declared, lowered⟩ := Attempt.bind_eq_ok.mp lowered
    obtain ⟨_, _, lowered⟩ := Attempt.bind_eq_ok.mp lowered
    obtain ⟨⟨kernel, strides⟩, _, lowered⟩ := Attempt.bind_eq_ok.mp lowered
    obtain ⟨layer, built, lowered⟩ := Attempt.bind_eq_ok.mp lowered
    cases lowered
    exact .pool2d ⟨reads, writes, declared⟩ built

theorem lowered_of_lowerReshape (lowered : op.lowerReshape context = .ok fragment) :
    op.Lowered context .reshape fragment := by
  obtain ⟨target, _, lowered⟩ := Attempt.bind_eq_ok.mp lowered
  obtain ⟨x, reads, lowered⟩ := Attempt.bind_eq_ok.mp lowered
  obtain ⟨name, writes, lowered⟩ := Attempt.bind_eq_ok.mp lowered
  obtain ⟨shape, declared, lowered⟩ := Attempt.bind_eq_ok.mp lowered
  obtain ⟨extents, _, lowered⟩ := Attempt.bind_eq_ok.mp lowered
  obtain ⟨layer, built, lowered⟩ := Attempt.bind_eq_ok.mp lowered
  cases lowered
  exact .reshape ⟨reads, writes, declared⟩ built

theorem lowered_of_lowerSoftmax (lowered : op.lowerSoftmax context = .ok fragment) :
    op.Lowered context .softmax fragment := by
  obtain ⟨x, reads, lowered⟩ := Attempt.bind_eq_ok.mp lowered
  obtain ⟨name, writes, lowered⟩ := Attempt.bind_eq_ok.mp lowered
  obtain ⟨axis, _, lowered⟩ := Attempt.bind_eq_ok.mp lowered
  obtain ⟨shape, declared, lowered⟩ := Attempt.bind_eq_ok.mp lowered
  cases lowered
  exact .softmax ⟨reads, writes, declared⟩

theorem kind_of_lower (lowered : op.lower context = .ok fragment) :
    ∃ kind, OperatorKind.ofTag? op.tag = some kind ∧ op.lowerAs kind context = .ok fragment := by
  unfold lower at lowered
  obtain ⟨kind, tagged, lowered⟩ := Attempt.bind_eq_ok.mp lowered
  rw [Attempt.mapError_eq_ok] at lowered
  unfold OperatorKind.ofTag at tagged
  split at tagged
  · next found =>
    cases tagged
    exact ⟨kind, found, lowered⟩
  · cases tagged

theorem lowered_of_lower (lowered : op.lower context = .ok fragment) :
    ∃ kind, OperatorKind.ofTag? op.tag = some kind ∧ op.Lowered context kind fragment := by
  obtain ⟨kind, known, lowered⟩ := kind_of_lower lowered
  refine ⟨kind, known, ?_⟩
  cases kind with
  | feed => exact lowered_of_lowerFeed lowered
  | fetch => exact lowered_of_lowerFetch lowered
  | conv2d => exact lowered_of_lowerConv2d lowered
  | elementwiseAdd => exact lowered_of_lowerAdd lowered
  | batchNorm => exact lowered_of_lowerBatchNorm lowered
  | relu => exact lowered_of_lowerRelu lowered
  | pool2d => exact lowered_of_lowerPool2d lowered
  | reshape => exact lowered_of_lowerReshape lowered
  | softmax => exact lowered_of_lowerSoftmax lowered

section
variable {kind : OperatorKind} (known : OperatorKind.ofTag? op.tag = some kind)
include known

/-- An operator of one layer that reads one variable. -/
theorem Unary.form {role out x name : String} {shape : Shape} {layer : Layer}
    (unary : op.Unary context role out x name shape) (inner : kind ∉ [.feed, .fetch]) (roles : kind.dataRoles = [role])
    (write : kind.writeRole? = some out) (interior : layer.Interior [shape]) :
    (Fragment.ofLayer layer [x] name).Form context kind op.reads op.write? := by
  rw [reads_eq known, write?_eq known, roles, write]
  simp only [List.filterMap_cons, List.filterMap_nil, Option.bind_some, input_eq_ok.mp unary.reads,
    output_eq_ok.mp unary.writes]
  refine .single inner name ?_ interior
  rw [List.map_singleton, unary.declared]
  rfl

theorem Lowered.form (lowered : op.Lowered context kind fragment) :
    fragment.Form context kind op.reads op.write? := by
  cases lowered with
  | feed writes declared =>
    rw [reads_eq known, write?_eq known]
    simp only [OperatorKind.dataRoles, OperatorKind.writeRole?, List.filterMap_nil, Option.bind_some,
      output_eq_ok.mp writes]
    exact .feed declared
  | fetch reads declared =>
    rw [reads_eq known, write?_eq known]
    simp only [OperatorKind.dataRoles, OperatorKind.writeRole?, List.filterMap_cons, List.filterMap_nil,
      Option.bind_none, input_eq_ok.mp reads]
    exact .fetch declared
  | padded convolved before built =>
    rw [reads_eq known, write?_eq known]
    simp only [OperatorKind.dataRoles, OperatorKind.writeRole?, List.filterMap_cons, List.filterMap_nil,
      Option.bind_some, input_eq_ok.mp convolved.reads, output_eq_ok.mp convolved.writes]
    exact .chain (by decide) _ convolved.declared (Layer.interior_spaceToBatch before) (interior_convolve built)
  | conv2d convolved built =>
    exact Unary.form known ⟨convolved.reads, convolved.writes, convolved.declared⟩ (by decide) rfl rfl
      (interior_convolve built)
  | elementwiseAdd first second writes declared declared' built =>
    rw [reads_eq known, write?_eq known]
    simp only [OperatorKind.dataRoles, OperatorKind.writeRole?, List.filterMap_cons, List.filterMap_nil,
      Option.bind_some, input_eq_ok.mp first, input_eq_ok.mp second, output_eq_ok.mp writes]
    refine .single (by decide) _ ?_ (Layer.interior_add built)
    rw [List.map_cons, List.map_singleton, declared, declared']
    rfl
  | batchNorm unary built => exact unary.form known (by decide) rfl rfl (Layer.interior_batchNormalization built)
  | relu unary => exact unary.form known (by decide) rfl rfl (Layer.interior_unary _ _ (by simp [LayerBody.kind]))
  | pool2d unary built => exact unary.form known (by decide) rfl rfl (Layer.interior_averagePool2d built)
  | reshape unary built => exact unary.form known (by decide) rfl rfl (Layer.interior_reshape built)
  | softmax unary => exact unary.form known (by decide) rfl rfl (Layer.interior_unary _ _ (by simp [LayerBody.kind]))

/-- An argument under a role of data is read. -/
theorem mem_reads {role name : String} (data : role ∈ kind.dataRoles) (input : op.input role = .ok name) :
    name ∈ op.reads := by
  rw [reads_eq known]
  exact List.mem_filterMap.mpr ⟨role, data, input_eq_ok.mp input⟩

/-- A lowered operator reads data, unless it feeds. -/
theorem Lowered.reads_ne_nil (lowered : op.Lowered context kind fragment) (inner : kind ≠ .feed) : op.reads ≠ [] := by
  cases lowered with
  | feed => exact absurd rfl inner
  | fetch reads => exact List.ne_nil_of_mem (mem_reads known List.mem_cons_self reads)
  | padded convolved | conv2d convolved => exact List.ne_nil_of_mem (mem_reads known List.mem_cons_self convolved.reads)
  | elementwiseAdd first => exact List.ne_nil_of_mem (mem_reads known List.mem_cons_self first)
  | batchNorm unary | relu unary | pool2d unary | reshape unary | softmax unary =>
    exact List.ne_nil_of_mem (mem_reads known List.mem_cons_self unary.reads)

end

/-- A lowered operator waits for what it reads and supplies what it writes. -/
theorem form_of_lower (lowered : op.lower context = .ok fragment) :
    ∃ kind, OperatorKind.ofTag? op.tag = some kind ∧ fragment.Form context kind op.reads op.write? := by
  obtain ⟨kind, known, made⟩ := lowered_of_lower lowered
  exact ⟨kind, known, made.form known⟩

theorem reads_ne_nil_of_lower {kind : OperatorKind} (known : OperatorKind.ofTag? op.tag = some kind)
    (inner : kind ≠ .feed) (lowered : op.lower context = .ok fragment) : op.reads ≠ [] := by
  obtain ⟨other, same, made⟩ := lowered_of_lower lowered
  cases known.symm.trans same
  exact made.reads_ne_nil known inner

section
variable {name : String} {shape : Shape} (declared : context.shape name = .ok shape)
include declared

/-- An operator that feeds a declared variable lowers. -/
theorem lower_feed (feeds : OperatorKind.ofTag? op.tag = some .feed) (writes : op.write? = some name) :
    op.lower context = .ok (.feed shape name) := by
  have kind : OperatorKind.ofTag op.tag = .ok .feed := by rw [OperatorKind.ofTag, feeds]
  rw [write?_eq feeds] at writes
  have fed : op.lowerFeed context = .ok (.feed shape name) :=
    Attempt.bind_eq_ok.mpr ⟨name, output_eq_ok.mpr writes, Attempt.bind_eq_ok.mpr ⟨shape, declared, rfl⟩⟩
  exact Attempt.bind_eq_ok.mpr ⟨.feed, kind, Attempt.mapError_eq_ok.mpr fed⟩

/-- An operator that fetches a declared variable lowers. -/
theorem lower_fetch (fetches : OperatorKind.ofTag? op.tag = some .fetch) (reads : op.reads = [name]) :
    op.lower context = .ok (.fetch shape name) := by
  have kind : OperatorKind.ofTag op.tag = .ok .fetch := by rw [OperatorKind.ofTag, fetches]
  have taken : firstName? op.inputs "X" = some name := by
    rw [reads_eq fetches, OperatorKind.dataRoles] at reads
    cases found : firstName? op.inputs "X" with
    | none =>
      rw [List.filterMap_cons_none found] at reads
      cases reads
    | some other =>
      rw [List.filterMap_cons_some found] at reads
      exact congrArg some (List.cons.inj reads).1
  have fetched : op.lowerFetch context = .ok (.fetch shape name) :=
    Attempt.bind_eq_ok.mpr ⟨name, input_eq_ok.mpr taken, Attempt.bind_eq_ok.mpr ⟨shape, declared, rfl⟩⟩
  exact Attempt.bind_eq_ok.mpr ⟨.fetch, kind, Attempt.mapError_eq_ok.mpr fetched⟩

end

end

end Operator

end LayerGraph
