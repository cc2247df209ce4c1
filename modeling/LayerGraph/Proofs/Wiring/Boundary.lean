import LayerGraph.Proofs.Tensor.Extents
import LayerGraph.Proofs.Wiring.Shapes

/-! The boundary of a graph and the declarations.

A layer that takes a variable in has the declared shape, and a constant in its place realizes it. A layer that
hands a variable out has the declared shape too, and the shape that reaches it agrees with this. Layers that
fetch are checked before payloads take the place of boundary layers; a payload realizes the declaration that
it was checked against, so the check stays good.
-/

set_option autoImplicit false

namespace LayerGraph

theorem Context.known_of_shape {context : Context} {name : String} {shape : Shape}
    (known : ∀ declaration ∈ context.block.declarations, declaration.shape.Known)
    (declared : context.shape name = .ok shape) : shape.Known := by
  obtain ⟨declaration, found, rfl⟩ := Attempt.map_eq_ok.mp declared
  unfold Block.declaration at found
  split at found
  · next present =>
    cases found
    exact known _ (List.mem_reverse.mp (List.mem_of_find?_eq_some present))
  · cases found

namespace Layout

/-- A node stands for a variable: the layer of an operator that feeds it, or the layer made up for it. -/
inductive StandsFor (block : Block) (fragments : List Fragment) (name : String) : Nat → Prop
  | fed {number : Nat} {op : Operator} (here : block.operators[number]? = some op)
      (feeds : OperatorKind.ofTag? op.tag = some .feed) (writes : op.write? = some name) :
      StandsFor block fragments name (offset fragments number)
  | made {reader slot : Nat} (reads : block.Reads reader slot name) (nobody : block.Supplier reader name none) :
      StandsFor block fragments name ((layers fragments).length + (made fragments).idxOf name)

/-- A node hands a variable out from a port: the layer of an operator that fetches it, or the layer added for a
written port that nobody reads. -/
inductive Exposes (block : Block) (fragments : List Fragment) (name : String) : Nat → PortRef → Prop
  | fetched {number : Nat} {op : Operator} {supplier : Option Nat} (here : block.operators[number]? = some op)
      (fetches : OperatorKind.ofTag? op.tag = some .fetch) (reads : op.reads = [name])
      (supplies : block.Supplier number name supplier) :
      Exposes block fragments name (offset fragments number) (supplied fragments name supplier)
  | unread {index writer : Nat} {source : PortRef}
      (here : (exposed fragments)[index]? = some (name, (writer, source))) :
      Exposes block fragments name ((layers fragments).length + (made fragments).length + index) source

end Layout

/-- The boundary of a graph agrees with the declarations. Only zeros of an element type with blocks have
extents behind the declared ones. -/
structure Bounded (context : Context) (fragments : List Fragment) (graph : Graph) : Prop where
  lowered : context.block.operators.map (fun op => op.lower context) = fragments.map .ok
  input : ∀ (place : Nat) layer, graph.bare[place]? = some layer → layer.kind = .input →
    ∃ name shape, Layout.StandsFor context.block fragments name place ∧ context.shape name = .ok shape ∧
      layer = Layer.input shape
  constant : ∀ (place : Nat) layer, graph.bare[place]? = some layer → layer.kind = .constant →
    ∃ name declared value found inner, Layout.StandsFor context.block fragments name place ∧
      context.shape name = .ok declared ∧ layer = Layer.constant value ∧ declared.Realizes found ∧
      value.shape = found ++ inner.map Int.ofNat ∧ (inner = [] ∨ context.HasBlocks name inner)
  stands : ∀ name place, Layout.StandsFor context.block fragments name place →
    ∃ layer, graph.bare[place]? = some layer ∧ (layer.kind = .input ∨ layer.kind = .constant)
  output : ∀ (place : Nat) layer, graph.bare[place]? = some layer → layer.kind = .output →
    ∃ name source given shape, Layout.Exposes context.block fragments name place source ∧
      layer = Layer.output shape ∧ graph.sourceOf? ⟨place, 0⟩ = some source ∧
      Layer.sourceShape? graph.nodes source = some given ∧ Shape.compatible given shape = true ∧
      (context.block.declares name = true → context.shape name = .ok shape) ∧
      (context.block.declares name = false → shape = given)
  exposes : ∀ name place source, Layout.Exposes context.block fragments name place source →
    ∃ layer, graph.bare[place]? = some layer ∧ layer.kind = .output

section
variable {context : Context} {fragments : List Fragment} {graph : Graph}

/-- A layer that takes data in, or a constant, stands for a variable that it can supply. -/
theorem Assembled.stands (assembled : Assembled context fragments graph) {place : Nat} {layer : Layer}
    (here : graph.bare[place]? = some layer) (kind : layer.kind = .input ∨ layer.kind = .constant) :
    ∃ name, Layout.StandsFor context.block fragments name place ∧ layer.Source context name := by
  rcases assembled.layer_cases here with
    (there | ⟨name, writer, shape, value, sole, contained, loaded, input, rfl⟩) |
    ⟨index, name, rfl, present, made⟩ | ⟨_, _, _, _, _, _, rfl⟩
  · rcases Layout.layer_cases assembled.lowered there with
      inner | ⟨number, op, shape, name, stands, rfl, declared, ⟨feeds, writes, rfl, _⟩ | ⟨_, _, rfl⟩⟩
    · exact absurd (by rcases kind with same | same <;> simp [same]) inner
    · exact ⟨name, .fed stands feeds writes, .input declared⟩
    · rcases kind with same | same <;> cases same
  · -- The payload belongs to the variable that is fed there, the only one that is written at the port.
    have written : (writer, (⟨place, 0⟩ : PortRef)) ∈ Layout.writers fragments name := by
      rw [sole]
      exact List.mem_singleton.mpr rfl
    rcases Layout.layer_cases assembled.lowered input with
      inner | ⟨number, op, _, other, stands, rfl, _, ⟨feeds, writes, _, fed⟩ | ⟨_, _, same⟩⟩
    · exact absurd List.mem_cons_self inner
    · obtain ⟨rfl, _⟩ := Layout.write_unique assembled.closed fed (Layout.mem_writers.mp written)
      exact ⟨other, .fed stands feeds writes, .constant (Context.loadOrZeros_of_load contained loaded)⟩
    · cases same
  · have member := List.mem_of_getElem? present
    obtain ⟨reader, slot, read, nobody⟩ := (Layout.mem_made assembled.lowered assembled.closed).mp member
    have unique : (Layout.made fragments).Nodup := Layout.nodup_supply List.nodup_nil _
    obtain ⟨inside, same⟩ := List.getElem?_eq_some_iff.mp present
    have position : index = (Layout.made fragments).idxOf name := by
      rw [← same, unique.idxOf_getElem index inside]
    exact ⟨name, position ▸ .made read nobody, Context.source_of_substitute made⟩
  · rcases kind with same | same <;> cases same

theorem Assembled.exists_standing (assembled : Assembled context fragments graph) {name : String} {place : Nat}
    (stands : Layout.StandsFor context.block fragments name place) :
    ∃ layer, graph.bare[place]? = some layer ∧ (layer.kind = .input ∨ layer.kind = .constant) := by
  cases stands with
  | fed here feeds writes =>
    obtain ⟨fragment, kind, present, known, form⟩ := Layout.fragment_of_lowered assembled.lowered here
    cases known.symm.trans feeds
    obtain ⟨shape, other, _, rfl, _⟩ := form.eq_feed
    have first : (Fragment.feed shape other).layers[0]? = some (Layer.input shape) := rfl
    obtain ⟨layer, there, rfl | ⟨_, value, _, rfl⟩⟩ := assembled.layer_of_operator present first
    · exact ⟨_, there, .inl rfl⟩
    · exact ⟨_, there, .inr rfl⟩
  | made reads nobody =>
    obtain ⟨layer, made, here⟩ := assembled.layer_of_made
      ((Layout.mem_made assembled.lowered assembled.closed).mpr ⟨_, _, reads, nobody⟩)
    refine ⟨layer, here, ?_⟩
    rcases Context.substitute_cases made with ⟨value, _, rfl⟩ | ⟨shape, _, rfl⟩
    · exact .inr rfl
    · exact .inl rfl

/-- The check at a layer that fetches stays good where the layer that it was made against has stayed. -/
theorem Assembled.agree_of_kept (assembled : Assembled context fragments graph) {number : Nat} {name : String}
    {shape : Shape} {source : PortRef} (reads : context.block.Reads number 0 name)
    (here : (Layout.layers fragments)[Layout.offset fragments number]? = some (Layer.output shape))
    (origin : source = Layout.origin fragments (Layout.made fragments) name number)
    (kept : ∀ extra : List Layer, (Layout.made fragments).map context.substitute = extra.map .ok →
      Layer.sourceShape? (Layout.layers fragments ++ extra) source = Layer.sourceShape? graph.bare source) :
    ∃ given, Layer.sourceShape? graph.bare source = some given ∧ Shape.compatible given shape = true := by
  obtain ⟨front, extra, shapes, refilled, supplied, _, bare⟩ := assembled.bare
  have read := (Layout.mem_reads_iff assembled.lowered).mpr ⟨0, reads, rfl⟩
  have inside := (List.getElem?_eq_some_iff.mp here).1
  have stands : (Layout.layers fragments ++ extra)[Layout.offset fragments number]? = some (Layer.output shape) :=
    (List.getElem?_append_left inside).trans here
  -- The check was made when the read was bound, before payloads and the layers that hand out were put in.
  rcases assembled.checked extra supplied _ (List.mem_map_of_mem read) with ⟨layer, there, passes⟩ | agree
  · exact absurd (by rw [← Option.some.inj (stands.symm.trans there)]; rfl) passes
  · obtain ⟨given, taken, exits, enters, agrees⟩ := agree
    have same := Layer.targetShape?_of_getElem? stands 0
    cases enters.symm.trans same
    refine ⟨given, ?_, agrees⟩
    rw [← kept extra supplied, origin]
    exact exits

/-- So it does where the layer stands in the graph as it stood among those of operators. -/
theorem Assembled.agree_of_unchanged (assembled : Assembled context fragments graph) {number place : Nat}
    {name : String} {shape : Shape} {layer : Layer} (reads : context.block.Reads number 0 name)
    (fetched : (Layout.layers fragments)[Layout.offset fragments number]? = some (Layer.output shape))
    (origin : (⟨place, 0⟩ : PortRef) = Layout.origin fragments (Layout.made fragments) name number)
    (stays : (Layout.layers fragments)[place]? = some layer) (here : graph.bare[place]? = some layer) :
    ∃ given, Layer.sourceShape? graph.bare ⟨place, 0⟩ = some given ∧ Shape.compatible given shape = true := by
  have inside := (List.getElem?_eq_some_iff.mp stays).1
  exact assembled.agree_of_kept reads fetched origin fun extra _ =>
    Layer.sourceShape?_congr ((List.getElem?_append_left inside).trans stays) here 0

/-- A layer that fetches has the declared shape, and what reaches it agrees with this. -/
theorem Assembled.agree_of_fetch (assembled : Assembled context fragments graph) {number : Nat} {name : String}
    {shape : Shape} {supplier : Option Nat} (known : shape.Known) (declared : context.shape name = .ok shape)
    (reads : context.block.Reads number 0 name)
    (here : (Layout.layers fragments)[Layout.offset fragments number]? = some (Layer.output shape))
    (supplies : context.block.Supplier number name supplier) :
    ∃ given, Layer.sourceShape? graph.bare (Layout.supplied fragments name supplier) = some given ∧
      Shape.compatible given shape = true := by
  have origin := (Layout.origin_of_supplier assembled.lowered assembled.closed supplies).symm
  cases supplier with
  | none =>
    -- Payloads leave the layers that were made up, which stand in the graph as they were checked.
    have made := (Layout.mem_made assembled.lowered assembled.closed).mpr ⟨number, 0, reads, supplies⟩
    obtain ⟨layer, substitute, there⟩ := assembled.layer_of_made made
    refine assembled.agree_of_kept reads here origin fun extra supplied => ?_
    obtain ⟨other, same, position⟩ := Context.exists_substitute supplied made
    cases substitute.symm.trans same
    have stands : (Layout.layers fragments ++ extra)[(Layout.layers fragments).length +
        (Layout.made fragments).idxOf name]? = some layer := by
      rw [List.getElem?_append_right (Nat.le_add_right _ _), Nat.add_sub_cancel_left, position]
    exact Layer.sourceShape?_congr stands there 0
  | some writer =>
    have writes : context.block.Writes writer name := by
      cases supplies <;> assumption
    obtain ⟨place, layer, position, there, source, stays⟩ :=
      assembled.layer_of_write ((Layout.mem_writes_iff assembled.lowered).mpr ⟨writes, rfl⟩)
    rcases stays with unchanged | ⟨contained, kind⟩
    · rw [Layout.supplied, position] at origin ⊢
      exact assembled.agree_of_unchanged reads here origin unchanged there
    · -- A payload has taken the place of the layer that was checked, and realizes the same declaration.
      cases source with
      | inside inner => exact absurd (by simp [kind]) inner
      | input => cases kind
      | @constant value loaded =>
        obtain ⟨wanted, found, inner, same, realizes, extents, blocks⟩ :=
          Context.realizes_of_loadOrZeros (fun other same => Except.ok.inj (declared.symm.trans same) ▸ known) loaded
        cases declared.symm.trans same
        rcases blocks with rfl | ⟨absent, _⟩
        · refine ⟨value.shape, ?_, ?_⟩
          · rw [Layout.supplied, position]
            exact Layer.sourceShape?_of_getElem? there 0
          · rw [extents, List.map_nil, List.append_nil]
            exact realizes.compatible
        · cases contained.symm.trans absent

/-- A layer that hands out exposes a variable, in the shape that is declared for it. -/
theorem Assembled.exposes (assembled : Assembled context fragments graph)
    (known : ∀ declaration ∈ context.block.declarations, declaration.shape.Known) {place : Nat} {layer : Layer}
    (here : graph.bare[place]? = some layer) (kind : layer.kind = .output) :
    ∃ name source given shape, Layout.Exposes context.block fragments name place source ∧
      layer = Layer.output shape ∧ graph.sourceOf? ⟨place, 0⟩ = some source ∧
      Layer.sourceShape? graph.bare source = some given ∧ Shape.compatible given shape = true ∧
      (context.block.declares name = true → context.shape name = .ok shape) ∧
      (context.block.declares name = false → shape = given) := by
  -- Of the layers in a graph those hand out that fetch, and those that were added for unread ports.
  rcases assembled.layer_cases here with (there | ⟨_, _, _, _, _, _, _, _, rfl⟩) |
    ⟨_, _, _, _, made⟩ | ⟨index, ⟨name, writer, source⟩, shape, rfl, unread, exposure, rfl⟩
  · rcases Layout.layer_cases assembled.lowered there with
      inner | ⟨number, op, shape, name, stands, rfl, declared, ⟨_, _, rfl, _⟩ | ⟨fetches, single, rfl⟩⟩
    · exact absurd (by simp [kind]) inner
    · cases kind
    · have reads : context.block.Reads number 0 name := ⟨op, stands, by rw [single]; rfl⟩
      obtain ⟨supplier, supplies, _⟩ := Layout.exists_supplier assembled.lowered assembled.closed name number
      obtain ⟨given, exits, agrees⟩ := assembled.agree_of_fetch (Context.known_of_shape known declared) declared
        reads there supplies
      refine ⟨name, _, given, shape, .fetched stands fetches single supplies, rfl,
        assembled.source_of_read reads supplies, exits, agrees, fun _ => declared, fun absent => ?_⟩
      rw [Context.declares_of_shape declared] at absent
      cases absent
  · cases kind
  · rcases Context.substitute_cases made with ⟨value, _, rfl⟩ | ⟨shape, _, rfl⟩ <;> cases kind
  · obtain ⟨given, exits, agrees, own⟩ := exposure.agrees
    refine ⟨name, source, given, shape, .unread unread, rfl, ?_, exits, agrees, exposure.declared, own⟩
    exact (assembled.edges _ _).mpr (List.mem_append_right _
      (Layout.mem_exposures.mpr ⟨index, name, writer, unread, rfl⟩))

theorem Assembled.exists_exposing (assembled : Assembled context fragments graph) {name : String} {place : Nat}
    {source : PortRef} (exposes : Layout.Exposes context.block fragments name place source) :
    ∃ layer, graph.bare[place]? = some layer ∧ layer.kind = .output := by
  cases exposes with
  | fetched here fetches reads supplies =>
    obtain ⟨fragment, kind, present, known, form⟩ := Layout.fragment_of_lowered assembled.lowered here
    cases known.symm.trans fetches
    obtain ⟨shape, other, _, rfl, _⟩ := form.eq_fetch
    have first : (Fragment.fetch shape other).layers[0]? = some (Layer.output shape) := rfl
    obtain ⟨layer, there, rfl | ⟨_, _, input, _⟩⟩ := assembled.layer_of_operator present first
    · exact ⟨_, there, rfl⟩
    · cases input
  | @unread index _ _ here =>
    obtain ⟨front, extra, shapes, refilled, supplied, exposed, bare⟩ := assembled.bare
    have lengths := congrArg List.length supplied
    rw [List.length_map, List.length_map] at lengths
    have inside := (List.getElem?_eq_some_iff.mp here).1
    rw [exposed.length_eq] at inside
    refine ⟨Layer.output shapes[index], ?_, rfl⟩
    have start : (Layout.layers fragments).length + (Layout.made fragments).length = (front ++ extra).length := by
      rw [List.length_append, refilled.length, lengths]
    rw [bare, start, List.getElem?_append_right (Nat.le_add_right _ _), Nat.add_sub_cancel_left, List.getElem?_map,
      List.getElem?_eq_getElem inside]
    rfl

/-- The boundary of the graph that a block resolves to agrees with the declarations of the block. -/
theorem bounded_of_resolve {threshold : Int}
    (known : ∀ declaration ∈ context.block.declarations, declaration.shape.Known)
    (resolved : context.resolve threshold = .ok graph) : ∃ fragments, Bounded context fragments graph := by
  obtain ⟨fragments, assembled⟩ := assembled_of_resolve resolved
  refine ⟨fragments, assembled.lowered, ?_, ?_, fun _ _ => assembled.exists_standing, ?_,
    fun _ _ _ => assembled.exists_exposing⟩
  · intro place layer here kind
    obtain ⟨name, stands, source⟩ := assembled.stands here (.inl kind)
    cases source with
    | inside inner => exact absurd (by simp [kind]) inner
    | input declared => exact ⟨name, _, stands, declared, rfl⟩
    | constant => cases kind
  · intro place layer here kind
    obtain ⟨name, stands, source⟩ := assembled.stands here (.inr kind)
    cases source with
    | inside inner => exact absurd (by simp [kind]) inner
    | input => cases kind
    | @constant value loaded =>
      obtain ⟨declared, found, inner, shaped, realizes, extents, blocks⟩ :=
        Context.realizes_of_loadOrZeros (fun _ => Context.known_of_shape known) loaded
      exact ⟨name, declared, value, found, inner, stands, shaped, rfl, realizes, extents, blocks⟩
  · intro place layer here kind
    rw [← Layer.sourceShape?_bare]
    exact assembled.exposes known here kind

end

/-- A block that feeds a variable and adds another one that nobody writes. The sum is fetched, and rectified into
a variable without a declaration. -/
def adder : Context where
  block := {
    declarations := [{ name := "x", shape := [-1, 2] }, { name := "w", shape := [2] },
      { name := "y", shape := [4, -1] }]
    operators := [⟨"feed", [], [("Out", ["x"])], []⟩,
      ⟨"elementwise_add", [("X", ["x"]), ("Y", ["w"])], [("Out", ["y"])], []⟩,
      ⟨"fetch", [("X", ["y"])], [], []⟩,
      ⟨"relu", [("X", ["y"])], [("Out", ["z"])], []⟩] }
  tensors := { files := FileTree.empty, directory := ⟨"/", []⟩ }

/-- The layers of the adder, the one made up for the other summand, and the one for the rectified sum. -/
def adderGraph : Graph where
  nodes := [
    ⟨.input, [], [⟨"output", [-1, 2], [⟨1, 0⟩]⟩]⟩,
    ⟨.add (-1), [⟨"a", [-1, 2], some ⟨0, 0⟩⟩, ⟨"b", [2], some ⟨4, 0⟩⟩],
      [⟨"output", [-1, 2], [⟨2, 0⟩, ⟨3, 0⟩]⟩]⟩,
    ⟨.output, [⟨"input", [4, -1], some ⟨1, 0⟩⟩], []⟩,
    ⟨.relu, [⟨"input", [4, -1], some ⟨1, 0⟩⟩], [⟨"output", [4, -1], [⟨5, 0⟩]⟩]⟩,
    ⟨.input, [], [⟨"output", [2], [⟨1, 1⟩]⟩]⟩,
    ⟨.output, [⟨"input", [4, -1], some ⟨3, 0⟩⟩], []⟩]
  inputs := [0, 4]
  outputs := [2, 5]

set_option maxRecDepth 8000 in
theorem resolve_adder : adder.resolve = .ok adderGraph := by cbv

theorem bounded_adderGraph : (∀ declaration ∈ adder.block.declarations, declaration.shape.Known) ∧
    adder.resolve = .ok adderGraph ∧ ∃ fragments, Bounded adder fragments adderGraph :=
  ⟨by decide, resolve_adder, bounded_of_resolve (by decide) resolve_adder⟩

end LayerGraph
