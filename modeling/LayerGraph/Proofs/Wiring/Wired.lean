import LayerGraph.Proofs.Wiring.Closing

/-! Graphs of blocks are completely and consistently wired.

Every input port of the layers of operators is linked or reads a variable, every layer made up has no
inputs, and every boundary layer at the end is bound when it is added. Sources and consumers agree
because they do after each connection and no pass takes a connection away.
-/

set_option autoImplicit false

namespace LayerGraph

namespace Graph

/-- A reference by node and slot to a port that a graph has. -/
def Names {α : Type} (graph : Graph) (ports : Layer → List α) (ref : PortRef) : Prop :=
  ∃ place slot layer, ref = ⟨(place : Nat), (slot : Nat)⟩ ∧ graph.nodes[place]? = some layer ∧
    slot < (ports layer).length

/-- A graph without unbound ports whose sources and consumers exist and agree. -/
structure Wired (graph : Graph) : Prop where
  bound : graph.unboundPorts = []
  source_exists : ∀ target port source, (target, port) ∈ graph.inputPorts →
    port.source = some source → graph.Names Layer.outputs source
  consumer_exists : ∀ source port target, (source, port) ∈ graph.outputPorts →
    target ∈ port.consumers → graph.Names Layer.inputs target
  agree : ∀ source target, graph.Names Layer.outputs source → graph.Names Layer.inputs target →
    ∃ output input, graph.outputPort source = .ok output ∧ graph.inputPort target = .ok input ∧
      (target ∈ output.consumers ↔ input.source = some source) ∧
      (target ∈ output.consumers → output.consumers.count target = 1)

theorem names_iff {α : Type} {graph : Graph} {ports : Layer → List α} {ref : PortRef} :
    graph.Names ports ref ↔ (Layer.portAmong? ports graph.nodes ref).isSome = true :=
  (Layer.isSome_portAmong? ports).symm

/-- Agreement and completeness of the connections make a graph wired. -/
theorem Consistent.wired {graph : Graph} (consistent : graph.Consistent)
    (complete : ∀ ref, (graph.input? ref).isSome = true → (graph.sourceOf? ref).isSome = true) :
    graph.Wired where
  bound := by
    rw [List.eq_nil_iff_forall_not_mem]
    intro ref unbound
    obtain ⟨present, none⟩ := mem_unboundPorts.mp unbound
    have some := complete ref present
    rw [none] at some
    cases some
  source_exists target port source member bound := by
    have binds : graph.sourceOf? target = some source := by
      rw [sourceOf?, mem_inputPorts.mp member]
      exact bound
    exact names_iff.mpr (isSome_output?_of_mem_consumersOf ((consistent.consumes_iff _ _).mpr binds))
  consumer_exists source port target member consumes := by
    have attached : target ∈ graph.consumersOf source := by
      rw [consumersOf, mem_outputPorts.mp member]
      exact consumes
    exact names_iff.mpr (isSome_input?_of_sourceOf? ((consistent.consumes_iff _ _).mp attached))
  agree source target exits enters := by
    obtain ⟨output, here⟩ := Option.isSome_iff_exists.mp (names_iff.mp exits)
    obtain ⟨input, there⟩ := Option.isSome_iff_exists.mp (names_iff.mp enters)
    have consumers : graph.consumersOf source = output.consumers := by
      unfold consumersOf output?
      rw [here]
      rfl
    have bound : graph.sourceOf? target = input.source := by
      unfold sourceOf? input?
      rw [there]
      rfl
    -- Both ends are read from the same graph, where each consumer is listed once.
    have agrees := consistent.consumes_iff source target
    have unique := consistent.nodup source
    rw [consumers] at agrees unique
    rw [bound] at agrees
    exact ⟨output, input, (outputPort_eq_ok (Layer.plain_of_portAmong? _ here)).mpr here,
      (inputPort_eq_ok (Layer.plain_of_portAmong? _ there)).mpr there, agrees,
      List.count_eq_one_of_mem unique⟩

end Graph

section
variable {context : Context} {fragments : List Fragment} {graph : Graph}

/-- The layers of a graph: those of operators, those made up, and those that hand out. -/
theorem Assembled.layer_cases (assembled : Assembled context fragments graph) {place : Nat}
    {layer : Layer} (here : graph.bare[place]? = some layer) :
    ((Layout.layers fragments)[place]? = some layer ∨ ∃ name writer shape value,
      Layout.writers fragments name = [(writer, ⟨place, 0⟩)] ∧ context.tensors.contains name = .ok true ∧
      context.load name = .ok value ∧
      (Layout.layers fragments)[place]? = some (Layer.input shape) ∧ layer = Layer.constant value) ∨
    (∃ index name, place = (Layout.layers fragments).length + index ∧
      (Layout.made fragments)[index]? = some name ∧ context.substitute name = .ok layer) ∨
    ∃ index entry shape, place = (Layout.layers fragments).length +
      (Layout.made fragments).length + index ∧ (Layout.exposed fragments)[index]? = some entry ∧
      Layout.Exposure context graph.bare entry shape ∧ layer = Layer.output shape := by
  obtain ⟨front, extra, shapes, refilled, supplied, exposed, bare⟩ := assembled.bare
  have lengths := congrArg List.length supplied
  rw [List.length_map, List.length_map] at lengths
  -- The arena is three stretches one after the other, and a place falls into one of them.
  rw [bare, List.append_assoc, List.getElem?_append] at here
  split at here
  · rcases refilled.layers place layer here with same | ⟨name, writer, shape, value, replaced⟩
    · exact .inl (.inl same)
    · exact .inl (.inr ⟨name, writer, shape, value, replaced⟩)
  · next late =>
    rw [List.getElem?_append] at here
    have start := refilled.length
    split at here
    · next inside =>
      refine .inr (.inl ⟨place - front.length, ?_⟩)
      have entry := congrArg (fun items => items[place - front.length]?) supplied
      simp only [List.getElem?_map, here, Option.map_some] at entry
      obtain ⟨name, present, same⟩ := Option.map_eq_some_iff.mp entry
      exact ⟨name, by omega, present, same⟩
    · next outside =>
      rw [List.getElem?_map] at here
      obtain ⟨shape, present, rfl⟩ := Option.map_eq_some_iff.mp here
      have bound := (List.getElem?_eq_some_iff.mp present).1
      have position := bound
      rw [← exposed.length_eq] at position
      have exposure := List.Forall₂.get exposed position bound
      rw [List.get_eq_getElem, List.get_eq_getElem, (List.getElem?_eq_some_iff.mp present).2] at exposure
      obtain ⟨given, exits, agrees⟩ := exposure.agrees
      refine .inr (.inr ⟨_, _, shape, by omega, List.getElem?_eq_getElem position, ⟨⟨given, ?_, agrees⟩,
        exposure.declared⟩, rfl⟩)
      rw [bare, List.append_assoc]
      exact Layer.sourceShape?_front exits _

/-- Every input port of a graph has a source. -/
theorem Assembled.complete (assembled : Assembled context fragments graph) (ref : PortRef)
    (present : (graph.input? ref).isSome = true) : (graph.sourceOf? ref).isSome = true := by
  suffices ∃ source, (source, ref) ∈ Layout.edges fragments by
    obtain ⟨source, member⟩ := this
    rw [(assembled.edges source ref).mpr member]
    rfl
  rw [Graph.isSome_input?, Layer.isSome_portAmong?] at present
  obtain ⟨place, slot, layer, rfl, here, bound⟩ := present
  rcases assembled.layer_cases here with (there | ⟨_, _, shape, value, _, _, _, _, same⟩) |
    ⟨index, name, _, _, made⟩ | ⟨index, ⟨name, writer, source⟩, shape, position, exposed, _, same⟩
  · have target := Layout.mem_targets assembled.closed ((Layer.isSome_portAmong? Layer.inputs).mpr
      ⟨place, slot, layer, rfl, there, bound⟩)
    rcases target with linked | reads
    · obtain ⟨⟨source, target⟩, member, rfl⟩ := List.mem_map.mp linked
      exact ⟨source, List.mem_append_left _ (List.mem_append_left _ member)⟩
    · obtain ⟨⟨target, name, reader⟩, member, rfl⟩ := List.mem_map.mp reads
      exact ⟨_, List.mem_append_left _ (List.mem_append_right _ (List.mem_map_of_mem member))⟩
  · subst same
    cases bound
  · rcases Context.substitute_cases made with ⟨value, _, rfl⟩ | ⟨shape, _, rfl⟩ <;> cases bound
  · subst same
    -- A boundary layer has one port, and an exposed port is connected to it.
    have only : slot = 0 := Nat.lt_one_iff.mp bound
    subst only
    refine ⟨source, List.mem_append_right _ (Layout.mem_exposures.mpr ⟨index, name, writer, exposed, ?_⟩)⟩
    rw [position]
    rfl

/-- The graph that a block resolves to is completely and consistently wired. -/
theorem wired_of_resolve {threshold : Int} (resolved : context.resolve threshold = .ok graph) :
    graph.Wired := by
  obtain ⟨fragments, assembled⟩ := assembled_of_resolve resolved
  exact assembled.consistent.wired assembled.complete

end

theorem wired_rectifierGraph : rectifier.resolve = .ok rectifierGraph ∧ rectifierGraph.Wired :=
  ⟨resolve_rectifier, wired_of_resolve resolve_rectifier⟩

end LayerGraph
