import LayerGraph.Proofs.Graph.Paths
import LayerGraph.Proofs.Wiring.Versions
import LayerGraph.Proofs.Wiring.Wired

/-! Nothing of a resolved graph hangs in the air.

Every output port of a lowered operator is linked inside of it or supplies the variable that it writes, which is
read or else handed out; and a layer is made up for a read only. So every output port has a consumer. Every layer
takes something in, unless it is a boundary input or a constant, and gives something out, unless it is a boundary
output. Without cycles the walks along these connections end at the boundary.
-/

set_option autoImplicit false

namespace LayerGraph

/-- A layer where data enters a graph. -/
def Layer.Enters (layer : Layer) : Prop := layer.kind = .input ∨ layer.kind = .constant

/-- A graph without loose ends: every output port is consumed, and every node lies on a path from the boundary
to the boundary as soon as there are no cycles. -/
structure Graph.Threaded (graph : Graph) : Prop where
  consumed : ∀ layer ∈ graph.nodes, ∀ port ∈ layer.outputs, port.consumers ≠ []
  acyclic_iff : graph.isAcyclic = true ↔ graph.Acyclic
  threaded : graph.Acyclic → ∀ place < graph.size, ∃ (first last : Nat) (start finish : Layer),
    graph.nodes[first]? = some start ∧ start.Enters ∧ Relation.ReflTransGen graph.Leads first place ∧
    Relation.ReflTransGen graph.Leads place last ∧ graph.nodes[last]? = some finish ∧ finish.kind = .output

namespace Layout

variable {context : Context} {fragments : List Fragment}

/-- A written port is read or handed out. -/
theorem edge_of_write {name : String} {writer : Nat} {source : PortRef}
    (written : (name, (writer, source)) ∈ writes fragments) : ∃ target, (source, target) ∈ edges fragments := by
  by_cases taken : source ∈ sources fragments
  · obtain ⟨⟨_, target⟩, member, rfl⟩ := List.mem_map.mp taken
    exact ⟨target, List.mem_append_left _ member⟩
  · have unread : (name, (writer, source)) ∈ exposed fragments :=
      List.mem_filter.mpr ⟨written, decide_eq_true taken⟩
    obtain ⟨index, here⟩ := List.mem_iff_getElem?.mp unread
    exact ⟨_, List.mem_append_right _ (mem_exposures.mpr ⟨index, name, writer, here, rfl⟩)⟩

variable (lowered : context.block.operators.map (fun op => op.lower context) = fragments.map .ok)
include lowered

/-- Every layer of operators belongs to an operator that lowers to it and others. -/
theorem operator_of_layer {place : Nat} {layer : Layer} (here : (layers fragments)[place]? = some layer) :
    ∃ number index, ∃ (op : Operator) (fragment : Fragment), fragments[number]? = some fragment ∧
      fragment.layers[index]? = some layer ∧ place = offset fragments number + index ∧ op.lower context = .ok fragment := by
  obtain ⟨number, index, fragment, present, there, position⟩ := fragment_of_layer here
  have same := congrArg (fun items => items[number]?) lowered
  simp only [List.getElem?_map, present, Option.map_some] at same
  obtain ⟨op, _, made⟩ := Option.map_eq_some_iff.mp same
  exact ⟨number, index, op, fragment, present, there, position, made⟩

/-- Every output port of the layers of operators is linked, read or handed out. -/
theorem edge_of_output {place slot : Nat} {layer : Layer} (here : (layers fragments)[place]? = some layer)
    (below : slot < layer.outputs.length) : ∃ target, (⟨(place : Nat), (slot : Nat)⟩, target) ∈ edges fragments := by
  obtain ⟨number, index, op, fragment, present, there, rfl, made⟩ := operator_of_layer lowered here
  obtain ⟨_, _, form⟩ := Operator.form_of_lower made
  have placed : (⟨number, offset fragments number, fragment⟩ : Placed) ∈ placed fragments :=
    mem_placed.mpr ⟨present, rfl⟩
  have position : (⟨(offset fragments number + index : Nat), (slot : Nat)⟩ : PortRef) =
      (⟨(index : Nat), (slot : Nat)⟩ : PortRef).rebase (offset fragments number) := by
    simp only [PortRef.rebase, PortRef.mk.injEq, and_true]
    omega
  rw [position]
  rcases form.links_or_supplies ((Layer.isSome_portAmong? Layer.outputs).mpr
    ⟨index, slot, layer, rfl, there, below⟩) with ⟨target, linked⟩ | ⟨name, supplies⟩
  · refine ⟨target.rebase (offset fragments number), List.mem_append_left _ (List.mem_append_left _ ?_)⟩
    exact mem_links.mpr ⟨_, placed, _, linked, rfl, rfl⟩
  · exact edge_of_write (mem_writes.mpr ⟨_, placed, rfl, _, supplies, rfl⟩)

/-- A layer that is made up is read. -/
theorem edge_of_made (closed : Closed fragments) {name : String} (made : name ∈ made fragments) :
    ∃ target, (madeUp fragments name, target) ∈ edges fragments := by
  obtain ⟨reader, slot, reads, nobody⟩ := (mem_made lowered closed).mp made
  refine ⟨entry fragments reader slot, List.mem_append_left _ (List.mem_append_right _ ?_)⟩
  refine List.mem_map.mpr ⟨_, (mem_reads_iff lowered).mpr ⟨slot, reads, rfl⟩, ?_⟩
  exact congrArg (·, _) (origin_of_supplier lowered closed nobody)

end Layout

section
variable {context : Context} {fragments : List Fragment} {graph : Graph}

/-- Every output port of a graph is the source of a connection. -/
theorem Assembled.feeds (assembled : Assembled context fragments graph) {place slot : Nat} {layer : Layer}
    (here : graph.bare[place]? = some layer) (below : slot < layer.outputs.length) :
    ∃ target, (⟨(place : Nat), (slot : Nat)⟩, target) ∈ Layout.edges fragments := by
  rcases assembled.layer_cases here with (there | ⟨_, _, shape, value, _, _, _, input, rfl⟩) |
    ⟨index, name, rfl, present, made⟩ | ⟨_, _, shape, _, _, _, rfl⟩
  · exact Layout.edge_of_output assembled.lowered there below
  · -- A payload has one output, as the boundary layer that it took the place of.
    exact Layout.edge_of_output assembled.lowered input below
  · have single : layer.outputs.length = 1 := by
      rcases Context.substitute_cases made with ⟨value, _, rfl⟩ | ⟨shape, _, rfl⟩ <;> rfl
    rw [single] at below
    obtain rfl := Nat.lt_one_iff.mp below
    have unique : (Layout.made fragments).Nodup := Layout.nodup_supply List.nodup_nil _
    obtain ⟨inside, same⟩ := List.getElem?_eq_some_iff.mp present
    have position : (Layout.made fragments).idxOf name = index := by
      rw [← same, unique.idxOf_getElem index inside]
    rw [← position]
    exact Layout.edge_of_made assembled.lowered assembled.closed (List.mem_of_getElem? present)
  · cases below

/-- A layer takes something in, or data enters the graph there. -/
theorem Assembled.enters_or_takes (assembled : Assembled context fragments graph) {place : Nat} {layer : Layer}
    (here : graph.bare[place]? = some layer) : layer.Enters ∨ 0 < layer.inputs.length := by
  rcases assembled.layer_cases here with (there | ⟨_, _, _, _, _, _, _, _, rfl⟩) |
    ⟨_, _, _, _, made⟩ | ⟨_, _, _, _, _, _, rfl⟩
  · obtain ⟨_, _, op, _, _, member, _, made⟩ := Layout.operator_of_layer assembled.lowered there
    obtain ⟨kind, known, form⟩ := Operator.form_of_lower made
    have data := fun inner => Operator.reads_ne_nil_of_lower known inner made
    exact (form.inputs_of_layer data (List.mem_of_getElem? member)).imp_left .inl
  · exact .inl (.inr rfl)
  · rcases Context.substitute_cases made with ⟨_, _, rfl⟩ | ⟨_, _, rfl⟩
    · exact .inl (.inr rfl)
    · exact .inl (.inl rfl)
  · exact .inr Nat.one_pos

/-- A layer gives something out, or data leaves the graph there. -/
theorem Assembled.leaves_or_gives (assembled : Assembled context fragments graph) {place : Nat} {layer : Layer}
    (here : graph.bare[place]? = some layer) : layer.kind = .output ∨ 0 < layer.outputs.length := by
  rcases assembled.layer_cases here with (there | ⟨_, _, _, _, _, _, _, _, rfl⟩) |
    ⟨_, _, _, _, made⟩ | ⟨_, _, _, _, _, _, rfl⟩
  · obtain ⟨_, _, _, _, _, member, _, made⟩ := Layout.operator_of_layer assembled.lowered there
    obtain ⟨_, _, form⟩ := Operator.form_of_lower made
    exact form.outputs_of_layer (List.mem_of_getElem? member)
  · exact .inr Nat.one_pos
  · rcases Context.substitute_cases made with ⟨_, _, rfl⟩ | ⟨_, _, rfl⟩
    · exact .inr Nat.one_pos
    · exact .inr Nat.one_pos
  · exact .inl rfl

/-- Data enters the graph at a node, or a connection leads there. -/
theorem Assembled.step_back (assembled : Assembled context fragments graph) {place : Nat}
    (inside : place < graph.size) : (∃ layer, graph.nodes[place]? = some layer ∧ layer.Enters) ∨
      ∃ earlier < graph.size, graph.Leads earlier place := by
  have present : graph.nodes[place]? = some graph.nodes[place] := List.getElem?_eq_getElem inside
  have here : graph.bare[place]? = some graph.nodes[place].bare := by rw [Graph.bare, List.getElem?_map, present]; rfl
  rcases assembled.enters_or_takes here with enters | takes
  · exact .inl ⟨_, present, enters⟩
  · have named : (graph.input? ⟨(place : Nat), (0 : Nat)⟩).isSome = true := by
      rw [Graph.isSome_input?]
      exact (Layer.isSome_portAmong? _).mpr ⟨place, 0, _, rfl, here, takes⟩
    obtain ⟨source, bound⟩ := Option.isSome_iff_exists.mp (assembled.complete _ named)
    have edge := Graph.mem_edges.mpr bound
    have exits := assembled.consistent.sourced _ _ edge
    have leads : graph.Leads source.node.toNat place :=
      ⟨source, _, edge, (Int.toNat_of_nonneg exits.1).symm, rfl⟩
    exact .inr ⟨_, leads.source_lt assembled.consistent.sourced, leads⟩

/-- Data leaves the graph at a node, or a connection leads on. -/
theorem Assembled.step_on (assembled : Assembled context fragments graph) {place : Nat}
    (inside : place < graph.size) : (∃ layer, graph.nodes[place]? = some layer ∧ layer.kind = .output) ∨
      ∃ later, graph.Leads place later := by
  have present : graph.nodes[place]? = some graph.nodes[place] := List.getElem?_eq_getElem inside
  have here : graph.bare[place]? = some graph.nodes[place].bare := by rw [Graph.bare, List.getElem?_map, present]; rfl
  rcases assembled.leaves_or_gives here with leaves | gives
  · exact .inl ⟨_, present, leaves⟩
  · obtain ⟨target, member⟩ := assembled.feeds here gives
    have edge := Graph.mem_edges.mpr ((assembled.edges _ _).mpr member)
    have enters : 0 ≤ target.node ∧ target.node < graph.size := Graph.edge_inside edge
    exact .inr ⟨target.node.toNat, _, target, edge, rfl, (Int.toNat_of_nonneg enters.1).symm⟩

/-- Every output port of the graph that a block resolves to has a consumer, and without cycles every node lies on
a path from where data enters to where it leaves. -/
theorem threaded_of_resolve {threshold : Int} (resolved : context.resolve threshold = .ok graph) :
    graph.Threaded := by
  obtain ⟨fragments, assembled⟩ := assembled_of_resolve resolved
  refine ⟨fun layer member port exits => ?_, Graph.isAcyclic_iff assembled.consistent.sourced,
    fun acyclic place inside => ?_⟩
  · obtain ⟨place, present⟩ := List.mem_iff_getElem?.mp member
    obtain ⟨slot, there⟩ := List.mem_iff_getElem?.mp exits
    have named : graph.output? ⟨(place : Nat), (slot : Nat)⟩ = some port :=
      (Layer.portAmong?_eq_some _).mpr ⟨place, slot, layer, rfl, present, there⟩
    have here : graph.bare[place]? = some layer.bare := by rw [Graph.bare, List.getElem?_map, present]; rfl
    have below : slot < layer.bare.outputs.length := by
      rw [Layer.bare, List.length_map]
      exact (List.getElem?_eq_some_iff.mp there).1
    obtain ⟨target, edge⟩ := assembled.feeds here below
    have consumes := (assembled.consistent.consumes_iff _ target).mpr ((assembled.edges _ _).mpr edge)
    rw [Graph.consumersOf, named] at consumes
    exact List.ne_nil_of_mem consumes
  · have ranked := acyclic.ranked assembled.consistent.sourced
    obtain ⟨first, ⟨start, begins, enters⟩, before⟩ :=
      ranked.exists_first (fun _ below => assembled.step_back below) inside
    obtain ⟨last, ⟨finish, ends, leaves⟩, after⟩ :=
      ranked.exists_last (fun _ below => assembled.step_on below) inside
    exact ⟨first, last, start, finish, begins, enters, before, after, ends, leaves⟩

theorem threaded_rectifierGraph : rectifier.resolve = .ok rectifierGraph ∧ rectifierGraph.Threaded ∧
    rectifierGraph.Acyclic :=
  have threaded := threaded_of_resolve resolve_rectifier
  ⟨resolve_rectifier, threaded, threaded.acyclic_iff.mp (by decide)⟩

end

end LayerGraph
