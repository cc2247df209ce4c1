import LayerGraph.Proofs.Wiring.Boundary

/-! Shapes along the connections inside a graph.

A layer that reads a variable is made for the declared shape, whatever shape reaches it. Where the shape comes
from a boundary layer or a constant it agrees with the declaration. Where a layer inside infers it, only a
layer that hands out holds the two against each other, so a block can resolve to a graph in which an inferred
shape contradicts the declared one.
-/

set_option autoImplicit false

namespace LayerGraph

/-- Where nothing holds the shape that a source gives against the declaration of the variable. -/
inductive Unchecked (context : Context) (graph : Graph) (name : String) (source : PortRef)
    (declared : Shape) : Prop
  /-- A layer inside infers the shape, and no layer that hands out takes it. -/
  | inferred {place : Nat} {layer : Layer} (stands : source = ⟨place, 0⟩) (here : graph.bare[place]? = some layer)
      (inside : layer.kind ∉ [LayerKind.input, .output, .constant])
      (unexposed : ∀ target, (source, target) ∈ graph.edges → Layer.PassesOn graph.nodes target)
  /-- A constant settles an extent that is declared below the unknown one, or has the extents of blocks behind
  the declared ones. -/
  | constant {place : Nat} {layer : Layer} (stands : source = ⟨place, 0⟩) (here : graph.bare[place]? = some layer)
      (kind : layer.kind = .constant)
      (beyond : (∃ extent ∈ declared, extent < unknown) ∨ ∃ inner, inner ≠ [] ∧ context.HasBlocks name inner)

/-- The shapes along the connections to layers that do not hand out. A connection inside of an operator has one
shape. A read has the declared shape, and the shape that reaches it agrees with this unless it is unchecked. -/
structure Interior (context : Context) (fragments : List Fragment) (graph : Graph) : Prop where
  lowered : context.block.operators.map (fun op => op.lower context) = fragments.map .ok
  agrees : ∀ source target, (source, target) ∈ graph.edges → Layer.PassesOn graph.nodes target →
    ∃ given taken, Layer.sourceShape? graph.nodes source = some given ∧
      Layer.targetShape? graph.nodes target = some taken ∧
      ((source, target) ∈ Layout.links fragments ∧ given = taken ∨
        ∃ reader slot name supplier, context.block.Reads reader slot name ∧
          target = Layout.entry fragments reader slot ∧ context.block.Supplier reader name supplier ∧
          source = Layout.supplied fragments name supplier ∧ context.shape name = .ok taken ∧
          (Shape.compatible given taken = true ∨ Unchecked context graph name source taken))

/-- What stands for a variable at a boundary gives the declared shape, some extents of constants apart. -/
theorem Layer.Source.settled {context : Context} {name : String} {layer : Layer} {declared : Shape}
    (source : layer.Source context name) (shaped : context.shape name = .ok declared) :
    layer.kind ∉ [LayerKind.input, .output, .constant] ∨ ∃ given, layer.outputs.map OutputPort.shape = [given] ∧
      (Shape.compatible given declared = true ∨ layer.kind = .constant ∧
        ((∃ extent ∈ declared, extent < unknown) ∨ ∃ inner, inner ≠ [] ∧ context.HasBlocks name inner)) := by
  cases source with
  | inside kind => exact .inl kind
  | input same =>
    cases shaped.symm.trans same
    exact .inr ⟨declared, rfl, .inl (Shape.compatible_self declared)⟩
  | @constant value loaded =>
    refine .inr ⟨value.shape, rfl, ?_⟩
    by_cases known : declared.Known
    · obtain ⟨wanted, found, inner, same, realizes, extents, blocks⟩ :=
        Context.realizes_of_loadOrZeros (fun other same => Except.ok.inj (shaped.symm.trans same) ▸ known) loaded
      cases shaped.symm.trans same
      by_cases none : inner = []
      · rw [extents, none, List.map_nil, List.append_nil]
        exact .inl realizes.compatible
      · exact .inr ⟨rfl, .inr ⟨inner, none, blocks.resolve_left none⟩⟩
    · simp only [Shape.Known, not_forall, Int.not_le] at known
      obtain ⟨extent, member, low⟩ := known
      exact .inr ⟨rfl, .inl ⟨extent, member, low⟩⟩

section
variable {context : Context} {fragments : List Fragment} {graph : Graph}

/-- A connection lies inside of an operator, supplies a read, or hands an unread port out. -/
theorem Assembled.edge_cases (assembled : Assembled context fragments graph) {source target : PortRef}
    (edge : (source, target) ∈ graph.edges) :
    (source, target) ∈ Layout.links fragments ∨
      (source, target) ∈ Layout.bindings fragments (Layout.made fragments) (Layout.reads fragments) ∨
      (source, target) ∈ Layout.exposures ((Layout.layers fragments).length + (Layout.made fragments).length)
        (Layout.exposed fragments) := by
  rw [← or_assoc, ← List.mem_append, ← List.mem_append]
  exact (assembled.edges source target).mp (Graph.mem_edges.mp edge)

/-- A connection inside of an operator has one shape at both ends. -/
theorem Assembled.shape_of_link (assembled : Assembled context fragments graph) {source target : PortRef}
    (linked : (source, target) ∈ Layout.links fragments) : Layer.PassesOn graph.bare target ∧ ∃ shape,
      Layer.sourceShape? graph.bare source = some shape ∧ Layer.targetShape? graph.bare target = some shape := by
  obtain ⟨place, present, ⟨start, finish⟩, member, rfl, rfl⟩ := Layout.mem_links.mp linked
  obtain ⟨here, position⟩ := Layout.mem_placed.mp present
  obtain ⟨_, _, _, _, form⟩ := Layout.form_of_lowered assembled.lowered here
  obtain ⟨first, second, shape, layers, rfl, rfl, inside, beyond, given, taken⟩ := form.exists_pair member
  -- No boundary layer stands there, so no payload took its place.
  have stays : ∀ (index : Nat) {layer : Layer}, place.fragment.layers[index]? = some layer →
      layer.kind ∉ [LayerKind.input, .output, .constant] →
        graph.bare[Layout.offset fragments place.reader + index]? = some layer := by
    intro index layer there inner
    obtain ⟨other, stands, rfl | ⟨_, _, rfl, _⟩⟩ := assembled.layer_of_operator here there
    · exact stands
    · exact absurd List.mem_cons_self inner
  have before := stays 0 (by rw [layers]; rfl) inside
  have after := stays 1 (by rw [layers]; rfl) beyond
  have exits := Layer.sourceShape?_of_getElem? before 0
  have enters := Layer.targetShape?_of_getElem? after 0
  rw [given] at exits
  rw [taken] at enters
  rw [position]
  have next : (⟨1, 0⟩ : PortRef).rebase (Layout.offset fragments place.reader) =
      ⟨(Layout.offset fragments place.reader + 1 : Nat), (0 : Nat)⟩ := by
    simp only [PortRef.rebase, PortRef.mk.injEq]
    omega
  have same : (⟨0, 0⟩ : PortRef).rebase (Layout.offset fragments place.reader) =
      ⟨(Layout.offset fragments place.reader + 0 : Nat), (0 : Nat)⟩ := by
    simp only [PortRef.rebase, PortRef.mk.injEq]
    omega
  rw [next, same]
  refine ⟨⟨second, after, fun hands => beyond (by simp [hands])⟩, shape, exits, enters⟩

/-- A layer that reads a variable passes it on, or fetches it in the declared shape. -/
theorem Assembled.passes_or_fetches (assembled : Assembled context fragments graph) {reader slot : Nat}
    {name : String} (reads : context.block.Reads reader slot name) :
    Layer.PassesOn graph.bare (Layout.entry fragments reader slot) ∨ slot = 0 ∧ ∃ shape,
      context.shape name = .ok shape ∧
      (Layout.layers fragments)[Layout.offset fragments reader]? = some (Layer.output shape) := by
  obtain ⟨op, here, read⟩ := reads
  obtain ⟨fragment, kind, present, _, form⟩ := Layout.fragment_of_lowered assembled.lowered here
  obtain ⟨first, rest, _, layers, _, _⟩ := form.exists_first
  have there : fragment.layers[0]? = some first := by
    rw [layers]
    rfl
  obtain ⟨layer, stands, same⟩ := assembled.layer_of_operator present there
  have passes : first.kind ≠ .output → Layer.PassesOn graph.bare (Layout.entry fragments reader slot) := by
    intro inner
    refine ⟨layer, stands, ?_⟩
    rcases same with rfl | ⟨_, _, _, rfl⟩
    · exact inner
    · nofun
  rcases form.layer_cases there with inner | ⟨_, shape, other, declared, ⟨_, _, _, rfl⟩ | ⟨_, single, _, rfl⟩⟩
  · exact .inl (passes fun hands => inner (by simp [hands]))
  · exact .inl (passes nofun)
  · rw [single, List.getElem?_singleton] at read
    split at read
    · next first =>
      cases read
      exact .inr ⟨first, shape, declared, Layout.layers_of_fragment present there⟩
    · cases read

/-- A port that a written variable comes from supplies no other variable. -/
theorem Assembled.name_of_origin (assembled : Assembled context fragments graph) {name wanted : String}
    {writer reader : Nat} {source : PortRef} (written : (name, (writer, source)) ∈ Layout.writes fragments)
    (low : source.node < (Layout.layers fragments).length)
    (origin : Layout.origin fragments (Layout.made fragments) wanted reader = source) : wanted = name := by
  obtain ⟨supplier, supplies, _⟩ := Layout.exists_supplier assembled.lowered assembled.closed wanted reader
  rw [Layout.origin_of_supplier assembled.lowered assembled.closed supplies] at origin
  cases supplier with
  | none =>
    -- A layer that is made up stands behind those of operators.
    rw [← origin] at low
    simp only [Layout.supplied, Layout.madeUp] at low
    omega
  | some later =>
    have writes : context.block.Writes later wanted := by
      cases supplies <;> assumption
    exact (Layout.write_unique assembled.closed
      ((Layout.mem_writes_iff assembled.lowered).mpr ⟨writes, origin.symm⟩) written).1

/-- What an operator infers agrees with the declaration once a layer takes it to hand it out. -/
theorem Assembled.agree_of_exposed (assembled : Assembled context fragments graph) {name : String} {writer : Nat}
    {place : Nat} {layer : Layer} {source target other : PortRef} {given declared : Shape}
    (written : (name, (writer, source)) ∈ Layout.writes fragments) (position : source = ⟨place, 0⟩)
    (here : graph.bare[place]? = some layer) (stays : (Layout.layers fragments)[place]? = some layer)
    (exits : Layer.sourceShape? graph.bare source = some given) (shaped : context.shape name = .ok declared)
    (read : (source, target) ∈
      Layout.bindings fragments (Layout.made fragments) (Layout.reads fragments))
    (edge : (source, other) ∈ graph.edges) (hands : ¬ Layer.PassesOn graph.bare other) :
    Shape.compatible given declared = true := by
  have low : source.node < (Layout.layers fragments).length := by
    rw [position]
    exact Int.ofNat_lt.mpr (List.getElem?_eq_some_iff.mp stays).1
  -- Of the three kinds of connections, only a read at a layer that fetches can be the one that hands out.
  rcases assembled.edge_cases edge with linked | bound | exposed
  · exact absurd (assembled.shape_of_link linked).1 hands
  · obtain ⟨⟨port, wanted, reader⟩, member, same⟩ := List.mem_map.mp bound
    obtain ⟨origin, rfl⟩ := Prod.mk.inj same
    obtain ⟨slot, reads, rfl⟩ := (Layout.mem_reads_iff assembled.lowered).mp member
    rcases assembled.passes_or_fetches reads with passes | ⟨rfl, shape, known, fetched⟩
    · exact absurd passes hands
    · -- The layer fetches the variable of the port, so the check was made against its declaration.
      cases assembled.name_of_origin written low origin
      cases known.symm.trans shaped
      subst position
      obtain ⟨reached, reaches, agrees⟩ :=
        assembled.agree_of_unchanged reads fetched origin.symm stays here
      cases exits.symm.trans reaches
      exact agrees
  · -- A layer that is added at the end takes a port that nobody reads.
    obtain ⟨index, _, _, unread, _⟩ := Layout.mem_exposures.mp exposed
    have free := (List.mem_filter.mp (List.mem_of_getElem? unread)).2
    simp only [decide_eq_true_eq] at free
    refine absurd ?_ free
    exact List.mem_map.mpr ⟨_, List.mem_append_right _ read, rfl⟩

/-- A read has the declared shape, and unless it is unchecked the shape that reaches it agrees with this. -/
theorem Assembled.agree_of_read (assembled : Assembled context fragments graph) {source target : PortRef}
    (edge : (source, target) ∈ graph.edges)
    (member : (source, target) ∈
      Layout.bindings fragments (Layout.made fragments) (Layout.reads fragments)) :
    ∃ given taken reader slot name supplier, Layer.sourceShape? graph.bare source = some given ∧
      Layer.targetShape? graph.bare target = some taken ∧ context.block.Reads reader slot name ∧
      target = Layout.entry fragments reader slot ∧ context.block.Supplier reader name supplier ∧
      source = Layout.supplied fragments name supplier ∧ context.shape name = .ok taken ∧
      (Shape.compatible given taken = true ∨ Unchecked context graph name source taken) := by
  obtain ⟨⟨port, name, reader⟩, read, same⟩ := List.mem_map.mp member
  obtain ⟨origin, rfl⟩ := Prod.mk.inj same
  obtain ⟨taken, shaped, enters⟩ := assembled.shape_of_read read
  obtain ⟨slot, reads, rfl⟩ := (Layout.mem_reads_iff assembled.lowered).mp read
  obtain ⟨supplier, supplies, _⟩ := Layout.exists_supplier assembled.lowered assembled.closed name reader
  rw [Layout.origin_of_supplier assembled.lowered assembled.closed supplies] at origin
  obtain ⟨place, layer, position, here, stands, owned⟩ := assembled.layer_of_supplied reads supplies
  rw [origin] at position owned
  obtain ⟨given, exits⟩ : ∃ given, Layer.sourceShape? graph.bare source = some given := by
    have bound := (assembled.consistent.consumes_iff _ _).mpr (Graph.mem_edges.mp edge)
    obtain ⟨output, present⟩ := Option.isSome_iff_exists.mp (Graph.isSome_output?_of_mem_consumersOf bound)
    rw [Graph.bare, Layer.sourceShape?_bare]
    exact ⟨output.shape, Option.map_eq_some_iff.mpr ⟨output, present, rfl⟩⟩
  refine ⟨given, taken, reader, slot, name, supplier, exits, enters, reads, rfl, supplies, origin.symm, shaped, ?_⟩
  rcases stands.settled shaped with inside | ⟨other, only, settled⟩
  · by_cases agrees : Shape.compatible given taken = true
    · exact .inl agrees
    · obtain ⟨writer, written, stays⟩ := owned inside
      refine .inr (.inferred position here inside fun other taker => ?_)
      rw [← Layer.passesOn_bare]
      exact Classical.byContradiction fun hands =>
        agrees (assembled.agree_of_exposed written position here stays exits shaped member taker hands)
  · have same := Layer.sourceShape?_of_getElem? here 0
    rw [only] at same
    cases exits.symm.trans (position ▸ same)
    rcases settled with agrees | ⟨kind, beyond⟩
    · exact .inl agrees
    · exact .inr (.constant position here kind beyond)

/-- In the graph that a block resolves to, shapes agree along the connections inside, unless they are
unchecked. -/
theorem interior_of_resolve {threshold : Int} (resolved : context.resolve threshold = .ok graph) :
    ∃ fragments, Interior context fragments graph := by
  obtain ⟨fragments, assembled⟩ := assembled_of_resolve resolved
  refine ⟨fragments, assembled.lowered, fun source target edge passes => ?_⟩
  rw [← Layer.sourceShape?_bare, ← Layer.targetShape?_bare]
  rcases assembled.edge_cases edge with linked | bound | exposed
  · obtain ⟨_, shape, exits, enters⟩ := assembled.shape_of_link linked
    exact ⟨shape, shape, exits, enters, .inl ⟨linked, rfl⟩⟩
  · obtain ⟨given, taken, reader, slot, name, supplier, exits, enters, read⟩ :=
      assembled.agree_of_read edge bound
    exact ⟨given, taken, exits, enters, .inr ⟨reader, slot, name, supplier, read⟩⟩
  · -- A layer that is added at the end hands out.
    obtain ⟨index, name, writer, unread, rfl⟩ := Layout.mem_exposures.mp exposed
    obtain ⟨layer, here, hands⟩ := assembled.exists_exposing (.unread unread)
    obtain ⟨other, there, passes⟩ := Layer.passesOn_bare.mpr passes
    cases here.symm.trans there
    exact absurd hands passes

end

/-- A block that rectifies two extents into a variable that is declared with three, and reads this again. -/
def stretched : Context where
  block := {
    declarations := [{ name := "x", shape := [2] }, { name := "y", shape := [3] }, { name := "z", shape := [3] }]
    operators := [⟨"relu", [("X", ["x"])], [("Out", ["y"])], []⟩,
      ⟨"relu", [("X", ["y"])], [("Out", ["z"])], []⟩] }
  tensors := { files := FileTree.empty, directory := ⟨"/", []⟩ }

/-- The second layer is made for three extents, and two reach it. -/
def stretchedGraph : Graph where
  nodes := [
    ⟨.relu, [⟨"input", [2], some ⟨2, 0⟩⟩], [⟨"output", [2], [⟨1, 0⟩]⟩]⟩,
    ⟨.relu, [⟨"input", [3], some ⟨0, 0⟩⟩], [⟨"output", [3], [⟨3, 0⟩]⟩]⟩,
    ⟨.input, [], [⟨"output", [2], [⟨0, 0⟩]⟩]⟩,
    ⟨.output, [⟨"input", [3], some ⟨1, 0⟩⟩], []⟩]
  inputs := [2]
  outputs := [3]

theorem resolve_stretched : stretched.resolve = .ok stretchedGraph := by cbv

theorem interior_stretchedGraph : stretched.resolve = .ok stretchedGraph ∧
    ∃ fragments, Interior stretched fragments stretchedGraph :=
  ⟨resolve_stretched, interior_of_resolve resolve_stretched⟩

/-- Shapes need not agree along a connection between layers inside. -/
theorem not_agree_inside : ¬ ∀ (context : Context) (threshold : Int) (graph : Graph),
    context.resolve threshold = .ok graph → ∀ source target, (source, target) ∈ graph.edges →
      Layer.PassesOn graph.nodes target → Layer.Agree graph.nodes source target := by
  intro all
  have edge : ((⟨0, 0⟩ : PortRef), (⟨1, 0⟩ : PortRef)) ∈ stretchedGraph.edges := by decide
  obtain ⟨given, taken, exits, enters, agrees⟩ := all _ _ _ resolve_stretched _ _ edge ⟨_, rfl, nofun⟩
  cases exits
  cases enters
  cases agrees

end LayerGraph
