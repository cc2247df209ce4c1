import LayerGraph.Proofs.Wiring.Binding
import Mathlib

/-! The last passes of a wiring, and the whole.

A stored payload takes the place of a boundary layer that is the only writer of its variable, and
leaves all connections. Every written port that nobody reads then gets a boundary layer of its own, in
the order of the operators. The result is described by the fragments of the operators alone.
-/

set_option autoImplicit false

namespace LayerGraph

namespace Layout

/-- The layers of operators, some boundary layers replaced by stored payloads. -/
structure Refilled (context : Context) (fragments : List Fragment) (front : List Layer) : Prop where
  length : front.length = (layers fragments).length
  layers : ∀ (place : Nat) (layer : Layer), front[place]? = some layer →
    (layers fragments)[place]? = some layer ∨ ∃ name writer shape value,
      writers fragments name = [(writer, ⟨place, 0⟩)] ∧ context.tensors.contains name = .ok true ∧
      context.load name = .ok value ∧ (Layout.layers fragments)[place]? = some (Layer.input shape) ∧
      layer = Layer.constant value

theorem refilled_self (context : Context) (fragments : List Fragment) :
    Refilled context fragments (layers fragments) :=
  ⟨rfl, fun _ _ here => .inl here⟩

/-- A refilled boundary layer still has no inputs and one output. -/
theorem Refilled.leaf {context : Context} {fragments : List Fragment} {front : List Layer}
    (refilled : Refilled context fragments front) {place : Nat} {shape : Shape} {layer : Layer}
    (input : (Layout.layers fragments)[place]? = some (Layer.input shape))
    (here : front[place]? = some layer) : layer.inputs = [] ∧ layer.outputs.length = 1 := by
  rcases refilled.layers place layer here with same | ⟨_, _, _, value, _, _, _, _, rfl⟩
  · rw [input] at same
    cases same
    exact ⟨rfl, rfl⟩
  · exact ⟨rfl, rfl⟩

/-- One more boundary layer gives way to its payload. -/
theorem Refilled.set {context : Context} {fragments : List Fragment} {front : List Layer}
    (refilled : Refilled context fragments front) {place writer : Nat} {name : String} {shape : Shape}
    {value : Tensor} (sole : writers fragments name = [(writer, ⟨place, 0⟩)])
    (contained : context.tensors.contains name = .ok true) (loaded : context.load name = .ok value)
    (input : (Layout.layers fragments)[place]? = some (Layer.input shape)) :
    Refilled context fragments (front.set place (Layer.constant value)) where
  length := (List.length_set).trans refilled.length
  layers other layer here := by
    by_cases same : place = other
    · subst same
      have bound := (List.getElem?_eq_some_iff.mp here).1
      rw [List.length_set] at bound
      rw [List.getElem?_set_self bound, Option.some.injEq] at here
      exact .inr ⟨name, writer, shape, value, sole, contained, loaded, input, here.symm⟩
    · rw [List.getElem?_set_ne same] at here
      exact refilled.layers other layer here

/-- The ports that are read, by the layers of operators. -/
def sources (fragments : List Fragment) : List PortRef :=
  (links fragments ++ bindings fragments (made fragments) (reads fragments)).map Prod.fst

/-- The ports that nobody reads among some written ones. -/
def unread (fragments : List Fragment) (entries : List (String × (Nat × PortRef))) :
    List (String × (Nat × PortRef)) :=
  entries.filter fun entry => entry.2.2 ∉ sources fragments

/-- The written ports that nobody reads, by operator. -/
def exposed (fragments : List Fragment) : List (String × (Nat × PortRef)) :=
  unread fragments (writes fragments)

/-- A written port is handed out in the shape that its variable is declared with, and in its own where there is
no declaration. -/
structure Exposure (context : Context) (front : List Layer) (entry : String × (Nat × PortRef)) (shape : Shape) :
    Prop where
  agrees : ∃ given, Layer.sourceShape? front entry.2.2 = some given ∧ Shape.compatible given shape = true ∧
    (context.block.declares entry.1 = false → shape = given)
  declared : context.block.declares entry.1 = true → context.shape entry.1 = .ok shape

/-- The connections to boundary layers that follow a number of layers. -/
def exposures (start : Nat) (entries : List (String × (Nat × PortRef))) : List (PortRef × PortRef) :=
  entries.zipIdx.map fun (entry, place) => (entry.2.2, ⟨(start + place : Nat), 0⟩)

theorem mem_exposures {start : Nat} {entries : List (String × (Nat × PortRef))} {source target : PortRef} :
    (source, target) ∈ exposures start entries ↔ ∃ place name writer,
      entries[place]? = some (name, (writer, source)) ∧ target = ⟨(start + place : Nat), 0⟩ := by
  simp only [exposures, List.mem_map, Prod.exists, List.mem_zipIdx_iff_getElem?, Prod.mk.injEq]
  constructor
  · rintro ⟨name, writer, port, place, here, rfl, rfl⟩
    exact ⟨place, name, writer, here, rfl⟩
  · rintro ⟨place, name, writer, here, rfl⟩
    exact ⟨name, writer, source, place, here, rfl, rfl⟩

theorem exposures_concat (start : Nat) (entries : List (String × (Nat × PortRef)))
    (entry : String × (Nat × PortRef)) : exposures start (entries ++ [entry]) =
      exposures start entries ++ [(entry.2.2, ⟨(start + entries.length : Nat), 0⟩)] := by
  simp [exposures, List.zipIdx_append]

/-- All connections of the graph that fragments are wired to. -/
def edges (fragments : List Fragment) : List (PortRef × PortRef) :=
  links fragments ++ bindings fragments (made fragments) (reads fragments) ++
    exposures ((layers fragments).length + (made fragments).length) (exposed fragments)

end Layout

namespace Wiring

open Run

/-- A written port as an entry of the writers. -/
def writtenEntry (written : Nat × String × PortRef) : String × (Nat × PortRef) :=
  (written.2.1, (written.1, written.2.2))

/-- The written ports by operator are those of the fragments in a row. -/
theorem map_written {fragments : List Fragment} {wiring : Wiring} (closed : Layout.Closed fragments)
    (produced : (histories wiring.produced).Perm (Layout.writes fragments)) :
    wiring.written.map writtenEntry = Layout.writes fragments := by
  have ordered := Layout.pairwise_writes closed
  have members : (wiring.written.map writtenEntry).Perm (Layout.writes fragments) := by
    refine ((List.mergeSort_perm _ _).map writtenEntry).trans ?_
    simp only [List.map_flatMap, List.map_map]
    exact produced
  have sorted : (wiring.written.map writtenEntry).Pairwise fun a b => a.2.1 ≤ b.2.1 := by
    have bools : wiring.written.Pairwise fun a b => decide (a.1 ≤ b.1) = true :=
      List.pairwise_mergeSort (by simp; omega) (by simp; omega) _
    exact List.pairwise_map.mpr (bools.imp of_decide_eq_true)
  refine List.Perm.eq_of_pairwise ?_ sorted (ordered.imp Nat.le_of_lt) members
  intro a b early late le ge
  have symmetric : Std.Symm fun a b : String × (Nat × PortRef) => a.2.1 ≠ b.2.1 :=
    ⟨fun _ _ ne => ne.symm⟩
  have distinct := (ordered.imp Nat.ne_of_lt).forall (R := fun a b => a.2.1 ≠ b.2.1)
    (members.mem_iff.mp early) late
  exact Decidable.byContradiction fun different => distinct different (Nat.le_antisymm le ge)

/-- A wiring whose reads are bound and some of whose boundary layers gave way to payloads. -/
structure Filled (context : Context) (fragments : List Fragment) (wiring : Wiring) : Prop where
  closed : Layout.Closed fragments
  bare : ∃ front extra, Layout.Refilled context fragments front ∧
    (Layout.made fragments).map context.substitute = extra.map .ok ∧
    wiring.graph.bare = front ++ extra
  edges : wiring.graph.HasEdges (Layout.links fragments ++
    Layout.bindings fragments (Layout.made fragments) (Layout.reads fragments))
  consistent : wiring.graph.Consistent
  writers : ∀ name, wiring.writers name = Layout.writers fragments name
  produced : (histories wiring.produced).Perm (Layout.writes fragments)

section
variable {context : Context} {fragments : List Fragment} {wiring next : Wiring}

theorem Bound.filled (bound : wiring.Bound context fragments (Layout.made fragments)
      (Layout.links fragments ++
        Layout.bindings fragments (Layout.made fragments) (Layout.reads fragments)))
    (closed : Layout.Closed fragments) : wiring.Filled context fragments where
  closed := closed
  bare := by
    obtain ⟨extra, supplied, bare⟩ := bound.bare
    exact ⟨_, extra, Layout.refilled_self context fragments, supplied, bare⟩
  edges := bound.edges
  consistent := bound.consistent
  writers := bound.writers
  produced := bound.produced

theorem Filled.journal (filled : wiring.Filled context fragments) (journal : Journal) :
    ({ wiring with journal := journal } : Wiring).Filled context fragments :=
  ⟨filled.closed, filled.bare, filled.edges, filled.consistent, filled.writers, filled.produced⟩

/-- A fed variable that gives way has one writer, the boundary layer itself. -/
theorem Filled.sole (filled : wiring.Filled context fragments) {name : String} {node : Int}
    (fed : Layout.Fed fragments name node) (gives : isReplaceable context wiring name = .ok true) :
    ∃ (place writer : Nat) (shape : Shape), node = place ∧
      Layout.writers fragments name = [(writer, ⟨place, 0⟩)] ∧
      context.tensors.contains name = .ok true ∧
      (Layout.layers fragments)[place]? = some (Layer.input shape) := by
  obtain ⟨place, writer, shape, same, member, here⟩ := fed
  unfold isReplaceable at gives
  rw [filled.writers] at gives
  split at gives
  · cases gives
  · next single =>
    obtain ⟨entry, only⟩ := List.length_eq_one_iff.mp (Decidable.not_not.mp single)
    have inside := Layout.mem_writers.mpr member
    rw [only, List.mem_singleton] at inside
    exact ⟨place, writer, shape, same, by rw [only, inside], gives, here⟩

/-- The node of a fed input has no inputs and one output, as the layer in the front that it wires. -/
theorem Filled.fed (filled : wiring.Filled context fragments) {place : Nat} {shape : Shape}
    (input : (Layout.layers fragments)[place]? = some (Layer.input shape)) :
    ∃ old, wiring.graph.nodes[place]? = some old ∧ old.inputs = [] ∧ old.outputs.length = 1 := by
  obtain ⟨front, extra, refilled, _, bare⟩ := filled.bare
  have bound : place < front.length := by
    rw [refilled.length]
    exact (List.getElem?_eq_some_iff.mp input).1
  have here : wiring.graph.bare[place]? = some front[place] := by
    rw [bare, List.getElem?_append_left bound, List.getElem?_eq_getElem bound]
  rw [Graph.bare, List.getElem?_map, Option.map_eq_some_iff] at here
  obtain ⟨old, present, same⟩ := here
  obtain ⟨leaf, single⟩ := refilled.leaf input (List.getElem?_eq_getElem bound)
  rw [← same, Layer.bare, List.map_eq_nil_iff] at leaf
  rw [← same, Layer.bare, List.length_map] at single
  exact ⟨old, present, leaf, single⟩

/-- A boundary layer gives way to a payload in the graph. -/
theorem Filled.replace (filled : wiring.Filled context fragments) {name : String} {place writer : Nat}
    {shape : Shape} {value : Tensor} {graph : Graph}
    (sole : Layout.writers fragments name = [(writer, ⟨place, 0⟩)])
    (contained : context.tensors.contains name = .ok true) (loaded : context.load name = .ok value)
    (input : (Layout.layers fragments)[place]? = some (Layer.input shape))
    (replaced : wiring.graph.replace place (Layer.constant value) = .ok graph) :
    ({ wiring with graph := graph } : Wiring).Filled context fragments := by
  obtain ⟨front, extra, refilled, supplied, bare⟩ := filled.bare
  have bound : place < front.length := by
    rw [refilled.length]
    exact (List.getElem?_eq_some_iff.mp input).1
  obtain ⟨old, present, leaf, _⟩ := filled.fed input
  have step := Graph.replaces_of_replace present leaf (Layer.fresh_constant value) nofun replaced
  refine ⟨filled.closed, ⟨front.set place (Layer.constant value), extra,
    refilled.set sole contained loaded input, supplied, ?_⟩, filled.edges.of_same step.sources,
    filled.consistent.of_same step.sources step.consumers, filled.writers, filled.produced⟩
  rw [step.bare, bare, List.set_append_left _ _ bound]

theorem Filled.replaceOne (filled : wiring.Filled context fragments) {name : String} {node : Int}
    {value : Unit} (fed : Layout.Fed fragments name node)
    (run : (replaceOne context name node).Yields wiring value next) : next.Filled context fragments := by
  rcases replaceOne_cases run with ⟨_, rfl⟩ | ⟨gives, payload, graph, journal, loaded, exchanged, rfl⟩
  · exact filled
  · obtain ⟨place, writer, shape, rfl, sole, contained, input⟩ := filled.sole fed gives
    exact (filled.replace sole contained loaded input exchanged).journal journal

theorem filled_of_replaceEach {entries : List (String × Int)} {value : Unit}
    (filled : wiring.Filled context fragments)
    (fed : ∀ entry ∈ entries, Layout.Fed fragments entry.1 entry.2)
    (run : (replaceEach context entries).Yields wiring value next) : next.Filled context fragments := by
  refine each_induction (fun _ (w : Wiring) => w.Filled context fragments) filled ?_ run
  rintro done ⟨name, node⟩ rest state after split filled replaces
  exact filled.replaceOne (fed (name, node) (split ▸ List.mem_append_right _ List.mem_cons_self)) replaces

theorem filled_of_replaceFed {value : Unit} (filled : wiring.Filled context fragments)
    (provisional : ∀ entry ∈ wiring.provisional, Layout.Fed fragments entry.1 entry.2)
    (run : (replaceFed context).Yields wiring value next) : next.Filled context fragments := by
  rw [replaceFed_eq] at run
  obtain ⟨_, _, get, rest⟩ := yields_bind.mp run
  obtain ⟨rfl, rfl⟩ := yields_get.mp get
  exact filled_of_replaceEach filled provisional rest

/-- A wiring that has handed out the unread ports among some written ones. -/
structure Handed (context : Context) (fragments : List Fragment)
    (done : List (String × (Nat × PortRef))) (wiring : Wiring) : Prop where
  bare : ∃ (front extra : List Layer) (shapes : List Shape), Layout.Refilled context fragments front ∧
    (Layout.made fragments).map context.substitute = extra.map .ok ∧
    List.Forall₂ (Layout.Exposure context front) (Layout.unread fragments done) shapes ∧
    wiring.graph.bare = front ++ extra ++ shapes.map Layer.output
  edges : wiring.graph.HasEdges (Layout.links fragments ++
    Layout.bindings fragments (Layout.made fragments) (Layout.reads fragments) ++
    Layout.exposures ((Layout.layers fragments).length + (Layout.made fragments).length)
      (Layout.unread fragments done))
  consistent : wiring.graph.Consistent

theorem Filled.handed (filled : wiring.Filled context fragments) :
    wiring.Handed context fragments [] where
  bare := by
    obtain ⟨front, extra, refilled, supplied, bare⟩ := filled.bare
    exact ⟨front, extra, [], refilled, supplied, .nil, by simpa using bare⟩
  edges := by
    rw [Layout.unread, List.filter_nil, Layout.exposures, List.zipIdx_nil, List.map_nil, List.append_nil]
    exact filled.edges
  consistent := filled.consistent

theorem Handed.journal {done : List (String × (Nat × PortRef))}
    (handed : wiring.Handed context fragments done) (journal : Journal) :
    ({ wiring with journal := journal } : Wiring).Handed context fragments done :=
  ⟨handed.bare, handed.edges, handed.consistent⟩

/-- Before its turn a written port has consumers exactly if the layers of operators read it. -/
theorem Handed.consumers_eq_nil {done rest : List (String × (Nat × PortRef))}
    {entry : String × (Nat × PortRef)} (handed : wiring.Handed context fragments done)
    (closed : Layout.Closed fragments) (split : Layout.writes fragments = done ++ entry :: rest) :
    wiring.graph.consumersOf entry.2.2 = [] ↔ entry.2.2 ∉ Layout.sources fragments := by
  -- What was handed out before is of other ports: each port is written once.
  have later : ∀ target, (entry.2.2, target) ∉ Layout.exposures
      ((Layout.layers fragments).length + (Layout.made fragments).length)
      (Layout.unread fragments done) := by
    intro target member
    obtain ⟨place, name, writer, here, _⟩ := Layout.mem_exposures.mp member
    have early := List.mem_of_mem_filter (List.mem_of_getElem? here)
    have unique := Layout.nodup_ports closed
    rw [split, List.map_append, List.nodup_append] at unique
    exact unique.2.2 _ (List.mem_map_of_mem early) _ (List.mem_cons_self ..) rfl
  rw [List.eq_nil_iff_forall_not_mem, Layout.sources, List.mem_map, not_exists]
  constructor
  · rintro none ⟨source, target⟩ ⟨member, rfl⟩
    apply none target
    rw [handed.consistent.consumes_iff, handed.edges]
    exact List.mem_append_left _ member
  · intro absent target consumes
    rw [handed.consistent.consumes_iff, handed.edges, List.mem_append] at consumes
    rcases consumes with read | exposed
    · exact absent (entry.2.2, target) ⟨read, rfl⟩
    · exact later target exposed

/-- An unread port is handed out by one more layer. -/
theorem Handed.hand {done : List (String × (Nat × PortRef))} {entry : String × (Nat × PortRef)}
    {declared : Shape} {wired : Graph} (handed : wiring.Handed context fragments done) (graph : Graph)
    (unread : entry.2.2 ∉ Layout.sources fragments) (plain : entry.2.2.Plain)
    (inside : entry.2.2.node < (Layout.layers fragments).length)
    (exposure : Layout.Exposure context wiring.graph.bare entry declared)
    (nodes : graph.nodes = (wiring.graph.add (Layer.output declared)).nodes)
    (connected : graph.connect entry.2.2 ⟨wiring.graph.size, 0⟩ = (.ok (), wired)) :
    ({ wiring with graph := wired } : Wiring).Handed context fragments (done ++ [entry]) := by
  obtain ⟨front, extra, shapes, refilled, supplied, exposed, bare⟩ := handed.bare
  have more : Layout.unread fragments (done ++ [entry]) = Layout.unread fragments done ++ [entry] := by
    simp [Layout.unread, List.filter_append, unread]
  have step := Graph.connects_of_connect plain ⟨Int.natCast_nonneg _, Int.le_refl 0⟩ connected
  have fresh := Layer.fresh_output declared
  have size : wiring.graph.size = (Layout.layers fragments).length + (Layout.made fragments).length +
      (Layout.unread fragments done).length := by
    have lengths := congrArg List.length supplied
    rw [List.length_map, List.length_map] at lengths
    rw [← Graph.length_bare, bare, List.length_append, List.length_append, List.length_map,
      refilled.length, lengths, exposed.length_eq]
  refine ⟨⟨front, extra, shapes ++ [declared], refilled, supplied, ?_, ?_⟩, ?_, ?_⟩
  · rw [more]
    refine List.rel_append exposed (.cons ⟨?_, exposure.declared⟩ .nil)
    -- The port belongs to the layers of operators, which stand in front.
    have agrees := exposure.agrees
    rwa [bare, List.append_assoc, Layer.sourceShape?_append_left (refilled.length ▸ inside)] at agrees
  · have grown : graph.bare = wiring.graph.bare ++ [Layer.output declared] := by
      rw [← Graph.bare_add fresh, Graph.bare, nodes, Graph.bare]
    rw [step.bare, grown, bare, List.map_append, List.map_singleton, List.append_assoc]
  · rw [more, Layout.exposures_concat, ← List.append_assoc, ← size]
    exact ((handed.edges.add fresh).of_nodes nodes).connects step
  · exact ((handed.consistent.add fresh).of_nodes nodes).connects step

/-- After its turn a written port has been handed out if nobody reads it. -/
theorem Handed.exposeOne {done rest : List (String × (Nat × PortRef))} {name : String} {writer : Nat}
    {source : PortRef} {value : Unit} (handed : wiring.Handed context fragments done)
    (closed : Layout.Closed fragments)
    (split : Layout.writes fragments = done ++ (name, (writer, source)) :: rest)
    (run : (exposeOne context name source).Yields wiring value next) :
    next.Handed context fragments (done ++ [(name, (writer, source))]) := by
  have idle := handed.consumers_eq_nil closed split
  have member : (name, (writer, source)) ∈ Layout.writes fragments :=
    split ▸ List.mem_append_right _ List.mem_cons_self
  obtain ⟨exits, _, last⟩ := Layout.write_inside closed member
  obtain ⟨_, present⟩ := Option.isSome_iff_exists.mp exits
  have plain := Layer.plain_of_portAmong? _ present
  have inside := Int.lt_of_lt_of_le last (Int.ofNat_le.mpr (Layout.offset_le fragments (writer + 1)))
  obtain ⟨port, found, outcome⟩ := exposeOne_cases run
  have here := (Graph.outputPort_eq_ok plain).mp found
  have consumers : wiring.graph.consumersOf source = port.consumers := by
    rw [Graph.consumersOf, here]
    rfl
  rw [consumers] at idle
  rcases outcome with ⟨read, rfl⟩ | ⟨none, declared, wired, journal, known, own, agrees, wires, rfl⟩
  · have same : Layout.unread fragments (done ++ [(name, (writer, source))]) =
        Layout.unread fragments done := by
      have taken : source ∈ Layout.sources fragments :=
        Decidable.not_not.mp fun free => read (idle.mpr free)
      simp [Layout.unread, List.filter_append, taken]
    obtain ⟨bare, edges, consistent⟩ := handed
    rw [← same] at bare edges
    exact ⟨bare, edges, consistent⟩
  · have given : Layer.sourceShape? wiring.graph.bare source = some port.shape := by
      rw [Graph.bare, Layer.sourceShape?_bare]
      exact Option.map_eq_some_iff.mpr ⟨port, here, rfl⟩
    exact (handed.hand { wiring.graph.add (Layer.output declared) with
      outputs := wiring.graph.outputs ++ [(wiring.graph.size : Int)] } (idle.mp none) plain inside
        ⟨⟨port.shape, given, agrees, own⟩, known⟩ rfl wires).journal journal

/-- The first written ports are handed out where nobody reads them. -/
theorem handed_of_exposeEach {done rest : List (Nat × String × PortRef)} {value : Unit}
    (filled : wiring.Filled context fragments) (split : wiring.written = done ++ rest)
    (run : (exposeEach context done).Yields wiring value next) :
    next.Handed context fragments (done.map writtenEntry) := by
  have written := map_written filled.closed filled.produced
  refine each_induction (fun done (w : Wiring) => w.Handed context fragments (done.map writtenEntry))
    filled.handed ?_ run
  rintro front ⟨writer, name, source⟩ back state after here handed exposes
  rw [split, here, List.append_assoc, List.cons_append, List.map_append, List.map_cons] at written
  rw [List.map_append]
  exact handed.exposeOne filled.closed written.symm exposes

theorem handed_of_exposeOutputs {value : Unit} (filled : wiring.Filled context fragments)
    (run : (exposeOutputs context).Yields wiring value next) :
    next.Handed context fragments (Layout.writes fragments) := by
  rw [exposeOutputs_eq] at run
  obtain ⟨_, _, get, rest⟩ := yields_bind.mp run
  obtain ⟨rfl, rfl⟩ := yields_get.mp get
  rw [← map_written filled.closed filled.produced]
  exact handed_of_exposeEach filled (List.append_nil _).symm rest

end

end Wiring

/-- A graph that is wired from the fragments of the operators of a block. -/
structure Assembled (context : Context) (fragments : List Fragment) (graph : Graph) : Prop where
  lowered : context.block.operators.map (fun op => op.lower context) = fragments.map .ok
  closed : Layout.Closed fragments
  bare : ∃ (front extra : List Layer) (shapes : List Shape), Layout.Refilled context fragments front ∧
    (Layout.made fragments).map context.substitute = extra.map .ok ∧
    List.Forall₂ (Layout.Exposure context front) (Layout.exposed fragments) shapes ∧
    graph.bare = front ++ extra ++ shapes.map Layer.output
  edges : graph.HasEdges (Layout.edges fragments)
  checked : Layout.Checked context fragments
  consistent : graph.Consistent

/-- A graph that a block resolves to is wired from the fragments of its operators. -/
theorem assembled_of_resolve {context : Context} {threshold : Int} {graph : Graph}
    (resolved : context.resolve threshold = .ok graph) :
    ∃ fragments, Assembled context fragments graph := by
  obtain ⟨_, _, _, _, lowers, binds, replaces, exposes, rfl⟩ := Wiring.resolve_eq_ok.mp resolved
  obtain ⟨fragments, lowered, laid⟩ := Wiring.laid_of_lowerEach (Wiring.laid_start threshold) lowers
  have bound := Wiring.bound_of_bindPending laid binds
  have filled := Wiring.filled_of_replaceFed (bound.filled laid.closed) bound.provisional replaces
  have handed := Wiring.handed_of_exposeOutputs filled exposes
  exact ⟨fragments, lowered, laid.closed, handed.bare, handed.edges, bound.passed laid.closed, handed.consistent⟩

/-- A block that rectifies a variable in place and then into another one, without a feed or a fetch. -/
def rectifier : Context where
  block := {
    declarations := [{ name := "x", shape := [-1, 3] }]
    operators := [⟨"relu", [("X", ["x"])], [("Out", ["x"])], []⟩,
      ⟨"relu", [("X", ["x"])], [("Out", ["y"])], []⟩] }
  tensors := { files := FileTree.empty, directory := ⟨"/", []⟩ }

/-- The two layers of the rectifier between a boundary layer made up and one that hands out. -/
def rectifierGraph : Graph where
  nodes := [
    ⟨.relu, [⟨"input", [-1, 3], some ⟨2, 0⟩⟩], [⟨"output", [-1, 3], [⟨1, 0⟩]⟩]⟩,
    ⟨.relu, [⟨"input", [-1, 3], some ⟨0, 0⟩⟩], [⟨"output", [-1, 3], [⟨3, 0⟩]⟩]⟩,
    ⟨.input, [], [⟨"output", [-1, 3], [⟨0, 0⟩]⟩]⟩,
    ⟨.output, [⟨"input", [-1, 3], some ⟨1, 0⟩⟩], []⟩]
  inputs := [2]
  outputs := [3]

theorem resolve_rectifier : rectifier.resolve = .ok rectifierGraph := by cbv

end LayerGraph
