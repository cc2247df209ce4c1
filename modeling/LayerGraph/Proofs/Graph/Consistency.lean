import LayerGraph.Proofs.Graph.Ports

/-! Graphs whose sources and consumers agree.

Every operation that a wiring uses is described once by what it changes of the sources, the consumers
and the bare layers. Agreement of sources and consumers is preserved by each of them.
-/

set_option autoImplicit false

namespace LayerGraph.Graph

theorem pick_eq_ok {α : Type} {items : List α} {index : Int} {place : Nat} {item : α}
    (nonneg : 0 ≤ index) :
    pick items index = .ok (place, item) ↔ index = place ∧ items[place]? = some item := by
  have unshifted : ¬ index < 0 := by omega
  unfold pick position?
  simp only [unshifted, if_false]
  by_cases inside : index < items.length
  · rw [if_pos ⟨nonneg, inside⟩]
    have bound : index.toNat < items.length := by omega
    have here : items[index.toNat]? = some items[index.toNat] := List.getElem?_eq_getElem bound
    constructor
    · intro found
      simp only [here, Except.ok.injEq, Prod.mk.injEq] at found
      obtain ⟨rfl, rfl⟩ := found
      exact ⟨by omega, here⟩
    · rintro ⟨rfl, found⟩
      simp only [Int.toNat_natCast, found]
  · have outside : ¬ (0 ≤ index ∧ index < items.length) := fun both => inside both.2
    rw [if_neg outside]
    constructor
    · intro found
      cases found
    · rintro ⟨rfl, found⟩
      exact absurd (Int.ofNat_lt.mpr (List.getElem?_eq_some_iff.mp found).1) inside

theorem node_eq_pick (graph : Graph) (index : Int) :
    graph.node index = (pick graph.nodes index).map Prod.snd := by
  unfold node place pick
  cases position? graph.nodes.length index with
  | none => rfl
  | some place =>
    dsimp only
    cases here : graph.nodes[place]? <;>
      simp [Bind.bind, Except.bind, here, Attempt.fault, Except.map, pure, Except.pure]

theorem node_eq_ok {graph : Graph} {index : Int} {layer : Layer} (nonneg : 0 ≤ index) :
    graph.node index = .ok layer ↔ graph.nodes[index.toNat]? = some layer := by
  rw [node_eq_pick, Attempt.map_eq_ok]
  constructor
  · rintro ⟨⟨place, found⟩, picked, rfl⟩
    obtain ⟨rfl, here⟩ := (pick_eq_ok nonneg).mp picked
    exact here
  · intro here
    exact ⟨(index.toNat, layer), (pick_eq_ok nonneg).mpr ⟨(Int.toNat_of_nonneg nonneg).symm, here⟩, rfl⟩

/-- A port is found where a plain reference names it. -/
theorem port_eq_ok {α : Type} {ports : Layer → List α} {graph : Graph} {ref : PortRef} {port : α}
    (plain : ref.Plain) :
    (do return (← pick (ports (← graph.node ref.node)) ref.slot).2 : Attempt α) = .ok port ↔
      Layer.portAmong? ports graph.nodes ref = some port := by
  unfold Layer.portAmong?
  rw [if_pos plain, Option.bind_eq_some_iff, Attempt.bind_eq_ok]
  constructor
  · rintro ⟨layer, here, rest⟩
    obtain ⟨⟨slot, found⟩, picked, rest⟩ := Attempt.bind_eq_ok.mp rest
    cases rest
    obtain ⟨position, there⟩ := (pick_eq_ok plain.2).mp picked
    exact ⟨layer, (node_eq_ok plain.1).mp here, by rw [position]; exact there⟩
  · rintro ⟨layer, here, there⟩
    exact ⟨layer, (node_eq_ok plain.1).mpr here, Attempt.bind_eq_ok.mpr ⟨(ref.slot.toNat, port),
      (pick_eq_ok plain.2).mpr ⟨(Int.toNat_of_nonneg plain.2).symm, there⟩, rfl⟩⟩

theorem inputPort_eq_ok {graph : Graph} {ref : PortRef} {port : InputPort} (plain : ref.Plain) :
    graph.inputPort ref = .ok port ↔ graph.input? ref = some port :=
  port_eq_ok plain

theorem outputPort_eq_ok {graph : Graph} {ref : PortRef} {port : OutputPort} (plain : ref.Plain) :
    graph.outputPort ref = .ok port ↔ graph.output? ref = some port :=
  port_eq_ok plain

/-- Binding finds an input port without a source and sets its source. -/
theorem bind_eq_ok_iff {graph next : Graph} {source target : PortRef} :
    graph.bind target source = .ok next ↔ ∃ place layer slot port,
      pick graph.nodes target.node = .ok (place, layer) ∧ pick layer.inputs target.slot = .ok (slot, port) ∧
      port.source = none ∧
      next = graph.setNode place
        { layer with inputs := layer.inputs.set slot { port with source := some source } } := by
  unfold bind
  rw [Attempt.bind_eq_ok]
  constructor
  · -- A port with a source refuses to be bound, so what succeeds has found none.
    rintro ⟨⟨place, layer⟩, here, rest⟩
    obtain ⟨⟨slot, port⟩, there, rest⟩ := Attempt.bind_eq_ok.mp rest
    obtain ⟨bound, set, rest⟩ := Attempt.bind_eq_ok.mp rest
    cases rest
    unfold InputPort.bind at set
    split at set
    · next unbound =>
      cases set
      exact ⟨place, layer, slot, port, here, there, unbound, rfl⟩
    · cases set
  · rintro ⟨place, layer, slot, port, here, there, unbound, rfl⟩
    refine ⟨(place, layer), here, Attempt.bind_eq_ok.mpr ⟨(slot, port), there, ?_⟩⟩
    refine Attempt.bind_eq_ok.mpr ⟨{ port with source := some source }, ?_, rfl⟩
    unfold InputPort.bind
    rw [unbound]

theorem bind_eq_ok {graph next : Graph} {source target : PortRef} (plain : target.Plain) :
    graph.bind target source = .ok next ↔ ∃ layer port,
      graph.nodes[target.node.toNat]? = some layer ∧
      layer.inputs[target.slot.toNat]? = some port ∧ port.source = none ∧
      next = graph.setNode target.node.toNat
        { layer with
          inputs := layer.inputs.set target.slot.toNat { port with source := some source } } := by
  rw [bind_eq_ok_iff]
  constructor
  · rintro ⟨place, layer, slot, port, here, there, unbound, rfl⟩
    obtain ⟨node, present⟩ := (pick_eq_ok plain.1).mp here
    obtain ⟨position, inside⟩ := (pick_eq_ok plain.2).mp there
    rw [node, position]
    exact ⟨layer, port, present, inside, unbound, rfl⟩
  · rintro ⟨layer, port, present, inside, unbound, rfl⟩
    exact ⟨_, layer, _, port, (pick_eq_ok plain.1).mpr ⟨(Int.toNat_of_nonneg plain.1).symm, present⟩,
      (pick_eq_ok plain.2).mpr ⟨(Int.toNat_of_nonneg plain.2).symm, inside⟩, unbound, rfl⟩

/-- Attaching finds an output port and adds a consumer to it. -/
theorem attach_eq_ok_iff {graph next : Graph} {source target : PortRef} :
    graph.attach source target = .ok next ↔ ∃ place layer slot port,
      pick graph.nodes source.node = .ok (place, layer) ∧ pick layer.outputs source.slot = .ok (slot, port) ∧
      next = graph.setNode place { layer with outputs := layer.outputs.set slot (port.attach target) } := by
  unfold attach
  rw [Attempt.bind_eq_ok]
  constructor
  · rintro ⟨⟨place, layer⟩, here, rest⟩
    obtain ⟨⟨slot, port⟩, there, rest⟩ := Attempt.bind_eq_ok.mp rest
    cases rest
    exact ⟨place, layer, slot, port, here, there, rfl⟩
  · rintro ⟨place, layer, slot, port, here, there, rfl⟩
    exact ⟨(place, layer), here, Attempt.bind_eq_ok.mpr ⟨(slot, port), there, rfl⟩⟩

theorem attach_eq_ok {graph next : Graph} {source target : PortRef} (plain : source.Plain) :
    graph.attach source target = .ok next ↔ ∃ layer port,
      graph.nodes[source.node.toNat]? = some layer ∧
      layer.outputs[source.slot.toNat]? = some port ∧
      next = graph.setNode source.node.toNat
        { layer with outputs := layer.outputs.set source.slot.toNat (port.attach target) } := by
  rw [attach_eq_ok_iff]
  constructor
  · rintro ⟨place, layer, slot, port, here, there, rfl⟩
    obtain ⟨node, present⟩ := (pick_eq_ok plain.1).mp here
    obtain ⟨position, inside⟩ := (pick_eq_ok plain.2).mp there
    rw [node, position]
    exact ⟨layer, port, present, inside, rfl⟩
  · rintro ⟨layer, port, present, inside, rfl⟩
    exact ⟨_, layer, _, port, (pick_eq_ok plain.1).mpr ⟨(Int.toNat_of_nonneg plain.1).symm, present⟩,
      (pick_eq_ok plain.2).mpr ⟨(Int.toNat_of_nonneg plain.2).symm, inside⟩, rfl⟩

/-- Exchanging an item for one with the same image leaves the image of the list. -/
theorem map_set_same {α β : Type} {image : α → β} {items : List α} {place : Nat} {old new : α}
    (present : items[place]? = some old) (same : image new = image old) :
    (items.set place new).map image = items.map image := by
  obtain ⟨bound, here⟩ := List.getElem?_eq_some_iff.mp present
  have inside : place < (items.map image).length := by simpa using bound
  have self : (items.map image).set place (items.map image)[place] = items.map image :=
    List.set_getElem_self inside
  rw [List.getElem_map, here] at self
  rw [List.map_set, same, self]

theorem bare_setNode {graph : Graph} {place : Nat} {old new : Layer}
    (present : graph.nodes[place]? = some old) (same : new.bare = old.bare) :
    (graph.setNode place new).bare = graph.bare :=
  map_set_same present same

/-- What binding an input port does to the ports. -/
theorem ports_of_bind {graph next : Graph} {source target : PortRef} (plain : target.Plain)
    (binds : graph.bind target source = .ok next) :
    ∃ port, graph.input? target = some port ∧ port.source = none ∧
      (∀ ref, next.input? ref =
        if ref = target then some { port with source := some source } else graph.input? ref) ∧
      (∀ ref, next.output? ref = graph.output? ref) ∧
      next.bare = graph.bare ∧ next.inputs = graph.inputs ∧ next.outputs = graph.outputs := by
  obtain ⟨layer, port, present, inside, unbound, rfl⟩ := (bind_eq_ok plain).mp binds
  have slot := List.getElem?_eq_some_iff.mp inside
  refine ⟨port, ?_, unbound, ?_, ?_, ?_, rfl, rfl⟩
  · unfold input? Layer.portAmong?
    rw [if_pos plain, present]
    exact inside
  · intro ref
    exact Layer.portAmong?_set_port Layer.inputs plain present slot.1 rfl ref
  · intro ref
    apply Layer.portAmong?_set_same Layer.outputs present
    rfl
  · apply bare_setNode present
    simp only [Layer.bare, Layer.mk.injEq, true_and, and_true]
    exact map_set_same inside rfl

/-- What attaching a consumer does to the ports. -/
theorem ports_of_attach {graph next : Graph} {source target : PortRef} (plain : source.Plain)
    (attaches : graph.attach source target = .ok next) :
    ∃ port, graph.output? source = some port ∧
      (∀ ref, next.output? ref =
        if ref = source then some (port.attach target) else graph.output? ref) ∧
      (∀ ref, next.input? ref = graph.input? ref) ∧
      next.bare = graph.bare ∧ next.inputs = graph.inputs ∧ next.outputs = graph.outputs := by
  obtain ⟨layer, port, present, inside, rfl⟩ := (attach_eq_ok plain).mp attaches
  have slot := List.getElem?_eq_some_iff.mp inside
  refine ⟨port, ?_, ?_, ?_, ?_, rfl, rfl⟩
  · unfold output? Layer.portAmong?
    rw [if_pos plain, present]
    exact inside
  · intro ref
    exact Layer.portAmong?_set_port Layer.outputs plain present slot.1 rfl ref
  · intro ref
    apply Layer.portAmong?_set_same Layer.inputs present
    rfl
  · apply bare_setNode present
    simp only [Layer.bare, Layer.mk.injEq, true_and]
    exact map_set_same inside rfl

/-- What connecting two ports needs and does. -/
structure Connects (graph : Graph) (source target : PortRef) (next : Graph) : Prop where
  target_present : (graph.input? target).isSome = true
  source_present : (graph.output? source).isSome = true
  unbound : graph.sourceOf? target = none
  sources : ∀ ref,
    next.sourceOf? ref = if ref = target then some source else graph.sourceOf? ref
  consumers : ∀ ref, next.consumersOf ref =
    if ref = source then graph.consumersOf ref ++ [target] else graph.consumersOf ref
  bare : next.bare = graph.bare
  inputs : next.inputs = graph.inputs
  outputs : next.outputs = graph.outputs

/-- A successful connection between plain references. -/
theorem connects_of_connect {graph next : Graph} {source target : PortRef}
    (sourcePlain : source.Plain) (targetPlain : target.Plain)
    (connected : graph.connect source target = (.ok (), next)) :
    graph.Connects source target next := by
  unfold connect at connected
  split at connected
  · cases connected
  · next bound binds =>
    split at connected
    · cases connected
    · next wired attaches =>
      cases connected
      obtain ⟨input, inputPresent, unbound, inputs, outputs, bare, entries, exits⟩ :=
        ports_of_bind targetPlain binds
      obtain ⟨output, outputPresent, outputs', inputs', bare', entries', exits'⟩ :=
        ports_of_attach sourcePlain attaches
      rw [outputs] at outputPresent
      -- Binding leaves the outputs and attaching the inputs, so that each half keeps what the other one has set.
      refine ⟨?_, ?_, ?_, ?_, ?_, bare'.trans bare, entries'.trans entries, exits'.trans exits⟩
      · rw [inputPresent]
        rfl
      · rw [outputPresent]
        rfl
      · unfold sourceOf?
        rw [inputPresent]
        exact unbound
      · intro ref
        unfold sourceOf?
        rw [inputs', inputs]
        split <;> rfl
      · intro ref
        unfold consumersOf
        rw [outputs', outputs]
        split
        · next same =>
          rw [same, outputPresent]
          rfl
        · rfl

/-- Two plain references can be connected when the source exists and the target waits for one. -/
theorem exists_connect {graph : Graph} {source target : PortRef}
    (targetPresent : (graph.input? target).isSome = true)
    (sourcePresent : (graph.output? source).isSome = true)
    (unbound : graph.sourceOf? target = none) :
    ∃ next, graph.connect source target = (.ok (), next) := by
  obtain ⟨input, inputPresent⟩ := Option.isSome_iff_exists.mp targetPresent
  obtain ⟨output, outputPresent⟩ := Option.isSome_iff_exists.mp sourcePresent
  have targetPlain := Layer.plain_of_portAmong? _ inputPresent
  have sourcePlain := Layer.plain_of_portAmong? _ outputPresent
  obtain ⟨bound, binds⟩ : ∃ bound, graph.bind target source = .ok bound := by
    have inside := inputPresent
    unfold input? Layer.portAmong? at inside
    rw [if_pos targetPlain, Option.bind_eq_some_iff] at inside
    obtain ⟨layer, present, inside⟩ := inside
    unfold sourceOf? at unbound
    rw [inputPresent] at unbound
    exact ⟨_, (bind_eq_ok targetPlain).mpr ⟨layer, input, present, inside, unbound, rfl⟩⟩
  obtain ⟨_, _, _, _, outputs, _⟩ := ports_of_bind targetPlain binds
  -- Binding has left the outputs as they were, so the source is still there.
  obtain ⟨wired, attaches⟩ : ∃ wired, bound.attach source target = .ok wired := by
    have inside := (outputs source).trans outputPresent
    unfold output? Layer.portAmong? at inside
    rw [if_pos sourcePlain, Option.bind_eq_some_iff] at inside
    obtain ⟨layer, present, inside⟩ := inside
    exact ⟨_, (attach_eq_ok sourcePlain).mpr ⟨layer, output, present, inside, rfl⟩⟩
  refine ⟨wired, ?_⟩
  unfold connect
  simp only [binds, attaches]

/-- The consumers of a source are the targets that are bound to it, each once. -/
structure Consistent (graph : Graph) : Prop where
  consumes_iff : ∀ source target,
    target ∈ graph.consumersOf source ↔ graph.sourceOf? target = some source
  nodup : ∀ source, (graph.consumersOf source).Nodup

/-- As consistent, but for consumers that are stale: what they name is no port any more. -/
structure ConsistentUpTo (graph : Graph) (stale : List (PortRef × PortRef)) : Prop where
  consumes_iff : ∀ source target, target ∈ graph.consumersOf source ↔
    graph.sourceOf? target = some source ∨ (source, target) ∈ stale
  nodup : ∀ source, (graph.consumersOf source).Nodup
  gone : ∀ source target, (source, target) ∈ stale → target.node < graph.size ∧ graph.input? target = none

theorem consistentUpTo_nil {graph : Graph} : graph.ConsistentUpTo [] ↔ graph.Consistent := by
  constructor
  · intro exact
    exact ⟨fun source target => by simpa using exact.consumes_iff source target, exact.nodup⟩
  · intro consistent
    exact ⟨fun source target => by simpa using consistent.consumes_iff source target, consistent.nodup, nofun⟩

/-- The connections of a graph are those of a list. -/
def HasEdges (graph : Graph) (edges : List (PortRef × PortRef)) : Prop :=
  ∀ source target, graph.sourceOf? target = some source ↔ (source, target) ∈ edges

theorem consistent_empty : Graph.empty.Consistent := by
  refine ⟨fun source target => ?_, fun source => ?_⟩
  · simp [consumersOf, sourceOf?, input?, output?, empty]
  · simp [consumersOf, output?, empty]

theorem hasEdges_empty : Graph.empty.HasEdges [] := by
  intro source target
  simp [sourceOf?, input?, empty]

theorem Consistent.of_same {graph next : Graph} (consistent : graph.Consistent)
    (sources : ∀ ref, next.sourceOf? ref = graph.sourceOf? ref)
    (consumers : ∀ ref, next.consumersOf ref = graph.consumersOf ref) : next.Consistent := by
  refine ⟨fun source target => ?_, fun source => ?_⟩
  · rw [consumers, sources]
    exact consistent.consumes_iff source target
  · rw [consumers]
    exact consistent.nodup source

theorem HasEdges.of_same {graph next : Graph} {edges : List (PortRef × PortRef)}
    (has : graph.HasEdges edges) (sources : ∀ ref, next.sourceOf? ref = graph.sourceOf? ref) :
    next.HasEdges edges := by
  intro source target
  rw [sources]
  exact has source target

/-- Boundary lists do not matter to the wiring. -/
theorem Consistent.of_nodes {graph next : Graph} (consistent : graph.Consistent)
    (nodes : next.nodes = graph.nodes) : next.Consistent := by
  apply consistent.of_same
  · intro ref
    rw [sourceOf?, input?, nodes, sourceOf?, input?]
  · intro ref
    rw [consumersOf, output?, nodes, consumersOf, output?]

theorem HasEdges.of_nodes {graph next : Graph} {edges : List (PortRef × PortRef)}
    (has : graph.HasEdges edges) (nodes : next.nodes = graph.nodes) : next.HasEdges edges := by
  apply has.of_same
  intro ref
  rw [sourceOf?, input?, nodes, sourceOf?, input?]

theorem input?_add (graph : Graph) (layer : Layer) (ref : PortRef) :
    (graph.add layer).input? ref = if ref.node < graph.size then graph.input? ref
      else Layer.portAmong? Layer.inputs [layer] (ref.rebase (-graph.size)) :=
  Layer.portAmong?_append Layer.inputs graph.nodes [layer] ref

theorem output?_add (graph : Graph) (layer : Layer) (ref : PortRef) :
    (graph.add layer).output? ref = if ref.node < graph.size then graph.output? ref
      else Layer.portAmong? Layer.outputs [layer] (ref.rebase (-graph.size)) :=
  Layer.portAmong?_append Layer.outputs graph.nodes [layer] ref

theorem node_lt_of_input? {graph : Graph} {ref : PortRef}
    (present : (graph.input? ref).isSome = true) : ref.node < graph.size := by
  obtain ⟨port, found⟩ := Option.isSome_iff_exists.mp present
  exact Layer.node_lt_of_portAmong? _ found

theorem node_lt_of_output? {graph : Graph} {ref : PortRef}
    (present : (graph.output? ref).isSome = true) : ref.node < graph.size := by
  obtain ⟨port, found⟩ := Option.isSome_iff_exists.mp present
  exact Layer.node_lt_of_portAmong? _ found

/-- A port of a lone layer belongs to that layer. -/
theorem mem_of_portAmong?_singleton {α : Type} {ports : Layer → List α} {layer : Layer}
    {ref : PortRef} {port : α} (found : Layer.portAmong? ports [layer] ref = some port) :
    port ∈ ports layer := by
  obtain ⟨place, slot, other, rfl, here, there⟩ := (Layer.portAmong?_eq_some ports).mp found
  cases place with
  | zero =>
    cases here
    exact List.mem_of_getElem? there
  | succ place => cases here

/-- A fresh layer brings no source. -/
theorem sourceOf?_add {graph : Graph} {layer : Layer} (fresh : layer.Fresh) (ref : PortRef) :
    (graph.add layer).sourceOf? ref = graph.sourceOf? ref := by
  unfold sourceOf?
  rw [input?_add]
  split
  · rfl
  · next late =>
    have absent : graph.input? ref = none :=
      Option.not_isSome_iff_eq_none.mp fun present => late (node_lt_of_input? present)
    rw [absent]
    cases found : Layer.portAmong? Layer.inputs [layer] (ref.rebase (-graph.size)) with
    | none => rfl
    | some port => exact fresh.source_eq_none (mem_of_portAmong?_singleton found)

/-- A fresh layer brings no consumer. -/
theorem consumersOf_add {graph : Graph} {layer : Layer} (fresh : layer.Fresh) (ref : PortRef) :
    (graph.add layer).consumersOf ref = graph.consumersOf ref := by
  unfold consumersOf
  rw [output?_add]
  split
  · rfl
  · next late =>
    have absent : graph.output? ref = none :=
      Option.not_isSome_iff_eq_none.mp fun present => late (node_lt_of_output? present)
    rw [absent]
    cases found : Layer.portAmong? Layer.outputs [layer] (ref.rebase (-graph.size)) with
    | none => rfl
    | some port => exact fresh.consumers_eq_nil (mem_of_portAmong?_singleton found)

theorem bare_add {graph : Graph} {layer : Layer} (fresh : layer.Fresh) :
    (graph.add layer).bare = graph.bare ++ [layer] := by
  unfold bare add
  rw [List.map_append, List.map_singleton, fresh]

theorem Consistent.add {graph : Graph} {layer : Layer} (consistent : graph.Consistent)
    (fresh : layer.Fresh) : (graph.add layer).Consistent :=
  consistent.of_same (sourceOf?_add fresh) (consumersOf_add fresh)

theorem HasEdges.add {graph : Graph} {layer : Layer} {edges : List (PortRef × PortRef)}
    (has : graph.HasEdges edges) (fresh : layer.Fresh) : (graph.add layer).HasEdges edges :=
  has.of_same (sourceOf?_add fresh)

section
variable {layers : List Layer} (fresh : ∀ layer ∈ layers, layer.Fresh)
include fresh

theorem bare_addAll (graph : Graph) : (layers.foldl Graph.add graph).bare = graph.bare ++ layers := by
  induction layers generalizing graph with
  | nil => simp
  | cons layer layers ih =>
    rw [List.foldl_cons, ih fun other member => fresh other (List.mem_cons_of_mem _ member),
      bare_add (fresh layer List.mem_cons_self), List.append_assoc, List.singleton_append]

theorem Consistent.addAll {graph : Graph} (consistent : graph.Consistent) :
    (layers.foldl Graph.add graph).Consistent := by
  induction layers generalizing graph with
  | nil => exact consistent
  | cons layer layers ih =>
    exact ih (fun other member => fresh other (List.mem_cons_of_mem _ member))
      (consistent.add (fresh layer List.mem_cons_self))

theorem HasEdges.addAll {graph : Graph} {edges : List (PortRef × PortRef)}
    (has : graph.HasEdges edges) : (layers.foldl Graph.add graph).HasEdges edges := by
  induction layers generalizing graph with
  | nil => exact has
  | cons layer layers ih =>
    exact ih (fun other member => fresh other (List.mem_cons_of_mem _ member))
      (has.add (fresh layer List.mem_cons_self))

end

section
variable {graph next : Graph} {source target : PortRef}

theorem Connects.input?_eq_none (step : graph.Connects source target next) {ref : PortRef} :
    next.input? ref = none ↔ graph.input? ref = none := by
  rw [← Option.not_isSome_iff_eq_none, ← Option.not_isSome_iff_eq_none, isSome_input?, isSome_input?, step.bare]

/-- A port that is bound to nothing is the consumer of nothing. -/
theorem ConsistentUpTo.notMem_consumersOf {stale : List (PortRef × PortRef)} (consistent : graph.ConsistentUpTo stale)
    (present : (graph.input? target).isSome = true) (unbound : graph.sourceOf? target = none) (other : PortRef) :
    target ∉ graph.consumersOf other := by
  rw [consistent.consumes_iff, unbound]
  rintro (bound | old)
  · cases bound
  · rw [(consistent.gone other target old).2] at present
    cases present

theorem ConsistentUpTo.connects {stale : List (PortRef × PortRef)} (consistent : graph.ConsistentUpTo stale)
    (step : graph.Connects source target next) : next.ConsistentUpTo stale := by
  have absent := consistent.notMem_consumersOf step.target_present step.unbound
  -- A target without a source is the consumer of nothing, so the new connection is its only one.
  refine ⟨fun other ref => ?_, fun other => ?_, fun other ref member => ?_⟩
  · rw [step.consumers, step.sources]
    by_cases here : ref = target
    · subst here
      have current : (other, ref) ∉ stale :=
        fun old => absent other ((consistent.consumes_iff other ref).mpr (.inr old))
      rw [if_pos rfl]
      by_cases same : other = source
      · subst same
        simp
      · rw [if_neg same]
        simp [absent other, current, Ne.symm same]
    · rw [if_neg here]
      split
      · rw [List.mem_append, List.mem_singleton, consistent.consumes_iff]
        simp [here]
      · exact consistent.consumes_iff other ref
  · rw [step.consumers]
    split
    · have unique := consistent.nodup other
      rw [List.nodup_append]
      refine ⟨unique, by simp, ?_⟩
      intro consumer member single equal same
      rw [List.mem_singleton] at equal
      exact absent other (equal ▸ same ▸ member)
    · exact consistent.nodup other
  · obtain ⟨inside, gone⟩ := consistent.gone other ref member
    rw [← length_bare, step.bare, length_bare]
    exact ⟨inside, step.input?_eq_none.mpr gone⟩

theorem Consistent.connects (consistent : graph.Consistent)
    (step : graph.Connects source target next) : next.Consistent :=
  consistentUpTo_nil.mp ((consistentUpTo_nil.mpr consistent).connects step)

theorem HasEdges.connects {edges : List (PortRef × PortRef)} (has : graph.HasEdges edges)
    (step : graph.Connects source target next) : next.HasEdges (edges ++ [(source, target)]) := by
  intro other ref
  rw [step.sources, List.mem_append, List.mem_singleton, ← has other ref, Prod.mk.injEq]
  by_cases here : ref = target
  · subst here
    rw [if_pos rfl, step.unbound]
    simp [eq_comm]
  · rw [if_neg here]
    simp [here]

end

/-- Fresh ports that inherit have the consumers of the old ones. -/
theorem consumers_inherit {old new : List OutputPort} (lengths : new.length = old.length)
    (fresh : ∀ port ∈ new, port.consumers = []) :
    (inherit old new).map OutputPort.consumers = old.map OutputPort.consumers := by
  induction old generalizing new with
  | nil => rfl
  | cons first rest ih =>
    cases new with
    | nil => cases lengths
    | cons port ports =>
      have tail := ih (Nat.succ.inj lengths) fun other member => fresh other (List.mem_cons_of_mem _ member)
      simp only [inherit, List.zipWith_cons_cons, List.map_cons] at tail ⊢
      rw [tail, fresh port List.mem_cons_self, List.nil_append]

theorem bare_inherit {old new : List OutputPort} (lengths : new.length = old.length) :
    (inherit old new).map (fun port => { port with consumers := [] }) =
      new.map fun port => { port with consumers := [] } := by
  induction old generalizing new with
  | nil =>
    cases new with
    | nil => rfl
    | cons port ports => cases lengths
  | cons first rest ih =>
    cases new with
    | nil => cases lengths
    | cons port ports =>
      have tail := ih (Nat.succ.inj lengths)
      simp only [inherit, List.zipWith_cons_cons, List.map_cons] at tail ⊢
      rw [tail]

/-- What exchanging a node for one without inputs does: its input ports are gone, and the consumers stay. -/
structure Exchanges (graph : Graph) (place : Nat) (next : Graph) : Prop where
  targets : ∀ ref, next.input? ref = if ref.node = place then none else graph.input? ref
  consumers : ∀ ref, next.consumersOf ref = graph.consumersOf ref
  size : next.size = graph.size

/-- A node gives way to a fresh one without inputs and with as many outputs, which inherits the consumers. -/
theorem nodes_of_replace {graph next : Graph} {place : Nat} {layer : Layer}
    (replaced : graph.replace place layer = .ok next) : ∃ old, graph.nodes[place]? = some old ∧
      layer.inputs = [] ∧ layer.outputs.length = old.outputs.length ∧
      next.nodes = graph.nodes.set place { layer with outputs := inherit old.outputs layer.outputs } ∧
      next.inputs = (if layer.kind = .input then graph.inputs else graph.inputs.erase place) ∧
      next.outputs = graph.outputs := by
  unfold replace at replaced
  obtain ⟨⟨found, old⟩, here, rest⟩ := Attempt.bind_eq_ok.mp replaced
  obtain ⟨index, present⟩ := (pick_eq_ok (Int.natCast_nonneg place)).mp here
  obtain rfl : place = found := Int.ofNat.inj index
  dsimp only at rest
  split at rest
  · cases rest
  · next fits =>
    simp only [Bool.or_eq_true, Bool.not_eq_eq_eq_not, Bool.not_true, List.isEmpty_eq_false_iff,
      bne_iff_ne, not_or, ne_eq, Decidable.not_not] at fits
    obtain ⟨empty, lengths⟩ := fits
    split at rest
    · next kind =>
      cases rest
      exact ⟨old, present, empty, lengths, rfl, (if_pos kind).symm, rfl⟩
    · next kind =>
      cases rest
      exact ⟨old, present, empty, lengths, rfl, (if_neg kind).symm, rfl⟩

theorem exchanges_of_replace {graph next : Graph} {place : Nat} {layer : Layer} (fresh : layer.Fresh)
    (replaced : graph.replace place layer = .ok next) : graph.Exchanges place next := by
  obtain ⟨old, present, empty, lengths, nodes, -, -⟩ := nodes_of_replace replaced
  refine ⟨fun ref => ?_, fun ref => ?_, by rw [size, nodes, List.length_set, size]⟩
  · unfold input?
    rw [nodes, Layer.portAmong?_set _ _ present, empty]
    by_cases here : ref.node = place
    · rw [if_pos here]
      split
      · rfl
      · next outside =>
        exact if_neg fun plain => outside ⟨here, plain.2⟩
    · rw [if_neg here, if_neg fun both => here both.1]
  · unfold consumersOf output?
    rw [nodes, Layer.portAmong?_set _ _ present]
    split
    · next here =>
      have plain : ref.Plain := ⟨by omega, here.2⟩
      unfold Layer.portAmong?
      rw [if_pos plain, here.1, Int.toNat_natCast, present, Option.bind_some, ← List.getElem?_map,
        ← List.getElem?_map, consumers_inherit lengths fun port member => fresh.consumers_eq_nil member]
    · rfl

/-- What exchanging a layer does: the wiring stays. -/
structure Replaces (graph : Graph) (place : Nat) (layer : Layer) (next : Graph) : Prop where
  sources : ∀ ref, next.sourceOf? ref = graph.sourceOf? ref
  consumers : ∀ ref, next.consumersOf ref = graph.consumersOf ref
  bare : next.bare = graph.bare.set place layer
  inputs : next.inputs = graph.inputs.erase place
  outputs : next.outputs = graph.outputs

/-- A layer without inputs gives way to a fresh one that is no boundary input. -/
theorem replaces_of_replace {graph next : Graph} {place : Nat} {old layer : Layer}
    (present : graph.nodes[place]? = some old) (leaf : old.inputs = []) (fresh : layer.Fresh)
    (kind : layer.kind ≠ .input) (replaced : graph.replace place layer = .ok next) :
    graph.Replaces place layer next := by
  have step := exchanges_of_replace fresh replaced
  obtain ⟨other, here, -, lengths, nodes, inputs, outputs⟩ := nodes_of_replace replaced
  obtain rfl : other = old := Option.some.inj (here.symm.trans present)
  refine ⟨fun ref => ?_, step.consumers, ?_, by rw [inputs, if_neg kind], outputs⟩
  · unfold sourceOf?
    rw [step.targets]
    split
    · next at_place =>
      -- There was no input port at the place before either.
      have absent : graph.input? ref = none := by
        unfold input? Layer.portAmong?
        rw [at_place, Int.toNat_natCast, present, Option.bind_some, leaf]
        exact ite_self none
      rw [absent]
    · rfl
  · have unwired : ({ layer with outputs := inherit other.outputs layer.outputs } : Layer).bare = layer := by
      rw [Layer.bare, bare_inherit lengths]
      exact fresh
    rw [bare, nodes, List.map_set, unwired, bare]

end LayerGraph.Graph
