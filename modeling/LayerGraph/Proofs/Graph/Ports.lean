import LayerGraph.Graph.Basic
import LayerGraph.Proofs.Failure.Run

/-! The ports of a graph by plain references, and what connecting does to them.

A plain reference has no negative number, so it names one place only. The wiring of a graph is seen
through two functions: the source of a target and the consumers of a source. What is left of a layer
without its wiring is bare.
-/

set_option autoImplicit false

namespace LayerGraph

/-- A reference without negative numbers. -/
def PortRef.Plain (ref : PortRef) : Prop := 0 ≤ ref.node ∧ 0 ≤ ref.slot

instance (ref : PortRef) : Decidable ref.Plain := inferInstanceAs (Decidable (_ ∧ _))

theorem PortRef.Plain.eq_natCast {ref : PortRef} (plain : ref.Plain) :
    ref = ⟨(ref.node.toNat : Int), (ref.slot.toNat : Int)⟩ := by
  rw [Int.toNat_of_nonneg plain.1, Int.toNat_of_nonneg plain.2]

namespace Layer

section
variable {α : Type} (ports : Layer → List α)

/-- The port of a list of layers that a plain reference names. -/
def portAmong? (layers : List Layer) (ref : PortRef) : Option α :=
  if ref.Plain then (layers[ref.node.toNat]?).bind fun layer => (ports layer)[ref.slot.toNat]? else none

@[simp] theorem portAmong?_nil (ref : PortRef) : portAmong? ports [] ref = none := by
  simp [portAmong?]

theorem portAmong?_natCast (layers : List Layer) (place slot : Nat) :
    portAmong? ports layers ⟨place, slot⟩ = (layers[place]?).bind fun layer => (ports layer)[slot]? := by
  simp [portAmong?, PortRef.Plain]

theorem plain_of_portAmong? {layers : List Layer} {ref : PortRef} {port : α}
    (found : portAmong? ports layers ref = some port) : ref.Plain := by
  unfold portAmong? at found
  split at found
  · assumption
  · cases found

/-- A port among the layers belongs to one of them. -/
theorem portAmong?_eq_some {layers : List Layer} {ref : PortRef} {port : α} :
    portAmong? ports layers ref = some port ↔ ∃ place slot layer,
      ref = ⟨(place : Nat), (slot : Nat)⟩ ∧ layers[place]? = some layer ∧
        (ports layer)[slot]? = some port := by
  constructor
  · intro found
    have plain := plain_of_portAmong? ports found
    rw [plain.eq_natCast, portAmong?_natCast, Option.bind_eq_some_iff] at found
    obtain ⟨layer, here, there⟩ := found
    exact ⟨_, _, layer, plain.eq_natCast, here, there⟩
  · rintro ⟨place, slot, layer, rfl, here, there⟩
    rw [portAmong?_natCast, here]
    exact there

theorem isSome_portAmong? {layers : List Layer} {ref : PortRef} :
    (portAmong? ports layers ref).isSome = true ↔ ∃ place slot layer,
      ref = ⟨(place : Nat), (slot : Nat)⟩ ∧ layers[place]? = some layer ∧
        slot < (ports layer).length := by
  rw [Option.isSome_iff_exists]
  constructor
  · rintro ⟨port, found⟩
    obtain ⟨place, slot, layer, same, here, there⟩ := (portAmong?_eq_some ports).mp found
    exact ⟨place, slot, layer, same, here, (List.getElem?_eq_some_iff.mp there).1⟩
  · rintro ⟨place, slot, layer, same, here, bound⟩
    exact ⟨_, (portAmong?_eq_some ports).mpr
      ⟨place, slot, layer, same, here, List.getElem?_eq_getElem bound⟩⟩

theorem node_lt_of_portAmong? {layers : List Layer} {ref : PortRef} {port : α}
    (found : portAmong? ports layers ref = some port) : ref.node < layers.length := by
  obtain ⟨place, slot, layer, rfl, here, _⟩ := (portAmong?_eq_some ports).mp found
  exact Int.ofNat_lt.mpr (List.getElem?_eq_some_iff.mp here).1

theorem portAmong?_append (front back : List Layer) (ref : PortRef) :
    portAmong? ports (front ++ back) ref =
      if ref.node < front.length then portAmong? ports front ref
      else portAmong? ports back (ref.rebase (-front.length)) := by
  by_cases early : ref.node < front.length
  · rw [if_pos early]
    unfold portAmong?
    split
    · next plain =>
      have nonneg := plain.1
      rw [List.getElem?_append_left (by omega)]
    · rfl
  · rw [if_neg early]
    have same : (ref.node + -(front.length : Int)).toNat = ref.node.toNat - front.length := by omega
    unfold portAmong?
    by_cases plain : ref.Plain
    · have shifted : (ref.rebase (-front.length)).Plain := ⟨by simp only [PortRef.rebase]; omega, plain.2⟩
      rw [if_pos plain, if_pos shifted, List.getElem?_append_right (by omega)]
      simp only [PortRef.rebase, same]
    · have shifted : ¬ (ref.rebase (-front.length)).Plain :=
        fun other => plain ⟨by omega, other.2⟩
      rw [if_neg plain, if_neg shifted]

/-- Exchanging one layer changes the ports of its place only. -/
theorem portAmong?_set {layers : List Layer} {place : Nat} {old : Layer} (new : Layer)
    (present : layers[place]? = some old) (ref : PortRef) :
    portAmong? ports (layers.set place new) ref =
      if ref.node = place ∧ 0 ≤ ref.slot then (ports new)[ref.slot.toNat]?
      else portAmong? ports layers ref := by
  have bound := (List.getElem?_eq_some_iff.mp present).1
  unfold portAmong?
  by_cases here : ref.node = place
  · have same : ref.node.toNat = place := by omega
    by_cases slot : 0 ≤ ref.slot
    · rw [if_pos ⟨by omega, slot⟩, if_pos ⟨here, slot⟩, same, List.getElem?_set_self bound]
      rfl
    · rw [if_neg fun plain => slot plain.2, if_neg fun both => slot both.2,
        if_neg fun plain => slot plain.2]
  · have elsewhere : ¬ (ref.node = place ∧ 0 ≤ ref.slot) := fun both => here both.1
    rw [if_neg elsewhere]
    split
    · next plain =>
      have nonneg := plain.1
      rw [List.getElem?_set_ne (by omega)]
    · rfl

/-- A layer with the same ports may take the place of another. -/
theorem portAmong?_set_same {layers : List Layer} {place : Nat} {old new : Layer}
    (present : layers[place]? = some old) (same : ports new = ports old) (ref : PortRef) :
    portAmong? ports (layers.set place new) ref = portAmong? ports layers ref := by
  rw [portAmong?_set ports new present]
  split
  · next here =>
    have plain : ref.Plain := ⟨by omega, here.2⟩
    unfold portAmong?
    rw [if_pos plain, here.1, Int.toNat_natCast, present, same]
    rfl
  · rfl

/-- Exchanging one port changes what one plain reference names. -/
theorem portAmong?_set_port {layers : List Layer} {target : PortRef} {old new : Layer} {port : α}
    (plain : target.Plain) (present : layers[target.node.toNat]? = some old)
    (inside : target.slot.toNat < (ports old).length)
    (changed : ports new = (ports old).set target.slot.toNat port) (ref : PortRef) :
    portAmong? ports (layers.set target.node.toNat new) ref =
      if ref = target then some port else portAmong? ports layers ref := by
  have node := plain.1
  have slot := plain.2
  rw [portAmong?_set ports new present, changed]
  by_cases same : ref = target
  · subst same
    rw [if_pos ⟨by omega, slot⟩, if_pos rfl, List.getElem?_set_self inside]
  · rw [if_neg same]
    split
    · next here =>
      -- Another reference to the same layer names another port of it.
      have other : target.slot.toNat ≠ ref.slot.toNat := by
        intro equal
        apply same
        cases ref
        cases target
        simp only [PortRef.mk.injEq] at *
        omega
      have refPlain : ref.Plain := ⟨by omega, here.2⟩
      have nodes : ref.node.toNat = target.node.toNat := by omega
      unfold portAmong?
      rw [List.getElem?_set_ne other, if_pos refPlain, nodes, present]
      rfl
    · rfl

end

/-- A layer without its wiring. -/
def bare (layer : Layer) : Layer :=
  { layer with
    inputs := layer.inputs.map fun port => { port with source := none }
    outputs := layer.outputs.map fun port => { port with consumers := [] } }

/-- A layer whose ports are not wired. -/
def Fresh (layer : Layer) : Prop := layer.bare = layer

instance (layer : Layer) : Decidable layer.Fresh := inferInstanceAs (Decidable (_ = _))

theorem portAmong?_bare_inputs (layers : List Layer) (ref : PortRef) :
    portAmong? inputs (layers.map bare) ref =
      (portAmong? inputs layers ref).map fun port => { port with source := none } := by
  unfold portAmong?
  split
  · rw [List.getElem?_map]
    cases layers[ref.node.toNat]? <;> simp [bare]
  · rfl

theorem portAmong?_bare_outputs (layers : List Layer) (ref : PortRef) :
    portAmong? outputs (layers.map bare) ref =
      (portAmong? outputs layers ref).map fun port => { port with consumers := [] } := by
  unfold portAmong?
  split
  · rw [List.getElem?_map]
    cases layers[ref.node.toNat]? <;> simp [bare]
  · rfl

theorem Fresh.source_eq_none {layer : Layer} (fresh : layer.Fresh) {port : InputPort}
    (member : port ∈ layer.inputs) : port.source = none := by
  have same : layer.bare.inputs = layer.inputs := congrArg inputs fresh
  rw [← same] at member
  obtain ⟨other, _, rfl⟩ := List.mem_map.mp member
  rfl

theorem Fresh.consumers_eq_nil {layer : Layer} (fresh : layer.Fresh) {port : OutputPort}
    (member : port ∈ layer.outputs) : port.consumers = [] := by
  have same : layer.bare.outputs = layer.outputs := congrArg outputs fresh
  rw [← same] at member
  obtain ⟨other, _, rfl⟩ := List.mem_map.mp member
  rfl

end Layer

namespace Graph

/-- The input port that a plain reference names. -/
def input? (graph : Graph) (ref : PortRef) : Option InputPort :=
  Layer.portAmong? Layer.inputs graph.nodes ref

/-- The output port that a plain reference names. -/
def output? (graph : Graph) (ref : PortRef) : Option OutputPort :=
  Layer.portAmong? Layer.outputs graph.nodes ref

/-- The source that an input port is bound to. -/
def sourceOf? (graph : Graph) (target : PortRef) : Option PortRef :=
  (graph.input? target).bind InputPort.source

/-- The consumers of an output port, none where there is no such port. -/
def consumersOf (graph : Graph) (source : PortRef) : List PortRef :=
  ((graph.output? source).map OutputPort.consumers).getD []

/-- The layers of a graph without their wiring. -/
def bare (graph : Graph) : List Layer := graph.nodes.map Layer.bare

@[simp] theorem length_bare (graph : Graph) : graph.bare.length = graph.size :=
  List.length_map Layer.bare

theorem isSome_input? (graph : Graph) (ref : PortRef) :
    (graph.input? ref).isSome = (Layer.portAmong? Layer.inputs graph.bare ref).isSome := by
  rw [bare, Layer.portAmong?_bare_inputs, Option.isSome_map]
  rfl

theorem isSome_output? (graph : Graph) (ref : PortRef) :
    (graph.output? ref).isSome = (Layer.portAmong? Layer.outputs graph.bare ref).isSome := by
  rw [bare, Layer.portAmong?_bare_outputs, Option.isSome_map]
  rfl

theorem isSome_input?_of_sourceOf? {graph : Graph} {source target : PortRef}
    (bound : graph.sourceOf? target = some source) : (graph.input? target).isSome = true := by
  obtain ⟨port, present, _⟩ := Option.bind_eq_some_iff.mp bound
  rw [present]
  rfl

theorem isSome_output?_of_mem_consumersOf {graph : Graph} {source target : PortRef}
    (member : target ∈ graph.consumersOf source) : (graph.output? source).isSome = true := by
  unfold consumersOf at member
  cases present : graph.output? source with
  | none => simp [present] at member
  | some port => rfl

section
variable {α : Type}

theorem mem_numbered {place : Nat} {ports : List α} {ref : PortRef} {port : α} :
    (ref, port) ∈ numbered place ports ↔
      ∃ slot : Nat, ref = ⟨place, slot⟩ ∧ ports[slot]? = some port := by
  unfold numbered
  simp only [List.mem_map, Prod.exists, Prod.mk.injEq, List.mem_zipIdx_iff_getElem?]
  constructor
  · rintro ⟨other, slot, here, rfl, rfl⟩
    exact ⟨slot, rfl, here⟩
  · rintro ⟨slot, rfl, here⟩
    exact ⟨port, slot, here, rfl, rfl⟩

theorem mem_numbered_nodes {nodes : List Layer} {ports : Layer → List α} {ref : PortRef} {port : α} :
    (ref, port) ∈ nodes.zipIdx.flatMap (fun (layer, place) => numbered place (ports layer)) ↔
      Layer.portAmong? ports nodes ref = some port := by
  rw [Layer.portAmong?_eq_some]
  simp only [List.mem_flatMap, Prod.exists, List.mem_zipIdx_iff_getElem?, mem_numbered]
  constructor
  · rintro ⟨layer, place, here, slot, rfl, there⟩
    exact ⟨place, slot, layer, rfl, here, there⟩
  · rintro ⟨place, slot, layer, rfl, here, there⟩
    exact ⟨layer, place, here, slot, rfl, there⟩

end

theorem mem_inputPorts {graph : Graph} {ref : PortRef} {port : InputPort} :
    (ref, port) ∈ graph.inputPorts ↔ graph.input? ref = some port :=
  mem_numbered_nodes

theorem mem_outputPorts {graph : Graph} {ref : PortRef} {port : OutputPort} :
    (ref, port) ∈ graph.outputPorts ↔ graph.output? ref = some port :=
  mem_numbered_nodes

theorem mem_edges {graph : Graph} {source target : PortRef} :
    (source, target) ∈ graph.edges ↔ graph.sourceOf? target = some source := by
  unfold edges sourceOf?
  rw [List.mem_filterMap, Option.bind_eq_some_iff]
  constructor
  · rintro ⟨⟨ref, port⟩, member, found⟩
    obtain ⟨other, bound, same⟩ := Option.map_eq_some_iff.mp found
    cases same
    exact ⟨port, mem_inputPorts.mp member, bound⟩
  · rintro ⟨port, present, bound⟩
    exact ⟨(target, port), mem_inputPorts.mpr present, by simp [bound]⟩

theorem mem_unboundPorts {graph : Graph} {ref : PortRef} :
    ref ∈ graph.unboundPorts ↔ (graph.input? ref).isSome = true ∧ graph.sourceOf? ref = none := by
  unfold unboundPorts sourceOf?
  rw [List.mem_filterMap]
  constructor
  · rintro ⟨⟨target, port⟩, member, found⟩
    have present := mem_inputPorts.mp member
    cases bound : port.source with
    | none =>
      simp only [InputPort.isBound, bound, Option.isSome_none, Bool.false_eq_true, if_false,
        Option.some.injEq] at found
      subst found
      simp [present, bound]
    | some source => simp [InputPort.isBound, bound] at found
  · rintro ⟨isSome, unbound⟩
    obtain ⟨port, present⟩ := Option.isSome_iff_exists.mp isSome
    rw [present, Option.bind_some] at unbound
    exact ⟨(ref, port), mem_inputPorts.mpr present, by simp [InputPort.isBound, unbound]⟩

end Graph

end LayerGraph
