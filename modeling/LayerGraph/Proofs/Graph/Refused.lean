import LayerGraph.Proofs.Graph.Border

/-! Connections that are refused.

The target of a connection is bound before its source is looked up. So a refusal leaves the graph as it was if the target
is no free port; if it is one, then it is the source that is missing, and the target stays bound to it.
-/

set_option autoImplicit false

namespace LayerGraph.Graph

section
variable {α : Type} {items : List α} {index : Int} {place : Nat} {item : α}

theorem pick_map {β : Type} (change : α → β) :
    pick (items.map change) index = (pick items index).map fun found => (found.1, change found.2) := by
  unfold pick
  rw [List.length_map]
  cases position? items.length index with
  | none => rfl
  | some place =>
    dsimp only
    rw [List.getElem?_map]
    cases items[place]? <;> rfl

theorem pick_place (picked : pick items index = .ok (place, item)) : pick items place = .ok (place, item) :=
  (pick_eq_ok (Int.natCast_nonneg place)).mpr ⟨rfl, getElem?_of_pick picked⟩

end

section
variable {graph next : Graph} {source target : PortRef} {failure : Failure}

theorem outputPort_congr (same : next.nodes.map Layer.outputs = graph.nodes.map Layer.outputs) (ref : PortRef) :
    next.outputPort ref = graph.outputPort ref := by
  -- The look-up goes through the outputs of the nodes only.
  have through : ∀ graph : Graph, graph.outputPort ref = (do
      let (_, ports) ← pick (graph.nodes.map Layer.outputs) ref.node
      return (← pick ports ref.slot).2) := by
    intro graph
    unfold outputPort
    rw [node_eq_pick, pick_map]
    cases pick graph.nodes ref.node <;> rfl
  rw [through, through, same]

theorem attach_eq_error : graph.attach source target = .error failure ↔ graph.outputPort source = .error failure := by
  unfold attach outputPort
  rw [node_eq_pick]
  cases pick graph.nodes source.node with
  | error refused => simp [Bind.bind, Except.bind, Except.map]
  | ok found =>
    obtain ⟨place, layer⟩ := found
    cases slot : pick layer.outputs source.slot <;>
      simp [Bind.bind, Except.bind, Except.map, pure, Except.pure, slot]

theorem inputPort_eq_ok_iff {port : InputPort} : graph.inputPort target = .ok port ↔ ∃ place layer slot,
    pick graph.nodes target.node = .ok (place, layer) ∧ pick layer.inputs target.slot = .ok (slot, port) := by
  unfold inputPort
  rw [node_eq_pick, Attempt.bind_eq_ok]
  constructor
  · rintro ⟨layer, found, rest⟩
    obtain ⟨⟨place, _⟩, here, rfl⟩ := Attempt.map_eq_ok.mp found
    obtain ⟨⟨slot, _⟩, there, rest⟩ := Attempt.bind_eq_ok.mp rest
    cases rest
    exact ⟨place, _, slot, here, there⟩
  · rintro ⟨place, layer, slot, here, there⟩
    exact ⟨layer, Attempt.map_eq_ok.mpr ⟨_, here, rfl⟩, Attempt.bind_eq_ok.mpr ⟨_, there, rfl⟩⟩

/-- A port that is found but cannot be bound has a source. -/
theorem isBound_of_bind {port : InputPort} (refused : graph.bind target source = .error failure)
    (found : graph.inputPort target = .ok port) : port.isBound = true := by
  obtain ⟨place, layer, slot, here, there⟩ := inputPort_eq_ok_iff.mp found
  simp only [bind, here, there, Bind.bind, Except.bind, InputPort.bind] at refused
  cases bound : port.source with
  | none => simp [bound, pure, Except.pure] at refused
  | some present => simp [InputPort.isBound, bound]

/-- Where an input port is, by a place and a slot that are not negative. -/
def inputPlace (graph : Graph) (target : PortRef) : Attempt PortRef := do
  let (place, layer) ← pick graph.nodes target.node
  let (slot, _) ← pick layer.inputs target.slot
  return ⟨place, slot⟩

/-- A port that is bound was free, and it could have been named by its place. -/
theorem exists_place_of_bind (binds : graph.bind target source = .ok next) : ∃ here port, here.Plain ∧
    graph.inputPlace target = .ok here ∧ graph.inputPort target = .ok port ∧ port.isBound = false ∧
    graph.bind here source = .ok next := by
  obtain ⟨place, layer, slot, port, picked, found, unbound, next⟩ := bind_eq_ok_iff.mp binds
  exact ⟨⟨place, slot⟩, port, ⟨Int.natCast_nonneg _, Int.natCast_nonneg _⟩,
    Attempt.bind_eq_ok.mpr ⟨_, picked, Attempt.bind_eq_ok.mpr ⟨_, found, rfl⟩⟩,
    inputPort_eq_ok_iff.mpr ⟨place, layer, slot, picked, found⟩,
    by rw [InputPort.isBound, unbound, Option.isSome_none],
    bind_eq_ok_iff.mpr ⟨place, layer, slot, port, pick_place picked, pick_place found, unbound, next⟩⟩

theorem outputs_of_bind (binds : graph.bind target source = .ok next) :
    next.nodes.map Layer.outputs = graph.nodes.map Layer.outputs := by
  obtain ⟨place, layer, slot, port, picked, _, _, rfl⟩ := bind_eq_ok_iff.mp binds
  exact map_set_same (getElem?_of_pick picked) rfl

/-- Either the target cannot be bound, or it has been bound and the source is missing. -/
theorem refused_cases (refused : graph.connect source target = (.error failure, next)) :
    (graph.bind target source = .error failure ∧ next = graph) ∨
      (graph.bind target source = .ok next ∧ graph.outputPort source = .error failure) := by
  unfold connect at refused
  split at refused
  · next binds =>
    cases refused
    exact .inl ⟨binds, rfl⟩
  · next bound binds =>
    split at refused
    · next attaches =>
      cases refused
      refine .inr ⟨binds, ?_⟩
      -- Binding has not changed which sources there are.
      rw [← outputPort_congr (outputs_of_bind binds)]
      exact attach_eq_error.mp attaches
    · cases refused

/-- A graph in which one free port has been bound, and nothing else has been done. -/
structure BindsOnly (graph : Graph) (source here : PortRef) (next : Graph) : Prop where
  free : graph.sourceOf? here = none
  sources : ∀ ref, next.sourceOf? ref = if ref = here then some source else graph.sourceOf? ref
  consumers : ∀ ref, next.consumersOf ref = graph.consumersOf ref
  keeps : graph.Keeps next

theorem bindsOnly_of_bind (plain : target.Plain) (binds : graph.bind target source = .ok next) :
    graph.BindsOnly source target next := by
  obtain ⟨port, present, free, inputs, outputs, _⟩ := ports_of_bind plain binds
  refine ⟨?_, fun ref => ?_, fun ref => by rw [consumersOf, outputs, consumersOf], keeps_of_bind binds⟩
  · rw [sourceOf?, present]
    exact free
  · unfold sourceOf?
    rw [inputs]
    split <;> rfl

theorem BindsOnly.ne {here : PortRef} (only : graph.BindsOnly source here next) : next ≠ graph := by
  rintro rfl
  have bound := only.sources here
  rw [if_pos rfl, only.free] at bound
  cases bound

/-- A refused connection leaves the graph as it was exactly if its target names no free input port. If it does, the
source is missing, and all that is left behind is that the port is bound to it. -/
theorem unchanged_iff_of_refused (refused : graph.connect source target = (.error failure, next)) :
    (next = graph ↔ ∀ port, graph.inputPort target = .ok port → port.isBound = true) ∧
      (next ≠ graph → graph.outputPort source = .error failure ∧
        ∃ here, graph.inputPlace target = .ok here ∧ graph.BindsOnly source here next) := by
  rcases refused_cases refused with ⟨kept, rfl⟩ | ⟨binds, missing⟩
  · exact ⟨iff_of_true rfl fun port => isBound_of_bind kept, fun changed => absurd rfl changed⟩
  · obtain ⟨here, port, plain, place, found, free, binds⟩ := exists_place_of_bind binds
    have only := bindsOnly_of_bind plain binds
    refine ⟨iff_of_false only.ne fun all => ?_, fun _ => ⟨missing, here, place, only⟩⟩
    rw [all port found] at free
    cases free

end

/-- A lone rectifier is bound to a node that does not exist. -/
theorem changed_of_refused :
    let graph := Graph.empty.add (Layer.relu [2])
    let left := Graph.empty.add ⟨.relu, [⟨"input", [2], some ⟨1, 0⟩⟩], [⟨"output", [2], []⟩]⟩
    graph.connect ⟨1, 0⟩ ⟨-1, 0⟩ = (.error (.fault .indexRange), left) ∧ left ≠ graph ∧
      graph.outputPort ⟨1, 0⟩ = .error (.fault .indexRange) ∧ graph.BindsOnly ⟨1, 0⟩ ⟨0, 0⟩ left := by
  intro graph left
  have refused : graph.connect ⟨1, 0⟩ ⟨-1, 0⟩ = (.error (.fault .indexRange), left) := by rfl
  have changed : left ≠ graph := by decide
  obtain ⟨missing, here, place, only⟩ := (unchanged_iff_of_refused refused).2 changed
  have first : graph.inputPlace ⟨-1, 0⟩ = .ok ⟨0, 0⟩ := by rfl
  obtain rfl : here = ⟨0, 0⟩ := Except.ok.inj (place.symm.trans first)
  exact ⟨refused, changed, missing, only⟩

end LayerGraph.Graph
