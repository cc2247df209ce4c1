import LayerGraph.Proofs.Graph.Consistency
import Mathlib.Data.List.Sort

/-! Graphs whose boundary lists name their boundary layers.

The lists name the layers that take data in and those that hand data out, in ascending order. New layers are
listed behind those present, connections keep the layers, and a layer that gives way to a constant leaves the
list that names it.
-/

set_option autoImplicit false

namespace LayerGraph

/-- What is kept of numbered items is numbered in ascending order. -/
theorem pairwise_filter_zipIdx {α : Type} (items : List α) (keep : α × Nat → Bool) :
    ((items.zipIdx.filter keep).map Prod.snd).Pairwise (· < ·) := by
  have whole : (items.zipIdx.map Prod.snd).Pairwise (· < ·) := by
    rw [List.zipIdx_map_snd]
    exact List.pairwise_lt_range'
  exact whole.sublist (List.filter_sublist.map _)

namespace Layer

/-- The places of the layers of a kind, in ascending order. -/
def placesOf (kind : LayerKind) (layers : List Layer) : List Int :=
  (layers.zipIdx.filter fun entry => entry.1.kind = kind).map fun entry => (entry.2 : Int)

section
variable {kind : LayerKind} {layers : List Layer}

theorem mem_placesOf {index : Int} : index ∈ placesOf kind layers ↔
    ∃ (place : Nat) (layer : Layer), index = place ∧ layers[place]? = some layer ∧ layer.kind = kind := by
  simp only [placesOf, List.mem_map, List.mem_filter, Prod.exists, List.mem_zipIdx_iff_getElem?, decide_eq_true_eq]
  constructor
  · rintro ⟨layer, place, ⟨here, same⟩, rfl⟩
    exact ⟨place, layer, rfl, here, same⟩
  · rintro ⟨place, layer, rfl, here, same⟩
    exact ⟨layer, place, ⟨here, same⟩, rfl⟩

theorem pairwise_placesOf (kind : LayerKind) (layers : List Layer) : (placesOf kind layers).Pairwise (· < ·) := by
  have numbers := pairwise_filter_zipIdx layers fun entry => entry.1.kind = kind
  rw [List.pairwise_map] at numbers
  exact List.pairwise_map.mpr (numbers.imp Int.ofNat_lt.mpr)

theorem nodup_placesOf (kind : LayerKind) (layers : List Layer) : (placesOf kind layers).Nodup :=
  (pairwise_placesOf kind layers).imp Int.ne_of_lt

theorem placesOf_append (kind : LayerKind) (front back : List Layer) : placesOf kind (front ++ back) =
    placesOf kind front ++ (placesOf kind back).map (· + (front.length : Int)) := by
  have shifted : back.zipIdx front.length = back.zipIdx.map fun entry => (entry.1, entry.2 + front.length) := by
    rw [List.zipIdx_eq_map_add]
    exact List.map_congr_left fun entry _ => by rw [Nat.add_comm]
  simp only [placesOf, List.zipIdx_append, Nat.zero_add, List.filter_append, List.map_append, shifted,
    List.filter_map, List.map_map]
  rfl

/-- A layer of another kind takes its place out of the list. -/
theorem placesOf_set {place : Nat} {new : Layer} (other : new.kind ≠ kind) :
    placesOf kind (layers.set place new) = (placesOf kind layers).erase place := by
  have erased : ((placesOf kind layers).erase place).Pairwise (· < ·) :=
    (pairwise_placesOf kind layers).sublist List.erase_sublist
  refine (pairwise_placesOf kind _).eq_of_mem_iff erased fun index => ?_
  rw [(nodup_placesOf kind layers).mem_erase_iff, mem_placesOf, mem_placesOf]
  constructor
  · rintro ⟨found, layer, rfl, here, same⟩
    by_cases equal : place = found
    · subst equal
      have inside := (List.getElem?_eq_some_iff.mp here).1
      rw [List.length_set] at inside
      rw [List.getElem?_set_self inside, Option.some.injEq] at here
      exact absurd (here ▸ same) other
    · rw [List.getElem?_set_ne equal] at here
      exact ⟨fun equals => equal (Int.ofNat.inj equals).symm, found, layer, rfl, here, same⟩
  · rintro ⟨different, found, layer, rfl, here, same⟩
    refine ⟨found, layer, rfl, ?_, same⟩
    rwa [List.getElem?_set_ne fun equal => different (congrArg Nat.cast equal.symm)]

end

end Layer

namespace Graph

/-- A graph whose boundary lists name its boundary layers in ascending order. -/
structure Bordered (graph : Graph) : Prop where
  inputs : graph.inputs = Layer.placesOf .input graph.bare
  outputs : graph.outputs = Layer.placesOf .output graph.bare

theorem getElem?_of_pick {α : Type} {items : List α} {index : Int} {place : Nat} {item : α}
    (picked : pick items index = .ok (place, item)) : items[place]? = some item := by
  unfold pick at picked
  split at picked
  · cases picked
  · split at picked
    · next here =>
      cases picked
      exact here
    · cases picked

theorem bordered_empty : Graph.empty.Bordered := ⟨rfl, rfl⟩

section
variable {graph next : Graph}

/-- More layers are listed behind those present. -/
theorem Bordered.grow {layers : List Layer} (bordered : graph.Bordered) (bare : next.bare = graph.bare ++ layers)
    (inputs : next.inputs = graph.inputs ++ (Layer.placesOf .input layers).map (· + (graph.size : Int)))
    (outputs : next.outputs = graph.outputs ++ (Layer.placesOf .output layers).map (· + (graph.size : Int))) :
    next.Bordered where
  inputs := by rw [inputs, bordered.inputs, bare, Layer.placesOf_append, length_bare]
  outputs := by rw [outputs, bordered.outputs, bare, Layer.placesOf_append, length_bare]

/-- Layers without their wiring and boundary lists that stay as they are. -/
structure Keeps (graph next : Graph) : Prop where
  bare : next.bare = graph.bare
  inputs : next.inputs = graph.inputs
  outputs : next.outputs = graph.outputs

theorem Keeps.trans {last : Graph} (first : graph.Keeps next) (second : next.Keeps last) : graph.Keeps last :=
  ⟨second.bare.trans first.bare, second.inputs.trans first.inputs, second.outputs.trans first.outputs⟩

theorem Bordered.keeps (bordered : graph.Bordered) (keeps : graph.Keeps next) : next.Bordered where
  inputs := by rw [keeps.inputs, bordered.inputs, keeps.bare]
  outputs := by rw [keeps.outputs, bordered.outputs, keeps.bare]

/-- Binding an input port sets a source only, whatever the references name. -/
theorem keeps_of_bind {source target : PortRef} (binds : graph.bind target source = .ok next) : graph.Keeps next := by
  obtain ⟨place, layer, slot, port, picked, found, unbound, rfl⟩ := bind_eq_ok_iff.mp binds
  refine ⟨bare_setNode (getElem?_of_pick picked) ?_, rfl, rfl⟩
  simp only [Layer.bare, Layer.mk.injEq, true_and, and_true]
  exact map_set_same (getElem?_of_pick found) rfl

theorem keeps_of_attach {source target : PortRef} (attaches : graph.attach source target = .ok next) :
    graph.Keeps next := by
  obtain ⟨place, layer, slot, port, picked, found, rfl⟩ := attach_eq_ok_iff.mp attaches
  refine ⟨bare_setNode (getElem?_of_pick picked) ?_, rfl, rfl⟩
  simp only [Layer.bare, Layer.mk.injEq, true_and]
  exact map_set_same (getElem?_of_pick found) rfl

theorem keeps_of_connect {source target : PortRef} (connected : graph.connect source target = (.ok (), next)) :
    graph.Keeps next := by
  unfold connect at connected
  split at connected
  · cases connected
  · next bound binds =>
    split at connected
    · cases connected
    · next wired attaches =>
      cases connected
      exact (keeps_of_bind binds).trans (keeps_of_attach attaches)

/-- A layer that hands nothing out gives way to one that is no boundary. -/
theorem Bordered.replaces {place : Nat} {old layer : Layer} (bordered : graph.Bordered)
    (step : graph.Replaces place layer next) (here : graph.bare[place]? = some old) (passes : old.kind ≠ .output)
    (inner : layer.kind ∉ [LayerKind.input, .output]) : next.Bordered where
  inputs := by
    rw [step.inputs, bordered.inputs, step.bare, Layer.placesOf_set fun same => inner (by simp [same])]
  outputs := by
    have absent : (place : Int) ∉ Layer.placesOf .output graph.bare := by
      intro member
      obtain ⟨found, other, equal, there, hands⟩ := Layer.mem_placesOf.mp member
      cases Int.ofNat.inj equal
      exact passes (Option.some.inj (here.symm.trans there) ▸ hands)
    rw [step.outputs, bordered.outputs, step.bare, Layer.placesOf_set fun same => inner (by simp [same]),
      List.erase_of_not_mem absent]

end

end Graph

end LayerGraph
