import LayerGraph.Proofs.Graph.Border
import Mathlib.Data.Set.Function
import Mathlib.Order.Interval.Set.Defs

/-! Graphs that differ in the numbers of their nodes only.

An isomorphism renames the nodes of one graph to those of another: it keeps the layers, and it takes sources to
sources, consumers to consumers and the boundary lists to the boundary lists. Where the consumers of a graph are told
by its sources and the boundary lists by its layers, only layers and sources have to be compared.
-/

set_option autoImplicit false

namespace LayerGraph

/-- The number of a node after a renaming. -/
def renamed (image : Nat → Nat) (node : Int) : Int := image node.toNat

/-- The same port of a renamed node. -/
def PortRef.rename (image : Nat → Nat) (ref : PortRef) : PortRef := ⟨renamed image ref.node, ref.slot⟩

namespace Graph

/-- A renaming of the nodes of one graph to those of another that keeps the layers (their kinds, parameters, arrays and
the shapes at their ports), the sources, the consumers and the boundary lists, the last two up to their order. -/
structure Isomorphic (first second : Graph) (image : Nat → Nat) : Prop where
  bijective : Set.BijOn image (Set.Iio first.size) (Set.Iio second.size)
  layers : ∀ place, place < first.size → second.bare[image place]? = first.bare[place]?
  sources : ∀ place slot : Nat, place < first.size →
    second.sourceOf? ⟨image place, slot⟩ = (first.sourceOf? ⟨place, slot⟩).map (PortRef.rename image)
  consumers : ∀ place slot : Nat, place < first.size →
    (second.consumersOf ⟨image place, slot⟩).Perm ((first.consumersOf ⟨place, slot⟩).map (PortRef.rename image))
  inputs : second.inputs.Perm (first.inputs.map (renamed image))
  outputs : second.outputs.Perm (first.outputs.map (renamed image))

/-- A port that exists has a place and a slot. -/
theorem exists_place {α : Type} {ports : Layer → List α} {graph : Graph} {ref : PortRef}
    (present : (Layer.portAmong? ports graph.nodes ref).isSome = true) :
    ∃ place slot : Nat, ref = ⟨place, slot⟩ ∧ place < graph.size := by
  obtain ⟨place, slot, layer, same, here, _⟩ := (Layer.isSome_portAmong? ports).mp present
  exact ⟨place, slot, same, (List.getElem?_eq_some_iff.mp here).1⟩

section
variable {first second : Graph} {image : Nat → Nat}

theorem perm_consumersOf (before : first.Consistent) (after : second.Consistent)
    (bijective : Set.BijOn image (Set.Iio first.size) (Set.Iio second.size))
    (sources : ∀ place slot : Nat, place < first.size →
      second.sourceOf? ⟨image place, slot⟩ = (first.sourceOf? ⟨place, slot⟩).map (PortRef.rename image))
    {place slot : Nat} (inside : place < first.size) :
    (second.consumersOf ⟨image place, slot⟩).Perm
      ((first.consumersOf ⟨place, slot⟩).map (PortRef.rename image)) := by
  have consumer : ∀ {graph : Graph} {source target : PortRef}, graph.Consistent →
      target ∈ graph.consumersOf source → ∃ other port : Nat, target = ⟨other, port⟩ ∧ other < graph.size := by
    intro graph source target consistent member
    exact exists_place (isSome_input?_of_sourceOf? ((consistent.consumes_iff source target).mp member))
  -- A port takes its data once, so the lists are permutations as soon as they have the same members.
  refine (List.perm_ext_iff_of_nodup (after.nodup _) ((before.nodup _).map_on ?_)).mpr fun target => ?_
  · intro left leftMember right rightMember same
    obtain ⟨a, i, rfl, leftInside⟩ := consumer before leftMember
    obtain ⟨b, j, rfl, rightInside⟩ := consumer before rightMember
    obtain ⟨nodes, slots⟩ := PortRef.mk.inj same
    cases bijective.injOn leftInside rightInside (Int.ofNat.inj nodes)
    exact congrArg (PortRef.mk _) slots
  · rw [List.mem_map]
    constructor
    · intro member
      obtain ⟨other, port, rfl, within⟩ := consumer after member
      obtain ⟨origin, there, rfl⟩ := bijective.surjOn within
      rw [after.consumes_iff, sources origin port there] at member
      obtain ⟨source, bound, same⟩ := Option.map_eq_some_iff.mp member
      have consumes := (before.consumes_iff source ⟨origin, port⟩).mpr bound
      obtain ⟨a, i, rfl, here⟩ := exists_place (isSome_output?_of_mem_consumersOf consumes)
      obtain ⟨nodes, slots⟩ := PortRef.mk.inj same
      cases bijective.injOn here inside (Int.ofNat.inj nodes)
      cases slots
      exact ⟨_, consumes, rfl⟩
    · rintro ⟨origin, member, rfl⟩
      obtain ⟨other, port, rfl, there⟩ := consumer before member
      refine (after.consumes_iff _ _).mpr ((sources other port there).trans ?_)
      rw [(before.consumes_iff _ _).mp member]
      rfl

/-- The places of the layers of a kind follow from the layers. -/
theorem perm_placesOf (bijective : Set.BijOn image (Set.Iio first.size) (Set.Iio second.size))
    (layers : ∀ place, place < first.size → second.bare[image place]? = first.bare[place]?) (kind : LayerKind) :
    (Layer.placesOf kind second.bare).Perm ((Layer.placesOf kind first.bare).map (renamed image)) := by
  have inside : ∀ {graph : Graph} {place : Nat} {layer : Layer}, graph.bare[place]? = some layer →
      place < graph.size := by
    intro graph place layer here
    exact graph.length_bare ▸ (List.getElem?_eq_some_iff.mp here).1
  have unique := Layer.nodup_placesOf kind first.bare
  refine (List.perm_ext_iff_of_nodup (Layer.nodup_placesOf kind _) (unique.map_on ?_)).mpr fun index => ?_
  · intro left leftMember right rightMember same
    obtain ⟨a, _, rfl, here, _⟩ := Layer.mem_placesOf.mp leftMember
    obtain ⟨b, _, rfl, there, _⟩ := Layer.mem_placesOf.mp rightMember
    rw [bijective.injOn (inside here) (inside there) (Int.ofNat.inj same)]
  · rw [List.mem_map, Layer.mem_placesOf]
    constructor
    · rintro ⟨place, layer, rfl, here, kinds⟩
      obtain ⟨origin, within, rfl⟩ := bijective.surjOn (inside here)
      exact ⟨origin, Layer.mem_placesOf.mpr ⟨origin, layer, rfl, (layers origin within).symm.trans here, kinds⟩, rfl⟩
    · rintro ⟨node, member, rfl⟩
      obtain ⟨origin, layer, rfl, here, kinds⟩ := Layer.mem_placesOf.mp member
      exact ⟨image origin, layer, rfl, (layers origin (inside here)).trans here, kinds⟩

/-- Graphs are isomorphic when a renaming keeps their layers and takes sources to sources. -/
theorem isomorphic_of_sources (before : first.Consistent) (after : second.Consistent) (listed : first.Bordered)
    (relisted : second.Bordered) (bijective : Set.BijOn image (Set.Iio first.size) (Set.Iio second.size))
    (layers : ∀ place, place < first.size → second.bare[image place]? = first.bare[place]?)
    (sources : ∀ place slot : Nat, place < first.size →
      second.sourceOf? ⟨image place, slot⟩ = (first.sourceOf? ⟨place, slot⟩).map (PortRef.rename image)) :
    first.Isomorphic second image where
  bijective := bijective
  layers := layers
  sources := sources
  consumers _ _ inside := perm_consumersOf before after bijective sources inside
  inputs := by
    rw [relisted.inputs, listed.inputs]
    exact perm_placesOf bijective layers .input
  outputs := by
    rw [relisted.outputs, listed.outputs]
    exact perm_placesOf bijective layers .output

end

end Graph

end LayerGraph
