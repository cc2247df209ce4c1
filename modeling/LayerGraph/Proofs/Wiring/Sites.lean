import LayerGraph.Proofs.Wiring.Supply

/-! The sites of the layers of a graph.

A layer belongs to an operator, is made up for a variable, or hands out what an operator writes. The sites of a
block are listed in the order in which its graph holds their layers, so a site has a place.
-/

set_option autoImplicit false

namespace LayerGraph

/-- An item keeps its place when all items are renamed apart. -/
theorem idxOf_map {α β : Type} [DecidableEq α] [DecidableEq β] {rename : α → β} (apart : Function.Injective rename)
    (items : List α) (item : α) : (items.map rename).idxOf (rename item) = items.idxOf item := by
  rw [List.idxOf, List.findIdx_map, List.idxOf]
  congr 1
  funext other
  rw [Function.comp_apply, Bool.eq_iff_iff, beq_iff_eq, beq_iff_eq, apart.eq_iff]

/-- What a layer of a graph is there for. -/
inductive Site where
  /-- A layer of an operator, by the numbers of both. -/
  | layer (number index : Nat)
  /-- The layer made up for a variable that is read and that no other operator writes. -/
  | made (name : String)
  /-- The layer that hands out what an operator writes and no read takes from it. -/
  | handed (writer : Nat)
  deriving DecidableEq, Repr

namespace Context

/-- The layers that an operator becomes. -/
def layersOf (context : Context) (number : Nat) : List Layer :=
  match context.block.operators[number]? with
  | none => []
  | some op =>
    match op.lower context with
    | .ok fragment => fragment.layers
    | .error _ => []

/-- The sites of the layers of an operator. -/
def sitesOf (context : Context) (number : Nat) : List Site :=
  (List.range (context.layersOf number).length).map (Site.layer number)

/-- The sites of the layers of all operators. -/
def operatorSites (context : Context) : List Site :=
  (List.range context.block.operators.length).flatMap context.sitesOf

/-- The sites of the layers of a graph: those of the operators in order, those made up by first read, and those that
hand out by operator. -/
def sites (context : Context) : List Site :=
  context.operatorSites ++ context.block.sourceless.map Site.made ++ context.block.loose.map Site.handed

def placeOf (context : Context) (site : Site) : Nat := context.sites.idxOf site

/-- The site of the layer that an operator writes from, its last one. -/
def exitOf (context : Context) (writer : Nat) : Site := .layer writer ((context.layersOf writer).length - 1)

/-- The site of the layer that a variable is taken from. -/
def supplyOf (context : Context) (name : String) : Option Nat → Site
  | some writer => context.exitOf writer
  | none => .made name

section
variable {context : Context}

theorem exists_operator {number index : Nat} (inside : index < (context.layersOf number).length) :
    ∃ op, context.block.operators[number]? = some op := by
  cases here : context.block.operators[number]? with
  | none =>
    rw [layersOf, here] at inside
    exact absurd inside (Nat.not_lt_zero _)
  | some op => exact ⟨op, rfl⟩

theorem mem_operatorSites {site : Site} : site ∈ context.operatorSites ↔
    ∃ number index, index < (context.layersOf number).length ∧ site = .layer number index := by
  simp only [operatorSites, sitesOf, List.mem_flatMap, List.mem_range, List.mem_map]
  constructor
  · rintro ⟨number, _, index, inside, rfl⟩
    exact ⟨number, index, inside, rfl⟩
  · rintro ⟨number, index, inside, rfl⟩
    obtain ⟨_, here⟩ := exists_operator inside
    exact ⟨number, (List.getElem?_eq_some_iff.mp here).1, index, inside, rfl⟩

theorem layer_mem_sites {number index : Nat} :
    Site.layer number index ∈ context.sites ↔ index < (context.layersOf number).length := by
  simp [sites, mem_operatorSites]

theorem made_mem_sites {name : String} : Site.made name ∈ context.sites ↔ name ∈ context.block.sourceless := by
  simp [sites, mem_operatorSites]

theorem handed_mem_sites {writer : Nat} : Site.handed writer ∈ context.sites ↔ writer ∈ context.block.loose := by
  simp [sites, mem_operatorSites]

theorem nodup_operatorSites (context : Context) : context.operatorSites.Nodup := by
  rw [operatorSites, List.nodup_flatMap]
  constructor
  · intro number _
    exact List.nodup_range.map fun a b same => (Site.layer.inj same).2
  · refine List.nodup_range.imp fun different site first second => ?_
    obtain ⟨_, _, rfl⟩ := List.mem_map.mp first
    obtain ⟨_, _, same⟩ := List.mem_map.mp second
    exact different (Site.layer.inj same).1.symm

end

end Context

namespace Layout

variable {context : Context} {fragments : List Fragment}
  (lowered : context.block.operators.map (fun op => op.lower context) = fragments.map .ok)
include lowered

theorem layersOf_of_fragment {number : Nat} {fragment : Fragment} (here : fragments[number]? = some fragment) :
    context.layersOf number = fragment.layers := by
  have same := congrArg (fun items => items[number]?) lowered
  simp only [List.getElem?_map, here, Option.map_some] at same
  obtain ⟨op, present, made⟩ := Option.map_eq_some_iff.mp same
  rw [Context.layersOf, present]
  dsimp only
  rw [made]

theorem fragment_of_layersOf {number index : Nat} (inside : index < (context.layersOf number).length) :
    ∃ fragment, fragments[number]? = some fragment ∧ context.layersOf number = fragment.layers := by
  obtain ⟨op, here⟩ := Context.exists_operator inside
  obtain ⟨fragment, _, present, _, _⟩ := fragment_of_lowered lowered here
  exact ⟨fragment, present, layersOf_of_fragment lowered present⟩

/-- The layers of operators stand in the order of their sites. -/
theorem layers_take (count : Nat) (within : count ≤ fragments.length) :
    layers (fragments.take count) = (List.range count).flatMap context.layersOf := by
  induction count with
  | zero => rfl
  | succ count ih =>
    have here := List.getElem?_eq_getElem within
    rw [List.take_add_one, here, Option.toList_some, layers_concat, ih (Nat.le_of_lt within), List.range_succ,
      List.flatMap_append, List.flatMap_singleton, layersOf_of_fragment lowered here]

theorem length_sites (count : Nat) (within : count ≤ fragments.length) :
    ((List.range count).flatMap context.sitesOf).length = offset fragments count := by
  rw [offset, layers_take lowered count within, List.length_flatMap, List.length_flatMap]
  congr 1
  exact List.map_congr_left fun number _ => by rw [Context.sitesOf, List.length_map, List.length_range]

theorem length_operatorSites : context.operatorSites.length = (layers fragments).length := by
  have lengths := congrArg List.length lowered
  rw [List.length_map, List.length_map] at lengths
  rw [Context.operatorSites, lengths, length_sites lowered _ (Nat.le_refl _), offset_length]

theorem nodup_sites (closed : Closed fragments) : context.sites.Nodup := by
  have made : context.block.sourceless.Nodup := made_eq lowered closed ▸ nodup_supply List.nodup_nil _
  have handed : context.block.loose.Nodup := context.block.pairwise_loose.imp Nat.ne_of_lt
  -- Each of the three parts is free of repeats, and sites of two parts differ in their constructor.
  rw [Context.sites, List.nodup_append, List.nodup_append]
  refine ⟨⟨context.nodup_operatorSites, made.map fun _ _ => Site.made.inj, ?_⟩,
    handed.map fun _ _ => Site.handed.inj, ?_⟩
  · rintro site operator other supplied rfl
    obtain ⟨_, _, _, rfl⟩ := Context.mem_operatorSites.mp operator
    obtain ⟨_, _, same⟩ := List.mem_map.mp supplied
    cases same
  · rintro site before other hands rfl
    obtain ⟨_, _, rfl⟩ := List.mem_map.mp hands
    rcases List.mem_append.mp before with operator | supplied
    · obtain ⟨_, _, _, same⟩ := Context.mem_operatorSites.mp operator
      cases same
    · obtain ⟨_, _, same⟩ := List.mem_map.mp supplied
      cases same

/-- The sites of an operator are found behind those of the operators before it. -/
theorem placeOf_layer {number index : Nat} (inside : index < (context.layersOf number).length) :
    context.placeOf (.layer number index) = offset fragments number + index := by
  obtain ⟨fragment, present, _⟩ := fragment_of_layersOf lowered inside
  have number_lt := (List.getElem?_eq_some_iff.mp present).1
  have lengths := congrArg List.length lowered
  rw [List.length_map, List.length_map] at lengths
  -- The operators before this one, the operator itself and the ones after it.
  obtain ⟨more, total⟩ := Nat.exists_eq_add_of_lt number_lt
  have split : context.operatorSites = (List.range number).flatMap context.sitesOf ++ context.sitesOf number ++
      ((List.range more).map (number + 1 + ·)).flatMap context.sitesOf := by
    rw [Context.operatorSites, lengths, total, Nat.add_right_comm, List.range_add, List.flatMap_append,
      List.range_succ, List.flatMap_append, List.flatMap_singleton]
  have early : Site.layer number index ∉ (List.range number).flatMap context.sitesOf := by
    intro member
    obtain ⟨other, before, here⟩ := List.mem_flatMap.mp member
    obtain ⟨_, _, same⟩ := List.mem_map.mp here
    exact Nat.ne_of_lt (List.mem_range.mp before) (Site.layer.inj same).1
  have own : Site.layer number index ∈ context.sitesOf number :=
    List.mem_map.mpr ⟨index, List.mem_range.mpr inside, rfl⟩
  have operator : Site.layer number index ∈ context.operatorSites :=
    Context.mem_operatorSites.mpr ⟨number, index, inside, rfl⟩
  have numbered : (context.sitesOf number).Nodup := List.nodup_range.map fun a b same => (Site.layer.inj same).2
  have position : (context.sitesOf number).idxOf (Site.layer number index) = index := by
    have length : index < (context.sitesOf number).length := by simpa [Context.sitesOf] using inside
    have here : (context.sitesOf number)[index] = Site.layer number index := by simp [Context.sitesOf]
    rw [← here, numbered.idxOf_getElem index length]
  rw [Context.placeOf, Context.sites, List.append_assoc, List.idxOf_append_of_mem operator, split,
    List.idxOf_append_of_mem (List.mem_append_right _ own), List.idxOf_append_of_notMem early, position,
    length_sites lowered number (Nat.le_of_lt number_lt)]

theorem placeOf_made {name : String} (sourceless : name ∈ context.block.sourceless) :
    context.placeOf (.made name) = (layers fragments).length + context.block.sourceless.idxOf name := by
  have early : Site.made name ∉ context.operatorSites := by
    intro member
    obtain ⟨_, _, _, same⟩ := Context.mem_operatorSites.mp member
    cases same
  have own := List.mem_map_of_mem (f := Site.made) sourceless
  rw [Context.placeOf, Context.sites, List.append_assoc, List.idxOf_append_of_notMem early,
    List.idxOf_append_of_mem own, length_operatorSites lowered,
    idxOf_map fun _ _ => Site.made.inj]

theorem placeOf_handed {writer : Nat} : context.placeOf (.handed writer) =
    (layers fragments).length + context.block.sourceless.length + context.block.loose.idxOf writer := by
  have early : Site.handed writer ∉ context.operatorSites ++ context.block.sourceless.map Site.made := by
    simp [Context.mem_operatorSites]
  rw [Context.placeOf, Context.sites, List.idxOf_append_of_notMem early, List.length_append,
    length_operatorSites lowered, List.length_map, idxOf_map fun _ _ => Site.handed.inj]

end Layout

end LayerGraph
