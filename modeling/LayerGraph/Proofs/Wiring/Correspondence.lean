import LayerGraph.Proofs.Graph.Isomorphism
import LayerGraph.Proofs.Wiring.Wirable

/-! Blocks whose graphs differ in the numbers of their nodes only.

Where the sites of two blocks correspond, so that the same layers stand at them and joints go to joints, the graphs
that the blocks resolve to are isomorphic.
-/

set_option autoImplicit false

namespace LayerGraph

/-- A bijection of all but one item to all but one item, with these two for each other. -/
theorem bijOn_update {α β : Type} [DecidableEq α] {image : α → β} {items : Set α} {others : Set β} {item : α}
    {other : β} (member : item ∈ items) (target : other ∈ others)
    (bijective : Set.BijOn image (items \ {item}) (others \ {other})) :
    Set.BijOn (Function.update image item other) items others := by
  have agrees : Set.EqOn image (Function.update image item other) (items \ {item}) := fun left rest =>
    (Function.update_of_ne rest.2 other image).symm
  have extended := (bijective.congr agrees).insert (a := item) (by simp)
  rwa [Function.update_self, Set.insert_sdiff_self_of_mem member, Set.insert_sdiff_self_of_mem target] at extended

namespace Context

/-- The sites of one block correspond to those of another: what stands at a site stands at the other one too, and what
supplies a port of it supplies that port of the other one. -/
structure Corresponds (first second : Context) (move : Site → Site) : Prop where
  bijective : Set.BijOn move {site | site ∈ first.sites} {site | site ∈ second.sites}
  stands : ∀ site layer, site ∈ first.sites → first.Stands site layer → second.Stands (move site) layer
  joins : ∀ origin site slot, first.Joins origin site slot → second.Joins (move origin) (move site) slot

/-- The place of the site that corresponds to the one at a place. -/
def relocate (first second : Context) (move : Site → Site) (place : Nat) : Nat :=
  match first.sites[place]? with
  | some site => second.placeOf (move site)
  | none => place

theorem relocate_placeOf {first second : Context} {move : Site → Site} {site : Site} (member : site ∈ first.sites) :
    first.relocate second move (first.placeOf site) = second.placeOf (move site) := by
  rw [relocate, placeOf, List.getElem?_idxOf member]

/-- One layer stands at a site. -/
theorem Stands.unique {context : Context} {site : Site} {a b : Layer} (first : context.Stands site a)
    (second : context.Stands site b) : a = b := by
  cases site with
  | layer number index => exact first.unique_layer second
  | made name =>
    cases first with
    | made _ substitute =>
      cases second with
      | made _ again => exact Except.ok.inj (substitute.symm.trans again)
  | handed writer =>
    cases first with
    | @handed _ name source shape writes _ exit shaped =>
      cases second with
      | @handed _ other layer declared writes' _ exit' shaped' =>
        obtain ⟨op, here, written⟩ := writes
        obtain ⟨_, there, written'⟩ := writes'
        cases here.symm.trans there
        cases written.symm.trans written'
        cases Stands.unique_layer exit exit'
        have same : shape = declared := by
          cases declares : context.block.declares name with
          | true => exact Except.ok.inj ((shaped.1 declares).symm.trans (shaped'.1 declares))
          | false => rw [shaped.2 declares, shaped'.2 declares]
        rw [same]

end Context

section
variable {first second : Context} {before after : List Fragment} {original image : Graph} {move : Site → Site}

theorem Settled.exists_site (settled : Settled first before original) {place : Nat}
    (inside : place < original.size) : ∃ site ∈ first.sites, first.placeOf site = place := by
  have within : place < first.sites.length := by
    rwa [← settled.assembled.length_bare, Graph.length_bare]
  have unique := Layout.nodup_sites settled.assembled.lowered settled.assembled.closed
  exact ⟨first.sites[place], List.getElem_mem within, unique.idxOf_getElem place within⟩

theorem Settled.placeOf_lt (settled : Settled first before original) {site : Site} (member : site ∈ first.sites) :
    first.placeOf site < original.size := by
  rw [← Graph.length_bare, settled.assembled.length_bare]
  exact List.idxOf_lt_length_of_mem member

section
variable (source : Settled first before original) (target : Settled second after image)
  (corresponds : first.Corresponds second move)
include source target corresponds

theorem Settled.bijOn_relocate : Set.BijOn (first.relocate second move) {place | place < original.size}
    {place | place < image.size} := by
  obtain ⟨maps, injective, covers⟩ := corresponds.bijective
  refine ⟨?_, ?_, ?_⟩
  · intro place inside
    obtain ⟨site, member, rfl⟩ := source.exists_site inside
    rw [Context.relocate_placeOf member]
    exact target.placeOf_lt (maps member)
  · intro left leftInside right rightInside same
    obtain ⟨site, member, rfl⟩ := source.exists_site leftInside
    obtain ⟨other, member', rfl⟩ := source.exists_site rightInside
    rw [Context.relocate_placeOf member, Context.relocate_placeOf member'] at same
    rw [injective member member' ((List.idxOf_inj (maps member)).mp same)]
  · intro place inside
    obtain ⟨site, member, rfl⟩ := target.exists_site inside
    obtain ⟨origin, there, rfl⟩ := covers member
    exact ⟨first.placeOf origin, source.placeOf_lt there, Context.relocate_placeOf there⟩

theorem Settled.bare_relocate {place : Nat} (inside : place < original.size) :
    image.bare[first.relocate second move place]? = original.bare[place]? := by
  obtain ⟨site, member, rfl⟩ := source.exists_site inside
  obtain ⟨layer, here, stands⟩ := source.stands member
  obtain ⟨other, there, again⟩ := target.stands (corresponds.bijective.mapsTo member)
  rw [Context.relocate_placeOf member, here, there]
  exact congrArg some (again.unique (corresponds.stands site layer member stands))

/-- Blocks whose sites correspond resolve to isomorphic graphs. -/
theorem Settled.isomorphic : original.Isomorphic image (first.relocate second move) := by
  refine Graph.isomorphic_of_sources source.assembled.consistent target.assembled.consistent source.bordered
    target.bordered (source.bijOn_relocate target corresponds) (fun _ => source.bare_relocate target corresponds) ?_
  intro place slot inside
  obtain ⟨site, member, rfl⟩ := source.exists_site inside
  cases bound : original.sourceOf? ⟨first.placeOf site, slot⟩ with
  | some port =>
    obtain ⟨origin, joins, rfl⟩ := (source.assembled.sourceOf?_eq_some_iff member).mp bound
    have supplied := (Layout.joins_mem source.assembled.lowered joins).1
    rw [Context.relocate_placeOf member,
      (target.assembled.sourceOf?_eq_some_iff (corresponds.bijective.mapsTo member)).mpr
        ⟨move origin, corresponds.joins _ _ _ joins, rfl⟩, ← Context.relocate_placeOf supplied]
    rfl
  | none =>
    -- The layers are the same and every port of the first graph is bound, so a port that is not is none of theirs.
    rw [Option.map_none, Option.eq_none_iff_forall_ne_some]
    intro port other
    have present := Graph.isSome_input?_of_sourceOf? other
    rw [Graph.isSome_input?, Layer.portAmong?_natCast, source.bare_relocate target corresponds inside,
      ← Layer.portAmong?_natCast, ← Graph.isSome_input?] at present
    have complete := source.assembled.complete _ present
    rw [bound] at complete
    cases complete

end

end

end LayerGraph
