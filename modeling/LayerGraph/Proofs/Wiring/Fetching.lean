import LayerGraph.Proofs.Wiring.Renumbering
import LayerGraph.Proofs.Wiring.Success

/-! A fetch in the place of a layer that hands out.

What the last writer of a variable writes is handed out, if no read takes it, by a layer that the last pass adds. An
operator behind all others that fetches the variable hands it out from the same port. It is held against the layer
that was lowered there, before payloads take places, while the added one is held against what stands there afterwards.
-/

set_option autoImplicit false

namespace LayerGraph

namespace Context

/-- An operator fetches a declared variable of known extents, which no read takes from its last writer. -/
structure Fetchable (context : Context) (fetch : Operator) (name : String) (shape : Shape) (last : Nat) : Prop where
  fetches : OperatorKind.ofTag? fetch.tag = some .fetch
  reads : fetch.reads = [name]
  declared : context.shape name = .ok shape
  known : shape.Known
  writes : context.block.Writes last name
  latest : ∀ writer, context.block.Writes writer name → writer ≤ last
  unread : context.block.Unread last name

/-- The block with an operator behind all others. -/
def fetched (context : Context) (fetch : Operator) : Context :=
  context.withOperators (context.block.operators ++ [fetch])

/-- The site of the operator behind all others. -/
def backSite (context : Context) : Site := .layer context.block.operators.length 0

/-- The site in the block with the fetch, which stands for what handed out the last writer. -/
def fetchedSite (context : Context) (last : Nat) : Site → Site := Function.update id (.handed last) context.backSite

variable {context : Context} {fetch : Operator} {name : String} {shape : Shape} {last : Nat}

theorem fetchedSite_layer (reader index : Nat) :
    context.fetchedSite last (.layer reader index) = .layer reader index := Function.update_of_ne (by nofun) ..

theorem fetchedSite_made (name : String) : context.fetchedSite last (.made name) = .made name :=
  Function.update_of_ne (by nofun) ..

theorem fetchedSite_last : context.fetchedSite last (.handed last) = context.backSite := Function.update_self ..

theorem fetchedSite_handed {writer : Nat} (different : writer ≠ last) :
    context.fetchedSite last (.handed writer) = .handed writer :=
  Function.update_of_ne (fun same => different (Site.handed.inj same)) ..

theorem fetchedSite_supplyOf (name : String) (supplier : Option Nat) :
    context.fetchedSite last (context.supplyOf name supplier) = context.supplyOf name supplier := by
  cases supplier with
  | none => exact fetchedSite_made name
  | some writer => exact fetchedSite_layer writer _

theorem embeds_fetched : context.Embeds (context.fetched fetch) id where
  setting := ⟨_, rfl⟩
  injective := Function.injective_id
  kept here := (List.getElem?_append_left (List.getElem?_eq_some_iff.mp here).1).trans here

theorem back_here : (context.fetched fetch).block.operators[context.block.operators.length]? = some fetch :=
  List.getElem?_concat_length

theorem exitOf_fetched {writer : Nat} {op : Operator} (here : context.block.operators[writer]? = some op) :
    (context.fetched fetch).exitOf writer = context.exitOf writer :=
  (embeds_fetched.exitOf here).trans (Site.renumber_id _)

theorem fetched_cases {place : Nat} {op : Operator}
    (here : (context.fetched fetch).block.operators[place]? = some op) :
    context.block.operators[place]? = some op ∨ place = context.block.operators.length ∧ op = fetch := by
  change (context.block.operators ++ [fetch])[place]? = some op at here
  rw [List.getElem?_append] at here
  split at here
  · exact .inl here
  · rw [List.getElem?_singleton] at here
    split at here
    · cases here
      exact .inr ⟨by omega, rfl⟩
    · cases here

namespace Fetchable

variable (fetchable : context.Fetchable fetch name shape last)
include fetchable

theorem mirrors (other : String) : context.Mirrors (context.fetched fetch) id other where
  writes := by
    rintro writer ⟨op, here, written⟩
    rcases fetched_cases here with old | ⟨_, rfl⟩
    · exact ⟨writer, rfl, op, old, written⟩
    · rw [Operator.write?_eq fetchable.fetches] at written
      cases written
  order _ _ := ⟨Iff.rfl, Iff.rfl⟩

theorem writes_iff {writer : Nat} {other : String} :
    (context.fetched fetch).block.Writes writer other ↔ context.block.Writes writer other := by
  constructor
  · intro writes
    obtain ⟨_, rfl, wrote⟩ := (fetchable.mirrors other).writes writes
    exact wrote
  · exact embeds_fetched.writes

theorem reads_back : (context.fetched fetch).block.Reads context.block.operators.length 0 name :=
  ⟨fetch, back_here, by rw [fetchable.reads]; rfl⟩

theorem reads_cases {reader slot : Nat} {other : String}
    (reads : (context.fetched fetch).block.Reads reader slot other) :
    context.block.Reads reader slot other ∨ reader = context.block.operators.length ∧ other = name := by
  obtain ⟨op, here, read⟩ := reads
  rcases fetched_cases here with old | ⟨rfl, rfl⟩
  · exact .inl ⟨op, old, read⟩
  · rw [fetchable.reads] at read
    exact .inr ⟨rfl, List.mem_singleton.mp (List.mem_of_getElem? read)⟩

theorem written {other : String} (writes : context.block.Writes last other) : other = name := by
  obtain ⟨op, here, written⟩ := writes
  obtain ⟨_, there, again⟩ := fetchable.writes
  cases here.symm.trans there
  exact Option.some.inj (written.symm.trans again)

theorem supplier : (context.fetched fetch).block.Supplier context.block.operators.length name (some last) := by
  obtain ⟨_, inside⟩ := fetchable.writes.exists_operator
  refine .earlier last (List.getElem?_eq_some_iff.mp inside).1 (embeds_fetched.writes fetchable.writes) ?_
  intro other after _ writes
  exact absurd (fetchable.latest other (fetchable.writes_iff.mp writes)) (Nat.not_le.mpr after)

theorem not_unread : ¬ (context.fetched fetch).block.Unread last name := fun unread =>
  unread _ 0 fetchable.reads_back fetchable.supplier

/-- The fetch takes nothing from other writers. -/
theorem unread_iff {writer : Nat} (different : writer ≠ last) (other : String) :
    (context.fetched fetch).block.Unread writer other ↔ context.block.Unread writer other := by
  constructor
  · intro unread reader slot reads supplies
    exact unread reader slot (embeds_fetched.reads reads)
      ((fetchable.mirrors other).supplier embeds_fetched reads supplies)
  · intro unread reader slot reads supplies
    rcases fetchable.reads_cases reads with old | ⟨rfl, rfl⟩
    · obtain ⟨origin, same, supplied⟩ := (fetchable.mirrors other).exists_supplier embeds_fetched old supplies
      rw [Option.map_id, id_eq] at same
      exact unread reader slot old (same ▸ supplied)
    · exact different (Option.some.inj (supplies.unique fetchable.supplier))

theorem sourceless_iff (other : String) :
    other ∈ (context.fetched fetch).block.sourceless ↔ other ∈ context.block.sourceless := by
  constructor
  · intro sourceless
    obtain ⟨reader, slot, reads, supplies⟩ := Block.mem_sourceless.mp sourceless
    rcases fetchable.reads_cases reads with old | ⟨rfl, rfl⟩
    · obtain ⟨origin, same, supplied⟩ := (fetchable.mirrors other).exists_supplier embeds_fetched old supplies
      rw [Option.map_id, id_eq] at same
      exact Block.mem_sourceless.mpr ⟨reader, slot, old, same ▸ supplied⟩
    · cases supplies.unique fetchable.supplier
  · exact (fetchable.mirrors other).sourceless embeds_fetched

theorem layersOf_back : (context.fetched fetch).layersOf context.block.operators.length = [Layer.output shape] := by
  have made : fetch.lower (context.fetched fetch) = .ok (.fetch shape name) :=
    Operator.lower_fetch fetchable.declared fetchable.fetches fetchable.reads
  rw [layersOf, back_here]
  dsimp only
  rw [made]
  rfl

theorem stands_back : (context.fetched fetch).Stands context.backSite (Layer.output shape) := by
  refine .kept (by rw [fetchable.layersOf_back]; rfl) fun other way => ?_
  obtain ⟨op, there, feeds, _⟩ := way.feeds
  cases back_here.symm.trans there
  cases fetchable.fetches.symm.trans feeds

theorem kept_mem_sites (site : Site) (different : site ≠ .handed last)
    (old : ∀ index, site ≠ .layer context.block.operators.length index) :
    site ∈ (context.fetched fetch).sites ↔ site ∈ context.sites := by
  cases site with
  | layer reader index =>
    constructor
    · intro member
      obtain ⟨op, here⟩ := exists_operator (layer_mem_sites.mp member)
      rcases fetched_cases here with there | ⟨rfl, _⟩
      · exact (embeds_fetched.layer_mem_sites there).mp member
      · exact absurd rfl (old index)
    · intro member
      obtain ⟨op, there⟩ := exists_operator (layer_mem_sites.mp member)
      exact (embeds_fetched.layer_mem_sites there).mpr member
  | made other => rw [made_mem_sites, made_mem_sites, fetchable.sourceless_iff]
  | handed writer =>
    have apart : writer ≠ last := fun same => different (congrArg Site.handed same)
    rw [handed_mem_sites, handed_mem_sites, Block.mem_loose, Block.mem_loose]
    exact exists_congr fun other => and_congr fetchable.writes_iff (fetchable.unread_iff apart other)

theorem bijOn_fetchedSite : Set.BijOn (context.fetchedSite last) {site | site ∈ context.sites}
    {site | site ∈ (context.fetched fetch).sites} := by
  refine bijOn_update (handed_mem_sites.mpr (Block.mem_loose.mpr ⟨name, fetchable.writes, fetchable.unread⟩))
    (layer_mem_sites.mpr (fetchable.layersOf_back ▸ Nat.one_pos)) ⟨?_, Function.injective_id.injOn, ?_⟩
  · rintro site ⟨member, different⟩
    -- The block has no operator with the number of the fetch.
    have old : ∀ index, site ≠ .layer context.block.operators.length index := by
      rintro index rfl
      obtain ⟨_, inside⟩ := exists_operator (layer_mem_sites.mp member)
      exact absurd (List.getElem?_eq_some_iff.mp inside).1 (Nat.lt_irrefl _)
    exact ⟨(fetchable.kept_mem_sites site different old).mpr member, old 0⟩
  · rintro site ⟨member, different⟩
    have old : ∀ index, site ≠ .layer context.block.operators.length index := by
      rintro index rfl
      have inside := layer_mem_sites.mp member
      rw [fetchable.layersOf_back] at inside
      cases Nat.lt_one_iff.mp inside
      exact different rfl
    have apart : site ≠ .handed last := by
      rintro rfl
      obtain ⟨other, writes, unread⟩ := Block.mem_loose.mp (handed_mem_sites.mp member)
      cases fetchable.written (fetchable.writes_iff.mp writes)
      exact fetchable.not_unread unread
    exact ⟨site, ⟨(fetchable.kept_mem_sites site apart old).mp member, apart⟩, rfl⟩

theorem stands_fetchedSite {site : Site} {layer : Layer} (member : site ∈ context.sites)
    (stands : context.Stands site layer) : (context.fetched fetch).Stands (context.fetchedSite last site) layer := by
  cases site with
  | layer reader index =>
    obtain ⟨op, here⟩ := exists_operator (layer_mem_sites.mp member)
    rw [fetchedSite_layer]
    exact (embeds_fetched.stands_iff here fun other _ => fetchable.mirrors other).mpr stands
  | made other =>
    rw [fetchedSite_made]
    exact (fetchable.mirrors other).stands_made embeds_fetched stands
  | handed writer =>
    by_cases same : writer = last
    · -- The variable is declared, so it was handed out in the shape that the fetch takes.
      subst same
      rw [fetchedSite_last]
      cases stands with
      | handed writes _ _ shaped =>
        cases fetchable.written writes
        cases fetchable.declared.symm.trans (shaped.1 (declares_of_shape fetchable.declared))
        exact fetchable.stands_back
    · rw [fetchedSite_handed same]
      exact embeds_fetched.stands_handed stands (fun other _ => fetchable.mirrors other)
        fun other _ => (fetchable.unread_iff same other).mpr

theorem joins_fetchedSite {origin site : Site} {slot : Nat} (joins : context.Joins origin site slot) :
    (context.fetched fetch).Joins (context.fetchedSite last origin) (context.fetchedSite last site) slot := by
  cases joins with
  | link inside =>
    rw [fetchedSite_layer, fetchedSite_layer]
    exact embeds_fetched.joins_link inside
  | @read _ _ other supplier reads supplies =>
    rw [fetchedSite_layer, fetchedSite_supplyOf]
    have joined := (fetchable.mirrors other).joins_read embeds_fetched reads supplies
    rwa [Site.renumber_id] at joined
  | @handed writer other writes unread =>
    rw [exitOf, fetchedSite_layer]
    by_cases same : writer = last
    · subst same
      cases fetchable.written writes
      rw [fetchedSite_last]
      obtain ⟨_, here⟩ := writes.exists_operator
      have joined := Joins.read fetchable.reads_back fetchable.supplier
      rw [supplyOf, exitOf_fetched here] at joined
      exact joined
    · rw [fetchedSite_handed same]
      have joined := embeds_fetched.joins_handed writes ((fetchable.unread_iff same other).mpr unread)
      rwa [Site.renumber_id] at joined

theorem corresponds : context.Corresponds (context.fetched fetch) (context.fetchedSite last) where
  bijective := fetchable.bijOn_fetchedSite
  stands _ _ := fetchable.stands_fetchedSite
  joins _ _ _ := fetchable.joins_fetchedSite

/-- The fetch can take the variable if the layer that its last writer becomes gives the declared shape. -/
theorem receives_back_iff : (context.fetched fetch).Receives context.block.operators.length name ↔
    ∀ source, (context.layersOf last)[(context.layersOf last).length - 1]? = some source →
      Shape.compatible source.outputShape shape = true := by
  obtain ⟨_, inside⟩ := fetchable.writes.exists_operator
  constructor
  · intro receives source there
    refine receives ⟨fetch, back_here, fetchable.fetches, fetchable.reads⟩ (some last) source shape fetchable.supplier
      ?_ fetchable.declared
    rw [supplyOf, exitOf_fetched inside]
    refine .layer ?_
    have same : (context.fetched fetch).layersOf last = context.layersOf last := embeds_fetched.layersOf inside
    rw [same, there]
  · intro all _ supplier source declared supplies drafts shaped
    cases supplies.unique fetchable.supplier
    cases fetchable.declared.symm.trans shaped
    rw [supplyOf, exitOf_fetched inside] at drafts
    obtain ⟨there⟩ := drafts
    have same : (context.fetched fetch).layersOf last = context.layersOf last := embeds_fetched.layersOf inside
    exact all source (same ▸ there)

section
variable {threshold : Int} (quiet : Severity.debug.number < threshold)
include quiet

/-- The variable can be handed out from a layer if this gives the declared shape. -/
theorem handsOver_iff {source : Layer} :
    context.HandsOver threshold name source ↔ Shape.compatible source.outputShape shape = true := by
  have declares := declares_of_shape fetchable.declared
  constructor
  · rintro ⟨wanted, ⟨shaped, _⟩, agrees, _⟩
    cases fetchable.declared.symm.trans (shaped declares)
    exact agrees
  · intro agrees
    refine ⟨shape, ⟨fun _ => fetchable.declared, fun absent => ?_⟩, agrees, Severity.shows_of_lt quiet⟩
    cases declares.symm.trans absent

/-- The block with the fetch can be wired if the block can. -/
theorem wirable_fetched (wirable : context.Wirable threshold) : (context.fetched fetch).Wirable threshold where
  lowers place op here := by
    rw [lowers_iff quiet, embeds_fetched.lower]
    rcases fetched_cases here with there | ⟨_, rfl⟩
    · exact (lowers_iff quiet).mp (wirable.lowers place op there)
    · exact ⟨_, Operator.lower_fetch fetchable.declared fetchable.fetches fetchable.reads⟩
  procures other sourceless :=
    embeds_fetched.procures.mpr (wirable.procures other ((fetchable.sourceless_iff other).mp sourceless))
  receives place other fetches := by
    rcases fetchable.reads_cases fetches.reads with read | ⟨rfl, rfl⟩
    · obtain ⟨_, there⟩ := read.exists_operator
      exact ((fetchable.mirrors other).receives_iff embeds_fetched there).mpr (wirable.receives place other) fetches
    · refine fetchable.receives_back_iff.mpr (fun source there => ?_) fetches
      by_cases way : context.GivesWay last other
      · -- The boundary layer of a feed has the declared shape, whatever its payload is like.
        obtain ⟨_, inside, feeds, writes⟩ := way.feeds
        rw [layersOf, inside] at there
        dsimp only at there
        rw [Operator.lower_feed fetchable.declared feeds writes] at there
        cases there
        exact Shape.compatible_self shape
      · have stays : ∀ another, ¬ context.GivesWay last another := by
          intro another gives
          obtain ⟨_, inside, _, writes⟩ := gives.feeds
          exact way (fetchable.written ⟨_, inside, writes⟩ ▸ gives)
        exact (fetchable.handsOver_iff quiet).mp (wirable.handsOver last other source fetchable.writes
          fetchable.unread (.kept there stays))
  refills place other feeds sole := by
    obtain ⟨_, there⟩ := (fetchable.writes_iff.mp feeds.writes).exists_operator
    exact embeds_fetched.refills.mpr (wirable.refills place other ((embeds_fetched.feeds_iff there).mp feeds)
      (((fetchable.mirrors other).sole_iff embeds_fetched).mp sole))
  handsOver place other source writes unread exit := by
    have wrote := fetchable.writes_iff.mp writes
    obtain ⟨_, there⟩ := wrote.exists_operator
    have apart : place ≠ last := by
      rintro rfl
      cases fetchable.written wrote
      exact fetchable.not_unread unread
    rw [exitOf_fetched there] at exit
    exact embeds_fetched.handsOver.mpr (wirable.handsOver place other source wrote
      ((fetchable.unread_iff apart other).mp unread)
      ((embeds_fetched.stands_iff there fun other _ => fetchable.mirrors other).mp exit))

/-- The block can be wired if it can with the fetch. -/
theorem wirable_of_fetched (wirable : (context.fetched fetch).Wirable threshold) : context.Wirable threshold where
  lowers place op here := by
    have lowers := wirable.lowers place op (embeds_fetched.kept here)
    rwa [lowers_iff quiet, embeds_fetched.lower, ← lowers_iff quiet] at lowers
  procures other sourceless :=
    embeds_fetched.procures.mp (wirable.procures other ((fetchable.sourceless_iff other).mpr sourceless))
  receives place other fetches := by
    obtain ⟨_, here⟩ := fetches.reads.exists_operator
    exact ((fetchable.mirrors other).receives_iff embeds_fetched here).mp (wirable.receives place other) fetches
  refills place other feeds sole := by
    obtain ⟨_, here⟩ := feeds.writes.exists_operator
    exact embeds_fetched.refills.mp (wirable.refills place other ((embeds_fetched.feeds_iff here).mpr feeds)
      (((fetchable.mirrors other).sole_iff embeds_fetched).mpr sole))
  handsOver place other source writes unread exit := by
    by_cases same : place = last
    · subst same
      cases fetchable.written writes
      rw [fetchable.handsOver_iff quiet]
      rcases exit.layer_cases with there | ⟨_, value, way, loaded, rfl⟩
      · exact fetchable.receives_back_iff.mp (wirable.receives _ name) source there
      · -- The fetch was held against the boundary layer; the payload realizes the same declaration.
        obtain ⟨_, inside, _, gives⟩ := way.feeds
        cases fetchable.written ⟨_, inside, gives⟩
        exact compatible_of_load fetchable.known fetchable.declared loaded
    · obtain ⟨_, here⟩ := writes.exists_operator
      refine embeds_fetched.handsOver.mp (wirable.handsOver place other source (embeds_fetched.writes writes)
        ((fetchable.unread_iff same other).mpr unread) ?_)
      rw [exitOf_fetched here]
      exact (embeds_fetched.stands_iff here fun other _ => fetchable.mirrors other).mpr exit

end

end Fetchable

/-- A block resolves with a fetch, behind all other operators, of what no read takes from the last writer of a
variable exactly if it does without (lines below the information level, which name variables and count operators, set
aside). The graphs are isomorphic: the fetch is the layer that otherwise hands the variable out, with the declared
shape and from the same port. -/
theorem isomorphic_fetched (fetchable : context.Fetchable fetch name shape last) (threshold : Int) :
    (Severity.debug.number < threshold → ((∃ graph, (context.fetched fetch).resolve threshold = .ok graph) ↔
      ∃ graph, context.resolve threshold = .ok graph)) ∧
    ∀ graph other, context.resolve threshold = .ok graph → (context.fetched fetch).resolve threshold = .ok other →
      ∃ image, graph.Isomorphic other image ∧
        image (context.placeOf (.handed last)) = (context.fetched fetch).placeOf context.backSite ∧
        graph.bare[context.placeOf (.handed last)]? = some (Layer.output shape) ∧
        graph.sourceOf? ⟨context.placeOf (.handed last), 0⟩ = some ⟨context.placeOf (context.exitOf last), 0⟩ := by
  constructor
  · intro quiet
    rw [resolves_iff, resolves_iff]
    exact ⟨fetchable.wirable_of_fetched quiet, fetchable.wirable_fetched quiet⟩
  · intro graph other resolved extended
    obtain ⟨before, source⟩ := settled_of_resolve resolved
    obtain ⟨after, target⟩ := settled_of_resolve extended
    have member : Site.handed last ∈ context.sites :=
      handed_mem_sites.mpr (Block.mem_loose.mpr ⟨name, fetchable.writes, fetchable.unread⟩)
    obtain ⟨layer, here, stands⟩ := source.stands member
    refine ⟨_, source.isomorphic target fetchable.corresponds, ?_, ?_, ?_⟩
    · rw [relocate_placeOf member, fetchedSite_last]
    · cases stands with
      | handed writes _ _ shaped =>
        cases fetchable.written writes
        cases fetchable.declared.symm.trans (shaped.1 (declares_of_shape fetchable.declared))
        exact here
    · exact (source.assembled.sourceOf?_eq_some_iff member).mpr
        ⟨_, .handed fetchable.writes fetchable.unread, rfl⟩

end Context

/-- A block that rectifies a variable into another one, and this one again in place. -/
def refiner : Context where
  block := {
    declarations := [{ name := "x", shape := [-1, 3] }, { name := "y", shape := [4, -1] }]
    operators := [⟨"relu", [("X", ["x"])], [("Out", ["y"])], []⟩, ⟨"relu", [("X", ["y"])], [("Out", ["y"])], []⟩] }
  tensors := { files := FileTree.empty, directory := ⟨"/", []⟩ }

/-- The two layers of the refiner between a boundary layer made up and one that hands out. -/
def refinerGraph : Graph where
  nodes := [
    ⟨.relu, [⟨"input", [-1, 3], some ⟨2, 0⟩⟩], [⟨"output", [-1, 3], [⟨1, 0⟩]⟩]⟩,
    ⟨.relu, [⟨"input", [4, -1], some ⟨0, 0⟩⟩], [⟨"output", [4, -1], [⟨3, 0⟩]⟩]⟩,
    ⟨.input, [], [⟨"output", [-1, 3], [⟨0, 0⟩]⟩]⟩,
    ⟨.output, [⟨"input", [4, -1], some ⟨1, 0⟩⟩], []⟩]
  inputs := [2]
  outputs := [3]

theorem resolve_refiner : refiner.resolve = .ok refinerGraph := by cbv

/-- An operator that fetches the variable that is rectified in place. -/
def fetchesRefined : Operator := ⟨"fetch", [("X", ["y"])], [], []⟩

theorem fetchable_refined : refiner.Fetchable fetchesRefined "y" [4, -1] 1 where
  fetches := by decide
  reads := by decide
  declared := by decide
  known := by decide
  writes := Block.mem_writersOf.mp (by decide)
  latest writer writes := by
    have writers : refiner.block.writersOf "y" = [0, 1] := by decide
    have member := Block.mem_writersOf.mpr writes
    rw [writers] at member
    rcases List.mem_pair.mp member with rfl | rfl <;> decide
  unread := by
    obtain ⟨name, ⟨_, here, written⟩, unread⟩ := Block.mem_loose.mp (by decide : 1 ∈ refiner.block.loose)
    cases here
    cases written
    exact unread

theorem isomorphic_fetched_refiner : refiner.Fetchable fetchesRefined "y" [4, -1] 1 ∧ ∃ other image,
    (refiner.fetched fetchesRefined).resolve = .ok other ∧ refinerGraph.Isomorphic other image ∧
      image (refiner.placeOf (.handed 1)) = (refiner.fetched fetchesRefined).placeOf (.layer 2 0) := by
  obtain ⟨both, isomorphic⟩ := Context.isomorphic_fetched fetchable_refined 20
  obtain ⟨other, extended⟩ := (both (by decide)).mpr ⟨refinerGraph, resolve_refiner⟩
  obtain ⟨image, same, place, _⟩ := isomorphic refinerGraph other resolve_refiner extended
  exact ⟨fetchable_refined, other, image, extended, same, place⟩

end LayerGraph
