import LayerGraph.Proofs.Wiring.Border
import LayerGraph.Proofs.Wiring.Boundary
import LayerGraph.Proofs.Wiring.Sites

/-! The arrangement of the graph that a block resolves to.

What stands at a site and what supplies its ports can be told from the block alone. The arena holds the sites in
their order, the boundary lists name the boundary layers in ascending order.
-/

set_option autoImplicit false

namespace LayerGraph

/-- An operator feeds a variable. -/
def Block.Feeds (block : Block) (number : Nat) (name : String) : Prop :=
  ∃ op, block.operators[number]? = some op ∧ OperatorKind.ofTag? op.tag = some .feed ∧ op.write? = some name

/-- What an operator feeds gives way to a stored payload: nobody else writes the variable. -/
structure Context.GivesWay (context : Context) (number : Nat) (name : String) : Prop where
  feeds : context.block.Feeds number name
  sole : ∀ other, context.block.Writes other name → other = number
  stored : context.tensors.contains name = .ok true

/-- A variable is handed out in the declared shape, and in that of its source where there is no declaration. -/
def Context.HandsIn (context : Context) (name : String) (source : Layer) (shape : Shape) : Prop :=
  (context.block.declares name = true → context.shape name = .ok shape) ∧
    (context.block.declares name = false → shape = source.outputShape)

/-- What stands at a site of the graph that a block resolves to. -/
inductive Context.Stands (context : Context) : Site → Layer → Prop
  /-- A layer as its operator was lowered. -/
  | kept {number index : Nat} {layer : Layer} (here : (context.layersOf number)[index]? = some layer)
      (stays : ∀ name, ¬ context.GivesWay number name) : Stands context (.layer number index) layer
  /-- The payload that a boundary layer gives way to. -/
  | payload {number : Nat} {name : String} {value : Tensor} (way : context.GivesWay number name)
      (loaded : context.load name = .ok value) : Stands context (.layer number 0) (Layer.constant value)
  /-- The layer made up for a variable. -/
  | made {name : String} {layer : Layer} (sourceless : name ∈ context.block.sourceless)
      (substitute : context.substitute name = .ok layer) : Stands context (.made name) layer
  /-- The layer that hands out what an operator writes. -/
  | handed {writer : Nat} {name : String} {source : Layer} {shape : Shape}
      (writes : context.block.Writes writer name) (unread : context.block.Unread writer name)
      (exit : Stands context (context.exitOf writer) source) (shaped : context.HandsIn name source shape) :
      Stands context (.handed writer) (Layer.output shape)

/-- The site whose output port supplies an input port of a site. -/
inductive Context.Joins (context : Context) : Site → Site → Nat → Prop
  /-- A later layer of an operator takes what the one before gives. -/
  | link {number index : Nat} (inside : index + 1 < (context.layersOf number).length) :
      Joins context (.layer number index) (.layer number (index + 1)) 0
  /-- The first layer of an operator takes what it reads from the supplier. -/
  | read {reader slot : Nat} {name : String} {supplier : Option Nat} (reads : context.block.Reads reader slot name)
      (supplies : context.block.Supplier reader name supplier) :
      Joins context (context.supplyOf name supplier) (.layer reader 0) slot
  /-- A layer that hands out takes what the operator writes. -/
  | handed {writer : Nat} {name : String} (writes : context.block.Writes writer name)
      (unread : context.block.Unread writer name) : Joins context (context.exitOf writer) (.handed writer) 0

/-- A graph whose arena holds what stands at the sites of a block in their order, and whose boundary lists name its
boundary layers in ascending order. -/
structure Arranged (context : Context) (graph : Graph) : Prop where
  arena : List.Forall₂ context.Stands context.sites graph.bare
  inputs : graph.inputs = Layer.placesOf .input graph.bare
  outputs : graph.outputs = Layer.placesOf .output graph.bare

/-- A layer that another one of its operator follows is linked with this one. -/
theorem Fragment.Form.link_of_next {context : Context} {kind : OperatorKind} {fragment : Fragment}
    {reads : List String} {write : Option String} (form : fragment.Form context kind reads write) {index : Nat}
    (inside : index + 1 < fragment.layers.length) : index = 0 ∧ (⟨0, 0⟩, ⟨1, 0⟩) ∈ fragment.links := by
  cases form with
  | feed | fetch | single => exact absurd (Nat.lt_one_iff.mp inside) (Nat.succ_ne_zero index)
  | chain => exact ⟨Nat.lt_one_iff.mp (Nat.lt_of_succ_lt_succ inside), List.mem_singleton.mpr rfl⟩

namespace Layout

variable {context : Context} {fragments : List Fragment}
  (lowered : context.block.operators.map (fun op => op.lower context) = fragments.map .ok)
include lowered

/-- An operator feeds a variable exactly if it becomes the boundary layer of the variable. -/
theorem feeds_iff {number : Nat} {name : String} : context.block.Feeds number name ↔
    ∃ shape, fragments[number]? = some (.feed shape name) := by
  constructor
  · rintro ⟨op, here, feeds, writes⟩
    obtain ⟨fragment, kind, present, known, form⟩ := fragment_of_lowered lowered here
    cases known.symm.trans feeds
    obtain ⟨shape, other, _, rfl, same⟩ := form.eq_feed
    cases same.symm.trans writes
    exact ⟨shape, present⟩
  · rintro ⟨shape, present⟩
    obtain ⟨op, kind, here, known, form⟩ := form_of_lowered lowered present
    have first : (Fragment.feed shape name).layers[0]? = some (Layer.input shape) := rfl
    rcases form.layer_cases first with inner | ⟨_, _, other, _, ⟨rfl, writes, same, _⟩ | ⟨_, _, same, _⟩⟩
    · exact absurd List.mem_cons_self inner
    · cases same
      exact ⟨op, here, known, writes⟩
    · cases same

/-- The only writer of a variable that is fed is the operator that feeds it. -/
theorem sole_iff (closed : Closed fragments) {number : Nat} {name : String}
    (feeds : context.block.Feeds number name) : (writers fragments name).length = 1 ↔
      ∀ other, context.block.Writes other name → other = number := by
  obtain ⟨op, here, _, written⟩ := feeds
  have own := mem_writers.mpr ((mem_writes_iff lowered).mpr ⟨⟨op, here, written⟩, rfl⟩)
  constructor
  · intro single other writes
    obtain ⟨entry, only⟩ := List.length_eq_one_iff.mp single
    have another := mem_writers.mpr ((mem_writes_iff lowered).mpr ⟨writes, rfl⟩)
    rw [only, List.mem_singleton] at own another
    exact congrArg Prod.fst (another.trans own.symm)
  · intro sole
    have all : ∀ entry ∈ writers fragments name, entry.1 = number := by
      rintro ⟨writer, source⟩ member
      exact sole writer ((mem_writes_iff lowered).mp (mem_writers.mp member)).1
    -- Two writers would ascend, and both are the operator that feeds.
    have ordered := pairwise_writers closed name
    match same : writers fragments name with
    | [] => rw [same] at own; cases own
    | [_] => rfl
    | first :: second :: rest =>
      rw [same, List.pairwise_cons] at ordered
      have less := ordered.1 second List.mem_cons_self
      rw [all first (same ▸ List.mem_cons_self), all second (same ▸ List.mem_cons_of_mem _ List.mem_cons_self)] at less
      exact absurd less (Nat.lt_irrefl _)

theorem givesWay_iff (closed : Closed fragments) {number : Nat} {name : String} :
    context.GivesWay number name ↔
      (∃ shape, fragments[number]? = some (.feed shape name)) ∧ GivesWay context fragments name := by
  constructor
  · rintro ⟨feeds, sole, stored⟩
    exact ⟨(feeds_iff lowered).mp feeds, (sole_iff lowered closed feeds).mpr sole, stored⟩
  · rintro ⟨present, single, stored⟩
    have feeds := (feeds_iff lowered).mpr present
    exact ⟨feeds, (sole_iff lowered closed feeds).mp single, stored⟩

theorem layersOf_pos {number : Nat} {op : Operator} (here : context.block.operators[number]? = some op) :
    0 < (context.layersOf number).length := by
  obtain ⟨fragment, _, present, _, form⟩ := fragment_of_lowered lowered here
  obtain ⟨first, rest, _, layers, _, _⟩ := form.exists_first
  rw [layersOf_of_fragment lowered present, layers]
  exact Nat.succ_pos _

theorem exit_inside {writer : Nat} {name : String} (writes : context.block.Writes writer name) :
    (context.layersOf writer).length - 1 < (context.layersOf writer).length := by
  obtain ⟨op, here, _⟩ := writes
  exact Nat.sub_lt (layersOf_pos lowered here) Nat.one_pos

theorem exit_eq {writer : Nat} {name : String} (writes : context.block.Writes writer name) :
    exit fragments writer = ⟨context.placeOf (context.exitOf writer), 0⟩ := by
  have inside := exit_inside lowered writes
  obtain ⟨fragment, present, same⟩ := fragment_of_layersOf lowered inside
  rw [Context.exitOf, placeOf_layer lowered inside, exit, offset_succ present, ← same, PortRef.mk.injEq]
  exact ⟨by omega, rfl⟩

theorem entry_eq {reader slot : Nat} {name : String} (reads : context.block.Reads reader slot name) :
    entry fragments reader slot = ⟨context.placeOf (.layer reader 0), slot⟩ := by
  obtain ⟨op, here, _⟩ := reads
  rw [placeOf_layer lowered (layersOf_pos lowered here)]
  rfl

theorem madeUp_eq (closed : Closed fragments) {name : String} (sourceless : name ∈ context.block.sourceless) :
    madeUp fragments name = ⟨context.placeOf (.made name), 0⟩ := by
  rw [placeOf_made lowered sourceless, madeUp, made_eq lowered closed, Int.natCast_add]

theorem supplied_eq (closed : Closed fragments) {reader slot : Nat} {name : String} {supplier : Option Nat}
    (reads : context.block.Reads reader slot name) (supplies : context.block.Supplier reader name supplier) :
    supplied fragments name supplier = ⟨context.placeOf (context.supplyOf name supplier), 0⟩ := by
  cases supplier with
  | some writer => exact exit_eq lowered supplies.writes
  | none => exact madeUp_eq lowered closed (Block.mem_sourceless.mpr ⟨reader, slot, reads, supplies⟩)

/-- Where all boundary layers that are to give way have become constants, every layer is the one of its site. -/
theorem stands_of_refilled (closed : Closed fragments) {front : List Layer}
    (refilled : Refilled context fragments front)
    (exact : ∀ number shape name, fragments[number]? = some (.feed shape name) → GivesWay context fragments name →
      ∃ value, front[offset fragments number]? = some (Layer.constant value))
    {number index : Nat} (inside : index < (context.layersOf number).length) :
    ∃ layer, front[offset fragments number + index]? = some layer ∧ context.Stands (.layer number index) layer := by
  obtain ⟨fragment, present, same⟩ := fragment_of_layersOf lowered inside
  have covered : index < fragment.layers.length := same ▸ inside
  have there : fragment.layers[index]? = some fragment.layers[index] := List.getElem?_eq_getElem covered
  have stood := layers_of_fragment present there
  have within : offset fragments number + index < front.length :=
    refilled.length ▸ (List.getElem?_eq_some_iff.mp stood).1
  have here : front[offset fragments number + index]? = some front[offset fragments number + index] :=
    List.getElem?_eq_getElem within
  refine ⟨_, here, ?_⟩
  rcases refilled.layers _ _ here with unchanged | ⟨name, writer, shape, value, sole, stored, loaded, input, constant⟩
  · have kept := Option.some.inj (unchanged.symm.trans stood)
    refine .kept (by rw [same, there, kept]) fun name way => ?_
    -- A boundary layer that is to give way has become a constant, and no operator becomes one.
    obtain ⟨⟨shape, fed⟩, gives⟩ := (givesWay_iff lowered closed).mp way
    cases present.symm.trans fed
    obtain ⟨value, constant⟩ := exact number shape name present gives
    have first : index = 0 := Nat.lt_one_iff.mp (same ▸ inside : index < (Fragment.feed shape name).layers.length)
    subst first
    cases kept.symm.trans (Option.some.inj (here.symm.trans constant))
  · obtain ⟨op, kind, _, _, form⟩ := form_of_lowered lowered present
    rcases form.layer_cases (there.trans (stood.symm.trans input)) with
      inner | ⟨rfl, _, other, _, ⟨_, _, rfl, _⟩ | ⟨_, _, _, hands⟩⟩
    · exact absurd List.mem_cons_self inner
    · have written := mem_writers.mp (sole ▸ List.mem_singleton.mpr rfl :
        (writer, (⟨offset fragments number + 0, 0⟩ : PortRef)) ∈ writers fragments name)
      obtain ⟨rfl, _⟩ := write_unique closed written (write_of_feed present)
      have way := (givesWay_iff lowered closed).mpr ⟨⟨_, present⟩, by rw [sole]; rfl, stored⟩
      rw [constant]
      exact .payload way loaded
    · cases hands

/-- A connection inside of an operator joins a layer with the next one. -/
theorem mem_links_iff {source target : PortRef} : (source, target) ∈ links fragments ↔
    ∃ number index, index + 1 < (context.layersOf number).length ∧
      source = ⟨context.placeOf (.layer number index), 0⟩ ∧
      target = ⟨context.placeOf (.layer number (index + 1)), 0⟩ := by
  rw [mem_links]
  constructor
  · rintro ⟨place, present, link, member, rfl, rfl⟩
    obtain ⟨here, start⟩ := mem_placed.mp present
    obtain ⟨_, _, _, _, form⟩ := form_of_lowered lowered here
    obtain ⟨first, second, _, layers, exits, enters, _⟩ := form.exists_pair member
    -- A fragment has a link only if it has two layers.
    have two : (context.layersOf place.reader).length = 2 := by
      rw [layersOf_of_fragment lowered here, layers]
      rfl
    refine ⟨place.reader, 0, by omega, ?_, ?_⟩
    · rw [placeOf_layer lowered (by omega), exits, start]
      simp only [PortRef.rebase, PortRef.mk.injEq, and_true]
      omega
    · rw [placeOf_layer lowered (by omega), enters, start]
      simp only [PortRef.rebase, PortRef.mk.injEq, and_true]
      omega
  · rintro ⟨number, index, inside, rfl, rfl⟩
    obtain ⟨fragment, present, same⟩ := fragment_of_layersOf lowered inside
    obtain ⟨_, _, _, _, form⟩ := form_of_lowered lowered present
    rw [placeOf_layer lowered inside, placeOf_layer lowered (Nat.lt_of_succ_lt inside)]
    obtain ⟨rfl, link⟩ := form.link_of_next (same ▸ inside)
    refine ⟨⟨number, offset fragments number, fragment⟩, mem_placed.mpr ⟨present, rfl⟩, _, link, ?_, ?_⟩ <;>
    · simp only [PortRef.rebase, PortRef.mk.injEq, and_true]
      omega

/-- A read joins its supplier with the first layer of the reader. -/
theorem mem_bindings_iff (closed : Closed fragments) {source target : PortRef} :
    (source, target) ∈ bindings fragments (made fragments) (reads fragments) ↔
      ∃ reader slot name supplier, context.block.Reads reader slot name ∧
        context.block.Supplier reader name supplier ∧
        source = ⟨context.placeOf (context.supplyOf name supplier), 0⟩ ∧
        target = ⟨context.placeOf (.layer reader 0), slot⟩ := by
  simp only [bindings, List.mem_map, Prod.exists, Prod.mk.injEq]
  constructor
  · rintro ⟨port, name, reader, member, rfl, rfl⟩
    obtain ⟨slot, reads, rfl⟩ := (mem_reads_iff lowered).mp member
    obtain ⟨supplier, supplies, _⟩ := exists_supplier lowered closed name reader
    refine ⟨reader, slot, name, supplier, reads, supplies, ?_, entry_eq lowered reads⟩
    rw [origin_of_supplier lowered closed supplies, supplied_eq lowered closed reads supplies]
  · rintro ⟨reader, slot, name, supplier, reads, supplies, rfl, rfl⟩
    refine ⟨_, name, reader, (mem_reads_iff lowered).mpr ⟨slot, reads, rfl⟩, ?_, entry_eq lowered reads⟩
    rw [origin_of_supplier lowered closed supplies, supplied_eq lowered closed reads supplies]

/-- What no read takes is joined with the layer that hands it out. -/
theorem mem_exposures_iff (closed : Closed fragments) {source target : PortRef} :
    (source, target) ∈ exposures ((layers fragments).length + (made fragments).length) (exposed fragments) ↔
      ∃ writer name, context.block.Writes writer name ∧ context.block.Unread writer name ∧
        source = ⟨context.placeOf (context.exitOf writer), 0⟩ ∧
        target = ⟨context.placeOf (.handed writer), 0⟩ := by
  -- The ports are handed out in the order of the operators that write them, each of which writes once.
  have place : ∀ {index : Nat} {name : String} {writer : Nat} {source : PortRef},
      (exposed fragments)[index]? = some (name, (writer, source)) → context.block.loose.idxOf writer = index := by
    intro index name writer source here
    have listed : context.block.loose[index]? = some writer := by
      rw [← map_exposed lowered closed, List.getElem?_map, here]
      rfl
    obtain ⟨inside, same⟩ := List.getElem?_eq_some_iff.mp listed
    have unique : context.block.loose.Nodup := context.block.pairwise_loose.imp Nat.ne_of_lt
    rw [← same, unique.idxOf_getElem index inside]
  rw [mem_exposures]
  constructor
  · rintro ⟨index, name, writer, here, rfl⟩
    obtain ⟨writes, unread, rfl⟩ := (mem_exposed lowered closed).mp (List.mem_of_getElem? here)
    refine ⟨writer, name, writes, unread, exit_eq lowered writes, ?_⟩
    rw [placeOf_handed lowered, place here, made_eq lowered closed]
  · rintro ⟨writer, name, writes, unread, rfl, rfl⟩
    have member := (mem_exposed lowered closed).mpr ⟨writes, unread, rfl⟩
    obtain ⟨index, here⟩ := List.mem_iff_getElem?.mp member
    rw [← exit_eq lowered writes]
    refine ⟨index, name, writer, here, ?_⟩
    rw [placeOf_handed lowered, place here, made_eq lowered closed]

/-- The connections of a graph are the joints of its sites. -/
theorem mem_edges_iff (closed : Closed fragments) {source target : PortRef} :
    (source, target) ∈ edges fragments ↔ ∃ origin site slot, context.Joins origin site slot ∧
      source = ⟨context.placeOf origin, 0⟩ ∧ target = ⟨context.placeOf site, slot⟩ := by
  rw [edges, List.mem_append, List.mem_append, mem_links_iff lowered, mem_bindings_iff lowered closed,
    mem_exposures_iff lowered closed]
  constructor
  · rintro ((⟨_, _, inside, rfl, rfl⟩ | ⟨_, _, _, _, reads, supplies, rfl, rfl⟩) | ⟨_, _, writes, unread, rfl, rfl⟩)
    · exact ⟨_, _, _, .link inside, rfl, rfl⟩
    · exact ⟨_, _, _, .read reads supplies, rfl, rfl⟩
    · exact ⟨_, _, _, .handed writes unread, rfl, rfl⟩
  · rintro ⟨_, _, _, joins, rfl, rfl⟩
    cases joins with
    | link inside => exact .inl (.inl ⟨_, _, inside, rfl, rfl⟩)
    | read reads supplies => exact .inl (.inr ⟨_, _, _, _, reads, supplies, rfl, rfl⟩)
    | handed writes unread => exact .inr ⟨_, _, writes, unread, rfl, rfl⟩

/-- Joints lie between sites of the block. -/
theorem joins_mem {origin site : Site} {slot : Nat} (joins : context.Joins origin site slot) :
    origin ∈ context.sites ∧ site ∈ context.sites := by
  cases joins with
  | link inside =>
    exact ⟨Context.layer_mem_sites.mpr (Nat.lt_of_succ_lt inside), Context.layer_mem_sites.mpr inside⟩
  | @read reader slot name supplier reads supplies =>
    refine ⟨?_, Context.layer_mem_sites.mpr (layersOf_pos lowered reads.choose_spec.1)⟩
    cases supplier with
    | some writer => exact Context.layer_mem_sites.mpr (exit_inside lowered supplies.writes)
    | none => exact Context.made_mem_sites.mpr (Block.mem_sourceless.mpr ⟨reader, slot, reads, supplies⟩)
  | handed writes unread =>
    exact ⟨Context.layer_mem_sites.mpr (exit_inside lowered writes),
      Context.handed_mem_sites.mpr (Block.mem_loose.mpr ⟨_, writes, unread⟩)⟩

end Layout

theorem Layer.outputShape_of_sourceShape? {layers : List Layer} {place : Nat} {layer : Layer} {shape : Shape}
    (here : layers[place]? = some layer) (given : sourceShape? layers ⟨place, 0⟩ = some shape) :
    layer.outputShape = shape := by
  have found := sourceShape?_of_getElem? here 0
  rw [Int.natCast_zero, given] at found
  unfold outputShape
  cases outputs : layer.outputs with
  | nil =>
    rw [outputs] at found
    cases found
  | cons port ports =>
    rw [outputs] at found
    cases found
    rfl

section
variable {context : Context} {fragments : List Fragment} {graph : Graph}

theorem Assembled.length_bare (assembled : Assembled context fragments graph) :
    graph.bare.length = context.sites.length := by
  obtain ⟨front, extra, shapes, refilled, supplied, exposed, bare⟩ := assembled.bare
  have extras := congrArg List.length supplied
  have handed := congrArg List.length (Layout.map_exposed assembled.lowered assembled.closed)
  rw [List.length_map, List.length_map, Layout.made_eq assembled.lowered assembled.closed] at extras
  rw [List.length_map] at handed
  simp only [bare, Context.sites, List.length_append, List.length_map, refilled.length,
    Layout.length_operatorSites assembled.lowered, ← extras, ← exposed.length_eq, handed]

theorem Settled.stands_layer (settled : Settled context fragments graph) {number index : Nat}
    (inside : index < (context.layersOf number).length) :
    ∃ layer, graph.bare[context.placeOf (.layer number index)]? = some layer ∧
      context.Stands (.layer number index) layer := by
  have assembled := settled.assembled
  obtain ⟨front, extra, shapes, refilled, _, _, bare⟩ := assembled.bare
  have exact : ∀ number shape name, fragments[number]? = some (.feed shape name) →
      Layout.GivesWay context fragments name →
        ∃ value, front[Layout.offset fragments number]? = some (Layer.constant value) := by
    intro number shape name here way
    obtain ⟨value, there⟩ := settled.replaced number shape name here way
    have first : (Fragment.feed shape name).layers[0]? = some (Layer.input shape) := rfl
    have stood := Layout.layers_of_fragment here first
    have within : Layout.offset fragments number < front.length :=
      refilled.length ▸ (List.getElem?_eq_some_iff.mp stood).1
    rw [bare, List.append_assoc, List.getElem?_append_left within] at there
    exact ⟨value, there⟩
  obtain ⟨layer, here, stands⟩ := Layout.stands_of_refilled assembled.lowered assembled.closed refilled exact inside
  rw [Layout.placeOf_layer assembled.lowered inside, bare, List.append_assoc,
    List.getElem?_append_left (List.getElem?_eq_some_iff.mp here).1]
  exact ⟨layer, here, stands⟩

theorem Assembled.stands_made (assembled : Assembled context fragments graph) {name : String}
    (sourceless : name ∈ context.block.sourceless) :
    ∃ layer, graph.bare[context.placeOf (.made name)]? = some layer ∧ context.Stands (.made name) layer := by
  have same := Layout.made_eq assembled.lowered assembled.closed
  obtain ⟨layer, substitute, here⟩ := assembled.layer_of_made (same ▸ sourceless)
  rw [same] at here
  rw [Layout.placeOf_made assembled.lowered sourceless]
  exact ⟨layer, here, .made sourceless substitute⟩

theorem Settled.stands_handed (settled : Settled context fragments graph) {writer : Nat}
    (loose : writer ∈ context.block.loose) :
    ∃ layer, graph.bare[context.placeOf (.handed writer)]? = some layer ∧ context.Stands (.handed writer) layer := by
  have assembled := settled.assembled
  obtain ⟨front, extra, shapes, refilled, supplied, exposed, bare⟩ := assembled.bare
  have extras := congrArg List.length supplied
  rw [List.length_map, List.length_map, Layout.made_eq assembled.lowered assembled.closed] at extras
  have order := Layout.map_exposed assembled.lowered assembled.closed
  -- The writers that are listed and the entries that are handed out go side by side.
  have listed := List.getElem?_idxOf loose
  rw [← order, List.getElem?_map] at listed
  obtain ⟨⟨name, _, source⟩, present, rfl⟩ := Option.map_eq_some_iff.mp listed
  rw [order] at present
  obtain ⟨writes, unread, rfl⟩ :=
    (Layout.mem_exposed assembled.lowered assembled.closed).mp (List.mem_of_getElem? present)
  have inside := (List.getElem?_eq_some_iff.mp present).1
  have within := inside
  rw [exposed.length_eq] at within
  have exposure := List.Forall₂.get exposed inside within
  rw [List.get_eq_getElem, List.get_eq_getElem, (List.getElem?_eq_some_iff.mp present).2] at exposure
  obtain ⟨layer, here, exit⟩ := settled.stands_layer (Layout.exit_inside assembled.lowered writes)
  obtain ⟨given, exits, _, own⟩ := exposure.agrees
  have outputs : layer.outputShape = given := by
    refine Layer.outputShape_of_sourceShape? here ?_
    rw [bare, List.append_assoc]
    refine Layer.sourceShape?_front ?_ _
    rw [← exits, Layout.exit_eq assembled.lowered writes, Context.exitOf]
  refine ⟨_, ?_, .handed writes unread exit ⟨exposure.declared, fun absent => (own absent).trans outputs.symm⟩⟩
  rw [Layout.placeOf_handed assembled.lowered, extras, ← refilled.length, ← List.length_append, bare,
    List.getElem?_append_right (Nat.le_add_right _ _), Nat.add_sub_cancel_left, List.getElem?_map,
    List.getElem?_eq_getElem within]
  rfl

/-- What stands at a site has the place of the site. -/
theorem Settled.stands (settled : Settled context fragments graph) {site : Site} (member : site ∈ context.sites) :
    ∃ layer, graph.bare[context.placeOf site]? = some layer ∧ context.Stands site layer := by
  cases site with
  | layer number index => exact settled.stands_layer (Context.layer_mem_sites.mp member)
  | made name => exact settled.assembled.stands_made (Context.made_mem_sites.mp member)
  | handed writer => exact settled.stands_handed (Context.handed_mem_sites.mp member)

theorem Settled.arranged (settled : Settled context fragments graph) : Arranged context graph where
  arena := by
    have assembled := settled.assembled
    have unique := Layout.nodup_sites assembled.lowered assembled.closed
    refine List.forall₂_iff_get.mpr ⟨assembled.length_bare.symm, fun place inside within => ?_⟩
    obtain ⟨layer, here, stands⟩ := settled.stands (List.getElem_mem inside)
    rw [Context.placeOf, unique.idxOf_getElem place inside, List.getElem?_eq_getElem within] at here
    rw [List.get_eq_getElem, List.get_eq_getElem, Option.some.inj here]
    exact stands
  inputs := settled.bordered.inputs
  outputs := settled.bordered.outputs

/-- An input port of a site is bound to the output port of the site that it is joined with. -/
theorem Assembled.sourceOf?_eq_some_iff (assembled : Assembled context fragments graph) {site : Site}
    (member : site ∈ context.sites) {slot : Nat} {source : PortRef} :
    graph.sourceOf? ⟨context.placeOf site, slot⟩ = some source ↔
      ∃ origin, context.Joins origin site slot ∧ source = ⟨context.placeOf origin, 0⟩ := by
  rw [assembled.edges, Layout.mem_edges_iff assembled.lowered assembled.closed]
  constructor
  · rintro ⟨origin, other, _, joins, rfl, same⟩
    have place : context.placeOf site = context.placeOf other := Int.ofNat.inj (congrArg PortRef.node same)
    cases Int.ofNat.inj (congrArg PortRef.slot same)
    cases (List.idxOf_inj member).mp place
    exact ⟨origin, joins, rfl⟩
  · rintro ⟨origin, joins, rfl⟩
    exact ⟨origin, site, slot, joins, rfl, rfl⟩

/-- The graph that a block resolves to is arranged by its operators, the variables that it makes up and the ports that
it hands out. -/
theorem arranged_of_resolve {threshold : Int} (resolved : context.resolve threshold = .ok graph) :
    Arranged context graph := by
  obtain ⟨fragments, settled⟩ := settled_of_resolve resolved
  exact settled.arranged

end

theorem arranged_adderGraph : adder.resolve = .ok adderGraph ∧ Arranged adder adderGraph :=
  ⟨resolve_adder, arranged_of_resolve resolve_adder⟩

end LayerGraph
