import LayerGraph.Proofs.Graph.Border
import LayerGraph.Proofs.Wiring.Shapes

/-! The boundary lists and the payloads through the passes of a wiring.

Every pass keeps the boundary lists to the boundary layers. The first pass notes all variables that are fed, so the
third one leaves no boundary layer that is to give way to a payload.
-/

set_option autoImplicit false

namespace LayerGraph

/-- A variable that is to give way to its payload: it has one writer and is stored. -/
def Layout.GivesWay (context : Context) (fragments : List Fragment) (name : String) : Prop :=
  (Layout.writers fragments name).length = 1 ∧ context.tensors.contains name = .ok true

namespace Wiring

open Run

theorem graph_register (wiring : Wiring) (reader offset : Nat) (fragment : Fragment) :
    (wiring.register reader offset fragment).graph = { wiring.graph with
      inputs := wiring.graph.inputs ++ fragment.boundaryInputs.map fun (n : Nat) => (n + offset : Int)
      outputs := wiring.graph.outputs ++ fragment.boundaryOutputs.map fun (n : Nat) => (n + offset : Int) } := by
  unfold register
  rw [addPending_eq]
  dsimp only
  rw [addWriters_eq]

section
variable {context : Context} {fragments : List Fragment} {fragment : Fragment} {wiring next : Wiring} {name : String}

/-- A new layer that is listed where it belongs to the boundary. -/
theorem bordered_of_add {layer : Layer} {graph : Graph} (bordered : wiring.graph.Bordered) (fresh : layer.Fresh)
    (nodes : graph.nodes = (wiring.graph.add layer).nodes)
    (inputs : graph.inputs = wiring.graph.inputs ++ if layer.kind = .input then [(wiring.graph.size : Int)] else [])
    (outputs : graph.outputs =
      wiring.graph.outputs ++ if layer.kind = .output then [(wiring.graph.size : Int)] else []) :
    graph.Bordered := by
  have listed : ∀ kind : LayerKind, (Layer.placesOf kind [layer]).map (· + (wiring.graph.size : Int)) =
      if layer.kind = kind then [(wiring.graph.size : Int)] else [] := by
    intro kind
    by_cases same : layer.kind = kind <;> simp [Layer.placesOf, same]
  have bare : graph.bare = wiring.graph.bare ++ [layer] := by
    rw [← Graph.bare_add fresh, Graph.bare, nodes, Graph.bare]
  refine bordered.grow bare ?_ ?_
  · rw [listed, inputs]
  · rw [listed, outputs]

/-- Connecting links keeps the layers and the lists. -/
theorem keeps_of_connectLinks {offset : Nat} {links : List (PortRef × PortRef)} {value : Unit}
    (connected : (connectLinks offset links).Yields wiring value next) :
    wiring.graph.Keeps next.graph ∧ next.provisional = wiring.provisional := by
  refine each_induction (fun _ (w : Wiring) => wiring.graph.Keeps w.graph ∧ w.provisional = wiring.provisional)
    ⟨⟨rfl, rfl, rfl⟩, rfl⟩ ?_ connected
  intro done link rest state after split ⟨keeps, same⟩ round
  obtain ⟨graph, wires, rfl⟩ := yields_connect.mp round
  exact ⟨keeps.trans (Graph.keeps_of_connect wires), same⟩

/-- The layers of an operator are listed behind those present, and what it feeds is noted. -/
theorem bordered_of_append {kind : OperatorKind} {reads : List String} {write : Option String} {reader : Nat}
    {value : Unit} (bordered : wiring.graph.Bordered) (form : fragment.Form context kind reads write)
    (appended : (append reader fragment).Yields wiring value next) :
    next.graph.Bordered ∧ next.provisional = fragment.provisional.foldl (fun kept (name, (node : Nat)) =>
      Keyed.put name (node + wiring.graph.size : Int) kept) wiring.provisional := by
  obtain ⟨linked, connected, rfl⟩ := append_cases appended
  obtain ⟨keeps, same⟩ := keeps_of_connectLinks connected
  obtain ⟨inputs, outputs⟩ := form.border
  have shifted : ∀ places : List Nat, (places.map fun (n : Nat) => (n + wiring.graph.size : Int)) =
      (places.map Int.ofNat).map (· + (wiring.graph.size : Int)) := by
    intro places
    rw [List.map_map]
    rfl
  -- Layers are listed when they are registered, not when they are added.
  have unlisted : (fragment.layers.foldl Graph.add wiring.graph).inputs = wiring.graph.inputs ∧
      (fragment.layers.foldl Graph.add wiring.graph).outputs = wiring.graph.outputs := by
    generalize wiring.graph = graph
    induction fragment.layers generalizing graph with
    | nil => exact ⟨rfl, rfl⟩
    | cons layer layers ih => exact ih (graph.add layer)
  refine ⟨?_, ?_⟩
  · rw [graph_register]
    refine bordered.grow (keeps.bare.trans (Graph.bare_addAll form.closed.fresh wiring.graph)) ?_ ?_
    · rw [← inputs, ← shifted, ← unlisted.1, ← keeps.inputs]
    · rw [← outputs, ← shifted, ← unlisted.2, ← keeps.outputs]
  · rw [(registers linked reader wiring.graph.size fragment).provisional, same]

/-- A wiring that has laid out some fragments, listed their boundary layers, and noted what they feed. -/
structure Listed (fragments : List Fragment) (wiring : Wiring) : Prop where
  laid : wiring.Laid fragments
  bordered : wiring.graph.Bordered
  noted : ∀ fragment ∈ fragments, ∀ entry ∈ fragment.provisional, entry.1 ∈ wiring.provisional.map Prod.fst

theorem listed_start (threshold : Int) : (start threshold).Listed [] :=
  ⟨laid_start threshold, Graph.bordered_empty, nofun⟩

theorem Listed.lowerOne {op : Operator} {value : Unit} (listed : wiring.Listed fragments)
    (lowered : (lowerOne context fragments.length op).Yields wiring value next) :
    ∃ fragment, op.lower context = .ok fragment ∧ next.Listed (fragments ++ [fragment]) := by
  obtain ⟨fragment, appended, journal, made, appends, rfl⟩ := lowerOne_cases lowered
  obtain ⟨_, _, form⟩ := Operator.form_of_lower made
  obtain ⟨bordered, provisional⟩ := bordered_of_append listed.bordered form appends
  refine ⟨fragment, made, (listed.laid.append form.closed appends).journal journal, bordered,
    fun part member entry feeds => ?_⟩
  -- What the operator feeds is noted at its place behind the layers before it.
  have puts : appended.provisional = (fragment.provisional.map fun entry =>
      (entry.1, (entry.2 + wiring.graph.size : Int))).foldl (fun kept entry => Keyed.put entry.1 entry.2 kept)
        wiring.provisional := by
    rw [List.foldl_map, provisional]
  change _ ∈ appended.provisional.map Prod.fst
  rw [puts]
  refine Keyed.mem_keys_foldl_put.mpr ?_
  rcases List.mem_append.mp member with before | last
  · exact .inl (listed.noted part before entry feeds)
  · cases List.mem_singleton.mp last
    rw [List.map_map]
    exact .inr (List.mem_map.mpr ⟨entry, feeds, rfl⟩)

/-- Some operators are lowered, laid out in order and listed. -/
theorem listed_of_lowerEach {operators : List Operator} {value : Unit} (listed : wiring.Listed [])
    (lowered : (lowerEach context operators.zipIdx).Yields wiring value next) :
    ∃ fragments : List Fragment, operators.map (fun op => op.lower context) = fragments.map .ok ∧
      next.Listed fragments := by
  have loop : ∃ fragments : List Fragment, (operators.zipIdx.map Prod.fst).map (fun op => op.lower context) =
      fragments.map .ok ∧ next.Listed fragments := by
    refine each_induction (fun (done : List (Operator × Nat)) (w : Wiring) => ∃ fragments : List Fragment,
      (done.map Prod.fst).map (fun op => op.lower context) = fragments.map .ok ∧ w.Listed fragments)
      ⟨[], rfl, listed⟩ ?_ lowered
    rintro done ⟨op, reader⟩ rest state after split ⟨fragments, made, listed⟩ appends
    obtain ⟨front, back, _, rfl, rfl, _⟩ := zipIdx_eq_append_cons.mp split
    have number : front.length = fragments.length := by simpa using congrArg List.length made
    rw [number] at appends
    obtain ⟨fragment, one, listed⟩ := listed.lowerOne appends
    refine ⟨fragments ++ [fragment], ?_, listed⟩
    rw [List.map_append, List.map_append, List.map_append, made, List.map_singleton, List.map_singleton,
      List.map_singleton, one]
  rwa [List.zipIdx_map_fst] at loop

theorem bordered_of_synthesize {source : PortRef} (bordered : wiring.graph.Bordered)
    (run : (synthesize context name).Yields wiring source next) :
    next.graph.Bordered ∧ next.provisional = wiring.provisional := by
  rcases synthesize_cases run with ⟨_, rfl⟩ | ⟨_, declaration, stored, node, made, _, _, makes, rfl, rfl⟩
  · exact ⟨bordered, rfl⟩
  · split at makes
    · obtain ⟨value, journal, _, rfl, rfl⟩ := makeConstant_cases makes
      exact ⟨bordered_of_add bordered (Layer.fresh_constant value) rfl (List.append_nil _).symm
        (List.append_nil _).symm, rfl⟩
    · obtain ⟨journal, rfl, rfl⟩ := makeInput_cases makes
      exact ⟨bordered_of_add bordered (Layer.fresh_input _) rfl rfl (List.append_nil _).symm, rfl⟩

theorem bordered_of_bindOne {target : PortRef} {reader : Nat} {value : Unit} (bordered : wiring.graph.Bordered)
    (run : (bindOne context target name reader).Yields wiring value next) :
    next.graph.Bordered ∧ next.provisional = wiring.provisional := by
  obtain ⟨source, state, graph, chosen, _, wires, rfl⟩ := bindOne_cases run
  have supplied : state.graph.Bordered ∧ state.provisional = wiring.provisional := by
    rcases chosen with ⟨_, rfl⟩ | ⟨_, makes⟩
    · exact ⟨bordered, rfl⟩
    · exact bordered_of_synthesize bordered makes
  exact ⟨supplied.1.keeps (Graph.keeps_of_connect wires), supplied.2⟩

theorem bordered_of_bindPending {value : Unit} (bordered : wiring.graph.Bordered)
    (run : (bindPending context).Yields wiring value next) :
    next.graph.Bordered ∧ next.provisional = wiring.provisional := by
  rw [bindPending_eq] at run
  obtain ⟨_, _, get, rest⟩ := yields_bind.mp run
  obtain ⟨rfl, rfl⟩ := yields_get.mp get
  refine each_induction (fun _ (w : Wiring) => w.graph.Bordered ∧ w.provisional = wiring.provisional)
    ⟨bordered, rfl⟩ ?_ rest
  rintro done ⟨target, name, reader⟩ rest state after split ⟨bordered, same⟩ binds
  obtain ⟨later, kept⟩ := bordered_of_bindOne bordered binds
  exact ⟨later, kept.trans same⟩

/-- A wiring whose first fed variables have given way to their payloads where they are to. -/
structure Swapped (context : Context) (fragments : List Fragment) (done : List (String × Int)) (wiring : Wiring) :
    Prop where
  filled : wiring.Filled context fragments
  bordered : wiring.graph.Bordered
  replaced : ∀ entry ∈ done, Layout.GivesWay context fragments entry.1 →
    ∃ value, wiring.graph.bare[entry.2.toNat]? = some (Layer.constant value)

theorem Filled.passes_of_fed (filled : wiring.Filled context fragments) {place : Nat} {shape : Shape}
    (input : (Layout.layers fragments)[place]? = some (Layer.input shape)) :
    ∃ layer, wiring.graph.bare[place]? = some layer ∧ layer.kind ≠ .output := by
  obtain ⟨front, extra, refilled, _, bare⟩ := filled.bare
  have inside : place < front.length := by
    rw [refilled.length]
    exact (List.getElem?_eq_some_iff.mp input).1
  refine ⟨front[place], by rw [bare, List.getElem?_append_left inside, List.getElem?_eq_getElem inside], ?_⟩
  rcases refilled.layers place _ (List.getElem?_eq_getElem inside) with same | ⟨_, _, _, _, _, _, _, _, same⟩
  · rw [← Option.some.inj (input.symm.trans same)]
    nofun
  · rw [same]
    nofun

/-- Fed variables among those of the fragments are exchanged where they are to give way, and stay so. -/
theorem Swapped.replaceOne {done : List (String × Int)} {node : Int} {value : Unit}
    (swapped : wiring.Swapped context fragments done) (fed : Layout.Fed fragments name node)
    (run : (replaceOne context name node).Yields wiring value next) :
    next.Swapped context fragments (done ++ [(name, node)]) := by
  have filled := swapped.filled.replaceOne fed run
  rcases replaceOne_cases run with ⟨stays, rfl⟩ | ⟨gives, tensor, graph, journal, loaded, exchanged, rfl⟩
  · refine ⟨filled, swapped.bordered, fun entry member way => ?_⟩
    rcases List.mem_append.mp member with before | last
    · exact swapped.replaced entry before way
    · -- One that is to give way does not stay.
      cases List.mem_singleton.mp last
      have gives : isReplaceable context wiring name = .ok true := by
        unfold isReplaceable
        rw [swapped.filled.writers, if_neg (by simp [way.1]), way.2]
      cases stays.symm.trans gives
  · obtain ⟨place, writer, shape, rfl, _, _, input⟩ := swapped.filled.sole fed gives
    obtain ⟨old, present, leaf, single⟩ := swapped.filled.fed input
    have step := Graph.replaces_of_replace present leaf (Layer.fresh_constant tensor) nofun exchanged
    obtain ⟨layer, here, passes⟩ := swapped.filled.passes_of_fed input
    have inside := (List.getElem?_eq_some_iff.mp here).1
    refine ⟨filled, swapped.bordered.replaces step here passes
      (by simp [Layer.kind, Layer.constant, LayerBody.kind]), fun entry member way => ?_⟩
    rw [step.bare]
    by_cases same : place = entry.2.toNat
    · exact ⟨tensor, by rw [← same, List.getElem?_set_self inside]⟩
    · rw [List.getElem?_set_ne same]
      rcases List.mem_append.mp member with before | last
      · exact swapped.replaced entry before way
      · cases List.mem_singleton.mp last
        exact absurd (Int.toNat_natCast place).symm same

theorem swapped_of_replaceEach {entries : List (String × Int)} {value : Unit}
    (filled : wiring.Filled context fragments) (bordered : wiring.graph.Bordered)
    (fed : ∀ entry ∈ entries, Layout.Fed fragments entry.1 entry.2)
    (run : (replaceEach context entries).Yields wiring value next) : next.Swapped context fragments entries := by
  refine each_induction (fun done (w : Wiring) => w.Swapped context fragments done)
    ⟨filled, bordered, nofun⟩ ?_ run
  rintro done ⟨name, node⟩ rest state after split swapped replaces
  exact swapped.replaceOne (fed (name, node) (split ▸ List.mem_append_right _ List.mem_cons_self)) replaces

theorem mem_provisional {bound : Wiring} (listed : wiring.Listed fragments)
    (kept : bound.provisional = wiring.provisional) {number : Nat} {shape : Shape}
    (here : fragments[number]? = some (.feed shape name)) : name ∈ bound.provisional.map Prod.fst := by
  rw [kept]
  exact listed.noted _ (List.mem_of_getElem? here) (name, 0) (List.mem_singleton.mpr rfl)

/-- When all noted variables have had their turn, every fed one has given way where it is to. -/
theorem Swapped.exact {entries : List (String × Int)} (swapped : wiring.Swapped context fragments entries)
    (noted : ∀ {number : Nat} {shape : Shape} {name : String}, fragments[number]? = some (.feed shape name) →
      name ∈ entries.map Prod.fst)
    (fed : ∀ entry ∈ entries, Layout.Fed fragments entry.1 entry.2) :
    ∀ number shape name, fragments[number]? = some (.feed shape name) → Layout.GivesWay context fragments name →
      ∃ value, wiring.graph.bare[Layout.offset fragments number]? = some (Layer.constant value) := by
  intro number shape name here way
  obtain ⟨⟨_, node⟩, member, rfl⟩ := List.mem_map.mp (noted here)
  obtain ⟨value, there⟩ := swapped.replaced _ member way
  obtain ⟨place, writer, _, same, written, _⟩ := fed _ member
  -- The variable has one writer, so the node that was noted last is that of the only operator that feeds it.
  have single : (number, (⟨Layout.offset fragments number, 0⟩ : PortRef)) = (writer, ⟨place, 0⟩) := by
    obtain ⟨entry, only⟩ := List.length_eq_one_iff.mp way.1
    have first := Layout.mem_writers.mpr (Layout.write_of_feed here)
    have second := Layout.mem_writers.mpr written
    rw [only, List.mem_singleton] at first second
    exact first.trans second.symm
  have position : Layout.offset fragments number = place :=
    Int.ofNat.inj (congrArg (fun entry => entry.2.node) single)
  rw [same, Int.toNat_natCast, ← position] at there
  exact ⟨value, there⟩

theorem bordered_of_exposeOne {source : PortRef} {value : Unit} (bordered : wiring.graph.Bordered)
    (run : (exposeOne context name source).Yields wiring value next) : next.graph.Bordered := by
  obtain ⟨port, _, ⟨_, rfl⟩ | ⟨_, declared, wired, journal, _, _, _, connected, rfl⟩⟩ := exposeOne_cases run
  · exact bordered
  · have grown : ({ wiring.graph.add (Layer.output declared) with
        outputs := wiring.graph.outputs ++ [(wiring.graph.size : Int)] } : Graph).Bordered :=
      bordered_of_add bordered (Layer.fresh_output declared) rfl (List.append_nil _).symm rfl
    exact grown.keeps (Graph.keeps_of_connect connected)

theorem prefix_of_exposeOne {source : PortRef} {value : Unit}
    (run : (exposeOne context name source).Yields wiring value next) :
    wiring.graph.bare <+: next.graph.bare := by
  obtain ⟨port, _, ⟨_, rfl⟩ | ⟨_, declared, wired, journal, _, _, _, connected, rfl⟩⟩ := exposeOne_cases run
  · exact List.prefix_rfl
  · have grown : (wiring.graph.add (Layer.output declared)).bare = wiring.graph.bare ++ [Layer.output declared] :=
      Graph.bare_add (Layer.fresh_output declared)
    refine ⟨[Layer.output declared], ?_⟩
    rw [(Graph.keeps_of_connect connected).bare, ← grown]
    rfl

theorem bordered_of_exposeOutputs {value : Unit} (bordered : wiring.graph.Bordered)
    (run : (exposeOutputs context).Yields wiring value next) :
    next.graph.Bordered ∧ wiring.graph.bare <+: next.graph.bare := by
  rw [exposeOutputs_eq] at run
  obtain ⟨_, _, get, rest⟩ := yields_bind.mp run
  obtain ⟨rfl, rfl⟩ := yields_get.mp get
  refine each_induction (fun _ (w : Wiring) => w.graph.Bordered ∧ wiring.graph.bare <+: w.graph.bare)
    ⟨bordered, List.prefix_rfl⟩ ?_ rest
  rintro done ⟨writer, name, source⟩ rest state after split ⟨bordered, stays⟩ exposes
  exact ⟨bordered_of_exposeOne bordered exposes, stays.trans (prefix_of_exposeOne exposes)⟩

end

end Wiring

/-- A graph that is wired from the fragments of a block, whose boundary lists name its boundary layers, and in which
every fed variable has given way to its payload where it is to. -/
structure Settled (context : Context) (fragments : List Fragment) (graph : Graph) : Prop where
  assembled : Assembled context fragments graph
  bordered : graph.Bordered
  replaced : ∀ number shape name, fragments[number]? = some (.feed shape name) →
    Layout.GivesWay context fragments name →
      ∃ value, graph.bare[Layout.offset fragments number]? = some (Layer.constant value)

theorem settled_of_resolve {context : Context} {threshold : Int} {graph : Graph}
    (resolved : context.resolve threshold = .ok graph) : ∃ fragments, Settled context fragments graph := by
  obtain ⟨fragments, assembled⟩ := assembled_of_resolve resolved
  obtain ⟨lowered, bound, filled, handed, lowers, binds, replaces, exposes, rfl⟩ :=
    Wiring.resolve_eq_ok.mp resolved
  rw [Wiring.lowerAll_eq] at lowers
  obtain ⟨others, made, listed⟩ := Wiring.listed_of_lowerEach (Wiring.listed_start threshold) lowers
  have same : others = fragments :=
    List.map_injective_iff.mpr (fun _ _ => Except.ok.inj) (made.symm.trans assembled.lowered)
  subst same
  have binding := Wiring.bound_of_bindPending listed.laid binds
  obtain ⟨bordered, kept⟩ := Wiring.bordered_of_bindPending listed.bordered binds
  rw [Wiring.replaceFed_eq] at replaces
  obtain ⟨_, _, get, replaces⟩ := Run.yields_bind.mp replaces
  obtain ⟨rfl, rfl⟩ := Run.yields_get.mp get
  have swapped := Wiring.swapped_of_replaceEach (binding.filled listed.laid.closed) bordered binding.provisional
    replaces
  have exact := swapped.exact (Wiring.mem_provisional listed kept) binding.provisional
  obtain ⟨listing, added, bare⟩ := Wiring.bordered_of_exposeOutputs swapped.bordered exposes
  refine ⟨others, assembled, listing, fun number shape name here way => ?_⟩
  obtain ⟨value, there⟩ := exact number shape name here way
  exact ⟨value, by rw [← bare, List.getElem?_append_left (List.getElem?_eq_some_iff.mp there).1, there]⟩

end LayerGraph
