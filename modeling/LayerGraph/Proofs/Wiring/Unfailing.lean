import LayerGraph.Proofs.Failure.Faults
import LayerGraph.Proofs.Wiring.Closing

/-! Operations on the graph that no pass makes fail.

References that the passes work with name ports that exist, and a port is connected before nothing else
is. So the links of a fragment, the reads, the payloads and the exposed ports all find what they need;
what still fails is a conversion error about shapes.
-/

set_option autoImplicit false

namespace LayerGraph

namespace Layout

/-- A written port stays when boundary layers give way to payloads. -/
theorem Refilled.output_present {context : Context} {fragments : List Fragment} {front : List Layer}
    {source : PortRef} (refilled : Refilled context fragments front)
    (present : (Layer.portAmong? Layer.outputs (Layout.layers fragments) source).isSome = true) :
    (Layer.portAmong? Layer.outputs front source).isSome = true := by
  obtain ⟨port, found⟩ := Option.isSome_iff_exists.mp present
  obtain ⟨place, slot, layer, rfl, here, there⟩ := (Layer.portAmong?_eq_some _).mp found
  have inside : place < front.length := by
    rw [refilled.length]
    exact (List.getElem?_eq_some_iff.mp here).1
  rw [Layer.portAmong?_natCast, List.getElem?_eq_getElem inside, Option.bind_some]
  rcases refilled.layers place _ (List.getElem?_eq_getElem inside) with
    same | ⟨_, _, shape, value, _, _, _, input, same⟩
  · rw [here, Option.some.injEq] at same
    rw [← same, there]
    rfl
  · -- Both the boundary layer and the payload have one output.
    rw [here, Option.some.injEq] at input
    subst input
    rw [same]
    cases slot with
    | zero => rfl
    | succ slot => cases there

end Layout

namespace Wiring

open Run

section
variable {fragments : List Fragment} {fragment : Fragment} {wiring : Wiring}

/-- The next link of a fragment that was just added can be connected. -/
theorem connectLink_yields (wiring : Wiring) {front : List Layer} {edges : List (PortRef × PortRef)} {link : PortRef × PortRef}
    {done rest : List (PortRef × PortRef)} (closed : fragment.Closed)
    (bare : wiring.graph.bare = front ++ fragment.layers) (split : fragment.links = done ++ link :: rest)
    (has : wiring.graph.HasEdges (edges ++ done.map fun link =>
      (link.1.rebase (front.length : Int), link.2.rebase (front.length : Int))))
    (low : ∀ edge ∈ edges, edge.2.node < front.length) :
    ∃ graph, (connect (link.1.rebase front.length) (link.2.rebase front.length)).Yields wiring ()
        { wiring with graph := graph } ∧ graph.bare = wiring.graph.bare ∧
      graph.HasEdges (edges ++ (done ++ [link]).map fun link =>
        (link.1.rebase (front.length : Int), link.2.rebase (front.length : Int))) := by
  have member : link ∈ fragment.links := split ▸ List.mem_append_right _ List.mem_cons_self
  obtain ⟨output, exits⟩ := Option.isSome_iff_exists.mp (closed.linked _ member)
  obtain ⟨input, enters⟩ := Option.isSome_iff_exists.mp ((closed.targets_iff link.2).mp
    (List.mem_append_left _ (List.mem_map_of_mem member)))
  have behind := Layer.portAmong?_behind exits front
  have behind' := Layer.portAmong?_behind enters front
  rw [← bare] at behind behind'
  have sourcePresent : (wiring.graph.output? (link.1.rebase front.length)).isSome = true :=
    (Graph.isSome_output? _ _).trans (Option.isSome_iff_exists.mpr ⟨_, behind⟩)
  have targetPresent : (wiring.graph.input? (link.2.rebase front.length)).isSome = true :=
    (Graph.isSome_input? _ _).trans (Option.isSome_iff_exists.mpr ⟨_, behind'⟩)
  -- The target stands behind those of earlier fragments, and links of one fragment have different targets.
  have unbound : wiring.graph.sourceOf? (link.2.rebase front.length) = none := by
    rw [Option.eq_none_iff_forall_ne_some]
    intro other bound
    rw [has, List.mem_append] at bound
    rcases bound with old | new
    · have less := low _ old
      have high := (Layer.plain_of_portAmong? _ enters).1
      simp only [PortRef.rebase] at less
      omega
    · obtain ⟨earlier, early, same⟩ := List.mem_map.mp new
      have unique := closed.nodup.of_append_left
      rw [split, List.map_append, List.nodup_append] at unique
      refine unique.2.2 _ (List.mem_map_of_mem early) _ (List.mem_cons_self ..) ?_
      exact PortRef.rebase_inj.mp (congrArg Prod.snd same)
  obtain ⟨graph, wires⟩ := Graph.exists_connect targetPresent sourcePresent unbound
  have step := Graph.connects_of_connect (Layer.plain_of_portAmong? _ behind) (Layer.plain_of_portAmong? _ behind') wires
  exact ⟨graph, yields_connect.mpr ⟨graph, wires, rfl⟩, step.bare, by simpa using has.connects step⟩

/-- The links of a fragment that was just added can be connected. -/
theorem connectLinks_yields (wiring : Wiring) (front : List Layer) {edges : List (PortRef × PortRef)}
    (closed : fragment.Closed) (bare : wiring.graph.bare = front ++ fragment.layers)
    (has : wiring.graph.HasEdges edges) (low : ∀ edge ∈ edges, edge.2.node < front.length) :
    ∃ graph, (connectLinks front.length fragment.links).Yields wiring () { wiring with graph := graph } := by
  have progress := each_progress fragment.links
    (fun link => connect (link.1.rebase front.length) (link.2.rebase front.length)) wiring
    (fun done w => ∃ graph, w = { wiring with graph := graph } ∧ graph.bare = wiring.graph.bare ∧
      graph.HasEdges (edges ++ done.map fun link =>
        (link.1.rebase (front.length : Int), link.2.rebase (front.length : Int)))) ?_ ?_
  · obtain ⟨_, run, graph, rfl, _⟩ := progress
    exact ⟨graph, run⟩
  · exact ⟨wiring.graph, rfl, rfl, by simpa using has⟩
  · rintro done link rest state split ⟨graph, rfl, same, has⟩
    obtain ⟨wired, connected, kept, edged⟩ := connectLink_yields { wiring with graph := graph } closed (same.trans bare)
      split has low
    exact ⟨_, connected, wired, rfl, kept.trans same, edged⟩

/-- A fragment can be appended to every wiring, and nothing is reported. -/
theorem append_yields (closed : fragment.Closed) (wiring : Wiring) (reader : Nat) :
    ∃ next, (Wiring.append reader fragment).Yields wiring () next ∧ next.journal = wiring.journal := by
  have has : wiring.graph.HasEdges wiring.graph.edges := fun _ _ => Graph.mem_edges.symm
  have low : ∀ edge ∈ wiring.graph.edges, edge.2.node < wiring.graph.bare.length := by
    rintro ⟨source, target⟩ member
    obtain ⟨port, present, _⟩ := Option.bind_eq_some_iff.mp (Graph.mem_edges.mp member)
    rw [Graph.length_bare]
    exact Layer.node_lt_of_portAmong? _ present
  obtain ⟨graph, connected⟩ := connectLinks_yields
    { wiring with graph := fragment.layers.foldl Graph.add wiring.graph } wiring.graph.bare closed
    (Graph.bare_addAll closed.fresh _) (has.addAll closed.fresh) low
  rw [Graph.length_bare] at connected
  have step := registers { wiring with graph := graph } reader wiring.graph.size fragment
  refine ⟨_, ?_, step.journal⟩
  unfold Wiring.append
  exact yields_bind.mpr ⟨wiring, wiring, yields_get.mpr ⟨rfl, rfl⟩, yields_bind.mpr ⟨(), _, yields_change.mpr rfl,
    yields_bind.mpr ⟨(), _, connected, yields_change.mpr rfl⟩⟩⟩

end

theorem isSome_portAmong?_front {α : Type} {ports : Layer → List α} {front extra : List Layer}
    {ref : PortRef} (present : (Layer.portAmong? ports front ref).isSome = true) :
    (Layer.portAmong? ports (front ++ extra) ref).isSome = true := by
  obtain ⟨_, found⟩ := Option.isSome_iff_exists.mp present
  rw [Layer.portAmong?_front found]
  rfl

theorem connect_yields (wiring : Wiring) {source target : PortRef}
    (targetPresent : (wiring.graph.input? target).isSome = true)
    (sourcePresent : (wiring.graph.output? source).isSome = true)
    (unbound : wiring.graph.sourceOf? target = none) :
    ∃ graph, (connect source target).Yields wiring () { wiring with graph := graph } := by
  obtain ⟨graph, wires⟩ := Graph.exists_connect targetPresent sourcePresent unbound
  exact ⟨graph, yields_connect.mpr ⟨graph, wires, rfl⟩⟩

section
variable {context : Context} {fragments : List Fragment} {made : List String}
  {edges : List (PortRef × PortRef)} {wiring : Wiring} {name : String} {reader : Nat} {target : PortRef}

/-- A port that waits exists. -/
theorem Bound.read_present (bound : wiring.Bound context fragments made edges)
    (closed : Layout.Closed fragments) (member : (target, (name, reader)) ∈ Layout.reads fragments) :
    (wiring.graph.input? target).isSome = true := by
  obtain ⟨extra, _, bare⟩ := bound.bare
  rw [Graph.isSome_input?, bare]
  exact isSome_portAmong?_front (Layout.read_inside closed member).1

/-- The origin of a read exists once it is noted. -/
theorem Bound.origin_present (bound : wiring.Bound context fragments made edges)
    (closed : Layout.Closed fragments) (noted : Layout.writer? fragments name reader = none → name ∈ made) :
    (wiring.graph.output? (Layout.origin fragments made name reader)).isSome = true := by
  obtain ⟨extra, supplied, bare⟩ := bound.bare
  rw [Graph.isSome_output?, bare]
  unfold Layout.origin
  cases found : Layout.writer? fragments name reader with
  | some source =>
    obtain ⟨writer, written, _⟩ := Layout.writer?_inside closed found
    exact isSome_portAmong?_front (Layout.write_inside closed written).1
  | none =>
    obtain ⟨layer, substitute, present⟩ := Context.exists_substitute supplied (noted found)
    have late : ¬ ((Layout.layers fragments).length + made.idxOf name : Int) <
        (Layout.layers fragments).length := by omega
    have place : (⟨(Layout.layers fragments).length + made.idxOf name, 0⟩ : PortRef).rebase
        (-(Layout.layers fragments).length) = ⟨(made.idxOf name : Nat), (0 : Nat)⟩ := by
      simp only [PortRef.rebase, PortRef.mk.injEq]
      omega
    rw [Option.getD_none, Layer.portAmong?_append, if_neg late, place, Layer.portAmong?_natCast, present]
    -- The layer made up for the variable is a constant or takes data in, so it has one output.
    rcases Context.substitute_cases substitute with ⟨value, _, rfl⟩ | ⟨shape, _, rfl⟩
    · rfl
    · rfl

/-- The port that is to be connected next has no source yet. -/
theorem Bound.unbound {done rest : List (PortRef × (String × Nat))}
    (bound : wiring.Bound context fragments made
      (Layout.links fragments ++ Layout.bindings fragments (Layout.made fragments) done))
    (closed : Layout.Closed fragments)
    (split : Layout.reads fragments = done ++ (target, (name, reader)) :: rest) :
    wiring.graph.sourceOf? target = none := by
  rw [Option.eq_none_iff_forall_ne_some]
  intro source connected
  rw [bound.edges, List.mem_append] at connected
  have unique := (Layout.perm_targets fragments).nodup_iff.mpr (Layout.nodup_targets closed)
  rw [split, List.map_append, List.map_cons, ← List.append_assoc, List.nodup_append] at unique
  refine unique.2.2 target ?_ target (List.mem_cons_self ..) rfl
  rcases connected with linked | read
  · exact List.mem_append_left _ (List.mem_map_of_mem (f := Prod.snd) linked)
  · obtain ⟨entry, early, same⟩ := List.mem_map.mp read
    refine List.mem_append_right _ (List.mem_map.mpr ⟨entry, early, ?_⟩)
    exact congrArg Prod.snd same

/-- A fed input gives way to a payload. -/
theorem Filled.replaceNode_yields {place : Nat} {shape : Shape}
    (filled : wiring.Filled context fragments)
    (input : (Layout.layers fragments)[place]? = some (Layer.input shape)) (value : Tensor) :
    ∃ graph, (replaceNode place (Layer.constant value)).Yields wiring () { wiring with graph := graph } := by
  obtain ⟨old, present, _, single⟩ := filled.fed input
  have picked : Graph.pick wiring.graph.nodes place = .ok (place, old) :=
    (Graph.pick_eq_ok (Int.natCast_nonneg place)).mpr ⟨rfl, present⟩
  obtain ⟨graph, replaced⟩ : ∃ graph, wiring.graph.replace place (Layer.constant value) = .ok graph := by
    have fits : (!(Layer.constant value).inputs.isEmpty ||
        (Layer.constant value).outputs.length != old.outputs.length) = false := by
      rw [single]
      rfl
    unfold Graph.replace
    rw [picked]
    dsimp only [Bind.bind, Except.bind]
    rw [fits]
    exact ⟨_, rfl⟩
  refine ⟨graph, yields_onGraph.mpr ⟨graph, ?_, rfl⟩⟩
  rw [replaced]

/-- A written port exists when its turn comes. -/
theorem Handed.source_present {done : List (String × (Nat × PortRef))} {writer : Nat} {source : PortRef}
    (handed : wiring.Handed context fragments done) (closed : Layout.Closed fragments)
    (member : (name, (writer, source)) ∈ Layout.writes fragments) :
    (wiring.graph.output? source).isSome = true := by
  obtain ⟨front, extra, shapes, refilled, _, _, bare⟩ := handed.bare
  rw [Graph.isSome_output?, bare, List.append_assoc]
  exact isSome_portAmong?_front (refilled.output_present (Layout.write_inside closed member).1)

/-- A new layer that hands out can be connected with a port that exists. -/
theorem connect_new_yields {source : PortRef} (present : (wiring.graph.output? source).isSome = true)
    (declared : Shape) : ∃ next, (connect source ⟨wiring.graph.size, 0⟩).Yields
      { wiring with graph := { wiring.graph.add (Layer.output declared) with
        outputs := wiring.graph.outputs ++ [(wiring.graph.size : Int)] } } () { wiring with graph := next } := by
  refine connect_yields { wiring with graph := { wiring.graph.add (Layer.output declared) with
    outputs := wiring.graph.outputs ++ [(wiring.graph.size : Int)] } } ?_ ?_ ?_
  · have first : (⟨wiring.graph.size, 0⟩ : PortRef).rebase (-wiring.graph.size) = ⟨0, 0⟩ := by
      rw [PortRef.rebase, Int.add_right_neg]
    change ((wiring.graph.add (Layer.output declared)).input? ⟨wiring.graph.size, 0⟩).isSome = true
    rw [Graph.input?_add, if_neg (Int.lt_irrefl _), first]
    rfl
  · exact isSome_portAmong?_front present
  · -- The port is a new one, and no reference beyond the layers is bound.
    have unbound : (wiring.graph.add (Layer.output declared)).sourceOf? ⟨wiring.graph.size, 0⟩ =
        wiring.graph.sourceOf? ⟨wiring.graph.size, 0⟩ := Graph.sourceOf?_add (Layer.fresh_output declared) _
    change (wiring.graph.add (Layer.output declared)).sourceOf? ⟨wiring.graph.size, 0⟩ = none
    rw [unbound, Graph.sourceOf?]
    cases found : wiring.graph.input? ⟨wiring.graph.size, 0⟩ with
    | none => rfl
    | some port =>
      have low := Graph.node_lt_of_input? (Option.isSome_iff_exists.mpr ⟨port, found⟩)
      exact absurd low (Int.lt_irrefl _)

end

end Wiring

end LayerGraph
