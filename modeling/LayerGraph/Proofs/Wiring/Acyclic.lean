import LayerGraph.Proofs.Graph.Order
import LayerGraph.Proofs.Wiring.Sequential

/-! Graphs of ordered blocks have no cycles.

The layers of operators follow each other in the order of the data, and boundary layers that hand out
come after them. Only the layers made up stand behind their readers, and they have no sources. The
rank that puts these first and keeps the order of the others grows along every connection.
-/

set_option autoImplicit false

namespace LayerGraph

/-- The rank of a layer: those made up come first, the others by number. -/
def Layout.rank (fragments : List Fragment) (place : Nat) : Nat :=
  if (layers fragments).length ≤ place ∧
      place < (layers fragments).length + (made fragments).length then 0 else place + 1

/-- The rank grows from the layers of operators forward, unless to a layer made up. -/
theorem Layout.rank_lt_of_lt {fragments : List Fragment} {earlier later : Nat}
    (first : earlier < (layers fragments).length) (less : earlier < later)
    (outside : later < (layers fragments).length ∨
      (layers fragments).length + (made fragments).length ≤ later) :
    rank fragments earlier < rank fragments later := by
  have low : rank fragments earlier = earlier + 1 := if_neg fun both => by omega
  have high : rank fragments later = later + 1 := if_neg fun both => by omega
  omega

theorem Layout.rank_made_lt {fragments : List Fragment} {place later : Nat}
    (first : (layers fragments).length ≤ place)
    (last : place < (layers fragments).length + (made fragments).length)
    (inside : later < (layers fragments).length) : rank fragments place < rank fragments later := by
  have low : rank fragments place = 0 := if_pos ⟨first, last⟩
  have high : rank fragments later = later + 1 := if_neg fun both => by omega
  omega

section
variable {context : Context} {fragments : List Fragment} {graph : Graph}

theorem Assembled.le_size (assembled : Assembled context fragments graph) :
    (Layout.layers fragments).length + (Layout.made fragments).length ≤ graph.size := by
  obtain ⟨front, extra, shapes, refilled, supplied, _, bare⟩ := assembled.bare
  have lengths := congrArg List.length supplied
  rw [List.length_map, List.length_map] at lengths
  rw [← Graph.length_bare, bare, List.length_append, List.length_append, refilled.length, lengths]
  exact Nat.le_add_right _ _

/-- In an ordered block the rank grows from the source of a read to the reader. -/
theorem Assembled.rank_lt_of_binding (assembled : Assembled context fragments graph)
    (ordered : context.block.Ordered) {source target : PortRef}
    (member : (source, target) ∈
      Layout.bindings fragments (Layout.made fragments) (Layout.reads fragments)) :
    ∃ earlier later : Nat, source.node = (earlier : Int) ∧ target.node = (later : Int) ∧
      earlier < graph.size ∧ Layout.rank fragments earlier < Layout.rank fragments later := by
  obtain ⟨⟨port, name, reader⟩, read, same⟩ := List.mem_map.mp member
  cases same
  have inside := (Layout.read_inside assembled.closed read).2
  have whole := Layout.offset_le fragments (reader + 1)
  have size := assembled.le_size
  obtain ⟨slot, reads, rfl⟩ := (Layout.mem_reads_iff assembled.lowered).mp read
  obtain ⟨supplier, supplies, _⟩ :=
    Layout.exists_supplier assembled.lowered assembled.closed name reader
  rw [Layout.origin_of_supplier assembled.lowered assembled.closed supplies]
  cases supplies with
  | earlier writer before writes last =>
    have port := (Layout.write_inside assembled.closed
      ((Layout.mem_writes_iff assembled.lowered).mpr ⟨writes, rfl⟩)).2
    have apart : Layout.offset fragments (writer + 1) ≤ Layout.offset fragments reader :=
      Layout.offset_mono before
    dsimp only [Layout.supplied]
    refine ⟨(Layout.exit fragments writer).node.toNat, (Layout.entry fragments reader slot).node.toNat,
      ?_, ?_, ?_, Layout.rank_lt_of_lt ?_ ?_ (.inl ?_)⟩ <;> omega
  | later writer unwritten after writes first =>
    -- In an ordered block a later writer comes second to an earlier one.
    obtain ⟨earlier, before, written⟩ := ordered reader slot name writer reads after writes
    exact absurd written (unwritten earlier before)
  | nobody unwritten =>
    have made : name ∈ Layout.made fragments := (Layout.mem_made assembled.lowered
      assembled.closed).mpr ⟨reader, slot, reads, .nobody unwritten⟩
    have place := List.idxOf_lt_length_iff.mpr made
    exact ⟨(Layout.layers fragments).length + (Layout.made fragments).idxOf name,
      Layout.offset fragments reader, rfl, rfl, by omega,
      Layout.rank_made_lt (Nat.le_add_right _ _) (by omega) (by omega)⟩

/-- In an ordered block the rank grows along every connection. -/
theorem Assembled.ranked (assembled : Assembled context fragments graph)
    (ordered : context.block.Ordered) : graph.Ranked (Layout.rank fragments) := by
  intro source target edge
  have size := assembled.le_size
  have member := (assembled.edges source target).mp (Graph.mem_edges.mp edge)
  rcases List.mem_append.mp member with operators | exposed
  · rcases List.mem_append.mp operators with linked | bound
    · have inside := Layout.link_inside assembled.closed linked
      refine ⟨source.node.toNat, target.node.toNat, ?_, ?_, ?_,
        Layout.rank_lt_of_lt ?_ ?_ (.inl ?_)⟩ <;> omega
    · exact assembled.rank_lt_of_binding ordered bound
  · obtain ⟨index, name, writer, here, rfl⟩ := Layout.mem_exposures.mp exposed
    have written := List.mem_of_mem_filter (List.mem_of_getElem? here)
    have inside := (Layout.write_inside assembled.closed written).2
    have whole := Layout.offset_le fragments (writer + 1)
    refine ⟨source.node.toNat, _, ?_, rfl, ?_, Layout.rank_lt_of_lt ?_ ?_ (.inr ?_)⟩ <;> omega

/-- The graph of an ordered block has no cycles, and its dependency order takes every node once and
the source of every connection before the target. -/
theorem acyclic_of_resolve {threshold : Int} (ordered : context.block.Ordered)
    (resolved : context.resolve threshold = .ok graph) : graph.isAcyclic = true ∧
      graph.topologicalOrder.Perm (List.range graph.size) ∧
      ∀ source target, (source, target) ∈ graph.edges → ∃ earlier later : Nat,
        source.node = (earlier : Int) ∧ target.node = (later : Int) ∧
        graph.topologicalOrder.idxOf earlier < graph.topologicalOrder.idxOf later := by
  obtain ⟨fragments, assembled⟩ := assembled_of_resolve resolved
  have ranked := assembled.ranked ordered
  refine ⟨ranked.isAcyclic, ?_, fun source target edge => ranked.idxOf_lt edge⟩
  rw [ranked.topologicalOrder]
  exact ranked.perm_range

theorem acyclic_rectifierGraph : rectifier.block.Ordered ∧
    rectifier.resolve = .ok rectifierGraph ∧ rectifierGraph.isAcyclic = true :=
  ⟨ordered_rectifier, resolve_rectifier, (acyclic_of_resolve ordered_rectifier resolve_rectifier).1⟩

end

end LayerGraph
