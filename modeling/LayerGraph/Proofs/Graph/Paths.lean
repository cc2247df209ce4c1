import LayerGraph.Proofs.Graph.Consistency
import LayerGraph.Proofs.Graph.Order
import Mathlib.Data.Finset.Lattice.Fold
import Mathlib.Logic.Relation

/-! Paths along the connections of a graph.

A graph without cycles has a rank, the number of nodes that a node is reached from, and only a graph without
cycles has one. Along a rank every walk comes to an end, backwards and forwards, so a walk that can always go on
except at some nodes comes to one of these.
-/

set_option autoImplicit false

namespace LayerGraph.Graph

/-- A connection goes from one node to another. -/
def Leads (graph : Graph) (earlier later : Nat) : Prop :=
  ∃ source target, (source, target) ∈ graph.edges ∧ source.node = (earlier : Int) ∧ target.node = (later : Int)

/-- No path comes back to the node that it starts at. -/
def Acyclic (graph : Graph) : Prop := ∀ place, ¬ Relation.TransGen graph.Leads place place

/-- The sources of connections are nodes. -/
def Sourced (graph : Graph) : Prop :=
  ∀ source target, (source, target) ∈ graph.edges → 0 ≤ source.node ∧ source.node < graph.size

section
variable {graph : Graph} {earlier later place : Nat}

theorem Consistent.sourced (consistent : graph.Consistent) : graph.Sourced := by
  intro source target edge
  have consumes := (consistent.consumes_iff source target).mpr (mem_edges.mp edge)
  obtain ⟨port, present⟩ := Option.isSome_iff_exists.mp (isSome_output?_of_mem_consumersOf consumes)
  exact ⟨(Layer.plain_of_portAmong? _ present).1, Layer.node_lt_of_portAmong? _ present⟩

theorem Leads.target_lt (leads : graph.Leads earlier later) : later < graph.size := by
  obtain ⟨source, target, edge, _, enters⟩ := leads
  have inside : 0 ≤ target.node ∧ target.node < graph.size := edge_inside edge
  omega

theorem Leads.source_lt (leads : graph.Leads earlier later) (sourced : graph.Sourced) : earlier < graph.size := by
  obtain ⟨source, target, edge, exits, _⟩ := leads
  have inside := sourced source target edge
  omega

/-- The nodes that a path leads to a node from. -/
noncomputable def ancestors (graph : Graph) (place : Nat) : Finset Nat :=
  open Classical in (Finset.range graph.size).filter fun earlier => Relation.TransGen graph.Leads earlier place

theorem mem_ancestors : earlier ∈ graph.ancestors place ↔
    earlier < graph.size ∧ Relation.TransGen graph.Leads earlier place := by
  simp only [ancestors, Finset.mem_filter, Finset.mem_range]

/-- A node that is on no cycle has fewer ancestors than the nodes that it leads to. -/
theorem Leads.card_ancestors_lt (leads : graph.Leads earlier later) (sourced : graph.Sourced)
    (outside : ¬ Relation.TransGen graph.Leads earlier earlier) :
    (graph.ancestors earlier).card < (graph.ancestors later).card := by
  refine Finset.card_lt_card ((Finset.ssubset_iff_of_subset fun place member => ?_).mpr
    ⟨earlier, mem_ancestors.mpr ⟨leads.source_lt sourced, .single leads⟩, fun member => ?_⟩)
  · obtain ⟨inside, reaches⟩ := mem_ancestors.mp member
    exact mem_ancestors.mpr ⟨inside, reaches.tail leads⟩
  · exact outside (mem_ancestors.mp member).2

/-- Without cycles the number of ancestors grows along every connection. -/
theorem Acyclic.ranked (acyclic : graph.Acyclic) (sourced : graph.Sourced) :
    graph.Ranked fun place => (graph.ancestors place).card := by
  intro source target edge
  have exits := sourced source target edge
  have enters : 0 ≤ target.node ∧ target.node < graph.size := edge_inside edge
  have leads : graph.Leads source.node.toNat target.node.toNat :=
    ⟨source, target, edge, (Int.toNat_of_nonneg exits.1).symm, (Int.toNat_of_nonneg enters.1).symm⟩
  exact ⟨source.node.toNat, target.node.toNat, (Int.toNat_of_nonneg exits.1).symm,
    (Int.toNat_of_nonneg enters.1).symm, by omega, leads.card_ancestors_lt sourced (acyclic _)⟩

section
variable {rank : Nat → Nat}

theorem Ranked.lt_of_leads (ranked : graph.Ranked rank) (leads : graph.Leads earlier later) :
    rank earlier < rank later := by
  obtain ⟨source, target, edge, exits, enters⟩ := leads
  obtain ⟨first, last, starts, ends, _, grows⟩ := ranked source target edge
  obtain rfl : first = earlier := by omega
  obtain rfl : last = later := by omega
  exact grows

theorem Ranked.acyclic (ranked : graph.Ranked rank) : graph.Acyclic := by
  have grows : ∀ {first last : Nat}, Relation.TransGen graph.Leads first last → rank first < rank last := by
    intro first last path
    induction path with
    | single leads => exact ranked.lt_of_leads leads
    | tail _ leads before => exact before.trans (ranked.lt_of_leads leads)
  exact fun place cycle => Nat.lt_irrefl _ (grows cycle)

/-- A walk backwards comes to a node of some kind, where it can go on from all others. -/
theorem Ranked.exists_first (ranked : graph.Ranked rank) {Starts : Nat → Prop}
    (steps : ∀ place < graph.size, Starts place ∨ ∃ earlier < graph.size, graph.Leads earlier place)
    (inside : place < graph.size) : ∃ first, Starts first ∧ Relation.ReflTransGen graph.Leads first place := by
  induction number : rank place using Nat.strongRecOn generalizing place with
  | ind number ih =>
    rcases steps place inside with starts | ⟨earlier, below, leads⟩
    · exact ⟨place, starts, .refl⟩
    · obtain ⟨first, starts, path⟩ := ih (rank earlier) (number ▸ ranked.lt_of_leads leads) below rfl
      exact ⟨first, starts, path.tail leads⟩

/-- A walk forwards comes to a node of some kind, where it can go on from all others. -/
theorem Ranked.exists_last (ranked : graph.Ranked rank) {Ends : Nat → Prop}
    (steps : ∀ place < graph.size, Ends place ∨ ∃ later, graph.Leads place later)
    (inside : place < graph.size) : ∃ last, Ends last ∧ Relation.ReflTransGen graph.Leads place last := by
  -- The ranks of the nodes have a greatest one, and the walk comes closer to it.
  have bounded : ∀ place < graph.size, rank place ≤ (Finset.range graph.size).sup rank :=
    fun place below => Finset.le_sup (Finset.mem_range.mpr below)
  induction distance : (Finset.range graph.size).sup rank - rank place using Nat.strongRecOn generalizing place with
  | ind distance ih =>
    rcases steps place inside with ends | ⟨later, leads⟩
    · exact ⟨place, ends, .refl⟩
    · have below := leads.target_lt
      have grows := ranked.lt_of_leads leads
      have high := bounded later below
      obtain ⟨last, ends, path⟩ := ih _ (by omega) below rfl
      exact ⟨last, ends, path.head leads⟩

end

/-- The places of nodes in a dependency order that takes every node. -/
theorem ranked_of_isAcyclic (acyclic : graph.isAcyclic = true) :
    graph.Ranked fun place => graph.orderable.idxOf place := by
  have all : ∀ place < graph.size, place ∈ graph.orderable := by
    -- As many different nodes are taken as there are.
    have subset : graph.orderable ⊆ List.range graph.size :=
      fun place member => List.mem_range.mpr (mem_orderable.mp member).1
    have counted : (List.range graph.size).length ≤ graph.orderable.length := by
      rw [List.length_range]
      exact (of_decide_eq_true acyclic).ge
    have perm := (nodup_orderable.subperm subset).perm_of_length_le counted
    exact fun place inside => perm.mem_iff.mpr (List.mem_range.mpr inside)
  intro source target edge
  have enters : 0 ≤ target.node ∧ target.node < graph.size := edge_inside edge
  obtain ⟨earlier, later, starts, ends, member, before⟩ := idxOf_lt_of_mem_orderable edge (all _ (by omega))
  exact ⟨earlier, later, starts, ends, (mem_orderable.mp member).1, before⟩

/-- The dependency order takes every node exactly if no path comes back. -/
theorem isAcyclic_iff (sourced : graph.Sourced) : graph.isAcyclic = true ↔ graph.Acyclic :=
  ⟨fun ordered => (ranked_of_isAcyclic ordered).acyclic,
    fun acyclic => (acyclic.ranked sourced).isAcyclic⟩

end

end LayerGraph.Graph
