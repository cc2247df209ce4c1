import LayerGraph.Proofs.Graph.Paths

/-! What cycles hold back.

A node is held back if it is on a cycle or a path comes to it from one. The dependency order takes every other node: the
sources of such a node are not held back either, and they have fewer ancestors. It takes no node that is held back,
because along a cycle the sources would stand before themselves.
-/

set_option autoImplicit false

namespace LayerGraph.Graph

/-- A node on a cycle, or one that a path comes to from a cycle. -/
def HeldBack (graph : Graph) (place : Nat) : Prop :=
  ∃ start, Relation.TransGen graph.Leads start start ∧ Relation.ReflTransGen graph.Leads start place

section
variable {graph : Graph} {earlier later place : Nat}

theorem HeldBack.leads (held : graph.HeldBack earlier) (leads : graph.Leads earlier later) :
    graph.HeldBack later := by
  obtain ⟨start, cycle, path⟩ := held
  exact ⟨start, cycle, path.tail leads⟩

theorem Leads.idxOf_lt (leads : graph.Leads earlier later) (ordered : later ∈ graph.orderable) :
    earlier ∈ graph.orderable ∧ graph.orderable.idxOf earlier < graph.orderable.idxOf later := by
  obtain ⟨source, target, edge, exits, enters⟩ := leads
  obtain ⟨first, last, starts, ends, member, before⟩ := idxOf_lt_of_mem_orderable edge (by simpa [enters] using ordered)
  obtain rfl : first = earlier := by omega
  obtain rfl : last = later := by omega
  exact ⟨member, before⟩

/-- All of a path to a node in the order is in the order, one node after the other. -/
theorem idxOf_lt_of_path (path : Relation.TransGen graph.Leads earlier later) (ordered : later ∈ graph.orderable) :
    earlier ∈ graph.orderable ∧ graph.orderable.idxOf earlier < graph.orderable.idxOf later := by
  induction path with
  | single leads => exact leads.idxOf_lt ordered
  | tail _ leads ih =>
    obtain ⟨middle, after⟩ := leads.idxOf_lt ordered
    obtain ⟨member, before⟩ := ih middle
    exact ⟨member, before.trans after⟩

theorem not_heldBack_of_mem_orderable (ordered : place ∈ graph.orderable) : ¬ graph.HeldBack place := by
  rintro ⟨start, cycle, path⟩
  have first : start ∈ graph.orderable := by
    rcases Relation.reflTransGen_iff_eq_or_transGen.mp path with rfl | path
    · exact ordered
    · exact (idxOf_lt_of_path path ordered).1
  exact Nat.lt_irrefl _ (idxOf_lt_of_path cycle first).2

theorem mem_orderable_of_not_heldBack (sourced : graph.Sourced) (inside : place < graph.size)
    (free : ¬ graph.HeldBack place) : place ∈ graph.orderable := by
  -- The sources of a node have fewer ancestors, because none of them is on a cycle.
  induction count : (graph.ancestors place).card using Nat.strongRecOn generalizing place with
  | ind number ih =>
    refine mem_orderable.mpr ⟨inside, fun source target edge enters => ?_⟩
    have exits := sourced source target edge
    have same : source.node = (source.node.toNat : Int) := (Int.toNat_of_nonneg exits.1).symm
    have leads : graph.Leads source.node.toNat place := ⟨source, target, edge, same, enters⟩
    have released : ¬ graph.HeldBack source.node.toNat := fun held => free (held.leads leads)
    have fewer : (graph.ancestors source.node.toNat).card < number :=
      count ▸ leads.card_ancestors_lt sourced fun cycle => released ⟨_, cycle, .refl⟩
    exact ⟨source.node.toNat, ih _ fewer (by omega) released rfl, same⟩

/-- The order takes exactly the nodes that no cycle holds back. -/
theorem mem_orderable_iff_not_heldBack (sourced : graph.Sourced) :
    place ∈ graph.orderable ↔ place < graph.size ∧ ¬ graph.HeldBack place :=
  ⟨fun ordered => ⟨(mem_orderable.mp ordered).1, not_heldBack_of_mem_orderable ordered⟩,
    fun both => mem_orderable_of_not_heldBack sourced both.1 both.2⟩

/-- The search for an order finds every node once that no cycle holds back, and nothing else. So it finds all nodes
exactly if there is no cycle. -/
theorem cycles_detected (sourced : graph.Sourced) :
    graph.orderable.Nodup ∧
      (∀ place, place ∈ graph.orderable ↔ place < graph.size ∧ ¬ graph.HeldBack place) ∧
      (graph.isAcyclic = true ↔ ¬ ∃ place, Relation.TransGen graph.Leads place place) := by
  refine ⟨nodup_orderable, fun place => mem_orderable_iff_not_heldBack sourced, ?_⟩
  rw [isAcyclic_iff sourced, not_exists]
  rfl

/-- The nodes that the search leaves over, by number. -/
def leftOver (graph : Graph) : List Nat :=
  (List.range graph.size).filter fun place => !graph.orderable.contains place

theorem topologicalOrder_eq : graph.topologicalOrder = graph.orderable ++ graph.leftOver := rfl

theorem mem_leftOver : place ∈ graph.leftOver ↔ place < graph.size ∧ place ∉ graph.orderable := by
  simp [leftOver]

theorem perm_topologicalOrder : graph.topologicalOrder.Perm (List.range graph.size) := by
  rw [topologicalOrder_eq]
  have unique : (graph.orderable ++ graph.leftOver).Nodup := by
    refine List.nodup_append.mpr ⟨nodup_orderable, List.nodup_range.filter _, ?_⟩
    rintro place ordered _ left rfl
    exact (mem_leftOver.mp left).2 ordered
  refine (List.perm_ext_iff_of_nodup unique List.nodup_range).mpr fun place => ?_
  rw [List.mem_append, mem_leftOver, List.mem_range]
  constructor
  · rintro (ordered | ⟨inside, _⟩)
    · exact (mem_orderable.mp ordered).1
    · exact inside
  · intro inside
    by_cases ordered : place ∈ graph.orderable
    · exact .inl ordered
    · exact .inr ⟨inside, ordered⟩

/-- The dependency order has every node once. A node that no cycle holds back stands behind the nodes that lead to it,
and the nodes that are held back come last, by number. -/
theorem topologicalOrder_sorted (sourced : graph.Sourced) :
    graph.topologicalOrder.Perm (List.range graph.size) ∧
      (∀ earlier later, graph.Leads earlier later → ¬ graph.HeldBack later →
        graph.topologicalOrder.idxOf earlier < graph.topologicalOrder.idxOf later) ∧
      ∃ front back, graph.topologicalOrder = front ++ back ∧
        (∀ place ∈ front, ¬ graph.HeldBack place) ∧ (∀ place ∈ back, graph.HeldBack place) ∧
        back.Pairwise (· < ·) := by
  refine ⟨perm_topologicalOrder, fun earlier later leads free => ?_, graph.orderable, graph.leftOver,
    topologicalOrder_eq, fun place => not_heldBack_of_mem_orderable, fun place left => ?_, ?_⟩
  · have ordered := mem_orderable_of_not_heldBack sourced leads.target_lt free
    obtain ⟨member, before⟩ := leads.idxOf_lt ordered
    rw [topologicalOrder_eq, List.idxOf_append_of_mem member, List.idxOf_append_of_mem ordered]
    exact before
  · obtain ⟨inside, missing⟩ := mem_leftOver.mp left
    by_contra free
    exact missing (mem_orderable_of_not_heldBack sourced inside free)
  · exact List.pairwise_lt_range.filter _

end

/-- A node that feeds itself holds back another one, and an input is read twice by an addition. -/
def entangled : Graph where
  nodes := [⟨.relu, [⟨"input", [2], some ⟨1, 0⟩⟩], [⟨"output", [2], [⟨2, 0⟩, ⟨2, 1⟩]⟩]⟩,
    ⟨.input, [], [⟨"output", [2], [⟨0, 0⟩]⟩]⟩,
    ⟨.add (-1), [⟨"a", [2], some ⟨0, 0⟩⟩, ⟨"b", [2], some ⟨0, 0⟩⟩], [⟨"output", [2], [⟨4, 1⟩]⟩]⟩,
    ⟨.relu, [⟨"input", [2], some ⟨4, 0⟩⟩], [⟨"output", [2], []⟩]⟩,
    ⟨.add (-1), [⟨"a", [2], some ⟨4, 0⟩⟩, ⟨"b", [2], some ⟨2, 0⟩⟩], [⟨"output", [2], [⟨4, 0⟩, ⟨3, 0⟩]⟩]⟩]

theorem sourced_entangled : entangled.Sourced := by
  have all : ∀ edge ∈ entangled.edges, 0 ≤ edge.1.node ∧ edge.1.node < entangled.size := by decide
  exact fun source target edge => all (source, target) edge

theorem cycles_detected_entangled : entangled.Sourced ∧ entangled.isAcyclic = false ∧
    (∀ place, place ∈ [1, 0, 2] ↔ place < 5 ∧ ¬ entangled.HeldBack place) ∧
    ∃ place, Relation.TransGen entangled.Leads place place := by
  obtain ⟨_, members, acyclic⟩ := cycles_detected sourced_entangled
  have stuck : entangled.isAcyclic = false := by decide
  refine ⟨sourced_entangled, stuck, members, ?_⟩
  by_contra none
  exact absurd (acyclic.mpr none) (by rw [stuck]; decide)

theorem topologicalOrder_entangled : entangled.Sourced ∧ entangled.topologicalOrder = [1, 0, 2, 3, 4] ∧
    ∃ front back, [1, 0, 2, 3, 4] = front ++ back ∧ (∀ place ∈ front, ¬ entangled.HeldBack place) ∧
      (∀ place ∈ back, entangled.HeldBack place) ∧ back.Pairwise (· < ·) := by
  obtain ⟨_, _, front, back, split, parts⟩ := topologicalOrder_sorted sourced_entangled
  have order : entangled.topologicalOrder = [1, 0, 2, 3, 4] := by decide
  exact ⟨sourced_entangled, order, front, back, order ▸ split, parts⟩

end LayerGraph.Graph
