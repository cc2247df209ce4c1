import LayerGraph.Graph.Order
import LayerGraph.Proofs.Graph.Ports
import Mathlib.Data.List.Basic
import Mathlib.Data.List.Perm.Subperm

/-! The dependency order takes every node that no cycle holds back, after its sources.

The invariant of the walk counts, for every node, the connections whose source was not taken yet. A
node was taken or waits in the queue exactly when this count is zero. A rank that grows along every
connection therefore makes the walk complete.
-/

set_option autoImplicit false

namespace LayerGraph.Graph

/-- Connections as pairs of source and target. -/
abbrev Edges := List (PortRef × PortRef)

/-- The number of connections into a node whose source is not among the nodes done. -/
def remaining (edges : Edges) (done : List Nat) (place : Nat) : Nat :=
  edges.countP fun edge =>
    edge.2.node = (place : Int) ∧ ∀ earlier ∈ done, edge.1.node ≠ (earlier : Int)

theorem remaining_cons (source target : PortRef) (edges : Edges) (done : List Nat) (place : Nat) :
    remaining ((source, target) :: edges) done place = remaining edges done place +
      if target.node = (place : Int) ∧ ∀ earlier ∈ done, source.node ≠ (earlier : Int) then 1
      else 0 := by
  unfold remaining
  rw [List.countP_cons]
  simp only [decide_eq_true_eq]

theorem remaining_eq_zero {edges : Edges} {done : List Nat} {place : Nat} :
    remaining edges done place = 0 ↔ ∀ source target, (source, target) ∈ edges →
      target.node = (place : Int) → ∃ earlier ∈ done, source.node = (earlier : Int) := by
  unfold remaining
  rw [List.countP_eq_zero]
  constructor
  · intro none source target member into
    have released := none _ member
    simpa [into] using released
  · rintro all ⟨source, target⟩ member waits
    obtain ⟨into, unreleased⟩ := of_decide_eq_true waits
    obtain ⟨earlier, isDone, same⟩ := all source target member into
    exact unreleased earlier isDone same

theorem count_targetsFrom_cons (source target : PortRef) (edges : Edges) (taken place : Nat) :
    (targetsFrom ((source, target) :: edges) taken).count place =
      (targetsFrom edges taken).count place +
        if source.node = (taken : Int) ∧ target.node.toNat = place then 1 else 0 := by
  unfold targetsFrom
  rw [List.filterMap_cons]
  by_cases leaves : source.node = (taken : Int)
  · simp only [leaves, if_true, true_and, List.count_cons, beq_iff_eq]
  · simp only [leaves, if_false, false_and, Nat.add_zero]

/-- Taking a node releases one connection for every target that it feeds. -/
theorem remaining_append {edges : Edges} {done : List Nat} {taken : Nat} (new : taken ∉ done)
    (nonneg : ∀ edge ∈ edges, 0 ≤ edge.2.node) (place : Nat) :
    remaining edges done place =
      remaining edges (done ++ [taken]) place + (targetsFrom edges taken).count place := by
  induction edges with
  | nil => rfl
  | cons edge edges ih =>
    obtain ⟨source, target⟩ := edge
    have rest := ih fun other member => nonneg other (List.mem_cons_of_mem _ member)
    have into : target.node.toNat = place ↔ target.node = (place : Int) := by
      have := nonneg (source, target) List.mem_cons_self
      simp only at this
      omega
    rw [remaining_cons, remaining_cons, count_targetsFrom_cons, rest]
    simp only [into, List.forall_mem_append, List.forall_mem_singleton]
    by_cases leaves : source.node = (taken : Int)
    · -- The source was not done before, and it is now.
      have before : ∀ earlier ∈ done, source.node ≠ (earlier : Int) := by
        intro earlier member same
        have equal : taken = earlier := by omega
        exact new (equal ▸ member)
      by_cases enters : target.node = (place : Int)
      · simp only [leaves, enters, ne_eq, not_true_eq_false, and_false, if_false, and_self,
          if_true, true_and]
        rw [if_pos fun earlier member same => before earlier member (leaves.trans same)]
        omega
      · simp only [enters, false_and, and_false, if_false]
        omega
    · simp only [leaves, ne_eq, not_false_eq_true, and_true, false_and, if_false]
      omega

section
variable {waiting : Waiting} {queue : List Nat} {target : Nat}

theorem releaseOne_last (found : waiting[target]? = some 1) :
    releaseOne (waiting, queue) target = (waiting.set target 0, queue ++ [target]) := by
  unfold releaseOne
  rw [found]
  rfl

theorem releaseOne_more {number : Nat} (found : waiting[target]? = some (number + 2)) :
    releaseOne (waiting, queue) target = (waiting.set target (number + 1), queue) := by
  unfold releaseOne
  rw [found]
  rfl

end

/-- The state of a walk: how many connections into each node wait, what was taken, what is next. -/
structure Draining (size : Nat) (done : List Nat) (counts : Nat → Nat) (waiting : Waiting)
    (queue : List Nat) : Prop where
  waits : ∀ place < size, waiting[place]? = some (counts place)
  unique : (done ++ queue).Nodup
  mem_iff : ∀ place, place ∈ done ++ queue ↔ place < size ∧ counts place = 0

namespace Draining

variable {size : Nat} {done queue : List Nat} {waiting : Waiting}

/-- One release brings the counts one step closer to the final ones. -/
theorem release {final : Nat → Nat} {target : Nat} {targets : List Nat} (inside : target < size)
    (state : Draining size done (fun place => final place + (target :: targets).count place) waiting queue) :
    Draining size done (fun place => final place + targets.count place)
      (releaseOne (waiting, queue) target).1 (releaseOne (waiting, queue) target).2 := by
  have found := state.waits target inside
  have bound := (List.getElem?_eq_some_iff.mp found).1
  have other : ∀ place, place ≠ target → (target :: targets).count place = targets.count place :=
    fun place different => List.count_cons_of_ne (Ne.symm different)
  rw [List.count_cons_self] at found
  have waits : ∀ number, final target + targets.count target = number → ∀ place < size,
      (waiting.set target number)[place]? = some (final place + targets.count place) := by
    intro number left place below
    by_cases same : place = target
    · rw [same, List.getElem?_set_self bound, left]
    · rw [List.getElem?_set_ne (Ne.symm same), state.waits place below, other place same]
  have absent : target ∉ done ++ queue := by
    rw [state.mem_iff, List.count_cons_self]
    omega
  cases left : final target + targets.count target with
  | zero =>
    -- The last connection into the node: it joins the queue, where it was not yet.
    rw [← Nat.add_assoc, left] at found
    rw [releaseOne_last found]
    refine ⟨waits 0 left, ?_, fun place => ?_⟩
    · rw [← List.append_assoc, List.nodup_append]
      refine ⟨state.unique, by simp, ?_⟩
      rintro place member _ (single : _ ∈ [target]) rfl
      exact absent (List.mem_singleton.mp single ▸ member)
    · rw [← List.append_assoc, List.mem_append, state.mem_iff, List.mem_singleton]
      by_cases same : place = target
      · subst same
        simp [inside, left]
      · rw [other place same]
        simp [same]
  | succ number =>
    rw [← Nat.add_assoc, left] at found
    rw [releaseOne_more found]
    refine ⟨waits (number + 1) left, state.unique, fun place => ?_⟩
    rw [state.mem_iff]
    by_cases same : place = target
    · subst same
      rw [List.count_cons_self]
      omega
    · rw [other place same]

theorem releaseAll {final : Nat → Nat} (targets : List Nat) (inside : ∀ target ∈ targets, target < size)
    (state : Draining size done (fun place => final place + targets.count place) waiting queue) :
    Draining size done final (targets.foldl releaseOne (waiting, queue)).1
      (targets.foldl releaseOne (waiting, queue)).2 := by
  induction targets generalizing waiting queue with
  | nil => simpa using state
  | cons target targets ih =>
    have next := state.release (inside target List.mem_cons_self)
    exact ih (fun other member => inside other (List.mem_cons_of_mem _ member)) next

/-- Taking the next node and releasing its targets. -/
theorem take {edges : Edges} {taken : Nat}
    (inside : ∀ edge ∈ edges, 0 ≤ edge.2.node ∧ edge.2.node < size)
    (state : Draining size done (remaining edges done) waiting (taken :: queue)) :
    Draining size (done ++ [taken]) (remaining edges (done ++ [taken]))
      ((targetsFrom edges taken).foldl releaseOne (waiting, queue)).1
      ((targetsFrom edges taken).foldl releaseOne (waiting, queue)).2 := by
  have shift : (done ++ [taken]) ++ queue = done ++ taken :: queue := by simp
  have new : taken ∉ done := by
    have unique := state.unique
    rw [List.nodup_append] at unique
    exact fun member => unique.2.2 taken member taken List.mem_cons_self rfl
  have counts := funext (remaining_append new fun edge member => (inside edge member).1)
  -- The connections that leave the node are those that taking it releases.
  apply releaseAll
  · intro target member
    obtain ⟨⟨source, ref⟩, isEdge, found⟩ := List.mem_filterMap.mp member
    dsimp only at found
    split at found
    · cases found
      have bounds := inside _ isEdge
      simp only at bounds
      omega
    · cases found
  · rw [← counts]
    exact ⟨state.waits, shift ▸ state.unique, fun place => shift ▸ state.mem_iff place⟩

/-- What a whole walk comes to, after the nodes that are done already. -/
structure Drained (edges : Edges) (size : Nat) (done order : List Nat) : Prop where
  unique : (done ++ order).Nodup
  mem_iff : ∀ place,
    place ∈ done ++ order ↔ place < size ∧ remaining edges (done ++ order) place = 0
  precedes : ∀ front place back, order = front ++ place :: back →
    remaining edges (done ++ front) place = 0

theorem length_le {counts : Nat → Nat} (state : Draining size done counts waiting queue) :
    (done ++ queue).length ≤ size := by
  have subset : done ++ queue ⊆ List.range size := by
    intro place member
    exact List.mem_range.mpr ((state.mem_iff place).mp member).1
  simpa using (state.unique.subperm subset).length_le

/-- When all nodes are done, none can wait. -/
theorem queue_eq_nil {counts : Nat → Nat} (state : Draining size done counts waiting queue)
    (all : size ≤ done.length) : queue = [] := by
  have short := state.length_le
  rw [List.length_append] at short
  exact List.length_eq_zero_iff.mp (by omega)

theorem drained {edges : Edges} (fuel : Nat)
    (inside : ∀ edge ∈ edges, 0 ≤ edge.2.node ∧ edge.2.node < size)
    (enough : size ≤ done.length + fuel)
    (state : Draining size done (remaining edges done) waiting queue) :
    Drained edges size done (drain edges fuel waiting queue) := by
  -- Every turn takes one node, so the fuel that is left covers the nodes that are not done.
  induction fuel generalizing done waiting queue with
  | zero =>
    obtain rfl := state.queue_eq_nil enough
    exact ⟨state.unique, by simpa [drain] using state.mem_iff, by simp [drain]⟩
  | succ fuel ih =>
    cases queue with
    | nil => exact ⟨state.unique, by simpa [drain] using state.mem_iff, by simp [drain]⟩
    | cons taken queue =>
      have rest := ih (by rw [List.length_append, List.length_singleton]; omega) (state.take inside)
      have shift : ∀ order : List Nat, (done ++ [taken]) ++ order = done ++ taken :: order := by simp
      have now := ((state.mem_iff taken).mp (by simp)).2
      unfold drain
      refine ⟨shift _ ▸ rest.unique, fun place => shift _ ▸ rest.mem_iff place, ?_⟩
      intro front place back split
      cases front with
      | nil =>
        cases split
        rw [List.append_nil]
        exact now
      | cons first front =>
        rw [List.cons_append, List.cons.injEq] at split
        obtain ⟨rfl, split⟩ := split
        rw [← shift]
        exact rest.precedes front place back split

theorem drain_add {edges : Edges} (fuel more : Nat)
    (inside : ∀ edge ∈ edges, 0 ≤ edge.2.node ∧ edge.2.node < size)
    (enough : size ≤ done.length + fuel)
    (state : Draining size done (remaining edges done) waiting queue) :
    drain edges (fuel + more) waiting queue = drain edges fuel waiting queue := by
  induction fuel generalizing done waiting queue with
  | zero =>
    obtain rfl := state.queue_eq_nil enough
    cases more <;> simp [drain]
  | succ fuel ih =>
    rw [Nat.succ_add]
    cases queue with
    | nil => simp [drain]
    | cons taken queue =>
      have rest := ih (by rw [List.length_append, List.length_singleton]; omega) (state.take inside)
      simp only [drain, rest]

end Draining

/-- The bound ports of one node, counted by the node that they belong to. -/
theorem countP_numbered (here place : Nat) (ports : List InputPort) :
    (numbered here ports).countP (fun entry => entry.1.node = (place : Int) && entry.2.isBound) =
      if here = place then ports.countP InputPort.isBound else 0 := by
  have general : ∀ slot, ((ports.zipIdx slot).map fun (port, slot) =>
      ((⟨here, slot⟩ : PortRef), port)).countP
        (fun entry => entry.1.node = (place : Int) && entry.2.isBound) =
      if here = place then ports.countP InputPort.isBound else 0 := by
    induction ports with
    | nil => simp
    | cons port ports ih =>
      intro slot
      rw [List.zipIdx_cons, List.map_cons, List.countP_cons, List.countP_cons, ih]
      by_cases same : here = place
      · simp [same]
      · have other : ¬ (here : Int) = place := fun equal => same (Int.ofNat.inj equal)
        simp [same, other]
  exact general 0

theorem countP_inputPorts (nodes : List Layer) (start place : Nat) :
    ((nodes.zipIdx start).flatMap fun (layer, here) => numbered here layer.inputs).countP
        (fun entry => entry.1.node = (place : Int) && entry.2.isBound) =
      if start ≤ place then
        ((nodes[place - start]?).map fun layer => layer.inputs.countP InputPort.isBound).getD 0
      else 0 := by
  induction nodes generalizing start with
  | nil => simp
  | cons layer nodes ih =>
    rw [List.zipIdx_cons, List.flatMap_cons, List.countP_append, ih, countP_numbered]
    by_cases same : start = place
    · subst same
      rw [if_pos rfl, if_neg (by omega), if_pos (by omega), Nat.sub_self]
      rfl
    · rw [if_neg same, Nat.zero_add]
      by_cases after : start + 1 ≤ place
      · have position : place - start = (place - (start + 1)) + 1 := by omega
        rw [if_pos after, if_pos (by omega), position, List.getElem?_cons_succ]
      · rw [if_neg after, if_neg (by omega)]

section
variable {graph : Graph}

/-- At first every connection into a node waits. -/
theorem incoming_eq_remaining {place : Nat} (inside : place < graph.size) :
    graph.incoming[place]? = some (remaining graph.edges [] place) := by
  have count : remaining graph.edges [] place =
      graph.inputPorts.countP fun entry => entry.1.node = (place : Int) && entry.2.isBound := by
    unfold remaining edges
    rw [List.countP_filterMap]
    apply List.countP_congr
    rintro ⟨ref, port⟩ _
    cases bound : port.source <;> simp [InputPort.isBound, bound]
  rw [count, inputPorts, countP_inputPorts, if_pos (Nat.zero_le place), Nat.sub_zero, incoming,
    List.getElem?_map, List.getElem?_eq_getElem inside]
  rfl

theorem edge_inside {edge : PortRef × PortRef} (member : edge ∈ graph.edges) :
    0 ≤ edge.2.node ∧ edge.2.node < graph.size := by
  obtain ⟨port, present, _⟩ := Option.bind_eq_some_iff.mp (mem_edges.mp member)
  exact ⟨(Layer.plain_of_portAmong? _ present).1, Layer.node_lt_of_portAmong? _ present⟩

/-- The walk starts with the nodes that no connection goes into. -/
theorem draining_start (graph : Graph) : Draining graph.size [] (remaining graph.edges []) graph.incoming
    ((List.range graph.size).filter fun place => graph.incoming[place]? = some 0) := by
  refine ⟨fun place inside => incoming_eq_remaining inside, ?_, fun place => ?_⟩
  · rw [List.nil_append]
    exact List.nodup_range.filter _
  · rw [List.nil_append, List.mem_filter, List.mem_range, decide_eq_true_eq]
    constructor
    · rintro ⟨inside, free⟩
      rw [incoming_eq_remaining inside] at free
      exact ⟨inside, Option.some.inj free⟩
    · rintro ⟨inside, free⟩
      exact ⟨inside, by rw [incoming_eq_remaining inside, free]⟩

theorem drained_orderable (graph : Graph) : Draining.Drained graph.edges graph.size [] graph.orderable :=
  (draining_start graph).drained graph.size (fun edge member => edge_inside member) (by simp)

/-- With as many turns as there are nodes the queue runs empty, so more turns take nothing more. -/
theorem orderable_eq_drain (graph : Graph) (more : Nat) : graph.orderable =
    drain graph.edges (graph.size + more) graph.incoming
      ((List.range graph.size).filter fun place => graph.incoming[place]? = some 0) :=
  ((draining_start graph).drain_add graph.size more (fun edge member => edge_inside member) (by simp)).symm

theorem nodup_orderable : graph.orderable.Nodup := by
  simpa using (drained_orderable graph).unique

/-- Exactly the nodes whose sources can all be ordered can be ordered. -/
theorem mem_orderable {place : Nat} : place ∈ graph.orderable ↔ place < graph.size ∧
    ∀ source target, (source, target) ∈ graph.edges → target.node = (place : Int) →
      ∃ earlier ∈ graph.orderable, source.node = (earlier : Int) := by
  have all := (drained_orderable graph).mem_iff place
  rw [List.nil_append, remaining_eq_zero] at all
  exact all

/-- The sources of a node stand before it. -/
theorem source_before {front back : List Nat} {place : Nat} {source target : PortRef}
    (split : graph.orderable = front ++ place :: back) (member : (source, target) ∈ graph.edges)
    (into : target.node = (place : Int)) : ∃ earlier ∈ front, source.node = (earlier : Int) := by
  have done := (drained_orderable graph).precedes front place back split
  rw [List.nil_append, remaining_eq_zero] at done
  exact done source target member into

/-- Numbers of the nodes that grow along every connection. -/
def Ranked (graph : Graph) (rank : Nat → Nat) : Prop :=
  ∀ source target, (source, target) ∈ graph.edges → ∃ earlier later : Nat,
    source.node = (earlier : Int) ∧ target.node = (later : Int) ∧
      earlier < graph.size ∧ rank earlier < rank later

/-- With a rank, every node can be ordered. -/
theorem Ranked.mem_orderable {rank : Nat → Nat} (ranked : graph.Ranked rank) {place : Nat}
    (inside : place < graph.size) : place ∈ graph.orderable := by
  induction bound : rank place using Nat.strongRecOn generalizing place with
  | ind number ih =>
    rw [Graph.mem_orderable]
    refine ⟨inside, fun source target member into => ?_⟩
    obtain ⟨earlier, later, from_earlier, to_later, below, grows⟩ := ranked source target member
    obtain rfl : later = place := by omega
    exact ⟨earlier, ih (rank earlier) (by omega) below rfl, from_earlier⟩

theorem Ranked.perm_range {rank : Nat → Nat} (ranked : graph.Ranked rank) :
    graph.orderable.Perm (List.range graph.size) := by
  rw [List.perm_ext_iff_of_nodup nodup_orderable List.nodup_range]
  intro place
  rw [List.mem_range]
  exact ⟨fun member => (Graph.mem_orderable.mp member).1, ranked.mem_orderable⟩

theorem Ranked.isAcyclic {rank : Nat → Nat} (ranked : graph.Ranked rank) :
    graph.isAcyclic = true := by
  unfold Graph.isAcyclic
  rw [decide_eq_true_eq, ranked.perm_range.length_eq, List.length_range]

/-- Nothing is held back by a cycle. -/
theorem Ranked.topologicalOrder {rank : Nat → Nat} (ranked : graph.Ranked rank) :
    graph.topologicalOrder = graph.orderable := by
  unfold Graph.topologicalOrder
  dsimp only
  rw [List.append_right_eq_self, List.filter_eq_nil_iff]
  intro place member
  have present := ranked.mem_orderable (List.mem_range.mp member)
  simpa using present

/-- A node that can be ordered stands behind the sources of its connections. -/
theorem idxOf_lt_of_mem_orderable {source target : PortRef} (member : (source, target) ∈ graph.edges)
    (present : target.node.toNat ∈ graph.orderable) : ∃ earlier later : Nat,
      source.node = (earlier : Int) ∧ target.node = (later : Int) ∧ earlier ∈ graph.orderable ∧
      graph.orderable.idxOf earlier < graph.orderable.idxOf later := by
  obtain ⟨nonneg, below⟩ : 0 ≤ target.node ∧ target.node < graph.size := edge_inside member
  obtain ⟨front, back, split⟩ := List.append_of_mem present
  obtain ⟨earlier, before, same⟩ := source_before split member (by omega)
  refine ⟨earlier, target.node.toNat, same, by omega, split ▸ List.mem_append_left _ before, ?_⟩
  -- The order has no duplicates, so the target is not among the nodes before it.
  have unique : graph.orderable.Nodup := nodup_orderable
  rw [split, List.nodup_append] at unique
  have absent : target.node.toNat ∉ front :=
    fun other => unique.2.2 _ other _ List.mem_cons_self rfl
  rw [split, List.idxOf_append_of_mem before, List.idxOf_append_of_notMem absent]
  exact Nat.lt_of_lt_of_le (List.idxOf_lt_length_iff.mpr before) (Nat.le_add_right _ _)

/-- The source of every connection stands before its target. -/
theorem Ranked.idxOf_lt {rank : Nat → Nat} (ranked : graph.Ranked rank) {source target : PortRef}
    (member : (source, target) ∈ graph.edges) : ∃ earlier later : Nat,
      source.node = (earlier : Int) ∧ target.node = (later : Int) ∧
      graph.topologicalOrder.idxOf earlier < graph.topologicalOrder.idxOf later := by
  rw [ranked.topologicalOrder]
  obtain ⟨nonneg, below⟩ : 0 ≤ target.node ∧ target.node < graph.size := edge_inside member
  obtain ⟨earlier, later, exits, enters, _, before⟩ :=
    idxOf_lt_of_mem_orderable member (ranked.mem_orderable (by omega))
  exact ⟨earlier, later, exits, enters, before⟩

end

end LayerGraph.Graph
