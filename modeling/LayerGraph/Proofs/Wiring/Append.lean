import LayerGraph.Proofs.Graph.Consistency
import LayerGraph.Proofs.Wiring.Effects
import LayerGraph.Proofs.Wiring.Layout

/-! The first pass of a wiring lays out the fragments of the operators.

After every operator the arena holds the layers so far, its connections are the links so far, and
the tables hold what waits and what is supplied so far. A failed lowering ends the pass.
-/

set_option autoImplicit false

namespace LayerGraph.Wiring

open Run

/-- A wiring that has laid out some fragments. -/
structure Laid (fragments : List Fragment) (wiring : Wiring) : Prop where
  closed : Layout.Closed fragments
  bare : wiring.graph.bare = Layout.layers fragments
  edges : wiring.graph.HasEdges (Layout.links fragments)
  consistent : wiring.graph.Consistent
  pending : wiring.pending = Layout.reads fragments
  writers : ∀ name, wiring.writers name = Layout.writers fragments name
  produced : (histories wiring.produced).Perm (Layout.writes fragments)
  provisional : ∀ entry ∈ wiring.provisional, Layout.Fed fragments entry.1 entry.2
  synthesized : wiring.synthesized = []

theorem laid_start (threshold : Int) : (start threshold).Laid [] where
  closed := nofun
  bare := rfl
  edges := Graph.hasEdges_empty
  consistent := Graph.consistent_empty
  pending := rfl
  writers _ := rfl
  produced := List.Perm.refl _
  provisional := nofun
  synthesized := rfl

theorem Laid.journal {fragments : List Fragment} {wiring : Wiring} (laid : wiring.Laid fragments)
    (journal : Journal) : ({ wiring with journal := journal } : Wiring).Laid fragments :=
  ⟨laid.closed, laid.bare, laid.edges, laid.consistent, laid.pending, laid.writers,
    laid.produced, laid.provisional, laid.synthesized⟩

section
variable (wiring : Wiring) (reader offset : Nat) (fragment : Fragment)

theorem addPending_eq (pending : List (PortRef × String)) :
    pending.foldl (fun w (port, name) =>
        { w with pending := Keyed.put (port.rebase offset) (name, reader) w.pending }) wiring =
      { wiring with
        pending := pending.foldl (fun kept (port, name) =>
          Keyed.put (port.rebase offset) (name, reader) kept) wiring.pending } := by
  induction pending generalizing wiring with
  | nil => rfl
  | cons entry pending ih => exact ih _

theorem addWriters_eq (produced : List (String × PortRef)) :
    produced.foldl (fun w (name, port) => w.addWriter name (reader, port.rebase offset)) wiring =
      { wiring with
        produced := (produced.foldl (fun w (name, port) =>
          w.addWriter name (reader, port.rebase offset)) wiring).produced } := by
  induction produced generalizing wiring with
  | nil => rfl
  | cons entry produced ih =>
    rw [List.foldl_cons, ih]
    rfl

theorem writers_addWriters (produced : List (String × PortRef)) (other : String) :
    (produced.foldl (fun w (name, port) => w.addWriter name (reader, port.rebase offset)) wiring).writers
      other = wiring.writers other ++ ((produced.map fun (name, port) =>
        (name, (reader, port.rebase offset))).filter fun entry => entry.1 = other).map Prod.snd := by
  induction produced generalizing wiring with
  | nil => simp
  | cons entry produced ih =>
    rw [List.foldl_cons, ih, writers_addWriter, List.map_cons, List.filter_cons]
    by_cases same : entry.1 = other <;> simp [same]

theorem histories_addWriters (produced : List (String × PortRef)) :
    (histories (produced.foldl (fun w (name, port) =>
      w.addWriter name (reader, port.rebase offset)) wiring).produced).Perm
        (histories wiring.produced ++ produced.map fun (name, port) =>
          (name, (reader, port.rebase offset))) := by
  induction produced generalizing wiring with
  | nil => simp
  | cons entry produced ih =>
    rw [List.foldl_cons, List.map_cons, ← List.singleton_append, ← List.append_assoc]
    exact (ih _).trans ((histories_put wiring.produced entry.1 _).append_right _)

/-- Registering bindings leaves the layers and adds to the tables. -/
structure Registers (wiring : Wiring) (reader offset : Nat) (fragment : Fragment)
    (next : Wiring) : Prop where
  nodes : next.graph.nodes = wiring.graph.nodes
  pending : next.pending = fragment.pending.foldl
    (fun kept (port, name) => Keyed.put (port.rebase offset) (name, reader) kept) wiring.pending
  writers : ∀ name, next.writers name = wiring.writers name ++
    ((Layout.Placed.writes ⟨reader, offset, fragment⟩).filter fun entry => entry.1 = name).map Prod.snd
  produced : (histories next.produced).Perm
    (histories wiring.produced ++ Layout.Placed.writes ⟨reader, offset, fragment⟩)
  provisional : next.provisional = fragment.provisional.foldl (fun kept (name, (node : Nat)) =>
    Keyed.put name (node + offset : Int) kept) wiring.provisional
  synthesized : next.synthesized = wiring.synthesized
  journal : next.journal = wiring.journal

theorem registers : wiring.Registers reader offset fragment (wiring.register reader offset fragment) := by
  unfold register
  rw [addPending_eq]
  dsimp only
  rw [addWriters_eq]
  exact ⟨rfl, rfl, writers_addWriters _ reader offset fragment.produced,
    histories_addWriters _ reader offset fragment.produced, rfl, rfl, rfl⟩

end

section
variable {fragments : List Fragment} {fragment : Fragment} {wiring next : Wiring}

/-- The links of a fragment are connected one after the other. -/
theorem connects_links {edges links : List (PortRef × PortRef)} {offset : Nat} {value : Unit}
    (closed : fragment.Closed) (has : wiring.graph.HasEdges edges)
    (consistent : wiring.graph.Consistent) (linked : ∀ link ∈ links, link ∈ fragment.links)
    (connected : (connectLinks offset links).Yields wiring value next) :
    ∃ graph, next = { wiring with graph := graph } ∧ graph.bare = wiring.graph.bare ∧
      graph.HasEdges (edges ++ links.map fun link => (link.1.rebase offset, link.2.rebase offset)) ∧
      graph.Consistent := by
  have plain : ∀ ref : PortRef, ref.Plain → (ref.rebase offset).Plain := by
    intro ref plain
    exact ⟨by have := plain.1; simp only [PortRef.rebase]; omega, plain.2⟩
  refine each_induction (fun done w => ∃ graph, w = { wiring with graph := graph } ∧
    graph.bare = wiring.graph.bare ∧
      graph.HasEdges (edges ++ done.map fun link => (link.1.rebase offset, link.2.rebase offset)) ∧
      graph.Consistent) ⟨_, rfl, rfl, by simpa using has, consistent⟩ ?_ connected
  rintro done ⟨source, target⟩ rest state after split ⟨graph, rfl, bare, has, consistent⟩ round
  obtain ⟨wired, wires, rfl⟩ := yields_connect.mp round
  have member : (source, target) ∈ fragment.links :=
    linked _ (split ▸ List.mem_append_right _ List.mem_cons_self)
  obtain ⟨_, exits⟩ := Option.isSome_iff_exists.mp (closed.linked _ member)
  obtain ⟨_, enters⟩ := Option.isSome_iff_exists.mp ((closed.targets_iff target).mp
    (List.mem_append_left _ (List.mem_map_of_mem member)))
  have step := Graph.connects_of_connect (plain _ (Layer.plain_of_portAmong? _ exits))
    (plain _ (Layer.plain_of_portAmong? _ enters)) wires
  refine ⟨wired, rfl, step.bare.trans bare, ?_, consistent.connects step⟩
  simpa using has.connects step

theorem Laid.append {value : Unit} (laid : wiring.Laid fragments) (closed : fragment.Closed)
    (appended : (append fragments.length fragment).Yields wiring value next) :
    next.Laid (fragments ++ [fragment]) := by
  obtain ⟨linked, connected, registered⟩ := append_cases appended
  have size : wiring.graph.size = (Layout.layers fragments).length := by
    rw [← laid.bare, Graph.length_bare]
  obtain ⟨graph, rfl, bare, edges, consistent⟩ := connects_links closed
    (laid.edges.addAll closed.fresh) (laid.consistent.addAll closed.fresh) (fun _ => id) connected
  have step := registers { wiring with graph := graph } fragments.length wiring.graph.size fragment
  rw [← registered] at step
  have whole : Layout.Closed (fragments ++ [fragment]) := by
    intro other member
    rcases List.mem_append.mp member with before | single
    · exact laid.closed other before
    · rwa [List.mem_singleton.mp single]
  rw [size] at step edges
  refine { closed := whole, bare := ?bare, edges := ?edges, consistent := consistent.of_nodes step.nodes,
           pending := ?pending, writers := ?writers, produced := ?produced, provisional := ?provisional,
           synthesized := step.synthesized.trans laid.synthesized }
  case bare =>
    rw [Graph.bare, step.nodes, Layout.layers_concat, ← laid.bare, ← Graph.bare_addAll closed.fresh]
    exact bare
  case edges =>
    rw [Layout.links_concat]
    exact edges.of_nodes step.nodes
  case pending =>
    -- Every port waits once, so that the table of waiting ports grows at its end only.
    have unique := Layout.nodup_reads whole
    rw [Layout.reads_concat] at unique ⊢
    rw [step.pending, ← Keyed.foldl_put unique, Layout.Placed.reads, List.foldl_map, ← laid.pending]
  case writers =>
    intro name
    rw [step.writers name, Layout.writers, Layout.writes_concat, List.filter_append, List.map_append]
    exact congrArg (· ++ _) (laid.writers name)
  case produced =>
    rw [Layout.writes_concat]
    exact step.produced.trans (laid.produced.append_right _)
  case provisional =>
    intro entry member
    have fold : (fragment.provisional.map fun entry =>
        (entry.1, (entry.2 + (Layout.layers fragments).length : Int))).foldl
          (fun kept entry => Keyed.put entry.1 entry.2 kept) wiring.provisional = next.provisional := by
      rw [List.foldl_map, step.provisional]
    rw [← fold] at member
    rcases Keyed.mem_foldl_put member with before | new
    · exact (laid.provisional entry before).concat fragment
    · obtain ⟨other, present, rfl⟩ := List.mem_map.mp new
      exact Layout.fed_concat closed present

theorem Laid.lowerOne {context : Context} {op : Operator} {value : Unit} (laid : wiring.Laid fragments)
    (lowered : (lowerOne context fragments.length op).Yields wiring value next) :
    ∃ fragment, op.lower context = .ok fragment ∧ next.Laid (fragments ++ [fragment]) := by
  obtain ⟨fragment, appended, journal, made, appends, rfl⟩ := lowerOne_cases lowered
  obtain ⟨_, _, form⟩ := Operator.form_of_lower made
  exact ⟨fragment, made, (laid.append form.closed appends).journal journal⟩

/-- Some operators are lowered and laid out in order. -/
theorem laid_of_lowerEach {context : Context} {operators : List Operator} {value : Unit}
    (laid : wiring.Laid []) (lowered : (lowerEach context operators.zipIdx).Yields wiring value next) :
    ∃ fragments : List Fragment, operators.map (fun op => op.lower context) = fragments.map .ok ∧
      next.Laid fragments := by
  have loop : ∃ fragments : List Fragment, operators.zipIdx.map
      (fun entry => entry.1.lower context) = fragments.map .ok ∧ next.Laid fragments := by
    refine each_induction (fun (done : List (Operator × Nat)) (w : Wiring) =>
      ∃ fragments : List Fragment, done.map (fun entry => entry.1.lower context) =
        fragments.map .ok ∧ w.Laid fragments) ⟨[], rfl, laid⟩ ?_ lowered
    rintro done ⟨op, reader⟩ rest state after split ⟨fragments, made, laid⟩ appends
    obtain ⟨front, back, _, rfl, rfl, _⟩ := zipIdx_eq_append_cons.mp split
    have number : front.length = fragments.length := by simpa using congrArg List.length made
    rw [number] at appends
    obtain ⟨fragment, one, laid⟩ := laid.lowerOne appends
    refine ⟨fragments ++ [fragment], ?_, laid⟩
    rw [List.map_append, List.map_append, made, List.map_singleton, List.map_singleton, one]
  have firsts : operators.zipIdx.map (fun entry => entry.1.lower context) =
      operators.map fun op => op.lower context := by
    conv => rhs; rw [← List.zipIdx_map_fst 0 operators, List.map_map]
    rfl
  rwa [firsts] at loop

end

end LayerGraph.Wiring
