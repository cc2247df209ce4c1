import LayerGraph.Proofs.Graph.Refused

/-! Graphs that are built by calls.

New layers and connections keep sources and consumers in agreement. A replacement keeps the consumers of the node that
it takes away, but its input ports are gone: if one of them was bound, its source keeps a consumer that is no port any
more. Such a connection is severed, and no later call mends it.
-/

set_option autoImplicit false

namespace LayerGraph.Graph

/-- Sources and consumers name ports, and each is the other's, once. -/
structure Coherent (graph : Graph) : Prop where
  source_present : ∀ target source, graph.sourceOf? target = some source → (graph.output? source).isSome = true
  consumer_present : ∀ source target, target ∈ graph.consumersOf source → (graph.input? target).isSome = true
  consumes_iff : ∀ source target, (graph.output? source).isSome = true → (graph.input? target).isSome = true →
    (target ∈ graph.consumersOf source ↔ graph.sourceOf? target = some source)
  once : ∀ source target, target ∈ graph.consumersOf source → (graph.consumersOf source).count target = 1

/-- A call that changes a graph. -/
inductive Call where
  | add (layer : Layer)
  | connect (source target : PortRef)
  | replace (index : Int) (layer : Layer)

namespace Call

/-- How a call ends, and the graph that it leaves. -/
def perform (graph : Graph) : Call → Attempt Unit × Graph
  | add layer => (.ok (), graph.add layer)
  | connect source target => graph.connect source target
  | replace index layer =>
    match graph.replace index layer with
    | .ok next => (.ok (), next)
    | .error failure => (.error failure, graph)

/-- A call that names nodes and ports which are there, by numbers that are not negative, and brings fresh layers. -/
def Inside (graph : Graph) : Call → Prop
  | add layer => layer.Fresh
  | connect source target => (graph.output? source).isSome = true ∧ (graph.input? target).isSome = true
  | replace index layer => 0 ≤ index ∧ index < graph.size ∧ layer.Fresh

/-- The connections into the node that a call takes away. -/
def severs (graph : Graph) : Call → List (PortRef × PortRef)
  | add _ | connect .. => []
  | replace index layer =>
    match graph.replace index layer with
    | .ok _ => graph.edges.filter fun edge => edge.2.node = index
    | .error _ => []

end Call

/-- A graph that calls have built, with the connections that they have severed. -/
inductive Built : Graph → List (PortRef × PortRef) → Prop
  | empty : Built Graph.empty []
  | call {graph : Graph} {severed : List (PortRef × PortRef)} (built : Built graph severed) (call : Call)
      (inside : call.Inside graph) : Built (call.perform graph).2 (severed ++ call.severs graph)

section
variable {graph next : Graph} {stale : List (PortRef × PortRef)}

theorem coherent_iff_consistent : graph.Coherent ↔ graph.Consistent := by
  constructor
  · intro coherent
    refine ⟨fun source target => ⟨fun member => ?_, fun bound => ?_⟩, fun source => ?_⟩
    · exact (coherent.consumes_iff source target (isSome_output?_of_mem_consumersOf member)
        (coherent.consumer_present source target member)).mp member
    · exact (coherent.consumes_iff source target (coherent.source_present target source bound)
        (isSome_input?_of_sourceOf? bound)).mpr bound
    · exact List.nodup_iff_count_eq_one.mpr fun target => coherent.once source target
  · intro consistent
    refine ⟨fun target source bound => ?_, fun source target member => ?_, fun source target _ _ => ?_,
      fun source target => List.count_eq_one_of_mem (consistent.nodup source)⟩
    · exact isSome_output?_of_mem_consumersOf ((consistent.consumes_iff source target).mpr bound)
    · exact isSome_input?_of_sourceOf? ((consistent.consumes_iff source target).mp member)
    · exact consistent.consumes_iff source target

/-- Every stale consumer is one too many. -/
theorem ConsistentUpTo.coherent_iff (consistent : graph.ConsistentUpTo stale) : graph.Coherent ↔ stale = [] := by
  rw [coherent_iff_consistent, ← consistentUpTo_nil]
  constructor
  · intro exact
    refine List.eq_nil_iff_forall_not_mem.mpr fun ⟨source, target⟩ member => ?_
    have consumes := (consistent.consumes_iff source target).mpr (.inr member)
    have bound := (exact.consumes_iff source target).mp consumes
    rw [sourceOf?, (consistent.gone source target member).2] at bound
    simp at bound
  · rintro rfl
    exact consistent

theorem ConsistentUpTo.add {layer : Layer} (consistent : graph.ConsistentUpTo stale) (fresh : layer.Fresh) :
    (graph.add layer).ConsistentUpTo stale := by
  refine ⟨fun source target => ?_, fun source => ?_, fun source target member => ?_⟩
  · rw [consumersOf_add fresh, sourceOf?_add fresh]
    exact consistent.consumes_iff source target
  · rw [consumersOf_add fresh]
    exact consistent.nodup source
  · obtain ⟨inside, gone⟩ := consistent.gone source target member
    refine ⟨?_, by rw [input?_add, if_pos inside, gone]⟩
    rw [size, Graph.add, List.length_append]
    exact inside.trans_le (Int.ofNat_le.mpr (Nat.le_add_right _ _))

/-- The sources of a node that is taken away keep its ports as consumers. -/
theorem ConsistentUpTo.exchanges {place : Nat} (consistent : graph.ConsistentUpTo stale)
    (step : graph.Exchanges place next) :
    next.ConsistentUpTo (stale ++ graph.edges.filter fun edge => edge.2.node = (place : Int)) := by
  have severed : ∀ source target, (source, target) ∈ graph.edges.filter (fun edge => edge.2.node = (place : Int)) ↔
      graph.sourceOf? target = some source ∧ target.node = (place : Int) := by
    intro source target
    rw [List.mem_filter, mem_edges, decide_eq_true_eq]
  have sources : ∀ ref, next.sourceOf? ref = if ref.node = (place : Int) then none else graph.sourceOf? ref := by
    intro ref
    rw [sourceOf?, step.targets]
    split <;> rfl
  -- Only the connections into the node that is taken away turn stale, and they keep their consumers.
  refine ⟨fun source target => ?_, fun source => ?_, fun source target member => ?_⟩
  · rw [step.consumers, consistent.consumes_iff, sources, List.mem_append, severed]
    by_cases here : target.node = (place : Int)
    · rw [if_pos here]
      simp [here, or_comm]
    · rw [if_neg here]
      simp [here]
  · rw [step.consumers]
    exact consistent.nodup source
  · rw [step.targets, step.size]
    rcases List.mem_append.mp member with old | new
    · obtain ⟨inside, gone⟩ := consistent.gone source target old
      rw [gone]
      exact ⟨inside, ite_self none⟩
    · obtain ⟨bound, here⟩ := (severed source target).mp new
      exact ⟨node_lt_of_input? (isSome_input?_of_sourceOf? bound), if_pos here⟩

/-- One call adds what it severs to the stale consumers, and nothing else. -/
theorem ConsistentUpTo.call {call : Call} (consistent : graph.ConsistentUpTo stale) (inside : call.Inside graph) :
    (call.perform graph).2.ConsistentUpTo (stale ++ call.severs graph) := by
  cases call with
  | add layer =>
    rw [Call.severs, List.append_nil]
    exact consistent.add inside
  | connect source target =>
    rw [Call.severs, List.append_nil, Call.perform]
    obtain ⟨sourcePresent, targetPresent⟩ := inside
    obtain ⟨output, here⟩ := Option.isSome_iff_exists.mp sourcePresent
    obtain ⟨input, there⟩ := Option.isSome_iff_exists.mp targetPresent
    have sourcePlain := Layer.plain_of_portAmong? _ here
    generalize connected : graph.connect source target = performed
    obtain ⟨_ | ⟨⟨⟩⟩, next⟩ := performed
    · -- The source is there, so a refusal comes from the target and changes nothing.
      rcases refused_cases connected with ⟨_, rfl⟩ | ⟨_, missing⟩
      · exact consistent
      · rw [(outputPort_eq_ok sourcePlain).mpr here] at missing
        cases missing
    · exact consistent.connects (connects_of_connect sourcePlain (Layer.plain_of_portAmong? _ there) connected)
  | replace index layer =>
    obtain ⟨nonneg, _, fresh⟩ := inside
    obtain ⟨place, rfl⟩ := Int.eq_ofNat_of_zero_le nonneg
    rw [Call.perform, Call.severs]
    cases replaced : graph.replace place layer with
    | ok next => exact consistent.exchanges (exchanges_of_replace fresh replaced)
    | error failure =>
      rw [List.append_nil]
      exact consistent

theorem Built.consistentUpTo {severed : List (PortRef × PortRef)} (built : Built graph severed) :
    graph.ConsistentUpTo severed := by
  induction built with
  | empty => exact consistentUpTo_nil.mpr consistent_empty
  | call _ _ inside ih => exact ih.call inside

/-- Whatever calls have built a graph, the consumers of a source are the targets that are bound to it and the targets of
its severed connections, which are gone. So sources and consumers are in agreement exactly if no call has taken away a
node with a bound port. -/
theorem coherent_iff_of_built {severed : List (PortRef × PortRef)} (built : Built graph severed) :
    (graph.Coherent ↔ severed = []) ∧
      (∀ target source, graph.sourceOf? target = some source → (graph.output? source).isSome = true) ∧
      (∀ source target, target ∈ graph.consumersOf source ↔
        graph.sourceOf? target = some source ∨ (source, target) ∈ severed) ∧
      (∀ source target, target ∈ graph.consumersOf source → (graph.consumersOf source).count target = 1) ∧
      ∀ source target, (source, target) ∈ severed → graph.input? target = none := by
  have consistent := built.consistentUpTo
  refine ⟨consistent.coherent_iff, fun target source bound => ?_, consistent.consumes_iff,
    fun source target => List.count_eq_one_of_mem (consistent.nodup source),
    fun source target member => (consistent.gone source target member).2⟩
  exact isSome_output?_of_mem_consumersOf ((consistent.consumes_iff source target).mpr (.inl bound))

end

/-- An input that fed a rectifier, and another input in the place of the rectifier. -/
def cutShort : Graph where
  nodes := [⟨.input, [], [⟨"output", [2], [⟨1, 0⟩]⟩]⟩, Layer.input [2]]

/-- The input goes on naming a port that is gone. -/
theorem not_coherent_cutShort : Built cutShort [(⟨0, 0⟩, ⟨1, 0⟩)] ∧ ¬ cutShort.Coherent ∧
    ⟨1, 0⟩ ∈ cutShort.consumersOf ⟨0, 0⟩ ∧ cutShort.input? ⟨1, 0⟩ = none := by
  have source : Built _ _ := Built.empty.call (.add (Layer.input [2])) rfl
  have target : Built _ _ := source.call (.add (Layer.relu [2])) rfl
  have joined : Built _ _ := target.call (.connect ⟨0, 0⟩ ⟨1, 0⟩) ⟨by decide, by decide⟩
  have built : Built cutShort [(⟨0, 0⟩, ⟨1, 0⟩)] :=
    joined.call (.replace 1 (Layer.input [2])) ⟨by decide, by decide, rfl⟩
  obtain ⟨coherent, _, consumes, _, gone⟩ := coherent_iff_of_built built
  exact ⟨built, coherent.not.mpr (List.cons_ne_nil _ _), (consumes _ _).mpr (.inr List.mem_cons_self),
    gone ⟨0, 0⟩ _ List.mem_cons_self⟩

end LayerGraph.Graph
