import LayerGraph.Proofs.Wiring.Append
import Mathlib.Data.List.Basic

/-! The second pass of a wiring connects what waits.

A read takes the port of a writer of its variable. Where nobody writes it, a layer is made up at the
first such read and shared by the later ones. The layers made up follow those of the operators, in
the order of these first reads.
-/

set_option autoImplicit false

namespace LayerGraph

/-- The layer that stands for a variable that nobody writes. -/
def Context.substitute (context : Context) (name : String) : Attempt Layer := do
  let declaration ← context.block.declaration name
  let stored ← context.tensors.contains name
  if declaration.persistable || stored then return Layer.constant (← context.loadOrZeros name)
  else return Layer.input declaration.shape

/-- A layer that stands for a variable is a constant or takes data in, in the declared shape. -/
theorem Context.substitute_cases {context : Context} {name : String} {layer : Layer}
    (made : context.substitute name = .ok layer) :
    (∃ value, context.loadOrZeros name = .ok value ∧ layer = Layer.constant value) ∨
      ∃ shape, context.shape name = .ok shape ∧ layer = Layer.input shape := by
  unfold substitute at made
  obtain ⟨declaration, declared, made⟩ := Attempt.bind_eq_ok.mp made
  obtain ⟨stored, _, made⟩ := Attempt.bind_eq_ok.mp made
  split at made
  · obtain ⟨value, loaded, made⟩ := Attempt.bind_eq_ok.mp made
    cases made
    exact .inl ⟨value, loaded, rfl⟩
  · cases made
    exact .inr ⟨declaration.shape, Attempt.map_eq_ok.mpr ⟨declaration, declared, rfl⟩, rfl⟩

/-- Every variable that is made up has its layer at its place among those made up. -/
theorem Context.exists_substitute {context : Context} {made : List String} {extra : List Layer}
    (supplied : made.map context.substitute = extra.map .ok) {name : String} (member : name ∈ made) :
    ∃ layer, context.substitute name = .ok layer ∧ extra[made.idxOf name]? = some layer := by
  have entry := congrArg (·[made.idxOf name]?) supplied
  simp only [List.getElem?_map, List.getElem?_idxOf member, Option.map_some] at entry
  obtain ⟨layer, here, same⟩ := Option.map_eq_some_iff.mp entry.symm
  exact ⟨layer, same.symm, here⟩

theorem Context.fresh_of_substitute {context : Context} {name : String} {layer : Layer}
    (made : context.substitute name = .ok layer) : layer.Fresh := by
  rcases substitute_cases made with ⟨value, _, rfl⟩ | ⟨shape, _, rfl⟩
  · exact Layer.fresh_constant value
  · exact Layer.fresh_input shape

namespace Layout

variable (fragments : List Fragment)

/-- The port of an operator that a reader takes a variable from. -/
def writer? (name : String) (reader : Nat) : Option PortRef :=
  Wiring.writerAmong? (writers fragments name) reader

/-- The variables made up after one more read: its own joins if it is new and nobody writes it. -/
def note (made : List String) (name : String) (reader : Nat) : List String :=
  if (writer? fragments name reader).isSome || made.contains name then made else made ++ [name]

/-- The variables made up after more reads. -/
def supply (made : List String) (reads : List (PortRef × (String × Nat))) : List String :=
  reads.foldl (fun made (_, name, reader) => note fragments made name reader) made

/-- The variables that are made up for reads, by first read. -/
def made : List String := supply fragments [] (reads fragments)

/-- The port that a reader takes a variable from. -/
def origin (made : List String) (name : String) (reader : Nat) : PortRef :=
  (writer? fragments name reader).getD ⟨(layers fragments).length + made.idxOf name, 0⟩

/-- The connections of reads. -/
def bindings (made : List String) (reads : List (PortRef × (String × Nat))) :
    List (PortRef × PortRef) :=
  reads.map fun (target, name, reader) => (origin fragments made name reader, target)

/-- All reads pass the check of shapes in the layers of operators and those made up. -/
def Checked (context : Context) (fragments : List Fragment) : Prop :=
  ∀ extra : List Layer, (made fragments).map context.substitute = extra.map .ok →
    ∀ edge ∈ bindings fragments (made fragments) (reads fragments),
      Layer.Checked (layers fragments ++ extra) edge.1 edge.2

variable {fragments}

theorem supply_append (made : List String) (front back : List (PortRef × (String × Nat))) :
    supply fragments made (front ++ back) = supply fragments (supply fragments made front) back :=
  List.foldl_append

section
variable (made : List String) (name : String) (reader : Nat)

theorem prefix_note : made <+: note fragments made name reader := by
  unfold note
  split
  · exact List.prefix_rfl
  · exact List.prefix_append _ _

variable {made}

theorem nodup_note (unique : made.Nodup) : (note fragments made name reader).Nodup := by
  unfold note
  split
  · exact unique
  · next absent =>
    simp only [Bool.or_eq_true, List.contains_iff_mem, not_or] at absent
    rw [List.nodup_append]
    refine ⟨unique, by simp, ?_⟩
    intro noted member other single same
    exact absent.2 (List.mem_singleton.mp single ▸ same ▸ member)

theorem mem_note {other : String} : other ∈ note fragments made name reader ↔
    other ∈ made ∨ other = name ∧ writer? fragments name reader = none := by
  unfold note
  cases found : writer? fragments name reader with
  | some source => simp
  | none =>
    by_cases member : name ∈ made
    · simp only [Option.isSome_none, Bool.false_or, List.contains_iff_mem, member, if_true, and_true]
      constructor
      · exact .inl
      · rintro (here | rfl)
        · exact here
        · exact member
    · simp [member]

end

theorem prefix_supply (made : List String) (reads : List (PortRef × (String × Nat))) :
    made <+: supply fragments made reads := by
  induction reads generalizing made with
  | nil => exact List.prefix_rfl
  | cons read reads ih => exact (prefix_note made read.2.1 read.2.2).trans (ih _)

theorem nodup_supply {made : List String} (unique : made.Nodup)
    (reads : List (PortRef × (String × Nat))) : (supply fragments made reads).Nodup := by
  induction reads generalizing made with
  | nil => exact unique
  | cons read reads ih => exact ih (nodup_note read.2.1 read.2.2 unique)

/-- A variable is made up exactly for a read that finds no writer. -/
theorem mem_supply {made : List String} {reads : List (PortRef × (String × Nat))} {name : String} :
    name ∈ supply fragments made reads ↔ name ∈ made ∨ ∃ target reader,
      (target, (name, reader)) ∈ reads ∧ writer? fragments name reader = none := by
  induction reads generalizing made with
  | nil => simp [supply]
  | cons read reads ih =>
    obtain ⟨target, read, reader⟩ := read
    have step : supply fragments made ((target, (read, reader)) :: reads) =
        supply fragments (note fragments made read reader) reads := rfl
    rw [step, ih, mem_note, or_assoc]
    simp only [List.mem_cons, Prod.mk.injEq]
    constructor
    · rintro (here | ⟨rfl, none⟩ | ⟨target, other, member, none⟩)
      · exact .inl here
      · exact .inr ⟨target, reader, .inl ⟨rfl, rfl, rfl⟩, none⟩
      · exact .inr ⟨target, other, .inr member, none⟩
    · rintro (here | ⟨_, _, ⟨rfl, rfl, rfl⟩ | member, none⟩)
      · exact .inl here
      · exact .inr (.inl ⟨rfl, none⟩)
      · exact .inr (.inr ⟨_, _, member, none⟩)

/-- Later reads do not move the layer of a variable made up before. -/
theorem origin_of_prefix {front whole : List String} (pre : front <+: whole) {name : String}
    {reader : Nat} (noted : writer? fragments name reader = none → name ∈ front) :
    origin fragments front name reader = origin fragments whole name reader := by
  unfold origin
  cases found : writer? fragments name reader with
  | some source => rfl
  | none =>
    obtain ⟨rest, rfl⟩ := pre
    rw [List.idxOf_append_of_mem (noted found)]

/-- The port of a writer is a port of the layers of operators. -/
theorem writer?_inside (closed : Closed fragments) {name : String} {reader : Nat} {source : PortRef}
    (found : writer? fragments name reader = some source) :
    ∃ writer, (name, (writer, source)) ∈ writes fragments ∧ writer ≠ reader ∧ source.Plain := by
  have member : ∃ writer, (writer, source) ∈ writers fragments name ∧ writer ≠ reader := by
    unfold writer? at found
    rcases Wiring.writerAmong?_cases (pairwise_writers closed name) reader with
      ⟨writer, port, same, here, before, _⟩ | ⟨writer, port, same, here, after, _⟩ | ⟨none, _⟩
    · cases found.symm.trans same
      exact ⟨writer, here, Nat.ne_of_lt before⟩
    · cases found.symm.trans same
      exact ⟨writer, here, Nat.ne_of_gt after⟩
    · cases found.symm.trans none
  obtain ⟨writer, here, other⟩ := member
  have written := mem_writers.mp here
  obtain ⟨port, present⟩ := Option.isSome_iff_exists.mp (write_inside closed written).1
  exact ⟨writer, written, other, Layer.plain_of_portAmong? _ present⟩

end Layout

namespace Wiring

open Run

/-- The check before a connection holds the shapes at its ends against each other. -/
theorem checked_of_checkTarget {graph : Graph} {name : String} {source target : PortRef} (exits : source.Plain)
    (enters : target.Plain) (checked : checkTarget graph name source target = .ok ()) :
    Layer.Checked graph.bare source target := by
  unfold checkTarget at checked
  obtain ⟨layer, node, checked⟩ := Attempt.bind_eq_ok.mp checked
  refine Layer.checked_bare.mpr ?_
  split at checked
  · obtain ⟨output, out, checked⟩ := Attempt.bind_eq_ok.mp checked
    obtain ⟨input, inp, checked⟩ := Attempt.bind_eq_ok.mp checked
    exact .inr ⟨output.shape, input.shape,
      Option.map_eq_some_iff.mpr ⟨output, (Graph.outputPort_eq_ok exits).mp out, rfl⟩,
      Option.map_eq_some_iff.mpr ⟨input, (Graph.inputPort_eq_ok enters).mp inp, rfl⟩,
      checkBoundary_eq_ok.mp checked⟩
  · next passes => exact .inl ⟨layer, (Graph.node_eq_ok enters.1).mp node, passes⟩

/-- A wiring that has made up some variables and connected some ports. -/
structure Bound (context : Context) (fragments : List Fragment) (made : List String)
    (edges : List (PortRef × PortRef)) (wiring : Wiring) : Prop where
  bare : ∃ extra, made.map context.substitute = extra.map .ok ∧
    wiring.graph.bare = Layout.layers fragments ++ extra
  checked : ∀ edge ∈ edges, edge ∈ Layout.links fragments ∨ Layer.Checked wiring.graph.bare edge.1 edge.2
  edges : wiring.graph.HasEdges edges
  consistent : wiring.graph.Consistent
  writers : ∀ name, wiring.writers name = Layout.writers fragments name
  produced : (histories wiring.produced).Perm (Layout.writes fragments)
  provisional : ∀ entry ∈ wiring.provisional, Layout.Fed fragments entry.1 entry.2
  synthesized : ∀ name, Keyed.get? name wiring.synthesized =
    if name ∈ made then some ⟨(Layout.layers fragments).length + made.idxOf name, 0⟩ else none

section
variable {context : Context} {fragments : List Fragment} {made : List String}
  {edges : List (PortRef × PortRef)} {wiring next : Wiring} {name : String}

theorem Laid.bound (laid : wiring.Laid fragments) (context : Context) :
    wiring.Bound context fragments [] (Layout.links fragments) where
  bare := ⟨[], rfl, by rw [laid.bare, List.append_nil]⟩
  checked _ := .inl
  edges := laid.edges
  consistent := laid.consistent
  writers := laid.writers
  produced := laid.produced
  provisional := laid.provisional
  synthesized name := by
    rw [laid.synthesized]
    rfl

/-- A node was appended; the boundary and the journal may have changed. -/
def Grows (wiring : Wiring) (layer : Layer) (node : Int) (next : Wiring) : Prop :=
  node = wiring.graph.size ∧ ∃ graph journal, graph.nodes = (wiring.graph.add layer).nodes ∧
    next = { wiring with graph := graph, journal := journal }

/-- A variable that is made up takes the next place. -/
theorem Bound.grows {layer : Layer} {node : Int} {grown : Wiring}
    (bound : wiring.Bound context fragments made edges) (new : name ∉ made)
    (substitute : context.substitute name = .ok layer) (grows : wiring.Grows layer node grown) :
    ({ grown with synthesized := Keyed.put name ⟨node, 0⟩ grown.synthesized } : Wiring).Bound context
      fragments (made ++ [name]) edges ∧ node = (Layout.layers fragments).length + made.length := by
  obtain ⟨rfl, graph, journal, nodes, rfl⟩ := grows
  obtain ⟨extra, supplied, bare⟩ := bound.bare
  have fresh := Context.fresh_of_substitute substitute
  have lengths := congrArg List.length supplied
  rw [List.length_map, List.length_map] at lengths
  have size : (wiring.graph.size : Int) = (Layout.layers fragments).length + made.length := by
    rw [← Graph.length_bare, bare, List.length_append, lengths]
    rfl
  have grown : graph.bare = wiring.graph.bare ++ [layer] := by
    rw [← Graph.bare_add fresh, Graph.bare, nodes]
    rfl
  refine ⟨{ bare := ⟨extra ++ [layer], ?made, ?bare⟩, checked := ?checked, edges := ?edges,
            consistent := ?consistent, writers := bound.writers, produced := bound.produced,
            provisional := bound.provisional, synthesized := ?synthesized }, size⟩
  case made =>
    rw [List.map_append, List.map_append, supplied, List.map_singleton, List.map_singleton, substitute]
  case bare =>
    rw [← List.append_assoc, ← bare]
    exact grown
  case checked =>
    intro edge member
    exact (bound.checked edge member).imp_right fun checked => grown ▸ checked.append [layer]
  case edges => exact (bound.edges.add fresh).of_nodes nodes
  case consistent => exact (bound.consistent.add fresh).of_nodes nodes
  case synthesized =>
    -- The new name has the place behind those made up before, which keep theirs.
    intro other
    rw [Keyed.get?_put, bound.synthesized]
    by_cases same : name = other
    · subst same
      rw [if_pos rfl, if_pos (by simp), List.idxOf_append_of_notMem new, List.idxOf_cons_self, size]
      rfl
    · rw [if_neg same]
      by_cases member : other ∈ made
      · rw [if_pos member, if_pos (List.mem_append_left _ member), List.idxOf_append_of_mem member]
      · rw [if_neg member, if_neg (by simp [member, Ne.symm same])]

/-- A variable that was not made up before gets a layer of its own. -/
theorem grows_of_synthesize {source : PortRef} (absent : Keyed.get? name wiring.synthesized = none)
    (run : (synthesize context name).Yields wiring source next) : ∃ layer node grown,
      context.substitute name = .ok layer ∧ wiring.Grows layer node grown ∧ source = ⟨node, 0⟩ ∧
      next = { grown with synthesized := Keyed.put name ⟨node, 0⟩ grown.synthesized } := by
  rcases synthesize_cases run with ⟨present, _⟩ |
    ⟨_, declaration, stored, node, grown, declared, contained, makes, rfl, rfl⟩
  · cases absent.symm.trans present
  have substitute : ∀ layer : Layer, (if declaration.persistable || stored then
      (do return Layer.constant (← context.loadOrZeros name) : Attempt Layer)
      else .ok (Layer.input declaration.shape)) = .ok layer → context.substitute name = .ok layer := by
    intro layer built
    exact Attempt.bind_eq_ok.mpr ⟨declaration, declared,
      Attempt.bind_eq_ok.mpr ⟨stored, contained, built⟩⟩
  -- A variable that persists or has a payload becomes a constant, and any other one an input.
  split at makes
  · next persists =>
    obtain ⟨value, journal, loaded, number, grew⟩ := makeConstant_cases makes
    refine ⟨_, node, grown, substitute (Layer.constant value) ?_, ⟨number, _, journal, rfl, grew⟩, rfl, rfl⟩
    rw [if_pos persists]
    exact Attempt.bind_eq_ok.mpr ⟨value, loaded, rfl⟩
  · next transient =>
    obtain ⟨journal, number, grew⟩ := makeInput_cases makes
    refine ⟨_, node, grown, substitute (Layer.input declaration.shape) ?_, ⟨number, { wiring.graph.add _ with
      inputs := wiring.graph.inputs ++ [(wiring.graph.size : Int)] }, journal, rfl, grew⟩, rfl, rfl⟩
    rw [if_neg transient]

/-- Making up a variable notes it and gives its port. -/
theorem Bound.synthesize {source : PortRef} {reader : Nat}
    (bound : wiring.Bound context fragments made edges)
    (unwritten : Layout.writer? fragments name reader = none)
    (run : (synthesize context name).Yields wiring source next) :
    next.Bound context fragments (Layout.note fragments made name reader) edges ∧
      source = ⟨(Layout.layers fragments).length +
        (Layout.note fragments made name reader).idxOf name, 0⟩ := by
  have table := bound.synthesized name
  by_cases member : name ∈ made
  · have same : Layout.note fragments made name reader = made := by simp [Layout.note, member]
    rw [if_pos member] at table
    rcases synthesize_cases run with ⟨present, rfl⟩ | ⟨absent, _⟩
    · cases table.symm.trans present
      rw [same]
      exact ⟨bound, rfl⟩
    · cases table.symm.trans absent
  · have more : Layout.note fragments made name reader = made ++ [name] := by
      simp [Layout.note, member, unwritten]
    rw [if_neg member] at table
    obtain ⟨layer, node, grown, substitute, grows, rfl, rfl⟩ := grows_of_synthesize table run
    obtain ⟨later, rfl⟩ := bound.grows member substitute grows
    rw [more, List.idxOf_append_of_notMem member, List.idxOf_cons_self]
    exact ⟨later, rfl⟩

/-- What is made up for a read is its origin from then on. -/
theorem Bound.eq_origin {source : PortRef} {reader : Nat} (bound : wiring.Bound context fragments made edges)
    (unwritten : Layout.writer? fragments name reader = none)
    (run : (Wiring.synthesize context name).Yields wiring source next) :
    source = Layout.origin fragments (Layout.note fragments made name reader) name reader := by
  rw [(bound.synthesize unwritten run).2, Layout.origin, unwritten, Option.getD_none]

theorem Bound.connects {source target : PortRef} {graph : Graph}
    (bound : wiring.Bound context fragments made edges) (checked : Layer.Checked wiring.graph.bare source target)
    (step : wiring.graph.Connects source target graph) :
    ({ wiring with graph := graph } : Wiring).Bound context fragments made
      (edges ++ [(source, target)]) where
  bare := by
    obtain ⟨extra, supplied, bare⟩ := bound.bare
    exact ⟨extra, supplied, step.bare.trans bare⟩
  checked := by
    rw [step.bare]
    intro edge member
    rcases List.mem_append.mp member with before | new
    · exact bound.checked edge before
    · cases List.mem_singleton.mp new
      exact .inr checked
  edges := bound.edges.connects step
  consistent := bound.consistent.connects step
  writers := bound.writers
  produced := bound.produced
  provisional := bound.provisional
  synthesized := bound.synthesized

theorem Bound.writer?_eq (bound : wiring.Bound context fragments made edges) (name : String) (reader : Nat) :
    wiring.writer? name reader = Layout.writer? fragments name reader := by
  unfold writer? Layout.writer?
  rw [bound.writers]

/-- A read is connected with its origin. -/
theorem Bound.bindOne {target : PortRef} {reader : Nat} {value : Unit}
    (bound : wiring.Bound context fragments made edges) (closed : Layout.Closed fragments)
    (plain : target.Plain) (run : (bindOne context target name reader).Yields wiring value next) :
    next.Bound context fragments (Layout.note fragments made name reader) (edges ++
      [(Layout.origin fragments (Layout.note fragments made name reader) name reader, target)]) := by
  obtain ⟨source, state, graph, chosen, checked, wires, rfl⟩ := bindOne_cases run
  rw [bound.writer?_eq] at chosen
  have origin : state.Bound context fragments (Layout.note fragments made name reader) edges ∧
      source = Layout.origin fragments (Layout.note fragments made name reader) name reader ∧ source.Plain := by
    unfold Layout.origin
    rcases chosen with ⟨found, rfl⟩ | ⟨found, makes⟩
    · have unchanged : Layout.note fragments made name reader = made := by simp [Layout.note, found]
      rw [unchanged, found]
      obtain ⟨_, _, _, exists_plain⟩ := Layout.writer?_inside closed found
      exact ⟨bound, rfl, exists_plain⟩
    · obtain ⟨later, place⟩ := bound.synthesize found makes
      rw [found]
      refine ⟨later, place, ?_⟩
      rw [place]
      exact ⟨by simp only; omega, Int.le_refl 0⟩
  obtain ⟨later, rfl, exits⟩ := origin
  exact later.connects (checked_of_checkTarget exits plain checked) (Graph.connects_of_connect exits plain wires)

/-- The bindings of the first reads. -/
theorem bound_of_bindEach {done rest : List (PortRef × (String × Nat))} {value : Unit}
    (laid : wiring.Laid fragments) (split : Layout.reads fragments = done ++ rest)
    (run : (bindEach context done).Yields wiring value next) :
    next.Bound context fragments (Layout.supply fragments [] done) (Layout.links fragments ++
      Layout.bindings fragments (Layout.made fragments) done) := by
  refine each_induction (fun (done : List (PortRef × (String × Nat))) (w : Wiring) =>
    w.Bound context fragments (Layout.supply fragments [] done) (Layout.links fragments ++
      Layout.bindings fragments (Layout.made fragments) done)) ?_ ?_ run
  · rw [Layout.bindings, List.map_nil, List.append_nil]
    exact laid.bound context
  · rintro front ⟨target, name, reader⟩ back state after here bound binds
    rw [here, List.append_assoc, List.cons_append] at split
    have member : (target, (name, reader)) ∈ Layout.reads fragments := by
      rw [split]
      exact List.mem_append_right _ List.mem_cons_self
    obtain ⟨port, present⟩ := Option.isSome_iff_exists.mp (Layout.read_inside laid.closed member).1
    have step := bound.bindOne laid.closed (Layer.plain_of_portAmong? _ present) binds
    -- The variables noted so far come first among all that are made up.
    have pre : Layout.note fragments (Layout.supply fragments [] front) name reader <+:
        Layout.made fragments := by
      rw [Layout.made, split, Layout.supply_append]
      exact Layout.prefix_supply _ (back ++ rest)
    rw [Layout.origin_of_prefix pre fun none =>
      (Layout.mem_note name reader).mpr (.inr ⟨rfl, none⟩)] at step
    rw [Layout.supply_append, Layout.bindings, List.map_append, ← List.append_assoc]
    exact step

/-- When all reads are bound, all have passed the check. -/
theorem Bound.passed (bound : wiring.Bound context fragments (Layout.made fragments) (Layout.links fragments ++
      Layout.bindings fragments (Layout.made fragments) (Layout.reads fragments)))
    (closed : Layout.Closed fragments) : Layout.Checked context fragments := by
  intro extra supplied edge member
  obtain ⟨others, same, bare⟩ := bound.bare
  have unique : others = extra :=
    List.map_injective_iff.mpr (fun _ _ => Except.ok.inj) (same.symm.trans supplied)
  rw [← unique, ← bare]
  refine (bound.checked edge (List.mem_append_right _ member)).resolve_left fun linked => ?_
  -- No port that waits is linked.
  have apart := (Layout.perm_targets fragments).nodup_iff.mpr (Layout.nodup_targets closed)
  obtain ⟨read, present, rfl⟩ := List.mem_map.mp member
  exact (List.nodup_append.mp apart).2.2 _ (List.mem_map_of_mem linked) _ (List.mem_map_of_mem present) rfl

theorem bound_of_bindPending {value : Unit} (laid : wiring.Laid fragments)
    (run : (bindPending context).Yields wiring value next) :
    next.Bound context fragments (Layout.made fragments) (Layout.links fragments ++
      Layout.bindings fragments (Layout.made fragments) (Layout.reads fragments)) := by
  rw [bindPending_eq] at run
  obtain ⟨_, _, get, rest⟩ := yields_bind.mp run
  obtain ⟨rfl, rfl⟩ := yields_get.mp get
  rw [laid.pending] at rest
  exact bound_of_bindEach laid (List.append_nil _).symm rest

end

end Wiring

end LayerGraph
