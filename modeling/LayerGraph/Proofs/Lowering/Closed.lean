import LayerGraph.Proofs.Graph.Border
import LayerGraph.Proofs.Graph.Shapes
import LayerGraph.Proofs.Lowering.Form
import Mathlib.Data.List.Nodup

/-! Fragments account for all of their ports.

Every input port of a fragment is either linked inside or waits for a variable, and never both. What
is linked or supplied exists, links go forward, and a provisional layer takes data in. What waits has the
declared shape, and a link has one shape at both ends. The boundary layers are the ones that are listed.
-/

set_option autoImplicit false

namespace LayerGraph

theorem Context.declares_of_shape {context : Context} {name : String} {shape : Shape}
    (declared : context.shape name = .ok shape) : context.block.declares name = true := by
  obtain ⟨declaration, found, _⟩ := Attempt.map_eq_ok.mp declared
  unfold Block.declaration at found
  split at found
  · next present => rw [Block.declares, present]; rfl
  · cases found

namespace Layer

section
variable {α : Type} {ports : Layer → List α} {ref : PortRef}

theorem isSome_portAmong?_singleton {layer : Layer} :
    (portAmong? ports [layer] ref).isSome = true ↔
      ∃ slot : Nat, slot < (ports layer).length ∧ ref = ⟨0, slot⟩ := by
  rw [isSome_portAmong?]
  constructor
  · rintro ⟨place, slot, other, rfl, here, bound⟩
    cases place with
    | zero =>
      cases here
      exact ⟨slot, bound, rfl⟩
    | succ place => cases here
  · rintro ⟨slot, bound, rfl⟩
    exact ⟨0, slot, layer, rfl, rfl, bound⟩

theorem isSome_portAmong?_pair {first second : Layer} :
    (portAmong? ports [first, second] ref).isSome = true ↔
      (∃ slot : Nat, slot < (ports first).length ∧ ref = ⟨0, slot⟩) ∨
        ∃ slot : Nat, slot < (ports second).length ∧ ref = ⟨1, slot⟩ := by
  rw [isSome_portAmong?]
  constructor
  · rintro ⟨place, slot, other, rfl, here, bound⟩
    match place, here with
    | 0, here =>
      cases here
      exact .inl ⟨slot, bound, rfl⟩
    | 1, here =>
      cases here
      exact .inr ⟨slot, bound, rfl⟩
  · rintro (⟨slot, bound, rfl⟩ | ⟨slot, bound, rfl⟩)
    · exact ⟨0, slot, first, rfl, rfl, bound⟩
    · exact ⟨1, slot, second, rfl, rfl, bound⟩

end

end Layer

namespace Fragment

/-- The input ports that a fragment accounts for. -/
def targets (fragment : Fragment) : List PortRef :=
  fragment.links.map Prod.snd ++ fragment.pending.map Prod.fst

/-- A fragment whose bindings cover its ports. -/
structure Closed (fragment : Fragment) : Prop where
  fresh : ∀ layer ∈ fragment.layers, layer.Fresh
  targets_iff : ∀ ref, ref ∈ fragment.targets ↔
    (Layer.portAmong? Layer.inputs fragment.layers ref).isSome = true
  nodup : fragment.targets.Nodup
  linked : ∀ link ∈ fragment.links,
    (Layer.portAmong? Layer.outputs fragment.layers link.1).isSome = true
  forward : ∀ link ∈ fragment.links, link.1.node < link.2.node
  supplied : ∀ entry ∈ fragment.produced,
    (Layer.portAmong? Layer.outputs fragment.layers entry.2).isSome = true
  once : fragment.produced.length ≤ 1
  provisional : ∀ entry ∈ fragment.provisional, (entry.1, ⟨entry.2, 0⟩) ∈ fragment.produced ∧
    ∃ shape, fragment.layers[entry.2]? = some (Layer.input shape)

/-- The ports that wait for the variables read, by slot of the first layer. -/
def waiting (reads : List String) : List (PortRef × String) :=
  reads.zipIdx.map fun (name, slot) => (⟨0, slot⟩, name)

theorem mem_waiting {reads : List String} {ref : PortRef} {name : String} :
    (ref, name) ∈ waiting reads ↔ ∃ slot : Nat, ref = ⟨0, slot⟩ ∧ reads[slot]? = some name := by
  simp only [waiting, List.mem_map, Prod.exists, List.mem_zipIdx_iff_getElem?, Prod.mk.injEq]
  constructor
  · rintro ⟨other, slot, here, rfl, rfl⟩
    exact ⟨slot, rfl, here⟩
  · rintro ⟨slot, rfl, here⟩
    exact ⟨name, slot, here, rfl, rfl⟩

theorem mem_targets_waiting {reads : List String} {ref : PortRef} :
    ref ∈ (waiting reads).map Prod.fst ↔ ∃ slot : Nat, slot < reads.length ∧ ref = ⟨0, slot⟩ := by
  simp only [List.mem_map, Prod.exists, exists_and_right, exists_eq_right, mem_waiting]
  constructor
  · rintro ⟨name, slot, rfl, here⟩
    exact ⟨slot, (List.getElem?_eq_some_iff.mp here).1, rfl⟩
  · rintro ⟨slot, bound, rfl⟩
    exact ⟨reads[slot], slot, rfl, List.getElem?_eq_getElem bound⟩

theorem nodup_targets_waiting (reads : List String) : ((waiting reads).map Prod.fst).Nodup := by
  have slots : (waiting reads).map Prod.fst =
      (List.range reads.length).map fun slot => (⟨0, (slot : Nat)⟩ : PortRef) := by
    apply List.ext_getElem
    · simp [waiting]
    · intro slot here there
      simp [waiting]
  rw [slots]
  apply List.Nodup.map _ List.nodup_range
  intro a b same
  exact Int.ofNat.inj (congrArg PortRef.slot same)

theorem closed_single {layer : Layer} {reads : List String} {shapes : List Shape} (write : String)
    (counted : reads.length = shapes.length) (interior : layer.Interior shapes) :
    (Fragment.ofLayer layer reads write).Closed where
  fresh := by
    intro other member
    rw [List.mem_singleton.mp member]
    exact interior.fresh
  targets_iff ref := by
    rw [targets, ofLayer, List.map_nil, List.nil_append, Layer.isSome_portAmong?_singleton,
      interior.length_inputs, ← counted]
    exact mem_targets_waiting
  nodup := nodup_targets_waiting reads
  linked := nofun
  forward := nofun
  supplied := by
    intro entry member
    rw [List.mem_singleton.mp member, ofLayer, Layer.isSome_portAmong?_singleton, interior.outputs]
    exact ⟨0, Nat.one_pos, rfl⟩
  once := Nat.le_refl 1
  provisional := nofun

theorem closed_chain {first second : Layer} {shape middle : Shape} (read write : String)
    (before : first.Interior [shape]) (after : second.Interior [middle]) :
    (Fragment.chain first second read write).Closed where
  fresh := by
    intro other member
    simp only [chain, List.mem_cons, List.not_mem_nil, or_false] at member
    rcases member with rfl | rfl
    · exact before.fresh
    · exact after.fresh
  targets_iff ref := by
    simp only [targets, chain, Layer.isSome_portAmong?_pair, before.length_inputs, after.length_inputs,
      List.length_singleton, Nat.lt_one_iff, exists_eq_left]
    simp [or_comm]
  nodup := by simp [targets, chain]
  linked := by
    intro link member
    rw [List.mem_singleton.mp member, chain, Layer.isSome_portAmong?_pair, before.outputs]
    exact .inl ⟨0, Nat.one_pos, rfl⟩
  forward := by simp [chain]
  supplied := by
    intro entry member
    rw [List.mem_singleton.mp member, chain, Layer.isSome_portAmong?_pair, after.outputs]
    exact .inr ⟨0, Nat.one_pos, rfl⟩
  once := Nat.le_refl 1
  provisional := nofun

theorem closed_feed (shape : Shape) (name : String) : (Fragment.feed shape name).Closed where
  fresh := by
    intro other member
    rw [List.mem_singleton.mp member]
    exact Layer.fresh_input shape
  targets_iff ref := by simp [targets, feed, Layer.isSome_portAmong?_singleton, Layer.input]
  nodup := by simp [targets, feed]
  linked := nofun
  forward := nofun
  supplied := by simp [feed, Layer.isSome_portAmong?_singleton, Layer.input]
  once := Nat.le_refl 1
  provisional := by simp [feed]

theorem closed_fetch (shape : Shape) (name : String) : (Fragment.fetch shape name).Closed where
  fresh := by
    intro other member
    rw [List.mem_singleton.mp member]
    exact Layer.fresh_output shape
  targets_iff ref := by simp [targets, fetch, Layer.isSome_portAmong?_singleton, Layer.output]
  nodup := by simp [targets, fetch]
  linked := nofun
  forward := nofun
  supplied := nofun
  once := Nat.zero_le 1
  provisional := nofun

namespace Form

variable {context : Context} {kind : OperatorKind} {fragment : Fragment} {reads : List String}
  {write : Option String}

/-- A fragment waits for what its operator reads, at the slots of its first layer. -/
theorem pending (form : fragment.Form context kind reads write) : fragment.pending = waiting reads := by
  cases form <;> rfl

/-- A fragment supplies what its operator writes, from its last layer. -/
theorem produced (form : fragment.Form context kind reads write) :
    fragment.produced = write.toList.map fun name => (name, ⟨(fragment.layers.length : Int) - 1, 0⟩) := by
  cases form <;> rfl

theorem closed (form : fragment.Form context kind reads write) : fragment.Closed := by
  cases form with
  | feed => exact closed_feed _ _
  | fetch => exact closed_fetch _ _
  | single _ write declared interior =>
    have counted := congrArg List.length declared
    rw [List.length_map, List.length_map] at counted
    exact closed_single write counted interior
  | chain _ write _ before after => exact closed_chain _ write before after

/-- The first layer takes the variables that its operator reads in the shapes that are declared for them. -/
theorem exists_first (form : fragment.Form context kind reads write) : ∃ first rest shapes,
    fragment.layers = first :: rest ∧ first.inputs.map InputPort.shape = shapes ∧
      reads.map context.shape = shapes.map .ok := by
  cases form with
  | feed => exact ⟨_, _, _, rfl, rfl, rfl⟩
  | fetch declared => exact ⟨_, _, _, rfl, rfl, congrArg (fun shape => [shape]) declared⟩
  | single _ write declared interior => exact ⟨_, _, _, rfl, interior.inputs, declared⟩
  | chain _ write declared before after =>
    exact ⟨_, _, _, rfl, before.inputs, congrArg (fun shape => [shape]) declared⟩

/-- Every output port is linked inside or supplies what the operator writes. -/
theorem links_or_supplies (form : fragment.Form context kind reads write) {source : PortRef}
    (present : (Layer.portAmong? Layer.outputs fragment.layers source).isSome = true) :
    (∃ target, (source, target) ∈ fragment.links) ∨ ∃ name, (name, source) ∈ fragment.produced := by
  -- The first of two layers gives to the second, and every other layer gives what is written.
  cases form with
  | @feed shape name declared =>
    obtain ⟨slot, below, rfl⟩ := Layer.isSome_portAmong?_singleton.mp present
    obtain rfl := Nat.lt_one_iff.mp below
    exact .inr ⟨name, List.mem_singleton.mpr rfl⟩
  | fetch =>
    obtain ⟨slot, below, rfl⟩ := Layer.isSome_portAmong?_singleton.mp present
    cases below
  | single _ write _ interior =>
    obtain ⟨slot, below, rfl⟩ := Layer.isSome_portAmong?_singleton.mp present
    rw [interior.outputs] at below
    obtain rfl := Nat.lt_one_iff.mp below
    exact .inr ⟨write, List.mem_singleton.mpr rfl⟩
  | chain _ write _ before after =>
    rcases Layer.isSome_portAmong?_pair.mp present with ⟨slot, below, rfl⟩ | ⟨slot, below, rfl⟩
    · rw [before.outputs] at below
      obtain rfl := Nat.lt_one_iff.mp below
      exact .inl ⟨⟨1, 0⟩, List.mem_singleton.mpr rfl⟩
    · rw [after.outputs] at below
      obtain rfl := Nat.lt_one_iff.mp below
      exact .inr ⟨write, List.mem_singleton.mpr rfl⟩

/-- A layer gives something out, or is the one that an operator hands out with. -/
theorem outputs_of_layer (form : fragment.Form context kind reads write) {layer : Layer}
    (member : layer ∈ fragment.layers) : layer.kind = .output ∨ 0 < layer.outputs.length := by
  cases form with
  | feed =>
    rw [List.mem_singleton.mp member]
    exact .inr Nat.one_pos
  | fetch =>
    rw [List.mem_singleton.mp member]
    exact .inl rfl
  | single _ write _ interior =>
    rw [List.mem_singleton.mp member, interior.outputs]
    exact .inr Nat.one_pos
  | chain _ write _ before after =>
    rcases List.mem_cons.mp member with rfl | last
    · exact .inr (before.outputs ▸ Nat.one_pos)
    · rw [List.mem_singleton.mp last, after.outputs]
      exact .inr Nat.one_pos

/-- A layer takes something in, or is the one that an operator feeds with. -/
theorem inputs_of_layer (form : fragment.Form context kind reads write)
    (data : kind ≠ .feed → reads ≠ []) {layer : Layer} (member : layer ∈ fragment.layers) :
    layer.kind = .input ∨ 0 < layer.inputs.length := by
  cases form with
  | feed =>
    rw [List.mem_singleton.mp member]
    exact .inl rfl
  | fetch =>
    rw [List.mem_singleton.mp member]
    exact .inr Nat.one_pos
  | single inner write declared interior =>
    have counted := congrArg List.length declared
    rw [List.length_map, List.length_map] at counted
    have some := List.length_pos_iff.mpr (data fun same => inner (same ▸ List.mem_cons_self))
    rw [List.mem_singleton.mp member, interior.length_inputs, ← counted]
    exact .inr some
  | chain _ write _ before after =>
    rcases List.mem_cons.mp member with rfl | last
    · exact .inr (before.length_inputs ▸ Nat.one_pos)
    · rw [List.mem_singleton.mp last, after.length_inputs]
      exact .inr Nat.one_pos

/-- A port waits in the shape that its variable is declared with. -/
theorem shape_of_pending (form : fragment.Form context kind reads write) {ref : PortRef} {name : String}
    (waits : (ref, name) ∈ fragment.pending) : ∃ shape, context.shape name = .ok shape ∧
      Layer.targetShape? fragment.layers ref = some shape := by
  rw [form.pending, mem_waiting] at waits
  obtain ⟨slot, rfl, read⟩ := waits
  obtain ⟨first, rest, shapes, layers, taken, declared⟩ := form.exists_first
  have here := congrArg (·[slot]?) declared
  simp only [List.getElem?_map, read, Option.map_some] at here
  obtain ⟨shape, present, same⟩ := Option.map_eq_some_iff.mp here.symm
  have enters : Layer.targetShape? (first :: rest) ⟨0, slot⟩ = (first.inputs.map InputPort.shape)[slot]? :=
    Layer.targetShape?_of_getElem? rfl slot
  exact ⟨shape, same.symm, by rw [layers]; exact enters.trans (taken ▸ present)⟩

/-- A link joins two layers that lie inside, the second one made for the shape that the first one gives. -/
theorem exists_pair (form : fragment.Form context kind reads write) {source target : PortRef}
    (linked : (source, target) ∈ fragment.links) : ∃ first second shape, fragment.layers = [first, second] ∧
      source = ⟨0, 0⟩ ∧ target = ⟨1, 0⟩ ∧ first.kind ∉ [LayerKind.input, .output, .constant] ∧
      second.kind ∉ [LayerKind.input, .output, .constant] ∧ first.outputs.map OutputPort.shape = [shape] ∧
      second.inputs.map InputPort.shape = [shape] := by
  cases form with
  | feed | fetch | single => cases linked
  | @chain _ _ first second _ _ _ _ before after =>
    obtain ⟨rfl, rfl⟩ := Prod.mk.inj (List.mem_singleton.mp linked)
    refine ⟨first, second, first.outputShape, rfl, rfl, rfl, before.kind, after.kind, ?_, after.inputs⟩
    obtain ⟨port, only⟩ := List.length_eq_one_iff.mp before.outputs
    rw [Layer.outputShape, only]
    rfl

/-- The boundary layers of a fragment are those that it lists. -/
theorem border (form : fragment.Form context kind reads write) :
    fragment.boundaryInputs.map Int.ofNat = Layer.placesOf .input fragment.layers ∧
      fragment.boundaryOutputs.map Int.ofNat = Layer.placesOf .output fragment.layers := by
  have inner : ∀ {layers : List Layer} {kind : LayerKind}, (∀ layer ∈ layers, layer.kind ≠ kind) →
      Layer.placesOf kind layers = [] := by
    intro layers kind other
    refine List.eq_nil_iff_forall_not_mem.mpr fun index member => ?_
    obtain ⟨place, layer, _, here, same⟩ := Layer.mem_placesOf.mp member
    exact other layer (List.mem_of_getElem? here) same
  cases form with
  | feed => exact ⟨rfl, rfl⟩
  | fetch => exact ⟨rfl, rfl⟩
  | single _ _ _ interior =>
    have outside := interior.kind
    simp only [List.mem_cons, List.not_mem_nil, or_false, not_or] at outside
    constructor <;> simp [Fragment.ofLayer, inner, outside]
  | chain _ _ _ before after =>
    have outside := before.kind
    have beyond := after.kind
    simp only [List.mem_cons, List.not_mem_nil, or_false, not_or] at outside beyond
    constructor <;> simp [Fragment.chain, inner, outside, beyond]

end Form

end Fragment

end LayerGraph
