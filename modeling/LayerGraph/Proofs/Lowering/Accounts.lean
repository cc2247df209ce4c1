import LayerGraph.Proofs.Lowering.Closed
import LayerGraph.Proofs.Lowering.Convolution

/-! What wiring takes for granted about a fragment.

A lowered operator accounts for every port of its layers: an input port is linked inside or waits for a variable, an output
port is linked inside or supplies one. Everything else that a fragment holds is about layers and ports of its own.
-/

set_option autoImplicit false

namespace LayerGraph

namespace Fragment

/-- A reference to a port of a layer of the fragment, by numbers that are not negative. -/
def Holds {α : Type} (fragment : Fragment) (ports : Layer → List α) (ref : PortRef) : Prop :=
  ∃ (node slot : Nat) (layer : Layer), ref = ⟨node, slot⟩ ∧ fragment.layers[node]? = some layer ∧
    slot < (ports layer).length

/-- Every port of a fragment is accounted for, and the fragment speaks of nothing else. -/
structure Accounts (context : Context) (fragment : Fragment) : Prop where
  entered : ∀ ref, fragment.Holds Layer.inputs ref →
    (fragment.links.map Prod.snd ++ fragment.pending.map Prod.fst).count ref = 1
  left : ∀ ref, fragment.Holds Layer.outputs ref →
    (∃ target, (ref, target) ∈ fragment.links) ∨ ∃ name, (name, ref) ∈ fragment.produced
  links : ∀ source target, (source, target) ∈ fragment.links →
    fragment.Holds Layer.outputs source ∧ fragment.Holds Layer.inputs target ∧ source.node < target.node
  pending : ∀ ref name, (ref, name) ∈ fragment.pending →
    fragment.Holds Layer.inputs ref ∧ context.block.declares name = true
  produced : ∀ name ref, (name, ref) ∈ fragment.produced → fragment.Holds Layer.outputs ref
  once : fragment.produced.length ≤ 1
  takesIn : fragment.boundaryInputs.Nodup ∧ ∀ index : Nat, index ∈ fragment.boundaryInputs ↔
    ∃ layer, fragment.layers[index]? = some layer ∧ layer.kind = .input
  handsOut : fragment.boundaryOutputs.Nodup ∧ ∀ index : Nat, index ∈ fragment.boundaryOutputs ↔
    ∃ layer, fragment.layers[index]? = some layer ∧ layer.kind = .output
  provisional : ∀ name index, (name, index) ∈ fragment.provisional →
    ∃ layer, fragment.layers[index]? = some layer ∧ layer.kind = .input

theorem holds_iff {α : Type} {fragment : Fragment} {ports : Layer → List α} {ref : PortRef} :
    fragment.Holds ports ref ↔ (Layer.portAmong? ports fragment.layers ref).isSome = true :=
  (Layer.isSome_portAmong? ports).symm

/-- A list of the places of a kind of layer names them all, each once. -/
theorem lists_of_placesOf {layers : List Layer} {kind : LayerKind} {places : List Nat}
    (same : places.map Int.ofNat = Layer.placesOf kind layers) :
    places.Nodup ∧ ∀ index : Nat, index ∈ places ↔ ∃ layer, layers[index]? = some layer ∧ layer.kind = kind := by
  have inj : Function.Injective Int.ofNat := fun _ _ => Int.ofNat.inj
  refine ⟨(List.nodup_map_iff inj).mp (same ▸ Layer.nodup_placesOf kind layers), fun index => ?_⟩
  rw [← List.mem_map_of_injective inj, same, Layer.mem_placesOf]
  constructor
  · rintro ⟨place, layer, number, here, found⟩
    obtain rfl := Int.ofNat.inj number
    exact ⟨layer, here, found⟩
  · rintro ⟨layer, here, found⟩
    exact ⟨index, layer, rfl, here, found⟩

theorem Form.accounts {context : Context} {kind : OperatorKind} {fragment : Fragment} {reads : List String}
    {write : Option String} (form : fragment.Form context kind reads write) : fragment.Accounts context := by
  have closed := form.closed
  have target : ∀ ref, ref ∈ fragment.targets → fragment.Holds Layer.inputs ref :=
    fun ref member => holds_iff.mpr ((closed.targets_iff ref).mp member)
  refine ⟨fun ref holds => ?_, fun ref holds => ?_, fun source ref linked => ?_, fun ref name waits => ?_,
    fun name ref supplies => ?_, closed.once, lists_of_placesOf form.border.1, lists_of_placesOf form.border.2,
    fun name index listed => ?_⟩
  · exact List.count_eq_one_of_mem closed.nodup ((closed.targets_iff ref).mpr (holds_iff.mp holds))
  · exact form.links_or_supplies (holds_iff.mp holds)
  · refine ⟨holds_iff.mpr (closed.linked _ linked), target ref ?_, closed.forward _ linked⟩
    exact List.mem_append_left _ (List.mem_map_of_mem linked)
  · obtain ⟨shape, declared, _⟩ := form.shape_of_pending waits
    exact ⟨target ref (List.mem_append_right _ (List.mem_map_of_mem waits)), Context.declares_of_shape declared⟩
  · exact holds_iff.mpr (closed.supplied _ supplies)
  · obtain ⟨_, shape, here⟩ := closed.provisional _ listed
    exact ⟨_, here, rfl⟩

end Fragment

namespace Operator

/-- Whatever an operator is lowered to accounts for its ports. -/
theorem accounts_of_lower {op : Operator} {context : Context} {fragment : Fragment}
    (lowered : op.lower context = .ok fragment) : fragment.Accounts context := by
  obtain ⟨kind, _, form⟩ := form_of_lower lowered
  exact form.accounts

/-- A layer that pads and a convolution behind it: one port is linked, one waits, and one of two output ports supplies. -/
theorem accounts_strided : ∃ fragment, strided.lower image = .ok fragment ∧ fragment.layers.length = 2 ∧
    fragment.Accounts image := by
  have bounded : stridedPlan.Bounded := ⟨.inr rfl, by decide, by decide, by decide, by decide⟩
  obtain ⟨fragment, conv, form⟩ := Convolving.exists_form bounded convolves_strided.extents convolves_strided.fed
    (by decide) "x" "y"
  have lowered : strided.lower image = .ok fragment :=
    (lower_iff_form convolves_strided bounded.padding).mpr ⟨conv, form⟩
  refine ⟨fragment, lowered, ?_, accounts_of_lower lowered⟩
  cases form with
  | plain none => cases none
  | kept _ other => exact absurd rfl other
  | padded => rfl

end Operator

end LayerGraph
