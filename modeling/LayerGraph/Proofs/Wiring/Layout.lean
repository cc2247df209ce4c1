import LayerGraph.Proofs.Lowering.Closed
import LayerGraph.Wiring.Basic
import Mathlib.Data.List.Perm.Basic
import Mathlib.Data.List.Induction

/-! The places of fragments in the arena.

The layers of fragments follow each other, so a fragment starts where those before it end. Its links,
its waiting ports and its supplied ports are shifted by this offset and named with its operator.
-/

set_option autoImplicit false

namespace LayerGraph

theorem PortRef.rebase_inj {a b : PortRef} {offset : Int} :
    a.rebase offset = b.rebase offset ↔ a = b := by
  cases a
  cases b
  simp [rebase]

namespace Layout

/-- A fragment with the number of its operator and the number of its first layer. -/
structure Placed where
  reader : Nat
  offset : Nat
  fragment : Fragment

namespace Placed

def links (placed : Placed) : List (PortRef × PortRef) :=
  placed.fragment.links.map fun (source, target) =>
    (source.rebase placed.offset, target.rebase placed.offset)

def reads (placed : Placed) : List (PortRef × (String × Nat)) :=
  placed.fragment.pending.map fun (port, name) => (port.rebase placed.offset, (name, placed.reader))

def writes (placed : Placed) : List (String × (Nat × PortRef)) :=
  placed.fragment.produced.map fun (name, port) => (name, (placed.reader, port.rebase placed.offset))

def targets (placed : Placed) : List PortRef :=
  placed.fragment.targets.map fun target => target.rebase placed.offset

theorem targets_eq (placed : Placed) :
    placed.targets = placed.links.map Prod.snd ++ placed.reads.map Prod.fst := by
  simp only [targets, Fragment.targets, links, reads, List.map_append, List.map_map]
  rfl

end Placed

/-- The layers of fragments in a row. -/
def layers (fragments : List Fragment) : List Layer := fragments.flatMap Fragment.layers

/-- The number of the first layer of an operator's fragment. -/
def offset (fragments : List Fragment) (reader : Nat) : Nat := (layers (fragments.take reader)).length

/-- The fragments at their places. -/
def placed (fragments : List Fragment) : List Placed :=
  fragments.zipIdx.map fun (fragment, reader) => ⟨reader, offset fragments reader, fragment⟩

/-- The connections inside of fragments. -/
def links (fragments : List Fragment) : List (PortRef × PortRef) :=
  (placed fragments).flatMap Placed.links

/-- The ports that wait for variables, with the operators that read them. -/
def reads (fragments : List Fragment) : List (PortRef × (String × Nat)) :=
  (placed fragments).flatMap Placed.reads

/-- The ports that a connection or a variable is meant for. -/
def targets (fragments : List Fragment) : List PortRef := (placed fragments).flatMap Placed.targets

/-- The variables that are written, with the operators that write them and the ports. -/
def writes (fragments : List Fragment) : List (String × (Nat × PortRef)) :=
  (placed fragments).flatMap Placed.writes

/-- The writers of a variable, in order. -/
def writers (fragments : List Fragment) (name : String) : List (Nat × PortRef) :=
  ((writes fragments).filter fun entry => entry.1 = name).map Prod.snd

/-- A variable that a boundary layer takes in, written at the port of that layer. -/
def Fed (fragments : List Fragment) (name : String) (node : Int) : Prop :=
  ∃ (place writer : Nat) (shape : Shape), node = place ∧
    (name, (writer, ⟨place, 0⟩)) ∈ writes fragments ∧
    (layers fragments)[place]? = some (Layer.input shape)

section
variable (fragments : List Fragment) (fragment : Fragment)

theorem layers_concat : layers (fragments ++ [fragment]) = layers fragments ++ fragment.layers := by
  simp [layers]

theorem offset_length : offset fragments fragments.length = (layers fragments).length := by
  rw [offset, List.take_length]

theorem offset_append {reader : Nat} (inside : reader ≤ fragments.length) (rest : List Fragment) :
    offset (fragments ++ rest) reader = offset fragments reader := by
  rw [offset, List.take_append_of_le_length inside, offset]

theorem placed_concat : placed (fragments ++ [fragment]) =
    placed fragments ++ [⟨fragments.length, (layers fragments).length, fragment⟩] := by
  unfold placed
  rw [List.zipIdx_append, List.map_append]
  congr 1
  · apply List.map_congr_left
    rintro ⟨other, reader⟩ member
    have inside := (List.getElem?_eq_some_iff.mp (List.mem_zipIdx_iff_getElem?.mp member)).1
    simp only [offset_append fragments (Nat.le_of_lt inside)]
  · simp [offset_append fragments (Nat.le_refl _), offset_length]

theorem links_concat : links (fragments ++ [fragment]) =
    links fragments ++ Placed.links ⟨fragments.length, (layers fragments).length, fragment⟩ := by
  simp [links, placed_concat]

theorem reads_concat : reads (fragments ++ [fragment]) =
    reads fragments ++ Placed.reads ⟨fragments.length, (layers fragments).length, fragment⟩ := by
  simp [reads, placed_concat]

/-- More fragments add reads behind those present. -/
theorem prefix_reads (more : List Fragment) : reads fragments <+: reads (fragments ++ more) := by
  induction more using List.reverseRecOn with
  | nil => exact congrArg reads (List.append_nil fragments) ▸ List.prefix_rfl
  | append_singleton more fragment ih =>
    rw [← List.append_assoc, reads_concat]
    exact ih.trans (List.prefix_append _ _)

theorem writes_concat : writes (fragments ++ [fragment]) =
    writes fragments ++ Placed.writes ⟨fragments.length, (layers fragments).length, fragment⟩ := by
  simp [writes, placed_concat]

end

theorem Fed.concat {fragments : List Fragment} {name : String} {node : Int}
    (fed : Fed fragments name node) (fragment : Fragment) : Fed (fragments ++ [fragment]) name node := by
  obtain ⟨place, writer, shape, same, member, here⟩ := fed
  have bound := (List.getElem?_eq_some_iff.mp here).1
  refine ⟨place, writer, shape, same, ?_, ?_⟩
  · rw [writes_concat]
    exact List.mem_append_left _ member
  · rw [layers_concat, List.getElem?_append_left bound]
    exact here

theorem fed_concat {fragments : List Fragment} {fragment : Fragment} (closed : fragment.Closed)
    {entry : String × Nat} (member : entry ∈ fragment.provisional) :
    Fed (fragments ++ [fragment]) entry.1 (entry.2 + (layers fragments).length : Int) := by
  obtain ⟨supplied, shape, here⟩ := closed.provisional entry member
  refine ⟨entry.2 + (layers fragments).length, fragments.length, shape, rfl, ?_, ?_⟩
  · rw [writes_concat]
    exact List.mem_append_right _ (List.mem_map.mpr ⟨_, supplied, rfl⟩)
  · rw [layers_concat, List.getElem?_append_right (Nat.le_add_left _ _), Nat.add_sub_cancel]
    exact here

section
variable {fragments : List Fragment}

theorem mem_placed {place : Placed} : place ∈ placed fragments ↔
    fragments[place.reader]? = some place.fragment ∧ place.offset = offset fragments place.reader := by
  obtain ⟨reader, start, fragment⟩ := place
  unfold placed
  simp only [List.mem_map, Prod.exists, List.mem_zipIdx_iff_getElem?, Placed.mk.injEq]
  constructor
  · rintro ⟨other, number, here, rfl, rfl, rfl⟩
    exact ⟨here, rfl⟩
  · rintro ⟨here, rfl⟩
    exact ⟨fragment, reader, here, rfl, rfl, rfl⟩

/-- The layers of an operator end where those of the next one start. -/
theorem offset_succ {reader : Nat} {fragment : Fragment} (present : fragments[reader]? = some fragment) :
    offset fragments (reader + 1) = offset fragments reader + fragment.layers.length := by
  unfold offset
  rw [List.take_add_one, present, Option.toList_some, layers_concat, List.length_append]

theorem offset_mono {a b : Nat} (le : a ≤ b) : offset fragments a ≤ offset fragments b := by
  have prefixes : fragments.take a = (fragments.take b).take a := by
    rw [List.take_take, Nat.min_eq_left le]
  unfold offset
  rw [prefixes]
  conv => rhs; rw [← List.take_append_drop a (fragments.take b)]
  rw [layers, layers, List.flatMap_append, List.length_append]
  exact Nat.le_add_right _ _

theorem offset_le (fragments : List Fragment) (reader : Nat) :
    offset fragments reader ≤ (layers fragments).length := by
  by_cases inside : reader ≤ fragments.length
  · rw [← offset_length]
    exact offset_mono inside
  · have whole := List.take_of_length_le (Nat.le_of_not_le inside)
    exact Nat.le_of_eq (congrArg (fun taken => (layers taken).length) whole)

/-- The layers of a fragment stand between those before and those after it. -/
theorem layers_split {number : Nat} {fragment : Fragment} (here : fragments[number]? = some fragment) :
    layers fragments = layers (fragments.take number) ++
      (fragment.layers ++ layers (fragments.drop (number + 1))) := by
  obtain ⟨inside, same⟩ := List.getElem?_eq_some_iff.mp here
  conv => lhs; rw [← List.take_append_drop number fragments, List.drop_eq_getElem_cons inside, same]
  simp [layers]

theorem layers_of_fragment {number index : Nat} {fragment : Fragment} {layer : Layer}
    (here : fragments[number]? = some fragment) (there : fragment.layers[index]? = some layer) :
    (layers fragments)[offset fragments number + index]? = some layer := by
  have bound := (List.getElem?_eq_some_iff.mp there).1
  rw [layers_split here, offset, List.getElem?_append_right (Nat.le_add_right _ _),
    Nat.add_sub_cancel_left, List.getElem?_append_left bound, there]

/-- Every layer belongs to the fragment of an operator. -/
theorem fragment_of_layer {place : Nat} {layer : Layer} (here : (layers fragments)[place]? = some layer) :
    ∃ number index fragment, fragments[number]? = some fragment ∧ fragment.layers[index]? = some layer ∧
      place = offset fragments number + index := by
  induction fragments using List.reverseRecOn with
  | nil => cases here
  | append_singleton fragments fragment ih =>
    rw [layers_concat, List.getElem?_append] at here
    split at here
    · obtain ⟨number, index, other, present, there, position⟩ := ih here
      have inside := (List.getElem?_eq_some_iff.mp present).1
      refine ⟨number, index, other, (List.getElem?_append_left inside).trans present, there, ?_⟩
      rw [offset_append fragments (Nat.le_of_lt inside), position]
    · next late =>
      refine ⟨fragments.length, place - (layers fragments).length, fragment, List.getElem?_concat_length, here, ?_⟩
      rw [offset_append fragments (Nat.le_refl _), offset_length]
      omega

/-- Fragments of which each covers its ports. -/
def Closed (fragments : List Fragment) : Prop := ∀ fragment ∈ fragments, fragment.Closed

theorem Closed.concat {fragment : Fragment} (closed : Closed (fragments ++ [fragment])) :
    Closed fragments ∧ fragment.Closed :=
  ⟨fun other member => closed other (List.mem_append_left _ member),
    closed fragment (by simp)⟩

theorem Closed.fresh (closed : Closed fragments) {layer : Layer} (member : layer ∈ layers fragments) :
    layer.Fresh := by
  obtain ⟨fragment, present, here⟩ := List.mem_flatMap.mp member
  exact (closed fragment present).fresh layer here

end

section
variable {α : Type} {ports : Layer → List α} {fragments : List Fragment}

/-- A port of a placed fragment is a port of the layers in a row. -/
theorem portAmong?_of_placed {place : Placed} (member : place ∈ placed fragments) {ref : PortRef} {port : α}
    (found : Layer.portAmong? ports place.fragment.layers ref = some port) :
    Layer.portAmong? ports (layers fragments) (ref.rebase place.offset) = some port := by
  obtain ⟨here, start⟩ := mem_placed.mp member
  rw [layers_split here, start]
  exact Layer.portAmong?_behind (Layer.portAmong?_front found _) _

/-- A port of a placed fragment stands between the layers before and those after the fragment. -/
theorem portAmong?_rebase {place : Placed} (member : place ∈ placed fragments) {ref : PortRef}
    (present : (Layer.portAmong? ports place.fragment.layers ref).isSome = true) :
    (Layer.portAmong? ports (layers fragments) (ref.rebase place.offset)).isSome = true ∧
      (place.offset : Int) ≤ (ref.rebase place.offset).node ∧
      (ref.rebase place.offset).node < offset fragments (place.reader + 1) := by
  obtain ⟨here, start⟩ := mem_placed.mp member
  have next := offset_succ here
  obtain ⟨port, found⟩ := Option.isSome_iff_exists.mp present
  have low := (Layer.plain_of_portAmong? ports found).1
  have bound := Layer.node_lt_of_portAmong? ports found
  exact ⟨Option.isSome_iff_exists.mpr ⟨port, portAmong?_of_placed member found⟩,
    by simp only [PortRef.rebase]; omega, by simp only [PortRef.rebase]; omega⟩

end

section
variable {fragments : List Fragment}

/-- Every input port of the layers in a row is linked or waits. -/
theorem mem_targets (closed : Closed fragments) {ref : PortRef}
    (present : (Layer.portAmong? Layer.inputs (layers fragments) ref).isSome = true) :
    ref ∈ (links fragments).map Prod.snd ∨ ref ∈ (reads fragments).map Prod.fst := by
  induction fragments using List.reverseRecOn with
  | nil => simp [layers] at present
  | append_singleton fragments fragment ih =>
    obtain ⟨before, last⟩ := closed.concat
    rw [layers_concat, Layer.portAmong?_append] at present
    rw [links_concat, reads_concat, List.map_append, List.map_append, List.mem_append, List.mem_append]
    split at present
    · exact (ih before present).imp .inl .inl
    · have here : ref ∈ Placed.targets ⟨fragments.length, (layers fragments).length, fragment⟩ := by
        refine List.mem_map.mpr ⟨_, (last.targets_iff _).mpr present, ?_⟩
        rw [PortRef.rebase_rebase, Int.add_left_neg, PortRef.rebase_zero]
      rw [Placed.targets_eq, List.mem_append] at here
      exact here.imp .inr .inr

theorem mem_links {source target : PortRef} : (source, target) ∈ links fragments ↔
    ∃ place ∈ placed fragments, ∃ link ∈ place.fragment.links,
      source = link.1.rebase place.offset ∧ target = link.2.rebase place.offset := by
  simp only [links, Placed.links, List.mem_flatMap, List.mem_map, Prod.mk.injEq, eq_comm]

theorem mem_reads {target : PortRef} {name : String} {reader : Nat} :
    (target, (name, reader)) ∈ reads fragments ↔ ∃ place ∈ placed fragments, place.reader = reader ∧
      ∃ port, (port, name) ∈ place.fragment.pending ∧ target = port.rebase place.offset := by
  simp only [reads, Placed.reads, List.mem_flatMap, List.mem_map, Prod.exists, Prod.mk.injEq]
  constructor
  · rintro ⟨place, member, port, other, here, rfl, rfl, rfl⟩
    exact ⟨place, member, rfl, port, here, rfl⟩
  · rintro ⟨place, member, rfl, port, here, rfl⟩
    exact ⟨place, member, port, name, here, rfl, rfl, rfl⟩

theorem mem_writes {source : PortRef} {name : String} {writer : Nat} :
    (name, (writer, source)) ∈ writes fragments ↔ ∃ place ∈ placed fragments, place.reader = writer ∧
      ∃ port, (name, port) ∈ place.fragment.produced ∧ source = port.rebase place.offset := by
  simp only [writes, Placed.writes, List.mem_flatMap, List.mem_map, Prod.exists, Prod.mk.injEq]
  constructor
  · rintro ⟨place, member, other, port, here, rfl, rfl, rfl⟩
    exact ⟨place, member, rfl, port, here, rfl⟩
  · rintro ⟨place, member, rfl, port, here, rfl⟩
    exact ⟨place, member, name, port, here, rfl, rfl, rfl⟩

theorem mem_writers {source : PortRef} {name : String} {writer : Nat} :
    (writer, source) ∈ writers fragments name ↔ (name, (writer, source)) ∈ writes fragments := by
  simp [writers]

theorem fragment_of_placed {place : Placed} (member : place ∈ placed fragments) :
    place.fragment ∈ fragments :=
  List.mem_of_getElem? (mem_placed.mp member).1

/-- A waiting port belongs to the layers of the operator that reads. -/
theorem read_inside (closed : Closed fragments) {target : PortRef} {name : String} {reader : Nat}
    (member : (target, (name, reader)) ∈ reads fragments) :
    (Layer.portAmong? Layer.inputs (layers fragments) target).isSome = true ∧
      (offset fragments reader : Int) ≤ target.node ∧ target.node < offset fragments (reader + 1) := by
  obtain ⟨place, present, rfl, port, waits, rfl⟩ := mem_reads.mp member
  have inside := ((closed _ (fragment_of_placed present)).targets_iff port).mp
    (List.mem_append_right _ (List.mem_map_of_mem waits))
  have found := portAmong?_rebase present inside
  rwa [(mem_placed.mp present).2] at found ⊢

/-- A supplied port belongs to the layers of the operator that writes. -/
theorem write_inside (closed : Closed fragments) {source : PortRef} {name : String} {writer : Nat}
    (member : (name, (writer, source)) ∈ writes fragments) :
    (Layer.portAmong? Layer.outputs (layers fragments) source).isSome = true ∧
      (offset fragments writer : Int) ≤ source.node ∧ source.node < offset fragments (writer + 1) := by
  obtain ⟨place, present, rfl, port, supplies, rfl⟩ := mem_writes.mp member
  have inside := (closed _ (fragment_of_placed present)).supplied _ supplies
  have found := portAmong?_rebase present inside
  rwa [(mem_placed.mp present).2] at found ⊢

/-- Links go forward between layers that exist. -/
theorem link_inside (closed : Closed fragments) {source target : PortRef}
    (member : (source, target) ∈ links fragments) : 0 ≤ source.node ∧ source.node < target.node ∧
      target.node < (layers fragments).length := by
  obtain ⟨place, present, link, linked, rfl, rfl⟩ := mem_links.mp member
  have whole := closed _ (fragment_of_placed present)
  have start := portAmong?_rebase present (whole.linked link linked)
  have finish := portAmong?_rebase present ((whole.targets_iff link.2).mp
    (List.mem_append_left _ (List.mem_map_of_mem linked)))
  have forward := whole.forward link linked
  have low := offset_le fragments (place.reader + 1)
  simp only [PortRef.rebase] at start finish ⊢
  omega

/-- Every target is one of a link or waits. -/
theorem perm_targets (fragments : List Fragment) :
    ((links fragments).map Prod.snd ++ (reads fragments).map Prod.fst).Perm (targets fragments) := by
  unfold links reads targets
  rw [List.map_flatMap, List.map_flatMap]
  refine (List.flatMap_append_perm _ _ _).trans (List.Perm.of_eq (List.flatMap_congr fun place _ => ?_))
  exact place.targets_eq.symm

theorem target_inside (closed : Closed fragments) {ref : PortRef} (member : ref ∈ targets fragments) :
    ref.node < (layers fragments).length := by
  obtain ⟨place, present, here⟩ := List.mem_flatMap.mp member
  obtain ⟨port, target, rfl⟩ := List.mem_map.mp here
  have inside := ((closed _ (fragment_of_placed present)).targets_iff port).mp target
  have bound := offset_le fragments (place.reader + 1)
  have found := (portAmong?_rebase present inside).2.2
  omega

/-- Every port is a target once. -/
theorem nodup_targets (closed : Closed fragments) : (targets fragments).Nodup := by
  induction fragments using List.reverseRecOn with
  | nil => exact List.nodup_nil
  | append_singleton fragments fragment ih =>
    obtain ⟨before, last⟩ := closed.concat
    have more : targets (fragments ++ [fragment]) =
        targets fragments ++ Placed.targets ⟨fragments.length, (layers fragments).length, fragment⟩ := by
      rw [targets, placed_concat, List.flatMap_append, List.flatMap_singleton]
      rfl
    rw [more, List.nodup_append]
    refine ⟨ih before, last.nodup.map fun a b equal => PortRef.rebase_inj.mp equal, ?_⟩
    -- A target before belongs to layers before those of the new fragment.
    rintro target early other late rfl
    have low := target_inside before early
    obtain ⟨port, member, same⟩ := List.mem_map.mp late
    obtain ⟨_, found⟩ := Option.isSome_iff_exists.mp ((last.targets_iff port).mp member)
    have high := (Layer.plain_of_portAmong? _ found).1
    have node := congrArg PortRef.node same
    simp only [PortRef.rebase] at node
    omega

/-- Every port waits once, and no port that waits is linked. -/
theorem nodup_reads (closed : Closed fragments) : ((reads fragments).map Prod.fst).Nodup :=
  ((perm_targets fragments).nodup_iff.mpr (nodup_targets closed)).of_append_right

theorem writer_lt {name : String} {writer : Nat} {source : PortRef}
    (member : (name, (writer, source)) ∈ writes fragments) : writer < fragments.length := by
  obtain ⟨place, present, rfl, _⟩ := mem_writes.mp member
  exact (List.getElem?_eq_some_iff.mp (mem_placed.mp present).1).1

/-- Every operator writes once at most, so the writers are in strict order. -/
theorem pairwise_writes (closed : Closed fragments) :
    (writes fragments).Pairwise fun earlier later => earlier.2.1 < later.2.1 := by
  induction fragments using List.reverseRecOn with
  | nil => exact List.Pairwise.nil
  | append_singleton fragments fragment ih =>
    obtain ⟨before, last⟩ := closed.concat
    rw [writes_concat, List.pairwise_append]
    refine ⟨ih before, ?_, ?_⟩
    · have once := last.once
      unfold Placed.writes
      match fragment.produced, once with
      | [], _ => exact List.Pairwise.nil
      | [entry], _ => exact List.pairwise_singleton _ _
    · rintro ⟨name, writer, source⟩ early ⟨other, later, port⟩ late
      obtain ⟨entry, _, same⟩ := List.mem_map.mp late
      cases same
      exact writer_lt early

theorem pairwise_writers (closed : Closed fragments) (name : String) :
    (writers fragments name).Pairwise fun earlier later => earlier.1 < later.1 :=
  List.pairwise_map.mpr ((pairwise_writes closed).filter _)

/-- Different operators write different ports. -/
theorem nodup_ports (closed : Closed fragments) :
    ((writes fragments).map fun entry => entry.2.2).Nodup := by
  rw [List.nodup_iff_pairwise_ne, List.pairwise_map]
  refine (pairwise_writes closed).imp_of_mem ?_
  rintro ⟨name, writer, source⟩ ⟨other, later, port⟩ early late before same
  have low := (write_inside closed early).2.2
  have high := (write_inside closed late).2.1
  have apart : offset fragments (writer + 1) ≤ offset fragments later := offset_mono before
  have node := congrArg PortRef.node same
  simp only at node
  omega

/-- A port is written by one operator, for one variable. -/
theorem write_unique (closed : Closed fragments) {name other : String} {writer later : Nat} {source : PortRef}
    (first : (name, (writer, source)) ∈ writes fragments) (second : (other, (later, source)) ∈ writes fragments) :
    name = other ∧ writer = later := by
  have same := List.inj_on_of_nodup_map (nodup_ports closed) first second rfl
  exact ⟨congrArg Prod.fst same, congrArg (fun entry => entry.2.1) same⟩

end

end Layout

end LayerGraph
