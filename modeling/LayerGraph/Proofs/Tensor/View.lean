import LayerGraph.Proofs.Tensor.Spelled
import LayerGraph.Tensor.View

/-! Elements by their index, in a view and in the tensor copied from it.

The index of an element gives its distance from the first one in a view, and its place in row-major
order. A view inside its buffer and its contiguous copy have the same element at every index, and
the copy may be turned to another byte order without a change of the numbers in it. A tensor with its first two
axes exchanged is such a copy: every element comes to the exchanged index.
-/

set_option autoImplicit false

namespace LayerGraph

/-! ### Indices -/

/-- An index has one position on each axis, inside its extent. -/
def Inside : List Nat → List Nat → Prop
  | [], [] => True
  | extent :: extents, i :: index => i < extent ∧ Inside extents index
  | _, _ => False

/-- The number of elements before an index in row-major order. -/
def place : List Nat → List Nat → Nat
  | _ :: extents, i :: index => i * elementCount extents + place extents index
  | _, _ => 0

namespace View

/-- How far the element at an index is from the first one. -/
def distance : List Axis → List Nat → Int
  | axis :: axes, i :: index => i * axis.stride + distance axes index
  | _, _ => 0

/-- The numbers in the units of the element at an index. -/
def numbersAt (view : View) (index : List Nat) : List Nat :=
  Stretch.elementNumbers (view.element.stretches view.order)
    (view.elementAt (distance view.axes index))

/-- All elements of the view lie in its buffer. -/
def InBuffer (view : View) : Prop :=
  ∀ index, Inside view.extents index → 0 ≤ view.start + distance view.axes index ∧
    view.start + distance view.axes index + view.element.size ≤ view.buffer.size

end View

theorem exists_of_inside_cons {extent : Nat} {extents index : List Nat}
    (inside : Inside (extent :: extents) index) :
    ∃ i rest, index = i :: rest ∧ i < extent ∧ Inside extents rest := by
  cases index with
  | nil => exact inside.elim
  | cons i rest => exact ⟨i, rest, rfl, inside⟩

theorem eq_nil_of_inside_nil {index : List Nat} (inside : Inside [] index) : index = [] := by
  cases index with
  | nil => rfl
  | cons i rest => exact inside.elim

theorem place_lt {extents index : List Nat} (inside : Inside extents index) :
    place extents index < elementCount extents := by
  induction extents generalizing index with
  | nil =>
    obtain rfl := eq_nil_of_inside_nil inside
    exact Nat.one_pos
  | cons extent extents ih =>
    obtain ⟨i, rest, rfl, small, inner⟩ := exists_of_inside_cons inside
    calc i * elementCount extents + place extents rest
        < i * elementCount extents + elementCount extents := Nat.add_lt_add_left (ih inner) _
      _ = (i + 1) * elementCount extents := (Nat.succ_mul i _).symm
      _ ≤ extent * elementCount extents := Nat.mul_le_mul_right _ small

@[simp] theorem extents_rowMajor (size : Nat) (extents : List Nat) :
    (rowMajor size extents).map Axis.extent = extents := by
  induction extents with
  | nil => rfl
  | cons extent extents ih => rw [rowMajor, List.map_cons, ih]

theorem distance_rowMajor (size : Nat) (extents index : List Nat) :
    View.distance (rowMajor size extents) index = (place extents index * size : Nat) := by
  induction extents generalizing index with
  | nil => cases index <;> simp [rowMajor, View.distance, place]
  | cons extent extents ih =>
    cases index with
    | nil => simp [rowMajor, View.distance, place]
    | cons i index =>
      rw [rowMajor, View.distance, place, ih]
      push_cast
      rw [Int.add_mul, Int.mul_assoc]

/-- In a row of rows of one length, an element is found by its row and its position in the row. -/
theorem getElem?_flatMap_range {α : Type} {extent width i j : Nat} {row : Nat → List α}
    (long : ∀ k, (row k).length = width) (small : i < extent) (inner : j < width) :
    ((List.range extent).flatMap row)[i * width + j]? = (row i)[j]? := by
  induction extent with
  | zero => omega
  | succ extent ih =>
    have before : ((List.range extent).flatMap row).length = extent * width := by
      simp [List.length_flatMap, long, List.map_const']
    rw [List.range_succ, List.flatMap_append, List.flatMap_singleton]
    rcases Nat.lt_or_eq_of_le (Nat.le_of_lt_succ small) with earlier | rfl
    · have bounded : i * width + j < extent * width :=
        calc i * width + j < i * width + width := Nat.add_lt_add_left inner _
          _ = (i + 1) * width := (Nat.succ_mul i _).symm
          _ ≤ extent * width := Nat.mul_le_mul_right _ earlier
      rw [List.getElem?_append_left (by rw [before]; exact bounded), ih earlier]
    · rw [List.getElem?_append_right (by rw [before]; omega), before, Nat.add_sub_cancel_left]

namespace View

theorem length_walk (axes : List Axis) :
    (walk axes).length = elementCount (axes.map Axis.extent) := by
  induction axes with
  | nil => rfl
  | cons axis axes ih => simp [walk, List.length_flatMap, ih, List.map_const']

/-- A walk in row-major order meets every index at its place. -/
theorem walk_place {axes : List Axis} {index : List Nat}
    (inside : Inside (axes.map Axis.extent) index) :
    (walk axes)[place (axes.map Axis.extent) index]? = some (distance axes index) := by
  induction axes generalizing index with
  | nil =>
    obtain rfl := eq_nil_of_inside_nil inside
    rfl
  | cons axis axes ih =>
    obtain ⟨i, rest, rfl, small, inner⟩ := exists_of_inside_cons inside
    rw [walk, List.map_cons, place, distance,
      getElem?_flatMap_range (fun k => by rw [List.length_map, length_walk]) small (place_lt inner),
      List.getElem?_map, ih inner]
    rfl

theorem exists_of_mem_walk {axes : List Axis} {far : Int} (member : far ∈ walk axes) :
    ∃ index, Inside (axes.map Axis.extent) index ∧ distance axes index = far := by
  induction axes generalizing far with
  | nil =>
    rw [walk, List.mem_singleton] at member
    exact ⟨[], trivial, member.symm⟩
  | cons axis axes ih =>
    obtain ⟨i, small, member⟩ := List.mem_flatMap.mp member
    obtain ⟨inner, found, rfl⟩ := List.mem_map.mp member
    obtain ⟨rest, inside, rfl⟩ := ih found
    exact ⟨i :: rest, ⟨List.mem_range.mp small, inside⟩, rfl⟩

end View

namespace Cut

theorem slice_eq {width i : Nat} {pieces : List Bytes} {bytes piece : Bytes} (cut : Cut width pieces bytes)
    (found : pieces[i]? = some piece) : (bytes.drop (i * width)).take width = piece := by
  induction pieces generalizing bytes i with
  | nil => cases found
  | cons first pieces ih =>
    obtain ⟨whole, rfl, rest⟩ := cut.tail
    cases i with
    | zero =>
      obtain rfl := Option.some.inj found
      rw [Nat.zero_mul, List.drop_zero, List.take_left' whole]
    | succ i =>
      rw [Nat.succ_mul, Nat.add_comm, ← List.drop_drop, List.drop_left' whole]
      exact ih rest found

end Cut

/-- The elements of one stretch each are turned around together. -/
theorem Cut.littleElement_single {stretch : Stretch} {width : Nat} {pieces : List Bytes} {bytes : Bytes}
    (cut : Cut width pieces bytes) (filled : stretch.size = width) (sized : 0 < width) :
    (pieces.map (Stretch.littleElement [stretch])).flatten = stretch.littleBytes bytes := by
  subst filled
  have alone : pieces.map (Stretch.littleElement [stretch]) = pieces.map stretch.littleBytes := by
    refine List.map_congr_left fun piece found => ?_
    rw [Stretch.littleElement, Stretch.littleElement, List.append_nil,
      List.take_of_length_le (Nat.le_of_eq (cut.uniform piece found))]
  obtain ⟨unit, count, order⟩ := stretch
  rw [alone]
  cases order with
  | little => exact (congrArg List.flatten (List.map_id pieces)).trans cut.joined
  | big => exact (cut.reverseUnits_pieces (Nat.pos_of_mul_pos_left sized)).symm

namespace Tensor

variable {tensor : Tensor} {elements : List Bytes}

/-- Least significant bytes first, the elements are turned around one by one. -/
theorem cut_littleBytes (regular : tensor.element.Regular) (single : tensor.element.Single)
    (sized : 0 < tensor.element.size) (cut : Cut tensor.element.size elements tensor.bytes) :
    Cut tensor.element.size
      (elements.map (Stretch.littleElement (tensor.element.stretches tensor.order))) tensor.littleBytes := by
  have total := ElementType.total_stretches regular single tensor.order
  have turned : (elements.map (Stretch.littleElement (tensor.element.stretches tensor.order))).flatten =
      tensor.littleBytes := by
    obtain ⟨element, order, extents, bytes⟩ := tensor
    cases element with
    | block base inner size => exact single.elim
    | record stretches reach =>
      exact (congrArg (List.flatMap (Stretch.littleElement stretches)) (cut.chunks_length_eq sized)).symm
    | _ =>
      refine (cut.littleElement_single ((Nat.add_zero _).symm.trans total) sized).trans ?_
      cases order <;> rfl
  rw [← turned]
  exact cut.map fun piece whole => (Stretch.length_littleElement (whole.trans total.symm)).trans total

/-- A tensor holds whole elements, as many as its extents ask for. -/
theorem WellFormed.exists_elements (whole : tensor.WellFormed) :
    ∃ elements, elements.length = tensor.count ∧ Cut tensor.element.size elements tensor.bytes :=
  Cut.exists_of_length whole

theorem WellFormed.native (whole : tensor.WellFormed) (regular : tensor.element.Regular)
    (single : tensor.element.Single) (sized : 0 < tensor.element.size) : tensor.native.WellFormed := by
  obtain ⟨elements, counted, cut⟩ := whole.exists_elements
  have long := (cut_littleBytes regular single sized cut).length_eq
  rw [List.length_map, counted] at long
  exact long.trans (by rw [Tensor.native, ElementType.size_native]; rfl)

/-- The bytes of the element at an index, in row-major order. -/
def elementAt (tensor : Tensor) (index : List Nat) : Bytes :=
  (tensor.bytes.drop (place tensor.extents index * tensor.element.size)).take tensor.element.size

theorem elementAt_view (tensor : Tensor) (index : List Nat) :
    tensor.view.elementAt (View.distance tensor.view.axes index) = tensor.elementAt index := by
  rw [View.elementAt, view, distance_rowMajor, Int.zero_add, Int.toNat_natCast, Array.toList_extract]
  simp [elementAt, List.extract_eq_take_drop]

/-- The element at an index is the one at its place. -/
theorem elementAt_eq {index : List Nat} {element : Bytes}
    (cut : Cut tensor.element.size elements tensor.bytes)
    (found : elements[place tensor.extents index]? = some element) : tensor.elementAt index = element :=
  cut.slice_eq found

/-- In the order of the machine the elements hold the same numbers. -/
theorem numbersAt_native {index : List Nat} (whole : tensor.WellFormed) (regular : tensor.element.Regular)
    (single : tensor.element.Single) (sized : 0 < tensor.element.size)
    (inside : Inside tensor.extents index) :
    tensor.native.view.numbersAt index = tensor.view.numbersAt index := by
  obtain ⟨elements, counted, cut⟩ := whole.exists_elements
  have among : place tensor.extents index < elements.length := by
    rw [counted]
    exact place_lt inside
  have before : elements[place tensor.extents index]? = some elements[place tensor.extents index] :=
    List.getElem?_eq_getElem among
  have after : (elements.map (Stretch.littleElement (tensor.element.stretches tensor.order)))[
      place tensor.extents index]? = some (Stretch.littleElement
        (tensor.element.stretches tensor.order) elements[place tensor.extents index]) := by
    rw [List.getElem?_map, before, Option.map_some]
  have turned : Cut tensor.native.element.size _ tensor.native.bytes :=
    ElementType.size_native.symm ▸ cut_littleBytes regular single sized cut
  have long : elements[place tensor.extents index].length =
      Stretch.total (tensor.element.stretches tensor.order) :=
    (cut.uniform _ (List.getElem_mem among)).trans
      (ElementType.total_stretches regular single tensor.order).symm
  rw [View.numbersAt, View.numbersAt, elementAt_view, elementAt_view, elementAt_eq cut before, elementAt_eq turned after]
  change Stretch.elementNumbers (tensor.element.native.stretches .little) _ = _
  rw [ElementType.stretches_native single tensor.order, Stretch.elementNumbers_littleElement long]
  rfl

end Tensor

namespace View

variable {view : View}

/-- Whether a view lies in its buffer shows on a walk through its elements. -/
theorem inBuffer_iff : view.InBuffer ↔ ∀ far ∈ walk view.axes,
    0 ≤ view.start + far ∧ view.start + far + view.element.size ≤ view.buffer.size := by
  constructor
  · intro within far walked
    obtain ⟨index, inside, rfl⟩ := exists_of_mem_walk walked
    exact within index inside
  · intro every index inside
    exact every _ (List.mem_of_getElem? (walk_place inside))

instance : Decidable view.InBuffer := decidable_of_iff _ inBuffer_iff.symm

/-- Every element of a view inside its buffer is whole. -/
theorem length_elementAt {index : List Nat} (within : view.InBuffer)
    (inside : Inside view.extents index) :
    (view.elementAt (distance view.axes index)).length = view.element.size := by
  obtain ⟨low, high⟩ := within index inside
  rw [elementAt, Array.length_toList, Array.size_extract]
  omega

/-- The contiguous copy consists of the elements of a walk. -/
theorem cut_contiguous (within : view.InBuffer) :
    Cut view.element.size ((walk view.axes).map view.elementAt) view.contiguous.bytes := by
  refine ⟨fun piece found => ?_, List.flatMap_def.symm⟩
  obtain ⟨far, walked, rfl⟩ := List.mem_map.mp found
  obtain ⟨index, inside, rfl⟩ := exists_of_mem_walk walked
  exact length_elementAt within inside

theorem wellFormed_contiguous (within : view.InBuffer) : view.contiguous.WellFormed := by
  have long := (cut_contiguous within).length_eq
  rw [List.length_map, length_walk] at long
  exact long

/-- The contiguous copy has the elements of the view at every index. -/
theorem elementAt_contiguous {index : List Nat} (within : view.InBuffer)
    (inside : Inside view.extents index) :
    view.contiguous.elementAt index = view.elementAt (distance view.axes index) := by
  have found : ((walk view.axes).map view.elementAt)[place view.extents index]? =
      some (view.elementAt (distance view.axes index)) := by
    rw [List.getElem?_map, extents, walk_place inside, Option.map_some]
  exact Tensor.elementAt_eq (cut_contiguous within) found

theorem numbersAt_contiguous {index : List Nat} (within : view.InBuffer)
    (inside : Inside view.extents index) : view.contiguous.view.numbersAt index = view.numbersAt index := by
  rw [numbersAt, numbersAt, Tensor.elementAt_view, elementAt_contiguous within inside]
  rfl

end View

/-! ### The exchange of the first two axes -/

theorem elementCount_perm {first second : List Nat} (same : first.Perm second) :
    elementCount first = elementCount second := by
  induction same with
  | nil => rfl
  | cons extent _ ih => rw [elementCount_cons, elementCount_cons, ih]
  | swap extent other extents => exact Nat.mul_left_comm other extent (elementCount extents)
  | trans _ _ before after => exact before.trans after

/-- The positions of a list give its items. -/
theorem filterMap_range_getElem? {α : Type} (items : List α) :
    (List.range items.length).filterMap (fun position => items[position]?) = items := by
  induction items with
  | nil => rfl
  | cons item items ih =>
    rw [List.length_cons, List.range_succ_eq_map, List.filterMap_cons_some List.getElem?_cons_zero, List.filterMap_map]
    exact congrArg (item :: ·) ih

theorem range_add_two (count : Nat) : List.range (count + 2) = 0 :: 1 :: (List.range count).map (· + 2) := by
  rw [List.range_succ_eq_map, List.range_succ_eq_map, List.map_cons, List.map_map]
  rfl

@[simp] theorem length_rowMajor (size : Nat) (extents : List Nat) : (rowMajor size extents).length = extents.length := by
  rw [← List.length_map Axis.extent, extents_rowMajor]

namespace View

variable {view : View} {outer inner : Axis} {axes : List Axis}

/-- Reordered by the positions of its axes, the first two of them exchanged, a view has these axes exchanged. -/
theorem transpose_leading (leading : view.axes = outer :: inner :: axes) :
    view.transpose (1 :: 0 :: (List.range axes.length).map (· + 2)) = { view with axes := inner :: outer :: axes } := by
  have reordered : (1 :: 0 :: (List.range axes.length).map (· + 2)).filterMap (fun position => view.axes[position]?) =
      inner :: outer :: axes := by
    rw [leading, List.filterMap_cons, List.filterMap_cons, List.filterMap_map]
    exact congrArg (inner :: outer :: ·) (filterMap_range_getElem? axes)
  rw [transpose, reordered]

/-- An element is as far from the first one when the axes are exchanged and its index with them. -/
theorem distance_exchanged (i j : Nat) (index : List Nat) :
    distance (inner :: outer :: axes) (j :: i :: index) = distance (outer :: inner :: axes) (i :: j :: index) := by
  simp only [distance]
  omega

theorem InBuffer.exchanged (within : view.InBuffer) (leading : view.axes = outer :: inner :: axes) :
    InBuffer { view with axes := inner :: outer :: axes } := by
  intro index inside
  obtain ⟨j, _, rfl, less, inside⟩ := exists_of_inside_cons inside
  obtain ⟨i, index, rfl, less', inside⟩ := exists_of_inside_cons inside
  have original : Inside view.extents (i :: j :: index) := by
    rw [extents, leading]
    exact ⟨less', less, inside⟩
  have := within _ original
  rw [leading] at this
  rwa [distance_exchanged]

end View

namespace Tensor

variable {tensor : Tensor}

/-- The elements of a tensor lie in its bytes. -/
theorem WellFormed.inBuffer (whole : tensor.WellFormed) : tensor.view.InBuffer := by
  intro index inside
  have among : place tensor.extents index < tensor.count :=
    place_lt (extents_rowMajor tensor.element.size tensor.extents ▸ inside)
  have behind : place tensor.extents index * tensor.element.size + tensor.element.size ≤ tensor.bytes.length :=
    calc place tensor.extents index * tensor.element.size + tensor.element.size
        = (place tensor.extents index + 1) * tensor.element.size := (Nat.succ_mul _ _).symm
      _ ≤ tensor.count * tensor.element.size := Nat.mul_le_mul_right _ among
      _ = tensor.bytes.length := whole.symm
  simp only [view, distance_rowMajor, List.size_toArray]
  omega

/-- A tensor has the elements of another one at the indices with the first two positions exchanged. -/
structure Exchanges (tensor exchanged : Tensor) (first second : Nat) (rest : List Nat) : Prop where
  element : exchanged.element = tensor.element
  order : exchanged.order = tensor.order
  extents : exchanged.extents = second :: first :: rest
  whole : exchanged.WellFormed
  moved : ∀ i j index, Inside (first :: second :: rest) (i :: j :: index) →
    exchanged.elementAt (j :: i :: index) = tensor.elementAt (i :: j :: index)

section
variable {first second : Nat} {rest : List Nat} (extents : tensor.extents = first :: second :: rest)
include extents

/-- The exchange copies a view that has the second axis outside of the first one. -/
theorem swapLeadingAxes_eq : ∃ outer inner : Axis, ∃ axes, tensor.view.axes = outer :: inner :: axes ∧
    inner.extent :: outer.extent :: axes.map Axis.extent = second :: first :: rest ∧
    tensor.swapLeadingAxes = View.contiguous { tensor.view with axes := inner :: outer :: axes } := by
  have leading : tensor.view.axes = rowMajor tensor.element.size (first :: second :: rest) := congrArg _ extents
  refine ⟨_, _, rowMajor tensor.element.size rest, leading, by rw [extents_rowMajor], ?_⟩
  have ranked : tensor.extents.length = (rowMajor tensor.element.size rest).length + 2 := by
    rw [extents, length_rowMajor]
    rfl
  unfold swapLeadingAxes transpose
  rw [ranked, range_add_two]
  exact congrArg View.contiguous (View.transpose_leading leading)

theorem extents_swapLeadingAxes : tensor.swapLeadingAxes.extents = second :: first :: rest := by
  obtain ⟨outer, inner, axes, _, same, swapped⟩ := swapLeadingAxes_eq extents
  exact (congrArg Tensor.extents swapped).trans same

theorem exchanges_swapLeadingAxes (whole : tensor.WellFormed) :
    tensor.Exchanges tensor.swapLeadingAxes first second rest := by
  obtain ⟨outer, inner, axes, leading, same, swapped⟩ := swapLeadingAxes_eq extents
  have within := whole.inBuffer.exchanged leading
  refine ⟨by rw [swapped]; rfl, by rw [swapped]; rfl, extents_swapLeadingAxes extents,
    swapped ▸ View.wellFormed_contiguous within, fun i j index inside => ?_⟩
  have turned : Inside (inner.extent :: outer.extent :: axes.map Axis.extent) (j :: i :: index) := by
    rw [same]
    exact ⟨inside.2.1, inside.1, inside.2.2⟩
  calc tensor.swapLeadingAxes.elementAt (j :: i :: index)
      = tensor.view.elementAt (View.distance (inner :: outer :: axes) (j :: i :: index)) := by
        rw [swapped, View.elementAt_contiguous within turned]
        rfl
    _ = tensor.view.elementAt (View.distance tensor.view.axes (i :: j :: index)) := by
        rw [View.distance_exchanged, leading]
    _ = tensor.elementAt (i :: j :: index) := elementAt_view tensor (i :: j :: index)

end

/-- Exchanging the first two axes exchanges their extents. -/
theorem shape_swapLeadingAxes {first second : Int} {rest : Shape} (extents : tensor.shape = first :: second :: rest) :
    tensor.swapLeadingAxes.shape = second :: first :: rest := by
  obtain ⟨i, _, found, rfl, same⟩ := List.map_eq_cons_iff.mp extents
  obtain ⟨j, rest, rfl, rfl, rfl⟩ := List.map_eq_cons_iff.mp same
  rw [shape, extents_swapLeadingAxes found]
  rfl

end Tensor

end LayerGraph
