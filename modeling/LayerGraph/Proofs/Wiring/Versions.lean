import LayerGraph.Proofs.Wiring.Closing

/-! Which operator supplies a read.

The writers of a variable are kept in the order of the operators, so the last one before a reader is
the greatest and the first one after it the least. Reads and writes are told from the operators alone;
the fragments add the numbers of their ports.
-/

set_option autoImplicit false

namespace LayerGraph

namespace Block

/-- An operator reads a variable as data at a slot. -/
def Reads (block : Block) (reader slot : Nat) (name : String) : Prop :=
  ∃ op, block.operators[reader]? = some op ∧ op.reads[slot]? = some name

/-- An operator writes a variable. -/
def Writes (block : Block) (writer : Nat) (name : String) : Prop :=
  ∃ op, block.operators[writer]? = some op ∧ op.write? = some name

/-- The operator that supplies a variable to a reader. -/
inductive Supplier (block : Block) (reader : Nat) (name : String) : Option Nat → Prop
  /-- The greatest earlier writer. -/
  | earlier (writer : Nat) (before : writer < reader) (writes : block.Writes writer name)
      (last : ∀ other, writer < other → other < reader → ¬ block.Writes other name) :
      Supplier block reader name (some writer)
  /-- The least later writer, where there is no earlier one. -/
  | later (writer : Nat) (unwritten : ∀ other, other < reader → ¬ block.Writes other name)
      (after : reader < writer) (writes : block.Writes writer name)
      (first : ∀ other, reader < other → other < writer → ¬ block.Writes other name) :
      Supplier block reader name (some writer)
  /-- No operator other than the reader itself. -/
  | nobody (unwritten : ∀ other, other ≠ reader → ¬ block.Writes other name) :
      Supplier block reader name none

/-- A read has one supplier. -/
theorem Supplier.unique {block : Block} {reader : Nat} {name : String} {a b : Option Nat}
    (first : block.Supplier reader name a) (second : block.Supplier reader name b) : a = b := by
  -- Two suppliers of one kind are compared by their places; of two kinds, one denies the other.
  cases first with
  | earlier writer before writes last =>
    cases second with
    | earlier other before' writes' last' =>
      rcases Nat.lt_trichotomy writer other with less | rfl | more
      · exact absurd writes' (last other less before')
      · rfl
      · exact absurd writes (last' writer more before)
    | later other unwritten after writes' first => exact absurd writes (unwritten writer before)
    | nobody unwritten => exact absurd writes (unwritten writer (Nat.ne_of_lt before))
  | later writer unwritten after writes first =>
    cases second with
    | earlier other before' writes' last' => exact absurd writes' (unwritten other before')
    | later other unwritten' after' writes' first' =>
      rcases Nat.lt_trichotomy writer other with less | rfl | more
      · exact absurd writes (first' writer after less)
      · rfl
      · exact absurd writes' (first other after' more)
    | nobody unwritten' => exact absurd writes (unwritten' writer (Nat.ne_of_gt after))
  | nobody unwritten =>
    cases second with
    | earlier other before' writes' last' => exact absurd writes' (unwritten other (Nat.ne_of_lt before'))
    | later other unwritten' after' writes' first' =>
      exact absurd writes' (unwritten other (Nat.ne_of_gt after'))
    | nobody unwritten' => rfl

end Block

namespace Layout

/-- The input port of an operator at a slot. -/
def entry (fragments : List Fragment) (reader slot : Nat) : PortRef := ⟨offset fragments reader, slot⟩

/-- The output port of an operator, on the last of its layers. -/
def exit (fragments : List Fragment) (writer : Nat) : PortRef := ⟨offset fragments (writer + 1) - 1, 0⟩

/-- The port of the layer made up for a variable. -/
def madeUp (fragments : List Fragment) (name : String) : PortRef :=
  ⟨(layers fragments).length + (made fragments).idxOf name, 0⟩

/-- The port that supplies a variable. -/
def supplied (fragments : List Fragment) (name : String) : Option Nat → PortRef
  | some writer => exit fragments writer
  | none => madeUp fragments name

section
variable {context : Context} {fragments : List Fragment}
  (lowered : context.block.operators.map (fun op => op.lower context) = fragments.map .ok)
include lowered

theorem form_of_lowered {number : Nat} {fragment : Fragment} (here : fragments[number]? = some fragment) :
    ∃ op kind, context.block.operators[number]? = some op ∧ OperatorKind.ofTag? op.tag = some kind ∧
      fragment.Form context kind op.reads op.write? := by
  have same := congrArg (fun items => items[number]?) lowered
  simp only [List.getElem?_map, here, Option.map_some] at same
  obtain ⟨op, present, made⟩ := Option.map_eq_some_iff.mp same
  obtain ⟨kind, known, form⟩ := Operator.form_of_lower made
  exact ⟨op, kind, present, known, form⟩

theorem fragment_of_lowered {number : Nat} {op : Operator}
    (here : context.block.operators[number]? = some op) :
    ∃ fragment kind, fragments[number]? = some fragment ∧ OperatorKind.ofTag? op.tag = some kind ∧
      fragment.Form context kind op.reads op.write? := by
  have same := congrArg (fun items => items[number]?) lowered
  simp only [List.getElem?_map, here, Option.map_some] at same
  obtain ⟨fragment, present, made⟩ := Option.map_eq_some_iff.mp same.symm
  obtain ⟨kind, known, form⟩ := Operator.form_of_lower made.symm
  exact ⟨fragment, kind, present, known, form⟩

/-- The waiting ports are the reads of the operators. -/
theorem mem_reads_iff {target : PortRef} {name : String} {reader : Nat} :
    (target, (name, reader)) ∈ reads fragments ↔
      ∃ slot, context.block.Reads reader slot name ∧ target = entry fragments reader slot := by
  rw [mem_reads]
  constructor
  · rintro ⟨place, member, rfl, port, waits, rfl⟩
    obtain ⟨here, start⟩ := mem_placed.mp member
    obtain ⟨op, _, present, _, form⟩ := form_of_lowered lowered here
    rw [form.pending, Fragment.mem_waiting] at waits
    obtain ⟨slot, rfl, read⟩ := waits
    exact ⟨slot, ⟨op, present, read⟩, by simp [entry, PortRef.rebase, start]⟩
  · rintro ⟨slot, ⟨op, present, read⟩, rfl⟩
    obtain ⟨fragment, _, here, _, form⟩ := fragment_of_lowered lowered present
    refine ⟨⟨reader, offset fragments reader, fragment⟩, mem_placed.mpr ⟨here, rfl⟩, rfl, ⟨0, slot⟩, ?_,
      by simp [entry, PortRef.rebase]⟩
    rw [form.pending]
    exact Fragment.mem_waiting.mpr ⟨slot, rfl, read⟩

/-- The supplied ports are the writes of the operators. -/
theorem mem_writes_iff {source : PortRef} {name : String} {writer : Nat} :
    (name, (writer, source)) ∈ writes fragments ↔
      context.block.Writes writer name ∧ source = exit fragments writer := by
  -- The output of an operator is the first port of its last layer.
  have port : ∀ {fragment : Fragment}, fragments[writer]? = some fragment →
      (⟨(fragment.layers.length : Int) - 1, 0⟩ : PortRef).rebase (offset fragments writer) =
        exit fragments writer := by
    intro fragment here
    simp only [exit, PortRef.rebase, offset_succ here, PortRef.mk.injEq, and_true]
    omega
  rw [mem_writes]
  constructor
  · rintro ⟨place, member, rfl, source, supplies, rfl⟩
    obtain ⟨here, start⟩ := mem_placed.mp member
    obtain ⟨op, _, present, _, form⟩ := form_of_lowered lowered here
    rw [form.produced, List.mem_map] at supplies
    obtain ⟨written, one, same⟩ := supplies
    cases same
    exact ⟨⟨op, present, Option.mem_toList.mp one⟩, by rw [start, port here]⟩
  · rintro ⟨⟨op, present, written⟩, rfl⟩
    obtain ⟨fragment, _, here, _, form⟩ := fragment_of_lowered lowered present
    refine ⟨⟨writer, offset fragments writer, fragment⟩, mem_placed.mpr ⟨here, rfl⟩, rfl, _, ?_,
      (port here).symm⟩
    rw [form.produced, written]
    exact List.mem_singleton.mpr rfl

/-- The port that a read is bound to belongs to its supplier. -/
theorem exists_supplier (closed : Closed fragments) (name : String) (reader : Nat) :
    ∃ supplier, context.block.Supplier reader name supplier ∧
      writer? fragments name reader = supplier.map (exit fragments) := by
  have member : ∀ {writer source}, (writer, source) ∈ writers fragments name ↔
      context.block.Writes writer name ∧ source = exit fragments writer := by
    intro writer source
    rw [mem_writers, mem_writes_iff lowered]
  rcases Wiring.writerAmong?_cases (pairwise_writers closed name) reader with
    ⟨writer, source, found, here, before, last⟩ | ⟨writer, source, found, here, after, first⟩ |
    ⟨none, own⟩
  · obtain ⟨writes, rfl⟩ := member.mp here
    refine ⟨some writer, .earlier writer before writes ?_, found⟩
    intro other greater less written
    have le := last (other, exit fragments other) (member.mpr ⟨written, rfl⟩) less
    omega
  · obtain ⟨writes, rfl⟩ := member.mp here
    refine ⟨some writer, .later writer ?_ after writes ?_, found⟩
    · intro other less written
      have ge := (first (other, exit fragments other) (member.mpr ⟨written, rfl⟩)).1
      omega
    · intro other greater less written
      have ge := (first (other, exit fragments other) (member.mpr ⟨written, rfl⟩)).2 greater
      omega
  · refine ⟨Option.none, .nobody ?_, none⟩
    intro other different written
    exact different (own (other, exit fragments other) (member.mpr ⟨written, rfl⟩))

theorem origin_of_supplier (closed : Closed fragments) {name : String} {reader : Nat}
    {supplier : Option Nat} (supplies : context.block.Supplier reader name supplier) :
    origin fragments (made fragments) name reader = supplied fragments name supplier := by
  obtain ⟨other, same, found⟩ := exists_supplier lowered closed name reader
  cases supplies.unique same
  unfold origin
  rw [found]
  cases supplier <;> rfl

/-- A variable is made up exactly for reads without a supplier. -/
theorem mem_made (closed : Closed fragments) {name : String} : name ∈ made fragments ↔
    ∃ reader slot, context.block.Reads reader slot name ∧ context.block.Supplier reader name none := by
  rw [made, mem_supply]
  constructor
  · rintro (absent | ⟨target, reader, member, unwritten⟩)
    · cases absent
    · obtain ⟨slot, read, _⟩ := (mem_reads_iff lowered).mp member
      obtain ⟨supplier, supplies, found⟩ := exists_supplier lowered closed name reader
      rw [unwritten] at found
      cases supplier with
      | none => exact ⟨reader, slot, read, supplies⟩
      | some writer => cases found
  · rintro ⟨reader, slot, read, supplies⟩
    obtain ⟨supplier, same, found⟩ := exists_supplier lowered closed name reader
    cases supplies.unique same
    exact .inr ⟨_, reader, (mem_reads_iff lowered).mpr ⟨slot, read, rfl⟩, found⟩

end

end Layout

section
variable {context : Context} {fragments : List Fragment} {graph : Graph}

/-- A read is connected with the port of its supplier. -/
theorem Assembled.source_of_read (assembled : Assembled context fragments graph) {reader slot : Nat}
    {name : String} {supplier : Option Nat} (read : context.block.Reads reader slot name)
    (supplies : context.block.Supplier reader name supplier) :
    graph.sourceOf? (Layout.entry fragments reader slot) =
      some (Layout.supplied fragments name supplier) := by
  rw [assembled.edges, ← Layout.origin_of_supplier assembled.lowered assembled.closed supplies]
  refine List.mem_append_left _ (List.mem_append_right _ (List.mem_map.mpr
    ⟨(Layout.entry fragments reader slot, (name, reader)), ?_, rfl⟩))
  exact (Layout.mem_reads_iff assembled.lowered).mpr ⟨slot, read, rfl⟩

/-- The layers of an operator stand from its number on; a boundary layer may have given way to a
payload. -/
theorem Assembled.layer_of_operator (assembled : Assembled context fragments graph)
    {number index : Nat} {fragment : Fragment} {layer : Layer} (here : fragments[number]? = some fragment)
    (there : fragment.layers[index]? = some layer) :
    ∃ present, graph.bare[Layout.offset fragments number + index]? = some present ∧
      (present = layer ∨ ∃ shape value, layer = Layer.input shape ∧ present = Layer.constant value) := by
  obtain ⟨front, extra, shapes, refilled, _, _, bare⟩ := assembled.bare
  have original := Layout.layers_of_fragment here there
  have bound := (List.getElem?_eq_some_iff.mp original).1
  rw [← refilled.length] at bound
  refine ⟨front[Layout.offset fragments number + index], ?_, ?_⟩
  · rw [bare, List.append_assoc, List.getElem?_append_left bound, List.getElem?_eq_getElem bound]
  · rcases refilled.layers _ _ (List.getElem?_eq_getElem bound) with
      same | ⟨_, _, shape, value, _, _, _, input, same⟩
    · exact .inl (Option.some.inj (same.symm.trans original))
    · exact .inr ⟨shape, value, Option.some.inj (original.symm.trans input), same⟩

/-- A variable that is made up has a layer of its own after those of operators. -/
theorem Assembled.layer_of_made (assembled : Assembled context fragments graph) {name : String}
    (made : name ∈ Layout.made fragments) : ∃ layer, context.substitute name = .ok layer ∧
      graph.bare[(Layout.layers fragments).length + (Layout.made fragments).idxOf name]? = some layer := by
  obtain ⟨front, extra, shapes, refilled, supplied, _, bare⟩ := assembled.bare
  obtain ⟨layer, substitute, here⟩ := Context.exists_substitute supplied made
  refine ⟨layer, substitute, ?_⟩
  have bound := (List.getElem?_eq_some_iff.mp here).1
  rw [bare, List.append_assoc, List.getElem?_append_right (by rw [refilled.length]; omega),
    refilled.length, Nat.add_sub_cancel_left, List.getElem?_append_left bound, here]

/-- No read is bound to a port of its own operator. -/
theorem Assembled.source_foreign (assembled : Assembled context fragments graph) {reader slot : Nat}
    {name : String} {source : PortRef} (read : context.block.Reads reader slot name)
    (bound : graph.sourceOf? (Layout.entry fragments reader slot) = some source) :
    source.node < Layout.offset fragments reader ∨ Layout.offset fragments (reader + 1) ≤ source.node := by
  obtain ⟨supplier, supplies, _⟩ := Layout.exists_supplier assembled.lowered assembled.closed name reader
  rw [assembled.source_of_read read supplies] at bound
  cases bound
  have inside : ∀ writer, context.block.Writes writer name → (Layout.offset fragments writer : Int) ≤
      (Layout.exit fragments writer).node ∧
        (Layout.exit fragments writer).node < Layout.offset fragments (writer + 1) := by
    intro writer writes
    exact (Layout.write_inside assembled.closed ((Layout.mem_writes_iff assembled.lowered).mpr
      ⟨writes, rfl⟩)).2
  -- The fragments lie one behind the other, and the ports made up behind all of them.
  cases supplies with
  | earlier writer before writes last =>
    have apart : Layout.offset fragments (writer + 1) ≤ Layout.offset fragments reader :=
      Layout.offset_mono before
    have port := inside writer writes
    exact .inl (by simp only [Layout.supplied]; omega)
  | later writer unwritten after writes first =>
    have apart : Layout.offset fragments (reader + 1) ≤ Layout.offset fragments writer :=
      Layout.offset_mono after
    have port := inside writer writes
    exact .inr (by simp only [Layout.supplied]; omega)
  | nobody unwritten =>
    have whole := Layout.offset_le fragments (reader + 1)
    exact .inr (by simp only [Layout.supplied, Layout.madeUp]; omega)

end

end LayerGraph
