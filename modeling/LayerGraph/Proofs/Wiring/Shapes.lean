import LayerGraph.Proofs.Wiring.Versions
import LayerGraph.Proofs.Wiring.Wired

/-! The shapes at the ends of connections.

A port that reads a variable has the shape that is declared for it. The port that supplies it belongs to a
layer inside, to one that takes the variable in, or to a constant of its tensor.
-/

set_option autoImplicit false

namespace LayerGraph

/-- A layer that can supply a variable: one inside, one that takes it in, or a constant of its tensor. -/
inductive Layer.Source (context : Context) (name : String) : Layer → Prop
  | inside {layer : Layer} (kind : layer.kind ∉ [LayerKind.input, .output, .constant]) : Source context name layer
  | input {shape : Shape} (declared : context.shape name = .ok shape) : Source context name (Layer.input shape)
  | constant {value : Tensor} (loaded : context.loadOrZeros name = .ok value) :
      Source context name (Layer.constant value)

theorem Context.loadOrZeros_of_load {context : Context} {name : String} {value : Tensor}
    (contained : context.tensors.contains name = .ok true) (loaded : context.load name = .ok value) :
    context.loadOrZeros name = .ok value := by
  obtain ⟨shape, declared, loaded⟩ := Attempt.bind_eq_ok.mp loaded
  obtain ⟨spelling, typed, loaded⟩ := Attempt.bind_eq_ok.mp loaded
  exact Attempt.bind_eq_ok.mpr ⟨shape, declared, Attempt.bind_eq_ok.mpr ⟨spelling, typed,
    Attempt.bind_eq_ok.mpr ⟨true, contained, loaded⟩⟩⟩

theorem Context.source_of_substitute {context : Context} {name : String} {layer : Layer}
    (made : context.substitute name = .ok layer) : layer.Source context name := by
  rcases substitute_cases made with ⟨value, loaded, rfl⟩ | ⟨shape, declared, rfl⟩
  · exact .constant loaded
  · exact .input declared

namespace Layout

/-- The port of an operator that feeds a variable supplies it. -/
theorem write_of_feed {fragments : List Fragment} {number : Nat} {shape : Shape} {name : String}
    (here : fragments[number]? = some (.feed shape name)) :
    (name, (number, ⟨offset fragments number, 0⟩)) ∈ writes fragments := by
  refine mem_writes.mpr ⟨⟨number, offset fragments number, .feed shape name⟩, mem_placed.mpr ⟨here, rfl⟩, rfl,
    ⟨0, 0⟩, List.mem_singleton.mpr rfl, ?_⟩
  simp [PortRef.rebase]

section
variable {context : Context} {fragments : List Fragment}
  (lowered : context.block.operators.map (fun op => op.lower context) = fragments.map .ok)
include lowered

/-- A port waits in the shape that its variable is declared with. -/
theorem shape_of_read {target : PortRef} {name : String} {reader : Nat}
    (member : (target, (name, reader)) ∈ reads fragments) : ∃ shape, context.shape name = .ok shape ∧
      Layer.targetShape? (layers fragments) target = some shape := by
  obtain ⟨place, present, _, port, waits, rfl⟩ := mem_reads.mp member
  obtain ⟨_, _, _, _, form⟩ := form_of_lowered lowered (mem_placed.mp present).1
  obtain ⟨shape, declared, taken⟩ := form.shape_of_pending waits
  obtain ⟨input, found, rfl⟩ := Option.map_eq_some_iff.mp taken
  exact ⟨_, declared, Option.map_eq_some_iff.mpr ⟨input, portAmong?_of_placed present found, rfl⟩⟩

/-- A layer of operators lies inside, or takes in or hands out the variable of its operator. -/
theorem layer_cases {place : Nat} {layer : Layer} (here : (layers fragments)[place]? = some layer) :
    layer.kind ∉ [LayerKind.input, .output, .constant] ∨ ∃ number op shape name,
      context.block.operators[number]? = some op ∧ place = offset fragments number ∧
      context.shape name = .ok shape ∧
        (OperatorKind.ofTag? op.tag = some .feed ∧ op.write? = some name ∧ layer = Layer.input shape ∧
            (name, (number, ⟨place, 0⟩)) ∈ writes fragments ∨
          OperatorKind.ofTag? op.tag = some .fetch ∧ op.reads = [name] ∧ layer = Layer.output shape) := by
  obtain ⟨number, index, fragment, present, there, rfl⟩ := fragment_of_layer here
  obtain ⟨op, kind, stands, known, form⟩ := form_of_lowered lowered present
  rcases form.layer_cases there with
    inner | ⟨rfl, shape, name, declared, ⟨rfl, written, rfl, same⟩ | ⟨rfl, read, _, same⟩⟩
  · exact .inl inner
  · exact .inr ⟨number, op, shape, name, stands, rfl, declared, .inl ⟨known, written, same, write_of_feed present⟩⟩
  · exact .inr ⟨number, op, shape, name, stands, rfl, declared, .inr ⟨known, read, same⟩⟩

end

section
variable {context : Context} {fragments : List Fragment} {front : List Layer}

/-- Payloads have no inputs, and neither have the boundary layers that they take the place of. -/
theorem Refilled.targetShape? (refilled : Refilled context fragments front) {ref : PortRef} {shape : Shape}
    (found : Layer.targetShape? (Layout.layers fragments) ref = some shape) :
    Layer.targetShape? front ref = some shape := by
  obtain ⟨port, present, rfl⟩ := Option.map_eq_some_iff.mp found
  obtain ⟨place, slot, layer, rfl, here, there⟩ := (Layer.portAmong?_eq_some _).mp present
  -- A boundary layer that was replaced has no inputs, so the port lies on one that stayed.
  have inside : place < front.length := by
    rw [refilled.length]
    exact (List.getElem?_eq_some_iff.mp here).1
  refine Option.map_eq_some_iff.mpr ⟨port, ?_, rfl⟩
  refine (Layer.portAmong?_eq_some _).mpr ⟨place, slot, layer, rfl, ?_, there⟩
  rcases refilled.layers place _ (List.getElem?_eq_getElem inside) with same | ⟨_, _, _, _, _, _, _, input, _⟩
  · rw [List.getElem?_eq_getElem inside, ← here, same]
  · rw [here, Option.some.injEq] at input
    subst input
    cases there

end

end Layout

section
variable {context : Context} {fragments : List Fragment} {graph : Graph}

/-- A read takes its variable in the declared shape. -/
theorem Assembled.shape_of_read (assembled : Assembled context fragments graph) {target : PortRef} {name : String}
    {reader : Nat} (member : (target, (name, reader)) ∈ Layout.reads fragments) :
    ∃ shape, context.shape name = .ok shape ∧ Layer.targetShape? graph.bare target = some shape := by
  obtain ⟨front, extra, shapes, refilled, _, _, bare⟩ := assembled.bare
  obtain ⟨shape, declared, taken⟩ := Layout.shape_of_read assembled.lowered member
  refine ⟨shape, declared, ?_⟩
  rw [bare, List.append_assoc]
  exact Layer.targetShape?_front (refilled.targetShape? taken) _

/-- The layer of a written port can supply the variable. It stands among those of operators, unless a payload
has taken the place of the boundary layer there. -/
theorem Assembled.layer_of_write (assembled : Assembled context fragments graph) {name : String} {writer : Nat}
    {source : PortRef} (member : (name, (writer, source)) ∈ Layout.writes fragments) :
    ∃ (place : Nat) (layer : Layer), source = ⟨place, 0⟩ ∧ graph.bare[place]? = some layer ∧
      layer.Source context name ∧ ((Layout.layers fragments)[place]? = some layer ∨
        context.tensors.contains name = .ok true ∧ layer.kind = .constant) := by
  obtain ⟨front, extra, shapes, refilled, _, _, bare⟩ := assembled.bare
  obtain ⟨port, present⟩ := Option.isSome_iff_exists.mp (Layout.write_inside assembled.closed member).1
  obtain ⟨place, slot, original, same, here, there⟩ := (Layer.portAmong?_eq_some _).mp present
  have first : slot = 0 := by
    obtain ⟨_, rfl⟩ := (Layout.mem_writes_iff assembled.lowered).mp member
    exact (Int.ofNat.inj (congrArg PortRef.slot same)).symm
  subst first
  subst same
  have inside : place < front.length := by
    rw [refilled.length]
    exact (List.getElem?_eq_some_iff.mp here).1
  have stands : graph.bare[place]? = some front[place] := by
    rw [bare, List.append_assoc, List.getElem?_append_left inside, List.getElem?_eq_getElem inside]
  refine ⟨place, _, rfl, stands, ?_⟩
  rcases refilled.layers place _ (List.getElem?_eq_getElem inside) with
    unchanged | ⟨other, later, shape, value, sole, contained, loaded, input, constant⟩
  · refine ⟨?_, .inl unchanged⟩
    rw [here, Option.some.injEq] at unchanged
    rw [← unchanged]
    rcases Layout.layer_cases assembled.lowered here with
      inner | ⟨number, op, shape, other, _, _, declared, ⟨_, _, rfl, fed⟩ | ⟨_, _, rfl⟩⟩
    · exact .inside inner
    · rw [← (Layout.write_unique assembled.closed fed member).1]
      exact .input declared
    · cases there
  · -- The variable whose payload was taken is the only one that is written at the port.
    have written : (later, (⟨place, 0⟩ : PortRef)) ∈ Layout.writers fragments other := by
      rw [sole]
      exact List.mem_singleton.mpr rfl
    obtain ⟨rfl, _⟩ := Layout.write_unique assembled.closed (Layout.mem_writers.mp written) member
    rw [constant]
    exact ⟨.constant (Context.loadOrZeros_of_load contained loaded), .inr ⟨contained, rfl⟩⟩

/-- The layer at the port that supplies a read can supply its variable. One inside belongs to the operator that
writes the port. -/
theorem Assembled.layer_of_supplied (assembled : Assembled context fragments graph) {reader slot : Nat}
    {name : String} {supplier : Option Nat} (read : context.block.Reads reader slot name)
    (supplies : context.block.Supplier reader name supplier) : ∃ (place : Nat) (layer : Layer),
      Layout.supplied fragments name supplier = ⟨place, 0⟩ ∧ graph.bare[place]? = some layer ∧
        layer.Source context name ∧ (layer.kind ∉ [LayerKind.input, .output, .constant] → ∃ writer,
          (name, (writer, Layout.supplied fragments name supplier)) ∈ Layout.writes fragments ∧
            (Layout.layers fragments)[place]? = some layer) := by
  cases supplier with
  | some writer =>
    have writes : context.block.Writes writer name := by
      cases supplies <;> assumption
    have written := (Layout.mem_writes_iff assembled.lowered).mpr ⟨writes, rfl⟩
    obtain ⟨place, layer, same, here, source, stays⟩ := assembled.layer_of_write written
    exact ⟨place, layer, same, here, source, fun inside =>
      ⟨writer, written, stays.resolve_right fun replaced => inside (by simp [replaced.2])⟩⟩
  | none =>
    have made := (Layout.mem_made assembled.lowered assembled.closed).mpr ⟨reader, slot, read, supplies⟩
    obtain ⟨layer, substitute, here⟩ := assembled.layer_of_made made
    refine ⟨_, layer, rfl, here, Context.source_of_substitute substitute, fun inside => absurd ?_ inside⟩
    rcases Context.substitute_cases substitute with ⟨_, _, rfl⟩ | ⟨_, _, rfl⟩
    · simp [Layer.kind, Layer.constant, LayerBody.kind]
    · simp [Layer.kind, Layer.input, LayerBody.kind]

end

end LayerGraph
