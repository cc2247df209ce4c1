import LayerGraph.Proofs.Lowering.Errors
import LayerGraph.Proofs.Tensor.Extents
import LayerGraph.Proofs.Wiring.Faults
import LayerGraph.Proofs.Wiring.Shapes
import LayerGraph.Proofs.Wiring.Supply

/-! The conversion errors of wiring a block.

While operators are lowered, every conversion error is one of an operator. What comes after finds all variables that
it looks for declared and all ports that it works with, so it refuses only a shape that is handed out and the payload
of a variable that is made up or fed. None of the references that it works with itself misses a port.
-/

set_option autoImplicit false

namespace LayerGraph

/-- A variable that a graph hands out: one that is fetched, or one that is written and not read. -/
def Block.HandsOut (block : Block) (name : String) : Prop :=
  (∃ op ∈ block.operators, OperatorKind.ofTag? op.tag = some .fetch ∧ op.reads = [name]) ∨
    ∃ writer, block.Writes writer name ∧ block.Unread writer name

/-- A variable that a payload may be taken for when all operators are lowered: one that is fed, or made up. -/
def Block.TakesIn (block : Block) (name : String) : Prop :=
  (∃ op ∈ block.operators, OperatorKind.ofTag? op.tag = some .feed ∧ op.write? = some name) ∨
    name ∈ block.sourceless

/-- What is refused once all operators are lowered. No operator is named, and an error about a variable names it;
only under a directory that is a file itself is there a payload without a name. -/
inductive Context.Refusal (context : Context) : ConversionError → Prop
  | boundary {name : String} {inferred declared : Shape} (exposed : context.block.HandsOut name)
      (known : context.shape name = .ok declared) (differ : Shape.compatible inferred declared = false) :
      Refusal context ⟨.graph (.boundary inferred declared), none, some name⟩
  | payload {name : String} {defect : PayloadDefect} {subject : Option String} (supplied : context.block.TakesIn name)
      (named : (∀ bytes, context.tensors.files.read context.tensors.directory ≠ .ok bytes) → subject = some name) :
      Refusal context ⟨.payload defect, none, subject⟩

theorem Context.Refusal.of_refuses {context : Context} {name : String} {error : ConversionError}
    (supplied : context.block.TakesIn name) (refuses : context.tensors.Refuses name error) :
    context.Refusal error := by
  obtain ⟨defect, subject, rfl, named⟩ := refuses
  refine .payload supplied fun directory => named.resolve_right ?_
  rintro ⟨_, bytes, found⟩
  exact directory bytes found

namespace Graph

open Attempt

variable (graph : Graph)

theorem errorless_pick {α : Type} (items : List α) (index : Int) : (pick items index).Errorless := by
  unfold pick
  split
  · exact errs_fault _
  · split
    · exact errs_ok _
    · exact errs_fault _

theorem errorless_node (index : Int) : (graph.node index).Errorless := by
  unfold node place
  refine Errs.bind ?_ fun here _ => ?_
  · split
    · exact errs_ok _
    · exact errs_fault _
  · split
    · exact errs_ok _
    · exact errs_fault _

theorem errorless_inputPort (ref : PortRef) : (graph.inputPort ref).Errorless :=
  (graph.errorless_node _).bind fun _ _ => (errorless_pick _ _).bind fun _ _ => errs_ok _

theorem errorless_outputPort (ref : PortRef) : (graph.outputPort ref).Errorless :=
  (graph.errorless_node _).bind fun _ _ => (errorless_pick _ _).bind fun _ _ => errs_ok _

end Graph

namespace Layout

/-- A variable that the layer of an operator hands out is fetched. -/
theorem handsOut_of_read {context : Context} {fragments : List Fragment}
    (lowered : context.block.operators.map (fun op => op.lower context) = fragments.map .ok) {target : PortRef}
    {name : String} {reader : Nat} (member : (target, (name, reader)) ∈ reads fragments) {layer : Layer}
    (here : (layers fragments)[target.node.toNat]? = some layer) (kind : layer.kind = .output) :
    context.block.HandsOut name := by
  obtain ⟨place, present, rfl, port, waits, rfl⟩ := mem_reads.mp member
  obtain ⟨there, start⟩ := mem_placed.mp present
  obtain ⟨op, _, stands, known, form⟩ := form_of_lowered lowered there
  rw [form.pending, Fragment.mem_waiting] at waits
  obtain ⟨slot, rfl, read⟩ := waits
  obtain ⟨first, rest, _, taken, _, _⟩ := form.exists_first
  have front : place.fragment.layers[0]? = some first := by rw [taken]; rfl
  have position : ((⟨0, slot⟩ : PortRef).rebase place.offset).node.toNat = offset fragments place.reader + 0 := by
    simp only [PortRef.rebase, start]
    omega
  -- The variable is read at the first layer of the operator, which is the one that hands out.
  rw [position, layers_of_fragment there front, Option.some.injEq] at here
  subst here
  rcases form.layer_cases front with inner | ⟨_, _, other, _, ⟨_, _, _, same⟩ | ⟨rfl, single, _, _⟩⟩
  · exact absurd (by simp [kind]) inner
  · rw [same] at kind
    cases kind
  · rw [single] at read
    have same := List.mem_singleton.mp (List.mem_of_getElem? read)
    exact .inl ⟨op, List.mem_of_getElem? stands, known, same ▸ single⟩

section
variable {context : Context} {fragments : List Fragment} {name : String}
  (lowered : context.block.operators.map (fun op => op.lower context) = fragments.map .ok)
  (closed : Layout.Closed fragments)
include lowered closed

/-- A variable that is read from nobody is made up. -/
theorem takesIn_of_unsupplied {target : PortRef} {reader : Nat} (member : (target, (name, reader)) ∈ reads fragments)
    (found : writer? fragments name reader = none) : context.block.TakesIn name := by
  obtain ⟨slot, reads, _⟩ := (mem_reads_iff lowered).mp member
  obtain ⟨supplier, supplies, taken⟩ := exists_supplier lowered closed name reader
  rw [found] at taken
  cases supplier with
  | none => exact .inr (Block.mem_sourceless.mpr ⟨reader, slot, reads, supplies⟩)
  | some writer => cases taken

/-- A boundary layer that takes a variable in belongs to the operator that feeds it, so that the variable is declared. -/
theorem takesIn_of_fed {node : Int} (fed : Fed fragments name node) :
    (∃ shape, context.shape name = .ok shape) ∧ context.block.TakesIn name := by
  obtain ⟨place, writer, _, _, written, input⟩ := fed
  rcases layer_cases lowered input with
    inner | ⟨number, op, shape, other, stands, rfl, declared, ⟨feeds, writes, _, fed⟩ | ⟨_, _, same⟩⟩
  · exact absurd List.mem_cons_self inner
  · obtain ⟨rfl, _⟩ := write_unique closed fed written
    exact ⟨⟨shape, declared⟩, .inl ⟨op, List.mem_of_getElem? stands, feeds, writes⟩⟩
  · cases same

end

end Layout

namespace Wiring

open Attempt Run

section
variable {wiring : Wiring} {condition : ConversionError → Prop}

theorem errs_log (severity : Severity) (message : String) : (log severity message).Errs wiring condition := by
  have report : ((Journal.report severity message).perform wiring.journal).1.Errs condition := by
    rw [Journal.perform_report]
    exact Attempt.Errs.ite (fun _ => (errs_mapError fun _ _ _ failed => nomatch failed).bind fun _ _ => errs_ok _)
      fun _ => errs_ok _
  exact report

theorem errs_look {α β : Type} (find : Wiring → Attempt α) {next : α → Run Wiring β} (first : (find wiring).Errs condition)
    (rest : ∀ value, find wiring = .ok value → (next value).Errs wiring condition) :
    (look find >>= next).Errs wiring condition :=
  errs_attempt first rest

/-- A look at the state errs as what follows. -/
theorem errs_get {β : Type} {next : Wiring → Run Wiring β} (rest : (next wiring).Errs wiring condition) :
    (get >>= next).Errs wiring condition :=
  rest

theorem errs_checkBoundary {name : String} {inferred declared : Shape}
    (met : Shape.compatible inferred declared = false →
      condition ⟨.graph (.boundary inferred declared), none, some name⟩) :
    (checkBoundary name inferred declared).Errs condition :=
  Attempt.Errs.ite (fun _ => errs_ok _) fun differ =>
    Attempt.Errs.ite (fun _ => errs_fail (met (Bool.eq_false_iff.mpr differ))) fun _ => errs_fault _

end

section
variable {context : Context} {wiring : Wiring}

/-- An operator's turn errs as its lowering. -/
theorem errs_lowerOne {reader : Nat} {op : Operator} : (lowerOne context reader op).Errs wiring
    fun error => op.lower context = .error (.conversion error) := by
  unfold lowerOne
  refine errs_attempt (fun error failed => failed) fun fragment lowered => ?_
  obtain ⟨kind, known, form⟩ := Operator.form_of_lower lowered
  obtain ⟨next, appended, _⟩ := append_yields form.closed wiring reader
  refine Run.Errs.following appended (errs_each fun _ layer _ state _ _ => ?_)
  unfold logLowered
  exact errs_get (Run.Errs.ite (fun _ => errs_ofAttempt (errs_fault _)) fun _ => errs_log _ _)

theorem errs_lowerAll : (lowerAll context).Errs wiring
    fun error => ∃ op ∈ context.block.operators, op.lower context = .error (.conversion error) := by
  rw [lowerAll_eq]
  refine errs_each ?_
  rintro done ⟨op, reader⟩ rest state split _
  obtain ⟨front, back, whole, _⟩ := zipIdx_eq_append_cons.mp split
  exact fun error failed => ⟨op, whole ▸ List.mem_append_right _ List.mem_cons_self, errs_lowerOne error failed⟩

end

section
variable {context : Context} {fragments : List Fragment} {made : List String} {wiring : Wiring}
  {name : String} {reader : Nat} {target : PortRef}

/-- A variable that is made up errs for its payload. -/
theorem errs_synthesize {shape : Shape} (declared : context.shape name = .ok shape)
    (supplied : context.block.TakesIn name) : (synthesize context name).Errs wiring context.Refusal := by
  have loaded : (context.loadOrZeros name).Errs context.Refusal :=
    (Context.errs_loadOrZeros declared).imp fun _ => .of_refuses supplied
  have loading : ∀ start : Wiring, (loadConstant context name).Errs start context.Refusal := fun start =>
    errs_attempt loaded fun value _ => Run.Errs.following (yields_addNode.mpr ⟨rfl, rfl⟩)
      ((errs_log _ _).bind fun _ _ _ => errs_pure _)
  have constant : ∀ stored, (makeConstant context name stored).Errs wiring context.Refusal := by
    intro stored
    rw [makeConstant_eq]
    exact Run.Errs.ite (fun _ => loading wiring) fun _ => (errs_log _ _).bind fun _ state _ => loading state
  have input : ∀ shape, (makeInput shape name).Errs wiring context.Refusal := fun shape =>
    Run.Errs.following (yields_addNode.mpr ⟨rfl, rfl⟩) (Run.Errs.following (change_yields _)
      ((errs_log _ _).bind fun _ _ _ => errs_pure _))
  have noting : ∀ (node : Int) (state : Wiring), (noteSource name node).Errs state context.Refusal :=
    fun node state => Run.Errs.following (change_yields _) (errs_pure _)
  obtain ⟨declaration, found, _⟩ := Attempt.map_eq_ok.mp declared
  rw [synthesize_eq]
  refine errs_get ?_
  split
  · exact errs_pure _
  · exact errs_attempt (errs_of_eq_ok found) fun declaration _ =>
      errs_attempt (context.tensors.errorless_contains name).of_errorless fun stored _ =>
        (Run.Errs.ite (fun _ => constant stored) fun _ => input _).bind fun node state _ => noting node state

/-- The check before a connection errs for a layer that hands out in another shape. -/
theorem errs_checkTarget {graph : Graph} {source : PortRef} : (checkTarget graph name source target).Errs fun error =>
    ∃ layer output input, graph.node target.node = .ok layer ∧ layer.kind = .output ∧
      graph.inputPort target = .ok input ∧ Shape.compatible output input.shape = false ∧
      error = ⟨.graph (.boundary output input.shape), none, some name⟩ := by
  unfold checkTarget
  refine (graph.errorless_node _).of_errorless.bind fun layer node =>
    Attempt.Errs.ite (fun kind => ?_) fun _ => errs_ok _
  exact (graph.errorless_outputPort source).of_errorless.bind fun output _ =>
    (graph.errorless_inputPort target).of_errorless.bind fun input enters =>
      errs_checkBoundary fun differ => ⟨layer, output.shape, input, node, kind, enters, differ, rfl⟩

/-- A port that waits is connected with its origin, unless it hands out in another shape. -/
theorem Bound.errs_connecting {done rest : List (PortRef × (String × Nat))}
    (bound : wiring.Bound context fragments made
      (Layout.links fragments ++ Layout.bindings fragments (Layout.made fragments) done))
    (lowered : context.block.operators.map (fun op => op.lower context) = fragments.map .ok)
    (closed : Layout.Closed fragments)
    (split : Layout.reads fragments = done ++ (target, (name, reader)) :: rest)
    (noted : Layout.writer? fragments name reader = none → name ∈ made) :
    (connectChecked name (Layout.origin fragments made name reader) target).Errs wiring context.Refusal := by
  have member : (target, (name, reader)) ∈ Layout.reads fragments :=
    split ▸ List.mem_append_right _ List.mem_cons_self
  have enters := bound.read_present closed member
  have exits := bound.origin_present closed noted
  obtain ⟨_, connected⟩ := connect_yields wiring enters exits (bound.unbound closed split)
  refine errs_look (fun wiring => checkTarget wiring.graph name (Layout.origin fragments made name reader) target)
    (errs_checkTarget.imp ?_) fun _ _ => errs_of_yields connected
  rintro error ⟨layer, output, input, node, kind, taken, differ, rfl⟩
  obtain ⟨port, present⟩ := Option.isSome_iff_exists.mp (Layout.read_inside closed member).1
  have plain := Layer.plain_of_portAmong? _ present
  obtain ⟨extra, _, bare⟩ := bound.bare
  have inside := Layer.node_lt_of_portAmong? _ present
  have stands : (Layout.layers fragments)[target.node.toNat]? = some layer.bare := by
    have here := (Graph.node_eq_ok plain.1).mp node
    have there : wiring.graph.bare[target.node.toNat]? = some layer.bare := by
      rw [Graph.bare, List.getElem?_map, here]
      rfl
    rwa [bare, List.getElem?_append_left (by have := plain.1; omega)] at there
  obtain ⟨shape, declared, reads⟩ := Layout.shape_of_read lowered member
  have same : shape = input.shape := by
    have front := Layer.targetShape?_front reads extra
    rw [← bare, Graph.bare, Layer.targetShape?_bare, Layer.targetShape?] at front
    obtain ⟨other, found, rfl⟩ := Option.map_eq_some_iff.mp front
    rw [(Graph.inputPort_eq_ok plain).mp taken |>.symm.trans found |> Option.some.inj]
  exact .boundary (Layout.handsOut_of_read lowered member stands kind) (same ▸ declared) differ

/-- Connecting a port refuses its shape, or the payload of a variable that is made up for it. -/
theorem Bound.errs_bindOne {done rest : List (PortRef × (String × Nat))}
    (bound : wiring.Bound context fragments made
      (Layout.links fragments ++ Layout.bindings fragments (Layout.made fragments) done))
    (lowered : context.block.operators.map (fun op => op.lower context) = fragments.map .ok)
    (closed : Layout.Closed fragments)
    (split : Layout.reads fragments = done ++ (target, (name, reader)) :: rest) :
    (Wiring.bindOne context target name reader).Errs wiring context.Refusal := by
  have member : (target, (name, reader)) ∈ Layout.reads fragments :=
    split ▸ List.mem_append_right _ List.mem_cons_self
  rw [bindOne_eq]
  refine errs_get ?_
  rw [bound.writer?_eq]
  cases found : Layout.writer? fragments name reader with
  | some source =>
    have origin : source = Layout.origin fragments made name reader := by
      rw [Layout.origin, found, Option.getD_some]
    rw [origin]
    exact bound.errs_connecting lowered closed split fun missing =>
      absurd (found.symm.trans missing) (Option.some_ne_none _)
  | none =>
    obtain ⟨shape, declared, _⟩ := Layout.shape_of_read lowered member
    have supplied := Layout.takesIn_of_unsupplied lowered closed member found
    refine (errs_synthesize declared supplied).bind fun source state makes => ?_
    rw [bound.eq_origin found makes]
    exact (bound.synthesize found makes).1.errs_connecting lowered closed split fun none =>
      (Layout.mem_note name reader).mpr (.inr ⟨rfl, none⟩)

theorem Laid.errs_bindPending (laid : wiring.Laid fragments)
    (lowered : context.block.operators.map (fun op => op.lower context) = fragments.map .ok) :
    (Wiring.bindPending context).Errs wiring context.Refusal := by
  rw [bindPending_eq]
  refine errs_get (errs_each ?_)
  rintro done ⟨target, name, reader⟩ rest state split reached
  rw [laid.pending] at split
  exact (bound_of_bindEach laid split reached).errs_bindOne lowered laid.closed split

end

section
variable {context : Context} {fragments : List Fragment} {wiring : Wiring} {name : String}

/-- A fed input errs for its payload, never for the exchange. -/
theorem Filled.errs_replaceOne {node : Int} (filled : wiring.Filled context fragments)
    (lowered : context.block.operators.map (fun op => op.lower context) = fragments.map .ok)
    (fed : Layout.Fed fragments name node) :
    (Wiring.replaceOne context name node).Errs wiring context.Refusal := by
  have replaceable : (isReplaceable context wiring name).Errorless :=
    Attempt.Errs.ite (fun _ => errs_ok _) fun _ => context.tensors.errorless_contains name
  rw [replaceOne_eq]
  refine errs_look (isReplaceable context · name) replaceable.of_errorless fun gives found =>
    Run.Errs.ite (fun yes => ?_) fun _ => errs_pure _
  subst yes
  obtain ⟨place, writer, shape, rfl, _, _, input⟩ := filled.sole fed found
  obtain ⟨declared, supplied⟩ := Layout.takesIn_of_fed lowered filled.closed fed
  obtain ⟨shape, declared⟩ := declared
  refine errs_attempt ((Context.errs_load declared).imp fun _ => .of_refuses supplied) fun value _ => ?_
  obtain ⟨_, replaced⟩ := filled.replaceNode_yields input value
  exact Run.Errs.following replaced (errs_log _ _)

theorem Filled.errs_replaceFed (filled : wiring.Filled context fragments)
    (lowered : context.block.operators.map (fun op => op.lower context) = fragments.map .ok)
    (provisional : ∀ entry ∈ wiring.provisional, Layout.Fed fragments entry.1 entry.2) :
    (Wiring.replaceFed context).Errs wiring context.Refusal := by
  rw [replaceFed_eq]
  refine errs_get (errs_each ?_)
  rintro done ⟨name, node⟩ rest state split reached
  rw [split] at provisional
  have later := filled_of_replaceEach filled
    (fun other member => provisional other (List.mem_append_left _ member)) reached
  exact later.errs_replaceOne lowered (provisional _ (List.mem_append_right _ List.mem_cons_self))

theorem errs_handOut {condition : ConversionError → Prop} {source : PortRef} {given declared : Shape}
    (present : (wiring.graph.output? source).isSome = true)
    (met : Shape.compatible given declared = false →
      condition ⟨.graph (.boundary given declared), none, some name⟩) :
    (handOut name source given declared).Errs wiring condition := by
  obtain ⟨_, connected⟩ := connect_new_yields present declared
  exact errs_attempt (errs_checkBoundary met) fun _ _ => Run.Errs.following (yields_addNode.mpr ⟨rfl, rfl⟩)
    (Run.Errs.following (change_yields _) (Run.Errs.following connected (errs_log _ _)))

/-- Handing out a port errs for a shape that differs from the declared one. -/
theorem Handed.errs_exposeOne {done rest : List (String × (Nat × PortRef))} {writer : Nat} {source : PortRef}
    (handed : wiring.Handed context fragments done)
    (lowered : context.block.operators.map (fun op => op.lower context) = fragments.map .ok)
    (closed : Layout.Closed fragments) (split : Layout.writes fragments = done ++ (name, (writer, source)) :: rest) :
    (Wiring.exposeOne context name source).Errs wiring context.Refusal := by
  have member : (name, (writer, source)) ∈ Layout.writes fragments :=
    split ▸ List.mem_append_right _ List.mem_cons_self
  have idle := handed.consumers_eq_nil closed split
  have present := handed.source_present closed member
  obtain ⟨port, exits⟩ := Option.isSome_iff_exists.mp present
  have found := (Graph.outputPort_eq_ok (Layer.plain_of_portAmong? _ exits)).mpr exits
  have consumers : wiring.graph.consumersOf source = port.consumers := by
    rw [Graph.consumersOf, exits]
    rfl
  rw [consumers] at idle
  rw [exposeOne_eq]
  refine Run.Errs.following (yields_look.mpr ⟨found, rfl⟩) (Run.Errs.ite (fun unread => ?_) fun _ => errs_pure _)
  have exposed : context.block.HandsOut name := by
    obtain ⟨writes, free, _⟩ := (Layout.mem_exposed lowered closed).mp
      (List.mem_filter.mpr ⟨member, decide_eq_true (idle.mp (List.isEmpty_iff.mp unread))⟩)
    exact .inr ⟨writer, writes, free⟩
  refine Run.Errs.ite (fun declares => ?_) fun _ => errs_handOut present fun differ => ?_
  · obtain ⟨declaration, here⟩ := Option.isSome_iff_exists.mp declares
    have declared : context.shape name = .ok declaration.shape := by
      unfold Context.shape Block.shape Block.declaration
      rw [here]
      rfl
    exact errs_attempt (errs_of_eq_ok declared) fun shape same =>
      errs_handOut present fun differ => .boundary exposed same differ
  · -- A port is handed out in its own shape, which never differs.
    exact absurd (Shape.compatible_self port.shape) (Bool.eq_false_iff.mp differ)

theorem Filled.errs_exposeOutputs (filled : wiring.Filled context fragments)
    (lowered : context.block.operators.map (fun op => op.lower context) = fragments.map .ok) :
    (Wiring.exposeOutputs context).Errs wiring context.Refusal := by
  have written := map_written filled.closed filled.produced
  rw [exposeOutputs_eq]
  refine errs_get (errs_each ?_)
  rintro done ⟨writer, name, source⟩ rest state split reached
  rw [split, List.map_append, List.map_cons] at written
  exact (handed_of_exposeEach filled split reached).errs_exposeOne lowered filled.closed written.symm

end

/-- Wiring a block from the start errs as one of its operators, or refuses something once they are all lowered. -/
theorem errs_resolve {context : Context} {wiring : Wiring} (laid : wiring.Laid []) (fresh : wiring.finished = false) :
    (resolve context).Errs wiring fun error =>
      (∃ op ∈ context.block.operators, op.lower context = .error (.conversion error)) ∨
        (∀ op ∈ context.block.operators, ∃ fragment, op.lower context = .ok fragment) ∧ context.Refusal error := by
  unfold resolve
  refine errs_get ?_
  rw [fresh, if_neg nofun]
  refine Run.Errs.bind (errs_lowerAll.imp fun error => .inl) fun _ lowered lowers => ?_
  obtain ⟨fragments, same, known⟩ := laid_of_lowerEach laid lowers
  have all : ∀ op ∈ context.block.operators, ∃ fragment, op.lower context = .ok fragment := fun op member => by
    obtain ⟨fragment, _, here⟩ := List.mem_map.mp (same ▸ List.mem_map_of_mem member)
    exact ⟨fragment, here.symm⟩
  have refused : ∀ error, context.Refusal error →
      (∃ op ∈ context.block.operators, op.lower context = .error (.conversion error)) ∨
        (∀ op ∈ context.block.operators, ∃ fragment, op.lower context = .ok fragment) ∧ context.Refusal error :=
    fun error refusal => .inr ⟨all, refusal⟩
  refine Run.Errs.bind ((known.errs_bindPending same).imp refused) fun _ bound binds => ?_
  have reads := bound_of_bindPending known binds
  have unfilled := reads.filled known.closed
  refine Run.Errs.bind ((unfilled.errs_replaceFed same reads.provisional).imp refused) fun _ filled replaces => ?_
  have handing := filled_of_replaceFed unfilled reads.provisional replaces
  exact Run.Errs.bind ((handing.errs_exposeOutputs same).imp refused) fun _ _ _ =>
    Run.Errs.following (change_yields _) (errs_get (errs_pure _))

end Wiring

end LayerGraph
