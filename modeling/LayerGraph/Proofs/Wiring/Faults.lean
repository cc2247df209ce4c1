import LayerGraph.Proofs.Lowering.Faults
import LayerGraph.Proofs.Text.Numerals
import LayerGraph.Proofs.Wiring.Turns

/-! The faults of wiring a block.

The graph operations of a wiring find what they look for, so its faults are those of lowering an operator,
of a variable that is made up, of a payload that replaces a fed input, of refusing a shape that is too long
to be shown, and of the lines that quote the names of variables. Each pass meets the faults of its first
step that has any.
-/

set_option autoImplicit false

namespace LayerGraph.Wiring

open Attempt Run Text

/-- The faults of an operator's turn: of its lowering, and of lines about its layers with integers that
are too long to be shown. -/
def LowerHazard (context : Context) (threshold : Int) (reader : Nat) (op : Operator) (fault : Fault) :
    Prop :=
  op.Hazard context fault ∨ ∃ fragment, op.lower context = .ok fragment ∧
    threshold ≤ Severity.debug.number ∧
      (∃ layer ∈ fragment.layers, showsNumerals (loweredText reader op layer) = false) ∧
      fault = .shownInteger

/-- The faults of a variable that becomes a constant: of the line about a missing payload, of its payload
or zeros, and of the line about the constant. -/
def ConstantHazard (context : Context) (threshold : Int) (name : String) (stored : Bool) (fault : Fault) :
    Prop :=
  let missing := "No payload for persistable [var]" ++ name ++ "[/var], using zeros"
  let making := context.LoadOrZerosHazard name fault ∨ ∃ value, context.loadOrZeros name = .ok value ∧
    Severity.debug.Breaks threshold ("Bound " ++ name ++ " to a constant") fault
  if stored then making
  else Severity.warning.Breaks threshold missing fault ∨ Severity.warning.Shows threshold missing ∧ making

/-- The faults of a variable that is made up: a name whose path is too long, or those of its layer. -/
def SourceHazard (context : Context) (threshold : Int) (name : String) (fault : Fault) : Prop :=
  ∃ declaration, context.block.declaration name = .ok declaration ∧
    (context.tensors.LookupHazard name fault ∨ ∃ stored, context.tensors.contains name = .ok stored ∧
      if declaration.persistable || stored then ConstantHazard context threshold name stored fault
      else Severity.debug.Breaks threshold ("Bound " ++ name ++ " to a new graph input") fault)

/-- The faults of refusing a shape that is handed out: an extent that is too long to be shown. -/
def BoundaryHazard (inferred declared : Shape) (fault : Fault) : Prop :=
  Shape.compatible inferred declared = false ∧ (∃ extent ∈ inferred ++ declared, showsInteger extent = false) ∧
    fault = .shownInteger

/-- The faults of the check before a connection: those of refusing the shape that the source gives to a
layer that hands it out. -/
def TargetHazard (graph : Graph) (source target : PortRef) (fault : Fault) : Prop :=
  ∃ layer, graph.node target.node = .ok layer ∧ layer.kind = .output ∧
    ∃ output, graph.outputPort source = .ok output ∧ ∃ input, graph.inputPort target = .ok input ∧
      BoundaryHazard output.shape input.shape fault

/-- The faults of connecting a waiting port: those of its variable, if it has to be made up, and of the
check before the connection. -/
def BindHazard (context : Context) (threshold : Int) (wiring : Wiring) (target : PortRef) (name : String)
    (reader : Nat) (fault : Fault) : Prop :=
  match wiring.writer? name reader with
  | some source => TargetHazard wiring.graph source target fault
  | none =>
    Keyed.get? name wiring.synthesized = none ∧ SourceHazard context threshold name fault ∨
      ∃ source reached, (synthesize context name).Yields wiring source reached ∧
        TargetHazard reached.graph source target fault

/-- The faults of a fed input: of looking for its payload, of the payload, and of the line about it. -/
def ReplaceHazard (context : Context) (threshold : Int) (wiring : Wiring) (name : String)
    (fault : Fault) : Prop :=
  (wiring.writers name).length = 1 ∧
    (context.tensors.LookupHazard name fault ∨ context.tensors.contains name = .ok true ∧
      (context.LoadHazard name fault ∨ ∃ value, context.load name = .ok value ∧
        Severity.debug.Breaks threshold ("Replaced feed " ++ name ++ " with its stored payload") fault))

/-- The shape that an unread port is handed out with. -/
def declaredShape (context : Context) (name : String) (port : OutputPort) : Attempt Shape :=
  if context.block.declares name then context.shape name else .ok port.shape

/-- The faults of an unread port: of refusing its shape, and of the line about it once the shapes agree. -/
def ExposeHazard (context : Context) (threshold : Int) (wiring : Wiring) (name : String)
    (source : PortRef) (fault : Fault) : Prop :=
  ∃ port, wiring.graph.outputPort source = .ok port ∧ port.consumers = [] ∧
    ∃ declared, declaredShape context name port = .ok declared ∧
      (BoundaryHazard port.shape declared fault ∨ Shape.compatible port.shape declared = true ∧
        Severity.debug.Breaks threshold ("Exposed " ++ name ++ " as a graph output") fault)

/-- The faults of lowering the operators: those of one whose turn comes. -/
def LoweringHazard (context : Context) (threshold : Int) (start : Wiring) (fault : Fault) : Prop :=
  ∃ front op back reached, context.block.operators = front ++ op :: back ∧
    (lowerEach context front.zipIdx).Yields start () reached ∧
      LowerHazard context threshold front.length op fault

/-- The faults of connecting the waiting ports: those of one whose turn comes. -/
def BindingHazard (context : Context) (threshold : Int) (start : Wiring) (fault : Fault) : Prop :=
  ∃ done target name reader rest reached, start.pending = done ++ (target, (name, reader)) :: rest ∧
    (bindEach context done).Yields start () reached ∧
      BindHazard context threshold reached target name reader fault

/-- The faults of fed inputs: those of one whose turn comes. -/
def FillingHazard (context : Context) (threshold : Int) (start : Wiring) (fault : Fault) : Prop :=
  ∃ done name node rest reached, start.provisional = done ++ (name, node) :: rest ∧
    (replaceEach context done).Yields start () reached ∧
      ReplaceHazard context threshold reached name fault

/-- The faults of handing out: those of a written port whose turn comes. -/
def ExposingHazard (context : Context) (threshold : Int) (start : Wiring) (fault : Fault) : Prop :=
  ∃ done writer name source rest reached, start.written = done ++ (writer, name, source) :: rest ∧
    (exposeEach context done).Yields start () reached ∧
      ExposeHazard context threshold reached name source fault

/-- The faults of wiring a block, pass by pass. -/
def Hazard (context : Context) (threshold : Int) (start : Wiring) (fault : Fault) : Prop :=
  LoweringHazard context threshold start fault ∨
    ∃ lowered, (lowerAll context).Yields start () lowered ∧
      (BindingHazard context threshold lowered fault ∨
        ∃ bound, (bindPending context).Yields lowered () bound ∧
          (FillingHazard context threshold bound fault ∨
            ∃ filled, (replaceFed context).Yields bound () filled ∧
              ExposingHazard context threshold filled fault))

section
variable {context : Context} {wiring : Wiring} {reader : Nat} {op : Operator}

/-- An operator's turn meets the faults of its hazard. -/
theorem faults_lowerOne : (lowerOne context reader op).Faults wiring
    (LowerHazard context wiring.journal.threshold reader op) := by
  unfold Run.Faults
  rw [result_lowerOne]
  unfold Operator.turn
  refine (Operator.faults_lower.bind fun fragment _ =>
    Attempt.Faults.ite (fun _ => faults_fault .shownInteger) fun _ => faultless_ok ()).congr fun fault => ?_
  simp [LowerHazard, and_assoc]

/-- Lowering the operators meets the faults of the first operator that has any. -/
theorem faults_lowerAll : (lowerAll context).Faults wiring
    (LoweringHazard context wiring.journal.threshold wiring) := by
  have round : ∀ done (entry : Operator × Nat) rest state,
      context.block.operators.zipIdx = done ++ entry :: rest →
      (lowerEach context done).Yields wiring () state → (lowerOne context entry.2 entry.1).Faults state
        (LowerHazard context wiring.journal.threshold entry.2 entry.1) := by
    intro done entry rest state _ reached
    rw [← steady_lowerEach context _ _ _ _ reached]
    exact faults_lowerOne
  rw [lowerAll_eq]
  refine (faults_each round).congr fun fault => ?_
  constructor
  · rintro ⟨done, ⟨op, reader⟩, rest, state, split, reached, named⟩
    obtain ⟨front, back, whole, rfl, rfl, _⟩ := zipIdx_eq_append_cons.mp split
    exact ⟨front, op, back, state, whole, reached, named⟩
  · rintro ⟨front, op, back, state, whole, reached, named⟩
    exact ⟨_, (op, front.length), _, state, zipIdx_eq_append_cons.mpr ⟨front, back, whole, rfl, rfl, rfl⟩,
      reached, named⟩

end

section
variable {context : Context} {fragments : List Fragment} {wiring : Wiring} {name : String}

theorem faults_makeConstant (stored : Bool) : (makeConstant context name stored).Faults wiring
    (ConstantHazard context wiring.journal.threshold name stored) := by
  have loading : ∀ start : Wiring, (loadConstant context name).Faults start fun fault =>
      context.LoadOrZerosHazard name fault ∨ ∃ value, context.loadOrZeros name = .ok value ∧
        Severity.debug.Breaks start.journal.threshold ("Bound " ++ name ++ " to a constant") fault := fun start =>
    faults_attempt (context.faults_loadOrZeros name) fun value _ =>
      Faults.following (yields_addNode.mpr ⟨rfl, rfl⟩) (faults_log.before fun _ _ _ => faultless_pure _)
  rw [makeConstant_eq]
  unfold ConstantHazard
  cases stored with
  | true => exact loading wiring
  | false =>
    refine (faults_log.bind fun _ state logged => loading state).congr fun fault => ?_
    simp [yields_log]

theorem faults_makeInput (shape : Shape) : (makeInput shape name).Faults wiring
    (Severity.debug.Breaks wiring.journal.threshold ("Bound " ++ name ++ " to a new graph input")) :=
  Faults.following (yields_addNode.mpr ⟨rfl, rfl⟩) (Faults.following (change_yields _)
    (faults_log.before fun _ _ _ => faultless_pure _))

theorem faults_synthesize (absent : Keyed.get? name wiring.synthesized = none) :
    (synthesize context name).Faults wiring (SourceHazard context wiring.journal.threshold name) := by
  have noting : ∀ (node : Int) (state : Wiring), (noteSource name node).Faultless state :=
    fun node state => Faults.following (change_yields _) (faultless_pure _)
  rw [synthesize_eq]
  refine faults_get ?_
  rw [absent]
  exact faults_attempt_after (context.faultless_declaration name) fun declaration _ =>
    faults_attempt (context.tensors.faults_contains name) fun stored _ =>
      (Run.Faults.ite (fun _ => faults_makeConstant stored) fun _ => faults_makeInput declaration.shape).before
        fun node state _ => noting node state

end

/-- A refusal of a shape is shown when every extent of both shapes is. -/
theorem showsNumerals_mismatchText (inferred declared : Shape) :
    showsNumerals (inferred.mismatchText declared) = (inferred ++ declared).all showsInteger := by
  unfold Shape.mismatchText Shape.text
  rw [String.append_assoc, String.append_assoc, showsNumerals_words (by decide), showsNumerals_integers,
    showsNumerals_words (by decide), showsNumerals_integers_alone, List.all_append]

theorem faults_checkBoundary (name : String) (inferred declared : Shape) :
    (checkBoundary name inferred declared).Faults (BoundaryHazard inferred declared) := by
  have unshown : ¬ showsNumerals (inferred.mismatchText declared) = true ↔
      ∃ extent ∈ inferred ++ declared, showsInteger extent = false := by
    simp [showsNumerals_mismatchText, -List.all_append, -List.mem_append]
  unfold checkBoundary
  refine (Attempt.Faults.ite (fun _ => faultless_ok ()) fun _ => Attempt.Faults.ite
    (fun _ => faultless_fail _ none (some name)) fun _ => faults_fault .shownInteger).congr fun fault => ?_
  rw [BoundaryHazard, ← unshown]
  simp

/-- Two ports that exist can be compared. -/
theorem faults_checkTarget {graph : Graph} {source target : PortRef} (name : String)
    (targetPresent : (graph.input? target).isSome = true)
    (sourcePresent : (graph.output? source).isSome = true) :
    (checkTarget graph name source target).Faults (TargetHazard graph source target) := by
  obtain ⟨input, enters⟩ := Option.isSome_iff_exists.mp targetPresent
  obtain ⟨output, exits⟩ := Option.isSome_iff_exists.mp sourcePresent
  have targetPlain := Layer.plain_of_portAmong? _ enters
  have sourcePlain := Layer.plain_of_portAmong? _ exits
  obtain ⟨_, _, layer, rfl, present, _⟩ := (Layer.portAmong?_eq_some _).mp enters
  have node : (graph.node _).Faultless := (Graph.node_eq_ok targetPlain.1).mpr present ▸ faultless_ok layer
  have gives : (graph.outputPort source).Faultless :=
    (Graph.outputPort_eq_ok sourcePlain).mpr exits ▸ faultless_ok output
  have takes : (graph.inputPort _).Faultless := (Graph.inputPort_eq_ok targetPlain).mpr enters ▸ faultless_ok input
  unfold checkTarget
  refine (node.after fun _ _ => Attempt.Faults.ite (fun _ => gives.after fun output _ =>
    takes.after fun input _ => faults_checkBoundary name output.shape input.shape) fun _ =>
      faultless_ok ()).congr fun fault => ?_
  simp [TargetHazard]

section
variable {context : Context} {fragments : List Fragment} {made : List String} {wiring : Wiring}
  {name : String} {reader : Nat} {target : PortRef}

/-- A variable that was made up before is not made up again. -/
theorem yields_synthesized {source : PortRef} (found : Keyed.get? name wiring.synthesized = some source) :
    (synthesize context name).Yields wiring source wiring := by
  rw [synthesize_eq]
  refine yields_bind.mpr ⟨wiring, wiring, yields_get.mpr ⟨rfl, rfl⟩, ?_⟩
  rw [found]
  exact yields_pure.mpr ⟨rfl, rfl⟩

/-- A port that waits is connected with its origin, once the check lets it pass. -/
theorem Bound.faults_connecting {done rest : List (PortRef × (String × Nat))}
    (bound : wiring.Bound context fragments made
      (Layout.links fragments ++ Layout.bindings fragments (Layout.made fragments) done))
    (closed : Layout.Closed fragments)
    (split : Layout.reads fragments = done ++ (target, (name, reader)) :: rest)
    (noted : Layout.writer? fragments name reader = none → name ∈ made) :
    (connectChecked name (Layout.origin fragments made name reader) target).Faults wiring
      (TargetHazard wiring.graph (Layout.origin fragments made name reader) target) := by
  have member : (target, (name, reader)) ∈ Layout.reads fragments :=
    split ▸ List.mem_append_right _ List.mem_cons_self
  have enters := bound.read_present closed member
  have exits := bound.origin_present closed noted
  have checked : (look fun wiring =>
      checkTarget wiring.graph name (Layout.origin fragments made name reader) target).Faults wiring
        (TargetHazard wiring.graph (Layout.origin fragments made name reader) target) :=
    faults_checkTarget name enters exits
  refine checked.before fun _ state looked => ?_
  obtain ⟨_, rfl⟩ := yields_look.mp looked
  obtain ⟨_, connected⟩ := connect_yields wiring enters exits (bound.unbound closed split)
  exact faultless_of_yields connected

/-- Connecting a port meets the faults of its variable, where that is made up for it, and of the check. -/
theorem Bound.faults_bindOne {done rest : List (PortRef × (String × Nat))}
    (bound : wiring.Bound context fragments made
      (Layout.links fragments ++ Layout.bindings fragments (Layout.made fragments) done))
    (closed : Layout.Closed fragments)
    (split : Layout.reads fragments = done ++ (target, (name, reader)) :: rest) :
    (Wiring.bindOne context target name reader).Faults wiring
      (BindHazard context wiring.journal.threshold wiring target name reader) := by
  have same := bound.writer?_eq name reader
  rw [bindOne_eq]
  unfold BindHazard
  refine faults_get ?_
  cases found : wiring.writer? name reader with
  | some source =>
    rw [same] at found
    have origin : source = Layout.origin fragments made name reader := by
      rw [Layout.origin, found, Option.getD_some]
    rw [origin]
    exact bound.faults_connecting closed split fun none => absurd (found.symm.trans none) (Option.some_ne_none _)
  | none =>
    have unwritten := same.symm.trans found
    have connecting : ∀ source state, (Wiring.synthesize context name).Yields wiring source state →
        (connectChecked name source target).Faults state (TargetHazard state.graph source target) := by
      intro source state makes
      rw [bound.eq_origin unwritten makes]
      exact (bound.synthesize unwritten makes).1.faults_connecting closed split fun none =>
        (Layout.mem_note name reader).mpr (.inr ⟨rfl, none⟩)
    cases earlier : Keyed.get? name wiring.synthesized with
    | some source =>
      refine ((faultless_of_yields (yields_synthesized earlier)).after connecting).congr fun fault => ?_
      simp
    | none =>
      refine ((faults_synthesize earlier).bind connecting).congr fun fault => ?_
      simp

/-- Connecting the waiting ports meets the faults of the first one that has any. -/
theorem Laid.faults_bindPending (laid : wiring.Laid fragments) :
    (Wiring.bindPending context).Faults wiring
      (BindingHazard context wiring.journal.threshold wiring) := by
  have round : ∀ done (read : PortRef × (String × Nat)) rest state,
      wiring.pending = done ++ read :: rest → (bindEach context done).Yields wiring () state →
        (Wiring.bindOne context read.1 read.2.1 read.2.2).Faults state
          (BindHazard context wiring.journal.threshold state read.1 read.2.1 read.2.2) := by
    intro done read rest state split reached
    rw [laid.pending] at split
    rw [← steady_bindEach context _ _ _ _ reached]
    exact (bound_of_bindEach laid split reached).faults_bindOne laid.closed split
  rw [bindPending_eq]
  refine faults_get ((faults_each round).congr fun fault => ?_)
  constructor
  · rintro ⟨done, ⟨target, name, reader⟩, rest, state, split, reached, named⟩
    exact ⟨done, target, name, reader, rest, state, split, reached, named⟩
  · rintro ⟨done, target, name, reader, rest, state, split, reached, named⟩
    exact ⟨done, (target, (name, reader)), rest, state, split, reached, named⟩

end

section
variable {context : Context} {fragments : List Fragment} {wiring : Wiring} {name : String}

theorem faults_isReplaceable : (isReplaceable context wiring name).Faults fun fault =>
    (wiring.writers name).length = 1 ∧ context.tensors.LookupHazard name fault := by
  unfold isReplaceable
  refine (Attempt.Faults.ite (fun _ => faultless_ok _) fun _ =>
    context.tensors.faults_contains name).congr fun fault => ?_
  simp

theorem isReplaceable_eq_true : isReplaceable context wiring name = .ok true ↔
    (wiring.writers name).length = 1 ∧ context.tensors.contains name = .ok true := by
  unfold isReplaceable
  split
  · next several => simp [several]
  · next single => simp [Decidable.not_not.mp single]

theorem Filled.faults_putPayload {place : Nat} {shape : Shape} (filled : wiring.Filled context fragments)
    (input : (Layout.layers fragments)[place]? = some (Layer.input shape)) :
    (putPayload context name place).Faults wiring fun fault => context.LoadHazard name fault ∨
      ∃ value, context.load name = .ok value ∧ Severity.debug.Breaks wiring.journal.threshold
        ("Replaced feed " ++ name ++ " with its stored payload") fault := by
  refine faults_attempt (context.faults_load name) fun value _ => ?_
  obtain ⟨_, replaced⟩ := filled.replaceNode_yields input value
  exact Faults.following replaced faults_log

/-- A fed input meets the faults of its payload and of the line about it, never one of the exchange. -/
theorem Filled.faults_replaceOne {node : Int} (filled : wiring.Filled context fragments)
    (fed : Layout.Fed fragments name node) : (Wiring.replaceOne context name node).Faults wiring
      (ReplaceHazard context wiring.journal.threshold wiring name) := by
  have choice : ∀ gives, isReplaceable context wiring name = .ok gives →
      (if gives then putPayload context name node else pure ()).Faults wiring fun fault => gives = true ∧
        (context.LoadHazard name fault ∨ ∃ value, context.load name = .ok value ∧
          Severity.debug.Breaks wiring.journal.threshold
            ("Replaced feed " ++ name ++ " with its stored payload") fault) := by
    rintro (_ | _) gives
    · exact (faultless_pure ()).congr fun fault => by simp
    · obtain ⟨place, _, _, rfl, _, _, input⟩ := filled.sole fed gives
      exact (filled.faults_putPayload input).congr fun fault => by simp
  rw [replaceOne_eq]
  refine (faults_look (isReplaceable context · name) faults_isReplaceable choice).congr fun fault => ?_
  constructor
  · rintro (⟨single, named⟩ | ⟨_, gives, rfl, named⟩)
    · exact ⟨single, .inl named⟩
    · obtain ⟨single, contained⟩ := isReplaceable_eq_true.mp gives
      exact ⟨single, .inr ⟨contained, named⟩⟩
  · rintro ⟨single, named | ⟨contained, named⟩⟩
    · exact .inl ⟨single, named⟩
    · exact .inr ⟨true, isReplaceable_eq_true.mpr ⟨single, contained⟩, rfl, named⟩

/-- Putting payloads in place meets the faults of the first fed input that has any. -/
theorem Filled.faults_replaceFed (filled : wiring.Filled context fragments)
    (provisional : ∀ entry ∈ wiring.provisional, Layout.Fed fragments entry.1 entry.2) :
    (Wiring.replaceFed context).Faults wiring
      (FillingHazard context wiring.journal.threshold wiring) := by
  have round : ∀ done (entry : String × Int) rest state,
      wiring.provisional = done ++ entry :: rest → (replaceEach context done).Yields wiring () state →
        (Wiring.replaceOne context entry.1 entry.2).Faults state
          (ReplaceHazard context wiring.journal.threshold state entry.1) := by
    intro done entry rest state split reached
    rw [split] at provisional
    rw [← steady_replaceEach context _ _ _ _ reached]
    have later := filled_of_replaceEach filled
      (fun other member => provisional other (List.mem_append_left _ member)) reached
    exact later.faults_replaceOne (provisional entry (List.mem_append_right _ (List.mem_cons_self ..)))
  rw [replaceFed_eq]
  refine faults_get ((faults_each round).congr fun fault => ?_)
  constructor
  · rintro ⟨done, ⟨name, node⟩, rest, state, split, reached, named⟩
    exact ⟨done, name, node, rest, state, split, reached, named⟩
  · rintro ⟨done, name, node, rest, state, split, reached, named⟩
    exact ⟨done, (name, node), rest, state, split, reached, named⟩

theorem faults_handOut {source : PortRef} (present : (wiring.graph.output? source).isSome = true)
    (given declared : Shape) : (handOut name source given declared).Faults wiring fun fault =>
      BoundaryHazard given declared fault ∨ Shape.compatible given declared = true ∧
        Severity.debug.Breaks wiring.journal.threshold ("Exposed " ++ name ++ " as a graph output") fault := by
  obtain ⟨_, connected⟩ := connect_new_yields present declared
  unfold handOut
  refine (faults_attempt (faults_checkBoundary name given declared) fun _ _ =>
    Faults.following (yields_addNode.mpr ⟨rfl, rfl⟩) (Faults.following (change_yields _)
      (Faults.following connected faults_log))).congr fun fault => ?_
  have passes : (∃ value, checkBoundary name given declared = .ok value) ↔ given.compatible declared = true :=
    ⟨fun ⟨_, passed⟩ => checkBoundary_eq_ok.mp passed, fun fits => ⟨(), checkBoundary_eq_ok.mpr fits⟩⟩
  simp [passes]

/-- Handing out a port meets the faults of refusing its shape and of the line about it, never one of the
graph. -/
theorem Handed.faults_exposeOne {done : List (String × (Nat × PortRef))} {writer : Nat} {source : PortRef}
    (handed : wiring.Handed context fragments done) (closed : Layout.Closed fragments)
    (member : (name, (writer, source)) ∈ Layout.writes fragments) :
    (Wiring.exposeOne context name source).Faults wiring
      (ExposeHazard context wiring.journal.threshold wiring name source) := by
  have present := handed.source_present closed member
  obtain ⟨port, exits⟩ := Option.isSome_iff_exists.mp present
  have found := (Graph.outputPort_eq_ok (Layer.plain_of_portAmong? _ exits)).mpr exits
  rw [exposeOne_eq]
  refine Faults.following (yields_look.mpr ⟨found, rfl⟩) ?_
  by_cases unread : port.consumers = []
  · rw [if_pos (List.isEmpty_iff.mpr unread)]
    refine (Run.Faults.ite (fun _ => faults_attempt_after (context.faultless_shape name) fun declared _ =>
      faults_handOut present port.shape declared) fun _ =>
        faults_handOut present port.shape port.shape).congr fun fault => ?_
    simp only [ExposeHazard, found, Except.ok.injEq, exists_eq_left', unread, true_and, declaredShape]
    split <;> simp
  · rw [if_neg (by simp [unread])]
    refine (faultless_pure ()).congr fun fault => ?_
    simp [ExposeHazard, found, unread]

/-- Handing out meets the faults of the first unread port that has any. -/
theorem Filled.faults_exposeOutputs (filled : wiring.Filled context fragments) :
    (Wiring.exposeOutputs context).Faults wiring
      (ExposingHazard context wiring.journal.threshold wiring) := by
  have written := map_written filled.closed filled.produced
  have round : ∀ done (entry : Nat × String × PortRef) rest state,
      wiring.written = done ++ entry :: rest → (exposeEach context done).Yields wiring () state →
        (Wiring.exposeOne context entry.2.1 entry.2.2).Faults state
          (ExposeHazard context wiring.journal.threshold state entry.2.1 entry.2.2) := by
    rintro done ⟨writer, name, source⟩ rest state split reached
    have member : (name, (writer, source)) ∈ Layout.writes fragments := by
      rw [← written, split]
      exact List.mem_map.mpr ⟨_, List.mem_append_right _ (List.mem_cons_self ..), rfl⟩
    rw [← steady_exposeEach context _ _ _ _ reached]
    exact (handed_of_exposeEach filled split reached).faults_exposeOne filled.closed member
  rw [exposeOutputs_eq]
  refine faults_get ((faults_each round).congr fun fault => ?_)
  constructor
  · rintro ⟨done, ⟨writer, name, source⟩, rest, state, split, reached, named⟩
    exact ⟨done, writer, name, source, rest, state, split, reached, named⟩
  · rintro ⟨done, writer, name, source, rest, state, split, reached, named⟩
    exact ⟨done, (writer, name, source), rest, state, split, reached, named⟩

end

/-- Wiring a block from the start meets the faults of its hazard and no others: the graph operations of
its passes add none. -/
theorem faults_resolve {context : Context} {wiring : Wiring} (laid : wiring.Laid [])
    (fresh : wiring.finished = false) :
    (resolve context).Faults wiring (Hazard context wiring.journal.threshold wiring) := by
  unfold resolve Hazard
  refine faults_get ?_
  rw [fresh, if_neg nofun]
  -- Every pass keeps the threshold, so the faults of the later ones are those under the first one.
  refine faults_lowerAll.followed fun lowered lowers => ?_
  obtain ⟨fragments, _, known⟩ := laid_of_lowerEach laid lowers
  rw [← steady_lowerAll context _ _ _ lowers]
  refine known.faults_bindPending.followed fun bound binds => ?_
  have reads := bound_of_bindPending known binds
  have unfilled := reads.filled known.closed
  rw [← steady_bindPending context _ _ _ binds]
  refine (unfilled.faults_replaceFed reads.provisional).followed fun filled replaces => ?_
  have handing := filled_of_replaceFed unfilled reads.provisional replaces
  rw [← steady_replaceFed context _ _ _ replaces]
  exact handing.faults_exposeOutputs.before fun _ _ _ =>
    Faults.following (change_yields _) (faults_get (faultless_pure _))

end LayerGraph.Wiring
