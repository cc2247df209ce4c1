import LayerGraph.Proofs.Failure.Run
import LayerGraph.Wiring.Basic

/-! Inversion of the effects on a wiring.

Each effect changes one part of the wiring and leaves the others; a report changes the journal only.
A pass takes one step for each of its items, so it can be looked at after some of them. A step that
goes several ways is told by the parts that these have in common, and by what it leaves on each.
-/

set_option autoImplicit false

namespace LayerGraph.Wiring

open Run

/-- The pass that lowers operators, over some of them. -/
def lowerEach (context : Context) (operators : List (Operator × Nat)) : Run Wiring Unit :=
  each operators fun (op, reader) => lowerOne context reader op

/-- The pass that connects waiting ports, over some of them. -/
def bindEach (context : Context) (reads : List (PortRef × (String × Nat))) : Run Wiring Unit :=
  each reads fun (target, name, reader) => bindOne context target name reader

/-- The pass that puts payloads in the place of fed inputs, over some of them. -/
def replaceEach (context : Context) (fed : List (String × Int)) : Run Wiring Unit :=
  each fed fun (name, node) => replaceOne context name node

/-- The pass that hands out unread ports, over some written ones. -/
def exposeEach (context : Context) (written : List (Nat × String × PortRef)) : Run Wiring Unit :=
  each written fun (_, name, source) => exposeOne context name source

theorem lowerAll_eq (context : Context) :
    lowerAll context = lowerEach context context.block.operators.zipIdx := rfl

theorem bindPending_eq (context : Context) :
    bindPending context = (do bindEach context (← get).pending) := rfl

theorem replaceFed_eq (context : Context) :
    replaceFed context = (do replaceEach context (← get).provisional) := rfl

theorem exposeOutputs_eq (context : Context) :
    exposeOutputs context = (do exposeEach context (← get).written) := rfl

/-- Make a constant of a payload, or of zeros. -/
def loadConstant (context : Context) (name : String) : Run Wiring Int := do
  let value ← Run.ofAttempt (context.loadOrZeros name)
  let node ← addNode (Layer.constant value)
  log .debug ("Bound " ++ name ++ " to a constant")
  return node

/-- Note the node that was made up for a variable. -/
def noteSource (name : String) (node : Int) : Run Wiring PortRef := do
  change fun wiring => { wiring with synthesized := Keyed.put name ⟨node, 0⟩ wiring.synthesized }
  return ⟨node, 0⟩

/-- Connect ports whose shapes are checked before. -/
def connectChecked (name : String) (source target : PortRef) : Run Wiring Unit := do
  look fun wiring => checkTarget wiring.graph name source target
  connect source target

/-- Put the payload of a variable in the place of a node. -/
def putPayload (context : Context) (name : String) (node : Int) : Run Wiring Unit := do
  let value ← Run.ofAttempt (context.load name)
  replaceNode node (Layer.constant value)
  log .debug ("Replaced feed " ++ name ++ " with its stored payload")

/-- Hand out a port that gives one shape in the other one. -/
def handOut (name : String) (source : PortRef) (given declared : Shape) : Run Wiring Unit := do
  Run.ofAttempt (checkBoundary name given declared)
  let node ← addNode (Layer.output declared)
  change fun wiring =>
    { wiring with graph := { wiring.graph with outputs := wiring.graph.outputs ++ [node] } }
  connect source ⟨node, 0⟩
  log .debug ("Exposed " ++ name ++ " as a graph output")

section
variable (context : Context) (name : String)

theorem replaceOne_eq (node : Int) :
    replaceOne context name node = ((look fun wiring => isReplaceable context wiring name) >>= fun gives =>
      if gives then putPayload context name node else pure ()) := rfl

theorem makeConstant_eq (stored : Bool) :
    makeConstant context name stored = if stored then loadConstant context name else
      log .warning ("No payload for persistable [var]" ++ name ++ "[/var], using zeros") >>= fun _ =>
        loadConstant context name := by
  cases stored <;> rfl

theorem synthesize_eq :
    synthesize context name = (get >>= fun wiring =>
      match Keyed.get? name wiring.synthesized with
      | some source => pure source
      | none =>
        Run.ofAttempt (context.block.declaration name) >>= fun declaration =>
          Run.ofAttempt (context.tensors.contains name) >>= fun stored =>
            (if declaration.persistable || stored then makeConstant context name stored
              else makeInput declaration.shape name) >>= noteSource name) := by
  have noted : ∀ (declaration : Variable) (stored : Bool), ((if declaration.persistable || stored then
      makeConstant context name stored else makeInput declaration.shape name) >>= noteSource name) =
        if declaration.persistable || stored then makeConstant context name stored >>= noteSource name
        else makeInput declaration.shape name >>= noteSource name := by
    intro declaration stored
    split <;> rfl
  simp only [noted]
  rfl

theorem bindOne_eq (target : PortRef) (reader : Nat) :
    bindOne context target name reader = (get >>= fun wiring =>
      match wiring.writer? name reader with
      | some source => connectChecked name source target
      | none => synthesize context name >>= fun source => connectChecked name source target) := rfl

theorem exposeOne_eq (source : PortRef) :
    exposeOne context name source = (look (fun wiring => wiring.graph.outputPort source) >>= fun port =>
      if port.consumers.isEmpty then
        if context.block.declares name then
          Run.ofAttempt (context.shape name) >>= fun declared => handOut name source port.shape declared
        else handOut name source port.shape port.shape
      else pure ()) := by
  unfold exposeOne
  refine congrArg (look _ >>= ·) (funext fun port => ?_)
  split
  · cases context.block.declares name <;> rfl
  · rfl

end

/-- An item of a numbered list is numbered by the items before it. -/
theorem zipIdx_eq_append_cons {α : Type} {items : List α} {done rest : List (α × Nat)} {item : α}
    {place : Nat} : items.zipIdx = done ++ (item, place) :: rest ↔
      ∃ front back, items = front ++ item :: back ∧ done = front.zipIdx ∧ place = front.length ∧
        rest = back.zipIdx (front.length + 1) := by
  constructor
  · intro split
    obtain ⟨front, back, whole, rfl, numbered⟩ := List.zipIdx_eq_append_iff.mp split
    cases back with
    | nil => cases numbered
    | cons other back =>
      rw [List.zipIdx_cons, List.cons.injEq, Prod.mk.injEq, Nat.zero_add] at numbered
      obtain ⟨⟨rfl, rfl⟩, rfl⟩ := numbered
      exact ⟨front, back, whole, rfl, rfl, rfl⟩
  · rintro ⟨front, back, rfl, rfl, rfl, rfl⟩
    rw [List.zipIdx_append, List.zipIdx_cons, Nat.zero_add]

variable {before after : Wiring} {α : Type}

theorem yields_change {update : Wiring → Wiring} {value : Unit} :
    (change update).Yields before value after ↔ after = update before := by
  change ((Except.ok () : Attempt Unit), update before) = (.ok value, after) ↔ _
  simp [eq_comm]

theorem change_yields (update : Wiring → Wiring) : (change update).Yields before () (update before) :=
  yields_change.mpr rfl

theorem yields_look {find : Wiring → Attempt α} {value : α} :
    (look find).Yields before value after ↔ find before = .ok value ∧ before = after := by
  change (find before, before) = (.ok value, after) ↔ _
  simp

theorem yields_onGraph {step : Graph → Attempt α × Graph} {value : α} :
    (onGraph step).Yields before value after ↔
      ∃ graph, step before.graph = (.ok value, graph) ∧ after = { before with graph := graph } := by
  change ((step before.graph).1, { before with graph := (step before.graph).2 }) = (.ok value, after) ↔ _
  rcases step before.graph with ⟨result, graph⟩
  constructor
  · intro same
    cases same
    exact ⟨graph, rfl, rfl⟩
  · rintro ⟨other, same, rfl⟩
    cases same
    rfl

theorem yields_addNode {layer : Layer} {node : Int} :
    (addNode layer).Yields before node after ↔
      node = before.graph.size ∧ after = { before with graph := before.graph.add layer } := by
  unfold addNode
  rw [yields_onGraph]
  constructor
  · rintro ⟨graph, same, rfl⟩
    cases same
    exact ⟨rfl, rfl⟩
  · rintro ⟨rfl, rfl⟩
    exact ⟨_, rfl, rfl⟩

theorem yields_connect {source target : PortRef} {value : Unit} :
    (connect source target).Yields before value after ↔ ∃ graph,
      before.graph.connect source target = (.ok (), graph) ∧ after = { before with graph := graph } :=
  yields_onGraph

theorem yields_replaceNode {layer : Layer} {node : Int} {value : Unit} :
    (replaceNode node layer).Yields before value after ↔ ∃ graph,
      before.graph.replace node layer = .ok graph ∧ after = { before with graph := graph } := by
  unfold replaceNode
  rw [yields_onGraph]
  refine exists_congr fun graph => and_congr_left fun _ => ?_
  split
  · next found => simp [found]
  · next failed => simp [failed]

/-- A report changes the journal only. -/
theorem journal_of_log {severity : Severity} {message : String} {value : Unit}
    (logged : (log severity message).Yields before value after) :
    ∃ journal, after = { before with journal := journal } := by
  obtain ⟨journal, _, same⟩ := yields_onPart.mp logged
  exact ⟨journal, same⟩

section
variable {context : Context} {name : String} {source target : PortRef} {node : Int} {value : Unit}

/-- Shapes pass the check exactly if they agree, whether or not a refusal could be shown. -/
theorem checkBoundary_eq_ok {inferred declared : Shape} :
    checkBoundary name inferred declared = .ok () ↔ Shape.compatible inferred declared = true := by
  unfold checkBoundary
  split
  · next agree => exact iff_of_true rfl agree
  · next differ =>
    refine iff_of_false (fun passes => ?_) differ
    split at passes <;> cases passes

theorem yields_noteSource : (noteSource name node).Yields before source after ↔ source = ⟨node, 0⟩ ∧
    after = { before with synthesized := Keyed.put name ⟨node, 0⟩ before.synthesized } := by
  unfold noteSource
  constructor
  · intro run
    obtain ⟨_, _, changed, finish⟩ := yields_bind.mp run
    obtain ⟨rfl, rfl⟩ := yields_pure.mp finish
    exact ⟨rfl, yields_change.mp changed⟩
  · rintro ⟨rfl, rfl⟩
    exact yields_bind.mpr ⟨(), _, change_yields _, yields_pure.mpr ⟨rfl, rfl⟩⟩

theorem loadConstant_cases (run : (loadConstant context name).Yields before node after) :
    ∃ value journal, context.loadOrZeros name = .ok value ∧ node = before.graph.size ∧
      after = { before with graph := before.graph.add (Layer.constant value), journal := journal } := by
  obtain ⟨value, _, attempt, run⟩ := yields_bind.mp run
  obtain ⟨loaded, rfl⟩ := yields_ofAttempt.mp attempt
  obtain ⟨_, _, added, run⟩ := yields_bind.mp run
  obtain ⟨rfl, rfl⟩ := yields_addNode.mp added
  obtain ⟨_, _, logged, finish⟩ := yields_bind.mp run
  obtain ⟨rfl, rfl⟩ := yields_pure.mp finish
  obtain ⟨journal, rfl⟩ := journal_of_log logged
  exact ⟨value, journal, loaded, rfl, rfl⟩

/-- A constant is one more node, and the boundary stays. -/
theorem makeConstant_cases {stored : Bool} (run : (makeConstant context name stored).Yields before node after) :
    ∃ value journal, context.loadOrZeros name = .ok value ∧ node = before.graph.size ∧
      after = { before with graph := before.graph.add (Layer.constant value), journal := journal } := by
  rw [makeConstant_eq] at run
  split at run
  · exact loadConstant_cases run
  · -- The line about the missing payload comes first, and touches the journal only.
    obtain ⟨_, _, warned, run⟩ := yields_bind.mp run
    obtain ⟨_, rfl⟩ := journal_of_log warned
    obtain ⟨value, journal, loaded, number, left⟩ := loadConstant_cases run
    exact ⟨value, journal, loaded, number, left⟩

/-- An input is one more node, and is listed. -/
theorem makeInput_cases {shape : Shape} (run : (makeInput shape name).Yields before node after) :
    ∃ journal, node = before.graph.size ∧ after = { before with
      graph := { before.graph.add (Layer.input shape) with
        inputs := before.graph.inputs ++ [(before.graph.size : Int)] }
      journal := journal } := by
  unfold makeInput at run
  obtain ⟨_, _, added, run⟩ := yields_bind.mp run
  obtain ⟨rfl, rfl⟩ := yields_addNode.mp added
  obtain ⟨_, _, changed, run⟩ := yields_bind.mp run
  rw [yields_change] at changed
  subst changed
  obtain ⟨_, _, logged, finish⟩ := yields_bind.mp run
  obtain ⟨rfl, rfl⟩ := yields_pure.mp finish
  obtain ⟨journal, rfl⟩ := journal_of_log logged
  exact ⟨journal, rfl, rfl⟩

/-- A variable is made up once: as a constant or an input, whose port is noted. -/
theorem synthesize_cases (run : (synthesize context name).Yields before source after) :
    Keyed.get? name before.synthesized = some source ∧ before = after ∨
      Keyed.get? name before.synthesized = none ∧ ∃ declaration stored node made,
        context.block.declaration name = .ok declaration ∧ context.tensors.contains name = .ok stored ∧
        (if declaration.persistable || stored then makeConstant context name stored
          else makeInput declaration.shape name).Yields before node made ∧ source = ⟨node, 0⟩ ∧
        after = { made with synthesized := Keyed.put name ⟨node, 0⟩ made.synthesized } := by
  rw [synthesize_eq] at run
  obtain ⟨_, _, get, run⟩ := yields_bind.mp run
  obtain ⟨rfl, rfl⟩ := yields_get.mp get
  cases found : Keyed.get? name before.synthesized with
  | some present =>
    rw [found] at run
    obtain ⟨rfl, rfl⟩ := yields_pure.mp run
    exact .inl ⟨rfl, rfl⟩
  | none =>
    rw [found] at run
    obtain ⟨declaration, _, attempt, run⟩ := yields_bind.mp run
    obtain ⟨declared, rfl⟩ := yields_ofAttempt.mp attempt
    obtain ⟨stored, _, attempt, run⟩ := yields_bind.mp run
    obtain ⟨contained, rfl⟩ := yields_ofAttempt.mp attempt
    obtain ⟨node, made, makes, noted⟩ := yields_bind.mp run
    obtain ⟨rfl, rfl⟩ := yields_noteSource.mp noted
    exact .inr ⟨rfl, declaration, stored, node, made, declared, contained, makes, rfl, rfl⟩

theorem connectChecked_cases (run : (connectChecked name source target).Yields before value after) :
    checkTarget before.graph name source target = .ok () ∧
      ∃ graph, before.graph.connect source target = (.ok (), graph) ∧ after = { before with graph := graph } := by
  obtain ⟨_, _, looked, connected⟩ := yields_bind.mp run
  obtain ⟨checked, rfl⟩ := yields_look.mp looked
  exact ⟨checked, yields_connect.mp connected⟩

/-- A waiting port is connected with the writer of its variable, or with what is made up without one, once
their shapes are checked. -/
theorem bindOne_cases {reader : Nat} (run : (bindOne context target name reader).Yields before value after) :
    ∃ source state graph, (before.writer? name reader = some source ∧ before = state ∨
        before.writer? name reader = none ∧ (synthesize context name).Yields before source state) ∧
      checkTarget state.graph name source target = .ok () ∧
      state.graph.connect source target = (.ok (), graph) ∧ after = { state with graph := graph } := by
  rw [bindOne_eq] at run
  obtain ⟨_, _, get, run⟩ := yields_bind.mp run
  obtain ⟨rfl, rfl⟩ := yields_get.mp get
  cases found : before.writer? name reader with
  | some source =>
    rw [found] at run
    obtain ⟨checked, graph, wires, left⟩ := connectChecked_cases run
    exact ⟨source, before, graph, .inl ⟨rfl, rfl⟩, checked, wires, left⟩
  | none =>
    rw [found] at run
    obtain ⟨source, state, makes, run⟩ := yields_bind.mp run
    obtain ⟨checked, graph, wires, left⟩ := connectChecked_cases run
    exact ⟨source, state, graph, .inr ⟨rfl, makes⟩, checked, wires, left⟩

/-- A fed input stays, or gives way to its payload. -/
theorem replaceOne_cases (run : (replaceOne context name node).Yields before value after) :
    isReplaceable context before name = .ok false ∧ before = after ∨
      isReplaceable context before name = .ok true ∧ ∃ payload graph journal, context.load name = .ok payload ∧
        before.graph.replace node (Layer.constant payload) = .ok graph ∧
        after = { before with graph := graph, journal := journal } := by
  rw [replaceOne_eq] at run
  obtain ⟨gives, _, looked, run⟩ := yields_bind.mp run
  obtain ⟨found, rfl⟩ := yields_look.mp looked
  cases gives with
  | false => exact .inl ⟨found, (yields_pure.mp run).2⟩
  | true =>
    obtain ⟨payload, _, attempt, run⟩ := yields_bind.mp run
    obtain ⟨loaded, rfl⟩ := yields_ofAttempt.mp attempt
    obtain ⟨_, _, exchanged, logged⟩ := yields_bind.mp run
    obtain ⟨graph, replaced, rfl⟩ := yields_replaceNode.mp exchanged
    obtain ⟨journal, rfl⟩ := journal_of_log logged
    exact .inr ⟨found, payload, graph, journal, loaded, replaced, rfl⟩

theorem handOut_cases {given declared : Shape} (run : (handOut name source given declared).Yields before value after) :
    Shape.compatible given declared = true ∧ ∃ wired journal,
      Graph.connect { before.graph.add (Layer.output declared) with
        outputs := before.graph.outputs ++ [(before.graph.size : Int)] } source ⟨before.graph.size, 0⟩ =
          (.ok (), wired) ∧
      after = { before with graph := wired, journal := journal } := by
  obtain ⟨_, _, attempt, run⟩ := yields_bind.mp run
  obtain ⟨agrees, rfl⟩ := yields_ofAttempt.mp attempt
  obtain ⟨_, _, added, run⟩ := yields_bind.mp run
  obtain ⟨rfl, rfl⟩ := yields_addNode.mp added
  obtain ⟨_, _, changed, run⟩ := yields_bind.mp run
  rw [yields_change] at changed
  subst changed
  obtain ⟨_, _, connected, logged⟩ := yields_bind.mp run
  obtain ⟨wired, wires, rfl⟩ := yields_connect.mp connected
  obtain ⟨journal, rfl⟩ := journal_of_log logged
  exact ⟨checkBoundary_eq_ok.mp agrees, wired, journal, wires, rfl⟩

/-- Handing a port out leaves the wiring if somebody reads it. Otherwise it adds a layer in the declared shape,
or in that of the port without a declaration, and connects it. -/
theorem exposeOne_cases (run : (exposeOne context name source).Yields before value after) :
    ∃ port, before.graph.outputPort source = .ok port ∧
      (port.consumers ≠ [] ∧ before = after ∨ port.consumers = [] ∧ ∃ declared wired journal,
        (context.block.declares name = true → context.shape name = .ok declared) ∧
        (context.block.declares name = false → declared = port.shape) ∧
        Shape.compatible port.shape declared = true ∧
        Graph.connect { before.graph.add (Layer.output declared) with
          outputs := before.graph.outputs ++ [(before.graph.size : Int)] } source ⟨before.graph.size, 0⟩ =
            (.ok (), wired) ∧
        after = { before with graph := wired, journal := journal }) := by
  rw [exposeOne_eq] at run
  obtain ⟨port, _, looked, run⟩ := yields_bind.mp run
  obtain ⟨found, rfl⟩ := yields_look.mp looked
  refine ⟨port, found, ?_⟩
  by_cases unread : port.consumers = []
  · rw [if_pos (List.isEmpty_iff.mpr unread)] at run
    split at run
    · next declares =>
      obtain ⟨declared, _, attempt, run⟩ := yields_bind.mp run
      obtain ⟨shaped, rfl⟩ := yields_ofAttempt.mp attempt
      obtain ⟨agrees, wired, journal, left⟩ := handOut_cases run
      exact .inr ⟨unread, declared, wired, journal, fun _ => shaped, fun absent => by simp [declares] at absent,
        agrees, left⟩
    · next absent =>
      obtain ⟨agrees, wired, journal, left⟩ := handOut_cases run
      exact .inr ⟨unread, port.shape, wired, journal, fun declares => absurd declares absent, fun _ => rfl, agrees, left⟩
  · rw [if_neg (by simp [unread])] at run
    exact .inl ⟨unread, (yields_pure.mp run).2⟩

end

theorem journal_of_logLowered {reader : Nat} {op : Operator} {layer : Layer} {value : Unit}
    (logged : (logLowered reader op layer).Yields before value after) :
    ∃ journal, after = { before with journal := journal } := by
  unfold logLowered at logged
  obtain ⟨_, _, get, logged⟩ := yields_bind.mp logged
  obtain ⟨rfl, rfl⟩ := yields_get.mp get
  split at logged
  · exact absurd (yields_ofAttempt.mp logged).1 Attempt.fault_ne_ok
  · exact journal_of_log logged

/-- The layers of a fragment are added and linked, and then its bindings are registered. -/
theorem append_cases {reader : Nat} {fragment : Fragment} {value : Unit}
    (run : (append reader fragment).Yields before value after) :
    ∃ linked, (connectLinks before.graph.size fragment.links).Yields
        { before with graph := fragment.layers.foldl Graph.add before.graph } () linked ∧
      after = linked.register reader before.graph.size fragment := by
  obtain ⟨_, _, get, run⟩ := yields_bind.mp run
  obtain ⟨rfl, rfl⟩ := yields_get.mp get
  obtain ⟨_, _, extended, run⟩ := yields_bind.mp run
  rw [yields_change] at extended
  subst extended
  obtain ⟨_, linked, connected, registered⟩ := yields_bind.mp run
  exact ⟨linked, connected, yields_change.mp registered⟩

/-- An operator is lowered and its fragment appended; the lines about it touch the journal only. -/
theorem lowerOne_cases {context : Context} {reader : Nat} {op : Operator} {value : Unit}
    (run : (lowerOne context reader op).Yields before value after) :
    ∃ fragment appended journal, op.lower context = .ok fragment ∧
      (append reader fragment).Yields before () appended ∧ after = { appended with journal := journal } := by
  obtain ⟨fragment, _, attempt, run⟩ := yields_bind.mp run
  obtain ⟨made, rfl⟩ := yields_ofAttempt.mp attempt
  obtain ⟨_, appended, appends, reported⟩ := yields_bind.mp run
  have silent : ∃ journal, after = { appended with journal := journal } := by
    refine each_induction (fun _ (w : Wiring) => ∃ journal, w = { appended with journal := journal })
      ⟨appended.journal, rfl⟩ ?_ reported
    rintro done layer rest _ next split ⟨journal, rfl⟩ logged
    obtain ⟨later, rfl⟩ := journal_of_logLowered logged
    exact ⟨later, rfl⟩
  obtain ⟨journal, same⟩ := silent
  exact ⟨fragment, appended, journal, made, appends, same⟩

/-- A block resolves through four passes that succeed. -/
theorem resolve_eq_ok {context : Context} {threshold : Int} {graph : Graph} : context.resolve threshold = .ok graph ↔
    ∃ lowered bound filled handed : Wiring, (lowerAll context).Yields (start threshold) () lowered ∧
      (bindPending context).Yields lowered () bound ∧ (replaceFed context).Yields bound () filled ∧
      (exposeOutputs context).Yields filled () handed ∧ graph = handed.graph := by
  have unfinished : ¬ (start threshold).finished = true := Bool.false_ne_true
  have passes : context.resolve threshold = .ok graph ↔
      ∃ wiring, (resolve context).Yields (start threshold) graph wiring := by
    constructor
    · intro resolved
      exact ⟨_, Prod.ext resolved rfl⟩
    · rintro ⟨wiring, run⟩
      exact congrArg Prod.fst run
  rw [passes]
  constructor
  · rintro ⟨wiring, run⟩
    unfold resolve at run
    obtain ⟨_, _, get, run⟩ := yields_bind.mp run
    obtain ⟨rfl, rfl⟩ := yields_get.mp get
    rw [if_neg unfinished] at run
    obtain ⟨_, lowered, lowers, run⟩ := yields_bind.mp run
    obtain ⟨_, bound, binds, run⟩ := yields_bind.mp run
    obtain ⟨_, filled, replaces, run⟩ := yields_bind.mp run
    obtain ⟨_, handed, exposes, run⟩ := yields_bind.mp run
    obtain ⟨_, _, changed, run⟩ := yields_bind.mp run
    rw [yields_change] at changed
    subst changed
    obtain ⟨_, _, get, finish⟩ := yields_bind.mp run
    obtain ⟨rfl, rfl⟩ := yields_get.mp get
    exact ⟨lowered, bound, filled, handed, lowers, binds, replaces, exposes, (yields_pure.mp finish).1.symm⟩
  · rintro ⟨lowered, bound, filled, handed, lowers, binds, replaces, exposes, rfl⟩
    refine ⟨{ handed with finished := true }, ?_⟩
    unfold resolve
    refine yields_bind.mpr ⟨_, _, yields_get.mpr ⟨rfl, rfl⟩, ?_⟩
    rw [if_neg unfinished]
    refine yields_bind.mpr ⟨_, _, lowers, yields_bind.mpr ⟨_, _, binds, yields_bind.mpr ⟨_, _, replaces,
      yields_bind.mpr ⟨_, _, exposes, yields_bind.mpr ⟨_, _, change_yields _, ?_⟩⟩⟩⟩⟩
    exact yields_bind.mpr ⟨_, _, yields_get.mpr ⟨rfl, rfl⟩, yields_pure.mpr ⟨rfl, rfl⟩⟩

theorem writers_addWriter (wiring : Wiring) (name other : String) (entry : Nat × PortRef) :
    (wiring.addWriter name entry).writers other =
      if name = other then wiring.writers other ++ [entry] else wiring.writers other := by
  unfold writers addWriter
  rw [Keyed.get?_put]
  split
  · next same =>
    rw [same]
    rfl
  · rfl

section
variable {history : List (Nat × PortRef)} (ordered : history.Pairwise fun earlier later => earlier.1 < later.1)
include ordered

theorem le_of_getLast?_filter {kept : Nat × PortRef → Bool} {last : Nat × PortRef}
    (found : (history.filter kept).getLast? = some last) {entry : Nat × PortRef} (present : entry ∈ history)
    (keeps : kept entry = true) : entry.1 ≤ last.1 := by
  obtain ⟨before, same⟩ := List.getLast?_eq_some_iff.mp found
  have sorted := ordered.filter kept
  rw [same, List.pairwise_append] at sorted
  rcases List.mem_append.mp (same ▸ List.mem_filter.mpr ⟨present, keeps⟩) with earlier | single
  · exact Nat.le_of_lt (sorted.2.2 entry earlier last (List.mem_singleton.mpr rfl))
  · exact Nat.le_of_eq (congrArg Prod.fst (List.mem_singleton.mp single))

theorem le_of_head?_filter {kept : Nat × PortRef → Bool} {first : Nat × PortRef}
    (found : (history.filter kept).head? = some first) {entry : Nat × PortRef} (present : entry ∈ history)
    (keeps : kept entry = true) : first.1 ≤ entry.1 := by
  obtain ⟨rest, same⟩ := List.head?_eq_some_iff.mp found
  have sorted := ordered.filter kept
  rw [same, List.pairwise_cons] at sorted
  rcases List.mem_cons.mp (same ▸ List.mem_filter.mpr ⟨present, keeps⟩) with rfl | later
  · exact Nat.le_refl _
  · exact Nat.le_of_lt (sorted.1 entry later)

/-- Among writers in strict order a reader takes the last before it, else the first after it. -/
theorem writerAmong?_cases (reader : Nat) :
    (∃ writer source, writerAmong? history reader = some source ∧ (writer, source) ∈ history ∧
      writer < reader ∧ ∀ entry ∈ history, entry.1 < reader → entry.1 ≤ writer) ∨
    (∃ writer source, writerAmong? history reader = some source ∧ (writer, source) ∈ history ∧
      reader < writer ∧ ∀ entry ∈ history, reader ≤ entry.1 ∧ (reader < entry.1 → writer ≤ entry.1)) ∨
    (writerAmong? history reader = none ∧ ∀ entry ∈ history, entry.1 = reader) := by
  unfold writerAmong?
  split
  · next last found =>
    have member := List.mem_filter.mp (List.mem_of_getLast? found)
    rw [decide_eq_true_eq] at member
    refine .inl ⟨last.1, last.2, rfl, member.1, by omega, fun entry present early => ?_⟩
    exact le_of_getLast?_filter ordered found present (decide_eq_true (by omega))
  · next none =>
    -- Without a writer before the reader, all of them come at its turn or later.
    have late : ∀ entry ∈ history, reader ≤ entry.1 := by
      intro entry present
      have absent := List.filter_eq_nil_iff.mp (List.getLast?_eq_none_iff.mp none) entry present
      simp only [decide_eq_true_eq] at absent
      omega
    cases found : (history.filter fun entry => decide ((reader : Int) < entry.1)).head? with
    | none =>
      refine .inr (.inr ⟨rfl, fun entry present => ?_⟩)
      have absent := List.filter_eq_nil_iff.mp (List.head?_eq_none_iff.mp found) entry present
      have low := late entry present
      simp only [decide_eq_true_eq] at absent
      omega
    | some first =>
      have member := List.mem_filter.mp (List.mem_of_head? found)
      rw [decide_eq_true_eq] at member
      refine .inr (.inl ⟨first.1, first.2, rfl, member.1, by omega, fun entry present =>
        ⟨late entry present, fun after => ?_⟩⟩)
      exact le_of_head?_filter ordered found present (decide_eq_true (by omega))

end

/-- The writers of all variables, by variable. -/
def histories (produced : List (String × List (Nat × PortRef))) : List (String × (Nat × PortRef)) :=
  produced.flatMap fun (name, history) => history.map fun entry => (name, entry)

/-- One more writer of a variable is one more entry, whatever its place. -/
theorem histories_put (produced : List (String × List (Nat × PortRef))) (name : String)
    (entry : Nat × PortRef) :
    (histories (Keyed.put name ((Keyed.get? name produced).getD [] ++ [entry]) produced)).Perm
      (histories produced ++ [(name, entry)]) := by
  induction produced with
  | nil => exact List.Perm.refl _
  | cons first rest ih =>
    obtain ⟨other, history⟩ := first
    by_cases same : other = name
    · subst same
      simp only [Keyed.put, Keyed.get?, if_true, Option.getD_some, histories, List.flatMap_cons,
        List.map_append, List.map_singleton, List.append_assoc]
      exact List.perm_append_comm.append_left _
    · simp only [Keyed.put, Keyed.get?, same, if_false, histories, List.flatMap_cons,
        List.append_assoc]
      exact ih.append_left _

end LayerGraph.Wiring
