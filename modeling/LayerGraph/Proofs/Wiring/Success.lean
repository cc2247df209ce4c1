import LayerGraph.Proofs.Failure.Run
import LayerGraph.Proofs.Wiring.Wirable

/-! When a block resolves.

Each step of a wiring succeeds exactly if a condition on what it works with is met, and none of the conditions depends
on what the steps before have done. So a block resolves exactly if all are met.
-/

set_option autoImplicit false

namespace LayerGraph

open Text

namespace Wiring

open Run

section
variable {wiring : Wiring} {severity : Severity} {message : String}

theorem succeeds_log : (log severity message).Succeeds wiring ↔ severity.Shows wiring.journal.threshold message := by
  constructor
  · rintro ⟨_, _, logged⟩
    exact (yields_log.mp logged).1
  · exact fun shows => ⟨(), _, yields_log.mpr ⟨shows, rfl⟩⟩

theorem succeeds_log_bind {α : Type} {next : Unit → Run Wiring α} {condition : Prop}
    (rest : ∀ journal : Journal, journal.threshold = wiring.journal.threshold →
      ((next ()).Succeeds { wiring with journal := journal } ↔ condition)) :
    (log severity message >>= next).Succeeds wiring ↔
      severity.Shows wiring.journal.threshold message ∧ condition := by
  rw [succeeds_bind]
  constructor
  · rintro ⟨_, state, logged, later⟩
    obtain ⟨shows, rfl⟩ := yields_log.mp logged
    exact ⟨shows, (rest _ Journal.threshold_enter).mp later⟩
  · rintro ⟨shows, met⟩
    exact ⟨(), _, yields_log.mpr ⟨shows, rfl⟩, (rest _ Journal.threshold_enter).mpr met⟩

theorem succeeds_look {α β : Type} {find : Wiring → Attempt α} {next : α → Run Wiring β} :
    (look find >>= next).Succeeds wiring ↔ ∃ value, find wiring = .ok value ∧ (next value).Succeeds wiring := by
  rw [succeeds_bind]
  constructor
  · rintro ⟨value, _, looked, later⟩
    obtain ⟨found, rfl⟩ := yields_look.mp looked
    exact ⟨value, found, later⟩
  · rintro ⟨value, found, later⟩
    exact ⟨value, wiring, yields_look.mpr ⟨found, rfl⟩, later⟩

end

section
variable {context : Context} {fragments : List Fragment} {wiring : Wiring} {reader : Nat} {op : Operator}

/-- An operator's turn succeeds exactly if the operator lowers. -/
theorem succeeds_lowerOne : (lowerOne context reader op).Succeeds wiring ↔
    context.Lowers wiring.journal.threshold reader op := by
  rw [succeeds_iff, result_lowerOne, ← Operator.turn_eq_ok]
  exact ⟨fun ⟨_, taken⟩ => taken, fun taken => ⟨(), taken⟩⟩

/-- The first pass succeeds exactly if every operator lowers. -/
theorem succeeds_lowerAll : (lowerAll context).Succeeds wiring ↔
    ∀ number op, context.block.operators[number]? = some op →
      context.Lowers wiring.journal.threshold number op := by
  have loop : (lowerAll context).Succeeds wiring ↔ ∀ entry ∈ context.block.operators.zipIdx,
      context.Lowers wiring.journal.threshold entry.2 entry.1 := by
    refine succeeds_each ?_
    intro done entry rest state _ reached _
    rw [← steady_lowerEach context _ _ _ _ reached]
    exact succeeds_lowerOne
  rw [loop]
  constructor
  · intro all number op here
    exact all (op, number) (List.mem_zipIdx_iff_getElem?.mpr here)
  · rintro all ⟨op, number⟩ member
    exact all number op (List.mem_zipIdx_iff_getElem?.mp member)

end

section
variable {context : Context} {wiring : Wiring} {name : String}

theorem succeeds_makeConstant (stored : Bool) : (makeConstant context name stored).Succeeds wiring ↔
    context.Stores wiring.journal.threshold name stored := by
  have loading : ∀ start : Wiring, (loadConstant context name).Succeeds start ↔
      (∃ value, context.loadOrZeros name = .ok value) ∧
        Severity.debug.Shows start.journal.threshold ("Bound " ++ name ++ " to a constant") := by
    intro start
    unfold loadConstant
    rw [succeeds_attempt, exists_and_right.symm]
    refine exists_congr fun value => and_congr_right fun _ => ?_
    rw [(yields_addNode.mpr ⟨rfl, rfl⟩).succeeds_bind, succeeds_bind_left fun _ _ _ => succeeds_pure _, succeeds_log]
  rw [makeConstant_eq]
  unfold Context.Stores
  cases stored with
  | true => simpa using loading wiring
  | false =>
    have later : ∀ journal : Journal, journal.threshold = wiring.journal.threshold → _ :=
      fun journal same => same ▸ loading { wiring with journal := journal }
    simpa using succeeds_log_bind later

theorem succeeds_makeInput (shape : Shape) : (makeInput shape name).Succeeds wiring ↔
    Severity.debug.Shows wiring.journal.threshold ("Bound " ++ name ++ " to a new graph input") := by
  unfold makeInput
  rw [(yields_addNode.mpr ⟨rfl, rfl⟩).succeeds_bind, (change_yields _).succeeds_bind,
    succeeds_bind_left fun _ _ _ => succeeds_pure _, succeeds_log]

/-- A variable that is not made up yet can be made up exactly if it can be procured. -/
theorem succeeds_synthesize (absent : Keyed.get? name wiring.synthesized = none) :
    (synthesize context name).Succeeds wiring ↔ context.Procures wiring.journal.threshold name := by
  have noting : ∀ (node : Int) (state : Wiring), (noteSource name node).Succeeds state :=
    fun node state => (yields_noteSource.mpr ⟨rfl, rfl⟩).succeeds
  rw [synthesize_eq]
  unfold Context.Procures
  rw [succeeds_get, absent]
  dsimp only
  rw [succeeds_attempt]
  refine exists_congr fun declaration => ?_
  rw [succeeds_attempt, exists_and_left.symm]
  refine exists_congr fun stored => and_congr_right fun _ => and_congr_right fun _ => ?_
  rw [succeeds_bind_left fun node state _ => noting node state]
  split
  · exact succeeds_makeConstant stored
  · exact succeeds_makeInput declaration.shape

end

/-- The check before a connection asks for nothing but agreement where the target hands data out. -/
theorem checkTarget_eq_ok_iff {graph : Graph} {name : String} {source target : PortRef}
    (enters : (graph.input? target).isSome = true) (exits : (graph.output? source).isSome = true) :
    checkTarget graph name source target = .ok () ↔ Layer.Checked graph.bare source target := by
  obtain ⟨input, inp⟩ := Option.isSome_iff_exists.mp enters
  obtain ⟨output, out⟩ := Option.isSome_iff_exists.mp exits
  have targetPlain := Layer.plain_of_portAmong? _ inp
  have sourcePlain := Layer.plain_of_portAmong? _ out
  constructor
  · exact checked_of_checkTarget sourcePlain targetPlain
  · intro checked
    obtain ⟨place, slot, layer, rfl, here, there⟩ := (Layer.portAmong?_eq_some _).mp inp
    unfold checkTarget
    rw [(Graph.node_eq_ok targetPlain.1).mpr here, (Graph.outputPort_eq_ok sourcePlain).mpr out,
      (Graph.inputPort_eq_ok targetPlain).mpr inp]
    change (if layer.kind = .output then checkBoundary name output.shape input.shape else .ok ()) = .ok ()
    split
    · next hands =>
      rcases Layer.checked_bare.mp checked with ⟨other, same, passes⟩ | ⟨given, taken, gives, takes, agrees⟩
      · cases here.symm.trans same
        exact absurd hands passes
      · unfold Layer.sourceShape? at gives
        unfold Layer.targetShape? at takes
        rw [show Layer.portAmong? Layer.outputs graph.nodes source = some output from out] at gives
        rw [show Layer.portAmong? Layer.inputs graph.nodes _ = some input from inp] at takes
        cases gives
        cases takes
        exact checkBoundary_eq_ok.mpr agrees
    · rfl

section
variable {context : Context} {fragments : List Fragment} {made : List String}
  {edges : List (PortRef × PortRef)} {wiring : Wiring} {name : String} {reader slot : Nat}
  (lowered : context.block.operators.map (fun op => op.lower context) = fragments.map .ok)
  (closed : Layout.Closed fragments)

include lowered closed in
/-- The origin of a read belongs to the layer that its supplier drafts. -/
theorem Bound.drafted (bound : wiring.Bound context fragments made edges) {supplier : Option Nat}
    (supplies : context.block.Supplier reader name supplier)
    (noted : Layout.writer? fragments name reader = none → name ∈ made) :
    ∃ source, context.Drafts (context.supplyOf name supplier) source ∧
      Layer.sourceShape? wiring.graph.bare (Layout.origin fragments made name reader) = some source.outputShape := by
  obtain ⟨output, out⟩ := Option.isSome_iff_exists.mp (bound.origin_present closed noted)
  obtain ⟨extra, supplied, bare⟩ := bound.bare
  obtain ⟨other, same, found⟩ := Layout.exists_supplier lowered closed name reader
  cases supplies.unique same
  have given : Layer.sourceShape? wiring.graph.bare (Layout.origin fragments made name reader) = some output.shape := by
    rw [Graph.bare, Layer.sourceShape?_bare]
    exact Option.map_eq_some_iff.mpr ⟨output, out, rfl⟩
  -- Whatever stands at the origin gives the shape that is found there.
  have settle : ∀ (place : Nat) (source : Layer), Layout.origin fragments made name reader = ⟨place, 0⟩ →
      wiring.graph.bare[place]? = some source → context.Drafts (context.supplyOf name supplier) source →
        ∃ source, context.Drafts (context.supplyOf name supplier) source ∧
          Layer.sourceShape? wiring.graph.bare (Layout.origin fragments made name reader) =
            some source.outputShape := by
    intro place source position here drafts
    refine ⟨source, drafts, ?_⟩
    rw [Layer.outputShape_of_sourceShape? here (position ▸ given), given]
  cases supplier with
  | some writer =>
    have inside := Layout.exit_inside lowered supplies.writes
    obtain ⟨fragment, present, layers⟩ := Layout.fragment_of_layersOf lowered inside
    have there := List.getElem?_eq_getElem inside
    have stood := Layout.layers_of_fragment present ((congrArg (·[_]?) layers).symm.trans there)
    refine settle (Layout.offset fragments writer + ((context.layersOf writer).length - 1)) _ ?_ ?_ (.layer there)
    · rw [Layout.origin, found, Option.map_some, Option.getD_some, Layout.exit_eq lowered supplies.writes,
        Context.exitOf, Layout.placeOf_layer lowered inside]
    · rw [bare]
      exact (List.getElem?_append_left (List.getElem?_eq_some_iff.mp stood).1).trans stood
  | none =>
    obtain ⟨layer, substitute, here⟩ := Context.exists_substitute supplied (noted found)
    refine settle ((Layout.layers fragments).length + made.idxOf name) layer ?_ ?_ (.made substitute)
    · rw [Layout.origin, found, Option.map_none, Option.getD_none, Int.natCast_add]
    · rw [bare, List.getElem?_append_right (Nat.le_add_right _ _), Nat.add_sub_cancel_left, here]

/-- The check asks of a layer that hands data out that it is given an agreeing shape. -/
theorem checked_output_iff {layers : List Layer} {place : Nat} {shape given : Shape} {source : PortRef}
    (stands : layers[place]? = some (Layer.output shape)) (gives : Layer.sourceShape? layers source = some given) :
    Layer.Checked layers source ⟨place, 0⟩ ↔ Shape.compatible given shape = true := by
  have takes := Layer.targetShape?_of_getElem? stands 0
  constructor
  · rintro (⟨layer, hands, passes⟩ | ⟨other, taken, gives', takes', agrees⟩)
    · cases stands.symm.trans hands
      exact absurd rfl passes
    · cases gives.symm.trans gives'
      cases takes.symm.trans takes'
      exact agrees
  · exact fun agrees => .inr ⟨given, shape, gives, takes, agrees⟩

theorem eq_of_getElem?_singleton {α : Type} {item other : α} {place : Nat} (here : [item][place]? = some other) :
    place = 0 ∧ item = other := by
  rw [List.getElem?_singleton] at here
  split at here
  · next first => exact ⟨first, Option.some.inj here⟩
  · cases here

include lowered closed in
/-- The check of a read asks that what is fetched comes in the declared shape. -/
theorem Bound.checked_iff (bound : wiring.Bound context fragments made edges)
    (reads : context.block.Reads reader slot name)
    (noted : Layout.writer? fragments name reader = none → name ∈ made) :
    Layer.Checked wiring.graph.bare (Layout.origin fragments made name reader)
      (Layout.entry fragments reader slot) ↔ context.Receives reader name := by
  obtain ⟨supplier, supplies, _⟩ := Layout.exists_supplier lowered closed name reader
  obtain ⟨source, drafts, gives⟩ := bound.drafted lowered closed supplies noted
  obtain ⟨extra, _, bare⟩ := bound.bare
  obtain ⟨op, here, read⟩ := reads
  obtain ⟨fragment, kind, present, known, form⟩ := Layout.fragment_of_lowered lowered here
  obtain ⟨first, rest, _, layers, _, _⟩ := form.exists_first
  have there : fragment.layers[0]? = some first := by
    rw [layers]
    rfl
  have stood : wiring.graph.bare[Layout.offset fragments reader]? = some first := by
    have found := Layout.layers_of_fragment present there
    rw [bare]
    exact (List.getElem?_append_left (List.getElem?_eq_some_iff.mp found).1).trans found
  by_cases fetches : context.block.Fetches reader name
  · obtain ⟨other, again, fetch, single⟩ := fetches
    cases here.symm.trans again
    cases known.symm.trans fetch
    obtain ⟨shape, wanted, declared, rfl, same⟩ := form.eq_fetch
    cases single.symm.trans same
    cases there
    obtain ⟨rfl, _⟩ := eq_of_getElem?_singleton (single ▸ read)
    refine (checked_output_iff stood gives).trans ⟨?_, ?_⟩
    · intro agrees _ other drafted asked again drafts' declared'
      cases supplies.unique again
      cases drafts.unique drafts'
      cases declared.symm.trans declared'
      exact agrees
    · exact fun receives => receives ⟨op, here, fetch, single⟩ supplier source shape supplies drafts declared
  · refine iff_of_true (.inl ⟨first, stood, ?_⟩) fun fetches' => absurd fetches' fetches
    rcases form.layer_cases there with inner | ⟨_, shape, wanted, _, ⟨_, _, _, rfl⟩ | ⟨rfl, single, _, _⟩⟩
    · exact fun hands => inner (by simp [hands])
    · nofun
    · obtain ⟨_, rfl⟩ := eq_of_getElem?_singleton (single ▸ read)
      exact absurd ⟨op, here, known, single⟩ fetches

include lowered closed in
/-- A port that waits is connected with its origin exactly if what is fetched comes in the declared shape. -/
theorem Bound.succeeds_connecting {done rest : List (PortRef × (String × Nat))}
    (bound : wiring.Bound context fragments made
      (Layout.links fragments ++ Layout.bindings fragments (Layout.made fragments) done))
    (split : Layout.reads fragments = done ++ (Layout.entry fragments reader slot, (name, reader)) :: rest)
    (reads : context.block.Reads reader slot name)
    (noted : Layout.writer? fragments name reader = none → name ∈ made) :
    (connectChecked name (Layout.origin fragments made name reader) (Layout.entry fragments reader slot)).Succeeds
      wiring ↔ context.Receives reader name := by
  have member : (Layout.entry fragments reader slot, (name, reader)) ∈ Layout.reads fragments :=
    split ▸ List.mem_append_right _ List.mem_cons_self
  have enters := bound.read_present closed member
  have exits := bound.origin_present closed noted
  obtain ⟨_, connected⟩ := connect_yields wiring enters exits (bound.unbound closed split)
  unfold connectChecked
  rw [succeeds_look, ← bound.checked_iff lowered closed reads noted, ← checkTarget_eq_ok_iff enters exits]
  constructor
  · rintro ⟨_, found, _⟩
    exact found
  · exact fun found => ⟨(), found, connected.succeeds⟩

include lowered closed in
/-- A read is bound exactly if its variable can be procured where nobody supplies it, and what is fetched comes in the
declared shape. Variables that were made up before have been procured. -/
theorem Bound.succeeds_bindOne {done rest : List (PortRef × (String × Nat))}
    (bound : wiring.Bound context fragments (Layout.supply fragments [] done)
      (Layout.links fragments ++ Layout.bindings fragments (Layout.made fragments) done))
    (split : Layout.reads fragments = done ++ (Layout.entry fragments reader slot, (name, reader)) :: rest)
    (reads : context.block.Reads reader slot name)
    (procured : name ∈ Layout.supply fragments [] done → context.Procures wiring.journal.threshold name) :
    (Wiring.bindOne context (Layout.entry fragments reader slot) name reader).Succeeds wiring ↔
      (Layout.writer? fragments name reader = none → context.Procures wiring.journal.threshold name) ∧
        context.Receives reader name := by
  rw [bindOne_eq, succeeds_get, bound.writer?_eq]
  cases found : Layout.writer? fragments name reader with
  | some source =>
    have origin : source = Layout.origin fragments (Layout.supply fragments [] done) name reader := by
      rw [Layout.origin, found, Option.getD_some]
    have connecting := bound.succeeds_connecting lowered closed split reads fun none => by
      cases found.symm.trans none
    rw [← origin] at connecting
    refine connecting.trans ?_
    exact ⟨fun receives => ⟨fun absent => absurd absent (Option.some_ne_none source), receives⟩, And.right⟩
  | none =>
    have table := bound.synthesized name
    by_cases member : name ∈ Layout.supply fragments [] done
    · -- An earlier read has had the source made up, which is why it can be procured.
      rw [if_pos member] at table
      have connecting := bound.succeeds_connecting lowered closed split reads fun _ => member
      have origin : Layout.origin fragments (Layout.supply fragments [] done) name reader =
          ⟨(Layout.layers fragments).length + (Layout.supply fragments [] done).idxOf name, 0⟩ := by
        rw [Layout.origin, found, Option.getD_none]
      rw [origin] at connecting
      refine (yields_synthesized table).succeeds_bind.trans (connecting.trans ?_)
      exact ⟨fun receives => ⟨fun _ => procured member, receives⟩, And.right⟩
    · rw [if_neg member] at table
      have connecting : ∀ source state, (Wiring.synthesize context name).Yields wiring source state →
          ((connectChecked name source (Layout.entry fragments reader slot)).Succeeds state ↔
            context.Receives reader name) := by
        intro source state makes
        rw [bound.eq_origin found makes]
        exact (bound.synthesize found makes).1.succeeds_connecting lowered closed split reads fun _ =>
          (Layout.mem_note name reader).mpr (.inr ⟨rfl, found⟩)
      refine succeeds_bind.trans ?_
      constructor
      · rintro ⟨source, state, makes, later⟩
        exact ⟨fun _ => (succeeds_synthesize table).mp makes.succeeds, (connecting source state makes).mp later⟩
      · rintro ⟨procures, receives⟩
        obtain ⟨source, state, makes⟩ := (succeeds_synthesize table).mpr (procures rfl)
        exact ⟨source, state, makes, (connecting source state makes).mpr receives⟩

include lowered in
/-- The second pass succeeds exactly if what nobody supplies can be procured, and what is fetched comes in the
declared shapes. -/
theorem Laid.succeeds_bindPending (laid : wiring.Laid fragments) : (Wiring.bindPending context).Succeeds wiring ↔
    (∀ name ∈ context.block.sourceless, context.Procures wiring.journal.threshold name) ∧
      ∀ number name, context.Receives number name := by
  have loop : (Wiring.bindPending context).Succeeds wiring ↔ ∀ read ∈ Layout.reads fragments,
      (Layout.writer? fragments read.2.1 read.2.2 = none →
        context.Procures wiring.journal.threshold read.2.1) ∧ context.Receives read.2.2 read.2.1 := by
    rw [bindPending_eq, succeeds_get, laid.pending]
    refine succeeds_each ?_
    rintro done ⟨target, name, reader⟩ rest state split reached earlier
    have member : (target, (name, reader)) ∈ Layout.reads fragments :=
      split ▸ List.mem_append_right _ List.mem_cons_self
    obtain ⟨slot, reads, rfl⟩ := (Layout.mem_reads_iff lowered).mp member
    rw [← steady_bindEach context _ _ _ _ reached]
    refine (bound_of_bindEach laid split reached).succeeds_bindOne lowered laid.closed split reads fun noted => ?_
    rw [steady_bindEach context _ _ _ _ reached]
    rcases Layout.mem_supply.mp noted with absent | ⟨target, other, before, none⟩
    · cases absent
    · exact (earlier _ before).1 none
  rw [loop]
  constructor
  · intro all
    refine ⟨fun name sourceless => ?_, fun number name fetches => ?_⟩
    · obtain ⟨reader, slot, reads, supplies⟩ := Block.mem_sourceless.mp sourceless
      obtain ⟨other, same, found⟩ := Layout.exists_supplier lowered laid.closed name reader
      cases supplies.unique same
      exact (all _ ((Layout.mem_reads_iff lowered).mpr ⟨slot, reads, rfl⟩)).1 found
    · obtain ⟨op, here, fetch, single⟩ := fetches
      have reads : context.block.Reads number 0 name := ⟨op, here, by rw [single]; rfl⟩
      exact (all _ ((Layout.mem_reads_iff lowered).mpr ⟨0, reads, rfl⟩)).2 ⟨op, here, fetch, single⟩
  · rintro ⟨procures, receives⟩ ⟨target, name, reader⟩ member
    obtain ⟨slot, reads, rfl⟩ := (Layout.mem_reads_iff lowered).mp member
    refine ⟨fun none => procures name (Block.mem_sourceless.mpr ⟨reader, slot, reads, ?_⟩), receives reader name⟩
    obtain ⟨supplier, supplies, found⟩ := Layout.exists_supplier lowered laid.closed name reader
    rw [none] at found
    cases supplier with
    | none => exact supplies
    | some writer => cases found

end

section
variable {context : Context} {fragments : List Fragment} {wiring : Wiring} {name : String}

theorem Filled.succeeds_putPayload {place : Nat} {shape : Shape} (filled : wiring.Filled context fragments)
    (input : (Layout.layers fragments)[place]? = some (Layer.input shape)) :
    (putPayload context name place).Succeeds wiring ↔ (∃ value, context.load name = .ok value) ∧
      Severity.debug.Shows wiring.journal.threshold ("Replaced feed " ++ name ++ " with its stored payload") := by
  unfold putPayload
  rw [succeeds_attempt, exists_and_right.symm]
  refine exists_congr fun value => and_congr_right fun _ => ?_
  obtain ⟨_, replaced⟩ := filled.replaceNode_yields input value
  rw [replaced.succeeds_bind, succeeds_log]

/-- A fed input has its turn exactly if its payload can take its place, where nobody else writes it. -/
theorem Filled.succeeds_replaceOne {node : Int} (filled : wiring.Filled context fragments)
    (fed : Layout.Fed fragments name node) : (Wiring.replaceOne context name node).Succeeds wiring ↔
      ((Layout.writers fragments name).length = 1 → context.Refills wiring.journal.threshold name) := by
  rw [replaceOne_eq, succeeds_look]
  unfold isReplaceable Context.Refills
  rw [filled.writers]
  by_cases single : (Layout.writers fragments name).length = 1
  · rw [if_neg (not_not_intro single), iff_true_intro single, true_imp_iff]
    refine exists_congr fun stored => and_congr_right fun contained => ?_
    cases stored with
    | false => exact iff_of_true (succeeds_pure ()) nofun
    | true =>
      have gives : isReplaceable context wiring name = .ok true :=
        isReplaceable_eq_true.mpr ⟨(congrArg List.length (filled.writers name)).trans single, contained⟩
      obtain ⟨place, _, _, rfl, _, _, input⟩ := filled.sole fed gives
      exact (filled.succeeds_putPayload input).trans (by simp)
  · rw [if_pos single]
    exact iff_of_true ⟨false, rfl, succeeds_pure ()⟩ fun only => absurd only single

/-- The third pass succeeds exactly if the payloads of the noted variables can take their places. -/
theorem Filled.succeeds_replaceFed (filled : wiring.Filled context fragments)
    (provisional : ∀ entry ∈ wiring.provisional, Layout.Fed fragments entry.1 entry.2) :
    (Wiring.replaceFed context).Succeeds wiring ↔ ∀ entry ∈ wiring.provisional,
      (Layout.writers fragments entry.1).length = 1 → context.Refills wiring.journal.threshold entry.1 := by
  rw [replaceFed_eq, succeeds_get]
  refine succeeds_each fun done entry rest state split reached _ => ?_
  rw [split] at provisional
  have later := filled_of_replaceEach filled
    (fun other member => provisional other (List.mem_append_left _ member)) reached
  rw [← steady_replaceEach context _ _ _ _ reached]
  exact later.succeeds_replaceOne (provisional entry (List.mem_append_right _ (List.mem_cons_self ..)))

/-- A port is handed out exactly if it gives an agreeing shape. -/
theorem succeeds_handOut {source : PortRef} (present : (wiring.graph.output? source).isSome = true)
    (given declared : Shape) : (handOut name source given declared).Succeeds wiring ↔
      Shape.compatible given declared = true ∧ Severity.debug.Shows wiring.journal.threshold
        ("Exposed " ++ name ++ " as a graph output") := by
  unfold handOut
  rw [succeeds_attempt, ← @checkBoundary_eq_ok name]
  refine Unique.exists_iff.trans (and_congr_right fun _ => ?_)
  rw [(yields_addNode.mpr ⟨rfl, rfl⟩).succeeds_bind, (change_yields _).succeeds_bind]
  obtain ⟨_, connected⟩ := connect_new_yields present declared
  exact connected.succeeds_bind.trans succeeds_log

/-- Before its turn a port has no consumers exactly if no read takes what it gives. -/
theorem Handed.idle_iff {done rest : List (String × (Nat × PortRef))} {writer : Nat} {port : OutputPort}
    (handed : wiring.Handed context fragments done)
    (lowered : context.block.operators.map (fun op => op.lower context) = fragments.map .ok)
    (closed : Layout.Closed fragments)
    (split : Layout.writes fragments = done ++ (name, (writer, Layout.exit fragments writer)) :: rest)
    (exits : wiring.graph.output? (Layout.exit fragments writer) = some port) :
    port.consumers = [] ↔ context.block.Unread writer name := by
  have member : (name, (writer, Layout.exit fragments writer)) ∈ Layout.writes fragments :=
    split ▸ List.mem_append_right _ List.mem_cons_self
  have writes := ((Layout.mem_writes_iff lowered).mp member).1
  have consumers : wiring.graph.consumersOf (Layout.exit fragments writer) = port.consumers := by
    rw [Graph.consumersOf, exits]
    rfl
  rw [← consumers, handed.consumers_eq_nil closed split]
  constructor
  · intro free
    exact ((Layout.mem_exposed lowered closed).mp (List.mem_filter.mpr ⟨member, decide_eq_true free⟩)).2.1
  · intro unread
    exact of_decide_eq_true (List.mem_filter.mp ((Layout.mem_exposed lowered closed).mpr ⟨writes, unread, rfl⟩)).2

/-- An unread port is handed out exactly if its variable can be handed out from the layer of the port. -/
theorem Handed.succeeds_exposeOne {done rest : List (String × (Nat × PortRef))} {writer : Nat} {layer : Layer}
    (handed : wiring.Handed context fragments done)
    (lowered : context.block.operators.map (fun op => op.lower context) = fragments.map .ok)
    (closed : Layout.Closed fragments)
    (split : Layout.writes fragments = done ++ (name, (writer, Layout.exit fragments writer)) :: rest)
    (here : wiring.graph.bare[context.placeOf (context.exitOf writer)]? = some layer) :
    (Wiring.exposeOne context name (Layout.exit fragments writer)).Succeeds wiring ↔
      (context.block.Unread writer name → context.HandsOver wiring.journal.threshold name layer) := by
  have member : (name, (writer, Layout.exit fragments writer)) ∈ Layout.writes fragments :=
    split ▸ List.mem_append_right _ List.mem_cons_self
  have writes := ((Layout.mem_writes_iff lowered).mp member).1
  have present := handed.source_present closed member
  obtain ⟨port, exits⟩ := Option.isSome_iff_exists.mp present
  have found := (Graph.outputPort_eq_ok (Layer.plain_of_portAmong? _ exits)).mpr exits
  have shape : layer.outputShape = port.shape := by
    refine Layer.outputShape_of_sourceShape? here ?_
    rw [← Layout.exit_eq lowered writes, Graph.bare, Layer.sourceShape?_bare]
    exact Option.map_eq_some_iff.mpr ⟨port, exits, rfl⟩
  rw [exposeOne_eq]
  unfold Context.HandsOver Context.HandsIn
  rw [(yields_look.mpr ⟨found, rfl⟩).succeeds_bind, ← handed.idle_iff lowered closed split exits]
  by_cases free : port.consumers = []
  · rw [if_pos (List.isEmpty_iff.mpr free), iff_true_intro free, true_imp_iff, shape]
    cases declares : context.block.declares name with
    | true =>
      refine succeeds_attempt.trans (exists_congr fun declared => ?_)
      simp [succeeds_handOut present port.shape declared]
    | false =>
      refine (succeeds_handOut present port.shape port.shape).trans ?_
      simp
  · rw [if_neg (by simp [free])]
    exact iff_of_true (succeeds_pure ()) fun none => absurd none free

theorem prefix_of_exposeEach {written : List (Nat × String × PortRef)} {next : Wiring} {value : Unit}
    (run : (exposeEach context written).Yields wiring value next) : wiring.graph.bare <+: next.graph.bare := by
  refine each_induction (fun _ (w : Wiring) => wiring.graph.bare <+: w.graph.bare) List.prefix_rfl ?_ run
  rintro done ⟨writer, name, source⟩ rest state after split stays exposes
  exact stays.trans (prefix_of_exposeOne exposes)

/-- The last pass succeeds exactly if what no read takes can be handed out from the layers that write it. -/
theorem Filled.succeeds_exposeOutputs (filled : wiring.Filled context fragments)
    (lowered : context.block.operators.map (fun op => op.lower context) = fragments.map .ok)
    (stands : ∀ writer name, context.block.Writes writer name → ∃ layer,
      wiring.graph.bare[context.placeOf (context.exitOf writer)]? = some layer ∧
        context.Stands (context.exitOf writer) layer) :
    (Wiring.exposeOutputs context).Succeeds wiring ↔ ∀ writer name source, context.block.Writes writer name →
      context.block.Unread writer name → context.Stands (context.exitOf writer) source →
        context.HandsOver wiring.journal.threshold name source := by
  have written := map_written filled.closed filled.produced
  have loop : (Wiring.exposeOutputs context).Succeeds wiring ↔ ∀ entry ∈ wiring.written,
      context.block.Unread entry.1 entry.2.1 → ∀ source, context.Stands (context.exitOf entry.1) source →
        context.HandsOver wiring.journal.threshold entry.2.1 source := by
    rw [exposeOutputs_eq, succeeds_get]
    -- Ports handed out before have only added layers at the end, so the layer of the next one still stands.
    refine succeeds_each ?_
    rintro done ⟨writer, name, source⟩ rest state split reached _
    have handed := handed_of_exposeEach filled split reached
    rw [split, List.map_append, List.map_cons] at written
    have member : (name, (writer, source)) ∈ Layout.writes fragments :=
      written ▸ List.mem_append_right _ List.mem_cons_self
    obtain ⟨writes, rfl⟩ := (Layout.mem_writes_iff lowered).mp member
    obtain ⟨layer, here, exit⟩ := stands writer name writes
    have kept : state.graph.bare[context.placeOf (context.exitOf writer)]? = some layer := by
      obtain ⟨added, whole⟩ := prefix_of_exposeEach reached
      rw [← whole, List.getElem?_append_left (List.getElem?_eq_some_iff.mp here).1, here]
    rw [← steady_exposeEach context _ _ _ _ reached]
    refine (handed.succeeds_exposeOne lowered filled.closed written.symm kept).trans (forall_congr' fun _ => ?_)
    constructor
    · intro hands source exit'
      exact exit.unique_layer exit' ▸ hands
    · exact fun all => all layer exit
  rw [loop]
  constructor
  · intro all writer name source writes unread exit
    have member := (Layout.mem_writes_iff lowered).mpr ⟨writes, rfl⟩
    rw [← written, List.mem_map] at member
    obtain ⟨⟨_, _, port⟩, listed, same⟩ := member
    simp only [writtenEntry, Prod.mk.injEq] at same
    obtain ⟨rfl, rfl, _⟩ := same
    exact all _ listed unread source exit
  · rintro all ⟨writer, name, source⟩ listed unread layer exit
    have member : (name, (writer, source)) ∈ Layout.writes fragments :=
      written ▸ List.mem_map.mpr ⟨_, listed, rfl⟩
    exact all writer name layer ((Layout.mem_writes_iff lowered).mp member).1 unread exit

/-- A variable that is fed is so by an operator that writes it. -/
theorem exists_feeds {node : Int}
    (lowered : context.block.operators.map (fun op => op.lower context) = fragments.map .ok)
    (closed : Layout.Closed fragments) (fed : Layout.Fed fragments name node) :
    ∃ number, context.block.Feeds number name := by
  obtain ⟨place, writer, shape, _, written, here⟩ := fed
  rcases Layout.layer_cases lowered here with
    inner | ⟨number, op, _, other, stands, _, _, ⟨feeds, writes, _, another⟩ | ⟨_, _, same⟩⟩
  · exact absurd List.mem_cons_self inner
  · obtain ⟨rfl, _⟩ := Layout.write_unique closed another written
    exact ⟨number, op, stands, feeds, writes⟩
  · cases same

/-- The third pass succeeds exactly if payloads can take the place of all boundary layers that are to give way. -/
theorem Bound.succeeds_replaceFed {laid : Wiring} (listed : laid.Listed fragments)
    (lowered : context.block.operators.map (fun op => op.lower context) = fragments.map .ok)
    (bound : wiring.Bound context fragments (Layout.made fragments) (Layout.links fragments ++
      Layout.bindings fragments (Layout.made fragments) (Layout.reads fragments)))
    (kept : wiring.provisional = laid.provisional) : (Wiring.replaceFed context).Succeeds wiring ↔
      ∀ number name, context.block.Feeds number name →
        (∀ other, context.block.Writes other name → other = number) →
          context.Refills wiring.journal.threshold name := by
  have closed := listed.laid.closed
  rw [(bound.filled closed).succeeds_replaceFed bound.provisional]
  constructor
  · intro all number name feeds sole
    obtain ⟨shape, present⟩ := (Layout.feeds_iff lowered).mp feeds
    obtain ⟨entry, member, rfl⟩ := List.mem_map.mp (mem_provisional listed kept present)
    exact all entry member ((Layout.sole_iff lowered closed feeds).mpr sole)
  · intro all entry member single
    obtain ⟨number, feeds⟩ := exists_feeds lowered closed (bound.provisional entry member)
    exact all number entry.1 feeds ((Layout.sole_iff lowered closed feeds).mp single)

/-- When all payloads have taken their places, every layer of an operator is the one of its site. -/
theorem Swapped.stands_exit {laid bound : Wiring} (listed : laid.Listed fragments)
    (lowered : context.block.operators.map (fun op => op.lower context) = fragments.map .ok)
    (fed : ∀ entry ∈ bound.provisional, Layout.Fed fragments entry.1 entry.2)
    (kept : bound.provisional = laid.provisional) (swapped : wiring.Swapped context fragments bound.provisional)
    {writer : Nat} (writes : context.block.Writes writer name) :
    ∃ layer, wiring.graph.bare[context.placeOf (context.exitOf writer)]? = some layer ∧
      context.Stands (context.exitOf writer) layer := by
  have exact := swapped.exact (mem_provisional listed kept) fed
  obtain ⟨front, extra, refilled, _, bare⟩ := swapped.filled.bare
  have inside := Layout.exit_inside lowered writes
  have within : ∀ number shape name, fragments[number]? = some (.feed shape name) →
      Layout.GivesWay context fragments name →
        ∃ value, front[Layout.offset fragments number]? = some (Layer.constant value) := by
    intro number shape name here way
    obtain ⟨value, there⟩ := exact number shape name here way
    have first : (Fragment.feed shape name).layers[0]? = some (Layer.input shape) := rfl
    have stood := Layout.layers_of_fragment here first
    rw [bare, List.getElem?_append_left (refilled.length ▸ (List.getElem?_eq_some_iff.mp stood).1)] at there
    exact ⟨value, there⟩
  obtain ⟨layer, here, stands⟩ := Layout.stands_of_refilled lowered swapped.filled.closed refilled within inside
  refine ⟨layer, ?_, stands⟩
  rw [Context.exitOf, Layout.placeOf_layer lowered inside, bare,
    List.getElem?_append_left (List.getElem?_eq_some_iff.mp here).1, here]

/-- What binding the reads leaves behind: every port of an operator is bound, and the fed variables are noted as
before. -/
structure Connected (context : Context) (fragments : List Fragment) (before after : Wiring) : Prop where
  bound : after.Bound context fragments (Layout.made fragments) (Layout.links fragments ++
    Layout.bindings fragments (Layout.made fragments) (Layout.reads fragments))
  bordered : after.graph.Bordered
  provisional : after.provisional = before.provisional
  threshold : after.journal.threshold = before.journal.threshold

theorem Listed.connected {before after : Wiring} (listed : before.Listed fragments)
    (binds : (Wiring.bindPending context).Yields before () after) : Connected context fragments before after := by
  obtain ⟨bordered, kept⟩ := bordered_of_bindPending listed.bordered binds
  exact ⟨bound_of_bindPending listed.laid binds, bordered, kept, steady_bindPending context _ _ _ binds⟩

/-- After the third pass the last one succeeds exactly if what no read takes can be handed out. -/
theorem Connected.succeeds_exposeOutputs {before after filled : Wiring} (listed : before.Listed fragments)
    (lowered : context.block.operators.map (fun op => op.lower context) = fragments.map .ok)
    (connected : Connected context fragments before after)
    (replaces : (Wiring.replaceFed context).Yields after () filled) :
    (Wiring.exposeOutputs context).Succeeds filled ↔ ∀ writer name source, context.block.Writes writer name →
      context.block.Unread writer name → context.Stands (context.exitOf writer) source →
        context.HandsOver after.journal.threshold name source := by
  rw [← steady_replaceFed context _ _ _ replaces]
  rw [replaceFed_eq] at replaces
  obtain ⟨_, _, get, replaces⟩ := yields_bind.mp replaces
  obtain ⟨rfl, rfl⟩ := yields_get.mp get
  have noted := connected.bound.provisional
  have swapped := swapped_of_replaceEach (connected.bound.filled listed.laid.closed) connected.bordered noted replaces
  exact swapped.filled.succeeds_exposeOutputs lowered fun writer name writes =>
    swapped.stands_exit listed lowered noted connected.provisional writes

theorem listed_of_lowerAll {threshold : Int} {after : Wiring}
    (lowers : (lowerAll context).Yields (start threshold) () after) :
    ∃ fragments : List Fragment, context.block.operators.map (fun op => op.lower context) = fragments.map .ok ∧
      after.Listed fragments ∧ after.journal.threshold = threshold := by
  obtain ⟨fragments, made, listed⟩ := listed_of_lowerEach (listed_start threshold) lowers
  exact ⟨fragments, made, listed, steady_lowerAll context _ _ _ lowers⟩

end

end Wiring

/-- A block resolves exactly if all steps of its wiring can be taken. -/
theorem Context.resolves_iff {context : Context} {threshold : Int} :
    (∃ graph, context.resolve threshold = .ok graph) ↔ context.Wirable threshold := by
  have lowering : (Wiring.lowerAll context).Succeeds (Wiring.start threshold) ↔ _ :=
    Wiring.succeeds_lowerAll
  constructor
  · rintro ⟨graph, resolved⟩
    obtain ⟨lowered, bound, filled, handed, lowers, binds, replaces, exposes, rfl⟩ :=
      Wiring.resolve_eq_ok.mp resolved
    obtain ⟨fragments, made, listed, rfl⟩ := Wiring.listed_of_lowerAll lowers
    have connected := listed.connected binds
    obtain ⟨procures, receives⟩ := (listed.laid.succeeds_bindPending made).mp binds.succeeds
    refine ⟨lowering.mp lowers.succeeds, procures, receives, ?_, ?_⟩
    · exact connected.threshold ▸
        (connected.bound.succeeds_replaceFed listed made connected.provisional).mp replaces.succeeds
    · exact connected.threshold ▸ (connected.succeeds_exposeOutputs listed made replaces).mp exposes.succeeds
  · intro wirable
    obtain ⟨_, lowered, lowers⟩ := lowering.mpr wirable.lowers
    obtain ⟨fragments, made, listed, rfl⟩ := Wiring.listed_of_lowerAll lowers
    obtain ⟨_, bound, binds⟩ := (listed.laid.succeeds_bindPending made).mpr ⟨wirable.procures, wirable.receives⟩
    have connected := listed.connected binds
    obtain ⟨_, filled, replaces⟩ := (connected.bound.succeeds_replaceFed listed made connected.provisional).mpr
      (connected.threshold ▸ wirable.refills)
    obtain ⟨_, handed, exposes⟩ := (connected.succeeds_exposeOutputs listed made replaces).mpr
      (connected.threshold ▸ wirable.handsOver)
    exact ⟨_, Wiring.resolve_eq_ok.mpr ⟨lowered, bound, filled, handed, lowers, binds, replaces, exposes, rfl⟩⟩

end LayerGraph
