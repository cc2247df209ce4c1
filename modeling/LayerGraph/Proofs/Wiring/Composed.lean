import LayerGraph.Proofs.Journal.Script
import LayerGraph.Proofs.Wiring.Append

/-! What the passes of a wiring are composed of.

A pass looks things up, changes the graph and the tables, and reports lines; it looks at everything but the journal.
So whether it succeeds or fails, a pass finishes no wiring, keeps the threshold of the journal and takes no layer away.
And it has a script: what it does is the same whatever was reported before, up to a line that stops it.
-/

set_option autoImplicit false

namespace LayerGraph

namespace Graph

variable {graph next : Graph} {source target : PortRef}

theorem size_setNode (place : Nat) (layer : Layer) : (graph.setNode place layer).size = graph.size :=
  List.length_set

theorem size_of_bind (bound : graph.bind target source = .ok next) : next.size = graph.size := by
  obtain ⟨_, _, _, _, _, _, _, rfl⟩ := bind_eq_ok_iff.mp bound
  exact size_setNode _ _

theorem size_of_attach (attached : graph.attach source target = .ok next) : next.size = graph.size := by
  obtain ⟨_, _, _, _, _, _, rfl⟩ := attach_eq_ok_iff.mp attached
  exact size_setNode _ _

theorem size_connect (graph : Graph) (source target : PortRef) :
    (graph.connect source target).2.size = graph.size := by
  unfold connect
  split
  · rfl
  · next bound binds =>
    split
    · exact size_of_bind binds
    · next wired attaches => exact (size_of_attach attaches).trans (size_of_bind binds)

theorem size_of_replace {index : Int} {layer : Layer} (replaced : graph.replace index layer = .ok next) :
    next.size = graph.size := by
  obtain ⟨⟨place, old⟩, _, replaced⟩ := Attempt.bind_eq_ok.mp replaced
  dsimp only at replaced
  split at replaced
  · exact absurd replaced Attempt.graph_ne_ok
  · split at replaced <;>
    · cases replaced
      exact size_setNode _ _

end Graph

namespace Wiring

open Run

/-- Nothing is finished, the threshold stays, and no layer is taken away. -/
structure Onward (before after : Wiring) : Prop where
  finished : after.finished = before.finished
  threshold : after.journal.threshold = before.journal.threshold
  size : before.graph.size ≤ after.graph.size

theorem Onward.refl (wiring : Wiring) : Onward wiring wiring := ⟨rfl, rfl, Nat.le_refl _⟩

theorem Onward.trans {before middle after : Wiring} (first : Onward before middle) (second : Onward middle after) :
    Onward before after :=
  ⟨second.finished.trans first.finished, second.threshold.trans first.threshold, first.size.trans second.size⟩

/-- Effects that look at everything but the journal, change the graph and the tables, and report lines. -/
inductive Composed : {α : Type} → Run Wiring α → Prop
  | pure {α : Type} (value : α) : Composed (Pure.pure value)
  | attempt {α : Type} (attempt : Attempt α) : Composed (ofAttempt attempt)
  | look {α : Type} {find : Wiring → Attempt α}
      (blind : ∀ wiring journal, find { wiring with journal := journal } = find wiring) : Composed (Wiring.look find)
  | onGraph {α : Type} {step : Graph → Attempt α × Graph} (grows : ∀ graph, graph.size ≤ (step graph).2.size) :
      Composed (Wiring.onGraph step)
  | change {update : Wiring → Wiring} (onward : ∀ wiring, Onward wiring (update wiring))
      (blind : ∀ wiring journal, update { wiring with journal := journal } = { update wiring with journal := journal }) :
      Composed (Wiring.change update)
  | line (severity : Severity) (message : String) : Composed (log severity message)
  | layerLine (reader : Nat) (op : Operator) (layer : Layer) : Composed (logLowered reader op layer)
  | bind {α β : Type} {run : Run Wiring α} {next : α → Run Wiring β} (first : Composed run)
      (rest : ∀ value, Composed (next value)) : Composed (run >>= next)
  | get {β : Type} {next : Wiring → Run Wiring β}
      (blind : ∀ wiring journal, next { wiring with journal := journal } = next wiring)
      (rest : ∀ wiring, Composed (next wiring)) : Composed (MonadState.get >>= next)

theorem Composed.ite {α : Type} {condition : Prop} [Decidable condition] {first second : Run Wiring α}
    (yes : Composed first) (no : Composed second) : Composed (if condition then first else second) := by
  split
  · exact yes
  · exact no

theorem Composed.each {α : Type} {items : List α} {step : α → Run Wiring Unit}
    (composed : ∀ item, Composed (step item)) : Composed (Run.each items step) := by
  induction items with
  | nil =>
    rw [each_nil]
    exact .pure ()
  | cons item items ih =>
    rw [each_cons]
    exact (composed item).bind fun _ => ih

section
variable (context : Context)

theorem composed_addNode (layer : Layer) : Composed (addNode layer) :=
  .onGraph fun graph => by
    rw [Graph.size, Graph.size, Graph.add, List.length_append]
    exact Nat.le_add_right _ _

theorem composed_connect (source target : PortRef) : Composed (connect source target) :=
  .onGraph fun graph => (graph.size_connect source target).ge

theorem composed_replaceNode (node : Int) (layer : Layer) : Composed (replaceNode node layer) := by
  refine .onGraph fun graph => ?_
  split
  · next replaced => exact (Graph.size_of_replace replaced).ge
  · exact Nat.le_refl _

theorem size_addAll (graph : Graph) (layers : List Layer) :
    (layers.foldl Graph.add graph).size = graph.size + layers.length := by
  induction layers generalizing graph with
  | nil => rfl
  | cons layer layers ih =>
    rw [List.foldl_cons, ih, Graph.size, Graph.size, Graph.add, List.length_append, List.length_cons, List.length_cons,
      List.length_nil]
    omega

/-- Steps that do not look at the journal leave the one that there is. -/
theorem foldl_journal {α : Type} {items : List α} {step : Wiring → α → Wiring} (wiring : Wiring) (journal : Journal)
    (blind : ∀ wiring journal item, step { wiring with journal := journal } item =
      { step wiring item with journal := journal }) :
    items.foldl step { wiring with journal := journal } = { items.foldl step wiring with journal := journal } :=
  List.foldl_hom (fun wiring : Wiring => { wiring with journal := journal }) fun wiring item => blind wiring journal item

/-- Registering the bindings of a fragment leaves the layers, and it does not look at the journal. -/
theorem composed_register (reader offset : Nat) (fragment : Fragment) :
    Composed (change fun wiring => wiring.register reader offset fragment) := by
  refine .change (fun wiring => ?_) fun wiring journal => ?_
  · have step := registers wiring reader offset fragment
    refine ⟨?_, congrArg Journal.threshold step.journal, ?_⟩
    · unfold register
      rw [addPending_eq]
      dsimp only
      rw [addWriters_eq]
    · rw [Graph.size, Graph.size, step.nodes]
  · unfold register
    rw [foldl_journal wiring journal fun _ _ _ => rfl]
    dsimp only
    rw [foldl_journal _ journal fun _ _ _ => rfl]

theorem composed_append (reader : Nat) (fragment : Fragment) : Composed (append reader fragment) := by
  refine .get (fun _ _ => rfl) fun wiring => .bind (.change (fun wiring => ?_) fun _ _ => rfl) fun _ =>
    .bind (.each fun link => composed_connect _ _) fun _ => composed_register reader _ fragment
  exact ⟨rfl, rfl, by rw [size_addAll]; exact Nat.le_add_right _ _⟩

theorem composed_lowerOne (reader : Nat) (op : Operator) : Composed (lowerOne context reader op) :=
  .bind (.attempt _) fun fragment => .bind (composed_append reader fragment) fun _ =>
    .each fun layer => .layerLine reader op layer

theorem composed_lowerEach (operators : List (Operator × Nat)) : Composed (lowerEach context operators) :=
  .each fun entry => composed_lowerOne context entry.2 entry.1

theorem composed_lowerAll : Composed (lowerAll context) :=
  composed_lowerEach context context.block.operators.zipIdx

theorem composed_makeConstant (name : String) (stored : Bool) : Composed (makeConstant context name stored) := by
  have loading : Composed (loadConstant context name) :=
    .bind (.attempt _) fun value => .bind (composed_addNode _) fun node => .bind (.line _ _) fun _ => .pure node
  rw [makeConstant_eq]
  exact .ite loading (.bind (.line _ _) fun _ => loading)

/-- A change of the tables and the boundary. -/
theorem composed_change {update : Wiring → Wiring} (nodes : ∀ wiring, (update wiring).graph.nodes = wiring.graph.nodes)
    (finished : ∀ wiring, (update wiring).finished = wiring.finished)
    (blind : ∀ wiring journal, update { wiring with journal := journal } = { update wiring with journal := journal }) :
    Composed (change update) := by
  refine .change (fun wiring => ⟨finished wiring, ?_, by rw [Graph.size, Graph.size, nodes]⟩) blind
  have same := congrArg (fun wiring : Wiring => wiring.journal) (blind wiring wiring.journal)
  exact congrArg Journal.threshold same

theorem composed_makeInput (shape : Shape) (name : String) : Composed (makeInput shape name) :=
  .bind (composed_addNode _) fun node =>
    .bind (composed_change (fun _ => rfl) (fun _ => rfl) fun _ _ => rfl) fun _ =>
      .bind (.line _ _) fun _ => .pure node

theorem composed_synthesize (name : String) : Composed (synthesize context name) := by
  rw [synthesize_eq]
  refine .get (fun _ _ => rfl) fun wiring => ?_
  split
  · exact .pure _
  · have noting : ∀ node : Int, Composed (noteSource name node) :=
      fun node => .bind (composed_change (fun _ => rfl) (fun _ => rfl) fun _ _ => rfl) fun _ => .pure _
    exact .bind (.attempt _) fun declaration => .bind (.attempt _) fun stored =>
      .bind (.ite (composed_makeConstant context name stored) (composed_makeInput _ name)) noting

theorem composed_bindOne (target : PortRef) (name : String) (reader : Nat) :
    Composed (bindOne context target name reader) := by
  have connecting : ∀ source : PortRef, Composed (connectChecked name source target) :=
    fun source => .bind (.look fun _ _ => rfl) fun _ => composed_connect source target
  rw [bindOne_eq]
  refine .get (fun _ _ => rfl) fun wiring => ?_
  split
  · exact connecting _
  · exact .bind (composed_synthesize context name) connecting

theorem composed_bindEach (reads : List (PortRef × (String × Nat))) : Composed (bindEach context reads) :=
  .each fun read => composed_bindOne context read.1 read.2.1 read.2.2

theorem composed_bindPending : Composed (bindPending context) :=
  .get (fun _ _ => rfl) fun wiring => composed_bindEach context wiring.pending

theorem composed_replaceOne (name : String) (node : Int) : Composed (replaceOne context name node) :=
  .bind (.look fun _ _ => rfl) fun _ => .ite (.bind (.attempt _) fun _ =>
    .bind (composed_replaceNode node _) fun _ => .line _ _) (.pure ())

theorem composed_replaceEach (fed : List (String × Int)) : Composed (replaceEach context fed) :=
  .each fun entry => composed_replaceOne context entry.1 entry.2

theorem composed_replaceFed : Composed (replaceFed context) :=
  .get (fun _ _ => rfl) fun wiring => composed_replaceEach context wiring.provisional

theorem composed_exposeOne (name : String) (source : PortRef) : Composed (exposeOne context name source) := by
  have handing : ∀ given declared : Shape, Composed (handOut name source given declared) :=
    fun given declared => .bind (.attempt _) fun _ => .bind (composed_addNode _) fun node =>
      .bind (composed_change (fun _ => rfl) (fun _ => rfl) fun _ _ => rfl) fun _ =>
        .bind (composed_connect _ _) fun _ => .line _ _
  rw [exposeOne_eq]
  exact .bind (.look fun _ _ => rfl) fun port =>
    .ite (.ite (.bind (.attempt _) (handing port.shape)) (handing port.shape port.shape)) (.pure ())

theorem composed_exposeEach (written : List (Nat × String × PortRef)) : Composed (exposeEach context written) :=
  .each fun entry => composed_exposeOne context entry.2.1 entry.2.2

theorem composed_exposeOutputs : Composed (exposeOutputs context) :=
  .get (fun _ _ => rfl) fun wiring => composed_exposeEach context wiring.written

end

section
variable {α : Type} {run : Run Wiring α}

theorem onward_line (severity : Severity) (message : String) (wiring : Wiring) :
    Onward wiring ((log severity message).perform wiring).2 := by
  have left : ((log severity message).perform wiring).2 =
      { wiring with journal := ((Journal.report severity message).perform wiring.journal).2 } := rfl
  rw [left, Journal.perform_report]
  exact ⟨rfl, Journal.threshold_enter, Nat.le_refl _⟩

/-- Whether it succeeds or fails, what is composed goes onward. -/
theorem Composed.onward (composed : Composed run) (wiring : Wiring) : Onward wiring (run.perform wiring).2 := by
  induction composed generalizing wiring with
  | pure | attempt | look => exact .refl wiring
  | onGraph grows => exact ⟨rfl, rfl, grows wiring.graph⟩
  | change onward => exact onward wiring
  | line severity message => exact onward_line severity message wiring
  | layerLine reader op layer =>
    unfold logLowered
    rw [perform_bind]
    change Onward wiring ((if _ then _ else _ : Run Wiring Unit).perform wiring).2
    split
    · exact .refl wiring
    · exact onward_line _ _ wiring
  | bind _ _ first rest =>
    rw [perform_bind]
    have before := first wiring
    generalize Run.perform _ wiring = performed at before ⊢
    obtain ⟨result, state⟩ := performed
    cases result with
    | ok value => exact before.trans (rest value state)
    | error failure => exact before
  | get _ _ rest => exact rest wiring wiring

end

/-- A wiring with another journal. -/
def withJournal (wiring : Wiring) (journal : Journal) : Wiring := { wiring with journal := journal }

@[simp] theorem journal_withJournal (wiring : Wiring) (journal : Journal) :
    (wiring.withJournal journal).journal = journal := rfl

section
variable {wiring : Wiring}

theorem perform_log (severity : Severity) (message : String) : (log severity message).perform wiring =
    ((Line.mk severity message true).tell wiring.journal.threshold,
      wiring.withJournal (wiring.journal.enter severity message)) := by
  have left : (log severity message).perform wiring =
      (((Journal.report severity message).perform wiring.journal).1,
        wiring.withJournal ((Journal.report severity message).perform wiring.journal).2) := rfl
  rw [left, Journal.perform_report, Journal.keeps, Line.tell]
  simp only [decide_eq_true_eq, ↓reduceIte]

/-- The line about a layer is reported, or fails when it would be kept and cannot be shown. -/
theorem perform_logLowered (reader : Nat) (op : Operator) (layer : Layer) :
    (logLowered reader op layer).perform wiring =
      if wiring.journal.keeps .debug && !Text.showsNumerals (loweredText reader op layer) then
        (.error (.fault .shownInteger), wiring)
      else (log .debug (loweredText reader op layer)).perform wiring := by
  unfold logLowered
  rw [perform_bind]
  change (if _ then _ else _ : Run Wiring Unit).perform wiring = _
  split <;> rfl

/-- Lines about layers come with whether their integers can be shown. -/
theorem scripted_logLowered (reader : Nat) (op : Operator) (layer : Layer) :
    Scripted withJournal (logLowered reader op layer) wiring := by
  let text := loweredText reader op layer
  cases shown : Text.showsNumerals text with
  | true =>
    refine ⟨_, follows_line ⟨.debug, text, true⟩ (Journal.enter · .debug text) (fun _ => Journal.threshold_enter) ?_⟩
    intro journal
    rw [perform_logLowered, shown, Bool.not_true, Bool.and_false, if_neg Bool.false_ne_true]
    exact perform_log .debug text
  | false =>
    refine ⟨_, follows_line ⟨.debug, text, false⟩ id (fun _ => rfl) fun journal => ?_⟩
    rw [perform_logLowered, shown, Bool.not_false, Bool.and_true, perform_log, journal_withJournal]
    by_cases kept : journal.keeps .debug = true
    · rw [if_pos kept, Line.tell, if_pos (of_decide_eq_true kept), if_neg Bool.false_ne_true]
      rfl
    · have silent : ¬ journal.threshold ≤ Severity.debug.number := fun low => kept (decide_eq_true low)
      rw [if_neg kept, Line.tell, if_neg silent, Line.tell, if_neg silent, Journal.enter, if_neg kept]
      rfl

/-- What is composed has a script: it does not depend on what was reported before. -/
theorem Composed.scripted {α : Type} {run : Run Wiring α} (composed : Composed run) (wiring : Wiring) :
    Scripted withJournal run wiring := by
  induction composed generalizing wiring with
  | pure | attempt => exact ⟨_, follows_silent fun journal => rfl⟩
  | @onGraph _ step _ =>
    exact ⟨⟨[], (step wiring.graph).1, { wiring with graph := (step wiring.graph).2 }⟩,
      follows_silent fun journal => rfl⟩
  | look blind => exact ⟨_, follows_silent fun journal => congrArg (·, _) (blind wiring journal)⟩
  | change _ blind => exact ⟨_, follows_silent fun journal => congrArg (_, ·) (blind wiring journal)⟩
  | line severity message =>
    exact ⟨_, follows_line ⟨severity, message, true⟩ (Journal.enter · severity message)
      (fun _ => Journal.threshold_enter) fun journal => perform_log severity message⟩
  | layerLine reader op layer => exact scripted_logLowered reader op layer
  | bind _ _ first rest => exact (first wiring).bind rest
  | @get _ next blind _ rest =>
    obtain ⟨script, follows⟩ := rest wiring wiring
    refine ⟨script, fun journal => ?_⟩
    have looked : (MonadState.get >>= next).perform (wiring.withJournal journal) =
        (next wiring).perform (wiring.withJournal journal) := by
      rw [← blind wiring journal]
      rfl
    rw [looked]
    exact follows journal

end

/-- An attempt that fails for a line: for its markup, or for integers that cannot be shown. -/
def Broken {α : Type} (attempt : Attempt α) : Prop :=
  ∃ fault, attempt = .error (.fault fault) ∧ ((∃ defect, fault = .markup defect) ∨ fault = .shownInteger)

end Wiring

end LayerGraph
