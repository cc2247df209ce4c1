import LayerGraph.Proofs.Wiring.Composed
import LayerGraph.Proofs.Wiring.Unfailing

/-! The turns of the operators, and the lines that are reported between them.

What an operator is lowered to does not depend on the wiring, and a fragment can be appended to every wiring. So
lowering a block ends the same way from every state: with the failure of the first operator that has one, or with none.
A report changes the journal only, and nothing changes the threshold of the journal. So what is known about a line before
a pass holds whenever the line is reported.
-/

set_option autoImplicit false

namespace LayerGraph.Wiring

open Run

section
variable {wiring next : Wiring} {severity : Severity} {message : String}

/-- A look keeps the state that what follows starts from. -/
theorem faults_look {α β : Type} (find : Wiring → Attempt α) {next : α → Run Wiring β}
    {hazard : Fault → Prop} {later : α → Fault → Prop} (first : (find wiring).Faults hazard)
    (rest : ∀ value, find wiring = .ok value → (next value).Faults wiring (later value)) :
    (look find >>= next).Faults wiring fun fault =>
      hazard fault ∨ ∃ value, find wiring = .ok value ∧ later value fault :=
  faults_attempt first rest

theorem faults_log : (log severity message).Faults wiring (severity.Breaks wiring.journal.threshold message) :=
  faults_onPart Journal.faults_report

theorem yields_log {value : Unit} : (log severity message).Yields wiring value next ↔
    severity.Shows wiring.journal.threshold message ∧
      next = { wiring with journal := wiring.journal.enter severity message } := by
  unfold log
  rw [yields_onPart]
  constructor
  · rintro ⟨journal, reported, same⟩
    obtain ⟨shows, rfl⟩ := Journal.yields_report.mp reported
    exact ⟨shows, same⟩
  · rintro ⟨shows, same⟩
    exact ⟨_, Journal.yields_report.mpr ⟨shows, rfl⟩, same⟩

end

/-- An effect that keeps the threshold of the journal. -/
def Steady {α : Type} (run : Run Wiring α) : Prop :=
  ∀ before value after, run.Yields before value after → after.journal.threshold = before.journal.threshold

theorem Composed.steady {α : Type} {run : Run Wiring α} (composed : Composed run) : Steady run := by
  intro before value after yields
  have onward := composed.onward before
  rw [yields] at onward
  exact onward.threshold

section
variable (context : Context)

theorem steady_lowerEach (operators : List (Operator × Nat)) : Steady (lowerEach context operators) :=
  (composed_lowerEach context operators).steady

theorem steady_lowerAll : Steady (lowerAll context) :=
  (composed_lowerAll context).steady

theorem steady_bindEach (reads : List (PortRef × (String × Nat))) : Steady (bindEach context reads) :=
  (composed_bindEach context reads).steady

theorem steady_bindPending : Steady (bindPending context) :=
  (composed_bindPending context).steady

theorem steady_replaceEach (fed : List (String × Int)) : Steady (replaceEach context fed) :=
  (composed_replaceEach context fed).steady

theorem steady_replaceFed : Steady (replaceFed context) :=
  (composed_replaceFed context).steady

theorem steady_exposeEach (written : List (Nat × String × PortRef)) :
    Steady (exposeEach context written) :=
  (composed_exposeEach context written).steady

end

end LayerGraph.Wiring

namespace LayerGraph

section
variable {σ α : Type}

/-- A pass whose steps end the same way in all states that it reaches ends as these ends do one after the other. -/
theorem Run.result_each {items : List α} {step : α → Run σ Unit} {turn : α → Attempt Unit} (kept : σ → Prop)
    (round : ∀ item state, kept state → ((step item).perform state).1 = turn item ∧ kept ((step item).perform state).2)
    {start : σ} (starts : kept start) : ((each items step).perform start).1 = forM items turn := by
  induction items generalizing start with
  | nil =>
    rw [each_nil]
    rfl
  | cons item items ih =>
    obtain ⟨same, stays⟩ := round item start starts
    rw [each_cons, List.forM_cons, perform_bind, ← same]
    generalize (step item).perform start = performed at stays ⊢
    obtain ⟨result, state⟩ := performed
    cases result with
    | ok _ => exact ih stays
    | error failure => rfl

end

/-- An operator's turn: its lowering, and the lines about its layers, which are shown under a low threshold only. -/
def Operator.turn (op : Operator) (context : Context) (threshold : Int) (reader : Nat) : Attempt Unit := do
  let fragment ← op.lower context
  if threshold ≤ Severity.debug.number ∧
      ∃ layer ∈ fragment.layers, Text.showsNumerals (Wiring.loweredText reader op layer) = false then
    .fault .shownInteger

/-- The turns of all operators of a block. -/
def Context.lowering (context : Context) (threshold : Int) : Attempt Unit :=
  forM context.block.operators.zipIdx fun entry => entry.1.turn context threshold entry.2

namespace Wiring

open Run

section
variable {context : Context} {wiring : Wiring} {reader : Nat} {op : Operator} {layer : Layer}

/-- The line about a lowered layer of a known operator that is no constant opens no tag. -/
theorem blunt_lowered {kind : OperatorKind} (known : OperatorKind.ofTag? op.tag = some kind)
    (body : layer.kind ≠ .constant) : Markup.Blunt (loweredText reader op layer) := by
  have tag : '[' ∉ op.tag.toList := by
    have same : kind.tag = op.tag := by simpa using List.find?_some known
    rw [← same]
    cases kind <;> decide
  have blank : ∀ text ∈ ["Lowered #", " ", " into "], '[' ∉ text.toList := by decide
  have free : ∀ text ∈ ["Lowered #", " ", " into "], Markup.Blunt text :=
    fun text member => Markup.blunt_of_no_bracket (blank text member)
  unfold loweredText
  have number := Markup.blunt_of_no_bracket (Markup.no_bracket_natural reader)
  exact (((((free _ (by decide)).append number).append (free _ (by decide))).append
    (Markup.blunt_of_no_bracket tag)).append (free _ (by decide)) |>.append (Markup.blunt_layer layer)).append
    (free _ (by decide)) |>.append (Markup.blunt_params body)

/-- The lines about layers fail for the first one that is kept and whose integers cannot be shown. -/
theorem result_logEach {layers : List Layer} (blunt : ∀ layer ∈ layers, Markup.Blunt (loweredText reader op layer)) :
    ((each layers (logLowered reader op)).perform wiring).1 =
      if wiring.journal.threshold ≤ Severity.debug.number ∧
          ∃ layer ∈ layers, Text.showsNumerals (loweredText reader op layer) = false then .fault .shownInteger
      else .ok () := by
  induction layers generalizing wiring with
  | nil =>
    rw [each_nil, if_neg (by simp)]
    rfl
  | cons layer layers ih =>
    rw [each_cons, perform_bind, perform_logLowered]
    -- The first record that cannot be shown ends the pass; the journal keeps its threshold until then.
    by_cases unshown : wiring.journal.threshold ≤ Severity.debug.number ∧
        Text.showsNumerals (loweredText reader op layer) = false
    · rw [if_pos (by simp [Journal.keeps, unshown]), if_pos ⟨unshown.1, layer, List.mem_cons_self, unshown.2⟩]
      rfl
    · have free := blunt layer List.mem_cons_self
      have shows : Severity.debug.Shows wiring.journal.threshold (loweredText reader op layer) :=
        Severity.shows_tagless (by simpa [Severity.mark] using free.tagless) _
      have logged : (log .debug (loweredText reader op layer)).perform wiring = (.ok (), _) :=
        yields_log.mpr ⟨shows, rfl⟩
      rw [if_neg (by simpa [Journal.keeps] using unshown), logged]
      dsimp only
      rw [ih fun other member => blunt other (List.mem_cons_of_mem _ member), Journal.threshold_enter]
      refine if_congr (and_congr_right fun kept => ?_) rfl rfl
      rw [List.exists_mem_cons_iff]
      exact ⟨.inr, fun either => either.resolve_left fun here => unshown ⟨kept, here⟩⟩

/-- An operator's turn ends the same way from every wiring. -/
theorem result_lowerOne :
    ((lowerOne context reader op).perform wiring).1 = op.turn context wiring.journal.threshold reader := by
  unfold lowerOne Operator.turn
  rw [perform_bind, perform_ofAttempt]
  cases lowered : op.lower context with
  | error failure => rfl
  | ok fragment =>
    obtain ⟨kind, known, form⟩ := Operator.form_of_lower lowered
    obtain ⟨next, appended, same⟩ := append_yields form.closed wiring reader
    dsimp only
    rw [perform_bind, appended]
    refine (result_logEach fun layer member => blunt_lowered known (form.kind_ne_constant member)).trans ?_
    rw [same]
    rfl

theorem result_lowerAll (context : Context) (wiring : Wiring) :
    ((lowerAll context).perform wiring).1 = context.lowering wiring.journal.threshold :=
  result_each (fun state => state.journal.threshold = wiring.journal.threshold)
    (fun entry state same => ⟨by rw [result_lowerOne, same],
      ((composed_lowerOne context entry.2 entry.1).onward state).threshold.trans same⟩) rfl

end

/-- The passes that wire a block. -/
def passes (context : Context) : Run Wiring Unit := do
  lowerAll context
  bindPending context
  replaceFed context
  exposeOutputs context

theorem composed_passes (context : Context) : Composed (passes context) :=
  .bind (composed_lowerAll context) fun _ => .bind (composed_bindPending context) fun _ =>
    .bind (composed_replaceFed context) fun _ => composed_exposeOutputs context

/-- A wiring that is not finished runs all passes, and is finished when they succeed. -/
theorem perform_resolve {context : Context} {wiring : Wiring} (unfinished : wiring.finished = false) :
    (resolve context).perform wiring =
      match (passes context).perform wiring with
      | (.ok _, state) => (.ok state.graph, { state with finished := true })
      | (.error failure, state) => (.error failure, state) := by
  -- The guard against a second call does not apply here, so that only the passes are left.
  have begun : (resolve context).perform wiring = (do
      lowerAll context
      bindPending context
      replaceFed context
      exposeOutputs context
      change fun wiring => { wiring with finished := true }
      return (← get).graph : Run Wiring Graph).perform wiring := by
    unfold resolve
    rw [perform_bind]
    change (if wiring.finished = true then _ else _ : Run Wiring Graph).perform wiring = _
    rw [unfinished, if_neg nofun]
  rw [begun]
  unfold passes
  simp only [perform_bind]
  rcases (lowerAll context).perform wiring with ⟨_ | _, lowered⟩
  · rfl
  · dsimp only
    rcases (bindPending context).perform lowered with ⟨_ | _, bound⟩
    · rfl
    · dsimp only
      rcases (replaceFed context).perform bound with ⟨_ | _, filled⟩
      · rfl
      · dsimp only
        rcases (exposeOutputs context).perform filled with ⟨_ | _, exposed⟩ <;> rfl

/-- A failure while lowering is that of the whole. -/
theorem resolve_of_lowering {context : Context} {wiring : Wiring} {failure : Failure} (unfinished : wiring.finished = false)
    (failed : context.lowering wiring.journal.threshold = .error failure) :
    ((resolve context).perform wiring).1 = .error failure := by
  rw [← result_lowerAll] at failed
  rw [perform_resolve unfinished, passes, perform_bind]
  generalize (lowerAll context).perform wiring = performed at failed ⊢
  obtain ⟨result, state⟩ := performed
  cases failed
  rfl

end Wiring

end LayerGraph
