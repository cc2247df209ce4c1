import LayerGraph.Conversion.Basic
import LayerGraph.Proofs.Program.Faults
import LayerGraph.Proofs.Wiring.Faults

/-! What a run comes to.

Conversion errors are captured, and the lines that conclude a run quote nothing but escaped text. So a
run fails with the faults of what it announces, reads and wires, and otherwise its outcome tells how the
conversion of the block ended.
-/

set_option autoImplicit false

namespace LayerGraph

open Run

/-- An outcome that tells of a conversion: its graph, or everything about the error that stopped it. -/
def Outcome.Tells (outcome : Outcome) : Attempt (Block × Graph) → Prop
  | .ok (_, graph) => outcome.succeeded = true ∧ outcome.graph? = some graph ∧ outcome.errors = []
  | .error (.conversion error) => outcome.succeeded = false ∧ outcome.graph? = none ∧
      outcome.kind? = some error.kind ∧ outcome.operator? = error.operator ∧
      outcome.subject? = error.subject ∧ outcome.errors = [error.text]
  | .error _ => False

namespace Conversion

/-- What is reported before a block is converted. -/
def announcedText (conversion : Conversion) (asked : String) : String :=
  "Converting block " ++ asked ++ " of [var]" ++ conversion.settings.directory.text ++ "[/var]"

/-- The threshold of a run, from its settings. -/
def threshold (conversion : Conversion) : Int := conversion.settings.logLevel.number

/-- The faults of announcing a block: an index that cannot be shown, and a directory that is no markup. -/
def AnnounceHazard (conversion : Conversion) (index : Json) (fault : Fault) : Prop :=
  index.TextHazard fault ∨ ∃ asked, index.text = .ok asked ∧
    Severity.info.Breaks conversion.threshold (conversion.announcedText asked) fault

/-- The faults of converting a block that is announced: of reading it, and of wiring it. -/
def BlockHazard (conversion : Conversion) (index : Json) (journal : Journal) (fault : Fault) : Prop :=
  conversion.program.ReadHazard journal.threshold index fault ∨
    ∃ program block, conversion.program.Provides journal.threshold program ∧
      program.block index = .ok block ∧
        Wiring.Hazard (conversion.context block) journal.threshold
          { journal := journal.enter .info conversion.program.readingText } fault

/-- The faults of a run: of its announcement, and of the block behind it. -/
def Hazard (conversion : Conversion) (index : Json) (journal : Journal) (fault : Fault) : Prop :=
  conversion.AnnounceHazard index fault ∨
    ∃ announced, (conversion.announce index).Yields journal () announced ∧
      conversion.BlockHazard index announced fault

/-- The conversion that a run makes and tells of. -/
def attempt (conversion : Conversion) (index : Json) (journal : Journal) : Attempt (Block × Graph) :=
  ((do conversion.announce index; conversion.convertBlock index : Run Journal (Block × Graph)).perform
    journal).1

section
variable {conversion : Conversion} {index : Json} {journal next : Journal}

theorem faults_announce :
    (conversion.announce index).Faults journal (conversion.AnnounceHazard index) := by
  unfold announce
  have set : (modify fun journal : Journal => { journal with threshold := conversion.threshold } :
      Run Journal Unit).Yields journal () { journal with threshold := conversion.threshold } := rfl
  exact Faults.following set (Run.faults_attempt (Json.faults_text index) fun asked _ =>
    Journal.faults_report)

theorem faults_wire (block : Block) : (conversion.wire block).Faults journal
    (Wiring.Hazard (conversion.context block) journal.threshold { journal := journal }) :=
  Wiring.faults_resolve ((Wiring.laid_start 0).journal journal) rfl

theorem faults_convertBlock : (conversion.convertBlock index).Faults journal
    (conversion.BlockHazard index journal) := by
  unfold convertBlock
  refine ((ProgramStore.faults_readBlock index).bind fun block state _ =>
    (faults_wire block).before fun graph _ _ => faultless_pure _).congr fun fault => ?_
  simp only [ProgramStore.yields_readBlock, BlockHazard]
  refine or_congr_right ⟨?_, ?_⟩
  · rintro ⟨block, _, ⟨program, provided, found, rfl⟩, named⟩
    rw [Journal.threshold_enter] at named
    exact ⟨program, block, provided, found, named⟩
  · rintro ⟨program, block, provided, found, named⟩
    refine ⟨block, _, ⟨program, provided, found, rfl⟩, ?_⟩
    rwa [Journal.threshold_enter]

/-- A block that is announced, or a fault: no conversion error comes before the conversion. -/
theorem fault_of_announce {failure : Failure}
    (failed : ((conversion.announce index).perform journal).1 = .error failure) :
    ∃ fault, failure = .fault fault := by
  have result : ((conversion.announce index).perform journal).1 = index.text >>= fun asked =>
      ((Journal.report .info (conversion.announcedText asked)).perform
        { journal with threshold := conversion.threshold }).1 := by
    unfold announce
    rw [perform_bind]
    change ((Run.ofAttempt index.text >>= fun asked =>
      Journal.report .info (conversion.announcedText asked)).perform _).1 = _
    rw [perform_bind]
    cases index.text <;> rfl
  rw [result, Attempt.bind_eq_error] at failed
  -- Either the index has too many digits to be shown, or its text is taken for markup.
  rcases failed with failed | ⟨asked, _, failed⟩
  · unfold Json.text at failed
    split at failed
    · cases failed
    · split at failed
      · cases failed
      · cases failed
        exact ⟨_, rfl⟩
  · rw [Journal.perform_report] at failed
    dsimp only at failed
    split at failed
    · cases read : Markup.read (Severity.info.mark ++ conversion.announcedText asked) with
      | ok marked => simp [read, Except.mapError, Bind.bind, Except.bind] at failed
      | error defect =>
        simp only [read, Except.mapError, Bind.bind, Except.bind, Except.error.injEq] at failed
        exact ⟨_, failed.symm⟩
    · cases failed

/-- The outcome that a captured conversion is concluded with. -/
def outcomeOf : Except ConversionError (Block × Graph) → Outcome
  | .ok (_, graph) => .converted graph
  | .error error => .failed error

/-- Concluding never fails: the words about an error are escaped. -/
theorem conclude_yields (result : Except ConversionError (Block × Graph)) (journal : Journal) :
    ∃ after, (conclude result).Yields journal (outcomeOf result) after := by
  have reported : ∀ (severity : Severity) (line : String) (outcome : Outcome),
      severity.Shows journal.threshold line → (do
        Journal.report severity line
        return outcome : Run Journal Outcome).Yields journal outcome (journal.enter severity line) := by
    intro severity line outcome shows
    exact yields_bind.mpr ⟨(), _, Journal.yields_report.mpr ⟨shows, rfl⟩, yields_pure.mpr ⟨rfl, rfl⟩⟩
  cases result with
  | ok converted =>
    obtain ⟨block, graph⟩ := converted
    -- The counts are digits, which open no tag.
    have bare : '[' ∉ (Severity.success.mark ++ ("Converted " ++ toString block.operators.length ++
        " operators into " ++ toString graph.size ++ " nodes")).toList := by
      simp only [String.toList_append, List.mem_append, not_or]
      exact ⟨by decide, ⟨⟨⟨by decide, Markup.no_bracket_natural _⟩, by decide⟩,
        Markup.no_bracket_natural _⟩, by decide⟩
    exact ⟨_, reported _ _ _ (Severity.shows_tagless (Markup.tagless_of_no_bracket bare) _)⟩
  | error error =>
    -- What stands before the words about the error opens no tag either, and the words themselves are escaped.
    have plain : ((Severity.error.mark ++ ("Conversion failed (" ++ error.kind.text ++ "): ")).toList.all
        fun c => c ≠ '[' ∧ c ≠ '\\') = true := by
      cases error.kind <;> decide
    refine ⟨_, reported _ _ _ fun _ => ?_⟩
    rw [← String.append_assoc]
    exact Markup.read_escape (fun c member => of_decide_eq_true (List.all_eq_true.mp plain c member)) _

theorem perform_capture {σ α : Type} (run : Run σ α) (state : σ) : (capture run).perform state =
    match run.perform state with
    | (.ok value, after) => (.ok (.ok value), after)
    | (.error (.conversion error), after) => (.ok (.error error), after)
    | (.error failure, after) => (.error failure, after) := rfl

/-- A run ends as its conversion does, a conversion error turned into an outcome. -/
theorem result_of_run (conversion : Conversion) (index : Option Json) (journal : Journal) :
    ((conversion.run index).perform journal).1 =
      match conversion.attempt (index.getD (.int conversion.settings.blockIndex)) journal with
      | .ok converted => .ok (outcomeOf (.ok converted))
      | .error (.conversion error) => .ok (outcomeOf (.error error))
      | .error failure => .error failure := by
  unfold run attempt
  dsimp only
  generalize index.getD (.int conversion.settings.blockIndex) = asked
  rw [perform_bind, perform_bind]
  cases opened : (conversion.announce asked).perform journal with
  | mk result announced =>
    cases result with
    | error failure =>
      -- The line that announces a block comes before the errors are captured, but it meets no conversion error.
      obtain ⟨fault, rfl⟩ := fault_of_announce (congrArg Prod.fst opened)
      rfl
    | ok _ =>
      dsimp only
      rw [perform_bind, perform_capture]
      generalize (conversion.convertBlock asked).perform announced = performed
      obtain ⟨converted, state⟩ := performed
      have concluded : ∀ result, ((conclude result).perform state).1 = .ok (outcomeOf result) := by
        intro result
        obtain ⟨_, yields⟩ := conclude_yields result state
        exact congrArg Prod.fst yields
      cases converted with
      | ok converted => exact concluded (.ok converted)
      | error failure =>
        cases failure with
        | conversion error => exact concluded (.error error)
        | fault found => rfl
        | refused issues => rfl

theorem faults_attempt : (conversion.attempt index journal).Faults (conversion.Hazard index journal) :=
  Run.Faults.followed faults_announce fun _ _ => faults_convertBlock

/-- A run fails exactly with the faults that its hazard names, so it comes to an outcome exactly if there
are none; and then the outcome tells how the conversion ended. -/
theorem outcome_of_run (conversion : Conversion) (index : Option Json) (journal : Journal) :
    let asked := index.getD (.int conversion.settings.blockIndex)
    let result := ((conversion.run index).perform journal).1
    (∀ failure, result = .error failure ↔
      ∃ fault, failure = .fault fault ∧ conversion.Hazard asked journal fault) ∧
    ((∃ outcome, result = .ok outcome) ↔ ∀ fault, ¬ conversion.Hazard asked journal fault) ∧
    ∀ outcome, result = .ok outcome → outcome.Tells (conversion.attempt asked journal) := by
  dsimp only
  rw [result_of_run]
  generalize index.getD (.int conversion.settings.blockIndex) = asked
  have faults : (conversion.attempt asked journal).Faults (conversion.Hazard asked journal) :=
    faults_attempt
  -- What is left is about the attempt alone: it succeeds, stops with a conversion error, or faults.
  simp only [← faults.iff]
  cases attempted : conversion.attempt asked journal with
  | ok converted =>
    refine ⟨fun failure => by simp, by simp, fun outcome same => ?_⟩
    obtain rfl := Except.ok.inj same
    exact ⟨rfl, rfl, rfl⟩
  | error failure =>
    have meets := faults.meets failure attempted
    cases failure with
    | conversion error =>
      refine ⟨fun failure => by simp, by simp, fun outcome same => ?_⟩
      obtain rfl := Except.ok.inj same
      exact ⟨rfl, rfl, rfl, rfl, rfl, rfl⟩
    | fault found => exact ⟨fun failure => by simp [eq_comm], by simp, by simp⟩
    | refused issues => exact meets.elim

end

/-- A directory whose name closes a tag that nobody opened, which is quoted before anything is read. -/
def bracketed : Conversion := ⟨{ directory := ⟨"/", ["m[/x]"]⟩ }, FileTree.empty⟩

theorem no_outcome_bracketed : ¬ ∃ outcome, ((bracketed.run).perform {}).1 = .ok outcome := by
  intro ended
  have unread : Markup.read (Severity.info.mark ++ bracketed.announcedText "0") =
      .error (.unopened ⟨"/x", none⟩ 33) := by rfl
  have hazard : bracketed.Hazard (.int 0) {} (.markup (.unopened ⟨"/x", none⟩ 33)) :=
    .inl (.inr ⟨"0", rfl, by decide, _, unread, rfl⟩)
  exact (bracketed.outcome_of_run none {}).2.1.mp ended _ hazard

end Conversion

end LayerGraph
