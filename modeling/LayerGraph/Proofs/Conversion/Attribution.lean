import LayerGraph.Proofs.Conversion.Script
import LayerGraph.Proofs.Lowering.Errors
import LayerGraph.Proofs.Wiring.Wirable

/-! What a failure is attributed to.

Lowering a block fails as the first of its operators that fails on its own, and then the whole fails so. Only a line
about a layer whose integers cannot be shown may come first, where such lines are kept. A run tells of the conversion
of a block whatever was reported before: under another threshold, a line may fail instead.
-/

set_option autoImplicit false

namespace LayerGraph

open Run

namespace Wiring

/-- Wiring a block ends the same way with every journal, unless the thresholds differ and a line fails under one. -/
theorem resolve_blind (context : Context) (level : Int) (journal : Journal) :
    let result := ((resolve context).perform { journal := journal }).1
    result = context.resolve level ∨ level ≠ journal.threshold ∧ (Broken result ∨ Broken (context.resolve level)) := by
  obtain ⟨script, ends⟩ := exists_script context
  have level_ends : context.resolve level = script.ending level := ends { threshold := level }
  dsimp only
  rw [ends, level_ends]
  by_cases same : level = journal.threshold
  · exact .inl (by rw [same])
  · refine (script.governs_ending.agree journal.threshold level).imp_right fun stopped => ⟨same, ?_⟩
    have breaks : ∀ threshold, script.Stopped threshold → Broken (script.ending threshold) := by
      rintro threshold ⟨line, _, fault, stops, failed⟩
      exact ⟨fault, failed, stops.kind⟩
    exact stopped.imp (breaks _) (breaks _)

end Wiring

/-- An operator is lowered, but a line about one of its layers is kept and cannot be shown. -/
def Context.Hides (context : Context) (threshold : Int) (number : Nat) (op : Operator) : Prop :=
  ∃ fragment, op.lower context = .ok fragment ∧ threshold ≤ Severity.debug.number ∧
    ∃ layer ∈ fragment.layers, Text.showsNumerals (Wiring.loweredText number op layer) = false

/-- The turn of an operator fails as its lowering, or for a line about one of its layers. -/
theorem Operator.turn_eq_error {op : Operator} {context : Context} {threshold : Int} {number : Nat} {failure : Failure} :
    op.turn context threshold number = .error failure ↔
      op.lower context = .error failure ∨ context.Hides threshold number op ∧ failure = .fault .shownInteger := by
  unfold turn Context.Hides
  rw [Attempt.bind_eq_error]
  refine or_congr_right ?_
  constructor
  · rintro ⟨fragment, lowered, failed⟩
    split at failed
    · next hidden =>
      cases failed
      exact ⟨⟨fragment, lowered, hidden⟩, rfl⟩
    · cases failed
  · rintro ⟨⟨fragment, lowered, hidden⟩, rfl⟩
    exact ⟨fragment, lowered, if_pos hidden⟩

namespace Conversion

/-- A run comes to wire a block: its own first lines are shown, and the block is read. -/
def Reaches (conversion : Conversion) (index : Json) (journal : Journal) (block : Block) (reached : Journal) : Prop :=
  ∃ announced, (conversion.announce index).Yields journal () announced ∧
    (conversion.program.readBlock index).Yields announced block reached

variable {conversion : Conversion} {index : Json} {journal reached : Journal} {block : Block}

/-- The threshold of the settings is in force when a block is wired. -/
theorem Reaches.threshold (reaches : conversion.Reaches index journal block reached) :
    reached.threshold = conversion.threshold := by
  obtain ⟨announced, opened, read⟩ := reaches
  have set : announced.threshold = conversion.threshold := by
    unfold announce at opened
    obtain ⟨_, state, begun, opened⟩ := yields_bind.mp opened
    obtain ⟨asked, _, shown, opened⟩ := yields_bind.mp opened
    obtain ⟨_, rfl⟩ := yields_ofAttempt.mp shown
    obtain ⟨_, rfl⟩ := Journal.yields_report.mp opened
    rw [Journal.threshold_enter]
    cases begun
    rfl
  obtain ⟨_, _, _, rfl⟩ := ProgramStore.yields_readBlock.mp read
  rw [Journal.threshold_enter, set]

/-- A run that comes to wire a block ends as the block is wired. -/
theorem Reaches.attempt (reaches : conversion.Reaches index journal block reached) :
    conversion.attempt index journal =
      (((Wiring.resolve (conversion.context block)).perform { journal := reached }).1).map fun graph => (block, graph) := by
  obtain ⟨announced, opened, read⟩ := reaches
  unfold Conversion.attempt
  rw [perform_bind, opened]
  dsimp only
  unfold convertBlock
  rw [perform_bind, read]
  dsimp only
  rw [perform_bind]
  have wired : (conversion.wire block).perform reached =
      (((Wiring.resolve (conversion.context block)).perform { journal := reached }).1,
        ((Wiring.resolve (conversion.context block)).perform { journal := reached }).2.journal) := rfl
  rw [wired]
  cases ((Wiring.resolve (conversion.context block)).perform { journal := reached }).1 <;> rfl

end Conversion

/-- What the failures of wiring a block are attributed to. -/
structure Context.Attributed (context : Context) (threshold : Int) : Prop where
  /-- Lowering fails as the first operator whose turn fails: on its own, or for a line that is kept. -/
  lowering : ∀ failure, ((Wiring.lowerAll context).perform (Wiring.start threshold)).1 = .error failure ↔
    ∃ front op back, context.block.operators = front ++ op :: back ∧
      (∀ entry ∈ front.zipIdx, context.Lowers threshold entry.2 entry.1) ∧
        (op.lower context = .error failure ∨
          context.Hides threshold front.length op ∧ failure = .fault .shownInteger)
  /-- Where lines about layers are not kept, lowering fails as the first operator that fails on its own. -/
  quiet : Severity.debug.number < threshold →
    ∀ failure, ((Wiring.lowerAll context).perform (Wiring.start threshold)).1 = .error failure ↔
      ∃ front op back, context.block.operators = front ++ op :: back ∧
        (∀ other ∈ front, ∃ fragment, other.lower context = .ok fragment) ∧ op.lower context = .error failure
  /-- A failure of lowering is that of the whole. -/
  whole : ∀ failure, ((Wiring.lowerAll context).perform (Wiring.start threshold)).1 = .error failure →
    context.resolve threshold = .error failure
  /-- A conversion error of an operator names its tag. -/
  named : ∀ (op : Operator) (error : ConversionError), op.lower context = .error (.conversion error) → error.operator = some op.tag
  /-- A run tells how the block is wired, if the lines that it reports are shown. -/
  told : ∀ (conversion : Conversion) (index : Option Json) (journal reached : Journal),
    conversion.context context.block = context →
    conversion.Reaches (index.getD (.int conversion.settings.blockIndex)) journal context.block reached →
    (∀ fault, context.resolve threshold ≠ .error (.fault fault)) →
      threshold ≠ conversion.threshold ∧ Wiring.Broken ((conversion.run index).perform journal).1 ∨
        ∃ outcome, ((conversion.run index).perform journal).1 = .ok outcome ∧
          outcome.Tells ((context.resolve threshold).map fun graph => (context.block, graph))

theorem Context.lowerAll_eq_error (context : Context) (threshold : Int) (failure : Failure) :
    ((Wiring.lowerAll context).perform (Wiring.start threshold)).1 = .error failure ↔
      ∃ front op back, context.block.operators = front ++ op :: back ∧
        (∀ entry ∈ front.zipIdx, context.Lowers threshold entry.2 entry.1) ∧
          (op.lower context = .error failure ∨
            context.Hides threshold front.length op ∧ failure = .fault .shownInteger) := by
  rw [Wiring.result_lowerAll, Context.lowering, Attempt.forM_eq_error]
  constructor
  · rintro ⟨done, ⟨op, number⟩, rest, split, earlier, failed⟩
    obtain ⟨front, back, whole, rfl, rfl, _⟩ := Wiring.zipIdx_eq_append_cons.mp split
    exact ⟨front, op, back, whole, fun entry member => Operator.turn_eq_ok.mp (earlier entry member),
      Operator.turn_eq_error.mp failed⟩
  · rintro ⟨front, op, back, whole, earlier, failed⟩
    exact ⟨front.zipIdx, (op, front.length), _, Wiring.zipIdx_eq_append_cons.mpr ⟨front, back, whole, rfl, rfl, rfl⟩,
      fun entry member => Operator.turn_eq_ok.mpr (earlier entry member), Operator.turn_eq_error.mpr failed⟩

theorem Context.all_lower_iff {context : Context} {threshold : Int} (quiet : Severity.debug.number < threshold)
    (front : List Operator) : (∀ entry ∈ front.zipIdx, context.Lowers threshold entry.2 entry.1) ↔
      ∀ other ∈ front, ∃ fragment, other.lower context = .ok fragment := by
  simp only [Context.lowers_iff quiet]
  constructor
  · intro all other member
    obtain ⟨number, here⟩ := List.mem_iff_getElem?.mp member
    exact all (other, number) (List.mem_zipIdx_iff_getElem?.mpr here)
  · exact fun all entry member => all entry.1 (List.fst_mem_of_mem_zipIdx member)

/-- A run that comes to wire a block tells how the block is wired, or breaks off at a line. -/
theorem Conversion.Reaches.told {conversion : Conversion} {index : Option Json} {journal reached : Journal}
    {block : Block} {threshold : Int}
    (reaches : conversion.Reaches (index.getD (.int conversion.settings.blockIndex)) journal block reached)
    (sound : ∀ fault, (conversion.context block).resolve threshold ≠ .error (.fault fault)) :
    threshold ≠ conversion.threshold ∧ Wiring.Broken ((conversion.run index).perform journal).1 ∨
      ∃ outcome, ((conversion.run index).perform journal).1 = .ok outcome ∧
        outcome.Tells (((conversion.context block).resolve threshold).map fun graph => (block, graph)) := by
  rw [Conversion.result_of_run, reaches.attempt]
  rcases Wiring.resolve_blind (conversion.context block) threshold reached with alike | ⟨differ, broken⟩
  · rw [alike]
    refine .inr ?_
    cases wired : (conversion.context block).resolve threshold with
    | ok graph => exact ⟨.converted graph, rfl, rfl, rfl, rfl⟩
    | error failure =>
      cases failure with
      | conversion error => exact ⟨.failed error, rfl, rfl, rfl, rfl, rfl, rfl, rfl⟩
      | fault found => exact absurd wired (sound found)
      | refused issues =>
        -- A program is refused when it is read, so no wiring ends that way.
        have faults : ((conversion.context block).resolve threshold).Faults _ :=
          Wiring.faults_resolve (Wiring.laid_start threshold) rfl
        exact (faults.meets _ wired).elim
  · refine .inl ⟨reaches.threshold ▸ differ, ?_⟩
    rcases broken with ⟨fault, broken, line⟩ | ⟨fault, broken, _⟩
    · rw [broken]
      exact ⟨fault, rfl, line⟩
    · exact absurd broken (sound fault)

theorem Context.attributed (context : Context) (threshold : Int) : context.Attributed threshold where
  lowering := context.lowerAll_eq_error threshold
  quiet quiet failure := by
    rw [lowerAll_eq_error]
    refine exists_congr fun front => exists_congr fun op => exists_congr fun back => and_congr_right fun _ =>
      and_congr (all_lower_iff quiet front) ?_
    exact or_iff_left fun ⟨⟨_, _, kept, _⟩, _⟩ => absurd kept (Int.not_le.mpr quiet)
  whole failure failed := by
    rw [Wiring.result_lowerAll] at failed
    exact Wiring.resolve_of_lowering rfl failed
  named _ error failed := (Operator.errs_lower error failed).1
  told conversion index journal reached same reaches sound := by
    rw [← same] at sound ⊢
    exact reaches.told sound

end LayerGraph
