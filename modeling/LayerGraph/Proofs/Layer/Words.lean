import LayerGraph.Proofs.Failure.Run
import LayerGraph.Proofs.Text.Numerals

/-! Refusals of a layer in words.

What is wrong with a layer is told with the integers that are concerned. The words can be shown exactly when each of
these integers can be, and then the refusal is an error about the connection of ports.
-/

set_option autoImplicit false

namespace LayerGraph

open Text

theorem LayerKind.words_name (kind : LayerKind) : Words kind.name := by
  cases kind <;> decide

namespace LayerDefect

/-- The integers that the words about a defect hold. -/
def integers : LayerDefect → List Int
  | .rank _ expected shape => expected :: shape
  | .rankAtLeast _ least shape => least :: shape
  | .weightsRank _ shape => shape
  | .inputChannels _ expected found => [expected, found]
  | .coverChannels _ filters channels => [filters, channels]
  | .window kernel stride extent => [kernel, stride, extent]
  | .alignment b a axis => b ++ a ++ [axis]
  | .broadcast a b => a ++ b
  | .statisticsDiffer _ sizes => sizes.map Int.ofNat
  | .statisticsCount _ size channels => [(size : Int), channels]
  | .copiedExtent position input => (position : Int) :: input ++ [(input.length : Int)]
  | .targetExtent extent => [extent]
  | .severalUnknown target => target
  | .elementCount input target => input ++ target
  | .block padded size => [padded, size]

/-- No integer of the words about a defect is too long to be shown. -/
def Short (defect : LayerDefect) : Prop := ∀ n ∈ defect.integers, showsInteger n = true

/-- Words about a layer are shown exactly when their integers are. -/
theorem showsNumerals_message (defect : LayerDefect) : showsNumerals defect.message = true ↔ defect.Short := by
  have natural : ∀ n : Nat, toString n = toString (n : Int) := fun _ => rfl
  unfold Short
  rw [← List.all_eq_true]
  suffices same : showsNumerals defect.message = defect.integers.all showsInteger by rw [same]
  unfold message integers
  cases defect <;>
    simp (disch := first | exact LayerKind.words_name _ | decide) only [Shape.text, natural, String.append_assoc,
      showsNumerals_words, showsNumerals_integers, showsNumerals_integer_words, showsNumerals_toString,
      showsNumerals_integers_alone, List.all_cons, List.all_append, List.all_nil, Bool.and_true, Bool.and_assoc]
  all_goals simp (disch := decide) only [showsNumerals_integer, showsNumerals_of_words, Bool.and_true]

end LayerDefect

namespace Attempt

variable {α β : Type} {among : Int → Prop} {attempt : Attempt α} {next : α → Attempt β}

/-- An attempt fails with an error about the connection of ports. -/
def Disconnects (attempt : Attempt α) : Prop :=
  ∃ error, attempt = .error (.conversion error) ∧ error.errorClass = .portConnection

theorem disconnects_layer {defect : LayerDefect} (short : defect.Short) : (layer defect : Attempt α).Disconnects :=
  ⟨⟨.layer defect, none, none⟩, if_pos (LayerDefect.showsNumerals_message defect |>.mpr short), rfl⟩

/-- A refusal ends whatever it stands in front of. -/
theorem layer_bind (defect : LayerDefect) (next : α → Attempt β) :
    (layer defect : Attempt α) >>= next = layer defect := by
  unfold layer
  split <;> rfl

/-- An attempt yields a value, or it is refused in words with certain integers. -/
inductive Answers (among : Int → Prop) : Attempt α → Prop
  | ok (value : α) : Answers among (.ok value)
  | layer (defect : LayerDefect) (members : ∀ n ∈ defect.integers, among n) : Answers among (layer defect)

theorem Answers.bind (first : attempt.Answers among)
    (rest : ∀ value, attempt = .ok value → (next value).Answers among) : (attempt >>= next).Answers among := by
  cases first with
  | ok value => exact rest value rfl
  | layer defect members =>
    rw [layer_bind]
    exact .layer defect members

theorem Answers.ite {condition : Prop} [Decidable condition] {first second : Attempt α}
    (holds : condition → first.Answers among) (fails : ¬ condition → second.Answers among) :
    Answers among (if condition then first else second) := by
  split
  · next met => exact holds met
  · next unmet => exact fails unmet

/-- What does not yield a value is refused. -/
theorem Answers.refused (answers : attempt.Answers among) (none : ∀ value, attempt ≠ .ok value) :
    ∃ defect : LayerDefect, (∀ n ∈ defect.integers, among n) ∧ attempt = Attempt.layer defect := by
  cases answers with
  | ok value => exact absurd rfl (none value)
  | layer defect members => exact ⟨defect, members, rfl⟩

/-- What does not yield a value, and is told with short integers, is an error. -/
theorem Answers.disconnects (answers : attempt.Answers fun n => showsInteger n = true)
    (none : ∀ value, attempt ≠ .ok value) : attempt.Disconnects := by
  obtain ⟨defect, short, refused⟩ := answers.refused none
  exact refused ▸ disconnects_layer short

end Attempt

/-- The extents and the rank of a shape are short enough to be shown. -/
def Shape.Shown (shape : Shape) : Prop :=
  showsInteger shape.length = true ∧ ∀ extent ∈ shape, showsInteger extent = true

end LayerGraph
