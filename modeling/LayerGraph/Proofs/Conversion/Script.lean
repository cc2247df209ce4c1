import LayerGraph.Proofs.Conversion.Outcome
import LayerGraph.Proofs.Wiring.Turns

/-! What a conversion reports does not decide how it ends.

Reading a program and wiring a block follow a script from every journal. So two thresholds lead to the same program and
to the same graph or conversion error, unless a line stops one of the two: lines quote names as they stand, and so a
name can be markup that cannot be read, and an integer can be too long to be shown.
-/

set_option autoImplicit false

namespace LayerGraph

open Run

/-- Wiring a block that is not wired yet has a script. -/
theorem Wiring.scripted_resolve (context : Context) (wiring : Wiring) (unfinished : wiring.finished = false) :
    Scripted withJournal (resolve context) wiring := by
  let finish : Run Wiring Graph := fun state => (.ok state.graph, { state with finished := true })
  have whole : Scripted withJournal (passes context >>= fun _ => finish) wiring :=
    ((composed_passes context).scripted wiring).bind fun _ left =>
      ⟨⟨[], .ok left.graph, { left with finished := true }⟩, follows_silent fun journal => rfl⟩
  obtain ⟨script, follows⟩ := whole
  refine ⟨script, fun journal => ?_⟩
  have same : (resolve context).perform (wiring.withJournal journal) =
      (passes context >>= fun _ => finish).perform (wiring.withJournal journal) := by
    have begun : (wiring.withJournal journal).finished = false := unfinished
    rw [perform_resolve begun, perform_bind]
    rcases (passes context).perform (wiring.withJournal journal) with ⟨_ | _, _⟩ <;> rfl
  rw [same]
  exact follows journal

/-- Wiring a block from the start ends as its script does, whatever was reported before. -/
theorem Wiring.exists_script (context : Context) : ∃ script : Script Wiring Graph,
    ∀ journal : Journal, ((resolve context).perform { journal := journal }).1 = script.ending journal.threshold := by
  obtain ⟨script, follows⟩ := scripted_resolve context {} rfl
  exact ⟨script, follows.ending⟩

/-- A script governs what ends under each threshold, so that two thresholds agree unless a line stops one of them. -/
structure Script.Governs {ρ α : Type} (script : Script ρ α) (ended : Int → Attempt α) : Prop where
  ending : ∀ threshold, ended threshold = script.ending threshold
  agree : ∀ one other, ended one = ended other ∨ script.Stopped one ∨ script.Stopped other

theorem Script.governs_ending {ρ α : Type} (script : Script ρ α) : script.Governs script.ending where
  ending _ := rfl
  agree one other := by
    rcases script.ending_or_stopped one with same | stopped
    · rcases script.ending_or_stopped other with alike | stopped
      · exact .inl (same.trans alike.symm)
      · exact .inr (.inr stopped)
    · exact .inr (.inl stopped)

end LayerGraph
