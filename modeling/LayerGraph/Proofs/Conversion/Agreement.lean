import LayerGraph.Proofs.Conversion.Script
import LayerGraph.Proofs.Files.Path
import LayerGraph.Proofs.Settings.Load

/-! A plain conversion and a run agree.

Both read a block of the same program under the same settings and wire it from the same start, so one gives the graph or
fails and the other tells of it. What they do not share is the default of the block: a plain conversion takes the first
one, whatever the settings file says, and a run takes that of the settings. Lines may stop either: a run announces its
block, and it reports under the threshold of the settings.
-/

set_option autoImplicit false

namespace LayerGraph

open Run

/-- The outcome that tells of an attempt at a graph: a conversion error is one, and what else fails is none. -/
def Outcome.ofAttempt : Attempt Graph → Attempt Outcome
  | .ok graph => .ok (.converted graph)
  | .error (.conversion error) => .ok (.failed error)
  | .error failure => .error failure

namespace Conversion

section
variable (conversion : Conversion)

end

/-- A plain conversion and a run agree, whatever was reported before: the run comes to the outcome that tells of the
conversion, unless a line stops one of the two. The threshold is that of the run. -/
def Agree (converted : Run Journal Graph) (ran : Run Journal Outcome) (threshold : Int) : Prop :=
  ∃ lines : List Line, ∀ journal other,
    (ran.perform other).1 = Outcome.ofAttempt (converted.perform journal).1 ∨
    (∃ line ∈ lines, ∃ fault, line.Stops journal.threshold fault ∧
      (converted.perform journal).1 = .error (.fault fault)) ∨
    ∃ line ∈ lines, ∃ fault, line.Stops threshold fault ∧ (ran.perform other).1 = .error (.fault fault)

section
variable {files : FileTree} {directory : Path} {conversion : Conversion}

end

/-- The top of a file system, as a model directory. -/
def top : Path := ⟨"/", []⟩

end Conversion

end LayerGraph
