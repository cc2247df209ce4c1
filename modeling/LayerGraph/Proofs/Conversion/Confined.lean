import LayerGraph.Conversion.Basic
import LayerGraph.Proofs.Files.Inside
import LayerGraph.Proofs.Files.Path
import LayerGraph.Proofs.Wiring.Consulted

/-! Payloads inside and outside of the model directory.

A payload is looked for under the name of its variable, joined to the model directory, and nothing confines it there. So the
names decide: as long as none of those that are consulted leads out, what stands outside makes no difference.
-/

set_option autoImplicit false

namespace LayerGraph

/-- Files are acted on through some paths only: what the others lead to makes no difference. -/
def FileTree.Through {α : Type} (paths : Path → Prop) (act : FileTree → α) : Prop :=
  ∀ files other : FileTree, (∀ path, paths path → files.find path = other.find path) → act files = act other

namespace Conversion

/-- A conversion under settings wires a block of a directory. -/
def wireIn (settings : Settings) (block : Block) (files : FileTree) : Run Journal Graph :=
  (⟨settings, files⟩ : Conversion).wire block

variable {settings : Settings} {block : Block}

/-- The paths at which payloads are looked for. -/
def Consulted (directory : Path) (block : Block) (path : Path) : Prop :=
  ∃ name, block.Consults name ∧ path = directory.join name

theorem through_consulted : FileTree.Through (Consulted settings.directory block) (wireIn settings block) := by
  intro files other same
  funext journal
  let context : Context := (⟨settings, files⟩ : Conversion).context block
  have agrees : ∀ name, context.block.Consults name → context.Agrees other name :=
    fun name consults => (same _ ⟨name, consults, rfl⟩).symm
  have laid : ({ journal := journal } : Wiring).Laid [] := (Wiring.laid_start 20).journal journal
  have alike := Wiring.perform_resolve_over laid rfl agrees
  exact congrArg (fun performed => (performed.1, performed.2.journal)) alike.symm

/-- A block is wired through the paths of the variables that it consults, wherever they lead. If their names lead out of no
directory, it is wired through paths inside of the model directory; and those names are the relative ones in which double
dots never outnumber the components before them. -/
theorem wire_confined (settings : Settings) (block : Block) :
    FileTree.Through (Consulted settings.directory block) (wireIn settings block) ∧
    ((∀ name, block.Consults name → Path.Bounded name) →
      FileTree.Through (Path.Inside settings.directory) (wireIn settings block)) ∧
    ∀ name, Path.Bounded name ↔ ∀ directory, Path.Inside directory (directory.join name) := by
  refine ⟨through_consulted, fun bounded files other same => ?_, fun name => Path.bounded_iff⟩
  apply through_consulted
  rintro path ⟨name, consults, rfl⟩
  exact same _ (Path.inside_of_bounded (bounded name consults) _)

/-- A block with a constant that is stored beside the model directory. -/
def climbing : Block where
  declarations := [{ name := "../w", shape := [2], persistable := true }]
  operators := [⟨"relu", [("X", ["../w"])], [("Out", ["y"])], []⟩]

/-- The model directory, with a file beside it. -/
def beside (content : Bytes) : FileTree := ⟨[(["m"], .directory), (["w"], .file content)]⟩

def plain : Settings := { directory := ⟨"/", ["m"]⟩ }

def climbingContext (content : Bytes) : Context := (⟨plain, beside content⟩ : Conversion).context climbing

/-- Why a payload of one byte or none is refused. -/
def cutOffFailure (content : Bytes) : Failure :=
  .conversion ⟨.payload (.truncated .version 4 0 content.length), none, some "../w"⟩

def reluLeft : Wiring where
  graph := { nodes := [⟨.relu, [⟨"input", [2], none⟩], [⟨"output", [2], []⟩]⟩] }
  pending := [(⟨0, 0⟩, ("../w", 0))]
  produced := [("y", [(0, ⟨0, 0⟩)])]

theorem lowerAll_climbing (content : Bytes) :
    (Wiring.lowerAll (climbingContext content)).perform {} = (.ok (), reluLeft) := by
  cbv

theorem join_climbing : plain.directory.join "../w" = ⟨"/", ["m", "..", "w"]⟩ := by
  have relative : Path.ofText "../w" = ⟨"", ["..", "w"]⟩ := by
    rw [Path.ofText, splitOn_slash]
    decide +kernel
  rw [Path.join, relative]
  rfl

theorem read_climbing (content : Bytes) :
    (climbingContext content).tensors.files.read ((climbingContext content).tensors.path "../w") = .ok content := by
  have path : (climbingContext content).tensors.path "../w" = ⟨"/", ["m", "..", "w"]⟩ := join_climbing
  rw [path]
  rfl

theorem contains_climbing (content : Bytes) : (climbingContext content).tensors.contains "../w" = .ok true := by
  unfold PayloadStore.contains
  rw [FileTree.isFile_eq_true.mpr ⟨content, read_climbing content⟩]
  rfl

/-- The payload is refused before its element type is looked at. -/
theorem loadOrZeros_climbing {content : Bytes} (short : content ∈ [[], [0]]) :
    (climbingContext content).loadOrZeros "../w" = .error (cutOffFailure content) := by
  have shape : (climbingContext content).shape "../w" = .ok [2] := by cbv
  have type : (climbingContext content).elementType "../w" = .ok "float32" := by cbv
  unfold Context.loadOrZeros PayloadStore.loadOrZeros PayloadStore.loadDeclaredOrZeros PayloadStore.loadDeclared
  rw [shape, type, contains_climbing, read_climbing]
  simp only [List.mem_cons, List.not_mem_nil, or_false] at short
  rcases short with rfl | rfl <;> rfl

theorem synthesize_climbing {content : Bytes} (short : content ∈ [[], [0]]) :
    (Wiring.synthesize (climbingContext content) "../w").perform reluLeft = (.error (cutOffFailure content), reluLeft) := by
  unfold Wiring.synthesize Wiring.makeConstant
  rw [contains_climbing, loadOrZeros_climbing short]
  rfl

theorem wireIn_climbing {content : Bytes} (short : content ∈ [[], [0]]) :
    ((wireIn plain climbing (beside content)).perform {}).1 = .error (cutOffFailure content) := by
  have waits : reluLeft.pending = [(⟨0, 0⟩, ("../w", 0))] := rfl
  have unsupplied : reluLeft.writer? "../w" (0 : Nat) = none := rfl
  have binds : (Wiring.bindPending (climbingContext content)).perform reluLeft =
      (.error (cutOffFailure content), reluLeft) := by
    rw [Wiring.bindPending_eq, Run.perform_get_bind, waits, Wiring.bindEach, Run.each_cons, Run.perform_bind]
    unfold Wiring.bindOne
    rw [Run.perform_get_bind, unsupplied]
    dsimp only
    rw [Run.perform_bind, synthesize_climbing short]
  have resolved : (Wiring.resolve (climbingContext content)).perform {} = (.error (cutOffFailure content), reluLeft) := by
    rw [Wiring.perform_resolve rfl, Wiring.passes, Run.perform_bind, lowerAll_climbing]
    dsimp only
    rw [Run.perform_bind, binds]
  exact congrArg Prod.fst resolved

/-- Files beside the model directory are not found inside of it. -/
theorem find_beside {path : Path} (inside : Path.Inside plain.directory path) (content changed : Bytes) :
    (beside content).find path = (beside changed).find path := by
  obtain ⟨root, rest, _, same⟩ := inside
  have top : path.root ≠ "" := by
    rw [root]
    decide
  rw [Path.normal_eq_resolve top] at same
  apply FileTree.find_congr
  apply FileTree.walk_congr_of_ne ["w"]
  · intro location other
    simp [beside, FileTree.get?, List.lookup, beq_false_of_ne other]
  · rfl
  · rfl
  · intro beside
    have first : path.resolve.parts = ["w"] := beside
    rw [same] at first
    have here : plain.directory.normal = ["m"] := rfl
    simp [here] at first

/-- What stands beside the model directory makes a difference for a name that climbs. -/
theorem not_through_inside : ¬ FileTree.Through (Path.Inside plain.directory) (wireIn plain climbing) := by
  intro confined
  -- The payloads are cut short at different places, which the refusals tell.
  have same := confined (beside []) (beside [0]) fun path inside => find_beside inside [] [0]
  have results := congrArg (fun run : Run Journal Graph => (run.perform {}).1) same
  rw [wireIn_climbing (by decide), wireIn_climbing (by decide)] at results
  exact absurd results (by decide)

/-- A block with a constant that is stored in the model directory. -/
def level : Block where
  declarations := [{ name := "w", shape := [2], persistable := true }]
  operators := [⟨"relu", [("X", ["w"])], [("Out", ["y"])], []⟩]

theorem consults_level {name : String} (consults : level.Consults name) : name = "w" := by
  rcases consults with (⟨op, member, feeds, _⟩ | made) | ⟨op, member, weight⟩
  · obtain rfl := List.mem_singleton.mp member
    exact absurd feeds (by decide)
  · have listed : level.sourceless = ["w"] := by decide
    rw [listed] at made
    exact List.mem_singleton.mp made
  · obtain rfl := List.mem_singleton.mp member
    have none : (⟨"relu", [("X", ["w"])], [("Out", ["y"])], []⟩ : Operator).weights = [] := by decide
    rw [none] at weight
    cases weight

/-- It makes none for a name that does not. -/
theorem wireIn_level : wireIn plain level (beside []) = wireIn plain level (beside [0]) := by
  have bounded : Path.Bounded "w" := by
    have named : Path.ofText "w" = ⟨"", ["w"]⟩ := Path.ofText_bare (by decide) (by decide)
    rw [Path.Bounded, named]
    exact ⟨rfl, (Path.level_cons_other (by decide)).mpr (Path.level_nil 1)⟩
  obtain ⟨_, confined, _⟩ := wire_confined plain level
  apply confined
  · intro name consults
    rw [consults_level consults]
    exact bounded
  · exact fun path inside => find_beside inside [] [0]

end Conversion

end LayerGraph
