import LayerGraph.Proofs.Wiring.Turns

/-! Wiring a block again after a failure.

A failure keeps what the passes have done, and the next attempt starts from there: a wiring serves one conversion. So
layers that are left behind are wired once more, next to those of the operators that are lowered again. What is the
same as from the start is what comes before that: the failure of an operator that cannot be lowered, and everything as
long as no layer is left behind.
-/

set_option autoImplicit false

namespace LayerGraph

/-- The same block with other files under the same directory. -/
def Context.over (context : Context) (files : FileTree) : Context :=
  { context with tensors := { context.tensors with files := files } }

namespace Wiring

open Run

/-- A wiring that some attempts to wire a block have left behind, all of which failed. The files may change in between. -/
inductive Attempted (context : Context) (threshold : Int) : Wiring → Prop
  | start : Attempted context threshold (Wiring.start threshold)
  | again {files : FileTree} {failure : Failure} {before after : Wiring} (earlier : Attempted context threshold before)
      (failed : (resolve (context.over files)).perform before = (.error failure, after)) :
      Attempted context threshold after

section
variable {context : Context} {threshold : Int} {wiring before after : Wiring} {failure : Failure}

theorem passes_of_failed (unfinished : before.finished = false)
    (failed : (resolve context).perform before = (.error failure, after)) :
    (passes context).perform before = (.error failure, after) := by
  rw [perform_resolve unfinished] at failed
  generalize (passes context).perform before = performed at failed ⊢
  obtain ⟨result, state⟩ := performed
  cases result with
  | ok _ => cases failed
  | error found =>
    cases failed
    rfl

theorem onward_of_failed (unfinished : before.finished = false)
    (failed : (resolve context).perform before = (.error failure, after)) : Onward before after := by
  have onward := (composed_passes context).onward before
  rwa [passes_of_failed unfinished failed] at onward

/-- Attempts that fail go onward. -/
theorem Attempted.onward (attempted : Attempted context threshold wiring) : Onward (Wiring.start threshold) wiring := by
  induction attempted with
  | start => exact .refl _
  | again _ failed ih => exact ih.trans (onward_of_failed ih.finished failed)

/-- What follows an effect goes onward from where the effect ends. -/
theorem onward_bind {α β : Type} {run : Run Wiring α} {next : α → Run Wiring β} (rest : ∀ value, Composed (next value))
    (wiring : Wiring) : Onward (run.perform wiring).2 ((run >>= next).perform wiring).2 := by
  rw [perform_bind]
  generalize run.perform wiring = performed
  obtain ⟨result, state⟩ := performed
  cases result with
  | ok value => exact (rest value).onward state
  | error failure => exact .refl state

/-- The layers of a fragment stay in the arena even if what follows fails. -/
theorem size_append (reader : Nat) (fragment : Fragment) (wiring : Wiring) :
    wiring.graph.size + fragment.layers.length ≤ ((append reader fragment).perform wiring).2.graph.size := by
  have begun : (append reader fragment).perform wiring = (do
      connectLinks wiring.graph.size fragment.links
      change fun wiring' => wiring'.register reader wiring.graph.size fragment : Run Wiring Unit).perform
        { wiring with graph := fragment.layers.foldl Graph.add wiring.graph } := rfl
  have rest : Composed (do
      connectLinks wiring.graph.size fragment.links
      change fun wiring' => wiring'.register reader wiring.graph.size fragment : Run Wiring Unit) :=
    .bind (.each fun link => composed_connect _ _) fun _ => composed_register reader wiring.graph.size fragment
  rw [begun, ← size_addAll]
  exact (rest.onward { wiring with graph := fragment.layers.foldl Graph.add wiring.graph }).size

/-- Once the first operator is lowered its layers are left behind. -/
theorem size_pos_of_lowered {op : Operator} {rest : List Operator} {fragment : Fragment}
    (first : context.block.operators = op :: rest) (lowered : op.lower context = .ok fragment) (wiring : Wiring) :
    0 < ((passes context).perform wiring).2.graph.size := by
  obtain ⟨_, _, form⟩ := Operator.form_of_lower lowered
  have some : 0 < fragment.layers.length := by
    obtain ⟨_, _, _, taken, _⟩ := form.exists_first
    rw [taken]
    exact Nat.succ_pos _
  have appended : ((append 0 fragment).perform wiring).2.graph.size ≤
      ((lowerOne context 0 op).perform wiring).2.graph.size := by
    unfold lowerOne
    rw [perform_bind, perform_ofAttempt, lowered]
    exact (onward_bind (fun _ => .each fun layer => .layerLine 0 op layer) wiring).size
  have turn : ((lowerOne context 0 op).perform wiring).2.graph.size ≤ ((lowerAll context).perform wiring).2.graph.size := by
    rw [lowerAll_eq, lowerEach, first, List.zipIdx_cons, each_cons]
    exact (onward_bind (fun _ => composed_lowerEach context _) wiring).size
  have passed : ((lowerAll context).perform wiring).2.graph.size ≤ ((passes context).perform wiring).2.graph.size :=
    (onward_bind (fun _ => .bind (composed_bindPending context) fun _ => .bind (composed_replaceFed context) fun _ =>
      composed_exposeOutputs context) wiring).size
  have whole := size_append 0 fragment wiring
  omega

/-- A block without operators is wired as nothing. -/
theorem passes_of_nil (none : context.block.operators = []) :
    (passes context).perform (start threshold) = (.ok (), start threshold) := by
  have lowers : (lowerAll context).Yields (start threshold) () (start threshold) := by
    rw [lowerAll_eq, none]
    exact yields_pure.mpr ⟨rfl, rfl⟩
  have binds : (bindPending context).Yields (start threshold) () (start threshold) :=
    yields_bind.mpr ⟨_, _, yields_get.mpr ⟨rfl, rfl⟩, yields_pure.mpr ⟨rfl, rfl⟩⟩
  have fills : (replaceFed context).Yields (start threshold) () (start threshold) :=
    yields_bind.mpr ⟨_, _, yields_get.mpr ⟨rfl, rfl⟩, yields_pure.mpr ⟨rfl, rfl⟩⟩
  have hands : (exposeOutputs context).Yields (start threshold) () (start threshold) := by
    have written : (start threshold).written = [] := List.mergeSort_nil
    refine yields_bind.mpr ⟨_, _, yields_get.mpr ⟨rfl, rfl⟩, ?_⟩
    rw [written]
    exact yields_pure.mpr ⟨rfl, rfl⟩
  exact yields_bind.mpr ⟨(), _, lowers, yields_bind.mpr ⟨(), _, binds, yields_bind.mpr ⟨(), _, fills, hands⟩⟩⟩

/-- A failure that leaves no layer behind leaves nothing behind. -/
theorem eq_start_of_failed (failed : (resolve context).perform (start threshold) = (.error failure, after))
    (nothing : after.graph.size = 0) : after = start threshold := by
  have passed := passes_of_failed rfl failed
  cases first : context.block.operators with
  | nil => cases passed.symm.trans (passes_of_nil first)
  | cons op rest =>
    cases lowered : op.lower context with
    | ok fragment =>
      have some := size_pos_of_lowered first lowered (start threshold)
      rw [passed, nothing] at some
      exact absurd some (Nat.lt_irrefl 0)
    | error refused =>
      have stays : (passes context).perform (start threshold) = (.error refused, start threshold) := by
        unfold passes
        rw [perform_bind, lowerAll_eq, lowerEach, first, List.zipIdx_cons, each_cons, perform_bind]
        unfold lowerOne
        rw [perform_bind, perform_ofAttempt, lowered]
      exact (congrArg Prod.snd (stays.symm.trans passed)).symm

/-- As long as no layer is left behind, attempts that failed have left nothing behind. -/
theorem Attempted.eq_start (attempted : Attempted context threshold wiring) (nothing : wiring.graph.size = 0) :
    wiring = Wiring.start threshold := by
  induction attempted with
  | start => rfl
  | again earlier failed ih =>
    have before := ih (Nat.le_zero.mp (nothing ▸ (onward_of_failed earlier.onward.finished failed).size))
    subst before
    exact eq_start_of_failed failed nothing

/-- After any attempts that failed the next one runs all passes again. It fails as a fresh one if that fails while
operators are lowered, and it is a fresh one as long as no layer is left behind. -/
theorem retry_of_attempted (attempted : Attempted context threshold wiring) (files : FileTree) :
    let current := context.over files
    wiring.finished = false ∧
    (∀ failure, ((lowerAll current).perform (start threshold)).1 = .error failure →
      current.resolve threshold = .error failure ∧ ((resolve current).perform wiring).1 = .error failure) ∧
    (wiring.graph.size = 0 →
      (resolve current).perform wiring = (resolve current).perform (start threshold)) := by
  dsimp only
  have onward := attempted.onward
  refine ⟨onward.finished, fun failure failed => ?_, fun nothing => by rw [attempted.eq_start nothing]⟩
  rw [result_lowerAll] at failed
  exact ⟨resolve_of_lowering rfl failed, resolve_of_lowering onward.finished (onward.threshold ▸ failed)⟩

end

/-- A fed variable behind an operator that nobody knows. -/
def unknownBehindFeed : Context where
  block := {
    declarations := [{ name := "x", shape := [2] }]
    operators := [⟨"feed", [], [("Out", ["x"])], []⟩, ⟨"dropout", [("X", ["x"])], [("Out", ["y"])], []⟩] }
  tensors := { files := FileTree.empty, directory := ⟨"/", []⟩ }

/-- What is left behind when a feed is all that was wired. -/
def feedLeft : Wiring where
  graph := { nodes := [Layer.input [2]], inputs := [0] }
  produced := [("x", [(0, ⟨0, 0⟩)])]
  provisional := [("x", 0)]

/-- The layer of the feed is left behind, and the operator behind it is refused again. -/
theorem refused_again_unknownBehindFeed : Attempted unknownBehindFeed 20 feedLeft ∧
    ((resolve unknownBehindFeed).perform feedLeft).1 =
      .error (.conversion ⟨.lowering (.operator "dropout"), some "dropout", none⟩) := by
  have failed : (resolve (unknownBehindFeed.over FileTree.empty)).perform (start 20) =
      (.error (.conversion ⟨.lowering (.operator "dropout"), some "dropout", none⟩), feedLeft) := by cbv
  have attempted : Attempted unknownBehindFeed 20 feedLeft := .again .start failed
  have lowering : ((lowerAll (unknownBehindFeed.over FileTree.empty)).perform (start 20)).1 =
      .error (.conversion ⟨.lowering (.operator "dropout"), some "dropout", none⟩) := by cbv
  exact ⟨attempted, ((retry_of_attempted attempted FileTree.empty).2.1 _ lowering).2⟩

/-- A fed variable whose payload is cut off. -/
def cutOff : Context where
  block := {
    declarations := [{ name := "x", shape := [2] }]
    operators := [⟨"feed", [], [("Out", ["x"])], []⟩] }
  tensors := { files := ⟨[(["x"], .file [])]⟩, directory := ⟨"/", []⟩ }

/-- Both feeds of a variable, handed out. -/
def fedTwice : Graph where
  nodes := [⟨.input, [], [⟨"output", [2], [⟨2, 0⟩]⟩]⟩, ⟨.input, [], [⟨"output", [2], [⟨3, 0⟩]⟩]⟩,
    ⟨.output, [⟨"input", [2], some ⟨0, 0⟩⟩], []⟩, ⟨.output, [⟨"input", [2], some ⟨1, 0⟩⟩], []⟩]
  inputs := [0, 1]
  outputs := [2, 3]

/-- Why the payload is refused. -/
def cutOffFailure : Failure := .conversion ⟨.payload (.truncated .version 4 0 0), none, some "x"⟩

theorem load_cutOff : cutOff.load "x" = .error cutOffFailure := by
  have path : cutOff.tensors.path "x" = ⟨"/", ["x"]⟩ := by cbv
  have read : cutOff.tensors.files.read ⟨"/", ["x"]⟩ = .ok [] := by cbv
  have shape : cutOff.shape "x" = .ok [2] := by cbv
  have type : cutOff.elementType "x" = .ok "float32" := by cbv
  unfold Context.load PayloadStore.load PayloadStore.loadDeclared
  rw [shape, type, path, read]
  -- The header is too short already, so that the element type is never looked at.
  rfl

theorem resolve_cutOff : (resolve cutOff).perform (start 20) = (.error cutOffFailure, feedLeft) := by
  have lowers : (lowerAll cutOff).perform (start 20) = (.ok (), feedLeft) := by cbv
  have binds : (bindPending cutOff).perform feedLeft = (.ok (), feedLeft) := by cbv
  have gives : isReplaceable cutOff feedLeft "x" = .ok true := by cbv
  have looked : (look fun wiring => isReplaceable cutOff wiring "x").perform feedLeft = (.ok true, feedLeft) :=
    congrArg (·, feedLeft) gives
  have fills : (replaceFed cutOff).perform feedLeft = (.error cutOffFailure, feedLeft) := by
    have begun : (replaceFed cutOff).perform feedLeft = (replaceEach cutOff [("x", 0)]).perform feedLeft := rfl
    rw [begun, replaceEach, each_cons, perform_bind]
    unfold replaceOne
    rw [perform_bind, looked]
    dsimp only
    rw [if_pos rfl, perform_bind, perform_ofAttempt, load_cutOff]
  rw [perform_resolve rfl, passes, perform_bind, lowers]
  dsimp only
  rw [perform_bind, binds]
  dsimp only
  rw [perform_bind, fills]

/-- The payload is refused, but not on the next attempt: the variable has two writers by then, so that its payload is
not looked at any more. -/
theorem wired_after_failure_cutOff : ∃ failure, cutOff.resolve = .error failure ∧
    (resolve cutOff).perform (start 20) = (.error failure, feedLeft) ∧
      ((resolve cutOff).perform feedLeft).1 = .ok fedTwice :=
  ⟨cutOffFailure, congrArg Prod.fst resolve_cutOff, resolve_cutOff, by cbv⟩

end Wiring

end LayerGraph
