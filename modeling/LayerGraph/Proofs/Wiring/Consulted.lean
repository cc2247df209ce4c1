import LayerGraph.Proofs.Files.Tree
import LayerGraph.Proofs.Wiring.Errors
import LayerGraph.Proofs.Wiring.Retry

/-! The payloads that wiring a block looks for.

While operators are lowered the filters of convolutions and the statistics of normalizations are loaded. Then a payload is
looked for where a variable is made up, and where one is fed. Files that lead the paths of these variables to the same make
no difference to the wiring, whatever else they hold.
-/

set_option autoImplicit false

namespace LayerGraph

/-- The roles under which an operator names variables that are loaded while it is lowered. -/
def OperatorKind.weightRoles : OperatorKind → List String
  | .conv2d => ["Filter"]
  | .batchNorm => ["Scale", "Bias", "Mean", "Variance"]
  | .feed | .fetch | .elementwiseAdd | .relu | .pool2d | .reshape | .softmax => []

/-- The variables that are loaded while an operator is lowered. -/
def Operator.weights (op : Operator) : List String :=
  match OperatorKind.ofTag? op.tag with
  | some kind => kind.weightRoles.filterMap (firstName? op.inputs)
  | none => []

/-- A variable whose payload may be looked for: it is loaded, fed or made up. -/
def Block.Consults (block : Block) (name : String) : Prop :=
  block.TakesIn name ∨ ∃ op ∈ block.operators, name ∈ op.weights

theorem Attempt.bind_congr {α β : Type} {attempt : Attempt α} {next other : α → Attempt β}
    (same : ∀ value, attempt = .ok value → next value = other value) : attempt >>= next = attempt >>= other := by
  cases attempt with
  | ok value => exact same value rfl
  | error failure => rfl

namespace Context

variable {context : Context} {files : FileTree} {name : String}

/-- Files lead the path of a variable's payload to what it leads to anyway. -/
def Agrees (context : Context) (files : FileTree) (name : String) : Prop :=
  files.find (context.tensors.path name) = context.tensors.files.find (context.tensors.path name)

section
variable (agrees : context.Agrees files name)
include agrees

theorem Agrees.contains : (context.over files).tensors.contains name = context.tensors.contains name := by
  unfold PayloadStore.contains
  exact congrArg _ (FileTree.isFile_congr agrees)

theorem Agrees.loadDeclared (declared : Attempt Shape) (spelling : String) :
    (context.over files).tensors.loadDeclared name declared spelling =
      context.tensors.loadDeclared name declared spelling := by
  unfold PayloadStore.loadDeclared
  have same : (context.over files).tensors.files.read ((context.over files).tensors.path name) =
      context.tensors.files.read (context.tensors.path name) := FileTree.read_congr agrees
  rw [same]
  rfl

theorem Agrees.load : (context.over files).load name = context.load name := by
  unfold Context.load PayloadStore.load
  simp only [agrees.loadDeclared]
  rfl

theorem Agrees.loadOrZeros : (context.over files).loadOrZeros name = context.loadOrZeros name := by
  unfold Context.loadOrZeros PayloadStore.loadOrZeros PayloadStore.loadDeclaredOrZeros
  simp only [agrees.loadDeclared, agrees.contains]
  rfl

end

end Context

namespace Operator

variable {op : Operator} {context : Context} {files : FileTree}

theorem lowerConv2d_over (agrees : ∀ name, op.input "Filter" = .ok name → context.Agrees files name) :
    op.lowerConv2d (context.over files) = op.lowerConv2d context := by
  unfold lowerConv2d
  apply Attempt.bind_congr; intro paddings _
  apply Attempt.bind_congr; intro strides _
  apply Attempt.bind_congr; intro value _
  apply Attempt.bind_congr; intro groups _
  apply Attempt.bind_congr; intro source _
  apply Attempt.bind_congr; intro filter named
  simp only [(agrees filter named).load]
  rfl

theorem lowerBatchNorm_over (agrees : ∀ role ∈ OperatorKind.batchNorm.weightRoles, ∀ name, op.input role = .ok name →
    context.Agrees files name) : op.lowerBatchNorm (context.over files) = op.lowerBatchNorm context := by
  unfold lowerBatchNorm
  apply Attempt.bind_congr; intro value _
  apply Attempt.bind_congr; intro epsilon _
  apply Attempt.bind_congr; intro offset offsets
  apply Attempt.bind_congr; intro mean means
  apply Attempt.bind_congr; intro scale scales
  apply Attempt.bind_congr; intro variance variances
  simp only [(agrees _ (by decide) _ offsets).load, (agrees _ (by decide) _ means).load,
    (agrees _ (by decide) _ scales).load, (agrees _ (by decide) _ variances).load]
  rfl

theorem mem_weights {kind : OperatorKind} {role name : String} (known : OperatorKind.ofTag? op.tag = some kind)
    (listed : role ∈ kind.weightRoles) (named : op.input role = .ok name) : name ∈ op.weights := by
  unfold weights
  rw [known]
  exact List.mem_filterMap.mpr ⟨role, listed, input_eq_ok.mp named⟩

theorem lower_over (agrees : ∀ name ∈ op.weights, context.Agrees files name) :
    op.lower (context.over files) = op.lower context := by
  unfold lower
  apply Attempt.bind_congr
  intro kind tagged
  have known : OperatorKind.ofTag? op.tag = some kind := by
    unfold OperatorKind.ofTag at tagged
    split at tagged
    · next found => rw [found, Except.ok.inj tagged]
    · cases tagged
  apply congrArg (Except.mapError _)
  cases kind with
  | conv2d => exact lowerConv2d_over fun name named => agrees name (mem_weights known (by decide) named)
  | batchNorm =>
    exact lowerBatchNorm_over fun role listed name named => agrees name (mem_weights known listed named)
  | _ => rfl

end Operator

theorem Run.each_congr {σ α : Type} {items : List α} {step other : α → Run σ Unit}
    (same : ∀ item ∈ items, step item = other item) : each items step = each items other := by
  induction items with
  | nil => rfl
  | cons item items ih =>
    rw [each_cons, each_cons, same item List.mem_cons_self,
      ih fun later member => same later (List.mem_cons_of_mem item member)]

/-- Steps that do the same from each state that is reached do the same one after the other. -/
theorem Run.perform_each_congr {σ α : Type} {items : List α} {step other : α → Run σ Unit} {before : σ}
    (same : ∀ done item rest state, items = done ++ item :: rest → (each done step).Yields before () state →
      (step item).perform state = (other item).perform state) :
    (each items step).perform before = (each items other).perform before := by
  have general : ∀ done rest state, items = done ++ rest → (each done step).Yields before () state →
      (each rest step).perform state = (each rest other).perform state := by
    intro done rest
    induction rest generalizing done with
    | nil => exact fun _ _ _ => rfl
    | cons item rest ih =>
      intro state split reached
      have now := same done item rest state split reached
      rw [each_cons, each_cons, perform_bind, perform_bind, ← now]
      cases stepped : (step item).perform state with
      | mk result next =>
        cases result with
        | error failure => rfl
        | ok value =>
          have further : (each (done ++ [item]) step).Yields before () next := by
            rw [each_append, each_cons, each_nil]
            exact yields_bind.mpr ⟨(), state, reached, yields_bind.mpr ⟨(), next, stepped, yields_pure.mpr ⟨rfl, rfl⟩⟩⟩
          exact ih (done ++ [item]) next (by simpa using split) further
  exact general [] items before rfl (yields_pure.mpr ⟨rfl, rfl⟩)

theorem Run.perform_get_bind {σ α : Type} (next : σ → Run σ α) (state : σ) :
    (get >>= next).perform state = (next state).perform state := rfl

namespace Wiring

open Run

variable {context : Context} {files : FileTree} {name : String} {wiring : Wiring} {fragments : List Fragment}

theorem lowerAll_over (agrees : ∀ op ∈ context.block.operators, ∀ name ∈ op.weights, context.Agrees files name) :
    lowerAll (context.over files) = lowerAll context := by
  rw [lowerAll_eq, lowerAll_eq]
  apply each_congr
  rintro ⟨op, reader⟩ member
  have listed : op ∈ context.block.operators := (List.mem_zipIdx_iff_getElem?.mp member |> List.mem_of_getElem?)
  unfold lowerOne
  simp only [Operator.lower_over (agrees op listed)]

theorem synthesize_over (agrees : context.Agrees files name) :
    synthesize (context.over files) name = synthesize context name := by
  unfold synthesize makeConstant
  simp only [agrees.contains, agrees.loadOrZeros]
  rfl

theorem replaceOne_over (agrees : context.Agrees files name) (node : Int) :
    replaceOne (context.over files) name node = replaceOne context name node := by
  unfold replaceOne isReplaceable
  simp only [agrees.contains, agrees.load]

theorem perform_bindOne_over {target : PortRef} {reader : Nat}
    (agrees : wiring.writer? name reader = none → context.Agrees files name) :
    (bindOne (context.over files) target name reader).perform wiring =
      (bindOne context target name reader).perform wiring := by
  unfold bindOne
  rw [perform_get_bind, perform_get_bind]
  cases found : wiring.writer? name reader with
  | some source => rfl
  | none => rw [synthesize_over (agrees found)]

section
variable (lowered : context.block.operators.map (fun op => op.lower context) = fragments.map .ok)
include lowered

/-- A port that waits looks for a payload only if its variable is taken in. -/
theorem perform_bindPending_over (laid : wiring.Laid fragments)
    (agrees : ∀ name, context.block.TakesIn name → context.Agrees files name) :
    (bindPending (context.over files)).perform wiring = (bindPending context).perform wiring := by
  rw [bindPending_eq, bindPending_eq, perform_get_bind, perform_get_bind]
  apply Eq.symm
  apply perform_each_congr
  rintro done ⟨target, name, reader⟩ rest state split reached
  rw [laid.pending] at split
  -- Ports that have been bound leave the writers as they are.
  have bound := bound_of_bindEach laid split reached
  apply Eq.symm
  apply perform_bindOne_over
  intro unsupplied
  have member : (target, (name, reader)) ∈ Layout.reads fragments := by simp [split]
  have found : Layout.writer? fragments name reader = none := (bound.writer?_eq name reader).symm.trans unsupplied
  exact agrees name (Layout.takesIn_of_unsupplied lowered laid.closed member found)

theorem perform_replaceFed_over (closed : Layout.Closed fragments)
    (provisional : ∀ entry ∈ wiring.provisional, Layout.Fed fragments entry.1 entry.2)
    (agrees : ∀ name, context.block.TakesIn name → context.Agrees files name) :
    (replaceFed (context.over files)).perform wiring = (replaceFed context).perform wiring := by
  rw [replaceFed_eq, replaceFed_eq, perform_get_bind, perform_get_bind]
  apply congrArg (fun run : Run Wiring Unit => run.perform wiring)
  apply each_congr
  rintro ⟨name, node⟩ member
  exact replaceOne_over (agrees name (Layout.takesIn_of_fed lowered closed (provisional _ member)).2) node

end

/-- What follows an effect is done alike from each state that the effect leaves. -/
theorem perform_bind_congr {α β : Type} {run again : Run Wiring α} {next other : α → Run Wiring β}
    (first : again.perform wiring = run.perform wiring)
    (rest : ∀ value state, run.Yields wiring value state → (other value).perform state = (next value).perform state) :
    (again >>= other).perform wiring = (run >>= next).perform wiring := by
  rw [perform_bind, perform_bind, first]
  cases performed : run.perform wiring with
  | mk result state =>
    cases result with
    | error failure => rfl
    | ok value => exact rest value state performed

theorem perform_passes_over (laid : wiring.Laid [])
    (agrees : ∀ name, context.block.Consults name → context.Agrees files name) :
    (passes (context.over files)).perform wiring = (passes context).perform wiring := by
  have taken : ∀ name, context.block.TakesIn name → context.Agrees files name := fun name taken => agrees name (.inl taken)
  have lowers : lowerAll (context.over files) = lowerAll context :=
    lowerAll_over fun op listed name weight => agrees name (.inr ⟨op, listed, weight⟩)
  unfold passes
  rw [lowers]
  apply perform_bind_congr rfl
  intro _ state lowered
  obtain ⟨fragments, made, laid⟩ := laid_of_lowerEach laid lowered
  apply perform_bind_congr (perform_bindPending_over made laid taken)
  intro _ bound binds
  have provisional : ∀ entry ∈ bound.provisional, Layout.Fed fragments entry.1 entry.2 :=
    (bound_of_bindPending laid binds).provisional
  exact perform_bind_congr (perform_replaceFed_over made laid.closed provisional taken) fun _ _ _ => rfl

/-- Wiring a block does not depend on any files but those at the paths of the variables that the block consults. -/
theorem perform_resolve_over (laid : wiring.Laid []) (unfinished : wiring.finished = false)
    (agrees : ∀ name, context.block.Consults name → context.Agrees files name) :
    (resolve (context.over files)).perform wiring = (resolve context).perform wiring := by
  rw [perform_resolve unfinished, perform_resolve unfinished, perform_passes_over laid agrees]

end Wiring

end LayerGraph
