import LayerGraph.Proofs.Failure.Faults

/-! The conversion errors of attempts and effects.

What can be said of every conversion error that an operation may end with is put together from what can be said of
its parts. Faults are left aside.
-/

set_option autoImplicit false

namespace LayerGraph

namespace Attempt

variable {α β : Type}

/-- Every conversion error that an attempt fails with meets a condition. -/
def Errs (attempt : Attempt α) (condition : ConversionError → Prop) : Prop :=
  ∀ error, attempt = .error (.conversion error) → condition error

/-- An attempt that fails with faults only. -/
abbrev Errorless (attempt : Attempt α) : Prop := attempt.Errs fun _ => False

section
variable {attempt : Attempt α} {next : α → Attempt β} {condition weaker : ConversionError → Prop}

theorem Errs.imp (errs : attempt.Errs condition) (implies : ∀ error, condition error → weaker error) :
    attempt.Errs weaker :=
  fun error failed => implies error (errs error failed)

theorem Errs.of_errorless (errs : attempt.Errorless) : attempt.Errs condition :=
  errs.imp fun _ => False.elim

theorem errs_ok (value : α) : Errs (.ok value : Attempt α) condition := by
  intro error failed
  cases failed

theorem errs_of_eq_ok {value : α} (yielded : attempt = .ok value) : attempt.Errs condition := by
  rw [yielded]
  exact errs_ok value

theorem errs_fault (found : Fault) : Errs (fault found : Attempt α) condition := by
  intro error failed
  cases failed

theorem errs_fail {cause : Cause} {operator subject : Option String} (met : condition ⟨cause, operator, subject⟩) :
    Errs (fail cause operator subject : Attempt α) condition := by
  intro error failed
  cases failed
  exact met

/-- Words about a layer that cannot be shown are a fault. -/
theorem errs_layer {defect : LayerDefect} (met : condition ⟨.layer defect, none, none⟩) :
    Errs (layer defect : Attempt α) condition := by
  unfold layer
  split
  · exact errs_fail met
  · exact errs_fault _

theorem Errs.bind (first : attempt.Errs condition)
    (rest : ∀ value, attempt = .ok value → (next value).Errs condition) : Errs (attempt >>= next) condition := by
  intro error failed
  rcases bind_eq_error.mp failed with failed | ⟨value, yielded, failed⟩
  · exact first error failed
  · exact rest value yielded error failed

theorem Errs.map {transform : α → β} (errs : attempt.Errs condition) : Errs (attempt.map transform) condition := by
  intro error failed
  cases attempt with
  | ok value => cases failed
  | error found =>
    cases failed
    exact errs error rfl

theorem Errs.ite {test : Prop} [Decidable test] {first second : Attempt α} (yes : test → first.Errs condition)
    (no : ¬ test → second.Errs condition) : Errs (if test then first else second) condition := by
  split
  · next holds => exact yes holds
  · next fails => exact no fails

/-- An error that names no operator gets the one that is named, the others stay. -/
theorem Errs.withOperator (errs : attempt.Errs condition) (tag : String) :
    Errs (attempt.mapError (Failure.withOperator · tag))
      fun error => ∃ before, condition before ∧ error = before.withOperator tag := by
  intro error failed
  cases attempt with
  | ok value => cases failed
  | error found =>
    cases found with
    | conversion before =>
      cases failed
      exact ⟨before, errs before rfl, rfl⟩
    | fault | refused => cases failed

theorem errs_mapM {step : β → Attempt α} (each : ∀ item, (step item).Errs condition) (items : List β) :
    Errs (items.mapM step) condition := by
  induction items with
  | nil => exact errs_ok _
  | cons item items ih =>
    rw [List.mapM_cons]
    exact (each item).bind fun _ _ => ih.bind fun _ _ => errs_ok _

end

theorem errs_mapError {ε : Type} {attempt : Except ε α} {adapt : ε → Failure} {condition : ConversionError → Prop}
    (adapts : ∀ defect error, attempt = .error defect → adapt defect = .conversion error → condition error) :
    Errs (attempt.mapError adapt) condition := by
  intro error failed
  cases attempt with
  | ok value => cases failed
  | error defect => exact adapts defect error rfl (Except.error.inj failed)

end Attempt

namespace Run

variable {σ τ α β : Type}

/-- Every conversion error that an effect fails with from a state meets a condition. -/
def Errs (run : Run σ α) (start : σ) (condition : ConversionError → Prop) : Prop :=
  ((run.perform start).1).Errs condition

section
variable {run : Run σ α} {next : α → Run σ β} {start : σ} {condition : ConversionError → Prop}

theorem errs_pure (value : α) : (pure value : Run σ α).Errs start condition :=
  Attempt.errs_ok value

theorem errs_ofAttempt {attempt : Attempt α} (errs : attempt.Errs condition) :
    (ofAttempt attempt : Run σ α).Errs start condition :=
  errs

theorem Errs.bind (first : run.Errs start condition)
    (rest : ∀ value state, run.Yields start value state → (next value).Errs state condition) :
    (run >>= next).Errs start condition := by
  unfold Errs at first ⊢
  unfold Yields at rest
  rw [perform_bind]
  generalize run.perform start = performed at first rest ⊢
  obtain ⟨result, state⟩ := performed
  cases result with
  | ok value => exact rest value state rfl
  | error failure => exact fun error failed => first error (congrArg _ (Except.error.inj failed))

theorem errs_of_yields {value : α} {state : σ} (yields : run.Yields start value state) :
    run.Errs start condition := by
  unfold Errs
  rw [yields]
  exact Attempt.errs_ok value

/-- Behind a part that succeeds the errors are those of what follows. -/
theorem Errs.following {value : α} {state : σ} (yields : run.Yields start value state)
    (rest : (next value).Errs state condition) : (run >>= next).Errs start condition := by
  refine (errs_of_yields yields).bind fun other reached again => ?_
  cases yields.symm.trans again
  exact rest

/-- An attempt keeps the state that what follows starts from. -/
theorem errs_attempt {attempt : Attempt α} (first : attempt.Errs condition)
    (rest : ∀ value, attempt = .ok value → (next value).Errs start condition) :
    (ofAttempt attempt >>= next).Errs start condition := by
  refine (errs_ofAttempt first).bind fun value state reached => ?_
  obtain ⟨yielded, rfl⟩ := yields_ofAttempt.mp reached
  exact rest value yielded

theorem Errs.ite {test : Prop} [Decidable test] {first second : Run σ α} (yes : test → first.Errs start condition)
    (no : ¬ test → second.Errs start condition) : (if test then first else second).Errs start condition := by
  split
  · next holds => exact yes holds
  · next fails => exact no fails

end

/-- The errors of a pass are those of a step for one of the items, in a state that the steps before it reach. -/
theorem errs_each {items : List α} {step : α → Run σ Unit} {start : σ} {condition : ConversionError → Prop}
    (round : ∀ done item rest state, items = done ++ item :: rest → (each done step).Yields start () state →
      (step item).Errs state condition) : (each items step).Errs start condition := by
  induction items using List.reverseRecOn with
  | nil =>
    rw [each_nil]
    exact errs_pure ()
  | append_singleton front last ih =>
    rw [each_append]
    refine (ih fun done item rest state split => round done item (rest ++ [last]) state (by simp [split])).bind
      fun _ state reached => ?_
    rw [each_cons, each_nil]
    exact (round front last [] state rfl reached).bind fun _ _ _ => errs_pure ()

end Run

end LayerGraph
