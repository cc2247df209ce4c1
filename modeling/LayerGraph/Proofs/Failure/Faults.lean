import LayerGraph.Proofs.Failure.Run
import Mathlib.Data.List.Induction

/-! The faults of attempts and effects.

A hazard says when an operation meets which fault. It is that of an attempt when the attempt ends with
exactly the faults that it names and with conversion errors otherwise. The hazard of a sequence is put
together from those of its parts.
-/

set_option autoImplicit false

namespace LayerGraph

/-- A failure is a conversion error or a fault that a hazard names. -/
def Failure.Meets (hazard : Fault → Prop) : Failure → Prop
  | .conversion _ => True
  | .fault found => hazard found
  | .refused _ => False

theorem Failure.Meets.imp {failure : Failure} {hazard weaker : Fault → Prop}
    (meets : failure.Meets hazard) (implies : ∀ fault, hazard fault → weaker fault) :
    failure.Meets weaker := by
  cases failure with
  | conversion error => trivial
  | fault found => exact implies found meets
  | refused issues => exact meets

namespace Attempt

variable {α β : Type}

/-- An attempt meets exactly the faults of a hazard, and fails with conversion errors otherwise. -/
structure Faults (attempt : Attempt α) (hazard : Fault → Prop) : Prop where
  meets : ∀ failure, attempt = .error failure → failure.Meets hazard
  fails : ∀ fault, hazard fault → attempt = .error (.fault fault)

/-- An attempt that fails with conversion errors only. -/
abbrev Faultless (attempt : Attempt α) : Prop := attempt.Faults fun _ => False

section
variable {attempt : Attempt α} {next : α → Attempt β} {hazard other : Fault → Prop}

theorem Faults.iff (faults : attempt.Faults hazard) (fault : Fault) :
    attempt = .error (.fault fault) ↔ hazard fault :=
  ⟨faults.meets _, faults.fails fault⟩

theorem Faults.congr (faults : attempt.Faults hazard) (same : ∀ fault, hazard fault ↔ other fault) :
    attempt.Faults other where
  meets failure failed := (faults.meets failure failed).imp fun fault => (same fault).mp
  fails fault named := faults.fails fault ((same fault).mpr named)

theorem faultless_ok (value : α) : Faultless (.ok value : Attempt α) where
  meets _ failed := nomatch failed
  fails _ named := named.elim

theorem faultless_fail (cause : Cause) (operator subject : Option String) :
    Faultless (fail cause operator subject : Attempt α) where
  meets _ failed := by
    cases failed
    trivial
  fails _ named := named.elim

theorem faults_fault (found : Fault) : Faults (fault found : Attempt α) fun other => other = found where
  meets _ failed := by
    cases failed
    rfl
  fails _ named := by
    rw [named]
    rfl

theorem bind_eq_error {ε : Type} {attempt : Except ε α} {next : α → Except ε β} {failure : ε} :
    attempt >>= next = .error failure ↔
      attempt = .error failure ∨ ∃ value, attempt = .ok value ∧ next value = .error failure := by
  cases attempt with
  | ok value =>
    constructor
    · intro failed
      exact .inr ⟨value, rfl, failed⟩
    · rintro (failed | ⟨other, same, failed⟩)
      · cases failed
      · cases same
        exact failed
  | error found =>
    constructor
    · intro failed
      cases failed
      exact .inl rfl
    · rintro (failed | ⟨other, same, _⟩)
      · cases failed
        rfl
      · cases same

theorem mapError_eq_error {ε : Type} {attempt : Except ε α} {adapt : ε → Failure} {failure : Failure} :
    attempt.mapError adapt = .error failure ↔ ∃ defect, attempt = .error defect ∧ adapt defect = failure := by
  cases attempt with
  | ok value => exact iff_of_false nofun fun ⟨_, failed, _⟩ => nomatch failed
  | error defect => simp [Except.mapError]

/-- One attempt after the other fails as the first of them that does. -/
theorem forM_eq_error {items : List α} {turn : α → Attempt Unit} {failure : Failure} :
    forM items turn = .error failure ↔ ∃ done item rest, items = done ++ item :: rest ∧
      (∀ other ∈ done, turn other = .ok ()) ∧ turn item = .error failure := by
  induction items with
  | nil =>
    refine ⟨nofun, ?_⟩
    rintro ⟨done, item, rest, split, _⟩
    cases done <;> cases split
  | cons first items ih =>
    rw [List.forM_cons, bind_eq_error]
    constructor
    · rintro (failed | ⟨_, taken, failed⟩)
      · exact ⟨[], first, items, rfl, nofun, failed⟩
      · obtain ⟨done, item, rest, rfl, earlier, failed⟩ := ih.mp failed
        exact ⟨first :: done, item, rest, rfl, List.forall_mem_cons.mpr ⟨taken, earlier⟩, failed⟩
    · rintro ⟨_ | ⟨other, done⟩, item, rest, split, earlier, failed⟩
      · cases split
        exact .inl failed
      · cases split
        obtain ⟨taken, earlier⟩ := List.forall_mem_cons.mp earlier
        exact .inr ⟨(), taken, ih.mpr ⟨done, item, rest, rfl, earlier, failed⟩⟩

/-- A sequence meets the faults of its first part, and then those of what follows. -/
theorem Faults.bind {later : α → Fault → Prop} (first : attempt.Faults hazard)
    (rest : ∀ value, attempt = .ok value → (next value).Faults (later value)) :
    Faults (attempt >>= next) fun fault =>
      hazard fault ∨ ∃ value, attempt = .ok value ∧ later value fault where
  meets failure failed := by
    rcases bind_eq_error.mp failed with failed | ⟨value, yielded, failed⟩
    · exact (first.meets failure failed).imp fun fault => .inl
    · exact ((rest value yielded).meets failure failed).imp fun fault named =>
        .inr ⟨value, yielded, named⟩
  fails fault named := by
    rcases named with named | ⟨value, yielded, named⟩
    · exact bind_eq_error.mpr (.inl (first.fails fault named))
    · exact bind_eq_error.mpr (.inr ⟨value, yielded, (rest value yielded).fails fault named⟩)

theorem Faults.followed {attempt : Attempt Unit} {next : Unit → Attempt β}
    (first : attempt.Faults hazard) (rest : attempt = .ok () → (next ()).Faults other) :
    Faults (attempt >>= next) fun fault => hazard fault ∨ attempt = .ok () ∧ other fault := by
  refine (first.bind fun _ yielded => rest yielded).congr fun fault => ?_
  constructor
  · rintro (named | ⟨_, yielded, named⟩)
    · exact .inl named
    · exact .inr ⟨yielded, named⟩
  · exact Or.imp_right fun both => ⟨(), both⟩

/-- After a part without faults only those of what follows are met. -/
theorem Faults.after {later : α → Fault → Prop} (first : attempt.Faultless)
    (rest : ∀ value, attempt = .ok value → (next value).Faults (later value)) :
    Faults (attempt >>= next) fun fault => ∃ value, attempt = .ok value ∧ later value fault :=
  (first.bind rest).congr fun fault => by simp

theorem Faults.ite {condition : Prop} [Decidable condition] {first second : Attempt α}
    (yes : condition → first.Faults hazard) (no : ¬ condition → second.Faults other) :
    Faults (if condition then first else second) fun fault =>
      if condition then hazard fault else other fault := by
  split
  · next holds => exact yes holds
  · next fails => exact no fails

/-- What follows without faults adds none. -/
theorem Faults.before (first : attempt.Faults hazard)
    (rest : ∀ value, attempt = .ok value → (next value).Faultless) :
    Faults (attempt >>= next) hazard :=
  (first.bind rest).congr fun fault => by simp

theorem Faults.map {transform : α → β} (faults : attempt.Faults hazard) :
    Faults (attempt.map transform) hazard where
  meets failure failed := by
    cases attempt with
    | ok value => cases failed
    | error found =>
      cases failed
      exact faults.meets _ rfl
  fails fault named := by
    rw [faults.fails fault named]
    rfl

/-- An operator that is named does not change what is a fault. -/
theorem Faults.withOperator (faults : attempt.Faults hazard) (tag : String) :
    Faults (attempt.mapError (Failure.withOperator · tag)) hazard where
  meets failure failed := by
    cases attempt with
    | ok value => cases failed
    | error found =>
      cases failed
      have meets := faults.meets found rfl
      cases found <;> exact meets
  fails fault named := by
    rw [faults.fails fault named]
    rfl

end

section
variable {ε : Type} {attempt : Except ε α}

theorem faultless_mapError {adapt : ε → Failure} (adapts : ∀ defect, ∃ error, adapt defect = .conversion error) :
    Faultless (attempt.mapError adapt) where
  meets failure failed := by
    cases attempt with
    | ok value => cases failed
    | error defect =>
      obtain ⟨error, same⟩ := adapts defect
      cases failed
      rw [same]
      trivial
  fails _ named := named.elim

theorem faults_mapError (adapt : ε → Fault) :
    Faults (attempt.mapError fun defect => .fault (adapt defect))
      fun fault => ∃ defect, attempt = .error defect ∧ fault = adapt defect where
  meets failure failed := by
    cases attempt with
    | ok value => cases failed
    | error defect =>
      cases failed
      exact ⟨defect, rfl, rfl⟩
  fails fault named := by
    obtain ⟨defect, rfl, rfl⟩ := named
    rfl

end

end Attempt

namespace Run

variable {σ τ α β : Type}

/-- An effect meets exactly the faults of a hazard from a state, and fails with conversion errors
otherwise. -/
def Faults (run : Run σ α) (start : σ) (hazard : Fault → Prop) : Prop :=
  ((run.perform start).1).Faults hazard

/-- An effect that fails with conversion errors only. -/
abbrev Faultless (run : Run σ α) (start : σ) : Prop := run.Faults start fun _ => False

section
variable {run : Run σ α} {next : α → Run σ β} {start : σ} {hazard other : Fault → Prop}

theorem Faults.congr (faults : run.Faults start hazard) (same : ∀ fault, hazard fault ↔ other fault) :
    run.Faults start other :=
  Attempt.Faults.congr faults same

theorem faultless_pure (value : α) : (pure value : Run σ α).Faultless start :=
  Attempt.faultless_ok value

theorem faults_ofAttempt {attempt : Attempt α} (faults : attempt.Faults hazard) :
    (ofAttempt attempt : Run σ α).Faults start hazard :=
  faults

theorem faults_onPart {view : σ → τ} {update : σ → τ → σ} {run : Run τ α}
    (faults : run.Faults (view start) hazard) : (onPart view update run).Faults start hazard :=
  faults

/-- A sequence meets the faults of its first part, and then those of what follows in the state that
the first part leaves. -/
theorem Faults.bind {later : α → σ → Fault → Prop} (first : run.Faults start hazard)
    (rest : ∀ value state, run.Yields start value state →
      (next value).Faults state (later value state)) :
    (run >>= next).Faults start fun fault =>
      hazard fault ∨ ∃ value state, run.Yields start value state ∧ later value state fault := by
  unfold Faults at first ⊢
  unfold Yields at rest ⊢
  rw [perform_bind]
  generalize run.perform start = performed at first rest ⊢
  obtain ⟨result, state⟩ := performed
  cases result with
  | ok value =>
    have unmet : ∀ fault, ¬ hazard fault := fun fault named => nomatch first.fails fault named
    refine Attempt.Faults.congr (rest value state rfl) fun fault => ?_
    simp [unmet]
  | error failure =>
    refine ⟨fun other same => ?_, fun fault named => ?_⟩
    · cases same
      exact (first.meets failure rfl).imp fun fault => .inl
    · rcases named with named | ⟨_, _, reached, _⟩
      · rw [Except.error.inj (first.fails fault named)]
      · cases reached

theorem Faults.followed {run : Run σ Unit} {next : Unit → Run σ β} {later : σ → Fault → Prop}
    (first : run.Faults start hazard)
    (rest : ∀ state, run.Yields start () state → (next ()).Faults state (later state)) :
    (run >>= next).Faults start fun fault =>
      hazard fault ∨ ∃ state, run.Yields start () state ∧ later state fault := by
  refine (first.bind fun _ state yields => rest state yields).congr fun fault => ?_
  constructor
  · rintro (named | ⟨_, state, yields, named⟩)
    · exact .inl named
    · exact .inr ⟨state, yields, named⟩
  · exact Or.imp_right fun ⟨state, both⟩ => ⟨(), state, both⟩

/-- After a part without faults only those of what follows are met. -/
theorem Faults.after {later : α → σ → Fault → Prop} (first : run.Faultless start)
    (rest : ∀ value state, run.Yields start value state →
      (next value).Faults state (later value state)) :
    (run >>= next).Faults start fun fault =>
      ∃ value state, run.Yields start value state ∧ later value state fault :=
  (first.bind rest).congr fun fault => by simp

/-- What follows without faults adds none. -/
theorem Faults.before (first : run.Faults start hazard)
    (rest : ∀ value state, run.Yields start value state → (next value).Faultless state) :
    (run >>= next).Faults start hazard :=
  (first.bind rest).congr fun fault => by simp

/-- An attempt keeps the state that what follows starts from. -/
theorem faults_attempt {attempt : Attempt α} {later : α → Fault → Prop} (first : attempt.Faults hazard)
    (rest : ∀ value, attempt = .ok value → (next value).Faults start (later value)) :
    (ofAttempt attempt >>= next).Faults start fun fault =>
      hazard fault ∨ ∃ value, attempt = .ok value ∧ later value fault := by
  have continued : ∀ value state, (ofAttempt attempt).Yields start value state →
      (next value).Faults state (later value) := by
    intro value state reached
    obtain ⟨same, rfl⟩ := yields_ofAttempt.mp reached
    exact rest value same
  refine (Faults.bind (faults_ofAttempt first) continued).congr fun fault => ?_
  simp [yields_ofAttempt]

theorem faults_attempt_after {attempt : Attempt α} {later : α → Fault → Prop}
    (first : attempt.Faultless)
    (rest : ∀ value, attempt = .ok value → (next value).Faults start (later value)) :
    (ofAttempt attempt >>= next).Faults start fun fault =>
      ∃ value, attempt = .ok value ∧ later value fault :=
  (faults_attempt first rest).congr fun fault => by simp

/-- Behind a part that succeeds the faults are those of what follows. -/
theorem Faults.following {value : α} {state : σ} (yields : run.Yields start value state)
    (rest : (next value).Faults state hazard) : (run >>= next).Faults start hazard := by
  unfold Faults at rest ⊢
  unfold Yields at yields
  rw [perform_bind, yields]
  exact rest

theorem faultless_of_yields {value : α} {state : σ} (yields : run.Yields start value state) :
    run.Faultless start := by
  change ((run.perform start).1).Faultless
  rw [yields]
  exact Attempt.faultless_ok value

/-- A look at the state meets no fault. -/
theorem faults_get {next : σ → Run σ β} (rest : (next start).Faults start hazard) :
    (get >>= next).Faults start hazard :=
  rest

theorem Faults.ite {condition : Prop} [Decidable condition] {first second : Run σ α}
    (yes : condition → first.Faults start hazard) (no : ¬ condition → second.Faults start other) :
    Faults (if condition then first else second) start fun fault =>
      if condition then hazard fault else other fault := by
  split
  · next holds => exact yes holds
  · next fails => exact no fails

end

section
variable {items : List α} {step : α → Run σ Unit} {start : σ}

/-- The faults of a pass are those of a step for one of the items, in a state that the steps for the
items before it reach. -/
theorem faults_each {hazard : α → σ → Fault → Prop}
    (round : ∀ done item rest state, items = done ++ item :: rest →
      (each done step).Yields start () state → (step item).Faults state (hazard item state)) :
    (each items step).Faults start fun fault => ∃ done item rest state,
      items = done ++ item :: rest ∧ (each done step).Yields start () state ∧
        hazard item state fault := by
  induction items using List.reverseRecOn with
  | nil =>
    rw [each_nil]
    exact (faultless_pure ()).congr fun fault => by simp
  | append_singleton front last ih =>
    have earlier := ih fun done item rest state split => round done item (rest ++ [last]) state (by simp [split])
    have final : ∀ (value : Unit) state, (each front step).Yields start value state →
        (each [last] step).Faults state (hazard last state) := by
      intro _ state reached
      rw [each_cons, each_nil]
      exact (round front last [] state rfl reached).before fun _ _ _ => faultless_pure ()
    rw [each_append]
    refine (earlier.bind final).congr fun fault => ?_
    constructor
    · rintro (⟨done, item, rest, state, rfl, reached, named⟩ | ⟨_, state, reached, named⟩)
      · exact ⟨done, item, rest ++ [last], state, by simp, reached, named⟩
      · exact ⟨front, last, [], state, rfl, reached, named⟩
    · rintro ⟨done, item, rest, state, split, reached, named⟩
      -- The item is one of those in front, or the last one.
      rcases List.eq_nil_or_concat rest with rfl | ⟨others, end_, rfl⟩
      · obtain ⟨rfl, single⟩ := List.append_inj' split rfl
        cases single
        exact .inr ⟨(), state, reached, named⟩
      · rw [List.concat_eq_append, ← List.cons_append, ← List.append_assoc] at split
        obtain ⟨rfl, -⟩ := List.append_inj' split rfl
        exact .inl ⟨done, item, others, state, rfl, reached, named⟩

end

end Run

end LayerGraph
