import LayerGraph.Failure.Basic

/-! Inversion of attempts and effects that succeed.

An effect yields a value when it ends without a failure, and then it has a state that it leaves. A
sequence yields exactly through an intermediate value and state, so a successful effect can be taken
apart step by step. A loop succeeds exactly if every item meets its condition in the state that the items before it
lead to.
-/

set_option autoImplicit false

namespace LayerGraph

namespace Attempt

variable {α β : Type}

theorem bind_eq_ok {ε : Type} {attempt : Except ε α} {next : α → Except ε β} {value : β} :
    attempt >>= next = .ok value ↔ ∃ middle, attempt = .ok middle ∧ next middle = .ok value := by
  cases attempt with
  | ok middle =>
    constructor
    · intro same
      exact ⟨middle, rfl, same⟩
    · rintro ⟨other, same, rest⟩
      cases same
      exact rest
  | error failure =>
    constructor
    · intro same
      cases same
    · rintro ⟨other, same, _⟩
      cases same

theorem map_eq_ok {ε : Type} {attempt : Except ε α} {transform : α → β} {value : β} :
    attempt.map transform = .ok value ↔ ∃ middle, attempt = .ok middle ∧ transform middle = value := by
  cases attempt <;> simp [Except.map]

theorem mapError_eq_ok {ε : Type} {attempt : Except ε α} {adapt : ε → Failure} {value : α} :
    attempt.mapError adapt = .ok value ↔ attempt = .ok value := by
  cases attempt with
  | ok result =>
    constructor <;>
    · intro found
      cases found
      rfl
  | error failure => exact iff_of_false (fun found => by cases found) fun found => by cases found

@[simp] theorem fault_ne_ok {found : Fault} {value : α} : (fault found : Attempt α) ≠ .ok value :=
  nofun

@[simp] theorem fail_ne_ok {cause : Cause} {operator subject : Option String} {value : α} :
    (fail cause operator subject : Attempt α) ≠ .ok value :=
  nofun

@[simp] theorem layer_ne_ok {defect : LayerDefect} {value : α} :
    (layer defect : Attempt α) ≠ .ok value := by
  unfold layer
  split <;> nofun

@[simp] theorem graph_ne_ok {defect : GraphDefect} {subject : Option String} {value : α} :
    (graph defect subject : Attempt α) ≠ .ok value :=
  nofun

end Attempt

namespace Run

variable {σ τ α β : Type}

/-- An effect succeeds from a state with a value and leaves a state. -/
def Yields (run : Run σ α) (before : σ) (value : α) (after : σ) : Prop :=
  run.perform before = (.ok value, after)

section
variable {before after : σ}

theorem perform_bind (run : Run σ α) (next : α → Run σ β) :
    (run >>= next).perform before =
      match run.perform before with
      | (.ok middle, state) => (next middle).perform state
      | (.error failure, state) => (.error failure, state) := by
  change (ExceptT.bindCont next (run before).1 : StateM σ (Attempt β)) (run before).2 = _
  unfold perform
  rcases run before with ⟨result, state⟩
  cases result <;> rfl

theorem yields_bind {run : Run σ α} {next : α → Run σ β} {value : β} :
    (run >>= next).Yields before value after ↔
      ∃ middle state, run.Yields before middle state ∧ (next middle).Yields state value after := by
  unfold Yields
  rw [perform_bind]
  rcases run.perform before with ⟨result, state⟩
  cases result with
  | ok middle =>
    constructor
    · intro rest
      exact ⟨middle, state, rfl, rest⟩
    · rintro ⟨other, next, same, rest⟩
      cases same
      exact rest
  | error failure =>
    constructor
    · intro same
      cases same
    · rintro ⟨other, next, same, _⟩
      cases same

theorem yields_pure {value other : α} :
    (pure value : Run σ α).Yields before other after ↔ value = other ∧ before = after := by
  change ((Except.ok value : Attempt α), before) = (.ok other, after) ↔ _
  simp

theorem yields_get {value : σ} :
    (get : Run σ σ).Yields before value after ↔ before = value ∧ before = after := by
  change ((Except.ok before : Attempt σ), before) = (.ok value, after) ↔ _
  simp

theorem yields_ofAttempt {attempt : Attempt α} {value : α} :
    (ofAttempt attempt : Run σ α).Yields before value after ↔
      attempt = .ok value ∧ before = after := by
  unfold Yields
  rw [perform_ofAttempt]
  simp

theorem yields_onPart {view : σ → τ} {update : σ → τ → σ} {run : Run τ α} {value : α} :
    (onPart view update run).Yields before value after ↔
      ∃ part, run.Yields (view before) value part ∧ after = update before part := by
  change ((run.perform (view before)).1, update before (run.perform (view before)).2) = _ ↔ _
  unfold Yields
  rcases run.perform (view before) with ⟨result, part⟩
  constructor
  · intro same
    cases same
    exact ⟨part, rfl, rfl⟩
  · rintro ⟨other, same, rfl⟩
    cases same
    rfl

end

/-- One step for each of some items, in order. -/
def each (items : List α) (step : α → Run σ Unit) : Run σ Unit := do
  for item in items do
    step item

section
variable {items : List α} {step : α → Run σ Unit} {before after : σ}

@[simp] theorem each_nil : each [] step = pure () := by simp [each]

@[simp] theorem each_cons (item : α) :
    each (item :: items) step = (do step item; each items step) := by
  simp [each]

theorem each_append (front back : List α) :
    each (front ++ back) step = (do each front step; each back step) := by
  induction front with
  | nil => simp
  | cons item front ih => simp [ih]

/-- What every step preserves holds after all steps, of all the items. -/
theorem each_induction {value : Unit} (motive : List α → σ → Prop) (start : motive [] before)
    (round : ∀ done item rest state next, items = done ++ item :: rest → motive done state →
      (step item).Yields state () next → motive (done ++ [item]) next)
    (run : (each items step).Yields before value after) : motive items after := by
  -- The items done so far are a prefix of all of them.
  have general : ∀ done rest state, items = done ++ rest → motive done state →
      (each rest step).Yields state () after → motive items after := by
    intro done rest
    induction rest generalizing done with
    | nil =>
      intro state split holds run
      rw [each_nil, yields_pure] at run
      rw [List.append_nil] at split
      rw [split, ← run.2]
      exact holds
    | cons item rest ih =>
      intro state split holds run
      rw [each_cons, yields_bind] at run
      obtain ⟨_, next, here, later⟩ := run
      exact ih (done ++ [item]) next (by simpa using split) (round done item rest state next split holds here) later
  exact general [] items before rfl start run

variable (items step before) in
/-- When every step can be taken all steps can. -/
theorem each_progress (motive : List α → σ → Prop) (start : motive [] before)
    (round : ∀ done item rest state, items = done ++ item :: rest → motive done state →
      ∃ next, (step item).Yields state () next ∧ motive (done ++ [item]) next) :
    ∃ after, (each items step).Yields before () after ∧ motive items after := by
  have general : ∀ done rest state, items = done ++ rest → motive done state →
      ∃ after, (each rest step).Yields state () after ∧ motive items after := by
    intro done rest
    induction rest generalizing done with
    | nil =>
      intro state split holds
      rw [List.append_nil] at split
      rw [each_nil, split]
      exact ⟨state, yields_pure.mpr ⟨rfl, rfl⟩, holds⟩
    | cons item rest ih =>
      intro state split holds
      obtain ⟨next, here, later⟩ := round done item rest state split holds
      obtain ⟨after, run, whole⟩ := ih (done ++ [item]) next (by simpa using split) later
      rw [each_cons]
      exact ⟨after, yields_bind.mpr ⟨(), next, here, run⟩, whole⟩
  exact general [] items before rfl start

end

/-! ### Success -/

section
variable {σ α β : Type} {before state : σ}

/-- An effect ends without a failure. -/
def Succeeds (run : Run σ α) (before : σ) : Prop := ∃ value after, run.Yields before value after

theorem Yields.succeeds {run : Run σ α} {value : α} {after : σ} (here : run.Yields before value after) :
    run.Succeeds before :=
  ⟨value, after, here⟩

/-- The state that an effect leaves does not matter to whether it succeeds. -/
theorem succeeds_iff {run : Run σ α} : run.Succeeds before ↔ ∃ value, (run.perform before).1 = .ok value := by
  refine exists_congr fun value => ⟨fun ⟨_, here⟩ => congrArg Prod.fst here, fun same => ?_⟩
  exact ⟨(run.perform before).2, Prod.ext same rfl⟩

theorem succeeds_bind {run : Run σ α} {next : α → Run σ β} : (run >>= next).Succeeds before ↔
    ∃ middle state, run.Yields before middle state ∧ (next middle).Succeeds state := by
  constructor
  · rintro ⟨value, after, whole⟩
    obtain ⟨middle, state, here, later⟩ := yields_bind.mp whole
    exact ⟨middle, state, here, later.succeeds⟩
  · rintro ⟨middle, state, here, value, after, later⟩
    exact ⟨value, after, yields_bind.mpr ⟨middle, state, here, later⟩⟩

/-- What follows an effect that yields decides. -/
theorem Yields.succeeds_bind {run : Run σ α} {next : α → Run σ β} {middle : α} (here : run.Yields before middle state) :
    (run >>= next).Succeeds before ↔ (next middle).Succeeds state := by
  rw [Run.succeeds_bind]
  constructor
  · rintro ⟨other, reached, again, later⟩
    cases here.symm.trans again
    exact later
  · exact fun later => ⟨middle, state, here, later⟩

/-- What follows an effect does not count if it always succeeds. -/
theorem succeeds_bind_left {run : Run σ α} {next : α → Run σ β}
    (later : ∀ middle state, run.Yields before middle state → (next middle).Succeeds state) :
    (run >>= next).Succeeds before ↔ run.Succeeds before := by
  rw [succeeds_bind]
  constructor
  · rintro ⟨middle, state, here, _⟩
    exact here.succeeds
  · rintro ⟨middle, state, here⟩
    exact ⟨middle, state, here, later middle state here⟩

theorem succeeds_pure (value : α) : (pure value : Run σ α).Succeeds before :=
  (yields_pure.mpr ⟨rfl, rfl⟩).succeeds

theorem succeeds_attempt {attempt : Attempt α} {next : α → Run σ β} :
    (ofAttempt attempt >>= next).Succeeds before ↔ ∃ value, attempt = .ok value ∧ (next value).Succeeds before := by
  rw [succeeds_bind]
  constructor
  · rintro ⟨value, state, here, later⟩
    obtain ⟨found, rfl⟩ := yields_ofAttempt.mp here
    exact ⟨value, found, later⟩
  · rintro ⟨value, found, later⟩
    exact ⟨value, before, yields_ofAttempt.mpr ⟨found, rfl⟩, later⟩

theorem succeeds_get {next : σ → Run σ β} : (get >>= next).Succeeds before ↔ (next before).Succeeds before :=
  (yields_get.mpr ⟨rfl, rfl⟩).succeeds_bind

/-- A loop succeeds exactly if every item meets a condition that decides its turn, in the state that the items before
lead to once they have met it. -/
theorem succeeds_each {items : List α} {step : α → Run σ Unit} {condition : α → Prop}
    (turn : ∀ done item rest state, items = done ++ item :: rest → (each done step).Yields before () state →
      (∀ earlier ∈ done, condition earlier) → ((step item).Succeeds state ↔ condition item)) :
    (each items step).Succeeds before ↔ ∀ item ∈ items, condition item := by
  -- The induction is on the items to come. Those behind have met the condition and have led to the state.
  have general : ∀ done rest state, items = done ++ rest → (each done step).Yields before () state →
      (∀ earlier ∈ done, condition earlier) →
        ((each rest step).Succeeds state ↔ ∀ item ∈ rest, condition item) := by
    intro done rest
    induction rest generalizing done with
    | nil =>
      intro state _ _ _
      rw [each_nil]
      exact iff_of_true (succeeds_pure ()) nofun
    | cons item rest ih =>
      intro state split reached earlier
      have here := turn done item rest state split reached earlier
      have later : condition item → ∀ next, (step item).Yields state () next →
          ((each rest step).Succeeds next ↔ ∀ item ∈ rest, condition item) := by
        intro met next yields
        refine ih (done ++ [item]) next (by simpa using split) ?_ fun other member => ?_
        · rw [each_append, each_cons, each_nil]
          exact yields_bind.mpr ⟨(), state, reached, yields_bind.mpr ⟨(), next, yields, yields_pure.mpr ⟨rfl, rfl⟩⟩⟩
        · rcases List.mem_append.mp member with old | new
          · exact earlier other old
          · exact List.mem_singleton.mp new ▸ met
      rw [each_cons, succeeds_bind, List.forall_mem_cons]
      constructor
      · rintro ⟨_, next, yields, whole⟩
        have met := here.mp yields.succeeds
        exact ⟨met, (later met next yields).mp whole⟩
      · rintro ⟨met, all⟩
        obtain ⟨_, next, yields⟩ := here.mpr met
        exact ⟨(), next, yields, (later met next yields).mpr all⟩
  refine general [] items before rfl ?_ nofun
  rw [each_nil]
  exact yields_pure.mpr ⟨rfl, rfl⟩

end

end Run

end LayerGraph
