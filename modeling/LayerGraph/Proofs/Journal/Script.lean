import LayerGraph.Journal.Basic
import LayerGraph.Proofs.Failure.Faults
import LayerGraph.Proofs.Markup.Blunt

/-! What an effect reports: the faults of its lines, and its script.

A line is looked at as markup only when it is kept, and what it quotes is part of its markup unless it
is escaped. So a report fails, if at all, because of a bracket in what it quotes. A script holds the lines that an
effect would report and the result that it would then come to, for every journal alike. The threshold decides no more
than which line stops the effect, if one does.
-/

set_option autoImplicit false

namespace LayerGraph

/-- A line that is kept under a threshold although its markup cannot be read. -/
def Severity.Breaks (severity : Severity) (threshold : Int) (message : String) (fault : Fault) : Prop :=
  threshold ≤ severity.number ∧
    ∃ defect, Markup.read (severity.mark ++ message) = .error defect ∧ fault = .markup defect

/-- A line that is not kept, or whose markup can be read. -/
def Severity.Shows (severity : Severity) (threshold : Int) (message : String) : Prop :=
  threshold ≤ severity.number → ∃ marked, Markup.read (severity.mark ++ message) = .ok marked

namespace Journal

open Run

variable {journal next : Journal} {severity : Severity} {message : String}

/-- A journal after a line that is reported, which has the mark of its severity. -/
def enter (journal : Journal) (severity : Severity) (message : String) : Journal :=
  if journal.keeps severity then journal.keep ⟨severity, severity.mark ++ message⟩ else journal

@[simp] theorem threshold_enter : (journal.enter severity message).threshold = journal.threshold := by
  unfold enter
  split <;> rfl

theorem perform_report : (report severity message).perform journal =
    ((if journal.keeps severity then
        (Markup.read (severity.mark ++ message)).mapError (fun defect => .fault (.markup defect)) >>=
          fun _ => .ok ()
      else .ok ()), journal.enter severity message) := by
  unfold report emit enter Run.perform
  dsimp only
  split
  · cases Markup.read (severity.mark ++ message) <;> rfl
  · rfl

theorem faults_report :
    (report severity message).Faults journal (severity.Breaks journal.threshold message) := by
  unfold Run.Faults
  rw [perform_report]
  refine (Attempt.Faults.ite (fun _ => (Attempt.faults_mapError _).before fun _ _ => Attempt.faultless_ok ())
    fun _ => Attempt.faultless_ok ()).congr fun fault => ?_
  simp [Severity.Breaks, keeps]

theorem yields_report {value : Unit} : (report severity message).Yields journal value next ↔
    severity.Shows journal.threshold message ∧ next = journal.enter severity message := by
  unfold Run.Yields
  rw [perform_report, Prod.mk.injEq, eq_comm (a := next)]
  refine and_congr_left fun _ => ?_
  unfold Severity.Shows keeps
  by_cases kept : journal.threshold ≤ severity.number
  · cases found : Markup.read (severity.mark ++ message) with
    | ok marked => simp [kept, Except.mapError, Bind.bind, Except.bind]
    | error defect => simp [kept, Except.mapError, Bind.bind, Except.bind]
  · simp [kept]

end Journal

/-- A line without tags is always shown. -/
theorem Severity.shows_tagless {severity : Severity} {message : String}
    (tagless : Markup.Tagless (severity.mark ++ message).toList) (threshold : Int) :
    severity.Shows threshold message :=
  fun _ => Markup.read_tagless tagless

open Run

/-- A line to be reported. -/
structure Line where
  severity : Severity
  message : String
  /-- Whether all integers in it can be shown. -/
  legible : Bool := true
  deriving DecidableEq, Repr

namespace Line

/-- Telling a line under a threshold: it fails if the line is kept and cannot be shown. -/
def tell (threshold : Int) (line : Line) : Attempt Unit :=
  if threshold ≤ line.severity.number then
    if line.legible then
      (Markup.read (line.severity.mark ++ line.message)).mapError (fun defect => .fault (.markup defect)) >>=
        fun _ => .ok ()
    else .fault .shownInteger
  else .ok ()

/-- Telling some lines, up to the first that fails. -/
def tellAll (threshold : Int) (lines : List Line) : Attempt Unit := forM lines (tell threshold)

/-- A line that is kept under a threshold and cannot be shown, with the fault that this ends in. -/
def Stops (line : Line) (threshold : Int) (fault : Fault) : Prop :=
  if line.legible then line.severity.Breaks threshold line.message fault
  else threshold ≤ line.severity.number ∧ fault = .shownInteger

section
variable {threshold : Int} {line : Line} {lines : List Line} {failure : Failure}

theorem tell_eq_error :
    line.tell threshold = .error failure ↔ ∃ fault, failure = .fault fault ∧ line.Stops threshold fault := by
  unfold tell Stops Severity.Breaks
  by_cases kept : threshold ≤ line.severity.number
  · rw [if_pos kept]
    cases line.legible with
    | true =>
      cases Markup.read (line.severity.mark ++ line.message) with
      | ok marked => simp [Except.mapError, Bind.bind, Except.bind]
      | error defect => simp [kept, Except.mapError, Bind.bind, Except.bind, eq_comm]
    | false => simp [kept, Attempt.fault, eq_comm]
  · simp [kept]

/-- What stops a line is its markup or an integer in it. -/
theorem Stops.kind {fault : Fault} (stops : line.Stops threshold fault) :
    (∃ defect, fault = .markup defect) ∨ fault = .shownInteger := by
  unfold Stops at stops
  split at stops
  · obtain ⟨_, defect, _, same⟩ := stops
    exact .inl ⟨defect, same⟩
  · exact .inr stops.2

/-- What is told fails with the fault of a line. -/
theorem stops_of_tellAll (failed : tellAll threshold lines = .error failure) :
    ∃ line ∈ lines, ∃ fault, failure = .fault fault ∧ line.Stops threshold fault := by
  obtain ⟨front, line, back, rfl, _, failed⟩ := Attempt.forM_eq_error.mp failed
  exact ⟨line, List.mem_append_right _ List.mem_cons_self, tell_eq_error.mp failed⟩

theorem tellAll_append (front back : List Line) :
    tellAll threshold (front ++ back) = tellAll threshold front >>= fun _ => tellAll threshold back :=
  List.forM_append

theorem tellAll_singleton (line : Line) : tellAll threshold [line] = line.tell threshold := by
  unfold tellAll
  rw [List.forM_cons, List.forM_nil]
  cases line.tell threshold <;> rfl

end

end Line

/-- Lines with what comes of an effect when all of them are told: its result, and the part of the state beside the
journal. -/
structure Script (ρ α : Type) where
  lines : List Line
  result : Attempt α
  rest : ρ

/-- The result of a script under a threshold: the first line that stops it comes before its own result. -/
def Script.ending {ρ α : Type} (script : Script ρ α) (threshold : Int) : Attempt α :=
  Line.tellAll threshold script.lines >>= fun _ => script.result

/-- One of its lines stops a script, so that it ends in the fault of that line. -/
def Script.Stopped {ρ α : Type} (script : Script ρ α) (threshold : Int) : Prop :=
  ∃ line ∈ script.lines, ∃ fault, line.Stops threshold fault ∧ script.ending threshold = .error (.fault fault)

/-- A script ends in its own result, unless a line stops it. -/
theorem Script.ending_or_stopped {ρ α : Type} (script : Script ρ α) (threshold : Int) :
    script.ending threshold = script.result ∨ script.Stopped threshold := by
  unfold Stopped ending
  cases told : Line.tellAll threshold script.lines with
  | ok _ => exact .inl rfl
  | error stopped =>
    obtain ⟨line, member, fault, rfl, stops⟩ := Line.stops_of_tellAll told
    exact .inr ⟨line, member, fault, stops, rfl⟩

namespace Run

variable {σ ρ α β : Type} {place : ρ → Journal → σ} {rest : ρ}

/-- An effect follows a script from every state with a given part beside its journal, of which `place` makes these
states: a line stops it, or it ends as the script does. -/
def Follows (place : ρ → Journal → σ) (run : Run σ α) (rest : ρ) (script : Script ρ α) : Prop :=
  ∀ journal,
    (∃ stopped, Line.tellAll journal.threshold script.lines = .error stopped ∧
      (run.perform (place rest journal)).1 = .error stopped) ∨
    Line.tellAll journal.threshold script.lines = .ok () ∧ ∃ later : Journal, later.threshold = journal.threshold ∧
      run.perform (place rest journal) = (script.result, place script.rest later)

/-- An effect has a script from every state with a given part beside its journal. -/
def Scripted (place : ρ → Journal → σ) (run : Run σ α) (rest : ρ) : Prop :=
  ∃ script, Follows place run rest script

theorem Follows.ending {run : Run σ α} {script : Script ρ α} (follows : Follows place run rest script)
    (journal : Journal) : (run.perform (place rest journal)).1 = script.ending journal.threshold := by
  unfold Script.ending
  rcases follows journal with ⟨stopped, told, failed⟩ | ⟨told, later, _, performed⟩
  · rw [failed, told]
    rfl
  · rw [performed, told]
    rfl

/-- An effect without lines. -/
theorem follows_silent {run : Run σ α} {result : Attempt α} {left : ρ}
    (performed : ∀ journal, run.perform (place rest journal) = (result, place left journal)) :
    Follows place run rest ⟨[], result, left⟩ :=
  fun journal => .inr ⟨rfl, journal, rfl, performed journal⟩

/-- An effect that is one line. -/
theorem follows_line {run : Run σ Unit} (line : Line) (keep : Journal → Journal)
    (steady : ∀ journal, (keep journal).threshold = journal.threshold)
    (performed : ∀ journal,
      run.perform (place rest journal) = (line.tell journal.threshold, place rest (keep journal))) :
    Follows place run rest ⟨[line], .ok (), rest⟩ := by
  intro journal
  dsimp only
  rw [performed, Line.tellAll_singleton]
  cases line.tell journal.threshold with
  | ok _ => exact .inr ⟨rfl, keep journal, steady journal, rfl⟩
  | error stopped => exact .inl ⟨stopped, rfl, rfl⟩

section
variable {run : Run σ α} {next : α → Run σ β} {lines : List Line} {left : ρ}

/-- What stops the first part stops the whole. -/
theorem error_bind {before : σ} {failure : Failure} (failed : (run.perform before).1 = .error failure) :
    ((run >>= next).perform before).1 = .error failure := by
  rw [perform_bind]
  generalize run.perform before = performed at failed ⊢
  obtain ⟨result, state⟩ := performed
  cases failed
  rfl

/-- One script after the other. -/
theorem Follows.bind {value : α} {others : List Line} {result : Attempt β} {final : ρ}
    (first : Follows place run rest ⟨lines, .ok value, left⟩)
    (later : Follows place (next value) left ⟨others, result, final⟩) :
    Follows place (run >>= next) rest ⟨lines ++ others, result, final⟩ := by
  intro journal
  rw [Line.tellAll_append]
  rcases first journal with ⟨stopped, told, failed⟩ | ⟨told, middle, same, performed⟩
  · exact .inl ⟨stopped, by rw [told]; rfl, error_bind failed⟩
  · rw [told, perform_bind, performed, ← same]
    exact later middle

/-- Nothing follows a failure. -/
theorem Follows.error_bind {failure : Failure} (first : Follows place run rest ⟨lines, .error failure, left⟩) :
    Follows place (run >>= next) rest ⟨lines, .error failure, left⟩ := by
  intro journal
  rcases first journal with ⟨stopped, told, failed⟩ | ⟨told, middle, same, performed⟩
  · exact .inl ⟨stopped, told, Run.error_bind failed⟩
  · exact .inr ⟨told, middle, same, by rw [perform_bind, performed]⟩

theorem Scripted.bind (first : Scripted place run rest) (later : ∀ value left, Scripted place (next value) left) :
    Scripted place (run >>= next) rest := by
  obtain ⟨⟨lines, result, left⟩, follows⟩ := first
  cases result with
  | error failure => exact ⟨_, follows.error_bind⟩
  | ok value =>
    obtain ⟨_, followed⟩ := later value left
    exact ⟨_, follows.bind followed⟩

end

end Run

/-- The journal as a state that there is nothing beside. -/
def Journal.alone (_ : Unit) (journal : Journal) : Journal := journal

namespace Journal

theorem follows_attempt {α : Type} (attempt : Attempt α) :
    Follows alone (Run.ofAttempt attempt) () ⟨[], attempt, ()⟩ :=
  follows_silent fun _ => rfl

theorem follows_report (severity : Severity) (message : String) :
    Follows alone (report severity message) () ⟨[⟨severity, message, true⟩], .ok (), ()⟩ := by
  refine follows_line _ (enter · severity message) (fun _ => threshold_enter) fun journal => ?_
  change (report severity message).perform journal = _
  rw [perform_report, keeps, Line.tell]
  simp only [decide_eq_true_eq, ↓reduceIte]
  rfl

end Journal

end LayerGraph
