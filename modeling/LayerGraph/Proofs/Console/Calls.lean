import LayerGraph.Console.Basic
import LayerGraph.Proofs.Failure.Run
import Mathlib.Data.List.Basic

/-! Consoles after any calls.

The screen in use, the level and what every screen shows are functions of the calls alone: the screen is the one that was
last put to use, the level is the last one that was set since the last reset, and every record is shown once, on the screen
that was in use when it was logged, if the level let it pass then. So no handler is left over when screens change, and no
level is lost.
-/

set_option autoImplicit false

namespace LayerGraph

namespace Console

/-- What a client may do with a console. -/
inductive Call where
  /-- Use a screen that has not been in use. -/
  | install (screen : Screen)
  /-- Use a screen again. -/
  | use (place : Nat)
  | reset
  | setLevel (value : Json)
  | log (severity : Severity) (message : String)

namespace Call

def run : Call → Run Console Unit
  | install screen => modify (Console.install screen)
  | use place => modify (Console.use place)
  | reset => modify Console.reset
  | setLevel value => Console.setLevel value
  | log severity message => Console.log severity message

/-- A screen that is used again is there. -/
def Possible (console : Console) : Call → Prop
  | use place => place < console.screens.length
  | install _ | reset | setLevel _ | log .. => True

end Call

/-- Calls, the latest one first. -/
abbrev History := List Call

/-- A console after some calls, whether they failed or not. -/
inductive Reached : History → Console → Prop
  | start : Reached [] Console.start
  | call {earlier : History} {console : Console} (reached : Reached earlier console) (call : Call)
      (possible : call.Possible console) : Reached (call :: earlier) (call.run.perform console).2

/-! ### What calls ask for -/

/-- The screen that a call brings. -/
def Call.screen? : Call → Option Screen
  | install screen => some screen
  | reset => some .standard
  | use _ | setLevel _ | log .. => none

/-- The place of the screen that a call puts to use, if there are `count` screens before. -/
def Call.place? (count : Nat) : Call → Option Nat
  | install _ | reset => some count
  | use place => some place
  | setLevel _ | log .. => none

def Call.resets : Call → Bool
  | reset => true
  | install _ | use _ | setLevel _ | log .. => false

/-- The level that a call sets; what is no level sets none. -/
def Call.level? : Call → Option Level
  | setLevel value => (levelOf value).toOption
  | install _ | use _ | reset | log .. => none

namespace History

/-- The screens that there are after calls, as they came. -/
def screens : History → List Screen
  | [] => [.standard]
  | call :: earlier => screens earlier ++ call.screen?.toList

/-- The place of the screen that was last put to use. -/
def place : History → Nat
  | [] => 0
  | call :: earlier => (call.place? (screens earlier).length).getD (place earlier)

/-- The level that was last set since the last reset. -/
def level (history : History) : Level :=
  ((history.takeWhile fun call => !call.resets).findSome? Call.level?).getD defaultLevel

end History

/-- A record that is shown on the screen at a place. -/
structure Delivery where
  place : Nat
  severity : Severity
  marked : Markup.Marked

/-- What a call has shown after earlier ones: a record that the level lets pass, if its markup can be read. -/
def Call.delivery? (earlier : History) : Call → Option Delivery
  | log severity message =>
    if earlier.level.value ≤ severity.number then
      match Markup.read (severity.mark ++ message) with
      | .ok marked => some ⟨earlier.place, severity, marked⟩
      | .error _ => none
    else none
  | install _ | use _ | reset | setLevel _ => none

/-- The records that have been shown, in the order in which they were logged. -/
def History.deliveries : History → List Delivery
  | [] => []
  | call :: earlier => deliveries earlier ++ (call.delivery? earlier).toList

/-- The lines of a record on a screen. -/
def Delivery.lines (screen : Screen) (delivery : Delivery) : List String :=
  (screen.showRecord delivery.severity delivery.marked).lines

/-- The lines of a record that come to the standard output, as its screen does not record. -/
def Delivery.printed (screens : List Screen) (delivery : Delivery) : List String :=
  match screens[delivery.place]? with
  | some screen => if screen.records then [] else delivery.lines screen
  | none => []

/-- A screen after the records that are shown at its place. -/
def withDeliveries (place : Nat) (deliveries : List Delivery) (screen : Screen) : Screen :=
  if screen.records then
    { screen with
      transcript := screen.transcript ++ (deliveries.filter (·.place = place)).flatMap (Delivery.lines screen) }
  else screen

/-- What calls come to. -/
structure Kept (history : History) (console : Console) : Prop where
  handlers : console.handlers = [history.place]
  active : console.active = history.place
  screen : console.screens[history.place]? = some console.screen
  threshold : console.journal.threshold = history.level.value
  refuses : ∀ value failure, levelOf value = .error failure →
    (setLevel value).perform console = (.error failure, console)
  logs : ∀ severity message marked, Markup.read (severity.mark ++ message) = .ok marked →
    ((log severity message).perform console).1 = .ok ()
  screens : console.screens = history.screens.mapIdx fun place => withDeliveries place history.deliveries
  output : console.output = history.deliveries.flatMap (Delivery.printed history.screens)

section
variable {console : Console} {severity : Severity} {message : String} {marked : Markup.Marked} {lines : List String}
  {place : Nat} {screen : Screen}

theorem perform_setLevel (value : Json) : (setLevel value).perform console =
    match levelOf value with
    | .ok level => (.ok (), { console with
        level := level, journal := { console.journal with threshold := level.value } })
    | .error failure => (.error failure, console) := by
  rw [setLevel, Run.perform_bind, Run.perform_ofAttempt]
  cases levelOf value <;> rfl

theorem perform_log : (log severity message).perform console =
    if console.journal.keeps severity then
      let kept := { console with journal := console.journal.keep ⟨severity, severity.mark ++ message⟩ }
      match Markup.read (severity.mark ++ message) with
      | .ok marked => (.ok (), deliver severity marked kept)
      | .error defect => (.error (.fault (.markup defect)), kept)
    else (.ok (), console) := by
  have got : (get : Run Console Console).perform console = (.ok console, console) := rfl
  rw [log, Run.perform_bind, got]
  by_cases kept : console.journal.keeps severity = true
  · simp only [kept, ↓reduceIte]
    cases found : Markup.read (severity.mark ++ message) with
    | ok marked =>
      have read : readMarkup (severity.mark ++ message) = .ok marked := by rw [readMarkup, found]; rfl
      rw [read]
      rfl
    | error defect =>
      have unread : readMarkup (severity.mark ++ message) = .error (.fault (.markup defect)) := by
        rw [readMarkup, found]; rfl
      rw [unread]
      rfl
  · simp only [kept]
    rfl

theorem deliver_eq (handled : console.handlers = [place]) (here : console.screens[place]? = some screen) :
    deliver severity marked console = show? (screen.showRecord severity marked).lines place console := by
  rw [deliver, handled, List.foldl_cons, List.foldl_nil, here]

theorem show?_of_records (here : console.screens[place]? = some screen) (records : screen.records = true) :
    show? lines place console = { console with
      screens := console.screens.set place { screen with transcript := screen.transcript ++ lines } } := by
  simp only [show?, here, records, ↓reduceIte]

theorem show?_of_prints (here : console.screens[place]? = some screen) (prints : screen.records = false) :
    show? lines place console = { console with output := console.output ++ lines } := by
  simp only [show?, here, prints, Bool.false_eq_true, ↓reduceIte]

theorem show?_frame (lines : List String) (place : Nat) (console : Console) : ∃ screens output,
    show? lines place console = { console with screens := screens, output := output } := by
  unfold show?
  split
  · exact ⟨console.screens, console.output, rfl⟩
  · split
    · exact ⟨_, console.output, rfl⟩
    · exact ⟨console.screens, _, rfl⟩

end

/-! ### Screens and what they have shown -/

section
variable {screen : Screen} {screens : List Screen} {place : Nat} {deliveries : List Delivery} {delivery : Delivery}

@[simp] theorem records_withDeliveries : (withDeliveries place deliveries screen).records = screen.records := by
  unfold withDeliveries
  split <;> rfl

/-- The lines of a record depend on the width of a screen alone. -/
@[simp] theorem lines_withDeliveries : delivery.lines (withDeliveries place deliveries screen) = delivery.lines screen := by
  unfold withDeliveries
  split <;> rfl

theorem withDeliveries_of_prints (prints : screen.records = false) : withDeliveries place deliveries screen = screen := by
  simp [withDeliveries, prints]

theorem withDeliveries_unused (unused : ∀ delivery ∈ deliveries, delivery.place ≠ place) :
    withDeliveries place deliveries screen = screen := by
  have none : deliveries.filter (·.place = place) = [] := by simpa using unused
  simp [withDeliveries, none]

theorem withDeliveries_append_other (other : delivery.place ≠ place) :
    withDeliveries place (deliveries ++ [delivery]) screen = withDeliveries place deliveries screen := by
  simp [withDeliveries, List.filter_append, other]

theorem withDeliveries_append_here (here : delivery.place = place) (records : screen.records = true) :
    withDeliveries place (deliveries ++ [delivery]) screen = { screen with
      transcript := (withDeliveries place deliveries screen).transcript ++ delivery.lines screen } := by
  simp [withDeliveries, List.filter_append, here, records]

theorem mapIdx_bring (inside : ∀ delivery ∈ deliveries, delivery.place < screens.length) :
    (screens ++ [screen]).mapIdx (fun place => withDeliveries place deliveries) =
      screens.mapIdx (fun place => withDeliveries place deliveries) ++ [screen] := by
  rw [List.mapIdx_concat, withDeliveries_unused fun delivery member => Nat.ne_of_lt (inside delivery member)]

theorem printed_append (inside : delivery.place < screens.length) (more : List Screen) :
    delivery.printed (screens ++ more) = delivery.printed screens := by
  rw [Delivery.printed, List.getElem?_append_left inside, Delivery.printed]

/-- A record is shown on the screen at its place, and on no other. -/
theorem mapIdx_deliver (here : screens[delivery.place]? = some screen) (records : screen.records = true) :
    (screens.mapIdx fun place => withDeliveries place (deliveries ++ [delivery])) =
      (screens.mapIdx fun place => withDeliveries place deliveries).set delivery.place { screen with
        transcript := (withDeliveries delivery.place deliveries screen).transcript ++ delivery.lines screen } := by
  apply List.ext_getElem?
  intro place
  -- At its own place the lines come behind the others; at any other place the filter drops them.
  rw [List.getElem?_mapIdx, List.getElem?_set, List.length_mapIdx, List.getElem?_mapIdx]
  by_cases same : delivery.place = place
  · subst same
    rw [if_pos rfl, if_pos (List.getElem?_eq_some_iff.mp here).1, here, Option.map_some,
      withDeliveries_append_here rfl records]
  · rw [if_neg same]
    exact congrFun (congrArg Option.map (funext fun _ => withDeliveries_append_other same)) _

theorem mapIdx_print (here : screens[delivery.place]? = some screen) (prints : screen.records = false) :
    (screens.mapIdx fun place => withDeliveries place (deliveries ++ [delivery])) =
      screens.mapIdx fun place => withDeliveries place deliveries := by
  apply List.ext_getElem?
  intro place
  rw [List.getElem?_mapIdx, List.getElem?_mapIdx]
  by_cases same : delivery.place = place
  · subst same
    rw [here, Option.map_some, Option.map_some, withDeliveries_of_prints prints, withDeliveries_of_prints prints]
  · exact congrFun (congrArg Option.map (funext fun _ => withDeliveries_append_other same)) _

end

/-! ### One call after the other -/

namespace History

variable {earlier : History} {call : Call}

theorem level_cons (stays : call.resets = false) : level (call :: earlier) = call.level?.getD earlier.level := by
  rw [level, List.takeWhile_cons_of_pos (by simp [stays]), List.findSome?_cons]
  cases call.level? <;> rfl

theorem screens_cons (brings : call.screen? = none) : screens (call :: earlier) = screens earlier := by
  rw [screens, brings]
  exact List.append_nil _

theorem deliveries_cons (silent : call.delivery? earlier = none) :
    deliveries (call :: earlier) = deliveries earlier := by
  rw [deliveries, silent]
  exact List.append_nil _

end History

/-- The level of a console is the one that calls have set. -/
structure Levelled (history : History) (console : Console) : Prop where
  level : console.level = history.level
  threshold : console.journal.threshold = history.level.value

/-- A console has the screens that calls have brought, one handler, and has shown every record once. -/
structure Screened (history : History) (console : Console) : Prop where
  handlers : console.handlers = [history.place]
  active : console.active = history.place
  present : history.place < history.screens.length
  inside : ∀ delivery ∈ history.deliveries, delivery.place < history.screens.length
  screens : console.screens = history.screens.mapIdx fun place => withDeliveries place history.deliveries
  output : console.output = history.deliveries.flatMap (Delivery.printed history.screens)

section
variable {history : History} {console next : Console} {call : Call}

theorem Screened.length_screens (screened : Screened history console) :
    console.screens.length = history.screens.length := by
  rw [screened.screens, List.length_mapIdx]

/-- A call that brings a screen puts it to use. -/
theorem Screened.bring (screened : Screened history console) {screen : Screen} (brings : call.screen? = some screen)
    (puts : call.place? history.screens.length = some history.screens.length)
    (silent : call.delivery? history = none) (handlers : next.handlers = [console.screens.length])
    (active : next.active = console.screens.length) (screens : next.screens = console.screens ++ [screen])
    (output : next.output = console.output) : Screened (call :: history) next := by
  have place : History.place (call :: history) = history.screens.length := by rw [History.place, puts, Option.getD_some]
  have whole : History.screens (call :: history) = history.screens ++ [screen] := by
    rw [History.screens, brings, Option.toList_some]
  have same := History.deliveries_cons silent
  rw [screened.length_screens] at handlers active
  constructor
  · rw [place, handlers]
  · rw [place, active]
  · rw [place, whole, List.length_append]
    exact Nat.lt_succ_self _
  · intro delivery member
    rw [same] at member
    rw [whole, List.length_append]
    exact Nat.lt_succ_of_lt (screened.inside delivery member)
  -- Nothing was shown at the new place, so the screen there is as it came.
  · rw [whole, same, mapIdx_bring screened.inside, ← screened.screens, screens]
  · rw [whole, same, output, screened.output]
    exact List.flatMap_congr fun delivery member => (printed_append (screened.inside delivery member) _).symm

/-- A call that brings no screen and shows nothing. -/
theorem Screened.keep (screened : Screened history console) (brings : call.screen? = none)
    (silent : call.delivery? history = none) (handlers : next.handlers = [History.place (call :: history)])
    (active : next.active = History.place (call :: history))
    (present : History.place (call :: history) < history.screens.length) (screens : next.screens = console.screens)
    (output : next.output = console.output) : Screened (call :: history) next := by
  have whole : History.screens (call :: history) = history.screens := History.screens_cons brings
  have same := History.deliveries_cons silent
  refine ⟨handlers, active, whole ▸ present, ?_, ?_, ?_⟩
  · rw [whole, same]
    exact screened.inside
  · rw [whole, same, screens, screened.screens]
  · rw [whole, same, output, screened.output]

/-- The screen in use as it came, and as it is. -/
theorem Screened.exists_screen (screened : Screened history console) : ∃ screen,
    history.screens[history.place]? = some screen ∧
      console.screens[history.place]? = some (withDeliveries history.place history.deliveries screen) := by
  have here := List.getElem?_eq_getElem screened.present
  exact ⟨_, here, by rw [screened.screens, List.getElem?_mapIdx, here, Option.map_some]⟩

section
variable {delivery : Delivery} {screen : Screen}

/-- What the screens have shown once another record is shown. -/
theorem Screened.screens_show? (screened : Screened history console) (here : delivery.place = history.place)
    (came : history.screens[history.place]? = some screen)
    (stands : console.screens[history.place]? = some (withDeliveries history.place history.deliveries screen)) :
    (show? (delivery.lines screen) delivery.place console).screens =
      history.screens.mapIdx fun place => withDeliveries place (history.deliveries ++ [delivery]) := by
  rw [← here] at came stands
  cases records : screen.records with
  | true =>
    rw [show?_of_records stands (records_withDeliveries.trans records), mapIdx_deliver came records, ← screened.screens]
    simp [withDeliveries, records]
  | false =>
    rw [show?_of_prints stands (records_withDeliveries.trans records), mapIdx_print came records]
    exact screened.screens

theorem Screened.output_show? (screened : Screened history console) (here : delivery.place = history.place)
    (came : history.screens[history.place]? = some screen)
    (stands : console.screens[history.place]? = some (withDeliveries history.place history.deliveries screen)) :
    (show? (delivery.lines screen) delivery.place console).output =
      (history.deliveries ++ [delivery]).flatMap (Delivery.printed history.screens) := by
  rw [← here] at came stands
  have printed : delivery.printed history.screens = if screen.records then [] else delivery.lines screen := by
    rw [Delivery.printed, came]
  rw [List.flatMap_append, List.flatMap_singleton, printed, ← screened.output]
  cases records : screen.records with
  | true =>
    rw [show?_of_records stands (records_withDeliveries.trans records)]
    exact (List.append_nil _).symm
  | false =>
    rw [show?_of_prints stands (records_withDeliveries.trans records)]
    rfl

end

/-- A delivery that a call makes goes to the screen in use. -/
theorem Screened.deliver (screened : Screened history console) {delivery : Delivery}
    (here : delivery.place = history.place) (brings : call.screen? = none)
    (place : History.place (call :: history) = history.place) (delivers : call.delivery? history = some delivery) :
    Screened (call :: history) (console.deliver delivery.severity delivery.marked) := by
  have whole : History.screens (call :: history) = history.screens := History.screens_cons brings
  have more : History.deliveries (call :: history) = history.deliveries ++ [delivery] := by
    rw [History.deliveries, delivers, Option.toList_some]
  obtain ⟨screen, came, stands⟩ := screened.exists_screen
  have shown : console.deliver delivery.severity delivery.marked =
      show? (delivery.lines screen) delivery.place console := by
    rw [deliver_eq screened.handlers stands, here, ← Delivery.lines, lines_withDeliveries]
  -- Showing touches the screens and the output alone.
  obtain ⟨_, _, frame⟩ := show?_frame (delivery.lines screen) delivery.place console
  rw [shown]
  constructor
  · rw [frame, place]
    exact screened.handlers
  · rw [frame, place]
    exact screened.active
  · rw [place, whole]
    exact screened.present
  · rw [whole, more]
    intro delivery member
    rcases List.mem_append.mp member with old | new
    · exact screened.inside delivery old
    · rw [List.mem_singleton.mp new, here]
      exact screened.present
  · rw [whole, more]
    exact screened.screens_show? here came stands
  · rw [whole, more]
    exact screened.output_show? here came stands

theorem Levelled.keep (levelled : Levelled history console) (stays : call.resets = false) (sets : call.level? = none)
    (level : next.level = console.level) (threshold : next.journal.threshold = console.journal.threshold) :
    Levelled (call :: history) next := by
  have same : History.level (call :: history) = history.level := by
    rw [History.level_cons stays, sets, Option.getD_none]
  exact ⟨by rw [same, level, levelled.level], by rw [same, threshold, levelled.threshold]⟩

theorem Levelled.deliver (levelled : Levelled history console) {place : Nat} {screen : Screen}
    (handled : console.handlers = [place]) (here : console.screens[place]? = some screen) (severity : Severity)
    (marked : Markup.Marked) : Levelled history (console.deliver severity marked) := by
  obtain ⟨_, _, frame⟩ := show?_frame (screen.showRecord severity marked).lines place console
  rw [deliver_eq handled here, frame]
  exact ⟨levelled.level, levelled.threshold⟩

/-- What holds of a console and the calls that have led to it. -/
structure Steady (history : History) (console : Console) : Prop extends
  Levelled history console, Screened history console

namespace Steady

theorem start : Steady [] Console.start where
  level := rfl
  threshold := rfl
  handlers := rfl
  active := rfl
  present := Nat.zero_lt_one
  inside := fun _ none => nomatch none
  screens := rfl
  output := rfl

theorem install (steady : Steady history console) (screen : Screen) :
    Steady (.install screen :: history) (console.install screen) :=
  ⟨⟨steady.level, congrArg Level.value steady.level⟩,
    steady.toScreened.bring rfl rfl rfl rfl rfl rfl rfl⟩

theorem reset (steady : Steady history console) : Steady (.reset :: history) console.reset :=
  ⟨⟨rfl, rfl⟩, steady.toScreened.bring rfl rfl rfl rfl rfl rfl rfl⟩

theorem use (steady : Steady history console) {place : Nat} (there : place < console.screens.length) :
    Steady (.use place :: history) (console.use place) :=
  ⟨⟨steady.level, congrArg Level.value steady.level⟩,
    steady.toScreened.keep rfl rfl rfl rfl (steady.toScreened.length_screens ▸ there) rfl rfl⟩

theorem setLevel (steady : Steady history console) (value : Json) :
    Steady (.setLevel value :: history) ((Console.setLevel value).perform console).2 := by
  -- Whether the level is set or refused, screens and handlers stay.
  have screened {next : Console} (handlers : next.handlers = console.handlers) (active : next.active = console.active)
      (screens : next.screens = console.screens) (output : next.output = console.output) :
      Screened (.setLevel value :: history) next :=
    steady.toScreened.keep rfl rfl (handlers.trans steady.handlers) (active.trans steady.active) steady.present
      screens output
  have sets : History.level (.setLevel value :: history) = (levelOf value).toOption.getD history.level :=
    History.level_cons rfl
  rw [perform_setLevel]
  cases given : levelOf value with
  | ok level =>
    rw [given] at sets
    exact ⟨⟨sets.symm, congrArg Level.value sets.symm⟩, screened rfl rfl rfl rfl⟩
  | error failure =>
    rw [given] at sets
    exact ⟨⟨steady.level.trans sets.symm, steady.threshold.trans (congrArg Level.value sets.symm)⟩,
      screened rfl rfl rfl rfl⟩

theorem keep (steady : Steady history console) (record : Record) :
    Steady history { console with journal := console.journal.keep record } :=
  ⟨⟨steady.level, steady.threshold⟩,
    ⟨steady.handlers, steady.active, steady.present, steady.inside, steady.screens, steady.output⟩⟩

theorem silent (steady : Steady history console) {severity : Severity} {message : String}
    (silent : Call.delivery? history (.log severity message) = none) : Steady (.log severity message :: history) console :=
  ⟨steady.toLevelled.keep rfl rfl rfl rfl,
    steady.toScreened.keep rfl silent steady.handlers steady.active steady.present rfl rfl⟩

theorem deliver (steady : Steady history console) {severity : Severity} {message : String} (delivery : Delivery)
    (here : delivery.place = history.place)
    (delivers : Call.delivery? history (.log severity message) = some delivery) :
    Steady (.log severity message :: history) (console.deliver delivery.severity delivery.marked) := by
  obtain ⟨screen, -, stands⟩ := steady.toScreened.exists_screen
  have levelled := steady.toLevelled.deliver steady.handlers stands delivery.severity delivery.marked
  exact ⟨levelled.keep rfl rfl rfl rfl, steady.toScreened.deliver here rfl rfl delivers⟩

theorem log (steady : Steady history console) (severity : Severity) (message : String) :
    Steady (.log severity message :: history) ((Console.log severity message).perform console).2 := by
  have keeps : console.journal.keeps severity = decide (history.level.value ≤ severity.number) := by
    rw [Journal.keeps, steady.threshold]
  rw [perform_log, keeps]
  -- A record below the threshold goes nowhere; one whose markup is broken comes to the journal, and to no screen.
  by_cases passes : history.level.value ≤ severity.number
  · rw [if_pos (decide_eq_true passes)]
    have kept := steady.keep ⟨severity, severity.mark ++ message⟩
    cases read : Markup.read (severity.mark ++ message) with
    | ok marked =>
      have delivers : Call.delivery? history (.log severity message) = some ⟨history.place, severity, marked⟩ := by
        simp only [Call.delivery?, if_pos passes, read]
      exact kept.deliver ⟨history.place, severity, marked⟩ rfl delivers
    | error defect => exact kept.silent (by simp only [Call.delivery?, if_pos passes, read])
  · rw [if_neg (by simpa using passes)]
    exact steady.silent (by simp only [Call.delivery?, if_neg passes])

theorem step (steady : Steady history console) (possible : call.Possible console) :
    Steady (call :: history) (call.run.perform console).2 := by
  cases call with
  | install screen => exact steady.install screen
  | use place => exact steady.use possible
  | reset => exact steady.reset
  | setLevel value => exact steady.setLevel value
  | log severity message => exact steady.log severity message

theorem of_reached (reached : Reached history console) : Steady history console := by
  induction reached with
  | start => exact start
  | call _ _ possible steady => exact steady.step possible

end Steady

/-- A screen that the calls have brought can be used again. -/
theorem Reached.use (reached : Reached history console) (place : Nat) (there : place < history.screens.length) :
    Reached (.use place :: history) ((Call.use place).run.perform console).2 :=
  reached.call (.use place) (show place < console.screens.length from (Steady.of_reached reached).toScreened.length_screens ▸ there)

end

end Console

end LayerGraph
