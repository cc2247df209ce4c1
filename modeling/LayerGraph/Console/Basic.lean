import LayerGraph.Console.Screen
import LayerGraph.Json.Basic

/-! The console: the screen in use, the level that is kept, and the journal of records.

Records go to the screens that handlers name. Installing a screen removes every handler and adds one
for that screen; the level that is kept outlives the change and becomes the threshold again.
-/

set_option autoImplicit false

namespace LayerGraph

open Text

/-- A level as it was given: a number, or a truth value that counts as one or zero. -/
inductive Level where
  | number (value : Int)
  | truth (value : Bool)
  deriving DecidableEq, Repr

def Level.value : Level → Int
  | .number n => n
  | .truth b => if b then 1 else 0

structure Console where
  /-- Every screen installed so far; handlers and the screen in use are places in this list. -/
  screens : List Screen
  active : Nat
  handlers : List Nat
  level : Level
  journal : Journal
  /-- Lines on the standard output that nobody has taken yet. -/
  output : List String
  deriving DecidableEq, Repr

namespace Console

/-- The level that a fresh console has. -/
def defaultLevel : Level := .number (Severity.number .info)

/-- Handle records by the screen in use alone, under the level that is kept. -/
def installHandler (console : Console) : Console :=
  { console with
    handlers := [console.active]
    journal := { console.journal with threshold := console.level.value } }

/-- Use the screen at a place. -/
def use (place : Nat) (console : Console) : Console := installHandler { console with active := place }

/-- Use another screen. -/
def install (screen : Screen) (console : Console) : Console :=
  use console.screens.length { console with screens := console.screens ++ [screen] }

/-- Return to a screen on the standard output and to the default level. -/
def reset (console : Console) : Console :=
  install .standard { console with level := defaultLevel }

def start : Console := reset ⟨[], 0, [], defaultLevel, {}, []⟩

/-- The screen in use. -/
def screen (console : Console) : Screen := (console.screens[console.active]?).getD .standard

/-! ### Levels -/

/-- The level as it was given. -/
def shownLevel (console : Console) : Json :=
  match console.level with
  | .number n => .int n
  | .truth b => .bool b

/-- The number of a level's name; some levels have two names. -/
def levelNumber? (name : String) : Option Int :=
  match name with
  | "FATAL" => some 50
  | "WARN" => some 30
  | "NOTSET" => some 0
  | name => (Severity.ofName? name).map Severity.number

/-- A level as a number or as a name in any case. -/
def levelOf (value : Json) : Attempt Level :=
  match value with
  | .int n => .ok (.number n)
  | .bool b => .ok (.truth b)
  | .str name =>
    match levelNumber? (upper (strip name)) with
    | some n => .ok (.number n)
    | none => .fault (.logLevel value.shown)
  | value => .fault (.logLevel value.shown)

/-- Change the level; what is no level changes nothing. -/
def setLevel (value : Json) : Run Console Unit := do
  let level ← Run.ofAttempt (levelOf value)
  modify fun console =>
    { console with level := level, journal := { console.journal with threshold := level.value } }

/-! ### Showing -/

/-- Show lines on a screen. -/
def show? (lines : List String) (place : Nat) (console : Console) : Console :=
  match console.screens[place]? with
  | none => console
  | some screen =>
    if screen.records then
      let shown := { screen with transcript := screen.transcript ++ lines }
      { console with screens := console.screens.set place shown }
    else { console with output := console.output ++ lines }

/-- Show a record on the screen of every handler, as far as it can be shown. -/
def deliver (severity : Severity) (marked : Markup.Marked) (console : Console) : Console :=
  console.handlers.foldl
    (fun console place =>
      match console.screens[place]? with
      | some screen => show? (screen.showRecord severity marked).lines place console
      | none => console)
    console

/-- The fault of a text that is not laid out. -/
def layoutFault : Layout.Defect → Fault
  | .colour defect => .markup (.colour defect)
  | .cut .noCells => .quotientByZero
  | .cut .beyondEnd => .indexRange

/-- The text of markup with its styles. -/
def readMarkup (markup : String) : Attempt Markup.Marked :=
  (Markup.read markup).mapError fun defect => .fault (.markup defect)

/-- Log a message: a record at or above the threshold is kept and then shown. -/
def log (severity : Severity) (message : String) : Run Console Unit := do
  if (← get).journal.keeps severity then
    let markup := severity.mark ++ message
    -- The record is kept even if its markup turns out to be broken.
    modify fun console => { console with journal := console.journal.keep ⟨severity, markup⟩ }
    let marked ← Run.ofAttempt (readMarkup markup)
    modify (deliver severity marked)

/-- Print a text on the screen in use, as far as it can be shown. -/
def print (markup : String) : Run Console Unit := do
  let marked ← Run.ofAttempt (readMarkup markup)
  let shown := (← get).screen.showText marked
  modify fun console => show? shown.lines console.active console
  match shown.defect with
  | some defect => Run.ofAttempt (.fault (layoutFault defect))
  | none => return

/-! ### Looking back -/

/-- The transcript of the screen in use, which is emptied if asked to. -/
def transcript (clear : Bool := true) : Run Console (List String) := do
  let console ← get
  let screen := console.screen
  if screen.records then
    if clear then
      set { console with
        screens := console.screens.set console.active { screen with transcript := [] } }
    return screen.transcript
  else Run.ofAttempt (.fault .notRecording)

/-- Take the lines on the standard output. -/
def takeOutput : Run Console (List String) := do
  let console ← get
  set { console with output := [] }
  return console.output

/-- What the console says of itself. -/
def about : String :=
  "\n  Stand-in for a `rich.console.Console` whose target can change at runtime.\n\n"
    ++ "  Modules keep importing the same `console` object while the proxy swaps the\n"
    ++ "  console it forwards to, together with the root logger's Rich handler.\n\n"
    ++ "  Attributes:\n      _backend (Console): Console receiving output.\n"
    ++ "      _level (int): Root logger threshold restored on every reconfiguration.\n  "

/-- What is said by a name of the console or of the screen in use. -/
def property (console : Console) (name : String) : Attempt Json :=
  match name with
  | "_level" => .ok console.shownLevel
  | "__module__" => .ok (.str "paddle_graph.utils.console")
  | "__doc__" => .ok (.str about)
  | "__weakref__" => .ok .null
  | name =>
    match console.screen.property? name with
    | some value => .ok value
    | none => .fault (.noMember "Console" name)

end Console

end LayerGraph
