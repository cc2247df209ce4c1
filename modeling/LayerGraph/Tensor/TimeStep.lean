import LayerGraph.Text.CodePoints

/-! Steps of time: a count of a unit, as types of instants and durations name them in brackets.

A step may be written with a divisor, and is then a whole number of a smaller unit.
-/

set_option autoImplicit false

namespace LayerGraph

open Text

inductive TimeUnit where
  | year
  | month
  | week
  | day
  | hour
  | minute
  | second
  | millisecond
  | microsecond
  | nanosecond
  | picosecond
  | femtosecond
  | attosecond
  /-- No unit in particular. -/
  | generic
  deriving DecidableEq, Repr

def TimeUnit.text : TimeUnit → String
  | .year => "Y"
  | .month => "M"
  | .week => "W"
  | .day => "D"
  | .hour => "h"
  | .minute => "m"
  | .second => "s"
  | .millisecond => "ms"
  | .microsecond => "us"
  | .nanosecond => "ns"
  | .picosecond => "ps"
  | .femtosecond => "fs"
  | .attosecond => "as"
  | .generic => "generic"

/-- All units, the largest first. -/
def TimeUnit.all : List TimeUnit :=
  [.year, .month, .week, .day, .hour, .minute, .second, .millisecond, .microsecond, .nanosecond,
    .picosecond, .femtosecond, .attosecond, .generic]

/-- The unit of a spelling; a microsecond has a second one with a Greek letter. -/
def TimeUnit.ofText? (text : String) : Option TimeUnit :=
  if text = "μs" then some .microsecond else TimeUnit.all.find? fun unit => unit.text = text

/-- Smaller units, and how many of each a unit has, in the order in which a divisor tries them. -/
def TimeUnit.parts : TimeUnit → List (Int × TimeUnit)
  | .year => [(12, .month), (52, .week), (365, .day)]
  | .month => [(4, .week), (30, .day), (720, .hour)]
  -- Nothing else divides a week, so that a count of zero is left.
  | .week => [(7, .day), (168, .hour), (10080, .minute), (0, .year)]
  | .day => [(24, .hour), (1440, .minute), (86400, .second)]
  | .hour => [(60, .minute), (3600, .second)]
  | .minute => [(60, .second), (60000, .millisecond)]
  | .second => [(1000, .millisecond), (1000000, .microsecond)]
  | .millisecond => [(1000, .microsecond), (1000000, .nanosecond)]
  | .microsecond => [(1000, .nanosecond), (1000000, .picosecond)]
  | .nanosecond => [(1000, .picosecond), (1000000, .femtosecond)]
  | .picosecond => [(1000, .femtosecond), (1000000, .attosecond)]
  | .femtosecond => [(1000, .attosecond)]
  | .attosecond | .generic => []

structure TimeStep where
  count : Int := 1
  unit : TimeUnit := .generic
  deriving DecidableEq, Repr

/-- What is wrong with the brackets behind a type of instants or durations. -/
inductive TimeDefect where
  | unit (written : String)
  /-- The place is counted in bytes. -/
  | form (written : String) (position : Option Nat)
  | divisor (divisor : Int) (written : String)
  | genericDivisor
  deriving DecidableEq, Repr

namespace TimeStep

/-- A step in brackets; one of no unit in particular is left out, and so is a count of one. -/
def text (step : TimeStep) : String :=
  if step.unit = .generic then ""
  else if step.count = 1 then "[" ++ step.unit.text ++ "]"
  else "[" ++ toString step.count ++ step.unit.text ++ "]"

/-- White space between parts of ASCII text. -/
def isGap (c : Char) : Bool := c = ' ' || (9 ≤ c.toNat && c.toNat ≤ 13)

/-- An integer at the start of a text with a sign, behind white space, and the text behind it. -/
def leadingInteger? (text : List Char) : Option (Int × List Char) :=
  let (negative, rest) :=
    match text.dropWhile isGap with
    | '-' :: rest => (true, rest)
    | '+' :: rest => (false, rest)
    | rest => (false, rest)
  let digits := rest.takeWhile isDigit
  if digits.isEmpty then none
  else
    let n : Int := decimalValue digits
    some (if negative then -n else n, rest.dropWhile isDigit)

/-- An integer in 32 bits: what 64 bits hold of it, wrapped around. -/
def wrapped (n : Int) : Int :=
  Int.bmod (max (-0x8000000000000000) (min 0x7fffffffffffffff n)) 0x100000000

private def shownBytes (text : List Char) : Nat := (String.ofList text).utf8ByteSize

/-- Divide a step into smaller ones. -/
def divided (written : String) (step : TimeStep) (divisor : Int) : Except TimeDefect TimeStep :=
  if divisor = 1 then .ok step
  else if step.unit = .generic then .error .genericDivisor
  else
    match step.unit.parts.find? fun (count, _) => Int.tmod count divisor = 0 with
    | some (count, unit) => .ok ⟨wrapped (step.count * Int.tdiv count divisor), unit⟩
    | none => .error (.divisor divisor written)

/-- The step inside brackets; `behind` is what stands behind the opening bracket, and `shown` is the text
with the brackets. The place of a defect is where its part begins. -/
def readInner (shown : String) (behind : List Char) : Except TimeDefect TimeStep :=
  let bytes := shownBytes behind
  let wrong {α : Type} (rest : List Char) : Except TimeDefect α :=
    .error (.form shown (some (1 + bytes - shownBytes rest)))
  let inner := behind.takeWhile (· ≠ ']')
  let (count, rest) := (leadingInteger? behind).getD (1, behind)
  if count < 0 ∨ 0x7fffffff < count then wrong behind
  else
    let name := (inner.drop (behind.length - rest.length)).takeWhile (· ≠ '/')
    let unread := rest.drop name.length
    if name.isEmpty then wrong rest
    else
      match TimeUnit.ofText? (String.ofList name), unread with
      | none, _ => .error (.unit shown)
      | some unit, '/' :: unread =>
        match leadingInteger? unread with
        | some (divisor, ']' :: _) => divided shown ⟨count, unit⟩ (wrapped divisor)
        | _ => wrong unread
      | some unit, _ => .ok ⟨count, unit⟩

/-- The step that stands in brackets; nothing stands for no unit in particular. -/
def read (written : List Char) : Except TimeDefect TimeStep :=
  -- A text is shown as far as it has no null.
  let shown := String.ofList (written.takeWhile (· ≠ '\x00'))
  let wrong {α : Type} (place : Nat) : Except TimeDefect α := .error (.form shown (some place))
  match written with
  | [] => .ok {}
  | opening :: behind =>
    if shownBytes written < 3 then .error (.form shown none)
    else if opening ≠ '[' then wrong 1
    else
      let inner := behind.takeWhile (· ≠ ']')
      let closed := 1 + shownBytes inner
      if inner.isEmpty ∨ inner.length = behind.length then wrong closed
      else do
        let step ← readInner shown behind
        if inner.length + 1 = behind.length then return step else wrong (closed + 1)

end TimeStep

end LayerGraph
