import LayerGraph.Failure.Basic
import LayerGraph.Json.Basic

/-! Integers and numbers read from loose values.

A number is cut towards zero, a truth value counts as one or zero, and a text is read as a numeral:
white space around it, a sign, digits of any series, and single underscores between digits.
-/

set_option autoImplicit false

namespace LayerGraph

open Number Text

/-- Digits with single underscores between them; the underscores are dropped. -/
def groupedDigits? : List Char → Option (List Char)
  | [] => none
  | [c] => if isDigit c then some [c] else none
  | c :: '_' :: rest => if isDigit c then (groupedDigits? rest).map (c :: ·) else none
  | c :: rest => if isDigit c then (groupedDigits? rest).map (c :: ·) else none

/-- Read a text as an integer. -/
def integerOfText (text : String) : Attempt Int :=
  let (negative, body) := splitSign ((trimList isWhiteSpace text.toList).map plainDigit)
  -- Digits are counted, underscores apart, before what follows them is looked at.
  match groupedDigits? (body.takeWhile fun c => isDigit c || c = '_') with
  | none => .fault (.integerText text)
  | some digits =>
    if numeralLimit < digits.length then .fault (.integerDigits digits.length)
    else if !body.all fun c => isDigit c || c = '_' then .fault (.integerText text)
    else
      let value : Int := decimalValue digits
      .ok (if negative then -value else value)

/-- Read a floating-point number as an integer. -/
def integerOfFloat (x : Binary64) : Attempt Int :=
  if x.isNaN then .fault .notANumberInteger
  else if x.isInfinite then .fault .infiniteInteger
  else .ok x.truncate

/-- An exponent with its sign. -/
private def exponent? (text : List Char) : Option Int :=
  let (negative, body) := splitSign text
  (groupedDigits? body).map fun digits =>
    let value : Int := decimalValue digits
    if negative then -value else value

private def optionalDigits? (text : List Char) : Option (List Char) :=
  if text.isEmpty then some [] else groupedDigits? text

/-- The number that an unsigned numeral stands for. -/
def decimalOfChars? (negative : Bool) (text : List Char) : Option Binary64 := do
  let word := lower (String.ofList text)
  if word = "inf" ∨ word = "infinity" then return .infinity negative
  if word = "nan" then return .nan
  let mantissa := text.takeWhile fun c => c != 'e' && c != 'E'
  let exponent ← match text.dropWhile fun c => c != 'e' && c != 'E' with
    | [] => some 0
    | _ :: rest => exponent? rest
  let whole ← optionalDigits? (mantissa.takeWhile (· != '.'))
  let fraction ← optionalDigits? ((mantissa.dropWhile (· != '.')).drop 1)
  if whole.isEmpty ∧ fraction.isEmpty then none
  else return .ofDecimal negative (decimalValue (whole ++ fraction)) (exponent - fraction.length)

/-- Read a text as a floating-point number. -/
def realOfText? (text : String) : Option Binary64 :=
  let (negative, body) := splitSign ((trimList isWhiteSpace text.toList).map plainDigit)
  decimalOfChars? negative body

namespace Json

/-- The type of a loose value. -/
def type : Json → ValueType
  | .null => .nothing
  | .bool _ => .bool
  | .int _ => .int
  | .float _ => .float
  | .str _ => .text
  | .arr _ => .list
  | .obj _ => .mapping

/-- The text of a loose value by itself, as long as its integers can be shown. -/
def text (value : Json) : Attempt String :=
  match value with
  | .str s => .ok s
  | value => if showsNumerals value.shown then .ok value.shown else .fault .shownInteger

/-- Whether a loose value is null, false, zero or empty. -/
def isEmpty : Json → Bool
  | .null => true
  | .bool b => !b
  | .int n => n = 0
  | .float x => x.isZero
  | .str s => s.isEmpty
  | .arr items => items.isEmpty
  | .obj fields => fields.isEmpty

/-- Read a loose value as an integer. -/
def toInteger : Json → Attempt Int
  | .int n => .ok n
  | .bool b => .ok (if b then 1 else 0)
  | .float x => integerOfFloat x
  | .str s => integerOfText s
  | value => .fault (.integerFrom value.type)

/-- Read a loose value as a floating-point number. -/
def toReal : Json → Attempt Binary64
  | .int n =>
    let x := Binary64.ofInt n
    if x.isInfinite then .fault .floatSize else .ok x
  | .bool b => .ok (.ofInt (if b then 1 else 0))
  | .float x => .ok x
  | .str s =>
    match realOfText? s with
    | some x => .ok x
    | none => .fault (.floatText s)
  | value => .fault (.floatFrom value.type)

/-- The items of a loose value: those of a list, the characters of a text, the keys of a mapping. -/
def toItems : Json → Attempt (List Json)
  | .arr items => .ok items
  | .str s => .ok (s.toList.map fun c => .str c.toString)
  | .obj fields => .ok (fields.map fun field => .str field.1)
  | value => .fault (.notIterable value.type)

/-- The item at a position of a list or a text; a mapping has texts for keys, and no position. -/
def item (value : Json) (position : Nat) : Attempt Json :=
  match value with
  | .arr items =>
    match items[position]? with
    | some item => .ok item
    | none => .fault .indexRange
  | .str s =>
    match s.toList[position]? with
    | some c => .ok (.str c.toString)
    | none => .fault .textRange
  | .obj _ => .fault (.noKey position)
  | value => .fault (.notIndexed value.type)

/-- Read a loose value as a list of integers. -/
def toIntegers (value : Json) : Attempt (List Int) := do
  (← value.toItems).mapM toInteger

/-- Read a loose value as a list of integers, none of which is made from a number of another kind. One
integer stands for itself. -/
def toExtents : Json → Attempt (List Int)
  | .arr items =>
    items.mapM fun
      | .int n => .ok n
      | .bool b => .ok b.toNat
      | value => .fault (.notInteger value.type)
  | .int n => .ok [n]
  | value => .fault (.notInteger value.type)

/-- Read a loose value as a position in a list, counted from the end if it is negative. -/
def toPosition : Json → Attempt Int
  | .int n => .ok n
  | .bool b => .ok b.toNat
  | value => .fault (.listIndex value.type)

/-- Whether a loose value is less than zero. -/
def isNegative : Json → Attempt Bool
  | .int n => .ok (n < 0)
  | .bool _ => .ok false
  | .float x => .ok (x.negative && !x.isNaN && !x.isZero)
  | value => .fault (.notOrdered value.type)

/-- The place among `count` places, counted from zero, that a loose value names, if it is one of them.
A fractional number may lie among the places but names none. -/
def placeAmong (count : Nat) : Json → Attempt (Option Nat)
  | .int n => .ok (if 0 ≤ n ∧ n < count then some n.toNat else none)
  | .bool b => .ok (if b.toNat < count then some b.toNat else none)
  | .float x =>
    if x.isNaN || x.isInfinite || (x.negative && !x.isZero) then .ok none
    else if x.truncate < count then .fault (.listIndex .float)
    else .ok none
  | value => .fault (.notBounded value.type)

/-- Read a loose value as extents, of which those below zero are one. -/
def toStaticExtents (value : Json) : Attempt (List Int) := do
  (← value.toItems).mapM fun item => do
    if ← item.isNegative then return 1 else item.toInteger

/-- Read the first two items of a loose value as integers. -/
def toPair (value : Json) : Attempt (Int × Int) := do
  let first ← (← value.item 0).toInteger
  let second ← (← value.item 1).toInteger
  return (first, second)

end Json

end LayerGraph
