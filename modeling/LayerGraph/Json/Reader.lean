import LayerGraph.Json.Basic

/-! Reading documents from text.

The grammar is the interchange grammar with `NaN`, `Infinity` and `-Infinity` added. Limits bound
the nesting of non-empty containers and the digits of a number before its point.
-/

set_option autoImplicit false

namespace LayerGraph.Json

open Number Text

structure Limits where
  depth : Nat
  digits : Nat
  deriving Repr

/-- Why a text is no document. -/
inductive ReadDefect where
  /-- An item is followed by neither a comma nor the end of its array. -/
  | unseparated
  | malformed
  /-- A container is nested too deeply; its first value stands here. -/
  | depth (line column : Nat)
  deriving DecidableEq, Repr

def ReadDefect.message : ReadDefect → String
  | .unseparated => "expected `,` or `]`"
  | .malformed => "expected value"
  | .depth line column =>
    "recursion limit exceeded at line " ++ toString line ++ " column " ++ toString column

/-- What stops a reader. -/
inductive Obstacle where
  | unseparated
  | malformed
  /-- A container is nested too deeply; its first value and all behind it is unread. -/
  | depth (unread : List Char)

/-- The defect of a text that an obstacle stands in; lines and columns are counted from one. -/
def Obstacle.defect (text : List Char) : Obstacle → ReadDefect
  | .unseparated => .unseparated
  | .malformed => .malformed
  | .depth unread =>
    let read := text.take (text.length - unread.length)
    let line := (read.reverse.takeWhile (· ≠ '\n')).reverse
    .depth (read.count '\n' + 1) ((String.ofList line).utf8ByteSize + 1)

def isSpace (c : Char) : Bool := c = ' ' || c = '\t' || c = '\n' || c = '\r'

def skipSpace (text : List Char) : List Char := text.dropWhile isSpace

/-- The value of four hexadecimal digits. -/
def hexValue4? (a b c d : Char) : Option Nat := do
  return (← hexValue? a) * 4096 + (← hexValue? b) * 256 + (← hexValue? c) * 16 + (← hexValue? d)

/-- The character that a one-letter escape stands for. -/
def escaped? (c : Char) : Option Char :=
  match c with
  | '"' => some '"'
  | '\\' => some '\\'
  | '/' => some '/'
  | 'b' => some '\x08'
  | 'f' => some '\x0c'
  | 'n' => some '\n'
  | 'r' => some '\r'
  | 't' => some '\t'
  | _ => none

/-- Read an escape after its backslash; a code outside the basic plane comes as a pair of halves. -/
def readEscape (text : List Char) : Option (Char × List Char) :=
  match text with
  | 'u' :: a :: b :: c :: d :: rest => do
    let code ← hexValue4? a b c d
    -- A high half needs the low half right behind it.
    if 0xd800 ≤ code ∧ code < 0xdc00 then
      match rest with
      | '\\' :: 'u' :: e :: f :: g :: h :: rest => do
        let low ← hexValue4? e f g h
        if 0xdc00 ≤ low ∧ low < 0xe000 then
          some (Char.ofNat (0x10000 + (code - 0xd800) * 0x400 + (low - 0xdc00)), rest)
        else none
      | _ => none
    else if 0xdc00 ≤ code ∧ code < 0xe000 then none
    else some (Char.ofNat code, rest)
  | c :: rest => (escaped? c).map fun value => (value, rest)
  | [] => none

/-- Read a string after its opening quote; `read` holds the characters so far, the last one first. -/
def readString : Nat → List Char → List Char → Option (String × List Char)
  | 0, _, _ => none
  | _ + 1, _, [] => none
  | fuel + 1, read, c :: rest =>
    if c = '"' then some (String.ofList read.reverse, rest)
    else if c = '\\' then
      match readEscape rest with
      | none => none
      | some (value, rest) => readString fuel (value :: read) rest
    else if c.toNat < 0x20 then none
    else readString fuel (c :: read) rest

/-- Digits after a point or an exponent mark: at least one. -/
def readDigits (text : List Char) : Option (List Char × List Char) :=
  let digits := text.takeWhile isDigit
  if digits.isEmpty then none else some (digits, text.dropWhile isDigit)

def readFraction (text : List Char) : Option (List Char × List Char) :=
  match text with
  | '.' :: rest => readDigits rest
  | _ => some ([], text)

/-- Read an exponent part, if there is one. -/
def readExponent (text : List Char) : Option (Option Int × List Char) :=
  match text with
  | c :: rest =>
    if c = 'e' ∨ c = 'E' then
      match rest with
      | '-' :: rest =>
        (readDigits rest).map fun (digits, rest) => (some (-(decimalValue digits : Int)), rest)
      | '+' :: rest =>
        (readDigits rest).map fun (digits, rest) => (some (decimalValue digits : Int), rest)
      | _ => (readDigits rest).map fun (digits, rest) => (some (decimalValue digits : Int), rest)
    else some (none, text)
  | [] => some (none, [])

/-- Read an unsigned number; its sign is known. -/
def readNumber (limits : Limits) (negative : Bool) (text : List Char) : Option (Json × List Char) := do
  let (whole, rest) ← readDigits text
  if 1 < whole.length ∧ whole.head? = some '0' then none
  -- The digits before a point are limited too.
  else if limits.digits < whole.length then none
  else
    let (fraction, rest') ← readFraction rest
    let (exponent, rest'') ← readExponent rest'
    -- Without a point and an exponent the number is an integer, whatever its size.
    if fraction.isEmpty ∧ exponent.isNone then
      let value : Int := decimalValue whole
      some (.int (if negative then -value else value), rest'')
    else
      some (.float (.ofDecimal negative (decimalValue (whole ++ fraction))
        (exponent.getD 0 - fraction.length)), rest'')

/-- Drop a word from the start of a text. -/
def dropWord? : List Char → List Char → Option (List Char)
  | [], text => some text
  | _ :: _, [] => none
  | w :: word, c :: text => if w = c then dropWord? word text else none

/-- Read a word or a number. -/
def readAtom (limits : Limits) (text : List Char) : Option (Json × List Char) :=
  match text with
  | 't' :: rest => (dropWord? "rue".toList rest).map fun rest => (.bool true, rest)
  | 'f' :: rest => (dropWord? "alse".toList rest).map fun rest => (.bool false, rest)
  | 'n' :: rest => (dropWord? "ull".toList rest).map fun rest => (.null, rest)
  | 'N' :: rest => (dropWord? "aN".toList rest).map fun rest => (.float .nan, rest)
  | 'I' :: rest => (dropWord? "nfinity".toList rest).map fun rest => (.float (.infinity false), rest)
  | '-' :: 'I' :: rest => (dropWord? "nfinity".toList rest).map fun rest => (.float (.infinity true), rest)
  | '-' :: rest => readNumber limits true rest
  | _ => readNumber limits false text

/-- A part that has to be there. -/
def expected {α : Type} : Option α → Except Obstacle α
  | some part => .ok part
  | none => .error .malformed

/-- The first value of an object and all behind it. -/
def firstValue? (fuel : Nat) (text : List Char) : Option (List Char) :=
  match skipSpace text with
  | '"' :: rest => do
    let (_, rest) ← readString fuel [] rest
    match skipSpace rest with
    | ':' :: rest => return skipSpace rest
    | _ => none
  | _ => none

mutual

/-- Read a value; `depth` counts the non-empty containers that may still open. -/
def readValue (limits : Limits) : Nat → Nat → List Char → Except Obstacle (Json × List Char)
  | 0, _, _ => .error .malformed
  | fuel + 1, depth, text =>
    match skipSpace text with
    | '"' :: rest =>
      (expected (readString fuel [] rest)).map fun (value, rest) => (.str value, rest)
    | '[' :: rest =>
      match skipSpace rest with
      | ']' :: rest => .ok (.arr [], rest)
      | rest =>
        if depth = 0 then .error (.depth rest)
        else (readItems limits fuel (depth - 1) rest).map fun (items, rest) => (.arr items, rest)
    | '\x7b' :: rest =>
      match skipSpace rest with
      | '\x7d' :: rest => .ok (.obj [], rest)
      | rest =>
        if depth = 0 then
          (expected (firstValue? fuel rest)).bind fun unread => .error (.depth unread)
        else (readFields limits fuel (depth - 1) rest).map fun (fields, rest) => (.obj fields, rest)
    | rest => expected (readAtom limits rest)

/-- Read the items of an array up to its closing bracket. -/
def readItems (limits : Limits) : Nat → Nat → List Char → Except Obstacle (List Json × List Char)
  | 0, _, _ => .error .malformed
  | fuel + 1, depth, text =>
    match readValue limits fuel depth text with
    | .error obstacle => .error obstacle
    | .ok (item, rest) =>
      match skipSpace rest with
      | ']' :: rest => .ok ([item], rest)
      | ',' :: rest =>
        (readItems limits fuel depth rest).map fun (items, rest) => (item :: items, rest)
      | [] => .error .malformed
      | _ => .error .unseparated

/-- Read the fields of an object up to its closing brace. -/
def readFields (limits : Limits) :
    Nat → Nat → List Char → Except Obstacle (List (String × Json) × List Char)
  | 0, _, _ => .error .malformed
  | fuel + 1, depth, text =>
    match skipSpace text with
    | '"' :: rest =>
      match readString fuel [] rest with
      | none => .error .malformed
      | some (key, rest) =>
        match skipSpace rest with
        | ':' :: rest =>
          match readValue limits fuel depth rest with
          | .error obstacle => .error obstacle
          | .ok (value, rest) =>
            match skipSpace rest with
            | '\x7d' :: rest => .ok ([(key, value)], rest)
            | ',' :: rest =>
              (readFields limits fuel depth rest).map fun (fields, rest) => ((key, value) :: fields, rest)
            | _ => .error .malformed
        | _ => .error .malformed
    | _ => .error .malformed

end

/-- Read a whole text as one document. -/
def read (limits : Limits) (text : String) : Except ReadDefect Json :=
  let chars := text.toList
  match readValue limits (2 * chars.length + 2) limits.depth chars with
  | .error obstacle => .error (obstacle.defect chars)
  | .ok (value, rest) => if (skipSpace rest).isEmpty then .ok value else .error .malformed

end LayerGraph.Json
