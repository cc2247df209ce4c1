import LayerGraph.Toml.Basic
import LayerGraph.Text.CodePoints

/-! Scalars of a TOML document: texts, numbers and moments.

Every reader gives the value with the rest of the text.
-/

set_option autoImplicit false

namespace LayerGraph.Toml

open Number Text

/-- Why a document is refused: it breaks the grammar, or an integer has too many digits. -/
inductive Defect where
  | malformed
  | numeral (digits : Nat)
  deriving DecidableEq, Repr

/-- A reader of values. -/
abbrev Reader (α : Type) := List Char → Except Defect (α × List Char)

/-- Control characters, which are written by their codes. The tabulator is none of them. -/
def isControl (c : Char) : Bool := c != '\t' && (c.toNat < 0x20 || c.toNat = 0x7f)

def isIndent (c : Char) : Bool := c = ' ' || c = '\t'

def skipIndent (text : List Char) : List Char := text.dropWhile isIndent

/-- Skip indents and line ends. -/
def skipLines (text : List Char) : List Char := text.dropWhile fun c => isIndent c || c = '\n'

/-! ### Texts -/

/-- The number that hexadecimal digits write. -/
def hexNumber? (digits : List Char) : Option Nat :=
  digits.foldlM (fun value c => (hexValue? c).map (16 * value + ·)) 0

/-- Read a code of a fixed number of digits; halves of pairs are no characters. -/
def readCode (width : Nat) : Reader Char := fun text =>
  let digits := text.take width
  match hexNumber? digits with
  | none => .error .malformed
  | some code =>
    if digits.length = width ∧ (code < 0xd800 ∨ 0xdfff < code) ∧ code < 0x110000 then
      .ok (Char.ofNat code, text.drop width)
    else .error .malformed

/-- Read an escape after its backslash. -/
def readEscape : Reader Char
  | 'b' :: rest => .ok ('\x08', rest)
  | 't' :: rest => .ok ('\t', rest)
  | 'n' :: rest => .ok ('\n', rest)
  | 'f' :: rest => .ok ('\x0c', rest)
  | 'r' :: rest => .ok ('\r', rest)
  | '"' :: rest => .ok ('"', rest)
  | '\\' :: rest => .ok ('\\', rest)
  | 'u' :: rest => readCode 4 rest
  | 'U' :: rest => readCode 8 rest
  | _ => .error .malformed

/-- Read a text of one line after its quote; `read` holds the characters so far, the last first. -/
def readBasic : Nat → List Char → Reader String
  | 0, _, _ => .error .malformed
  | _ + 1, _, [] => .error .malformed
  | fuel + 1, read, c :: rest =>
    if c = '"' then .ok (String.ofList read.reverse, rest)
    else if c = '\\' then
      match readEscape rest with
      | .ok (value, rest) => readBasic fuel (value :: read) rest
      | .error defect => .error defect
    else if isControl c then .error .malformed
    else readBasic fuel (c :: read) rest

/-- Read an escape of a text of many lines: a backslash at the end of a line joins the lines. -/
def readLineEscape : Reader (List Char) := fun text =>
  match text with
  | c :: _ =>
    if isIndent c ∨ c = '\n' then
      match skipIndent text with
      | [] => .ok ([], [])
      | '\n' :: rest => .ok ([], skipLines rest)
      | _ => .error .malformed
    else (readEscape text).map fun (value, rest) => ([value], rest)
  | [] => .error .malformed

/-- Up to two more quotes belong to a text that three quotes end. -/
def readMoreQuotes (quote : Char) : List Char → List Char × List Char
  | c :: rest =>
    if c = quote then
      match rest with
      | d :: rest' => if d = quote then ([quote, quote], rest') else ([quote], rest)
      | [] => ([quote], [])
    else ([], c :: rest)
  | [] => ([], [])

/-- Read a text of many lines after its quotes. -/
def readLines : Nat → List Char → Reader String
  | 0, _, _ => .error .malformed
  | _ + 1, _, [] => .error .malformed
  | fuel + 1, read, c :: rest =>
    match c, rest with
    | '"', '"' :: '"' :: rest =>
      let (quotes, rest) := readMoreQuotes '"' rest
      .ok (String.ofList (read.reverse ++ quotes), rest)
    | '\\', rest =>
      match readLineEscape rest with
      | .ok (value, rest) => readLines fuel (value ++ read) rest
      | .error defect => .error defect
    | c, rest =>
      if isControl c ∧ c ≠ '\n' then .error .malformed else readLines fuel (c :: read) rest

/-- Read a literal text of one line after its quote. -/
def readLiteral : Reader String := fun text =>
  let content := text.takeWhile (· ≠ '\'')
  match text.dropWhile (· ≠ '\'') with
  | '\'' :: rest => if content.any isControl then .error .malformed else .ok (String.ofList content, rest)
  | _ => .error .malformed

/-- Read a literal text of many lines after its quotes. -/
def readLiteralLines : List Char → Reader String
  | _, [] => .error .malformed
  | read, '\'' :: '\'' :: '\'' :: rest =>
    let (quotes, rest) := readMoreQuotes '\'' rest
    .ok (String.ofList (read.reverse ++ quotes), rest)
  | read, c :: rest =>
    if isControl c ∧ c ≠ '\n' then .error .malformed else readLiteralLines (c :: read) rest

/-- A line end right after the opening quotes is no part of a text. -/
def dropFirstLineEnd : List Char → List Char
  | '\n' :: rest => rest
  | text => text

/-- Read a text that a double quote opens. -/
def readQuoted : Reader String
  | '"' :: '"' :: rest => readLines (rest.length + 1) [] (dropFirstLineEnd rest)
  | text => readBasic (text.length + 1) [] text

/-- Read a text that a single quote opens. -/
def readApostrophed : Reader String
  | '\'' :: '\'' :: rest => readLiteralLines [] (dropFirstLineEnd rest)
  | text => readLiteral text

/-! ### Numbers -/

/-- Digits of a class that go on after a first one, single underscores between them. -/
def moreDigits (isDigit : Char → Bool) : List Char → List Char × List Char
  | '_' :: c :: rest =>
    if isDigit c then
      let (digits, after) := moreDigits isDigit rest
      (c :: digits, after)
    else ([], '_' :: c :: rest)
  | c :: rest =>
    if isDigit c then
      let (digits, after) := moreDigits isDigit rest
      (c :: digits, after)
    else ([], c :: rest)
  | [] => ([], [])

/-- Digits of a class, at least one. -/
def digitRun? (isDigit : Char → Bool) : List Char → Option (List Char × List Char)
  | c :: rest =>
    if isDigit c then
      let (digits, after) := moreDigits isDigit rest
      some (c :: digits, after)
    else none
  | [] => none

/-- The base that a letter after a zero names, with its digits. -/
def base? (mark : Char) : Option (Nat × (Char → Bool)) :=
  match mark with
  | 'x' => some (16, fun c => (hexValue? c).isSome)
  | 'o' => some (8, fun c => '0' ≤ c && c ≤ '7')
  | 'b' => some (2, fun c => c = '0' || c = '1')
  | _ => none

/-- Read an integer in a base other than ten. -/
def readBased? : List Char → Option (Toml × List Char)
  | '0' :: mark :: text => do
    let (base, isDigit) ← base? mark
    let (digits, rest) ← digitRun? isDigit text
    let value := digits.foldl (fun value c => base * value + (hexValue? c).getD 0) 0
    return (.integer value, rest)
  | _ => none

/-- The part of a number before its point: no zero leads other digits. -/
def wholePart? : List Char → Option (List Char × List Char)
  | '0' :: rest => some (['0'], rest)
  | text => digitRun? isDigit text

def fractionPart? : List Char → Option (List Char × List Char)
  | '.' :: rest => digitRun? isDigit rest
  | _ => none

def exponentPart? : List Char → Option (Int × List Char)
  | c :: rest =>
    if c = 'e' ∨ c = 'E' then
      let (negative, body) := splitSign rest
      (digitRun? isDigit body).map fun (digits, after) =>
        let value : Int := decimalValue digits
        (if negative then -value else value, after)
    else none
  | [] => none

/-- The longest integer that is read, in decimal digits. -/
def integerLimit : Nat := 4300

/-- Read a decimal number; a fraction or an exponent makes it a floating-point number. -/
def readDecimal? (text : List Char) : Option (Except Defect (Toml × List Char)) := do
  let (negative, body) := splitSign text
  let (whole, afterWhole) ← wholePart? body
  let fraction := fractionPart? afterWhole
  let afterFraction := (fraction.map Prod.snd).getD afterWhole
  let exponent := exponentPart? afterFraction
  let rest := (exponent.map Prod.snd).getD afterFraction
  if fraction.isNone ∧ exponent.isNone then
    let value : Int := decimalValue whole
    if integerLimit < whole.length then return .error (.numeral whole.length)
    else return .ok (.integer (if negative then -value else value), rest)
  else
    let places := (fraction.map Prod.fst).getD []
    return .ok (.float (.ofDecimal negative (decimalValue (whole ++ places))
      ((exponent.map Prod.fst).getD 0 - places.length)), rest)

/-- Read an infinity or a number that is none. -/
def readSpecial? (text : List Char) : Option (Toml × List Char) :=
  let (negative, body) := splitSign text
  match body with
  | 'i' :: 'n' :: 'f' :: rest => some (.float (.infinity negative), rest)
  | 'n' :: 'a' :: 'n' :: rest => some (.float .nan, rest)
  | _ => none

/-! ### Moments -/

/-- A number of a fixed count of digits within bounds. -/
def boundedNumber? (width low high : Nat) (text : List Char) : Option (Nat × List Char) :=
  let digits := text.take width
  let value := decimalValue digits
  if digits.length = width ∧ digits.all isDigit ∧ low ≤ value ∧ value ≤ high then
    some (value, text.drop width)
  else none

/-- What follows a given character. -/
def after? (c : Char) : List Char → Option (List Char)
  | d :: rest => if d = c then some rest else none
  | [] => none

/-- The text after a fraction of a second. -/
def skipFraction : List Char → List Char
  | '.' :: c :: rest => if isDigit c then rest.dropWhile isDigit else '.' :: c :: rest
  | text => text

/-- The text after a time of day. -/
def afterTime? (text : List Char) : Option (List Char) := do
  let (_, text) ← boundedNumber? 2 0 23 text
  let (_, text) ← boundedNumber? 2 0 59 (← after? ':' text)
  let (_, text) ← boundedNumber? 2 0 59 (← after? ':' text)
  return skipFraction text

/-- The text after an offset from universal time. -/
def afterOffset? : List Char → Option (List Char)
  | c :: rest =>
    if c = 'Z' ∨ c = 'z' then some rest
    else if c = '+' ∨ c = '-' then do
      let (_, text) ← boundedNumber? 2 0 23 rest
      let (_, text) ← boundedNumber? 2 0 59 (← after? ':' text)
      return text
    else none
  | [] => none

def isLeapYear (year : Nat) : Bool := year % 4 = 0 && (year % 100 ≠ 0 || year % 400 = 0)

def daysIn (year month : Nat) : Nat :=
  if month = 2 then (if isLeapYear year then 29 else 28)
  else if [4, 6, 9, 11].contains month then 30
  else 31

/-- The text after a date, and whether the calendar has the date. -/
def afterDate? (text : List Char) : Option (Bool × List Char) := do
  let (year, text) ← boundedNumber? 4 0 9999 text
  let (month, text) ← boundedNumber? 2 1 12 (← after? '-' text)
  let (day, text) ← boundedNumber? 2 1 31 (← after? '-' text)
  return (1 ≤ year && day ≤ daysIn year month, text)

/-- The text after the time of day that may follow a date. -/
def afterDateTime? : List Char → Option (List Char)
  | c :: rest =>
    if c = 'T' ∨ c = 't' ∨ c = ' ' then do
      let text ← afterTime? rest
      return (afterOffset? text).getD text
    else none
  | [] => none

/-- A moment of a kind, written by what stands before the rest. -/
def momentBefore (kind : MomentKind) (text rest : List Char) : Toml × List Char :=
  (.moment kind (String.ofList (text.take (text.length - rest.length))), rest)

/-- Read a moment. -/
def readMoment? (text : List Char) : Option (Except Defect (Toml × List Char)) :=
  match afterDate? text with
  | some (false, _) => some (.error .malformed)
  | some (true, rest) =>
    match afterDateTime? rest with
    | some rest => some (.ok (momentBefore .dateTime text rest))
    | none => some (.ok (momentBefore .date text rest))
  | none => (afterTime? text).map fun rest => .ok (momentBefore .time text rest)

/-- Read a number or a moment. -/
def readNumber : Reader Toml := fun text =>
  match readMoment? text with
  | some result => result
  | none =>
    match readBased? text with
    | some result => .ok result
    | none =>
      match readDecimal? text with
      | some result => result
      | none =>
        match readSpecial? text with
        | some result => .ok result
        | none => .error .malformed

end LayerGraph.Toml
