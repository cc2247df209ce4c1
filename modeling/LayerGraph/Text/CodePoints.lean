/-! Sets of code points: sorted ranges, blanks, and small text operations that rest on them.
-/

set_option autoImplicit false

namespace LayerGraph.Text

/-- Search the half-open part `low ≤ i < high` of a sorted table for a range that holds the point. -/
def searchRanges (table : Array (Nat × Nat)) (point : Nat) : Nat → Nat → Nat → Bool
  | 0, _, _ => false
  | fuel + 1, low, high =>
    if high ≤ low then false
    else
      let middle := (low + high) / 2
      match table[middle]? with
      | none => false
      | some (first, last) =>
        if point < first then searchRanges table point fuel low middle
        else if last < point then searchRanges table point fuel (middle + 1) high
        else true

/-- Membership in a table of sorted, disjoint ranges. -/
def inRanges (table : Array (Nat × Nat)) (point : Nat) : Bool :=
  searchRanges table point (table.size + 1) 0 table.size

/-- Characters with the property White_Space. -/
def isWhiteSpace (c : Char) : Bool :=
  let n := c.toNat
  (9 ≤ n && n ≤ 13) || n = 0x20 || n = 0x85 || n = 0xa0 || n = 0x1680 || (0x2000 ≤ n && n ≤ 0x200a)
    || n = 0x2028 || n = 0x2029 || n = 0x202f || n = 0x205f || n = 0x3000

/-- White space and the four information separators. -/
def isBlank (c : Char) : Bool :=
  isWhiteSpace c || (0x1c ≤ c.toNat && c.toNat ≤ 0x1f)

/-- Remove the characters of a class at both ends. -/
def trimList (drop : Char → Bool) (text : List Char) : List Char :=
  ((text.dropWhile drop).reverse.dropWhile drop).reverse

/-- Remove white space at both ends. -/
def trimWhiteSpace (text : String) : String := String.ofList (trimList isWhiteSpace text.toList)

/-- Remove blanks at both ends. -/
def strip (text : String) : String := String.ofList (trimList isBlank text.toList)

/-- Upper case of the letters whose upper case is ASCII; other characters stay. -/
def upperChar (c : Char) : List Char :=
  match c.toNat with
  | 0xdf => ['S', 'S']
  | 0x131 => ['I']
  | 0x17f => ['S']
  | 0xfb00 => ['F', 'F']
  | 0xfb01 => ['F', 'I']
  | 0xfb02 => ['F', 'L']
  | 0xfb03 => ['F', 'F', 'I']
  | 0xfb04 => ['F', 'F', 'L']
  | 0xfb05 => ['S', 'T']
  | 0xfb06 => ['S', 'T']
  | _ => [c.toUpper]

def upper (text : String) : String := String.ofList (text.toList.flatMap upperChar)

def hexDigit (n : Nat) : Char :=
  if n < 10 then Char.ofNat ('0'.toNat + n) else Char.ofNat ('a'.toNat + (n - 10))

/-- The lowest `width` hexadecimal digits of a number. -/
def hex : Nat → Nat → List Char
  | 0, _ => []
  | width + 1, n => hex width (n / 16) ++ [hexDigit (n % 16)]

def hexValue? (c : Char) : Option Nat :=
  if '0' ≤ c ∧ c ≤ '9' then some (c.toNat - '0'.toNat)
  else if 'a' ≤ c ∧ c ≤ 'f' then some (c.toNat - 'a'.toNat + 10)
  else if 'A' ≤ c ∧ c ≤ 'F' then some (c.toNat - 'A'.toNat + 10)
  else none

def digitValue? (c : Char) : Option Nat :=
  if '0' ≤ c ∧ c ≤ '9' then some (c.toNat - '0'.toNat) else none

def isDigit (c : Char) : Bool := '0' ≤ c ∧ c ≤ '9'

/-- The zeros of the decimal digit series of Unicode 14; each series holds ten consecutive points. -/
def decimalZeros : List Nat := [
  0x30, 0x660, 0x6f0, 0x7c0, 0x966, 0x9e6, 0xa66, 0xae6, 0xb66, 0xbe6, 0xc66, 0xce6, 0xd66, 0xde6,
  0xe50, 0xed0, 0xf20, 0x1040, 0x1090, 0x17e0, 0x1810, 0x1946, 0x19d0, 0x1a80, 0x1a90, 0x1b50,
  0x1bb0, 0x1c40, 0x1c50, 0xa620, 0xa8d0, 0xa900, 0xa9d0, 0xa9f0, 0xaa50, 0xabf0, 0xff10, 0x104a0,
  0x10d30, 0x11066, 0x110f0, 0x11136, 0x111d0, 0x112f0, 0x11450, 0x114d0, 0x11650, 0x116c0,
  0x11730, 0x118e0, 0x11950, 0x11c50, 0x11d50, 0x11da0, 0x16a60, 0x16ac0, 0x16b50, 0x1d7ce,
  0x1d7d8, 0x1d7e2, 0x1d7ec, 0x1d7f6, 0x1e140, 0x1e2f0, 0x1e950, 0x1fbf0]

/-- Replace a decimal digit of any series by the ASCII digit of its value. -/
def plainDigit (c : Char) : Char :=
  match decimalZeros.find? fun first => first ≤ c.toNat && c.toNat ≤ first + 9 with
  | some first => Char.ofNat ('0'.toNat + (c.toNat - first))
  | none => c

/-- The longest decimal numeral that is read or shown. -/
def numeralLimit : Nat := 4300

/-- Whether no run of digits is longer than a numeral that is shown; `run` counts the open one. -/
def showsRuns : Nat → List Char → Bool
  | run, [] => run ≤ numeralLimit
  | run, c :: rest => if isDigit c then showsRuns (run + 1) rest else run ≤ numeralLimit && showsRuns 0 rest

/-- Whether every numeral of a text is short enough to be shown. -/
def showsNumerals (text : String) : Bool := showsRuns 0 text.toList

/-- Whether an integer is short enough to be shown. -/
def showsInteger (n : Int) : Bool := n.natAbs < Nat.pow 10 numeralLimit

/-- The number written by decimal digits; other characters count as zero. -/
def decimalValue (digits : List Char) : Nat :=
  digits.foldl (fun value c => 10 * value + (digitValue? c).getD 0) 0

/-- A sign and what follows it. -/
def splitSign : List Char → Bool × List Char
  | '-' :: rest => (true, rest)
  | '+' :: rest => (false, rest)
  | text => (false, text)

/-- Join texts with a separator. -/
def join (separator : String) (parts : List String) : String := separator.intercalate parts

/-- The text of a list of integers, in brackets. -/
def integers (xs : List Int) : String := "[" ++ join ", " (xs.map toString) ++ "]"

end LayerGraph.Text
