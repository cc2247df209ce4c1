import LayerGraph.Json.Basic
import LayerGraph.Number.Word
import LayerGraph.Validation.Coercion
import LayerGraph.Validation.Issue

/-! Scalars read from documents, with how closely a value fits.

A value of the type itself fits exactly, a whole number fits a floating-point type strictly, and
whatever has to be converted fits laxly. Texts are trimmed of white space and may group digits.
-/

set_option autoImplicit false

namespace LayerGraph

open Number Text

/-- How closely a value fits a type. -/
inductive Fit where
  | lax
  | strict
  | exact
  deriving DecidableEq, Repr

namespace Fit

def rank : Fit → Nat
  | .lax => 0
  | .strict => 1
  | .exact => 2

/-- The looser of two fits. -/
def meet (a b : Fit) : Fit := if a.rank ≤ b.rank then a else b

end Fit

/-- Remove single underscores between other characters; nothing else may contain one. -/
def dropUnderscores (text : List Char) : Option (List Char) :=
  let pairs := text.zip (text.drop 1)
  if text.head? = some '_' ∨ text.getLast? = some '_' ∨ !text.contains '_' ∨ pairs.contains ('_', '_')
  then none
  else some (text.filter (· ≠ '_'))

/-- Skip the zeros and underscores after a leading zero; `last` is the character before. -/
def skipZeros (last : Char) : List Char → Option (List Char)
  | [] => some [last]
  | c :: rest =>
    if c = '0' ∨ c = '_' then skipZeros c rest
    else if isDigit c ∨ c = '-' then some (c :: rest)
    else if c = '.' then some (last :: c :: rest)
    else none

/-- Drop leading zeros that other digits follow. -/
def dropLeadingZeros : List Char → Option (List Char)
  | '0' :: rest => skipZeros '0' rest
  | c :: rest => if isDigit c ∨ c = '-' then some (c :: rest) else none
  | [] => none

/-- Drop a point that only zeros follow. -/
def dropZeroFraction (text : List Char) : List Char :=
  match text.dropWhile (· ≠ '.') with
  | '.' :: zeros =>
    if !zeros.isEmpty && zeros.all (· = '0') then text.takeWhile (· ≠ '.') else text
  | _ => text

/-- The integer of a plain numeral: a sign, then digits without a leading zero. -/
def plainInteger? (text : List Char) : Option Int :=
  let (negative, digits) := match text with
    | '-' :: rest => (true, rest)
    | text => (false, text)
  if digits.isEmpty || !digits.all isDigit || (digits.head? = some '0' && digits.length ≠ 1) then none
  else
    let value : Int := decimalValue digits
    some (if negative then -value else value)

/-- A numeral without what surrounds and groups its digits: blanks, a plus sign, leading zeros, a
fraction of zeros, and underscores. -/
def cleanNumeral? (text : List Char) : Option (List Char) := do
  let trimmed := trimList isWhiteSpace text
  let unsigned ← match trimmed with
    | '+' :: '-' :: _ => none
    | '+' :: rest => some rest
    | trimmed => some trimmed
  let (sign, digits) := match unsigned with
    | '-' :: rest => (['-'], rest)
    | rest => ([], rest)
  let digits := dropZeroFraction (← dropLeadingZeros digits)
  return sign ++ (dropUnderscores digits).getD digits

/-- Whether a text begins with more digits than are read, behind a minus sign if there is one. -/
def outgrowsLimit (text : List Char) : Bool :=
  let digits := match text with
    | '-' :: rest => rest
    | text => text
  numeralLimit < (digits.takeWhile isDigit).length

/-- Read a numeral laxly. -/
def integerNumeral (text : String) : Checked Int :=
  -- What is too long as it is written is told apart from what is no numeral.
  if outgrowsLimit text.toList then Checked.refuse .integerSize
  else
    match (cleanNumeral? text.toList).bind fun numeral =>
      if outgrowsLimit numeral then none else plainInteger? numeral with
    | some value => .ok value
    | none => Checked.refuse .integerText

/-- Read a whole floating-point number of machine size. -/
def integerOfReal (x : Binary64) : Checked Int :=
  if !x.isFinite then Checked.refuse .finite
  else if !x.isIntegral then Checked.refuse .wholeNumber
  else if -wordHalf < x.truncate ∧ x.truncate < wordHalf then .ok x.truncate
  else Checked.refuse .integerSize

/-- An unsigned decimal numeral with an optional point and exponent. -/
def plainDecimal? (negative : Bool) (text : List Char) : Option Binary64 := do
  let word := lower (String.ofList text)
  if word = "inf" ∨ word = "infinity" then return .infinity negative
  if word = "nan" then return .nan
  let isMark (c : Char) : Bool := c = 'e' || c = 'E'
  let mantissa := text.takeWhile fun c => !isMark c
  let exponent ← match text.dropWhile fun c => !isMark c with
    | [] => some 0
    | _ :: rest =>
      let (negative, digits) := splitSign rest
      if digits.isEmpty || !digits.all isDigit then none
      else
        let value : Int := decimalValue digits
        some (if negative then -value else value)
  let whole := mantissa.takeWhile (· ≠ '.')
  let fraction := (mantissa.dropWhile (· ≠ '.')).drop 1
  if (whole ++ fraction).isEmpty || !(whole ++ fraction).all isDigit then none
  else return .ofDecimal negative (decimalValue (whole ++ fraction)) (exponent - fraction.length)

/-- Read a decimal numeral with an optional sign. -/
def decimalNumeral? (text : List Char) : Option Binary64 :=
  let (negative, body) := splitSign text
  plainDecimal? negative body

/-- Read a numeral laxly as a floating-point number. -/
def realNumeral (text : String) : Checked Binary64 :=
  match decimalNumeral? (trimList isWhiteSpace text.toList) with
  | some x => .ok x
  | none =>
    match (dropUnderscores text.toList).bind decimalNumeral? with
    | some x => .ok x
    | none => Checked.refuse .numberText

/-- The truth value of a word. -/
def truthOfWord? (word : String) : Option Bool :=
  let word := lower word
  if ["0", "off", "f", "false", "n", "no"].contains word then some false
  else if ["1", "on", "t", "true", "y", "yes"].contains word then some true
  else none

/-- The truth value of a number of machine size. -/
def truthOfInteger (n : Int) : Checked Bool :=
  if n = 0 then .ok false else if n = 1 then .ok true else Checked.refuse .truthText

namespace Json

/-- Read a truth value. -/
def readBool : Json → Checked (Bool × Fit)
  | .bool b => .ok (b, .exact)
  | .int n =>
    if isWord n then (truthOfInteger n).map (·, .lax) else Checked.refuse .truth
  | .float x =>
    match integerOfReal x with
    | .ok n => (truthOfInteger n).map (·, .lax)
    | .error _ => Checked.refuse .truth
  | .str s =>
    match truthOfWord? s with
    | some b => .ok (b, .lax)
    | none => Checked.refuse .truthText
  | _ => Checked.refuse .truth

/-- Read an integer. -/
def readInt : Json → Checked (Int × Fit)
  | .int n => .ok (n, .exact)
  | .bool b => .ok (if b then 1 else 0, .lax)
  | .float x => (integerOfReal x).map (·, .lax)
  | .str s => (integerNumeral s).map (·, .lax)
  | _ => Checked.refuse .integer

/-- Read a floating-point number. -/
def readReal : Json → Checked (Binary64 × Fit)
  | .float x => .ok (x, .exact)
  | .int n => .ok (.ofInt n, .strict)
  | .bool b => .ok (.ofInt (if b then 1 else 0), .lax)
  | .str s => (realNumeral s).map (·, .lax)
  | _ => Checked.refuse .number

/-- Read a text; nothing is converted. -/
def readText : Json → Checked (String × Fit)
  | .str s => .ok (s, .exact)
  | _ => Checked.refuse .text

/-- Read a list, with the loosest fit of its items. -/
def readList {α : Type} (read : Json → Checked (α × Fit)) : Json → Checked (List α × Fit)
  | .arr items =>
    (Checked.items read items).map fun pairs =>
      (pairs.map Prod.fst, pairs.foldl (fun fit pair => fit.meet pair.2) .exact)
  | _ => Checked.refuse .list

end Json

end LayerGraph
