import LayerGraph.Number.Binary

/-! The shortest decimals that read back to a binary number.

A number owns the interval of reals that round to it. For one digit, two digits and so on the two
grid points around the number are tried; the first grid with a point in the interval gives the
digits, and of two points the nearer one.
-/

set_option autoImplicit false

namespace LayerGraph.Number

/-- Digits of a positive decimal, scaled by a power of ten. -/
structure Decimal where
  digits : Nat
  exponent : Int
  deriving DecidableEq, Repr

/-- Whether `num / den` is not below a power of ten. -/
def reachesPower (num den : Nat) (exponent : Int) : Bool :=
  if 0 ≤ exponent then den * Nat.pow 10 exponent.toNat ≤ num
  else den ≤ num * Nat.pow 10 (-exponent).toNat

/-- The exponent of the leading decimal digit of a positive quotient. -/
def leadingExponent (num den : Nat) : Int :=
  let estimate := ((num.log2 : Int) - (den.log2 : Int)) * 30103 / 100000
  if reachesPower num den (estimate + 1) then estimate + 1
  else if reachesPower num den estimate then estimate
  else estimate - 1

namespace Decimal

/-- Remove trailing zero digits. -/
def trim (fuel : Nat) (x : Decimal) : Decimal :=
  match fuel with
  | 0 => x
  | fuel + 1 =>
    if x.digits ≠ 0 ∧ x.digits % 10 = 0 then trim fuel ⟨x.digits / 10, x.exponent + 1⟩ else x

/-- The interval of a magnitude, as numerators over one denominator. -/
structure Interval where
  low : Nat
  value : Nat
  high : Nat
  den : Nat
  closed : Bool

/-- The reals that round to a positive finite magnitude; its ends belong to it when the mantissa is even. -/
def Interval.ofMagnitude (format : Format) (magnitude : Nat) : Interval :=
  let (mantissa, unit) := format.decompose magnitude
  -- Under a power of two the neighbour is half as far away.
  let below := if mantissa = Nat.pow 2 format.fraction ∧ format.minUnit < unit then 1 else 2
  let scale := if 2 ≤ unit then Nat.pow 2 (unit - 2).toNat else 1
  let den := if 2 ≤ unit then 1 else Nat.pow 2 (2 - unit).toNat
  ⟨(4 * mantissa - below) * scale, 4 * mantissa * scale, (4 * mantissa + 2) * scale, den,
    mantissa % 2 = 0⟩

/-- The grid point of `count` digits nearest to the value, if one lies in the interval. -/
def Interval.nearest? (interval : Interval) (leading : Int) (count : Nat) : Option Decimal :=
  let step := leading + 1 - count
  let stepNum := if 0 ≤ step then Nat.pow 10 step.toNat else 1
  let stepDen := if 0 ≤ step then 1 else Nat.pow 10 (-step).toNat
  let value := interval.value * stepDen
  let unit := interval.den * stepNum
  let floor := value / unit
  let inside (digits : Nat) : Bool :=
    let point := digits * unit
    let low := interval.low * stepDen
    let high := interval.high * stepDen
    if interval.closed then low ≤ point && point ≤ high else low < point && point < high
  let rest := value % unit
  let nearFloor := 2 * rest < unit || (2 * rest = unit && floor % 2 = 0)
  match inside floor, inside (floor + 1) with
  | true, true => some ⟨if nearFloor then floor else floor + 1, step⟩
  | true, false => some ⟨floor, step⟩
  | false, true => some ⟨floor + 1, step⟩
  | false, false => none

/-- Try the grids from `count` digits on. -/
def Interval.search (interval : Interval) (leading : Int) : Nat → Nat → Decimal
  | 0, count => ⟨interval.value / interval.den, leading + 1 - count⟩
  | fuel + 1, count =>
    match interval.nearest? leading count with
    | some found => found
    | none => interval.search leading fuel (count + 1)

/-- The fewest digits that read back to a positive finite magnitude. -/
def shortest (format : Format) (magnitude : Nat) : Decimal :=
  let interval := Interval.ofMagnitude format magnitude
  let leading := leadingExponent interval.value interval.den
  (interval.search leading 20 1).trim 20

end Decimal

/-- How a decimal is laid out as text. -/
structure FloatStyle where
  /-- Least leading exponent written positionally. -/
  low : Int
  /-- First leading exponent written in scientific form again. -/
  high : Int
  /-- Fewest digits of a written exponent. -/
  exponentDigits : Nat
  deriving Repr

/-- Parameter texts: positional from 1e-4 below 1e16, exponents of two digits or more. -/
def FloatStyle.plain : FloatStyle := ⟨-4, 16, 2⟩

/-- Document texts: positional from 1e-5 below 1e16, exponents as short as they are. -/
def FloatStyle.document : FloatStyle := ⟨-5, 16, 1⟩

/-- So many zeros. -/
def zeroDigits (count : Nat) : String := String.ofList (List.replicate count '0')

/-- Digits behind zeros that fill up a width. -/
def padDigits (width : Nat) (digits : String) : String :=
  zeroDigits (width - digits.length) ++ digits

/-- Lay out a decimal; a fraction part is always present in positional form. -/
def Decimal.render (style : FloatStyle) (x : Decimal) : String :=
  let digits := toString x.digits
  let count := digits.length
  let leading := x.exponent + count - 1
  if style.low ≤ leading ∧ leading < style.high then
    if 0 ≤ x.exponent then digits ++ zeroDigits x.exponent.toNat ++ ".0"
    else if 0 ≤ leading then
      let whole := leading.toNat + 1
      String.ofList (digits.toList.take whole) ++ "." ++ String.ofList (digits.toList.drop whole)
    else "0." ++ zeroDigits (-leading - 1).toNat ++ digits
  else
    let head := String.ofList (digits.toList.take 1)
    let tail := String.ofList (digits.toList.drop 1)
    let mantissa := if tail.isEmpty then head else head ++ "." ++ tail
    let sign := if leading < 0 then "-" else "+"
    mantissa ++ "e" ++ sign ++ padDigits style.exponentDigits (toString leading.natAbs)

/-- The text of a double in a style; a NaN has no sign. -/
def Binary64.render (style : FloatStyle) (x : Binary64) : String :=
  if x.isNaN then "nan"
  else
    let sign := if x.negative then "-" else ""
    if x.isInfinite then sign ++ "inf"
    else if x.isZero then sign ++ "0.0"
    else sign ++ (Decimal.shortest binary64 x.magnitude).render style

def Binary64.text (x : Binary64) : String := x.render .plain

end LayerGraph.Number
