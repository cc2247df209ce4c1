/-! Binary floating-point numbers as bit patterns, with rounding in exact integer arithmetic.

A finite magnitude is a mantissa times a power of two. Magnitudes of one format are numbered
upwards by their bit patterns, so the infinite magnitude follows the largest finite one.
-/

set_option autoImplicit false

namespace LayerGraph.Number

/-- The nearest integer to a quotient; a half goes to the even neighbour. -/
def roundQuotient (num den : Nat) : Nat :=
  let quotient := num / den
  let rest := num % den
  if 2 * rest < den then quotient
  else if den < 2 * rest then quotient + 1
  else quotient + quotient % 2

/-- An interchange format, given by the widths of its stored fraction and its exponent. -/
structure Format where
  fraction : Nat
  exponent : Nat
  deriving DecidableEq, Repr

def binary16 : Format := ⟨10, 5⟩
def binary32 : Format := ⟨23, 8⟩
def binary64 : Format := ⟨52, 11⟩

namespace Format

/-- The exponent of the least unit in the last place. -/
def minUnit (format : Format) : Int :=
  2 - (Nat.pow 2 (format.exponent - 1) : Int) - (format.fraction : Int)

/-- The bit pattern of the infinite magnitude. -/
def infinity (format : Format) : Nat :=
  (Nat.pow 2 format.exponent - 1) * Nat.pow 2 format.fraction

/-- The weight of the sign bit. -/
def sign (format : Format) : Nat :=
  Nat.pow 2 (format.fraction + format.exponent)

/-- The mantissa and the exponent of its unit, for a finite magnitude. -/
def decompose (format : Format) (magnitude : Nat) : Nat × Int :=
  let biased := magnitude / Nat.pow 2 format.fraction
  let stored := magnitude % Nat.pow 2 format.fraction
  if biased = 0 then (stored, format.minUnit)
  else (Nat.pow 2 format.fraction + stored, format.minUnit + biased - 1)

/-- The magnitude nearest to a positive quotient; values beyond the largest are infinite. -/
def roundRatio (format : Format) (num den : Nat) : Nat :=
  if num = 0 then 0 else
    -- The bit lengths give the binade, or the one above it.
    let estimate : Int := (num.log2 : Int) - (den.log2 : Int)
    let below :=
      if 0 ≤ estimate then num < den * Nat.pow 2 estimate.toNat
      else num * Nat.pow 2 (-estimate).toNat < den
    let binade := if below then estimate - 1 else estimate
    let unit := max (binade - format.fraction) format.minUnit
    let mantissa :=
      if 0 ≤ unit then roundQuotient num (den * Nat.pow 2 unit.toNat)
      else roundQuotient (num * Nat.pow 2 (-unit).toNat) den
    -- A mantissa that rounds up to the next power of two carries into the exponent by itself.
    min ((unit - format.minUnit).toNat * Nat.pow 2 format.fraction + mantissa) format.infinity

end Format

/-- A double-precision number, told apart by its bits. -/
structure Binary64 where
  bits : UInt64
  deriving DecidableEq, Inhabited, Repr

namespace Binary64

def ofMagnitude (negative : Bool) (magnitude : Nat) : Binary64 :=
  ⟨UInt64.ofNat ((if negative then binary64.sign else 0) + magnitude)⟩

def negative (x : Binary64) : Bool := binary64.sign ≤ x.bits.toNat

def magnitude (x : Binary64) : Nat := x.bits.toNat % binary64.sign

def isNaN (x : Binary64) : Bool := binary64.infinity < x.magnitude

def isInfinite (x : Binary64) : Bool := x.magnitude = binary64.infinity

def isFinite (x : Binary64) : Bool := x.magnitude < binary64.infinity

/-- Both zeros. -/
def isZero (x : Binary64) : Bool := x.magnitude = 0

def infinity (negative : Bool) : Binary64 := ofMagnitude negative binary64.infinity

def nan : Binary64 := ofMagnitude false (binary64.infinity + 0x8000000000000)

/-- The nearest number to a signed quotient. -/
def ofRatio (negative : Bool) (num den : Nat) : Binary64 :=
  ofMagnitude negative (binary64.roundRatio num den)

def ofInt (n : Int) : Binary64 := ofRatio (n < 0) n.natAbs 1

/-- The nearest number to a decimal; far exponents are settled before any power is taken. -/
def ofDecimal (negative : Bool) (digits : Nat) (exponent : Int) : Binary64 :=
  if digits = 0 then ofMagnitude negative 0
  else
    let leading := exponent + (digits.log2 : Int) * 30103 / 100000
    if 400 < leading then infinity negative
    else if leading < -400 then ofMagnitude negative 0
    else if 0 ≤ exponent then ofRatio negative (digits * Nat.pow 10 exponent.toNat) 1
    else ofRatio negative digits (Nat.pow 10 (-exponent).toNat)

/-- A finite number as a signed numerator over a denominator that is a power of two. -/
def ratio (x : Binary64) : Int × Nat :=
  let (mantissa, unit) := binary64.decompose x.magnitude
  let num := if 0 ≤ unit then mantissa * Nat.pow 2 unit.toNat else mantissa
  let den := if 0 ≤ unit then 1 else Nat.pow 2 (-unit).toNat
  (if x.negative then -(num : Int) else num, den)

/-- The integer part of a finite number, towards zero. -/
def truncate (x : Binary64) : Int :=
  let (num, den) := x.ratio
  Int.tdiv num den

def isIntegral (x : Binary64) : Bool :=
  let (num, den) := x.ratio
  x.isFinite && num % den = 0

/-- The least integer not below a finite number. -/
def ceiling (x : Binary64) : Int :=
  let (num, den) := x.ratio
  Int.neg (Int.fdiv (-num) den)

end Binary64

/-- Widen a pattern of a narrower format; every narrower number is also a double. -/
def Format.widen (format : Format) (bits : Nat) : Binary64 :=
  let magnitude := bits % format.sign
  let negative := bits / format.sign % 2 = 1
  if format.infinity < magnitude then
    .ofMagnitude negative
      (binary64.infinity + (magnitude - format.infinity) * Nat.pow 2 (52 - format.fraction))
  else if magnitude = format.infinity then .infinity negative
  else
    let (mantissa, unit) := format.decompose magnitude
    if 0 ≤ unit then .ofRatio negative (mantissa * Nat.pow 2 unit.toNat) 1
    else .ofRatio negative mantissa (Nat.pow 2 (-unit).toNat)

/-- Narrow a double to a format, rounding to nearest; the result is a bit pattern. -/
def Format.narrow (format : Format) (x : Binary64) : Nat :=
  let negative := if x.negative then format.sign else 0
  -- A pattern that is no number keeps the leading bits of its fraction.
  if x.isNaN then
    negative + format.infinity + (x.magnitude - binary64.infinity) / Nat.pow 2 (52 - format.fraction)
  else if x.isInfinite then negative + format.infinity
  else
    let (num, den) := x.ratio
    negative + format.roundRatio num.natAbs den

end LayerGraph.Number
