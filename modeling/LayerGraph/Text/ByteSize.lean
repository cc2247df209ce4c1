import LayerGraph.Number.Binary

/-! Sizes in bytes as short texts: a number of bytes, or at least three digits of a binary unit.
-/

set_option autoImplicit false

namespace LayerGraph.Text

open Number

/-- Units of 1024 times the one before. -/
def byteUnits : List String := ["bytes", "KiB", "MiB", "GiB", "TiB", "PiB", "EiB"]

/-- Three digits of a quotient below a thousand, with its point. -/
def threeDigits (num den : Nat) : String :=
  let hundredths := roundQuotient (100 * num) den
  let tenths := roundQuotient (10 * num) den
  if hundredths < 1000 then
    toString (hundredths / 100) ++ "." ++ toString (hundredths / 10 % 10) ++ toString (hundredths % 10)
  else if tenths < 1000 then toString (tenths / 10) ++ "." ++ toString (tenths % 10)
  else toString (roundQuotient num den) ++ "."

/-- A size in the largest unit of which it has at least one after rounding. -/
def byteSize (bytes : Nat) : String :=
  let last := byteUnits.length - 1
  let unit := min last (bytes.log2 / 10)
  let den := Nat.pow 1024 unit
  let (unit, den) :=
    if roundQuotient bytes den = 1024 ∧ unit < last then (unit + 1, den * 1024) else (unit, den)
  let number :=
    if unit = 0 then toString bytes
    else if roundQuotient bytes den < 1000 then threeDigits bytes den
    else toString (roundQuotient bytes den) ++ "."
  number ++ " " ++ byteUnits.getD unit ""

end LayerGraph.Text
