import LayerGraph.Json.Basic

/-! Writing documents as text on one line.
-/

set_option autoImplicit false

namespace LayerGraph.Json

open Number Text

/-- What a writer decides: whether characters beyond ASCII are escaped, the texts of numbers, and what
stands behind a comma or a colon. -/
structure Style where
  ascii : Bool
  float : Binary64 → String
  gap : List Char := []

/-- Escape everything beyond printable ASCII; infinities and NaN have words of their own. -/
def Style.portable : Style where
  ascii := true
  float x :=
    if x.isNaN then "NaN"
    else if x.isInfinite then (if x.negative then "-Infinity" else "Infinity")
    else x.text

/-- The portable style with a blank behind every comma and colon. -/
def Style.spaced : Style := { Style.portable with gap := [' '] }

/-- Keep text as it is; a number that is not finite is written as null. -/
def Style.document : Style where
  ascii := false
  float x := if x.isFinite then x.render .document else "null"

/-- A code in an escape of four digits, or of two such halves. -/
def unicodeEscape (n : Nat) : List Char :=
  if n < 0x10000 then '\\' :: 'u' :: hex 4 n
  else
    let offset := n - 0x10000
    ('\\' :: 'u' :: hex 4 (0xd800 + offset / 0x400)) ++ ('\\' :: 'u' :: hex 4 (0xdc00 + offset % 0x400))

def escapeChar (ascii : Bool) (c : Char) : List Char :=
  match c with
  | '"' => ['\\', '"']
  | '\\' => ['\\', '\\']
  | '\n' => ['\\', 'n']
  | '\r' => ['\\', 'r']
  | '\t' => ['\\', 't']
  | '\x08' => ['\\', 'b']
  | '\x0c' => ['\\', 'f']
  | c =>
    if c.toNat < 0x20 then unicodeEscape c.toNat
    else if ascii && 0x7f ≤ c.toNat then unicodeEscape c.toNat
    else [c]

def stringChars (style : Style) (text : String) : List Char :=
  '"' :: text.toList.flatMap (escapeChar style.ascii) ++ ['"']

mutual

/-- The characters of a document. -/
def chars (style : Style) : Json → List Char
  | .null => "null".toList
  | .bool true => "true".toList
  | .bool false => "false".toList
  | .int n => (toString n).toList
  | .float x => (style.float x).toList
  | .str text => stringChars style text
  | .arr items => '[' :: itemChars style items
  | .obj fields => '\x7b' :: fieldChars style fields

/-- The items of an array with their closing bracket. -/
def itemChars (style : Style) : List Json → List Char
  | [] => [']']
  | [item] => chars style item ++ [']']
  | item :: items => chars style item ++ ',' :: (style.gap ++ itemChars style items)

/-- The fields of an object with their closing brace. -/
def fieldChars (style : Style) : List (String × Json) → List Char
  | [] => ['\x7d']
  | [(key, value)] => stringChars style key ++ ':' :: (style.gap ++ chars style value ++ ['\x7d'])
  | (key, value) :: fields =>
    stringChars style key ++ ':' :: (style.gap ++ chars style value
      ++ ',' :: (style.gap ++ fieldChars style fields))

end

def render (style : Style) (document : Json) : String := String.ofList (document.chars style)

end LayerGraph.Json
