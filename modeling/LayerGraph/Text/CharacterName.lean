import LayerGraph.Text.CharacterName.AToB
import LayerGraph.Text.CharacterName.C
import LayerGraph.Text.CharacterName.DToF
import LayerGraph.Text.CharacterName.GToK
import LayerGraph.Text.CharacterName.LToM
import LayerGraph.Text.CharacterName.NToR
import LayerGraph.Text.CharacterName.S
import LayerGraph.Text.CharacterName.TToZ
import LayerGraph.Text.CodePoints

/-! Names of characters, as of Unicode 14.

A name is listed, with its aliases, or made by rule: an ideograph is named by its code point, a syllable
by its letters. Names of sequences are no names of characters. Listed names may be written in letters of
either case; those made by rule are in capitals.
-/

set_option autoImplicit false

namespace LayerGraph.Text

/-- Listed names, as texts in which brackets hold the endings of what stands before them. -/
def listedNames (first : Char) : List String :=
  match first with
  | 'A' => namesInA
  | 'B' => namesInB
  | 'C' => namesInC
  | 'D' => namesInD
  | 'E' => namesInE
  | 'F' => namesInF
  | 'G' => namesInG
  | 'H' => namesInH
  | 'I' => namesInI
  | 'J' => namesInJ
  | 'K' => namesInK
  | 'L' => namesInL
  | 'M' => namesInM
  | 'N' => namesInN
  | 'O' => namesInO
  | 'P' => namesInP
  | 'Q' => namesInQ
  | 'R' => namesInR
  | 'S' => namesInS
  | 'T' => namesInT
  | 'U' => namesInU
  | 'V' => namesInV
  | 'W' => namesInW
  | 'X' => namesInX
  | 'Y' => namesInY
  | 'Z' => namesInZ
  | _ => []

/-- Where a look for an ending is: at the start of an ending or inside one that fits so far, or in one
that does not, with as many brackets open. -/
inductive EndingState where
  | start
  | inside
  | skipping (depth : Nat)
  deriving DecidableEq, Repr

/-- Whether a text is one of the endings in brackets. No two endings there begin with the same letter. -/
def isEnding : List Char → EndingState → List Char → Bool
  | [], .skipping _, _ => false
  | [], _, text => text.isEmpty
  | c :: endings, .skipping depth, text =>
    if c = '(' then isEnding endings (.skipping (depth + 1)) text
    else if c = ')' then 0 < depth && isEnding endings (.skipping (depth - 1)) text
    else isEnding endings (if c = '|' ∧ depth = 0 then .start else .skipping depth) text
  | c :: endings, state, text =>
    if c = '(' then isEnding endings .start text
    else if c = '|' then text.isEmpty || (state = .start && isEnding endings .start text)
    else if c = ')' then text.isEmpty
    else
      match text with
      | [] => false
      | first :: rest =>
        if c = first then isEnding endings .inside rest
        else state = .start && isEnding endings (.skipping 0) text

/-- Whether a text in capitals is a listed name. -/
def isListedName (name : List Char) : Bool :=
  match name with
  | [] => false
  | first :: _ => isEnding ((listedNames first).flatMap String.toList) .start name

/-- What is behind a beginning. -/
def behind? (beginning : String) (text : List Char) : Option (List Char) :=
  if beginning.toList.isPrefixOf text then some (text.drop beginning.length) else none

/-- Code points of ideographs that have names. -/
def ideographRanges : List (Nat × Nat) := [
  (0x3400, 0x4dbf), (0x4e00, 0x9fff), (0x20000, 0x2a6df), (0x2a700, 0x2b738), (0x2b740, 0x2b81d),
  (0x2b820, 0x2cea1), (0x2ceb0, 0x2ebe0), (0x30000, 0x3134a)]

/-- Whether digits in capitals, four or five, are the code point of an ideograph. -/
def isIdeograph (digits : List Char) : Bool :=
  let value := digits.foldl (fun value c => 16 * value + (hexValue? c).getD 0) 0
  (digits.length = 4 || digits.length = 5)
    && digits.all (fun c => (hexValue? c).isSome && !c.isLower)
    && ideographRanges.any fun range => range.1 ≤ value && value ≤ range.2

/-- The letters that a syllable can begin with. -/
def firstLetters : List String :=
  ["G", "GG", "N", "D", "DD", "R", "M", "B", "BB", "S", "SS", "", "J", "JJ", "C", "K", "T", "P", "H"]

def vowels : List String := [
  "A", "AE", "YA", "YAE", "EO", "E", "YEO", "YE", "O", "WA", "WAE", "OE", "YO", "U", "WEO", "WE",
  "WI", "YU", "EU", "YI", "I"]

/-- The letters that a syllable can end with. -/
def lastLetters : List String := [
  "", "G", "GG", "GS", "N", "NJ", "NH", "D", "L", "LG", "LM", "LB", "LS", "LT", "LP", "LH", "M", "B",
  "BS", "S", "SS", "NG", "J", "C", "K", "T", "P", "H"]

/-- Whether a text is a syllable: letters before a vowel and behind it, or none. -/
def isSyllable (text : List Char) : Bool :=
  firstLetters.any fun first => (behind? first text).any fun text =>
    vowels.any fun vowel => (behind? vowel text).any fun text =>
      lastLetters.any fun last => last.toList == text

/-- Whether a text is the name of a character. -/
def isCharacterName (name : List Char) : Bool :=
  match behind? "HANGUL SYLLABLE " name, behind? "CJK UNIFIED IDEOGRAPH-" name with
  | some syllable, _ => isSyllable syllable
  | _, some digits => isIdeograph digits
  | _, _ => isListedName (name.map Char.toUpper)

end LayerGraph.Text
