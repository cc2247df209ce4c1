import LayerGraph.Markup.Picture.Face
import LayerGraph.Markup.Picture.Scene
import LayerGraph.Markup.Picture.Sequence
import LayerGraph.Markup.Picture.Symbol
import LayerGraph.Text.Case

/-! Pictures by name: a name between colons stands for a picture.

A name that is not known stays as it is written, colons and all. An ending of the name asks for the
plain or the pictorial form, which a selector after the picture marks.
-/

set_option autoImplicit false

namespace LayerGraph.Markup

open Text

/-- The picture with a name of its own. -/
def namedPicture? (name : String) : Option (List Char) :=
  [symbols, scenes, objects, faces, sequences].findSome? fun table =>
    (table.lookup name).map String.toList

/-- The flag of a region, from the letters of its code. -/
def flag (code : String) : List Char :=
  code.toList.map fun c => Char.ofNat (0x1f1e6 + (c.toNat - 'A'.toNat))

/-- The words with which the long name of a flag begins. -/
def flagWords : List Char := "flag_for_".toList

/-- The flag that a name stands for. -/
def namedFlag? (name : String) : Option (List Char) :=
  let chars := name.toList
  let region := if flagWords.isPrefixOf chars then chars.drop flagWords.length else chars
  ((flagNames.lookup name).or (regions.lookup (String.ofList region))).map flag

/-- The endings that ask for a tone of skin, with the code points of the tones. -/
def tones : List (String × Nat) := [
  ("_light_skin_tone", 0x1f3fb), ("_medium-light_skin_tone", 0x1f3fc),
  ("_medium_skin_tone", 0x1f3fd), ("_medium-dark_skin_tone", 0x1f3fe),
  ("_dark_skin_tone", 0x1f3ff)]

/-- A picture with a tone behind its first character, where the tone replaces a selector. -/
def withTone (tone : Char) : List Char → List Char
  | [] => []
  | c :: rest => c :: tone :: (if rest.head? = some '\ufe0f' then rest.drop 1 else rest)

/-- The picture with a tone of skin that a name stands for. -/
def tonedPicture? (name : List Char) : Option (List Char) := do
  let (ending, tone) ← tones.find? fun tone => tone.1.toList.isSuffixOf name
  let base := String.ofList (name.take (name.length - ending.length))
  if tonedNames.contains base then (namedPicture? base).map (withTone (Char.ofNat tone)) else none

/-- The forms that an ending of a name asks for, with the code points of their selectors. -/
def pictureForms : List (String × Nat) := [("-emoji", 0xfe0f), ("-text", 0xfe0e)]

/-- A name without the ending that asks for a form, and the selector of that form. -/
def splitForm (name : List Char) : List Char × List Char :=
  match pictureForms.find? fun form => form.1.toList.isSuffixOf name with
  | some (ending, selector) => (name.take (name.length - ending.length), [Char.ofNat selector])
  | none => (name, [])

/-- The picture that a name stands for. -/
def picture? (name : List Char) : Option (List Char) :=
  let (name, selector) := splitForm name
  let known := lower (String.ofList name)
  ((namedPicture? known).or ((namedFlag? known).or (tonedPicture? known.toList))).map
    (· ++ selector)

/-- Replace the names between colons; `fuel` bounds the characters. -/
def drawFrom : Nat → List Char → List Char
  | 0, text => text
  | _ + 1, [] => []
  | fuel + 1, c :: rest =>
    if c = ':' then
      let name := rest.takeWhile fun c => c != ':' && !isBlank c
      match rest.dropWhile fun c => c != ':' && !isBlank c with
      | ':' :: after => (picture? name).getD (':' :: name ++ [':']) ++ drawFrom fuel after
      | _ => c :: drawFrom fuel rest
    else c :: drawFrom fuel rest

/-- A text with the names of pictures replaced. -/
def draw (text : List Char) : List Char := drawFrom text.length text

end LayerGraph.Markup
