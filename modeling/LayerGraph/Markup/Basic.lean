import LayerGraph.Literal.Reader
import LayerGraph.Markup.Picture
import LayerGraph.Markup.Style
import LayerGraph.Text.Quoted

/-! Text with markup: tags in brackets open and close styles, backslashes keep brackets literal, and
names between colons stand for pictures. A tag that opens an action has written values as parameters.
-/

set_option autoImplicit false

namespace LayerGraph.Markup

open Text

/-- A tag as written: its name and what follows an equals sign. -/
structure Tag where
  name : String
  parameters : Option String
  deriving DecidableEq, Repr

def Tag.text (tag : Tag) : String :=
  match tag.parameters with
  | none => "[" ++ tag.name ++ "]"
  | some parameters => "[" ++ tag.name ++ "=" ++ parameters ++ "]"

/-- What is wrong with markup. -/
inductive Defect where
  | unopened (tag : Tag) (position : Nat)
  | nothingOpen (position : Nat)
  /-- Parameters of an action that are no expression, as they were read and as they are written. -/
  | parameters (read written reason : String)
  /-- Parameters of an action that are no written value. -/
  | noValue (written reason : String)
  | colour (defect : ColourDefect)
  deriving DecidableEq, Repr

def Defect.message : Defect → String
  | .unopened tag position =>
    "closing tag '" ++ tag.text ++ "' at position " ++ toString position
      ++ " doesn't match any open tag"
  | .nothingOpen position =>
    "closing tag '[/]' at position " ++ toString position ++ " has nothing to close"
  | .parameters read written reason =>
    "error parsing " ++ quoted read ++ " in " ++ quoted written ++ "; " ++ reason
  | .noValue written reason => "error parsing " ++ quoted written ++ "; " ++ reason
  | .colour defect => defect.message

/-- A piece of markup. -/
inductive Piece where
  | plain (text : List Char)
  | tag (position : Nat) (tag : Tag)

/-- Characters that may follow the bracket of a tag. -/
def opensTag (c : Char) : Bool := ('a' ≤ c && c ≤ 'z') || c = '#' || c = '/' || c = '@'

/-- The text of the tag at an opening bracket, and what follows the tag. -/
def tagText? : List Char → Option (List Char × List Char)
  | '[' :: c :: rest =>
    if opensTag c then
      let body := rest.takeWhile fun c => c != '[' && c != ']'
      match rest.dropWhile fun c => c != '[' && c != ']' with
      | ']' :: rest => some (c :: body, rest)
      | _ => none
    else none
  | _ => none

def Tag.ofText (text : List Char) : Tag :=
  let name := text.takeWhile (· != '=')
  match text.dropWhile (· != '=') with
  | '=' :: parameters => ⟨String.ofList name, some (String.ofList parameters)⟩
  | _ => ⟨String.ofList name, none⟩

/-- Cut markup into pieces; `plain` holds the open plain piece, the last character first. -/
def pieces : Nat → Nat → List Char → List Char → List Piece
  | 0, _, _, plain => [.plain plain.reverse]
  | _ + 1, _, [], plain => [.plain plain.reverse]
  | fuel + 1, position, c :: rest, plain =>
    let text := c :: rest
    let slashes := (text.takeWhile (· = '\\')).length
    match tagText? (text.drop slashes) with
    | none => pieces fuel (position + 1) rest (c :: plain)
    | some (tag, after) =>
      let next := position + slashes + tag.length + 2
      -- Backslashes before a tag come in pairs; one that is left over escapes the tag.
      let literal := List.replicate (slashes / 2) '\\'
      if slashes % 2 = 1 then
        .plain plain.reverse :: .plain literal :: .plain ('[' :: tag ++ [']'])
          :: pieces fuel next after []
      else
        .plain plain.reverse :: .plain literal :: .tag (position + slashes) (.ofText tag)
          :: pieces fuel next after []

/-- In a plain piece a backslash before a bracket is dropped. -/
def unescapeBrackets : List Char → List Char
  | '\\' :: '[' :: rest => '[' :: unescapeBrackets rest
  | c :: rest => c :: unescapeBrackets rest
  | [] => []

/-- A style that some of a text is shown in. -/
structure Span where
  start : Nat
  stop : Nat
  style : String
  deriving DecidableEq, Repr

/-- The text that markup shows, and its styles. -/
structure Marked where
  text : List Char := []
  spans : List Span := []
  deriving DecidableEq, Repr

/-- Control characters that are never shown: bell, backspace, vertical tab, form feed, return. -/
def isDropped (c : Char) : Bool := [7, 8, 11, 12, 13].contains c.toNat

/-- Add the text of a plain piece. -/
def Marked.append (marked : Marked) (plain : List Char) : Marked :=
  { marked with text := marked.text ++ (draw plain).filter fun c => !isDropped c }

/-- A tag that is open, and where in the text it was opened. -/
structure OpenTag where
  start : Nat
  tag : Tag

/-- A tag with what follows the equals sign as one style definition. -/
def Tag.style (tag : Tag) : String :=
  match tag.parameters with
  | none => tag.name
  | some parameters => tag.name ++ " " ++ parameters

/-- End the style of a tag where the text ends now. -/
def Marked.close (marked : Marked) (opened : OpenTag) : Marked :=
  { marked with
    spans := marked.spans ++ [⟨opened.start, marked.text.length, opened.tag.style⟩] }

/-- Remove the innermost tag of a name from the open tags, innermost first. -/
def close? (name : String) : List OpenTag → Option (OpenTag × List OpenTag)
  | [] => none
  | opened :: outer =>
    if opened.tag.name = name then some (opened, outer)
    else (close? name outer).map fun (found, others) => (found, opened :: others)

/-- The arguments in the parameters of an action: what is in brackets behind a name, and nothing for a
name alone. -/
def actionArguments (parameters : List Char) : List Char :=
  let behind := parameters.dropWhile fun c => isWordCharacter c || c = '.'
  match behind with
  | [] => ['(', ')']
  | '(' :: rest =>
    if rest.getLast? = some ')' && !rest.contains '\n' then behind else parameters
  | _ => parameters

/-- The parameters of an action must be a written value once the action is closed. -/
def Tag.checkAction (tag : Tag) : Except Defect Unit :=
  match tag.name.toList, tag.parameters with
  | '@' :: _, some written =>
    if written.isEmpty then .ok ()
    else
      let read := actionArguments (trimList isBlank written.toList)
      match Literal.read read with
      | .ok _ => .ok ()
      | .error (.unreadable reason _) => .error (.parameters (String.ofList read) written reason)
      | .error (.noValue reason) => .error (.noValue written reason)
  | _, _ => .ok ()

def canonicalName (name : String) : Except Defect String := (canonical name).mapError .colour

/-- Follow the pieces with the open tags, innermost first. -/
def follow : List OpenTag → Marked → List Piece → Except Defect Marked
  | stack, marked, [] => .ok (stack.foldl Marked.close marked)
  | stack, marked, .plain text :: rest => follow stack (marked.append (unescapeBrackets text)) rest
  | stack, marked, .tag position tag :: rest =>
    match tag.name.toList with
    | '/' :: closing => do
      let name := strip (String.ofList closing)
      if name.isEmpty then
        match stack with
        | [] => .error (.nothingOpen position)
        | opened :: stack =>
          opened.tag.checkAction
          follow stack (marked.close opened) rest
      else
        match close? (← canonicalName name) stack with
        | none => .error (.unopened tag position)
        | some (opened, stack) =>
          opened.tag.checkAction
          follow stack (marked.close opened) rest
    | _ => do
      let name ← canonicalName tag.name
      follow (⟨marked.text.length, ⟨name, tag.parameters⟩⟩ :: stack) marked rest

/-- The same text with its styles in the order in which they begin; of those that begin together, the one
that ends last is the first. -/
def Marked.ordered (marked : Marked) : Marked :=
  { marked with
    spans := marked.spans.reverse.mergeSort fun first second => first.start ≤ second.start }

/-- Read markup. -/
def read (markup : String) : Except Defect Marked :=
  let chars := markup.toList
  (follow [] {} (pieces (chars.length + 1) 0 chars [])).map Marked.ordered

/-- Keep a text literal: every tag in it gets a backslash. -/
def escapeTags : Nat → List Char → List Char
  | 0, text => text
  | _ + 1, [] => []
  | fuel + 1, c :: rest =>
    let text := c :: rest
    let slashes := text.takeWhile (· = '\\')
    match tagText? (text.drop slashes.length) with
    | none => c :: escapeTags fuel rest
    | some (tag, after) => slashes ++ slashes ++ '\\' :: '[' :: tag ++ ']' :: escapeTags fuel after

/-- The markup of a literal text; a last backslash is doubled, so that it escapes nothing. -/
def escape (text : String) : String :=
  let chars := escapeTags (text.length + 1) text.toList
  match chars.reverse with
  | '\\' :: '\\' :: _ => String.ofList chars
  | '\\' :: _ => String.ofList (chars ++ ['\\'])
  | _ => String.ofList chars

end LayerGraph.Markup
