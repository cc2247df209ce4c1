import LayerGraph.Toml.Draft
import LayerGraph.Toml.Scalar

/-! Reading TOML documents.

A document is read line by line: headers, keys with values, comments. A line may end in a line feed
with or without a carriage return before it.
-/

set_option autoImplicit false

namespace LayerGraph.Toml

open Text

/-- Skip a comment up to the end of its line. -/
def skipComment (text : List Char) : Except Defect (List Char) :=
  match text with
  | '#' :: rest =>
    if (rest.takeWhile (· ≠ '\n')).any isControl then .error .malformed
    else .ok (rest.dropWhile (· ≠ '\n'))
  | text => .ok text

/-- Skip comments, indents and line ends between the items of an array. -/
def skipBetween : Nat → List Char → Except Defect (List Char)
  | 0, text => .ok text
  | fuel + 1, text =>
    match skipLines text with
    | '#' :: rest =>
      match skipComment ('#' :: rest) with
      | .ok rest => skipBetween fuel rest
      | .error defect => .error defect
    | text => .ok text

/-- Characters of a key that needs no quotes. -/
def isBareKey (c : Char) : Bool :=
  ('a' ≤ c && c ≤ 'z') || ('A' ≤ c && c ≤ 'Z') || isDigit c || c = '-' || c = '_'

/-- Read one step of a key. -/
def readStep : Reader String
  | '"' :: rest => readBasic (rest.length + 1) [] rest
  | '\'' :: rest => readLiteral rest
  | text =>
    let name := text.takeWhile isBareKey
    if name.isEmpty then .error .malformed else .ok (String.ofList name, text.dropWhile isBareKey)

/-- Read a key after the steps in `path`, and the indent behind it. -/
def readSteps : Nat → List String → Reader DottedKey
  | 0, _, _ => .error .malformed
  | fuel + 1, path, text =>
    match readStep text with
    | .error defect => .error defect
    | .ok (step, rest) =>
      match skipIndent rest with
      | '.' :: rest => readSteps fuel (path ++ [step]) (skipIndent rest)
      | rest => .ok (⟨path, step⟩, rest)

def readKey : Reader DottedKey := fun text => readSteps (text.length + 1) [] text

/-- What a change of the document gives, if the document allows it. -/
def allowed {α : Type} : Option α → Except Defect α
  | some a => .ok a
  | none => .error .malformed

mutual

/-- Read a value. -/
def readValue : Nat → Reader Toml
  | 0, _ => .error .malformed
  | fuel + 1, text =>
    match text with
    | '"' :: rest => (readQuoted rest).map fun (value, rest) => (.string value, rest)
    | '\'' :: rest => (readApostrophed rest).map fun (value, rest) => (.string value, rest)
    | 't' :: 'r' :: 'u' :: 'e' :: rest => .ok (.boolean true, rest)
    | 'f' :: 'a' :: 'l' :: 's' :: 'e' :: rest => .ok (.boolean false, rest)
    | '[' :: rest => do
      match ← skipBetween rest.length rest with
      | ']' :: rest => return (.array [], rest)
      | rest =>
        let (items, rest) ← readItems fuel rest
        return (.array items, rest)
    | '\x7b' :: rest =>
      match skipIndent rest with
      | '\x7d' :: rest => .ok (.table [], rest)
      | rest => do
        let (fields, rest) ← readFields fuel [] rest
        return (.table (Draft.fieldsToToml fields), rest)
    | text => readNumber text

/-- Read the items of an array up to its closing bracket; a comma may stand before it. -/
def readItems : Nat → Reader (List Toml)
  | 0, _ => .error .malformed
  | fuel + 1, text => do
    let (item, rest) ← readValue fuel text
    match ← skipBetween rest.length rest with
    | ']' :: rest => return ([item], rest)
    | ',' :: rest =>
      match ← skipBetween rest.length rest with
      | ']' :: rest => return ([item], rest)
      | rest =>
        let (items, rest) ← readItems fuel rest
        return (item :: items, rest)
    | _ => .error .malformed

/-- Read the fields of a table in braces into those before, up to the closing brace. -/
def readFields : Nat → Fields → Reader Fields
  | 0, _, _ => .error .malformed
  | fuel + 1, fields, text => do
    let (key, rest) ← readKey text
    match rest with
    | '=' :: rest =>
      let (value, rest) ← readValue fuel (skipIndent rest)
      let fields ← allowed (Fields.within (Fields.insertNew key.last value) key.path fields)
      match skipIndent rest with
      | '\x7d' :: rest => return (fields, rest)
      | ',' :: rest => readFields fuel fields (skipIndent rest)
      | _ => .error .malformed
    | _ => .error .malformed

end

/-- Read a key with its value. -/
def readAssignment (document : Document) : Reader Document := fun text => do
  let (key, rest) ← readKey text
  match rest with
  | '=' :: rest =>
    let (value, rest) ← readValue (2 * rest.length + 2) (skipIndent rest)
    return (← allowed (document.insert? key value), rest)
  | _ => .error .malformed

/-- Read the header of a table after its bracket. -/
def readTableHeader (document : Document) : Reader Document := fun text => do
  let (key, rest) ← readKey (skipIndent text)
  let document ← allowed (document.openTable? key)
  match rest with
  | ']' :: rest => return (document, rest)
  | _ => .error .malformed

/-- Read the header of a table in an array of tables after its brackets. -/
def readItemHeader (document : Document) : Reader Document := fun text => do
  let (key, rest) ← readKey (skipIndent text)
  let document ← allowed (document.openItem? key)
  match rest with
  | ']' :: ']' :: rest => return (document, rest)
  | _ => .error .malformed

/-- Read what a line says. -/
def readStatement (document : Document) : Reader Document
  | '[' :: '[' :: rest => readItemHeader document rest
  | '[' :: rest => readTableHeader document rest
  | '#' :: rest => .ok (document, '#' :: rest)
  | text => readAssignment document text

/-- Read line after line. -/
def readDocument : Nat → Document → List Char → Except Defect Document
  | 0, _, _ => .error .malformed
  | fuel + 1, document, text =>
    match skipIndent text with
    | [] => .ok document
    | '\n' :: rest => readDocument fuel document rest
    | text => do
      let (document, rest) ← readStatement document text
      match ← skipComment (skipIndent rest) with
      | [] => return document
      | '\n' :: rest => readDocument fuel document rest
      | _ => .error .malformed

/-- A carriage return before a line feed is dropped. -/
def joinLineEnds : List Char → List Char
  | '\r' :: '\n' :: rest => '\n' :: joinLineEnds rest
  | c :: rest => c :: joinLineEnds rest
  | [] => []

/-- The fields of a document. -/
def read (text : String) : Except Defect (List (String × Toml)) :=
  let text := joinLineEnds text.toList
  (readDocument (text.length + 1) {} text).map fun document => Draft.fieldsToToml document.fields

end LayerGraph.Toml
