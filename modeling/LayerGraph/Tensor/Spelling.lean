import LayerGraph.Literal.Reader
import LayerGraph.Tensor.ElementType
import LayerGraph.Text.Quoted

/-! Spellings of element types.

A spelling is a letter, a kind with a size, a name, or a step of time behind a stem, and may begin with
a byte order. A spelling with commas, or one that begins with a count, lists formats: several of them
make a record, and a count before one makes a block.
-/

set_option autoImplicit false

namespace LayerGraph

open Text

/-- What makes the extents of a block wrong. -/
inductive BlockDefect where
  | extents
  | extentSize
  | size
  deriving DecidableEq, Repr

/-- Why a spelling names no element type. -/
inductive SpellingDefect where
  | unknown (spelling : String)
  /-- A name that has another one now, with the byte order before it. -/
  | oldName (spelling : String)
  | time (defect : TimeDefect)
  | format (number : Nat) (spelling : String)
  | orders (first second : Char)
  /-- A count that is no expression; the line is counted from one. -/
  | count (reason : String) (line : Nat)
  | itemSize
  | block (defect : BlockDefect)
  /-- A list of formats with nothing in it. -/
  | noFormat
  deriving DecidableEq, Repr

/-- The family of a spelling defect. -/
inductive SpellingDefectKind where
  | type
  | value
  | written
  deriving DecidableEq, Repr

namespace SpellingDefect

def kind : SpellingDefect → SpellingDefectKind
  | .unknown _ | .oldName _ | .time (.unit _) | .time (.form ..) => .type
  | .time (.divisor ..) | .time .genericDivisor | .format .. | .orders .. | .itemSize | .block _
  | .noFormat => .value
  | .count .. => .written

private def inQuotes (text : String) : String := "\"" ++ text ++ "\""

def message : SpellingDefect → String
  | .unknown spelling => "data type " ++ quoted spelling ++ " not understood"
  | .oldName spelling =>
    "Alias " ++ quoted spelling
      ++ " was removed in NumPy 2.0. Use a name without a digit at the end."
  | .time (.unit written) => "Invalid datetime unit in metadata string " ++ inQuotes written
  | .time (.form written none) => "Invalid datetime metadata string " ++ inQuotes written
  | .time (.form written (some position)) =>
    "Invalid datetime metadata string " ++ inQuotes written ++ " at position " ++ toString position
  | .time (.divisor divisor written) =>
    "divisor (" ++ toString divisor ++ ") is not a multiple of a lower-unit in datetime metadata "
      ++ inQuotes written
  | .time .genericDivisor => "Can't use 'den' divisor with generic units"
  | .format number spelling =>
    "format number " ++ toString number ++ " of " ++ inQuotes spelling ++ " is not recognized"
  | .orders first second =>
    "inconsistent byte-order specification " ++ first.toString ++ " and " ++ second.toString
  | .count reason line => reason ++ " (<unknown>, line " ++ toString line ++ ")"
  | .itemSize => "invalid itemsize in generic type tuple"
  | .block .extents => "invalid shape in fixed-type tuple."
  | .block .extentSize => "invalid shape in fixed-type tuple: dimension does not fit into a C int."
  | .block .size => "invalid shape in fixed-type tuple: dtype size in bytes must fit into a C int."
  | .noFormat => "Expected at least one field name"

end SpellingDefect

namespace ElementType

/-- A type with its byte order, or why there is none. -/
abbrev Spelled := Except SpellingDefect (ElementType × ByteOrder)

/-- The type of a one-letter code. -/
def ofCode? (code : Char) : Option ElementType :=
  match code with
  | '?' => some .bool
  | 'b' => some (.signed 1)
  | 'B' => some (.unsigned 1)
  | 'h' => some (.signed 2)
  | 'H' => some (.unsigned 2)
  | 'i' => some (.signed 4)
  | 'I' => some (.unsigned 4)
  | 'l' | 'q' | 'p' | 'n' => some (.signed 8)
  | 'L' | 'Q' | 'P' | 'N' => some (.unsigned 8)
  | 'e' => some (.float 2)
  | 'f' => some (.float 4)
  | 'd' => some (.float 8)
  | 'g' => some (.float 16)
  | 'F' => some (.complex 8)
  | 'D' => some (.complex 16)
  | 'G' => some (.complex 32)
  | 'S' => some (.bytes 0)
  | 'c' => some (.bytes 1)
  | 'U' => some (.text 0)
  | 'V' => some (.raw 0)
  | 'O' => some .reference
  | 'T' => some .longText
  | 'M' => some (.instant {})
  | 'm' => some (.duration {})
  | _ => none

/-- The types that a character stands for by its number. -/
def numbered : List ElementType := [
  .bool, .signed 1, .unsigned 1, .signed 2, .unsigned 2, .signed 4, .unsigned 4, .signed 8,
  .unsigned 8, .signed 8, .unsigned 8, .float 4, .float 8, .float 16, .complex 8, .complex 16,
  .complex 32, .reference, .bytes 0, .text 0, .raw 0, .instant {}, .duration {}, .float 2]

/-- The type of a single character. -/
def ofCharacter? (c : Char) : Option ElementType :=
  if c.toNat = 26 then some (.bytes 1) else (numbered[c.toNat]?).or (ofCode? c)

/-- The type of a kind letter followed by a size. -/
def ofSized? (kind : Char) (size : Nat) : Option ElementType :=
  match kind with
  | 'b' => if size = 1 then some .bool else none
  | 'i' => if [1, 2, 4, 8].contains size then some (.signed size) else none
  | 'u' => if [1, 2, 4, 8].contains size then some (.unsigned size) else none
  | 'f' => if [2, 4, 8, 16].contains size then some (.float size) else none
  | 'c' => if [8, 16, 32].contains size then some (.complex size) else none
  | 'S' | 'a' => some (.bytes size)
  | 'U' => if size ≤ 0x1fffffff then some (.text size) else none
  | 'V' => some (.raw size)
  | 'O' => if size = 4 ∨ size = 8 then some .reference else none
  | 'M' => if size = 8 then some (.instant {}) else none
  | 'm' => if size = 8 then some (.duration {}) else none
  | _ => none

/-- The type of a written-out name. -/
def ofName? (name : String) : Option ElementType :=
  match name with
  | "bool" | "bool_" => some .bool
  | "int8" | "byte" => some (.signed 1)
  | "uint8" | "ubyte" => some (.unsigned 1)
  | "int16" | "short" => some (.signed 2)
  | "uint16" | "ushort" => some (.unsigned 2)
  | "int32" | "intc" => some (.signed 4)
  | "uint32" | "uintc" => some (.unsigned 4)
  | "int64" | "int" | "int_" | "intp" | "long" | "longlong" => some (.signed 8)
  | "uint64" | "uint" | "uintp" | "ulong" | "ulonglong" => some (.unsigned 8)
  | "float16" | "half" => some (.float 2)
  | "float32" | "single" => some (.float 4)
  | "float64" | "double" | "float" => some (.float 8)
  | "float128" | "longdouble" => some (.float 16)
  | "complex64" | "csingle" => some (.complex 8)
  | "complex128" | "cdouble" | "complex" => some (.complex 16)
  | "complex256" | "clongdouble" => some (.complex 32)
  | "bytes" | "bytes_" | "a" => some (.bytes 0)
  | "str" | "str_" | "unicode" => some (.text 0)
  | "void" => some (.raw 0)
  | "object" | "object_" => some .reference
  | _ => none

/-- Names that had a digit at the end. -/
def oldNames : List String := ["int0", "uint0", "void0", "object0", "str0", "bytes0", "bool8"]

/-- The largest size that is read. -/
def sizeLimit : Nat := 0x7fffffff

/-- The size that is all of a text. -/
def size? (text : List Char) : Option Nat :=
  match TimeStep.leadingInteger? text with
  | some (size, []) => if 0 ≤ size ∧ size ≤ sizeLimit then some size.toNat else none
  | _ => none

/-- The byte order that a spelling may begin with. -/
def splitOrder : List Char → ByteOrder × List Char
  | '>' :: rest => (.big, rest)
  | '<' :: rest | '=' :: rest | '|' :: rest => (.little, rest)
  | letters => (.little, letters)

/-- A type of instants or durations: its stem, and the step behind it. -/
def ofTime? (text : List Char) : Option (Except TimeDefect ElementType) :=
  let behind? (stem : String) : Option (List Char) :=
    if stem.toList.isPrefixOf text then some (text.drop stem.length) else none
  match (behind? "M8").or (behind? "datetime64"), (behind? "m8").or (behind? "timedelta64") with
  | some step, _ => some ((TimeStep.read step).map .instant)
  | _, some step => some ((TimeStep.read step).map .duration)
  | none, none => none

/-- The type of one spelling without counts and commas. -/
def ofPlain (spelling : String) : Spelled :=
  let (order, letters) := splitOrder spelling.toList
  match ofTime? letters with
  | some (.ok type) => .ok (type, order)
  | some (.error defect) => .error (.time defect)
  | none =>
    let short? : Option ElementType :=
      match letters with
      | [c] => ofCharacter? c
      | kind :: rest => (size? rest).bind (ofSized? kind)
      | [] => none
    match short?, ofName? spelling with
    | some type, _ => .ok (type, order)
    | none, some type => .ok (type, .little)
    | none, none =>
      -- An old name ends at a null.
      let name := String.ofList (letters.takeWhile (· ≠ '\x00'))
      .error (if oldNames.contains name then .oldName spelling else .unknown spelling)

/-! ### Formats -/

def isOrder (c : Char) : Bool := ['<', '>', '|', '='].contains c

/-- Whether a comma stands outside square brackets. -/
def hasOuterComma : Int → List Char → Bool
  | _, [] => false
  | depth, ',' :: rest => depth = 0 || hasOuterComma depth rest
  | depth, '[' :: rest => hasOuterComma (depth + 1) rest
  | depth, ']' :: rest => hasOuterComma (depth - 1) rest
  | depth, _ :: rest => hasOuterComma depth rest

/-- Whether a spelling lists formats. -/
def listsFormats (spelling : List Char) : Bool :=
  let counted : List Char → Bool
    | '(' :: ')' :: _ => true
    | c :: _ => isDigit c
    | [] => false
  counted spelling || hasOuterComma 0 spelling
    || match spelling with
      | order :: '(' :: ')' :: _ :: _ => isOrder order
      | order :: c :: _ => isOrder order && isDigit c
      | _ => false

/-- A format of a list: a spelling, and the text of a count before it. -/
structure Format where
  spelling : String
  count : List Char

/-- The characters of a class at the start of a text, at most `most` of them, and the rest. -/
private def takeUpTo (most : Nat) (admits : Char → Bool) (text : List Char) :
    List Char × List Char :=
  let taken := (text.takeWhile admits).take most
  (taken, text.drop taken.length)

private def takeAll (admits : Char → Bool) (text : List Char) : List Char × List Char :=
  (text.takeWhile admits, text.dropWhile admits)

/-- Square brackets with what they hold, where a format may have them. -/
private def takeBrackets (text : List Char) : List Char × List Char :=
  match text with
  | '[' :: rest =>
    let (inner, behind) := takeAll (fun c => c.isAlphanum || c = ',' || c = '.') rest
    match behind with
    | ']' :: behind =>
      if inner.isEmpty then ([], text) else ('[' :: inner ++ [']'], behind)
    | _ => ([], text)
  | _ => ([], text)

/-- The byte order of a format whose order may stand before and behind the count. -/
def formatOrder (first second : List Char) : Except SpellingDefect (List Char) :=
  let native (order : Char) : Char := if order = '=' then '<' else order
  let kept (order : List Char) : List Char := if order = ['>'] then order else []
  match first, second with
  | first, [] => .ok (kept first)
  | [], second => .ok (kept second)
  | a :: _, b :: _ =>
    if native a = native b then .ok (kept [native a]) else .error (.orders (native a) (native b))

/-- Read the formats of a list, and whether there is a comma among them. -/
def formats (spelling : String) : Nat → Nat → List Char →
    Except SpellingDefect (List Format × Bool)
  | 0, _, _ | _, _, [] => .ok ([], false)
  | fuel + 1, number, unread => do
    let (first, rest) := takeUpTo 1 isOrder unread
    let (gap, rest) := takeAll (· = ' ') rest
    let (opening, rest) := takeUpTo 1 (· = '(') rest
    let (digits, rest) := takeAll (fun c => c = ' ' || c = ',' || isDigit c) rest
    let (closing, rest) := takeUpTo 1 (· = ')') rest
    let (more, rest) := takeAll (· = ' ') rest
    let (second, rest) := takeUpTo 1 isOrder rest
    let (name, rest) := takeAll (fun c => c.isAlphanum || c = '.' || c = '?') rest
    let (brackets, rest) := takeBrackets rest
    let behind := rest.dropWhile isBlank
    let (comma, next) ←
      match behind with
      | [] => pure (false, [])
      | ',' :: next => pure (true, next.dropWhile isBlank)
      | _ => .error (.format number spelling)
    let order ← formatOrder first second
    let format : Format :=
      ⟨String.ofList (order ++ name ++ brackets), gap ++ opening ++ digits ++ closing ++ more⟩
    -- A count is read before the formats behind it.
    if !format.count.isEmpty then
      match Literal.read format.count with
      | .error (.unreadable reason line) => .error (.count reason line)
      | _ => pure ()
    let (formats, listed) ← formats spelling fuel (number + 1) next
    return (format :: formats, comma || listed)

/-- The extents that a count before a format stands for: a number, or several in brackets. -/
def extents? (count : List Char) : Option (List Nat × Bool) :=
  let number? : Literal.Value → Option Nat
    | .integer n => some n
    | _ => none
  match Literal.read count with
  | .ok (.integer n) => some ([n], false)
  | .ok (.tuple items) => (items.mapM number?).map fun extents => (extents, true)
  | _ => none

/-- The most axes that a block has. -/
def rankLimit : Nat := 64

/-- Whether a product outgrows the largest size before one of its factors is zero. -/
private def outgrowsSize : Nat → List Nat → Bool
  | product, [] => sizeLimit < product
  | product, factor :: factors =>
    if factor = 0 then false
    else 0x7fffffffffffffff < product * factor || outgrowsSize (product * factor) factors

/-- A block of elements of a type that has a size. -/
def blockOf (type : ElementType) (extents : List Nat) : Except SpellingDefect ElementType :=
  if rankLimit < extents.length ∨ extents.any (0x7fffffffffffffff < ·) then
    .error (.block .extents)
  else if extents.any (sizeLimit < ·) then .error (.block .extentSize)
  else
    let size := type.size * extents.foldr (· * ·) 1
    if outgrowsSize 1 extents ∨ sizeLimit < size then .error (.block .size)
    else .ok (.block type extents size)

/-- A type that has no size yet, with one; characters of a text take four bytes each. -/
def withSize (type : ElementType) (size : Nat) : ElementType :=
  match type with
  | .bytes _ => .bytes size
  | .text _ => .text size
  | .record _ reach => .record [.raw size] reach
  | .block base extents _ => .block base extents size
  | type => type

/-- A count before a format: the size of a type that has none, or else the extents of a block; no extents
leave the type as it is. -/
def repeated (type : ElementType) (extents : List Nat) (several : Bool) :
    Except SpellingDefect ElementType :=
  if type.size = 0 then
    match extents, several with
    | [size], false =>
      let limit := match type with
        | .text _ => sizeLimit / 4
        | _ => sizeLimit
      if limit < size then .error .itemSize else .ok (type.withSize size)
    | _, _ => .error .itemSize
  else if extents = [] then .ok type
  else blockOf type extents

/-- The type of a spelling; `fuel` bounds how often a format is itself a list of formats. -/
def parseWith : Nat → String → Spelled
  | 0, spelling => .error (.unknown spelling)
  | fuel + 1, spelling =>
    if !listsFormats spelling.toList then ofPlain spelling
    else do
      let ofFormat (format : Format) : Spelled := do
        let (type, order) ← parseWith fuel format.spelling
        match extents? format.count with
        | some (extents, several) => return (← repeated type extents several, order)
        | none => return (type, order)
      let (formats, listed) ← formats spelling (spelling.length + 1) 1 spelling.toList
      match formats, listed with
      | [format], false => ofFormat format
      | formats, _ =>
        -- A last format without text and count is none.
        let last? := formats.getLast?.map fun format => format.spelling.isEmpty && format.count.isEmpty
        let formats := if last? = some true then formats.dropLast else formats
        if formats.isEmpty then .error .noFormat
        else
          let types ← formats.mapM ofFormat
          return (.record (types.flatMap fun (type, order) => type.stretches order)
            ((types.map fun (type, _) => type.reach).foldr Reach.join .none), .little)

/-- Read a spelling of an element type. -/
def parse (spelling : String) : Spelled := parseWith (spelling.length + 1) spelling

end ElementType

end LayerGraph
