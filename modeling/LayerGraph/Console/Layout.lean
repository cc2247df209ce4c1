import LayerGraph.Console.Highlight
import LayerGraph.Markup.Basic
import LayerGraph.Text.Width

/-! Laying out text on lines of limited width, counted in cells.

Words stay whole while a line can hold them; a longer word is folded. Blanks stay with the word before
them and may hang over the end of a line, where they are dropped. What is still too wide is cut off.

A line is shown in pieces, between which styles begin or end. Pieces are measured apart, and where they
take more cells together than the line has, the line is cut once more.
-/

set_option autoImplicit false

namespace LayerGraph.Layout

open Text Markup

/-- Why a text is not laid out. -/
inductive Defect where
  | colour (defect : ColourDefect)
  | cut (defect : CutDefect)
  deriving DecidableEq, Repr

/-! ### Cutting marked texts -/

/-- The part of a marked text between two places. A style that covers none of it is dropped. -/
def slice (marked : Marked) (start stop : Nat) : Marked where
  text := (marked.text.take stop).drop start
  spans := marked.spans.filterMap fun span =>
    let first := span.start - start
    let last := min span.stop stop - start
    if first < last then some ⟨first, last, span.style⟩ else none

/-- The parts between places that rise, from one of them on. -/
def slicesFrom (marked : Marked) : Nat → List Nat → List Marked
  | start, [] => [slice marked start marked.text.length]
  | start, place :: places => slice marked start place :: slicesFrom marked place places

/-- Cut a marked text at places that rise. Uncut, it keeps the styles that cover nothing. -/
def divide (marked : Marked) (places : List Nat) : List Marked :=
  if places.isEmpty then [marked] else slicesFrom marked 0 places

/-- The start of a marked text; a style that begins at its end is dropped. -/
def keep (count : Nat) (marked : Marked) : Marked where
  text := marked.text.take count
  spans := (marked.spans.filter fun span => span.start < count).map fun span =>
    { span with stop := min count span.stop }

/-- The places of a character in a text that begins at a place. -/
def placesOf (c : Char) : Nat → List Char → List Nat
  | _, [] => []
  | place, d :: rest => if d = c then place :: placesOf c (place + 1) rest else placesOf c (place + 1) rest

/-- The lines of a marked text. -/
def textLines (marked : Marked) : List Marked :=
  let breaks := placesOf '\n' 0 marked.text
  if breaks.isEmpty then [marked]
  else
    let stops := breaks ++ [marked.text.length]
    ((0 :: breaks.map (· + 1)).zip stops).map fun (start, stop) => slice marked start stop

/-- Marked texts one behind the other. -/
def joined (parts : List Marked) : Marked :=
  parts.foldl
    (fun whole part =>
      let offset := whole.text.length
      ⟨whole.text ++ part.text, whole.spans ++ part.spans.map fun span =>
        { span with start := offset + span.start, stop := offset + span.stop }⟩)
    {}

/-! ### Tabulators -/

/-- Cells between two tabulator stops. -/
def tabWidth : Nat := 8

/-- Add blanks to a marked text, and to the styles that reach its end. -/
def extend (count : Nat) (marked : Marked) : Marked where
  text := marked.text ++ List.replicate count ' '
  spans := marked.spans.map fun span =>
    if marked.text.length ≤ span.stop then { span with stop := span.stop + count } else span

/-- Turn the tabulator at the end of each part into blanks up to the next stop. -/
def expandParts : Nat → List Marked → List Marked
  | _, [] => []
  | position, part :: parts =>
    if part.text.getLast? = some '\t' then
      let part := { part with text := part.text.dropLast ++ [' '] }
      let position := position + cells part.text
      let more := if position % tabWidth = 0 then 0 else tabWidth - position % tabWidth
      extend more part :: expandParts (position + more) parts
    else part :: expandParts (position + cells part.text) parts

/-- A line with blanks in place of tabulators. -/
def expandTabs (line : Marked) : Marked :=
  let tabs := placesOf '\t' 0 line.text
  if tabs.isEmpty then line else joined (expandParts 0 (divide line (tabs.map (· + 1))))

/-! ### Words -/

/-- A word: what is not blank, with the blanks behind it. -/
def takeWord (text : List Char) : List Char × List Char :=
  let solid := text.takeWhile fun c => !isBlank c
  let rest := text.dropWhile fun c => !isBlank c
  (solid ++ rest.takeWhile isBlank, rest.dropWhile isBlank)

/-- The words of a text without leading blanks. -/
def solidWords : Nat → List Char → List (List Char)
  | 0, _ => []
  | _ + 1, [] => []
  | fuel + 1, c :: rest =>
    let (word, after) := takeWord (c :: rest)
    word :: solidWords fuel after

/-- The words of a text; leading blanks belong to the first one, and blanks alone are no word. -/
def words (text : List Char) : List (List Char) :=
  let leading := text.takeWhile isBlank
  match solidWords (text.length + 1) (text.dropWhile isBlank) with
  | [] => []
  | word :: words => (leading ++ word) :: words

/-- A text without its last blanks. -/
def trimEnd (text : List Char) : List Char := (text.reverse.dropWhile isBlank).reverse

/-- Cut clusters into chunks of limited width; `chunk` is open and takes `size` cells. -/
def chunks (width : Nat) : List Char → Nat → List Cluster → List (List Char)
  | chunk, size, [] => if size = 0 then [] else [chunk]
  | chunk, size, c :: rest =>
    if width < size + c.cells then chunk :: chunks width c.chars c.cells rest
    else chunks width (chunk ++ c.chars) (size + c.cells) rest

/-! ### Lines -/

/-- Places where lines end, and the cells of the last line so far. -/
structure Breaks where
  places : List Nat := []
  size : Nat := 0
  deriving DecidableEq, Repr

/-- The starts of consecutive chunks. -/
def starts : Nat → List (List Char) → List Nat
  | _, [] => []
  | start, chunk :: chunks => start :: starts (start + chunk.length) chunks

/-- Place a word that starts at a place of the text. -/
def Breaks.place (width start : Nat) (breaks : Breaks) (word : List Char) : Breaks :=
  let needed := cells (trimEnd word)
  if breaks.size + needed ≤ width then { breaks with size := breaks.size + cells word }
  else if width < needed then
    -- No line can hold the word whole: fold it, from the start of a line of its own.
    let folded := chunks width [] 0 (clusters word)
    ⟨breaks.places ++ (starts start folded).filter (0 < ·),
      (folded.getLast?.map cells).getD breaks.size⟩
  else if 0 < start then ⟨breaks.places ++ [start], cells word⟩
  else breaks

/-- Place the words of a text from a place on. -/
def breaksFrom (width : Nat) : Nat → Breaks → List (List Char) → Breaks
  | _, breaks, [] => breaks
  | start, breaks, word :: words =>
    breaksFrom width (start + word.length) (breaks.place width start word) words

/-- Drop blanks at the end of a line that hang over the width, counted in characters. -/
def trimOver (width : Nat) (line : Marked) : Marked :=
  let loose := (line.text.reverse.takeWhile isBlank).length
  let dropped := min loose (line.text.length - width)
  if dropped = 0 then line else keep (line.text.length - dropped) line

/-- Cut a line off that is too wide. -/
def cutLine (width : Nat) (line : Marked) : Except Defect Marked :=
  match cutTo width line.text with
  | .error defect => .error (.cut defect)
  | .ok text =>
    if text.length < line.text.length then .ok { keep text.length line with text := text }
    else .ok { line with text := text }

/-- Cut a line off that is too wide, and put blanks at the end of one that is too narrow. -/
def padLine (width : Nat) (line : Marked) : Except Defect Marked :=
  let missing := width - cells line.text
  if missing = 0 then cutLine width line
  else .ok { line with text := line.text ++ List.replicate missing ' ' }

/-- The lines that one line of text takes, with blanks at their ends if they are to fill a column. -/
def wrapLine (width : Nat) (column : Bool) (line : Marked) : Except Defect (List Marked) :=
  let line := expandTabs line
  (divide line (breaksFrom width 0 {} (words line.text)).places).mapM fun part => do
    let part := trimOver width part
    cutLine width (← if column then padLine width part else pure part)

/-- The lines that a marked text takes. -/
def wrap (width : Nat) (column : Bool) (marked : Marked) : Except Defect (List Marked) := do
  return (← (textLines marked).mapM (wrapLine width column)).flatten

/-! ### Pieces -/

/-- Parts of a line that are measured apart. -/
abbrev Pieces := List (List Char)

/-- Cut a text at places that rise, from one of them on. -/
def cutAt (text : List Char) : Nat → List Nat → Pieces
  | start, [] => [text.drop start]
  | start, place :: places => (text.take place).drop start :: cutAt text place places

/-- The pieces of a line: styles begin or end between them. -/
def pieces (line : Marked) : Pieces :=
  let edges := line.spans.flatMap fun span => [span.start, span.stop]
  let inner := (List.range line.text.length).filter fun place => 0 < place && edges.contains place
  cutAt line.text 0 inner

def size (pieces : Pieces) : Nat := (pieces.map cells).foldr (· + ·) 0

/-- The start of some pieces in a number of cells. -/
def cropPieces : Nat → Pieces → Except CutDefect Pieces
  | _, [] => .ok []
  | left, piece :: rest =>
    if cells piece < left then (cropPieces (left - cells piece) rest).map (piece :: ·)
    else (cutTo left piece).map ([·])

/-- Pieces of at most a width. -/
def crop (width : Nat) (pieces : Pieces) : Except Defect Pieces :=
  if size pieces ≤ width then .ok pieces else (cropPieces width pieces).mapError .cut

/-- Pieces of a width: cropped, or with blanks at the end. -/
def fill (width : Nat) (pieces : Pieces) : Except Defect Pieces :=
  if size pieces < width then .ok (pieces ++ [List.replicate (width - size pieces) ' '])
  else crop width pieces

/-- What is wrong with the style of a span. -/
def defect? (span : Span) : Option ColourDefect :=
  match Style.ofText? span.style with
  | .ok _ => none
  | .error defect => some defect

/-- The pieces of the lines of a marked text, which may fill a column, unless a style of what is shown is
wrong. -/
def lines (width : Nat) (column : Bool) (marked : Marked) : Except Defect (List Pieces) := do
  let lines ← wrap width column marked
  match lines.findSome? fun line => line.spans.findSome? defect? with
  | some defect => .error (.colour defect)
  | none => return lines.map pieces

end LayerGraph.Layout
