import LayerGraph.Text.CodePoints
import LayerGraph.Text.Width.Ranges

/-! Cells that a text takes on a screen.

A character takes no, one or two cells. A joiner draws the next character into the one before, so that
it takes no cells of its own, and the emoji selector makes some narrow characters wide. Characters that
are drawn together form a cluster, which no line break divides.
-/

set_option autoImplicit false

namespace LayerGraph.Text

/-- The cells of a character on its own. -/
def cellsOf (c : Char) : Nat :=
  let n := c.toNat
  if n < 0x20 ∨ (0x7f ≤ n ∧ n < 0xa0) then 0
  else if n < 0x300 then 1
  else if inRanges zeroWidthRanges n then 0
  else if inRanges wideRanges n then 2
  else 1

/-- Characters drawn together, and their cells. -/
structure Cluster where
  chars : List Char
  cells : Nat
  deriving DecidableEq, Repr

def joiner : Char := '\u200d'

def emojiSelector : Char := '\ufe0f'

/-- Add a character to the last cluster, which is the first of the list. -/
def extendLast (c : Char) : List Cluster → List Cluster
  | [] => [⟨[c], 0⟩]
  | last :: before => ⟨last.chars ++ [c], last.cells⟩ :: before

/-- Let the last cluster take one cell more. -/
def widenLast : List Cluster → List Cluster
  | [] => []
  | last :: before => ⟨last.chars, last.cells + 1⟩ :: before

/-- Add characters to clusters, the last one first; `base` is the last character with cells. -/
def clustersFrom : List Cluster → Option Char → List Char → List Cluster
  | done, _, [] => done
  | [], base, c :: rest =>
    let cells := if c = joiner ∨ c = emojiSelector then 0 else cellsOf c
    clustersFrom [⟨[c], cells⟩] (if cells = 0 then base else some c) rest
  | last :: before, base, c :: rest =>
    let done := last :: before
    if c = joiner then
      match rest with
      | [] => extendLast c done
      | next :: rest => clustersFrom (extendLast next (extendLast c done)) base rest
    else if c = emojiSelector then
      if base.any fun b => inRanges selectableRanges b.toNat then
        clustersFrom (widenLast (extendLast c done)) none rest
      else clustersFrom (extendLast c done) base rest
    else if cellsOf c = 0 then clustersFrom (extendLast c done) base rest
    else clustersFrom (⟨[c], cellsOf c⟩ :: done) (some c) rest

def clusters (text : List Char) : List Cluster := (clustersFrom [] none text).reverse

/-- The cells of a text behind a character that the emoji selector may make wide. -/
def cellsFrom : Option Char → List Char → Nat
  | _, [] => 0
  | base, c :: rest =>
    if c = joiner then
      match rest with
      | [] => 0
      | _ :: rest => cellsFrom base rest
    else if c = emojiSelector then
      (if base.any fun b => inRanges selectableRanges b.toNat then 1 else 0) + cellsFrom none rest
    else cellsOf c + cellsFrom (if cellsOf c = 0 then base else some c) rest

/-- The cells that a text takes. A joiner at its start draws the next character in as well, which is
a cluster of its own there. -/
def cells (text : List Char) : Nat := cellsFrom none text

/-- Why a text has no start in a number of cells. Both arise only behind joiners and selectors, where the
clusters of a text may take fewer cells than the text. -/
inductive CutDefect where
  | noCells
  | beyondEnd
  deriving DecidableEq, Repr

/-- The start of some clusters in a number of cells; half a cluster is a blank. -/
def startOf : Nat → List Cluster → Except CutDefect (List Char)
  | 0, _ => .ok []
  | _ + 1, [] => .error .beyondEnd
  | left + 1, cluster :: rest =>
    if left + 1 < cluster.cells then .ok [' ']
    else (startOf (left + 1 - cluster.cells) rest).map (cluster.chars ++ ·)

/-- The start of a text in a number of cells. -/
def cutTo (width : Nat) (text : List Char) : Except CutDefect (List Char) :=
  if cells text ≤ width then .ok text
  else
    let parts := clusters text
    if 0 < width ∧ parts.all fun part => part.cells = 0 then .error .noCells
    else startOf width parts

end LayerGraph.Text
