import LayerGraph.Literal.Tree

/-! Grammars whose alternatives are tried in order.

A rule has alternatives, an alternative has parts, and the first alternative whose parts follow one
another is taken. Behind a commitment no other alternative is tried. Some rules describe what is often
written by mistake: they are looked at only in search of a complaint, and make one.
-/

set_option autoImplicit false

namespace LayerGraph.Literal

/-- Words that cannot be names. -/
def keywords : List String := [
  "and", "as", "assert", "async", "await", "break", "class", "continue", "def", "del", "elif",
  "else", "except", "finally", "for", "from", "global", "if", "import", "in", "is", "lambda",
  "nonlocal", "not", "or", "pass", "raise", "return", "try", "while", "with", "yield"]

/-- Names that have a meaning of their own elsewhere, so that nothing is said about a missing comma
behind them. -/
def softKeywords : List String := ["_", "case", "match"]

/-- The rules for expressions and for what they are made of. -/
inductive Rule where
  /-- A whole text. -/
  | whole
  /-- An expression in the braces of a pattern. -/
  | filled
  | expressions
  | expression
  /-- An expression in which no mistakes are looked for. -/
  | unsearched
  | yielding
  | starExpressions
  | starExpression
  | items
  | item
  | assignment
  | namedExpression
  | disjunction
  | conjunction
  | inversion
  | comparison
  | relation
  | equal
  | unequal
  | atMost
  | below
  | atLeast
  | above
  | outside
  | inside
  | distinct
  | identical
  | bitOr
  | bitXor
  | bitAnd
  | shift
  | sum
  | term
  | factor
  | power
  | awaiting
  | primary
  | slices
  | slice
  | atom
  | group
  | function
  | parameters
  | parameterList
  | plainBeforeSlash
  | valuedBeforeSlash
  | behindStar
  | behindStars
  | plainParameter
  | valuedParameter
  | anyParameter
  | parameter
  | preset
  | strings
  | list
  | tuple
  | set
  | mapping
  | entries
  | entry
  | pair
  | clauses
  | clause
  | listed
  | collected
  | generator
  | mapped
  | arguments
  | argumentList
  | namedArguments
  | starred
  | namedOrStarred
  | namedOrUnpacked
  | targets
  | listTargets
  | tupleTargets
  | target
  | plainTarget
  | targetAtom
  | targetPrimary
  | trailerAhead
  | wrongExpression
  | oldStatement
  | wrongAssignment
  | wrongArguments
  | wrongKeyword
  | wrongGenerator
  | wrongMapped
  | wrongParameters
  | valuedParameters
  | wrongBehindStar
  | wrongBehindStars
  | wrongPreset
  | wrongTarget
  | wrongGroup
  | wrongEntries
  | wrongEntry
  deriving DecidableEq, Hashable, Repr

/-- Whether a rule describes mistakes. -/
def Rule.isMistake : Rule → Bool
  | .wrongExpression | .oldStatement | .wrongAssignment | .wrongArguments | .wrongKeyword
  | .wrongGenerator | .wrongMapped | .wrongParameters | .wrongBehindStar | .wrongBehindStars
  | .wrongPreset | .wrongTarget | .wrongGroup | .wrongEntries | .wrongEntry => true
  | _ => false

/-- What is done with the answers of a rule. -/
inductive Habit where
  | forgotten
  /-- An answer is kept for the next time that the rule is tried at its place. -/
  | kept
  /-- A rule that begins with itself: what it has read is kept and read on from, as long as more can be. -/
  | grown
  deriving DecidableEq, Repr

def Rule.habit : Rule → Habit
  | .expression | .starExpression | .disjunction | .conjunction | .inversion | .factor | .awaiting
  | .strings | .arguments | .target | .plainTarget | .wrongAssignment => .kept
  | .bitOr | .bitXor | .bitAnd | .shift | .sum | .term | .primary | .targetPrimary => .grown
  | _ => .forgotten

/-- What is made of the parts of an alternative. -/
inductive Build where
  /-- The part at an index stands for the whole. -/
  | part (index : Nat)
  /-- A node of the parts at some indices. -/
  | form (form : Form) (indices : List Nat)
  /-- One text of several quoted ones. -/
  | quotation
  /-- A complaint about the parts, the last token of which ends in so many brackets. The rule does not
  apply if there is none. -/
  | complaint (about : Nat → List Tree → Option String)

/-- A part of an alternative. -/
inductive Part where
  /-- A keyword or a mark. -/
  | word (text : String)
  | name
  /-- A name that has a meaning of its own elsewhere. -/
  | softWord
  | number
  | quoted
  | finish
  | rule (rule : Rule)
  /-- The first of some alternatives that applies. -/
  | oneOf (alternatives : List (List Part × Build))
  | maybe (part : Part)
  /-- Parts that are repeated as often as they can be. -/
  | repeated (atLeastOnce : Bool) (parts : List Part)
  /-- What must follow, or must not, and is not read yet. -/
  | ahead (wanted : Bool) (part : Part)
  | commitment

abbrev Alternative := List Part × Build

instance : Coe String Part := ⟨.word⟩

instance : Coe Rule Part := ⟨.rule⟩

namespace Part

/-- A part as often as it can be read, but once at least. -/
def some (part : Part) : Part := .repeated true [part]

/-- A part as often as it can be read, or never. -/
def many (part : Part) : Part := .repeated false [part]

/-- Parts with a separator between them. -/
def separated (separator part : Part) : Part :=
  .oneOf [([part, .repeated false [separator, part]], .form .series [0, 1])]

def follows (part : Part) : Part := .ahead true part

def without (part : Part) : Part := .ahead false part

/-- One of some parts. -/
def anyOf (parts : List Part) : Part := .oneOf (parts.map fun part => ([part], .part 0))

/-- Parts of which the one at an index counts. -/
def sequence (parts : List Part) (index : Nat) : Part := .oneOf [(parts, .part index)]

end Part

/-- The complaint that is the same for all parts. -/
def Build.always (message : String) : Build := .complaint fun _ _ => some message

end LayerGraph.Literal
