import LayerGraph.Text.Words

/-! Patterns of characters and the ways in which a text can follow them.

A pattern has at each place of a text a list of ways, in order of preference; each way leads to a later
place. The first way at the earliest place that has one is a match, and the search goes on behind it.
-/

set_option autoImplicit false

namespace LayerGraph.Text

/-- A place in a text, with the bounds of the named parts that led to it. -/
structure Place where
  before : Option Char
  position : Nat
  rest : List Char
  parts : List (Nat × Nat) := []

/-- The place behind a character. -/
def Place.behind (place : Place) (c : Char) (rest : List Char) : Place :=
  { place with before := some c, position := place.position + 1, rest := rest }

/-- Whether a word begins or ends at a place. -/
def Place.atWordEdge (place : Place) : Bool :=
  place.before.any isWordCharacter != place.rest.head?.any isWordCharacter

inductive Pattern where
  | nothing
  | one (admits : Char → Bool)
  | both (first second : Pattern)
  /-- The first pattern is preferred. -/
  | either (first second : Pattern)
  /-- A greedy repetition prefers more to fewer. -/
  | repeated (greedy : Bool) (least : Nat) (most : Option Nat) (body : Pattern)
  /-- A pattern whose bounds are kept. -/
  | named (body : Pattern)
  | edge (ofWord : Bool)
  | notBehind (refused : Char → Bool)

namespace Pattern

/-- The ways of a repetition each of whose rounds takes a character or more. -/
def rounds (step : Place → List Place) (greedy : Bool) :
    Nat → Nat → Option Nat → Place → List Place
  | 0, _, _, place => [place]
  | fuel + 1, least, most, place =>
    let more :=
      if most = some 0 then []
      else
        ((step place).filter fun after => place.position < after.position).flatMap
          (rounds step greedy fuel (least - 1) (most.map (· - 1)))
    if 0 < least then more else if greedy then more ++ [place] else place :: more

/-- The ways from a place, in order of preference. -/
def ways : Pattern → Place → List Place
  | .nothing, place => [place]
  | .one admits, place =>
    match place.rest with
    | c :: rest => if admits c then [place.behind c rest] else []
    | [] => []
  | .both first second, place => (ways first place).flatMap fun place => ways second place
  | .either first second, place => ways first place ++ ways second place
  | .repeated greedy least most body, place =>
    rounds (fun place => ways body place) greedy (place.rest.length + 1) least most place
  | .named body, place =>
    (ways body place).map fun after =>
      { after with parts := after.parts ++ [(place.position, after.position)] }
  | .edge ofWord, place => if place.atWordEdge = ofWord then [place] else []
  | .notBehind refused, place => if place.before.any refused then [] else [place]

/-- The named parts of all matches from a place on. -/
def partsFrom (pattern : Pattern) : Nat → Place → List (Nat × Nat)
  | 0, _ => []
  | fuel + 1, place =>
    match pattern.ways place, place.rest with
    | after :: _, _ :: _ => after.parts ++ partsFrom pattern fuel { after with parts := [] }
    | _, c :: rest => partsFrom pattern fuel (place.behind c rest)
    | _, [] => []

/-- The bounds of the named parts of a pattern in a text. -/
def parts (pattern : Pattern) (text : List Char) : List (Nat × Nat) :=
  pattern.partsFrom (text.length + 1) ⟨none, 0, text, []⟩

/-! ### Building patterns -/

def sequence (patterns : List Pattern) : Pattern := patterns.foldr .both .nothing

/-- The first of several patterns that fits. -/
def choice : List Pattern → Pattern
  | [] => .one fun _ => false
  | [pattern] => pattern
  | pattern :: patterns => .either pattern (choice patterns)

def char (c : Char) : Pattern := .one (· = c)

def exactly (text : String) : Pattern := sequence (text.toList.map char)

/-- A character of a text. -/
def among (characters : String) : Pattern := .one characters.toList.contains

def many (pattern : Pattern) : Pattern := .repeated true 0 none pattern

def atLeastOne (pattern : Pattern) : Pattern := .repeated true 1 none pattern

/-- As few repetitions as possible. -/
def few (pattern : Pattern) : Pattern := .repeated false 0 none pattern

def upTo (least most : Nat) (pattern : Pattern) : Pattern := .repeated true least (some most) pattern

def times (count : Nat) (pattern : Pattern) : Pattern := upTo count count pattern

def optional (pattern : Pattern) : Pattern := upTo 0 1 pattern

end Pattern

end LayerGraph.Text
