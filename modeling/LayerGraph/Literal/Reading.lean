import LayerGraph.Literal.Grammar.Expression
import LayerGraph.Literal.Grammar.Mistake
import Std.Data.HashMap

/-! Reading tokens by the rules.

A reading goes step by step. Each step reads a part at a place or hands an answer to what waits for it:
the tree that was read and the place behind it, or nothing if the part is not there. A token counts as
seen once a rule has looked at it; one that cannot be read stops the reading as soon as it is seen.
-/

set_option autoImplicit false

namespace LayerGraph.Literal

/-- Why a reading stops. -/
inductive Halt where
  /-- A token cannot be read. -/
  | token (message : String)
  /-- The text ends too early, or a line goes on wrongly. -/
  | ending (message : String)
  /-- A rule complains. -/
  | complaint (message : String)
  /-- Rules are nested too deep. -/
  | depth
  deriving DecidableEq, Repr

/-- What was read and the place behind it, or nothing. -/
abbrev Answer := Option (Tree × Nat)

/-- What waits for an answer. -/
inductive Frame where
  /-- An alternative: what it has read, last first, what is to follow, and what else can be tried from
  its start unless it is committed. -/
  | alternative (start : Nat) (read : List Tree) (parts : List Part) (build : Build)
      (committed : Bool) (others : List Alternative)
  /-- The end of a rule or of another part that counts as one in how deep they are nested. -/
  | leave
  /-- A rule whose answer is kept. -/
  | keep (rule : Rule) (start : Nat)
  /-- A rule that begins with itself, and the best answer so far. -/
  | grow (rule : Rule) (start : Nat) (best : Answer)
  /-- A part that may be missing. -/
  | spare (place : Nat)
  /-- Parts that are repeated, with what was read of them, last first. -/
  | again (atLeastOnce : Bool) (parts : List Part) (read : List Tree) (place : Nat)
  | look (wanted : Bool) (place : Nat)
  /-- Whether mistakes are searched for afterwards. -/
  | search (searching : Bool)

/-- A reading on its way. -/
structure Reading where
  /-- How many tokens were looked at. -/
  seen : Nat := 0
  /-- The answers that rules have given at places. -/
  kept : Std.HashMap (Rule × Nat) Answer := {}
  /-- Whether mistakes are searched for. -/
  searching : Bool := false
  depth : Nat := 0
  /-- What waits, innermost first. -/
  frames : List Frame := []

/-- What is to be done next. -/
inductive Task where
  | read (part : Part) (place : Nat)
  | answer (answer : Answer)

/-- What a reading is about: tokens, and how quoted texts in them become one. -/
structure Source where
  tokens : Array Token
  quotation : List TokenKind → Except Halt Form
  /-- The words before each complaint. -/
  lead : String := ""

/-- The complaint about an integer of too many digits. -/
def tooManyDigits (digits : Nat) : String :=
  "Exceeds the limit (4300 digits) for integer string conversion: value has " ++ toString digits
    ++ " digits; use sys.set_int_max_str_digits() to increase the limit - Consider hexadecimal for "
    ++ "huge integer literals to avoid decimal conversion limits."

/-- How deep rules can be nested. -/
def depthLimit : Nat := 6000

/-- A step goes on with a task, or the reading stops; what was seen until then is known. -/
abbrev Step := Except Halt Task × Reading

namespace Reading

def wait (reading : Reading) (frame : Frame) : Reading :=
  { reading with frames := frame :: reading.frames }

def go (reading : Reading) (task : Task) : Step := (.ok task, reading)

def halt (reading : Reading) (halt : Halt) : Step := (.error halt, reading)

def answered (reading : Reading) (answer : Answer) : Step := reading.go (.answer answer)

def keep (reading : Reading) (rule : Rule) (place : Nat) (answer : Answer) : Reading :=
  { reading with kept := reading.kept.insert (rule, place) answer }

/-- Look at the token at a place. -/
def see (source : Source) (reading : Reading) (place : Nat) (next : TokenKind → Reading → Step) :
    Step :=
  let reading := { reading with seen := max reading.seen (place + 1) }
  match (source.tokens[place]?.map Token.kind).getD .finish with
  | .fault message => reading.halt (.token message)
  | .halt message => reading.halt (.ending (source.lead ++ message))
  | kind => next kind reading

/-- Go one rule deeper. -/
def descend (reading : Reading) (next : Reading → Step) : Step :=
  if reading.depth = depthLimit then reading.halt .depth
  else next { reading.wait .leave with depth := reading.depth + 1 }

/-- Whether an alternative is tried: mistakes are, only in search of a complaint. -/
def allows (reading : Reading) : Alternative → Bool
  | ([.rule rule], _) => reading.searching || !rule.isMistake
  | _ => true

/-- What an alternative becomes whose parts have all been read. -/
def built (source : Source) (reading : Reading) (start place : Nat) (build : Build)
    (trees : List Tree) : Step :=
  let line := (source.tokens[start]?.map Token.line).getD 0
  match build with
  | .part index => reading.answered (some (trees.getD index .empty, place))
  | .form form indices =>
    let parts := indices.flatMap fun index => (trees.getD index .empty).spliced
    reading.answered (some (.node form line parts, place))
  | .quotation =>
    let kinds := (trees.flatMap Tree.spliced).filterMap fun tree =>
      match tree with
      | .leaf kind _ => some kind
      | _ => none
    match source.quotation kinds with
    | .ok form => reading.answered (some (.node form line [], place))
    -- A token in a quoted text is none of these tokens.
    | .error (.token message) | .error (.ending message) => reading.halt (.complaint message)
    | .error stop => reading.halt stop
  | .complaint about =>
    let level := (source.tokens[place - 1]?.map Token.level).getD 0
    match about level trees with
    | some message => reading.halt (.complaint (source.lead ++ message))
    | none => reading.answered none

/-- Go on with an alternative. -/
def follow (source : Source) (reading : Reading) (start place : Nat) (read : List Tree)
    (build : Build) (others : List Alternative) : Bool → List Part → Step
  | _, [] => reading.built source start place build read.reverse
  | _, .commitment :: parts => follow source reading start place read build others true parts
  | committed, part :: parts =>
    (reading.wait (.alternative start read parts build committed others)).go (.read part place)

/-- Try alternatives in order. -/
def attempt (source : Source) (reading : Reading) (start : Nat) : List Alternative → Step
  | [] => reading.answered none
  | alternative :: others =>
    if reading.allows alternative then
      reading.follow source start start [] alternative.2 others false alternative.1
    else attempt source reading start others

/-- Repeat some parts once more. -/
def goRound (source : Source) (reading : Reading) (parts : List Part) (place : Nat) : Step :=
  reading.follow source place place [] (.part (parts.length - 1)) [] false parts

/-- The alternatives of a rule. -/
def alternatives (rule : Rule) : List Alternative := rule.readings ++ rule.mistakes

/-- Read by a rule. -/
def apply (source : Source) (rule : Rule) (place : Nat) (reading : Reading) : Step :=
  reading.descend fun reading =>
    match reading.kept[(rule, place)]? with
    | some answer => reading.answered answer
    | none =>
      match rule.habit with
      | .forgotten =>
        if rule = .unsearched then
          let waiting := reading.wait (.search reading.searching)
          { waiting with searching := false }.attempt source place (alternatives rule)
        else reading.attempt source place (alternatives rule)
      | .kept => (reading.wait (.keep rule place)).attempt source place (alternatives rule)
      | .grown =>
        ((reading.keep rule place none).wait (.grow rule place none)).descend fun reading =>
          reading.attempt source place (alternatives rule)

/-- Whether a part is the token at its place. -/
def isToken (part : Part) (kind : TokenKind) : Bool :=
  match part, kind with
  | .word text, .name word | .word text, .mark word => text == word
  | .name, .name text => !keywords.contains text && !constants.contains text
  | .softWord, .name text => softKeywords.contains text
  | .number, .integer _ | .number, .real | .number, .imaginary => true
  | .quoted, kind => kind.isQuoted
  | .finish, .finish => true
  | _, _ => false

/-- Read a part at a place. -/
def read (source : Source) (reading : Reading) (part : Part) (place : Nat) : Step :=
  match part with
  | .rule rule => reading.see source place fun _ reading => reading.apply source rule place
  | .oneOf alternatives => reading.descend fun reading => reading.attempt source place alternatives
  | .maybe part => (reading.wait (.spare place)).go (.read part place)
  | .repeated atLeastOnce parts =>
    reading.descend fun reading =>
      (reading.wait (.again atLeastOnce parts [] place)).goRound source parts place
  | .ahead wanted part => (reading.wait (.look wanted place)).go (.read part place)
  | .commitment => reading.answered (some (.empty, place))
  | part =>
    reading.see source place fun kind reading =>
      match part, kind with
      | .number, .hugeInteger digits =>
        reading.halt (.complaint (source.lead ++ tooManyDigits digits))
      | _, _ =>
        let line := (source.tokens[place]?.map Token.line).getD 0
        reading.answered (if isToken part kind then some (.leaf kind line, place + 1) else none)

/-- Hand an answer to what waits for it. -/
def take (source : Source) (reading : Reading) (answer : Answer) : Frame → Step
  | .alternative start read parts build committed others =>
    match answer with
    | some (tree, place) =>
      reading.follow source start place (tree :: read) build others committed parts
    | none => if committed then reading.answered none else reading.attempt source start others
  | .leave => { reading with depth := reading.depth - 1 }.answered answer
  | .keep rule start => (reading.keep rule start answer).answered answer
  | .grow rule start best =>
    let end? (answer : Answer) : Nat := (answer.map Prod.snd).getD start
    if end? best < end? answer then
      ((reading.keep rule start answer).wait (.grow rule start answer)).descend fun reading =>
        reading.attempt source start (alternatives rule)
    else reading.answered best
  | .spare place => reading.answered (some (answer.getD (.empty, place)))
  | .again atLeastOnce parts read place =>
    match answer with
    | some (tree, place) =>
      (reading.wait (.again atLeastOnce parts (tree :: read) place)).goRound source parts place
    | none =>
      reading.answered (if atLeastOnce && read.isEmpty then none
        else some (.node .series 0 read.reverse, place))
  | .look wanted place =>
    reading.answered (if answer.isSome = wanted then some (.empty, place) else none)
  | .search searching => { reading with searching }.answered answer

/-- The outcome of a reading, and the reading as it was at the end; `fuel` bounds the steps. -/
def run (source : Source) : Nat → Reading → Task → Except Halt Answer × Reading
  | 0, reading, _ => (.ok none, reading)
  | fuel + 1, reading, .read part place =>
    match reading.read source part place with
    | (.ok task, reading) => run source fuel reading task
    | (.error stop, reading) => (.error stop, reading)
  | fuel + 1, reading, .answer answer =>
    match reading.frames with
    | [] => (.ok answer, reading)
    | frame :: frames =>
      match { reading with frames }.take source answer frame with
      | (.ok task, reading) => run source fuel reading task
      | (.error stop, reading) => (.error stop, reading)

end Reading

/-- The complaint where no rule has one of its own. -/
def generalComplaint : String := "invalid syntax"

/-- A bound on the steps of a reading, far above what any text of a sensible size takes. -/
def stepLimit : Nat := 1000000000

namespace Source

/-- A complaint when so many tokens were seen. A token behind them that cannot be read is told of
instead, and so is a bracket that stays open from an earlier line on. -/
def told (source : Source) (seen : Nat) (message : String) : Halt :=
  let line := (source.tokens[seen - 1]?.map Token.line).getD 0
  let later? := (source.tokens.toList.drop seen).findSome? fun token =>
    match token.kind, token.openings with
    | .fault message, _ => some (.token message)
    | .halt _, opening :: _ =>
      some (.complaint (if opening.line < line then source.lead ++ opening.fault else message))
    | _, _ => none
  later?.getD (.complaint message)

/-- Why a reading stopped. A text that has been cut to its end is not looked at again. -/
def stopped (source : Source) (seen : Nat) : Halt → Halt
  | .complaint message =>
    if (source.tokens[seen - 1]?).any Token.atEnd then .complaint message
    else source.told seen message
  | stop => stop

/-- Read all tokens by a rule. Where it does not apply, mistakes are searched for in a second reading. -/
def parse (source : Source) (rule : Rule) : Except Halt Tree :=
  let task := Task.read (.rule rule) 0
  match Reading.run source stepLimit {} task with
  | (.ok (some (tree, _)), _) => .ok tree
  | (.error stop, reading) => .error (source.stopped reading.seen stop)
  | (.ok none, reading) =>
    match Reading.run source stepLimit { seen := reading.seen, searching := true } task with
    | (.error stop, reading) => .error (source.stopped reading.seen stop)
    | (.ok _, reading) => .error (source.told reading.seen (source.lead ++ generalComplaint))

end Source

end LayerGraph.Literal
