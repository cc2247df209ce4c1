import LayerGraph.Literal.Token
import LayerGraph.Text.CharacterName

/-! Escapes in quoted texts, and the parts of patterns.

A backslash and a letter may call for digits or a name behind them. A pattern is a text with
expressions in braces; a brace that is doubled stands for itself.
-/

set_option autoImplicit false

namespace LayerGraph.Literal

open Text

/-! ### Escapes -/

/-- What is wrong with an escape: where it begins, where it cannot go on, and why. -/
structure EscapeDefect where
  start : Nat
  stop : Nat
  reason : String
  deriving DecidableEq, Repr

def EscapeDefect.message (defect : EscapeDefect) : String :=
  "(unicode error) 'unicodeescape' codec can't decode bytes in position " ++ toString defect.start
    ++ "-" ++ toString (defect.stop - 1) ++ ": " ++ defect.reason

/-- A text in which characters beyond ASCII are escapes too; defects are placed in that. -/
def spellOut : List Char → List Char
  | [] => []
  | ['\\'] => "\\u005c".toList
  | '\\' :: c :: rest =>
    if c.toNat < 0x80 then '\\' :: c :: spellOut rest
    else "\\u005c".toList ++ '\\' :: 'U' :: hex 8 c.toNat ++ spellOut rest
  | c :: rest =>
    if c.toNat < 0x80 then c :: spellOut rest else '\\' :: 'U' :: hex 8 c.toNat ++ spellOut rest

/-- The digits that an escape letter calls for, and the complaint about too few of them. -/
def escapeDigits? (letter : Char) : Option (Nat × String) :=
  match letter with
  | 'x' => some (2, "truncated \\xXX escape")
  | 'u' => some (4, "truncated \\uXXXX escape")
  | 'U' => some (8, "truncated \\UXXXXXXXX escape")
  | _ => none

/-- What is wrong with the name behind the letter of an escape: how far it can be read, and why. -/
def nameDefect? (text : List Char) : Option (Nat × String) :=
  match text with
  | '\x7b' :: rest =>
    let name := rest.takeWhile (· != '\x7d')
    if name.isEmpty ∨ name.length = rest.length then
      some (1 + name.length, "malformed \\N character escape")
    else if isCharacterName name then none
    else some (2 + name.length, "unknown Unicode character name")
  | _ => some (0, "malformed \\N character escape")

/-- The first defect of a spelled-out text from a position on. -/
def escapeDefectFrom? : Nat → List Char → Option EscapeDefect
  | _, [] | _, ['\\'] => none
  | position, '\\' :: letter :: rest =>
    match escapeDigits? letter with
    | some (count, reason) =>
      let digits := (rest.take count).takeWhile fun c => (hexValue? c).isSome
      let value := digits.foldl (fun value c => 16 * value + (hexValue? c).getD 0) 0
      if digits.length < count then some ⟨position, position + 2 + digits.length, reason⟩
      else if 0x10ffff < value then
        some ⟨position, position + 2 + count, "illegal Unicode character"⟩
      else escapeDefectFrom? (position + 2) rest
    | none =>
      match if letter = 'N' then nameDefect? rest else none with
      | some (length, reason) => some ⟨position, position + 2 + length, reason⟩
      | none => escapeDefectFrom? (position + 2) rest
  | position, _ :: rest => escapeDefectFrom? (position + 1) rest

/-- What is wrong with the escapes of a text. -/
def escapeDefect? (text : List Char) : Option String :=
  (escapeDefectFrom? 0 (spellOut text)).map EscapeDefect.message

/-- What is wrong with the escapes of quoted bytes from a position on. -/
def byteEscapeDefect? : Nat → List Char → Option String
  | _, [] | _, ['\\'] => none
  | position, '\\' :: letter :: rest =>
    if letter = 'x' ∧ ((rest.take 2).takeWhile fun c => (hexValue? c).isSome).length < 2 then
      some ("(value error) invalid \\x escape at position " ++ toString position)
    else byteEscapeDefect? (position + 2) rest
  | position, _ :: rest => byteEscapeDefect? (position + 1) rest

/-- What is wrong with a quoted text. -/
def quotedDefect? (bytes raw : Bool) (content : List Char) : Option String :=
  if bytes && content.any (0x80 ≤ ·.toNat) then
    some "bytes can only contain ASCII literal characters"
  else if raw then none
  else if bytes then byteEscapeDefect? 0 content
  else escapeDefect? content

/-! ### Patterns -/

/-- The plain part at the start of a pattern or of a format in one. -/
structure PlainPart where
  text : List Char
  /-- Whether a doubled brace ends it, behind which another plain part may follow. -/
  doubled : Bool
  rest : List Char

/-- The end of a plain part at a brace. -/
def endAtBrace (outer : Bool) (taken : List Char) (brace : Char) (rest : List Char) :
    Except String PlainPart :=
  if !outer then .ok ⟨taken.reverse, false, brace :: rest⟩
  else if rest.head? = some brace then .ok ⟨(brace :: taken).reverse, true, rest.drop 1⟩
  else if brace = '\x7d' then .error "f-string: single '\x7d' is not allowed"
  else .ok ⟨taken.reverse, false, brace :: rest⟩

def isBrace (c : Char) : Bool := c = '\x7b' || c = '\x7d'

/-- Read a plain part; outside formats braces may be doubled. `taken` is what was passed. -/
def plainPart (raw outer : Bool) : Nat → List Char → List Char → Except String PlainPart
  | 0, taken, rest => .ok ⟨taken.reverse, false, rest⟩
  | _ + 1, taken, [] => .ok ⟨taken.reverse, false, []⟩
  | fuel + 1, taken, c :: rest =>
    if c = '\\' ∧ !raw then
      match rest with
      | [] => .ok ⟨(c :: taken).reverse, false, []⟩
      | letter :: behind =>
        if isBrace letter then endAtBrace outer (c :: taken) letter behind
        else if letter = 'N' then
          -- The braces around a name hold no expression.
          let name := match behind with
            | '\x7b' :: name => '\x7b' :: (name.takeWhile (· != '\x7d')) ++ ['\x7d']
            | behind => behind.take 1
          let skipped := behind.take name.length
          plainPart raw outer fuel (skipped.reverse ++ letter :: c :: taken)
            (behind.drop name.length)
        else plainPart raw outer fuel (letter :: c :: taken) behind
    else if isBrace c then endAtBrace outer taken c rest
    else plainPart raw outer fuel (c :: taken) rest

/-- Where a reader of an expression in braces is: in quotes, of which there may be three, or in
brackets. -/
structure InBraces where
  quote : Option (Char × Bool) := none
  brackets : List Char := []

/-- The expression behind an opening brace, and what follows it. -/
def bracedExpression : Nat → InBraces → List Char → List Char → Except String (List Char × List Char)
  | 0, _, taken, rest => .ok (taken.reverse, rest)
  | _ + 1, place, taken, [] =>
    match place.quote, place.brackets with
    | some _, _ => .error "f-string: unterminated string"
    | none, bracket :: _ => .error ("f-string: unmatched '" ++ bracket.toString ++ "'")
    | none, [] => .ok (taken.reverse, [])
  | fuel + 1, place, taken, c :: rest =>
    let goOn (place : InBraces) (count : Nat) : Except String (List Char × List Char) :=
      bracedExpression fuel place (((c :: rest).take count).reverse ++ taken) ((c :: rest).drop count)
    if c = '\\' then .error "f-string expression part cannot include a backslash"
    else
      match place.quote with
      | some (quote, triple) =>
        if c ≠ quote then goOn place 1
        else if !triple then goOn { place with quote := none } 1
        else if rest.take 2 = [quote, quote] then goOn { place with quote := none } 3
        else goOn place 1
      | none =>
        if c = '\'' ∨ c = '"' then
          if rest.take 2 = [c, c] then goOn { place with quote := some (c, true) } 3
          else goOn { place with quote := some (c, false) } 1
        else if c = '(' ∨ c = '[' ∨ c = '\x7b' then
          if nestingLimit ≤ place.brackets.length then .error "f-string: too many nested parenthesis"
          else goOn { place with brackets := c :: place.brackets } 1
        else if c = '#' then .error "f-string expression part cannot include '#'"
        else if place.brackets.isEmpty ∧ ['!', ':', '\x7d', '=', '<', '>'].contains c then
          if c ≠ ':' ∧ c ≠ '\x7d' ∧ rest.head? = some '=' then goOn place 2
          else if c = '<' ∨ c = '>' then goOn place 1
          else .ok (taken.reverse, c :: rest)
        else if c = ')' ∨ c = ']' ∨ c = '\x7d' then
          match place.brackets with
          | [] => .error ("f-string: unmatched '" ++ c.toString ++ "'")
          | bracket :: outer =>
            if closing bracket = c then goOn { place with brackets := outer } 1
            else
              .error ("f-string: closing parenthesis '" ++ c.toString
                ++ "' does not match opening parenthesis '" ++ bracket.toString ++ "'")
        else goOn place 1

/-- What an expression in braces lacks if it is blank. -/
def blankDefect? (expression rest : List Char) : Option String :=
  if !(expression.all fun c => c = ' ' || c = '\t' || c = '\n' || c = '\x0c') then none
  else
    match rest with
    | c :: _ =>
      if c = '!' ∨ c = ':' ∨ c = '=' then
        some ("f-string: expression required before '" ++ c.toString ++ "'")
      else some "f-string: empty expression not allowed"
    | [] => some "f-string: empty expression not allowed"

end LayerGraph.Literal
