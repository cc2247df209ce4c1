import LayerGraph.Literal.Quotation
import LayerGraph.Literal.Reading
import LayerGraph.Literal.Value

/-! Reading a written value.

A text is cut into tokens, the tokens are read as an expression, and the expression must be a value as
it is written. Expressions may stand in quoted texts, which are checked when they are read.
-/

set_option autoImplicit false

namespace LayerGraph.Literal

open Text

/-- The words before complaints about the expressions of a pattern. -/
private def inPattern : String := "f-string: "

private def unclosedBrace : String := "f-string: expecting '\x7d'"

private def complain {α : Type} (lead message : String) : Except Halt α :=
  .error (.complaint (lead ++ message))

mutual

/-- Check the pieces of a quoted text, all of bytes or all of characters, and whether they are plain. -/
def quotation : Nat → String → Option Bool → List TokenKind → Except Halt Bool
  | 0, _, _, _ | _, _, _, [] => .ok true
  | fuel + 1, lead, before, kind :: kinds => do
    let (bytes, plain) ← match kind with
      | .quoted bytes raw content =>
        match quotedDefect? bytes raw content with
        | some message => complain lead message
        | none => pure (bytes, true)
      | _ => pure (false, false)
    if before.any (· != bytes) then complain lead "cannot mix bytes and nonbytes literals"
    match kind with
    | .pattern raw content =>
      let _ ← filled fuel lead raw 0 content
      pure ()
    | _ => pure ()
    return plain && (← quotation fuel lead (some bytes) kinds)

/-- Check a pattern, or a format that is `level` expressions deep in one, up to its end. -/
def filled : Nat → String → Bool → Nat → List Char → Except Halt (List Char)
  | 0, lead, _, _, _ => complain lead generalComplaint
  | fuel + 1, lead, raw, level, content =>
    match plainPart raw (level = 0) (content.length + 1) [] content with
    | .error message => complain lead message
    | .ok part =>
      match if raw then none else escapeDefect? part.text with
      | some message => complain lead message
      | none =>
        if part.doubled then filled fuel lead raw level part.rest
        else
          match part.rest with
          | '\x7b' :: rest => do
            let rest ← replacement fuel lead raw level rest
            filled fuel lead raw level rest
          | [] => if level = 0 then .ok [] else complain lead unclosedBrace
          | rest => .ok rest

/-- Check an expression in braces behind the opening one; what follows the closing one is left. -/
def replacement : Nat → String → Bool → Nat → List Char → Except Halt (List Char)
  | 0, lead, _, _, _ => complain lead generalComplaint
  | fuel + 1, lead, raw, level, content =>
    if 2 ≤ level then complain lead "f-string: expressions nested too deeply"
    else
      match bracedExpression (content.length + 1) {} [] content with
      | .error message => complain lead message
      | .ok (_, []) => complain lead unclosedBrace
      | .ok (text, rest) => do
        if let some message := blankDefect? text rest then complain lead message
        let inner : Source := {
          tokens := (tokens ('(' :: text ++ [')'])).toArray
          quotation := fun kinds =>
            (quotation fuel inPattern none kinds).map fun plain => if plain then .text else .pattern
          lead := inPattern }
        let _ ← inner.parse .filled
        let rest := if rest.head? = some '=' then rest.drop 1 else rest
        let rest ← match rest with
          | '!' :: mark :: rest =>
            if mark = 's' ∨ mark = 'r' ∨ mark = 'a' then pure rest
            else complain lead "f-string: invalid conversion character: expected 's', 'r', or 'a'"
          | rest => pure rest
        let rest ← match rest with
          | [':'] => complain lead unclosedBrace
          | ':' :: rest => filled fuel lead raw (level + 1) rest
          | rest => pure rest
        match rest with
        | '\x7d' :: rest => return rest
        | _ => complain lead unclosedBrace

end

/-- The tokens of a text, and how quoted texts among them become one. -/
def sourceOf (text : List Char) : Source where
  tokens := (tokens text).toArray
  -- Each step through a quoted text takes a few calls at most for each character.
  quotation kinds := (quotation (16 * text.length + 64) "" none kinds).map fun plain =>
    if plain then .text else .pattern

/-- What is wrong with a text that should be a written value. -/
inductive Complaint where
  /-- It is no expression; the line is counted from one, and an empty text has none. -/
  | unreadable (message : String) (line : Nat)
  | noValue (message : String)
  deriving DecidableEq, Repr

/-- The ends of lines in the one form that is read. -/
def plainLines : List Char → List Char
  | '\r' :: '\n' :: rest => '\n' :: plainLines rest
  | '\r' :: rest => '\n' :: plainLines rest
  | c :: rest => c :: plainLines rest
  | [] => []

/-- Read a text as a written value. -/
def read (text : List Char) : Except Complaint Value :=
  let text := plainLines (text.dropWhile fun c => c = ' ' || c = '\t')
  if text.isEmpty then .error (.unreadable generalComplaint 0)
  else if text.contains '\x00' then .error (.noValue "source code string cannot contain null bytes")
  else
    match (sourceOf text).parse .whole with
    | .error (.token message) | .error (.ending message) | .error (.complaint message) =>
      .error (.unreadable message 1)
    | .error .depth => .error (.noValue "")
    | .ok tree => tree.value.mapError .noValue

end LayerGraph.Literal
