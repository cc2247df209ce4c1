import LayerGraph.Text.Names
import LayerGraph.Text.Quoted

/-! Tokens of a written value.

A text is cut into names, numerals, quoted texts and marks. Cutting ends at a fault, which is the last
token, and at a halt, which counts only when a reader reaches it.
-/

set_option autoImplicit false

namespace LayerGraph.Literal

open Text

inductive TokenKind where
  | name (text : String)
  | integer (value : Nat)
  /-- An integer of more digits than are read. -/
  | hugeInteger (digits : Nat)
  | real
  | imaginary
  /-- A quoted text, of bytes or of characters; in a raw one a backslash is no escape. -/
  | quoted (bytes raw : Bool) (content : List Char)
  /-- A quoted text with values to be filled in. -/
  | pattern (raw : Bool) (content : List Char)
  | mark (text : String)
  | fault (message : String)
  /-- A fault that counts only if a reader gets as far. -/
  | halt (message : String)
  | finish
  deriving DecidableEq, Repr

def TokenKind.isQuoted : TokenKind → Bool
  | .quoted .. | .pattern .. => true
  | _ => false

/-- An open bracket and the line that it is on. -/
structure Opening where
  bracket : Char
  line : Nat
  deriving DecidableEq, Repr

/-- A token, the line that it begins on, and the brackets that are open behind it, innermost first. -/
structure Token where
  kind : TokenKind
  line : Nat
  openings : List Opening
  /-- Whether the text ends right behind it, which a token without quotes finds out. -/
  atEnd : Bool
  deriving DecidableEq, Repr

/-- How deep in brackets a token ends. -/
def Token.level (token : Token) : Nat := token.openings.length

/-- A token with the text behind it, or what is wrong. -/
abbrev Cut := Except String (TokenKind × List Char)

/-- Whether a character may begin a name, as far as ASCII tells. -/
def isNameStart (c : Char) : Bool := c.isAlpha || c = '_' || 0x80 ≤ c.toNat

def isNamePart (c : Char) : Bool := isNameStart c || isDigit c

/-! ### Numerals -/

/-- Digits of a base with single underscores between them. -/
def digitRun (isDigit : Char → Bool) : List Char → Option (List Char × List Char)
  | [] => some ([], [])
  | '_' :: c :: rest =>
    if isDigit c then (digitRun isDigit rest).map fun (digits, after) => (c :: digits, after)
    else none
  | c :: rest =>
    if isDigit c then (digitRun isDigit rest).map fun (digits, after) => (c :: digits, after)
    else if c = '_' then none
    else some ([], c :: rest)

/-- Words that may follow a numeral without a blank. -/
def wordsBehindNumeral : List String := ["and", "else", "for", "not", "or"]

/-- Whether a numeral may end before a text. -/
def endsNumeral (rest : List Char) : Bool :=
  match rest with
  | [] => true
  | 'i' :: c :: _ => c = 'f' || c = 'n' || c = 's'
  | c :: _ =>
    !isNamePart c || 0x80 ≤ c.toNat || wordsBehindNumeral.contains (String.ofList (rest.takeWhile isNamePart))

/-- A numeral that must end here. -/
def numeral (kind : TokenKind) (label : String) (rest : List Char) : Cut :=
  if endsNumeral rest then .ok (kind, rest) else .error ("invalid " ++ label ++ " literal")

private def decimalFault : String := "invalid decimal literal"

/-- The mark of an imaginary number, if there is one, and the end of the numeral. -/
def imaginaryPart (kind : TokenKind) : List Char → Cut
  | 'j' :: rest | 'J' :: rest => numeral .imaginary "imaginary" rest
  | rest => numeral kind "decimal" rest

/-- The digits of an exponent behind its letter and sign. -/
def exponentDigits (text : List Char) : Cut :=
  match digitRun isDigit text with
  | none => .error decimalFault
  | some (_, rest) => imaginaryPart .real rest

/-- An exponent, if there is one. -/
def exponentPart (kind : TokenKind) (text : List Char) : Cut :=
  match text with
  | e :: sign :: c :: rest =>
    if e = 'e' ∨ e = 'E' then
      if sign = '+' ∨ sign = '-' then
        if isDigit c then exponentDigits (c :: rest) else .error decimalFault
      else if isDigit sign then exponentDigits (sign :: c :: rest)
      else imaginaryPart kind text
    else imaginaryPart kind text
  | [e, sign] =>
    if e = 'e' ∨ e = 'E' then
      if sign = '+' ∨ sign = '-' then .error decimalFault
      else if isDigit sign then exponentDigits [sign]
      else imaginaryPart kind text
    else imaginaryPart kind text
  | text => imaginaryPart kind text

/-- What follows the point of a number. -/
def fractionPart (text : List Char) : Cut :=
  match text with
  | c :: _ =>
    if isDigit c then
      match digitRun isDigit text with
      | none => .error decimalFault
      | some (_, rest) => exponentPart .real rest
    else exponentPart .real text
  | [] => exponentPart .real []

/-- The longest integer that is read. -/
def integerLimit : Nat := 4300

/-- The integer of some digits; zeros alone may be as many as they like. -/
def integerOf (digits : List Char) : TokenKind :=
  if integerLimit < digits.length ∧ digits.any (· != '0') then .hugeInteger digits.length
  else .integer (decimalValue digits)

private def leadingZeros : String :=
  "leading zeros in decimal integer literals are not permitted; use an 0o prefix for octal integers"

/-- The rest of a numeral behind its whole digits. -/
def behindWhole (digits : List Char) (text : List Char) : Cut :=
  match text with
  | '.' :: rest => fractionPart rest
  | 'e' :: _ | 'E' :: _ | 'j' :: _ | 'J' :: _ => exponentPart (integerOf digits) text
  | text =>
    -- Zeros alone may be repeated; before other digits they may not stand.
    if digits.head? = some '0' ∧ digits.any (· != '0') then .error leadingZeros
    else numeral (integerOf digits) "decimal" text

/-- What follows the first underscore that no digit follows. -/
def behindLoneUnderscore (isDigit : Char → Bool) : List Char → List Char
  | [] => []
  | c :: rest =>
    if c = '_' ∧ !(rest.head?.any isDigit) then rest else behindLoneUnderscore isDigit rest

/-- An integer of a base behind the letter of the base. -/
def basedInteger (base : Nat) (label : String) (text : List Char) : Cut :=
  let fits (c : Char) : Bool := (hexValue? c).any (· < base)
  let wrong (rest : List Char) : String :=
    match rest with
    | c :: _ =>
      if isDigit c ∧ base < 10 then "invalid digit '" ++ c.toString ++ "' in " ++ label ++ " literal"
      else "invalid " ++ label ++ " literal"
    | [] => "invalid " ++ label ++ " literal"
  let start := match text with
    | '_' :: rest => rest
    | text => text
  match start with
  | [] => .error (wrong [])
  | c :: _ =>
    if !fits c then .error (wrong start)
    else
      match digitRun fits start with
      | none => .error (wrong (behindLoneUnderscore fits start))
      | some (digits, rest) =>
        if base < 10 ∧ (rest.head?.any isDigit) then .error (wrong rest)
        else
          let value := digits.foldl (fun value c => base * value + (hexValue? c).getD 0) 0
          numeral (.integer value) label rest

/-- The numeral at the start of a text that begins with a digit. -/
def numeralAt (text : List Char) : Cut :=
  match text with
  | '0' :: 'x' :: rest | '0' :: 'X' :: rest => basedInteger 16 "hexadecimal" rest
  | '0' :: 'o' :: rest | '0' :: 'O' :: rest => basedInteger 8 "octal" rest
  | '0' :: 'b' :: rest | '0' :: 'B' :: rest => basedInteger 2 "binary" rest
  | text =>
    match digitRun isDigit text with
    | none => .error decimalFault
    | some (digits, rest) => behindWhole digits rest

/-! ### Quoted texts -/

/-- The text up to the closing quote and what follows it, or the line end that comes before it; a
backslash keeps the next character from closing. `taken` is what was passed, the last first. -/
def closeQuote (quote : Char) : List Char → List Char → Except (List Char) (List Char × List Char)
  | _, [] => .error []
  | taken, '\\' :: c :: rest => closeQuote quote (c :: '\\' :: taken) rest
  | taken, c :: rest =>
    if c = quote then .ok (taken.reverse, rest)
    else if c = '\n' then .error (c :: rest)
    else closeQuote quote (c :: taken) rest

/-- The text up to three closing quotes and what follows them. -/
def closeQuotes (quote : Char) : List Char → List Char → Option (List Char × List Char)
  | _, [] => none
  | taken, '\\' :: c :: rest => closeQuotes quote (c :: '\\' :: taken) rest
  | taken, c :: rest =>
    if c = quote ∧ rest.take 2 = [quote, quote] then some (taken.reverse, rest.drop 2)
    else closeQuotes quote (c :: taken) rest

/-- The lines of a text up to a last part of it. -/
def lineBefore (text rest : List Char) : Nat :=
  let line := 1 + text.count '\n' - rest.count '\n'
  if rest.isEmpty && text.getLast? = some '\n' then line - 1 else line

/-- The quoted text behind its first quote. -/
def quotedAt (text : List Char) (kind : List Char → TokenKind) (quote : Char) (rest : List Char) :
    Cut :=
  let detected (rest : List Char) : String :=
    " string literal (detected at line " ++ toString (lineBefore text rest) ++ ")"
  if rest.take 2 = [quote, quote] then
    match closeQuotes quote [] (rest.drop 2) with
    | some (content, rest) => .ok (kind content, rest)
    | none => .error ("unterminated triple-quoted" ++ detected [])
  else
    match closeQuote quote [] rest with
    | .ok (content, rest) => .ok (kind content, rest)
    | .error rest => .error ("unterminated" ++ detected rest)

/-- The kind of a quoted text by the letters before it. -/
def quotedKind? (letters : List Char) : Option (List Char → TokenKind) :=
  match String.ofList (letters.map Char.toLower) with
  | "" | "u" => some (.quoted false false)
  | "r" => some (.quoted false true)
  | "b" => some (.quoted true false)
  | "br" | "rb" => some (.quoted true true)
  | "f" => some (.pattern false)
  | "fr" | "rf" => some (.pattern true)
  | _ => none

/-! ### Names and marks -/

/-- Hexadecimal digits of a character: at least four. -/
def codeText (c : Char) : String :=
  let width := if 0xfffff < c.toNat then 6 else if 0xffff < c.toNat then 5 else 4
  String.ofList ((hex width c.toNat).map Char.toUpper)

/-- The first character that a name cannot hold at its place. -/
def strangeIn? : List Char → Option Char
  | [] => none
  | first :: rest =>
    if 0x80 ≤ first.toNat && !beginsName first then some first
    else rest.find? fun c => 0x80 ≤ c.toNat && !continuesName c

def strangeFault (c : Char) : String :=
  if isPrintable c then "invalid character '" ++ c.toString ++ "' (U+" ++ codeText c ++ ")"
  else "invalid non-printable character U+" ++ codeText c

/-- A name, or a quoted text with letters before it. -/
def nameAt (text rest : List Char) : Cut :=
  let name := rest.takeWhile isNamePart
  let behind := rest.dropWhile isNamePart
  match quotedKind? name, behind with
  | some kind, '"' :: rest => quotedAt text kind '"' rest
  | some kind, '\'' :: rest => quotedAt text kind '\'' rest
  | _, behind =>
    match strangeIn? name with
    | some c => .error (strangeFault c)
    | none => .ok (.name (String.ofList name), behind)

/-- Marks of more than one character, longest first. -/
def longMarks : List String :=
  ["**=", "//=", ">>=", "<<=", "...", "!=", "%=", "&=", "**", "*=", "+=", "-=", "->", "//", "/=",
    ":=", "<<", "<=", "<>", "==", ">=", ">>", "@=", "^=", "|="]

def markAt (text : List Char) : TokenKind × List Char :=
  match longMarks.find? fun mark => mark.toList.isPrefixOf text with
  | some mark => (.mark mark, text.drop mark.length)
  | none => (.mark (String.ofList (text.take 1)), text.drop 1)

/-- The bracket that closes an opening one. -/
def closing (opening : Char) : Char :=
  if opening = '(' then ')' else if opening = '[' then ']' else '\x7d'

/-- How deep brackets may be nested. -/
def nestingLimit : Nat := 200

/-- The token at the start of `rest`, the last part of `text`, which begins with no blank, no bracket,
no comment and no backslash. -/
def tokenAt (text rest : List Char) : Cut :=
  match rest with
  | [] => .ok (.finish, [])
  | '"' :: rest => quotedAt text (.quoted false false) '"' rest
  | '\'' :: rest => quotedAt text (.quoted false false) '\'' rest
  | '.' :: c :: _ => if isDigit c then fractionPart (rest.drop 1) else .ok (markAt rest)
  | c :: _ =>
    if isDigit c then numeralAt rest
    else if isNameStart c then nameAt text rest
    else if c.toNat < 0x20 ∨ c.toNat = 0x7f then .error (strangeFault c)
    else .ok (markAt rest)

/-- What is wrong with a bracket that the end of the text finds open. -/
def Opening.fault (opening : Opening) : String :=
  "'" ++ opening.bracket.toString ++ "' was never closed"

/-! ### Lines -/

/-- The blanks that a line begins with: how wide they are, and how wide if tabs were single blanks. -/
structure Margin where
  width : Nat := 0
  tight : Nat := 0
  deriving DecidableEq, Repr

/-- How many margins of different width there can be at once. -/
def marginLimit : Nat := 100

/-- A line that goes on behind a backslash has to end there, and another has to follow. -/
def continuationFault? (openings : List Opening) : List Char → Option TokenKind
  | ['\n'] => some (.halt ((openings.head?.map Opening.fault).getD "unexpected EOF while parsing"))
  | '\n' :: _ => none
  | _ => some (.halt "unexpected character after line continuation character")

/-- The margin at the start of a line, and what follows it. Of lines that a backslash joins, the first
with blanks counts, and its width is `held`. -/
def marginAt (openings : List Opening) :
    Nat → Margin → List Char → Except TokenKind (Margin × List Char)
  | held, margin, ' ' :: rest => marginAt openings held ⟨margin.width + 1, margin.tight + 1⟩ rest
  | held, margin, '\t' :: rest =>
    marginAt openings held ⟨(margin.width / 8 + 1) * 8, margin.tight + 1⟩ rest
  | held, _, '\x0c' :: rest => marginAt openings held {} rest
  | held, margin, '\\' :: '\n' :: rest =>
    match continuationFault? openings ('\n' :: rest) with
    | some fault => .error fault
    | none => marginAt openings (if held = 0 then margin.width else held) margin rest
  | _, _, '\\' :: rest => .error ((continuationFault? openings rest).getD .finish)
  | held, margin, rest => .ok (if held = 0 then margin else ⟨held, held⟩, rest)

private def unevenTabs : TokenKind := .halt "inconsistent use of tabs and spaces in indentation"

/-- The margins of the lines that a line belongs to, innermost first, and whether it is moved in. -/
def nest (margin : Margin) : List Margin → Except TokenKind (List Margin × Bool)
  | [] => .ok ([margin], false)
  | inner :: outer =>
    if margin.width = inner.width then
      if margin.tight = inner.tight then .ok (inner :: outer, false) else .error unevenTabs
    else if inner.width < margin.width then
      if marginLimit ≤ outer.length + 1 then .error (.halt "too many levels of indentation")
      else if margin.tight ≤ inner.tight then .error unevenTabs
      else .ok (margin :: inner :: outer, true)
    else
      match outer.dropWhile fun other => margin.width < other.width with
      | other :: others =>
        if other.width ≠ margin.width then
          .error (.halt "unindent does not match any outer indentation level")
        else if other.tight ≠ margin.tight then .error unevenTabs
        else .ok (other :: others, false)
      | [] => .error (.halt "unindent does not match any outer indentation level")

/-- Where cutting has got to: the open brackets and the margins, innermost first, and whether a line
begins. -/
structure Place where
  openings : List Opening := []
  margins : List Margin := [{}]
  lineStart : Bool := true

/-- Cut the last part of a text into tokens. -/
def tokensFrom (text : List Char) : Nat → Place → List Char → List Token
  | 0, place, _ => [⟨.finish, 0, place.openings, true⟩]
  | fuel + 1, place, unread =>
    let line := lineBefore text unread
    let openings := place.openings
    let one (kind : TokenKind) : List Token := [⟨kind, line, openings, false⟩]
    let goOn (place : Place) (rest : List Char) : List Token := tokensFrom text fuel place rest
    if place.lineStart then
      match marginAt openings 0 {} unread with
      | .error kind => one kind
      | .ok (margin, rest) =>
        let behindComment := if rest.head? = some '#' then rest.dropWhile (· != '\n') else rest
        -- Empty lines and lines of comments have no margin and no end.
        if behindComment.head? = some '\n' then goOn place (behindComment.drop 1)
        else if openings ≠ [] ∨ behindComment.length < rest.length then
          goOn { place with lineStart := false } behindComment
        else
          match nest margin place.margins with
          | .error kind => one kind
          | .ok (margins, moved) =>
            (if moved then [⟨.halt "unexpected indent", lineBefore text rest, [], false⟩] else [])
              ++ goOn { place with margins, lineStart := false } rest
    else
      match unread with
      | [] =>
        match openings with
        | [] => one .finish
        | opening :: _ => one (.halt opening.fault)
      | '\\' :: rest =>
        match continuationFault? openings rest with
        | some fault => one fault
        | none => goOn place (rest.drop 1)
      | c :: rest =>
        if c = ' ' ∨ c = '\t' ∨ c = '\x0c' then goOn place rest
        else if c = '\n' then
          (if openings = [] then [⟨.mark "\n", line, [], false⟩] else [])
            ++ goOn { place with lineStart := true } rest
        else if c = '#' then goOn place (rest.dropWhile (· != '\n'))
        else if c = '(' ∨ c = '[' ∨ c = '\x7b' then
          if nestingLimit ≤ openings.length then one (.fault "too many nested parentheses")
          else
            let openings := ⟨c, line⟩ :: openings
            ⟨.mark c.toString, line, openings, rest.isEmpty⟩ :: goOn { place with openings } rest
        else if c = ')' ∨ c = ']' ∨ c = '\x7d' then
          match openings with
          | [] => one (.fault ("unmatched '" ++ c.toString ++ "'"))
          | opening :: outer =>
            if closing opening.bracket = c then
              ⟨.mark c.toString, line, outer, rest.isEmpty⟩
                :: goOn { place with openings := outer } rest
            else
              let lineText :=
                if opening.line = line then "" else " on line " ++ toString opening.line
              one (.fault ("closing parenthesis '" ++ c.toString
                ++ "' does not match opening parenthesis '" ++ opening.bracket.toString ++ "'"
                ++ lineText))
        else
          match tokenAt text (c :: rest) with
          | .ok (kind, after) =>
            ⟨kind, line, openings, after.isEmpty && !kind.isQuoted⟩ :: goOn place after
          | .error message => one (.fault message)

/-- The tokens of a text: each takes a step, and so does each line. -/
def tokens (text : List Char) : List Token := tokensFrom text (2 * text.length + 2) {} text

end LayerGraph.Literal
