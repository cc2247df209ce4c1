import LayerGraph.Text.CodePoints
import LayerGraph.Text.Pattern

/-! What is highlighted in a shown text: numbers, addresses, quoted texts, paths and the like.

Colours are not shown, but where a highlight begins or ends the text is measured apart.
-/

set_option autoImplicit false

namespace LayerGraph.Highlight

open Text Pattern

/-- A character between two others. -/
private def within (first last c : Char) : Bool := first ≤ c && c ≤ last

private def word : Pattern := .one isWordCharacter

/-- A word character or one of a few marks. -/
private def wordOr (marks : String) : Pattern :=
  .one fun c => isWordCharacter c || marks.toList.contains c

private def digit : Pattern := .one isDigit

private def decimal : Pattern := .one fun c => isDigit (plainDigit c)

private def hexadecimal : Pattern :=
  .one fun c => isDigit c || within 'a' 'f' c || within 'A' 'F' c

private def outsideWord : Pattern := .notBehind isWordCharacter

/-- A name and its contents in angle brackets. -/
def angled : Pattern :=
  sequence [.named (char '<'), .named (many (wordOr "-.:|")), .named (many (.one fun _ => true)),
    .named (char '>')]

/-- A name with a value behind an equals sign. -/
def assignment : Pattern :=
  sequence [.named (upTo 1 50 word), char '=',
    optional (.named (sequence [optional (char '"'), atLeastOne word, optional (char '"')]))]

def bracket : Pattern := .named (among "[]\x7b\x7d()")

private def dotted : Pattern :=
  sequence [upTo 1 3 digit, char '.', upTo 1 3 digit, char '.', upTo 1 3 digit, char '.',
    upTo 1 3 digit]

private def coloned : Pattern :=
  sequence [upTo 1 7 (sequence [upTo 1 4 hexadecimal, char ':', optional (char ':')]),
    upTo 1 4 hexadecimal]

/-- Hexadecimal groups of at most two digits, one more than the given number, or of four digits. -/
private def grouped (pairs fours : Nat) : Pattern :=
  choice [
    sequence [times pairs (sequence [upTo 1 2 hexadecimal, char '-']), upTo 1 2 hexadecimal],
    sequence [times pairs (sequence [upTo 1 2 hexadecimal, char ':']), upTo 1 2 hexadecimal],
    sequence [times fours (sequence [times 4 hexadecimal, char '.']), times 4 hexadecimal]]

private def identifier : Pattern :=
  sequence [times 8 hexadecimal, char '-', times 4 hexadecimal, char '-', times 4 hexadecimal,
    char '-', times 4 hexadecimal, char '-', times 12 hexadecimal]

private def constant (name : String) : Pattern :=
  sequence [.edge true, .named (exactly name), .edge true]

/-- Digits with a fraction, then an exponent if there is one. -/
private def unsigned (exponentDigits : Pattern) : Pattern :=
  sequence [atLeastOne digit, optional (char '.'), many digit,
    optional (sequence [char 'e', optional (among "-+"), exponentDigits])]

private def fewDecimals : Pattern := .repeated false 1 none decimal

private def complexNumber : Pattern :=
  sequence [outsideWord, optional (char '-'), unsigned fewDecimals,
    optional (sequence [among "-+", unsigned (atLeastOne decimal)]), char 'j']

private def number : Pattern :=
  choice [
    sequence [outsideWord, optional (char '-'), unsigned fewDecimals, .edge true],
    sequence [exactly "0x", many hexadecimal]]

private def path : Pattern :=
  sequence [
    .named (sequence [.edge false, many (sequence [char '/', atLeastOne (wordOr "-._+")]), char '/']),
    optional (.named (many (wordOr "-._+")))]

/-- A text between quotes on one line, the last of which has no backslash before it. -/
private def quotedBy (quotes : String) : Pattern :=
  sequence [optional (char 'b'), exactly quotes, few (.one (· != '\n')), .notBehind (· = '\\'),
    exactly quotes]

private def quotation : Pattern :=
  sequence [.notBehind fun c => c = '\\' || isWordCharacter c,
    .named (choice [quotedBy "'''", quotedBy "'", quotedBy "\"\"\"", quotedBy "\""])]

private def link : Pattern :=
  .named (sequence [choice (["file", "https", "http", "ws", "wss"].map exactly), exactly "://",
    many (.one fun c => isDigit c || within 'a' 'z' c || within 'A' 'Z' c
      || "-$_+!(),.?/;:&=%#~@".toList.contains c || c.toNat = 0x60)])

/-- Values of many forms, the first of which counts. -/
def value : Pattern :=
  choice [
    .named dotted, .named coloned, .named (grouped 7 3), .named (grouped 5 2), .named identifier,
    sequence [.named (few (wordOr ".")), char '('],
    constant "True", constant "False", constant "None",
    .named (exactly "..."), .named complexNumber, .named number, path, quotation, link]

/-- What is highlighted in every text. -/
def patterns : List Pattern := [angled, assignment, bracket, value]

/-- Words that are highlighted in records. -/
def keywords : Pattern :=
  .named (choice (["GET", "POST", "HEAD", "PUT", "DELETE", "OPTIONS", "TRACE", "PATCH"].map exactly))

/-- The bounds of the highlights in a text. -/
def places (patterns : List Pattern) (text : List Char) : List (Nat × Nat) :=
  patterns.flatMap fun pattern =>
    (pattern.parts text).filter fun (start, stop) => start < stop

end LayerGraph.Highlight
