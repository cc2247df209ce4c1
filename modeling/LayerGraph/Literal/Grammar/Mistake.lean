import LayerGraph.Literal.Grammar.Basic

/-! The rules for what is often written by mistake, and the complaints about it. -/

set_option autoImplicit false

namespace LayerGraph.Literal

open Rule

/-- Names of statements that are calls now. -/
def oldStatements : List String := ["print", "exec"]

/-- Whether an expression is the name of a statement that is a call now. -/
def Tree.isOldStatement (tree : Tree) : Bool := tree.name?.any oldStatements.contains

private def one (part : Part) : Alternative := ([part], .part 0)

private def maybeEqual : String :=
  "invalid syntax. Maybe you meant '==' or ':=' instead of '='?"

private def bareGenerator : String := "Generator expression must be parenthesized"

private def noParentheses : String :=
  "did you forget parentheses around the comprehension target?"

private def behindMapping : String := "arguments cannot follow var-keyword argument"

/-- What no assignment can follow: the end of what is assigned. -/
private def noAssignment : Part := .without (.anyOf ["=", ":="])

/-- Parameters before a slash. -/
private def beforeSlash : Part := .anyOf [plainBeforeSlash, valuedBeforeSlash]

/-- Values that mappings cannot have, and values that are missing. -/
private def wrongValues : List Alternative := [
  ([expression, ":", "*", bitOr],
    .always "cannot use a starred expression in a dictionary value"),
  ([expression, ":", .follows (.anyOf ["\x7d", ","])],
    .always "expression expected after dictionary key and ':'")]

/-- The complaint about arguments that others may not precede. -/
def behindNamed (before : List Tree) : String :=
  if before.any fun argument => argument matches .node .unpacked .. then
    "positional argument follows keyword argument unpacking"
  else "positional argument follows keyword argument"

/-- What the rules that describe mistakes read, and complain about. -/
def Rule.mistakes : Rule → List Alternative
  | .wrongExpression => [
    -- A wrong letter before quotes is no missing comma.
    ([.without (.oneOf [([.name, .quoted], .part 0), one .softWord]), disjunction, unsearched],
      .complaint fun level parts =>
        if level = 0 || (parts.getD 1 .empty).isOldStatement then none
        else some "invalid syntax. Perhaps you forgot a comma?"),
    ([disjunction, "if", disjunction, .without (.anyOf ["else", ":"])],
      .always "expected 'else' after 'if' expression")]
  | .oldStatement => [
    ([.name, .without "(", starExpressions], .complaint fun _ parts =>
      (parts.getD 0 .empty).name?.bind fun name =>
        if oldStatements.contains name then
          some ("Missing parentheses in call to '" ++ name ++ "'. Did you mean " ++ name ++ "(...)?")
        else none)]
  | .wrongAssignment => [
    ([expression, ":=", expression], .complaint fun _ parts =>
      some ("cannot use assignment expressions with " ++ (parts.getD 0 .empty).label)),
    ([.name, "=", bitOr, noAssignment], .always maybeEqual),
    ([.without (.anyOf [list, tuple, generator, "True", "None", "False"]), bitOr, "=", bitOr,
      noAssignment], .complaint fun _ parts =>
      some ("cannot assign to " ++ (parts.getD 1 .empty).label
        ++ " here. Maybe you meant '==' instead of '='?"))]
  | .wrongArguments => [
    ([argumentList, ",", "*"],
      .always "iterable argument unpacking follows keyword argument unpacking"),
    ([expression, clauses, ",",
      .maybe (.oneOf [one argumentList, ([expression, clauses], .part 0)])], .always bareGenerator),
    ([.name, "=", expression, clauses], .always maybeEqual),
    ([argumentList, clauses], .complaint fun _ parts =>
      if 1 < ((parts.getD 0 .empty).arguments.filter (!·.isNamed)).length then some bareGenerator else none),
    ([argumentList, ",", expression, clauses], .always bareGenerator),
    ([argumentList, ",", argumentList], .complaint fun _ parts =>
      some (behindNamed (parts.getD 0 .empty).arguments))]
  | .wrongKeyword => [
    ([.anyOf ["True", "False", "None"], "="], .complaint fun _ parts =>
      some ("cannot assign to " ++ (parts.getD 0 .empty).label)),
    ([.name, "=", expression, clauses], .always maybeEqual),
    ([.without (.sequence [.name, "="] 0), expression, "="],
      .always "expression cannot contain assignment, perhaps you meant \"==\"?")]
  | .wrongGenerator => [
    ([.anyOf ["[", "(", "\x7b"], starred, clauses],
      .always "iterable unpacking cannot be used in comprehension"),
    ([.anyOf ["[", "\x7b"], item, ",", items, clauses], .always noParentheses),
    ([.anyOf ["[", "\x7b"], item, ",", clauses], .always noParentheses)]
  | .wrongMapped => [
    (["\x7b", "**", bitOr, clauses, "\x7d"],
      .always "dict unpacking cannot be used in dict comprehension")]
  | .wrongParameters => [
    ([.many plainParameter, valuedParameters, plainParameter],
      .always "non-default argument follows default argument"),
    ([.many plainParameter, "(", .separated "," parameter, .maybe ",", ")"],
      .always "Lambda expression parameters cannot be parenthesized"),
    (["/", ","], .always "at least one argument must precede /"),
    ([beforeSlash, .many anyParameter, "/"], .always "/ may appear only once"),
    ([.maybe beforeSlash, .many anyParameter, "*", .anyOf [",", plainParameter],
      .many anyParameter, "/"], .always "/ must be ahead of *"),
    ([.some anyParameter, "/", "*"], .always "expected comma between / and *")]
  | .valuedParameters => [one valuedBeforeSlash, one (.some valuedParameter)]
  | .wrongBehindStar => [
    (["*", .oneOf [one ":", ([",", .anyOf [":", "**"]], .part 0)]],
      .always "named arguments must follow bare *"),
    (["*", parameter, "="], .always "var-positional argument cannot have default value"),
    (["*", .anyOf [plainParameter, ","], .many anyParameter, "*", .anyOf [plainParameter, ","]],
      .always "* argument may appear only once")]
  | .wrongBehindStars => [
    (["**", parameter, "="], .always "var-keyword argument cannot have default value"),
    (["**", parameter, ",", parameter], .always behindMapping),
    (["**", parameter, ",", .anyOf ["*", "**", "/"]], .always behindMapping)]
  | .wrongPreset => [
    (["=", .follows (.anyOf [")", ","])], .always "expected default value expression")]
  | .wrongTarget => [
    ([.maybe "async", "for", starExpressions], .complaint fun _ parts =>
      (parts.getD 2 .empty).wrongTarget?.map fun tree => "cannot assign to " ++ tree.label)]
  | .wrongGroup => [
    (["(", starred, ")"], .always "cannot use starred expression here"),
    (["(", "**", expression, ")"], .always "cannot use double starred expression here")]
  | .wrongEntries => ([.separated "," entry, ",", wrongEntry], .part 2) :: wrongValues
  | .wrongEntry =>
    ([expression, .without ":"], .always "':' expected after dictionary key") :: wrongValues
  | _ => []

end LayerGraph.Literal
