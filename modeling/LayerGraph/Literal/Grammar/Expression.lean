import LayerGraph.Literal.Grammar.Basic

/-! The rules for expressions, from what binds loosest to what binds tightest.

Conditions and junctions come before comparisons, comparisons before arithmetic, and arithmetic before
what stands on its own: names, numbers, quoted texts and all that is in brackets.
-/

set_option autoImplicit false

namespace LayerGraph.Literal

open Rule

/-- One alternative that stands for its only part. -/
private def same (part : Part) : Alternative := ([part], .part 0)

/-- A comparison with an operator of one word. -/
private def compared (operator : String) (form : Form) : List Alternative :=
  [([operator, bitOr], .form form [1])]

/-- Operators that join from left to right what the rule itself and the next one read. -/
private def joined (rule next : Rule) (operators : List (String × Form)) : List Alternative :=
  operators.map (fun (operator, form) => ([rule, operator, next], .form form [0, 2]))
    ++ [same next]

/-- An item of a call that has no name: an assignment, or an expression that is none. -/
private def unnamed : Part := .oneOf [same assignment, ([expression, .without ":="], .part 0)]

/-- A parameter with some parts behind it, and what ends it. -/
private def endedParameter (parts : List Part) : List Alternative :=
  [(parts ++ [.word ","], .part 0), (parts ++ [.follows ":"], .part 0)]

/-- What the rules that describe no mistakes read. -/
def Rule.readings : Rule → List Alternative
  | .whole => [([expressions, .many "\n", .finish], .part 0)]
  | .filled => [same starExpressions]
  | .expressions => [
    ([expression, .some (.sequence [",", expression] 1), .maybe ","], .form .tuple [0, 1]),
    ([expression, ","], .form .tuple [0]),
    same expression]
  | .expression => [
    same wrongExpression,
    same oldStatement,
    ([disjunction, "if", disjunction, "else", expression], .form .conditional []),
    same disjunction,
    same function]
  | .unsearched => [
    ([disjunction, "if", disjunction, "else", expression], .form .conditional []),
    same disjunction,
    same function]
  | .yielding => [
    (["yield", "from", expression], .form .yielded []),
    (["yield", .maybe starExpressions], .form .yielded [])]
  | .starExpressions => [
    ([starExpression, .some (.sequence [",", starExpression] 1), .maybe ","], .form .tuple [0, 1]),
    ([starExpression, ","], .form .tuple [0]),
    same starExpression]
  | .starExpression => [(["*", bitOr], .form .starred [1]), same expression]
  | .items => [([.separated "," item, .maybe ","], .part 0)]
  | .item => [(["*", bitOr], .form .starred [1]), same namedExpression]
  | .assignment => [([.name, ":=", .commitment, expression], .form .named [])]
  | .namedExpression => [
    same assignment,
    same wrongAssignment,
    ([expression, .without ":="], .part 0)]
  | .disjunction => [
    ([conjunction, .some (.sequence ["or", conjunction] 1)], .form .operation []),
    same conjunction]
  | .conjunction => [
    ([inversion, .some (.sequence ["and", inversion] 1)], .form .operation []),
    same inversion]
  | .inversion => [(["not", inversion], .form .operation []), same comparison]
  | .comparison => [([bitOr, .some relation], .form .comparison [0, 1]), same bitOr]
  | .relation =>
    [equal, unequal, atMost, below, atLeast, above, outside, inside, distinct, identical].map
      fun rule => same (.rule rule)
  | .equal => compared "==" .relation
  | .unequal => [([.sequence ["!="] 0, bitOr], .form .relation [1])]
  | .atMost => compared "<=" .relation
  | .below => compared "<" .relation
  | .atLeast => compared ">=" .relation
  | .above => compared ">" .relation
  | .outside => [(["not", "in", bitOr], .form .relation [2])]
  | .inside => compared "in" .member
  | .distinct => [(["is", "not", bitOr], .form .relation [2])]
  | .identical => compared "is" .relation
  | .bitOr => joined bitOr bitXor [("|", .operation)]
  | .bitXor => joined bitXor bitAnd [("^", .operation)]
  | .bitAnd => joined bitAnd shift [("&", .operation)]
  | .shift => joined shift sum [("<<", .operation), (">>", .operation)]
  | .sum => joined sum term [("+", .sum), ("-", .sum)]
  | .term =>
    joined term factor (["*", "/", "//", "%", "@"].map fun operator => (operator, .operation))
  | .factor => [
    (["+", factor], .form .signed [1]),
    (["-", factor], .form .signed [1]),
    (["~", factor], .form .operation []),
    same power]
  | .power => [([awaiting, "**", factor], .form .operation []), same awaiting]
  | .awaiting => [(["await", primary], .form .awaited []), same primary]
  | .primary => [
    ([primary, ".", .name], .form .attribute []),
    ([primary, generator], .form .call [0, 1]),
    ([primary, "(", .maybe arguments, ")"], .form .call [0, 2]),
    ([primary, "[", slices, "]"], .form .subscript []),
    same atom]
  | .slices => [
    ([slice, .without ","], .part 0),
    ([.separated "," (.anyOf [slice, starred]), .maybe ","], .form .tuple [0])]
  | .slice => [
    ([.maybe expression, ":", .maybe expression, .maybe (.sequence [":", .maybe expression] 1)],
      .form .detail []),
    same namedExpression]
  | .atom => [
    same .name,
    same "True",
    same "False",
    same "None",
    ([.follows .quoted, strings], .part 1),
    same .number,
    ([.follows "(", .anyOf [tuple, group, generator]], .part 1),
    ([.follows "[", .anyOf [list, listed]], .part 1),
    ([.follows "\x7b", .anyOf [mapping, set, mapped, collected]], .part 1),
    same "..."]
  | .group => [
    (["(", .anyOf [yielding, namedExpression], ")"], .part 1),
    same wrongGroup]
  | .function => [(["lambda", .maybe parameters, ":", expression], .form .function [])]
  | .parameters => [same wrongParameters, same parameterList]
  | .parameterList => [
    ([plainBeforeSlash, .many plainParameter, .many valuedParameter, .maybe behindStar],
      .form .detail []),
    ([valuedBeforeSlash, .many valuedParameter, .maybe behindStar], .form .detail []),
    ([.some plainParameter, .many valuedParameter, .maybe behindStar], .form .detail []),
    ([.some valuedParameter, .maybe behindStar], .form .detail []),
    same behindStar]
  | .plainBeforeSlash => [
    ([.some plainParameter, "/", ","], .form .detail []),
    ([.some plainParameter, "/", .follows ":"], .form .detail [])]
  | .valuedBeforeSlash => [
    ([.many plainParameter, .some valuedParameter, "/", ","], .form .detail []),
    ([.many plainParameter, .some valuedParameter, "/", .follows ":"], .form .detail [])]
  | .behindStar => [
    same wrongBehindStar,
    (["*", plainParameter, .many anyParameter, .maybe behindStars], .form .detail []),
    (["*", ",", .some anyParameter, .maybe behindStars], .form .detail []),
    same behindStars]
  | .behindStars => [same wrongBehindStars, (["**", plainParameter], .form .detail [])]
  | .plainParameter => endedParameter [parameter]
  | .valuedParameter => endedParameter [parameter, preset]
  | .anyParameter => endedParameter [parameter, .maybe preset]
  | .parameter => [same .name]
  | .preset => [(["=", expression], .part 1), same wrongPreset]
  | .strings => [([.some .quoted], .quotation)]
  | .list => [(["[", .maybe items, "]"], .form .list [1])]
  | .tuple => [
    (["(", .maybe (.oneOf [([item, ",", .maybe items], .form .series [0, 2])]), ")"],
      .form .tuple [1])]
  | .set => [(["\x7b", items, "\x7d"], .form .set [1])]
  | .mapping => [
    (["\x7b", .maybe entries, "\x7d"], .form .mapping [1]),
    (["\x7b", wrongEntries, "\x7d"], .part 1)]
  | .entries => [([.separated "," entry, .maybe ","], .part 0)]
  | .entry => [(["**", bitOr], .form .spread [1]), same pair]
  | .pair => [([expression, ":", expression], .form .entry [0, 2])]
  | .clauses => [([.some clause], .part 0)]
  | .clause => [
    (["async", "for", targets, "in", .commitment, disjunction,
      .many (.sequence ["if", disjunction] 1)], .form .detail []),
    (["for", targets, "in", .commitment, disjunction, .many (.sequence ["if", disjunction] 1)],
      .form .detail []),
    same wrongTarget]
  | .listed => [(["[", namedExpression, clauses, "]"], .form .listed []), same wrongGenerator]
  | .collected => [
    (["\x7b", namedExpression, clauses, "\x7d"], .form .collected []),
    same wrongGenerator]
  | .generator => [(["(", unnamed, clauses, ")"], .form .generator []), same wrongGenerator]
  | .mapped => [(["\x7b", pair, clauses, "\x7d"], .form .mapped []), same wrongMapped]
  | .arguments => [
    ([argumentList, .maybe ",", .follows ")"], .part 0),
    same wrongArguments]
  | .argumentList => [
    ([.separated "," (.oneOf [same starred, ([unnamed, .without "="], .part 0)]),
      .maybe (.sequence [",", namedArguments] 1)], .form .arguments [0, 1]),
    ([namedArguments], .form .arguments [0])]
  | .namedArguments => [
    ([.separated "," namedOrStarred, ",", .separated "," namedOrUnpacked], .form .series [0, 2]),
    same (.separated "," namedOrStarred),
    same (.separated "," namedOrUnpacked)]
  | .starred => [(["*", expression], .form .starred [1])]
  | .namedOrStarred => [
    same wrongKeyword,
    ([.name, "=", expression], .form .keyword []),
    same starred]
  | .namedOrUnpacked => [
    same wrongKeyword,
    ([.name, "=", expression], .form .keyword []),
    (["**", expression], .form .unpacked [])]
  | .targets => [
    ([target, .without ","], .part 0),
    ([target, .many (.sequence [",", target] 1), .maybe ","], .form .tuple [0, 1])]
  | .listTargets => [([.separated "," target, .maybe ","], .part 0)]
  | .tupleTargets => [
    ([target, .some (.sequence [",", target] 1), .maybe ","], .form .series [0, 1]),
    ([target, ","], .form .series [0])]
  | .target => [
    (["*", .sequence [.without "*", target] 1], .form .starred [1]),
    same plainTarget]
  | .plainTarget => [
    ([targetPrimary, ".", .name, .without trailerAhead], .form .attribute []),
    ([targetPrimary, "[", slices, "]", .without trailerAhead], .form .subscript []),
    same targetAtom]
  | .targetAtom => [
    same .name,
    (["(", plainTarget, ")"], .part 1),
    (["(", .maybe tupleTargets, ")"], .form .tuple [1]),
    (["[", .maybe listTargets, "]"], .form .list [1])]
  | .targetPrimary => [
    ([targetPrimary, ".", .name, .follows trailerAhead], .form .attribute []),
    ([targetPrimary, "[", slices, "]", .follows trailerAhead], .form .subscript []),
    ([targetPrimary, generator, .follows trailerAhead], .form .call [0, 1]),
    ([targetPrimary, "(", .maybe arguments, ")", .follows trailerAhead], .form .call [0, 2]),
    ([atom, .follows trailerAhead], .part 0)]
  | .trailerAhead => [same "(", same "[", same "."]
  | _ => []

end LayerGraph.Literal
