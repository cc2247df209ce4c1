import LayerGraph.Literal.Token

/-! Trees of expressions: what a text has been read as.

A leaf is one token. A node has a form and parts; a series is spliced into the node that takes it.
Complaints call an expression by what it is, and say of a target whether it can be assigned to.
-/

set_option autoImplicit false

namespace LayerGraph.Literal

/-- What the parts of a node make together. -/
inductive Form where
  /-- Several trees one after the other, or none. -/
  | series
  | text
  /-- A text with values filled in. -/
  | pattern
  | tuple
  | list
  | set
  | mapping
  /-- A key and its value. -/
  | entry
  /-- The entries of another mapping. -/
  | spread
  | starred
  | attribute
  | subscript
  | call
  | arguments
  /-- An argument with a name. -/
  | keyword
  /-- Arguments with names that a mapping gives. -/
  | unpacked
  | function
  | conditional
  | named
  | comparison
  /-- The right side of a comparison that asks for a member. -/
  | member
  /-- The right side of any other comparison. -/
  | relation
  /-- A plus or a minus before an operand. -/
  | signed
  /-- A plus or a minus between two operands. -/
  | sum
  | operation
  | awaited
  | yielded
  | generator
  | listed
  | collected
  | mapped
  /-- A part of an expression of which nothing more is asked. -/
  | detail
  deriving DecidableEq, Repr

/-- What has been read, with the line on which it begins. -/
inductive Tree where
  | leaf (kind : TokenKind) (line : Nat)
  | node (form : Form) (line : Nat) (parts : List Tree)
  deriving Repr

/-- A tree that stands for nothing. -/
def Tree.empty : Tree := .node .series 0 []

instance : Inhabited Tree := ⟨.empty⟩

/-- The trees that a tree adds to the node that takes it. -/
def Tree.spliced : Tree → List Tree
  | .node .series _ parts => parts
  | tree => [tree]

/-- What complaints call expressions of a form. -/
def Form.label : Form → String
  | .text => "literal"
  | .pattern => "f-string expression"
  | .mapping => "dict literal"
  | .set => "set display"
  | .call => "function call"
  | .function => "lambda"
  | .conditional => "conditional expression"
  | .named => "named expression"
  | .awaited => "await expression"
  | .yielded => "yield expression"
  | .generator => "generator expression"
  | .listed => "list comprehension"
  | .collected => "set comprehension"
  | .mapped => "dict comprehension"
  | .tuple => "tuple"
  | .list => "list"
  | .starred => "starred"
  | .attribute => "attribute"
  | .subscript => "subscript"
  | .comparison => "comparison"
  | _ => "expression"

/-- Names of constants. -/
def constants : List String := ["None", "True", "False"]

/-- What complaints call an expression. -/
def Tree.label : Tree → String
  | .leaf (.name text) _ => if constants.contains text then text else "name"
  | .leaf (.mark _) _ => "ellipsis"
  | .leaf _ _ => "literal"
  | .node form _ _ => form.label

/-- The name that an expression is; letters in other styles stand for the plain ones. -/
def Tree.name? : Tree → Option String
  | .leaf (.name text) _ => some (String.ofList (text.toList.map Text.plainLetter))
  | _ => none

mutual

/-- The first part of a target that nothing can be assigned to. The target of a clause may have been read
together with the word for membership behind it. -/
def Tree.wrongTarget? : Tree → Option Tree
  | .leaf (.name text) line => if constants.contains text then some (.leaf (.name text) line) else none
  | .node .tuple _ parts | .node .list _ parts => wrongTargets? parts
  | .node .starred _ (part :: _) => part.wrongTarget?
  | .node .comparison _ (left :: .node .member _ _ :: _) => left.wrongTarget?
  | .node .comparison .. | .node .subscript .. | .node .attribute .. => none
  | tree => some tree

def Tree.wrongTargets? : List Tree → Option Tree
  | [] => none
  | tree :: trees => tree.wrongTarget?.or (wrongTargets? trees)

end

/-- Whether a tree is an argument with a name. -/
def Tree.isNamed : Tree → Bool
  | .node .keyword .. | .node .unpacked .. => true
  | _ => false

/-- The arguments of a call. -/
def Tree.arguments : Tree → List Tree
  | .node .arguments _ parts => parts
  | _ => []

end LayerGraph.Literal
