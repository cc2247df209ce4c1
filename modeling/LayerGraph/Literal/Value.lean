import LayerGraph.Literal.Tree

/-! Written values: numbers, quoted texts, constants and collections of those.

An expression is a value as it is written if nothing has to be looked up or worked out for it, but for
the sign of a number and the sum of a real and an imaginary one. Values are made from left to right, and
the first defect is told.
-/

set_option autoImplicit false

namespace LayerGraph.Literal

/-- A written value, as far as anything depends on it. -/
inductive Value where
  | integer (value : Nat)
  | real
  | imaginary
  /-- A number with a sign, or a sum of a real and an imaginary number. -/
  | number
  | text
  | constant
  | tuple (items : List Value)
  | list (items : List Value)
  | set (items : List Value)
  | mapping (keys values : List Value)
  deriving Repr

mutual

/-- Why a value can be no member of a set and no key. -/
def Value.unhashable? : Value → Option String
  | .tuple items => unhashables? items
  | .list _ => some "unhashable type: 'list'"
  | .set _ => some "unhashable type: 'set'"
  | .mapping .. => some "unhashable type: 'dict'"
  | _ => none

def Value.unhashables? : List Value → Option String
  | [] => none
  | value :: values => value.unhashable?.or (unhashables? values)

end

/-- A value that can be a member of a set or a key. -/
def Value.hashed (value : Value) : Except String Value :=
  match value.unhashable? with
  | some message => .error message
  | none => .ok value

/-- An expression is not a value as it is written. -/
def malformed {α : Type} (line : Nat) : Except String α :=
  .error ("malformed node or string on line " ++ toString line)

def Tree.line : Tree → Nat
  | .leaf _ line | .node _ line _ => line

/-- A number without a sign. -/
def Tree.plainNumber : Tree → Except String Value
  | .leaf (.integer value) _ => .ok (.integer value)
  | .leaf .real _ => .ok .real
  | .leaf .imaginary _ => .ok .imaginary
  | tree => malformed tree.line

/-- The least integer that is too large for a real number. -/
def realLimit : Nat := Nat.pow 2 1024 - Nat.pow 2 970

/-- Whether a number is real, and how large if it is an integer; `none` for a number that is not real. -/
def Tree.realPart (tree : Tree) : Except String (Option Nat) := do
  let size ← match tree with
    | .node .signed _ [operand] => operand.plainNumber
    | tree => tree.plainNumber
  return match size with
    | .integer value => some value
    | .real => some 0
    | _ => none

mutual

/-- The value that an expression is as it is written. -/
def Tree.value : Tree → Except String Value
  | .leaf (.integer value) _ => .ok (.integer value)
  | .leaf .real _ => .ok .real
  | .leaf .imaginary _ => .ok .imaginary
  | .leaf (.mark _) _ => .ok .constant
  | .leaf (.name text) line => if constants.contains text then .ok .constant else malformed line
  | .leaf _ line => malformed line
  | .node .text _ _ => .ok .text
  | .node .tuple _ parts => (valuesOf parts).map .tuple
  | .node .list _ parts => (valuesOf parts).map .list
  | .node .set _ parts => (membersOf parts).map .set
  | .node .mapping _ parts => (entriesOf parts).map fun (keys, values) => .mapping keys values
  -- The one call that is a value: an empty set.
  | .node .call line [function] =>
    if function.name? = some "set" then .ok (.set []) else malformed line
  | .node .sum line [left, right] =>
    match left.realPart, right.plainNumber with
    | .error message, _ | .ok _, .error message => .error message
    | .ok (some value), .ok .imaginary =>
      if realLimit ≤ value then .error "int too large to convert to float" else .ok .number
    | .ok _, .ok _ => malformed line
  | .node .signed _ [operand] => operand.plainNumber.map fun _ => .number
  | .node _ line _ => malformed line

def Tree.valuesOf : List Tree → Except String (List Value)
  | [] => .ok []
  | tree :: trees => do
    let value ← tree.value
    return value :: (← valuesOf trees)

/-- Values that are put into a set one by one. -/
def Tree.membersOf : List Tree → Except String (List Value)
  | [] => .ok []
  | tree :: trees => do
    let value ← tree.value
    let value ← value.hashed
    return value :: (← membersOf trees)

/-- Keys and values that are put into a mapping pair by pair. -/
def Tree.entriesOf : List Tree → Except String (List Value × List Value)
  | [] => .ok ([], [])
  | .node .entry _ [key, value] :: trees => do
    let key ← key.value
    let value ← value.value
    let key ← key.hashed
    let (keys, values) ← entriesOf trees
    return (key :: keys, value :: values)
  -- The entries of another mapping have no key of their own.
  | _ :: _ => .error "malformed node or string: None"

end

end LayerGraph.Literal
