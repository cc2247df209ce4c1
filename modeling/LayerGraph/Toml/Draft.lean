import LayerGraph.Toml.Basic

/-! Tables of a TOML document while it is read.

A document is a row of parts: what stands before the first header, and each header with what stands
under it. A table belongs to the part whose header opens it or whose dotted keys pass through it;
other parts may then add tables below it, but neither open it nor pass through it by a dotted key.
A written value is never added to.
-/

set_option autoImplicit false

namespace LayerGraph.Toml

inductive Draft where
  | value (written : Toml)
  | table (owner : Option Nat) (fields : List (String × Draft))
  | tables (earlier : List Toml) (last : List (String × Draft))
  deriving Inhabited

namespace Draft

mutual

/-- The value that a draft has come to. -/
def toToml : Draft → Toml
  | .value written => written
  | .table _ fields => .table (fieldsToToml fields)
  | .tables earlier last => .array (earlier ++ [.table (fieldsToToml last)])

def fieldsToToml : List (String × Draft) → List (String × Toml)
  | [] => []
  | (key, draft) :: fields => (key, draft.toToml) :: fieldsToToml fields

end

end Draft

abbrev Fields := List (String × Draft)

namespace Fields

/-- Change the table that a path leads to. Missing tables are made, and of an array of tables the
last one is entered. -/
def within (change : Fields → Option Fields) : List String → Fields → Option Fields
  | [], fields => change fields
  | key :: path, fields =>
    match Keyed.get? key fields with
    | none => (within change path []).map fun inner => Keyed.put key (.table none inner) fields
    | some (.table owner inner) =>
      (within change path inner).map fun inner => Keyed.put key (.table owner inner) fields
    | some (.tables earlier last) =>
      (within change path last).map fun last => Keyed.put key (.tables earlier last) fields
    | some (.value _) => none

/-- Open a table under a header. -/
def openTable (part : Nat) (key : String) (fields : Fields) : Option Fields :=
  match Keyed.get? key fields with
  | none => some (Keyed.put key (.table (some part) []) fields)
  | some (.table none inner) => some (Keyed.put key (.table (some part) inner) fields)
  | _ => none

/-- Open one more table of an array of tables. -/
def openItem (key : String) (fields : Fields) : Option Fields :=
  match Keyed.get? key fields with
  | none => some (Keyed.put key (.tables [] []) fields)
  | some (.tables earlier last) =>
    some (Keyed.put key (.tables (earlier ++ [.table (Draft.fieldsToToml last)]) []) fields)
  | _ => none

/-- Add a value under a new key. -/
def insertNew (key : String) (value : Toml) (fields : Fields) : Option Fields :=
  match Keyed.get? key fields with
  | none => some (Keyed.put key (.value value) fields)
  | some _ => none

/-- Add a value under a dotted key; the tables that the key passes through come to belong to the
part. -/
def insertDotted (part : Nat) (key : String) (value : Toml) : List String → Fields → Option Fields
  | [], fields => insertNew key value fields
  | step :: path, fields =>
    match Keyed.get? step fields with
    | none =>
      (insertDotted part key value path []).map fun inner =>
        Keyed.put step (.table (some part) inner) fields
    | some (.table owner inner) =>
      if owner = none ∨ owner = some part then
        (insertDotted part key value path inner).map fun inner =>
          Keyed.put step (.table (some part) inner) fields
      else none
    | _ => none

end Fields

/-- A key as written: its last step and the steps before it. -/
structure DottedKey where
  path : List String
  last : String
  deriving DecidableEq, Repr

/-- All steps of a key. -/
def DottedKey.steps (key : DottedKey) : List String := key.path ++ [key.last]

/-- A document while it is read: its fields, the header in force, and the number of headers. -/
structure Document where
  fields : Fields := []
  header : List String := []
  part : Nat := 0

namespace Document

/-- Go to a table of its own. -/
def openTable? (document : Document) (key : DottedKey) : Option Document := do
  let part := document.part + 1
  let fields ← Fields.within (Fields.openTable part key.last) key.path document.fields
  return ⟨fields, key.steps, part⟩

/-- Go to a new table of an array of tables. -/
def openItem? (document : Document) (key : DottedKey) : Option Document := do
  let fields ← Fields.within (Fields.openItem key.last) key.path document.fields
  return ⟨fields, key.steps, document.part + 1⟩

/-- Add a value under the header in force. -/
def insert? (document : Document) (key : DottedKey) (value : Toml) : Option Document := do
  let fields ← Fields.within (Fields.insertDotted document.part key.last value key.path)
    document.header document.fields
  return { document with fields := fields }

end Document

end LayerGraph.Toml
