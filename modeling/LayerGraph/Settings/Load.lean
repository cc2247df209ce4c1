import LayerGraph.Failure.Basic
import LayerGraph.Files.Tree
import LayerGraph.Settings.Basic
import LayerGraph.Toml.Reader

/-! Settings layered over the nearest settings file.

The file is looked for in a directory and then in each directory above it. A value given outright
goes before the file's value, and that before the default; the payload version comes from the file
alone. A file that cannot be read as a document says nothing.
-/

set_option autoImplicit false

namespace LayerGraph.Settings

open Text

/-- The name of a settings file. -/
def fileName : String := "pyproject.toml"

/-- Values given outright. -/
structure Overrides where
  filename : Option Json := none
  blockIndex : Option Json := none
  elementType : Option Json := none
  logLevel : Option Json := none

/-- The override of a setting. -/
def Overrides.get? (overrides : Overrides) (key : String) : Option Json :=
  if key = filenameKey then overrides.filename
  else if key = blockIndexKey then overrides.blockIndex
  else if key = elementTypeKey then overrides.elementType
  else if key = logLevelKey then overrides.logLevel
  else none

/-- A value that is given; null gives none. -/
def given? (fields : List (String × Json)) (key : String) : Option Json :=
  match Json.last? key fields with
  | some .null => none
  | found => found

/-- The arguments of an operation as overrides; it takes those that `accepted` names besides those that
are `taken` already. -/
def Overrides.ofArguments (operation : String) (taken accepted : List String)
    (fields : List (String × Json)) : Attempt Overrides :=
  match fields.find? fun field => !accepted.contains field.1 with
  | some (name, _) =>
    if taken.contains name then .fault (.repeatedArgument operation name)
    else .fault (.unexpectedArgument operation name)
  | none => .ok ⟨given? fields filenameKey, given? fields blockIndexKey, given? fields elementTypeKey,
      given? fields logLevelKey⟩

/-- The name of the argument that says where the settings file is looked for. -/
def startKey : String := "search_path"

/-- The operation that loads settings, as failures name it. -/
def loading : String := "ConversionConfig.load"

/-- The arguments of loading settings. -/
def Overrides.ofFields (fields : List (String × Json)) : Attempt Overrides :=
  ofArguments loading []
    [directoryKey, filenameKey, blockIndexKey, elementTypeKey, logLevelKey, startKey] fields

/-- Where the settings file is looked for: a value among the arguments goes before a given path, and
stands for none if it is empty or zero. -/
def startOf (fields : List (String × Json)) (given : Option Path) : Attempt (Option Path) :=
  match Json.last? startKey fields with
  | none => .ok given
  | some value =>
    if value.isEmpty then .ok none else .fault (.noMember value.type.name "resolve")

/-- The directory to load settings for must be given; a value among the arguments goes before a given
path, and is read when the directory is needed. -/
def directoryOf (fields : List (String × Json)) (given : Option Path) : Attempt (Attempt Path) :=
  match Json.last? directoryKey fields, given with
  | some (.str directory), _ => .ok (.ok (Path.ofText directory))
  | some value, _ => .ok (.fault (.notPath value.type))
  | none, some directory => .ok (.ok directory)
  | none, none => .fault (.missingArgument loading directoryKey)

/-- The content of the first settings file in a list of directories. -/
def firstFile (files : FileTree) : List Path → Attempt (Option Bytes)
  | [] => .ok none
  | directory :: directories => do
    let path := directory.join fileName
    if ← (files.isFile path).mapError fun defect => .fault (.file defect path) then
      let content ← (files.read path).mapError fun defect => .fault (.file defect path)
      return some content
    else firstFile files directories

/-- The content of the settings file nearest to a directory. -/
def nearestFile (files : FileTree) (start : Path) : Attempt (Option Bytes) :=
  if start.text.toList.contains '\x00' then .fault (.file .nullByte start)
  else firstFile files start.resolve.withAncestors

/-- The fields of a settings file; a malformed one has none. -/
def documentOfBytes (content : Bytes) : Attempt (List (String × Toml)) :=
  match decodeUtf8 content with
  | .error defect => .fault (.notText defect)
  | .ok text =>
    match Toml.read text with
    | .ok fields => .ok fields
    -- A document that cannot be read says nothing.
    | .error .malformed => .ok []
    | .error (.numeral digits) => .fault (.integerDigits digits)

/-- The part of a settings file that holds the settings of a conversion. -/
def tableOfDocument (fields : List (String × Toml)) : Attempt Toml :=
  match (Keyed.get? "tool" fields).getD (.table []) with
  | .table tools => .ok ((Keyed.get? "paddle_graph" tools).getD (.table []))
  | tool => .fault (.noMember tool.type.name "get")

/-- What the settings file nearest to a directory holds. -/
def fileTable (files : FileTree) (start : Path) : Attempt Toml := do
  match ← nearestFile files start with
  | none => return .table []
  | some content => tableOfDocument (← documentOfBytes content)

/-- The value of a setting: the override, else what the file's table holds. -/
def layered (table : Toml) (override : Option Json) (key : String) : Attempt (Option Json) :=
  match override with
  | some value => .ok (some value)
  | none => ((table.member? key).map fun found => found.map Toml.toJson).mapError .fault

/-- Load the settings for a model directory; `start` is where the settings file is looked for, and then
the directory is not needed before the file is read. -/
def loadFor (files : FileTree) (directory : Attempt Path) (overrides : Overrides)
    (start : Option Path) : Attempt Settings := do
  let table ← fileTable files (← start.elim directory .ok)
  let directory ← directory
  let value (key : String) : Attempt (String × Option Json) := do
    return (key, ← layered table (overrides.get? key) key)
  -- The keys are looked up in this order, and the first defect of the table is met.
  let values ← [filenameKey, blockIndexKey, elementTypeKey, logLevelKey, payloadVersionKey].mapM value
  let given (key : String) : Option Json := (values.lookup key).join
  make (.ok directory) given

/-- Load the settings for a model directory, in which the settings file is looked for. -/
def load (files : FileTree) (directory : Path) (overrides : Overrides := {}) : Attempt Settings :=
  loadFor files (.ok directory) overrides none

end LayerGraph.Settings
