import LayerGraph.Failure.Basic
import LayerGraph.Files.Path
import LayerGraph.Journal.Basic
import LayerGraph.Program.Store
import LayerGraph.Tensor.Spelling
import LayerGraph.Validation.Lax

/-! Settings of a conversion, and the rules that loose values must keep to become settings.

A setting that no value is given for has a default; only the model directory has none. All issues
are found, in the order of the settings.
-/

set_option autoImplicit false

namespace LayerGraph

open Text

structure Settings where
  directory : Path
  filename : String := defaultFilename
  blockIndex : Int := 0
  /-- The canonical name of the element type of variables that declare none. -/
  elementType : String := "float32"
  payloadVersion : Int := 0
  logLevel : Severity := .info
  deriving DecidableEq, Repr

namespace Settings

/-- The path of the stored program. -/
def programPath (settings : Settings) : Path := settings.directory.join settings.filename

/-- The names of the settings, in order. -/
def directoryKey : String := "model_dir"
def filenameKey : String := "model_filename"
def blockIndexKey : String := "block_index"
def elementTypeKey : String := "default_dtype"
def payloadVersionKey : String := "tensor_version"
def logLevelKey : String := "log_level"

/-- The canonical name of an element type. -/
def canonicalElementType (spelling : String) : Checked String :=
  match ElementType.parse (strip spelling) with
  | .ok (element, _) => .ok element.name
  | .error defect =>
    match defect.kind with
    | .type => Checked.refuse (.elementType spelling)
    | .value | .written => Checked.refuse (.refused defect.message)

/-- The severity that a level is named for, in any case. -/
def severityOfLevel (level : String) : Checked Severity :=
  match Severity.ofName? (strip (upper level)) with
  | some severity => .ok severity
  | none => Checked.refuse (.logLevel level)

def readPath : Json → Checked Path
  | .str text => .ok (Path.ofText text)
  | _ => Checked.refuse .path

def readInteger (value : Json) : Checked Int := value.readInt.map Prod.fst

def readIndex (value : Json) : Checked Int := do
  let index ← readInteger value
  if 0 ≤ index then return index else Checked.refuse .nonnegative

def readElementType (value : Json) : Checked String := do
  canonicalElementType (← value.readText).1

def readLevel (value : Json) : Checked Severity := do
  severityOfLevel (← value.readText).1

/-- A setting from the value given for it, if any. -/
def setting {α : Type} (key : String) (read : Json → Checked α) (fallback : Checked α) :
    Option Json → Checked α
  | none => fallback.under (.key key)
  | some value => (read value).under (.key key)

/-- Settings for a checked directory, from the values given for the rest. -/
def check (directory : Checked Path) (given : String → Option Json) : Checked Settings := do
  let filename := setting filenameKey (fun value => value.readText.map Prod.fst)
    (.ok defaultFilename) (given filenameKey)
  let blockIndex := setting blockIndexKey readIndex (.ok 0) (given blockIndexKey)
  let elementType := setting elementTypeKey readElementType (.ok "float32") (given elementTypeKey)
  let payloadVersion := setting payloadVersionKey readInteger (.ok 0) (given payloadVersionKey)
  let logLevel := setting logLevelKey readLevel (.ok .info) (given logLevelKey)
  let (directory, filename, blockIndex, elementType, payloadVersion, logLevel) ←
    directory.both <| filename.both <| blockIndex.both <| elementType.both <|
      payloadVersion.both logLevel
  return { directory, filename, blockIndex, elementType, payloadVersion, logLevel }

/-- A spelling of the element type that is not even read: its defect goes before every issue. -/
def unreadElementType? (given : String → Option Json) : Option SpellingDefect :=
  match given elementTypeKey with
  | some (.str spelling) =>
    match ElementType.parse (strip spelling) with
    | .error defect => if defect.kind = .written then some defect else none
    | .ok _ => none
  | _ => none

/-- Settings for a checked directory, or why there are none. -/
def make (directory : Checked Path) (given : String → Option Json) : Attempt Settings :=
  match unreadElementType? given with
  | some defect => .fault (.elementType defect)
  | none => (check directory given).mapError .refused

/-- Settings from named values; names that no setting has are passed over. -/
def ofFields (fields : List (String × Json)) : Attempt Settings :=
  let given (key : String) : Option Json := Json.last? key fields
  make (setting directoryKey readPath (Checked.refuse .missing) (given directoryKey)) given

end Settings

end LayerGraph
