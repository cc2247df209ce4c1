import LayerGraph.Tensor.Contents

/-! Payload files of a directory: one file per variable, named after it.
-/

set_option autoImplicit false

namespace LayerGraph

/-- A directory of payload files and the inner version they must carry. -/
structure PayloadStore where
  files : FileTree
  directory : Path
  version : Int := 0

namespace PayloadStore

/-- The path of a variable's payload. -/
def path (store : PayloadStore) (name : String) : Path := store.directory.join name

/-- Whether a variable has a payload file. -/
def contains (store : PayloadStore) (name : String) : Attempt Bool :=
  (store.files.isFile (store.path name)).mapError fun defect => .fault (.file defect (store.path name))

/-- The failure of reading a payload file. -/
def readFailure (store : PayloadStore) (name : String) (defect : FileDefect) : Failure :=
  let path := store.path name
  match defect with
  | .nullByte => .fault (.file .nullByte path)
  | .absent => .conversion ⟨.payload (.absent path), none, some name⟩
  | defect => .conversion ⟨.payload (.unreadable path defect), none, some name⟩

/-- Decode a variable's payload under a declared shape. -/
def loadDeclared (store : PayloadStore) (name : String) (declared : Attempt Shape)
    (spelling : String) : Attempt Tensor := do
  let bytes ← (store.files.read (store.path name)).mapError (store.readFailure name)
  Tensor.decodeDeclared bytes spelling declared store.version name

/-- Decode a variable's payload. -/
def load (store : PayloadStore) (name : String) (shape : Shape) (spelling : String) :
    Attempt Tensor :=
  store.loadDeclared name (.ok shape) spelling

/-- Zeros of a spelled element type. -/
def zeros (extents : Shape) (spelling : String) : Attempt Tensor := do
  let (base, inner) := (← Tensor.spelledType spelling).sized.unblocked
  return .zeros base (← Tensor.reserve base (extents ++ inner.map Int.ofNat))

/-- A shape in which every unknown extent is one. -/
def staticExtents (shape : Shape) : Shape := shape.map fun extent => if extent < 0 then 1 else extent

/-- Decode a variable's payload under a declared shape, or give zeros of static extents when it has
none. -/
def loadDeclaredOrZeros (store : PayloadStore) (name : String) (declared static : Attempt Shape)
    (spelling : String) : Attempt Tensor := do
  if ← store.contains name then store.loadDeclared name declared spelling
  else zeros (← static) spelling

/-- Decode a variable's payload, or give zeros when it has none. -/
def loadOrZeros (store : PayloadStore) (name : String) (shape : Shape) (spelling : String) :
    Attempt Tensor :=
  store.loadDeclaredOrZeros name (.ok shape) (.ok (staticExtents shape)) spelling

end PayloadStore

end LayerGraph
