import LayerGraph.Journal.Basic
import LayerGraph.Program.Document

/-! The stored program of a model directory.
-/

set_option autoImplicit false

namespace LayerGraph

/-- The file name that a stored program has unless another one is given. -/
def defaultFilename : String := "__model__.json"

structure ProgramStore where
  files : FileTree
  directory : Path
  filename : String := defaultFilename

namespace ProgramStore

def path (store : ProgramStore) : Path := store.directory.join store.filename

/-- Whether the program is there. -/
def exists? (store : ProgramStore) : Attempt Bool :=
  (store.files.isFile store.path).mapError fun defect => .fault (.file defect store.path)

/-- Read the bytes of a program. -/
def parse (store : ProgramStore) (bytes : Bytes) : Attempt Program :=
  (Program.ofBytes bytes).mapError fun issues =>
    .conversion ⟨.program (.invalid store.path issues), none, none⟩

/-- Read the program. -/
def read (store : ProgramStore) : Run Journal Program := do
  if ← Run.ofAttempt store.exists? then
    Journal.report .info ("Reading program descriptor [var]" ++ store.path.name ++ "[/var]...")
    let bytes ← Run.ofAttempt <|
      (store.files.read store.path).mapError fun defect => .fault (.file defect store.path)
    Run.ofAttempt (store.parse bytes)
  else Run.ofAttempt (.fail (.program (.absent store.path)))

/-- Read one block of the program. -/
def readBlock (store : ProgramStore) (index : Json) : Run Journal Block := do
  let program ← store.read
  Run.ofAttempt (program.block index)

end ProgramStore

end LayerGraph
