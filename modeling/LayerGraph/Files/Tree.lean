import LayerGraph.Files.Path
import LayerGraph.Text.Utf8
import LayerGraph.Text.Quoted

/-! Files and directories as a value, and what a path leads to.

A location is a list of names from the root. The root is a directory.
-/

set_option autoImplicit false

namespace LayerGraph

open Text

abbrev Bytes := List UInt8

inductive FileEntry where
  | file (content : Bytes)
  | directory
  deriving DecidableEq, Repr

/-- Why a path cannot be read. -/
inductive FileDefect where
  | absent
  | notDirectory
  | isDirectory
  | nameTooLong
  | nullByte
  deriving DecidableEq, Repr

/-- The system's number and words for a defect. -/
def FileDefect.reason : FileDefect → String
  | .absent => "[Errno 2] No such file or directory"
  | .notDirectory => "[Errno 20] Not a directory"
  | .isDirectory => "[Errno 21] Is a directory"
  | .nameTooLong => "[Errno 36] File name too long"
  | .nullByte => "embedded null byte"

/-- The reason with the path it concerns. -/
def FileDefect.text (defect : FileDefect) (path : Path) : String :=
  match defect with
  | .nullByte => defect.reason
  | defect => defect.reason ++ ": " ++ quoted path.text

structure FileTree where
  entries : List (List String × FileEntry)
  deriving DecidableEq, Repr

namespace FileTree

def empty : FileTree := ⟨[]⟩

def get? (tree : FileTree) (location : List String) : Option FileEntry :=
  if location = [] then some .directory else tree.entries.lookup location

def erase (tree : FileTree) (location : List String) : FileTree :=
  ⟨tree.entries.filter fun entry => entry.1 ≠ location⟩

def insert (tree : FileTree) (location : List String) (entry : FileEntry) : FileTree :=
  ⟨(location, entry) :: (tree.erase location).entries⟩

/-- Make a directory and the directories above it. -/
def insertDirectories (tree : FileTree) (location : List String) : FileTree :=
  (List.range location.length).foldl (fun tree n =>
    let place := location.take (n + 1)
    if (tree.get? place).isSome then tree else tree.insert place .directory) tree

/-- Write a file; missing directories above it are made. -/
def write (tree : FileTree) (location : List String) (content : Bytes) : FileTree :=
  (tree.insertDirectories location.dropLast).insert location (.file content)

/-- Walk from a directory along names; two dots lead to the directory above. -/
def walk (tree : FileTree) : List String → List String → Except FileDefect (List String × FileEntry)
  | here, [] =>
    match tree.get? here with
    | some entry => .ok (here, entry)
    | none => .error .absent
  | here, name :: names =>
    match tree.get? here with
    | none => .error .absent
    | some (.file _) => .error .notDirectory
    | some .directory =>
      if 255 < (encodeUtf8 name).length then .error .nameTooLong
      else if name = ".." then walk tree here.dropLast names
      else walk tree (here ++ [name]) names

/-- What a path leads to. -/
def find (tree : FileTree) (path : Path) : Except FileDefect FileEntry :=
  if path.text.toList.contains '\x00' then .error .nullByte
  else if 4096 ≤ (encodeUtf8 path.text).length then .error .nameTooLong
  else (tree.walk [] path.parts).map Prod.snd

/-- The content of the file at a path. -/
def read (tree : FileTree) (path : Path) : Except FileDefect Bytes := do
  match ← tree.find path with
  | .file content => .ok content
  | .directory => .error .isDirectory

/-- Whether a path leads to a file; a name that is too long cannot be looked up at all. -/
def isFile (tree : FileTree) (path : Path) : Except FileDefect Bool :=
  match tree.find path with
  | .ok (.file _) => .ok true
  | .ok .directory => .ok false
  | .error .nameTooLong => .error .nameTooLong
  | .error _ => .ok false

end FileTree

end LayerGraph
