import LayerGraph.Text.CodePoints

/-! Paths as texts name them: a root and components, joined without looking at any file.
-/

set_option autoImplicit false

namespace LayerGraph

open Text

/-- A path; an empty root makes it relative. -/
structure Path where
  root : String
  parts : List String
  deriving DecidableEq, Repr, Inhabited

namespace Path

/-- Read a path; empty components and single dots say nothing. Exactly two leading slashes are kept. -/
def ofText (text : String) : Path :=
  let slashes := (text.toList.takeWhile (· = '/')).length
  let root := if slashes = 0 then "" else if slashes = 2 then "//" else "/"
  ⟨root, (text.splitOn "/").filter fun part => part ≠ "" && part ≠ "."⟩

def text (path : Path) : String :=
  if path.root = "" ∧ path.parts = [] then "." else path.root ++ join "/" path.parts

/-- Follow a path from another one; an absolute path stands on its own. -/
def append (base path : Path) : Path :=
  if path.root = "" then ⟨base.root, base.parts ++ path.parts⟩ else path

/-- Follow the path that a text names. -/
def join (base : Path) (text : String) : Path := base.append (ofText text)

/-- The last component. -/
def name (path : Path) : String := path.parts.getLast?.getD ""

/-- One step of resolving: two dots drop the component before them. -/
def resolveStep (parts : List String) (part : String) : List String :=
  if part = ".." then parts.dropLast else parts ++ [part]

/-- Resolve single and double dots by the text alone. -/
def resolve (path : Path) : Path := ⟨path.root, path.parts.foldl resolveStep []⟩

/-- A path followed by its ancestors, nearest first. -/
def withAncestors (path : Path) : List Path :=
  (List.range (path.parts.length + 1)).map fun n => ⟨path.root, path.parts.take (path.parts.length - n)⟩

@[simp] theorem append_absolute (base path : Path) (h : path.root ≠ "") : base.append path = path := by
  simp [append, h]

theorem append_relative (base : Path) (parts : List String) :
    base.append ⟨"", parts⟩ = ⟨base.root, base.parts ++ parts⟩ := by
  simp [append]

end Path

end LayerGraph
