import LayerGraph.Files.Tree
import Mathlib.Data.List.Basic

/-! Walks through a file tree.

A walk ends where the double dots of its names lead by the text alone. What it meets depends on the locations on its way
only, all of which but the last are directories.
-/

set_option autoImplicit false

namespace LayerGraph.FileTree

open Text

variable {files other : FileTree} {here names : List String} {path : Path}

theorem walk_nil (files : FileTree) (here : List String) : files.walk here [] =
    match files.get? here with
    | some entry => .ok (here, entry)
    | none => .error .absent := by
  cases met : files.get? here <;> simp [walk, met]

/-- A walk steps on from a directory only. -/
theorem walk_cons (files : FileTree) (here : List String) (name : String) (names : List String) :
    files.walk here (name :: names) =
      match files.get? here with
      | none => .error .absent
      | some (.file _) => .error .notDirectory
      | some .directory =>
        if 255 < (encodeUtf8 name).length then .error .nameTooLong
        else files.walk (Path.resolveStep here name) names := by
  simp only [walk, Path.resolveStep]
  cases files.get? here with
  | none => rfl
  | some entry =>
    cases entry with
    | file content => rfl
    | directory => simp only [apply_ite (files.walk · names)]

/-- Trees that differ in the content of one file alone differ to a walk only if it leads to that file. -/
theorem walk_congr_of_ne (place : List String) {content changed : Bytes}
    (alike : ∀ location, location ≠ place → files.get? location = other.get? location)
    (held : files.get? place = some (.file content)) (also : other.get? place = some (.file changed))
    (elsewhere : names.foldl Path.resolveStep here ≠ place) : files.walk here names = other.walk here names := by
  induction names generalizing here with
  | nil => rw [walk_nil, walk_nil, alike here elsewhere]
  | cons name names ih =>
    rw [walk_cons, walk_cons, ih elsewhere]
    by_cases reached : here = place
    · -- The walk goes on behind a file, which fails whatever the file holds.
      rw [reached, held, also]
    · rw [alike here reached]

theorem find_congr (same : files.walk [] path.parts = other.walk [] path.parts) : files.find path = other.find path := by
  simp only [find, same]

theorem isFile_congr (same : files.find path = other.find path) : files.isFile path = other.isFile path := by
  simp only [isFile, same]

theorem read_congr (same : files.find path = other.find path) : files.read path = other.read path := by
  simp only [read, same]

/-- The files that can be read are those that are there. -/
theorem read_eq_ok {content : Bytes} : files.read path = .ok content ↔ files.find path = .ok (.file content) := by
  unfold read
  cases files.find path with
  | error defect => simp [bind, Except.bind]
  | ok entry => cases entry <;> simp [bind, Except.bind]

theorem isFile_eq_true : files.isFile path = .ok true ↔ ∃ content, files.read path = .ok content := by
  simp only [read_eq_ok]
  unfold isFile
  cases files.find path with
  | error defect => cases defect <;> simp
  | ok entry => cases entry <;> simp

/-- A path that is short enough to be looked up, as are all names on it. -/
structure Short (path : Path) : Prop where
  whole : (encodeUtf8 path.text).length < 4096
  parts : ∀ part ∈ path.parts, (encodeUtf8 part).length ≤ 255

theorem walk_ne_nameTooLong (short : ∀ name ∈ names, (encodeUtf8 name).length ≤ 255) :
    files.walk here names ≠ .error .nameTooLong := by
  induction names generalizing here with
  | nil =>
    rw [walk_nil]
    split <;> simp
  | cons name names ih =>
    simp only [List.mem_cons, forall_eq_or_imp] at short
    rw [walk_cons, if_neg (Nat.not_lt.mpr short.1)]
    split
    · simp
    · simp
    · exact ih short.2

/-- Whether there is a file is answered for every path that is short enough. -/
theorem Short.answered (short : Short path) : ∃ answer, files.isFile path = .ok answer := by
  have found : files.find path ≠ .error .nameTooLong := by
    unfold find
    split
    · simp
    · rw [if_neg (Nat.not_le.mpr short.whole)]
      have walked : files.walk [] path.parts ≠ .error .nameTooLong := walk_ne_nameTooLong short.parts
      cases met : files.walk [] path.parts with
      | error defect => simpa [met, Except.map] using walked
      | ok found => simp [Except.map]
  unfold isFile
  split
  · exact ⟨true, rfl⟩
  · exact ⟨false, rfl⟩
  · next long => exact absurd long found
  · exact ⟨false, rfl⟩

end LayerGraph.FileTree
