import LayerGraph.Proofs.Files.Path
import LayerGraph.Proofs.Files.Tree
import LayerGraph.Settings.Load

/-! The settings file that is nearest to a directory.

The search goes up from the directory and ends at the first file it meets. Whatever stands farther up is not looked at, so
trees that differ there alone are the same to it.
-/

set_option autoImplicit false

namespace LayerGraph.Settings

variable {files other : FileTree} {start place : Path} {places front : List Path} {content : Bytes}

/-- No settings file stands in a directory or above it. -/
def Absent (files : FileTree) (start : Path) : Prop :=
  ∀ place ∈ start.resolve.withAncestors, files.isFile (place.join fileName) = .ok false

/-- The settings file nearest to a directory stands in `place`. -/
structure Nearest (files : FileTree) (start place : Path) (content : Bytes) : Prop where
  above : place ∈ start.resolve.withAncestors
  holds : files.read (place.join fileName) = .ok content
  nothingBefore : ∀ nearer ∈ start.resolve.withAncestors, place.parts.length < nearer.parts.length →
    files.isFile (nearer.join fileName) = .ok false

theorem firstFile_of_none (nothing : ∀ place ∈ places, files.isFile (place.join fileName) = .ok false) :
    firstFile files places = .ok none := by
  induction places with
  | nil => rfl
  | cons place places ih =>
    simp only [List.forall_mem_cons] at nothing
    rw [firstFile, nothing.1]
    exact ih nothing.2

theorem firstFile_append (nothing : ∀ place ∈ front, files.isFile (place.join fileName) = .ok false) :
    firstFile files (front ++ places) = firstFile files places := by
  induction front with
  | nil => rfl
  | cons place front ih =>
    simp only [List.forall_mem_cons] at nothing
    rw [List.cons_append, firstFile, nothing.1]
    exact ih nothing.2

theorem firstFile_of_read (holds : files.read (place.join fileName) = .ok content) :
    firstFile files (place :: places) = .ok (some content) := by
  have found := FileTree.isFile_eq_true.mpr ⟨content, holds⟩
  simp only [firstFile, found, holds]
  rfl

section
variable (named : '\x00' ∉ start.text.toList)
include named

theorem nearestFile_eq : nearestFile files start = firstFile files start.resolve.withAncestors := by
  unfold nearestFile
  rw [if_neg (by simpa using named)]

theorem nearestFile_of_absent (absent : Absent files start) : nearestFile files start = .ok none := by
  rw [nearestFile_eq named]
  exact firstFile_of_none absent

theorem Nearest.nearestFile_eq (nearest : Nearest files start place content) :
    nearestFile files start = .ok (some content) := by
  obtain ⟨front, back, split⟩ := List.append_of_mem nearest.above
  have nothing : ∀ nearer ∈ front, files.isFile (nearer.join fileName) = .ok false := by
    intro nearer before
    have member : nearer ∈ start.resolve.withAncestors := by simp [split, before]
    exact nearest.nothingBefore nearer member ((Path.nearer_iff split member).mp before)
  rw [Settings.nearestFile_eq named, split, firstFile_append nothing]
  exact firstFile_of_read nearest.holds

end

section
variable (holds : files.read (place.join fileName) = .ok content)
include holds

end

end LayerGraph.Settings
