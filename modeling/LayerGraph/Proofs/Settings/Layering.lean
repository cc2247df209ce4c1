import LayerGraph.Proofs.Settings.Load
import LayerGraph.Proofs.Settings.Nearest
import LayerGraph.Proofs.Text.Utf8
import Mathlib

/-! Settings are layered: what is given outright, the nearest settings file, the defaults.

Each setting is looked for in one layer after the other, by itself, and what is found is checked as the fields of settings
are. A settings file that stands behind the nearest one has no say, even where the nearest one says nothing.
-/

set_option autoImplicit false

namespace LayerGraph.Settings

open Text

variable {files other : FileTree} {directory : Path} {start : Option Path} {overrides : Overrides} {settings : Settings}
  {fields : List (String × Json)} {table : List (String × Toml)} {given : String → Option Json}

/-- A content is a document with this entry for conversions; what it leaves out is an empty table. -/
def Holds (content : Bytes) (entry : Toml) : Prop :=
  ∃ text document tools, decodeUtf8 content = .ok text ∧ Toml.read text = .ok document ∧
    (Keyed.get? "tool" document).getD (.table []) = .table tools ∧
    (Keyed.get? "paddle_graph" tools).getD (.table []) = entry

/-- The fields that count for a directory: those of the nearest settings file, or none if there is no such file. -/
inductive Counts (files : FileTree) (start : Path) : List (String × Toml) → Prop where
  | none (absent : Absent files start) : Counts files start []
  | nearest {place : Path} {content : Bytes} {table : List (String × Toml)}
      (nearest : Nearest files start place content) (holds : Holds content (.table table)) : Counts files start table

/-- The value that is found for a setting: an argument goes before the file. -/
def layers (fields : List (String × Json)) (table : List (String × Toml)) (key : String) : Option Json :=
  (given? fields key).or ((Keyed.get? key table).map Toml.toJson)

theorem documentOfBytes_of_read {content : Bytes} {text : String} {document : List (String × Toml)}
    (decoded : decodeUtf8 content = .ok text) (read : Toml.read text = .ok document) :
    documentOfBytes content = .ok document := by
  simp only [documentOfBytes, decoded, read]

theorem Holds.tableOfDocument {content : Bytes} {entry : Toml} (holds : Holds content entry) :
    documentOfBytes content >>= tableOfDocument = .ok entry := by
  obtain ⟨text, document, tools, decoded, read, tool, rfl⟩ := holds
  rw [documentOfBytes_of_read decoded read]
  change Settings.tableOfDocument document = _
  simp only [Settings.tableOfDocument, tool]

theorem Holds.unique {content : Bytes} {entry again : Toml} (holds : Holds content entry) (also : Holds content again) :
    entry = again :=
  Except.ok.inj (holds.tableOfDocument.symm.trans also.tableOfDocument)

theorem Counts.fileTable {start : Path} (named : '\x00' ∉ start.text.toList) (counts : Counts files start table) :
    fileTable files start = .ok (.table table) := by
  cases counts with
  | none absent => exact fileTable_of_nearest (nearestFile_of_absent named absent)
  | nearest nearest holds =>
    rw [fileTable_of_nearest (nearest.nearestFile_eq named)]
    exact holds.tableOfDocument

section
variable (accepted : Overrides.ofFields fields = .ok overrides)
include accepted

end

def inner : Path := ⟨"/", ["m"]⟩

/-- The model directory with a settings file in it. -/
def holding (content : Bytes) : FileTree := ⟨[(["m"], .directory), (["m", "pyproject.toml"], .file content)]⟩

end LayerGraph.Settings
