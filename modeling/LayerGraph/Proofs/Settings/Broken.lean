import LayerGraph.Proofs.Settings.Layering

/-! Settings files that hold no settings.

A text that is no document is passed over, as if there were no settings file at all. Other contents are not: bytes that are
no text, a number with too many digits, tools that are no table, and an entry that is no table break loading. Of the entries
a text and a list go unnoticed unless they hold a name that is looked up in them.
-/

set_option autoImplicit false

namespace LayerGraph.Settings

open Text

variable {files other : FileTree} {directory place : Path} {start : Option Path} {overrides : Overrides}
  {fields : List (String × Json)} {content : Bytes} {entry : Toml} {key : String} {fault : Fault}

/-- A settings file holds a text that is no document. -/
def Malformed (content : Bytes) : Prop :=
  ∃ text, decodeUtf8 content = .ok text ∧ Toml.read text = .error .malformed

/-- The contents that break loading, and how. -/
inductive Breaks (asked : String → Prop) (content : Bytes) : Fault → Prop where
  | bytes {defect : Utf8Defect} (undecoded : decodeUtf8 content = .error defect) : Breaks asked content (.notText defect)
  | digits {text : String} {count : Nat} (decoded : decodeUtf8 content = .ok text)
      (read : Toml.read text = .error (.numeral count)) : Breaks asked content (.integerDigits count)
  | tool {text : String} {document : List (String × Toml)} {tool : Toml} (decoded : decodeUtf8 content = .ok text)
      (read : Toml.read text = .ok document) (present : Keyed.get? "tool" document = some tool)
      (other : tool.type ≠ .mapping) : Breaks asked content (.noMember tool.type.name "get")
  | entry {entry : Toml} {key : String} {fault : Fault} (holds : Holds content entry) (looked : asked key)
      (lost : entry.member? key = .error fault) : Breaks asked content fault

section
variable (named : '\x00' ∉ (start.getD directory).text.toList)
  (nearest : Nearest files (start.getD directory) place content)
include named nearest

end

end LayerGraph.Settings
