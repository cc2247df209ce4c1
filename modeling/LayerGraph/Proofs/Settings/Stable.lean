import LayerGraph.Proofs.Files.Path
import LayerGraph.Proofs.Settings.Load
import LayerGraph.Proofs.Tensor.Names

/-! Settings that are made again from their own values.

Every value of accepted settings is accepted again and comes to itself, with one exception: the element type is kept under
its canonical name, and that is no spelling for some types. Then the settings are refused, for that name alone.
-/

set_option autoImplicit false

namespace LayerGraph.Settings

open Checked Text

variable {settings : Settings} {fields : List (String × Json)} {value : Option Json} {element : ElementType}

/-- The values of settings under their names. -/
def values (settings : Settings) : List (String × Json) := [
  (directoryKey, .str settings.directory.text), (filenameKey, .str settings.filename),
  (blockIndexKey, .int settings.blockIndex), (elementTypeKey, .str settings.elementType),
  (payloadVersionKey, .int settings.payloadVersion), (logLevelKey, .str settings.logLevel.name)]

/-- The value of a setting. -/
def value? (settings : Settings) (key : String) : Option Json := Json.last? key settings.values

/-- The element type that a given value spells; it is that of single precision if no value is given. -/
def Spells (value : Option Json) (element : ElementType) : Prop :=
  ∃ spelling order, value.getD (.str "float32") = .str spelling ∧
    ElementType.parse (strip spelling) = .ok (element, order)

theorem plain_of_read (read : setting directoryKey readPath (refuse .missing) value = .ok settings.directory) :
    settings.directory.Plain := by
  unfold setting at read
  split at read
  · cases read
  · next document =>
    cases document with
    | str text =>
      rw [← Except.ok.inj read]
      exact Path.plain_ofText text
    | _ => cases read

theorem natural_of_read (read : setting blockIndexKey readIndex (.ok 0) value = .ok settings.blockIndex) :
    0 ≤ settings.blockIndex := by
  unfold setting at read
  split at read
  · rw [← Except.ok.inj read]
  · rw [under_eq_ok, readIndex, Attempt.bind_eq_ok] at read
    obtain ⟨index, _, fits⟩ := read
    split at fits
    · next natural => rwa [← Except.ok.inj fits]
    · cases fits

theorem canonicalElementType_eq_ok {spelling name : String} (canonical : canonicalElementType spelling = .ok name) :
    ∃ element order, ElementType.parse (strip spelling) = .ok (element, order) ∧ element.name = name := by
  unfold canonicalElementType at canonical
  split at canonical
  · next element order parsed => exact ⟨element, order, parsed, Except.ok.inj canonical⟩
  · split at canonical <;> cases canonical

theorem spells_of_read
    (read : setting elementTypeKey readElementType (.ok "float32") value = .ok settings.elementType) :
    ∃ element, Spells value element ∧ element.name = settings.elementType := by
  unfold setting at read
  split at read
  · refine ⟨.float 4, ⟨"float32", .little, rfl, by decide +kernel⟩, ?_⟩
    exact Except.ok.inj read
  · next document =>
    rw [under_eq_ok, readElementType, Attempt.bind_eq_ok] at read
    obtain ⟨text, shown, canonical⟩ := read
    obtain ⟨element, order, parsed, named⟩ := canonicalElementType_eq_ok canonical
    cases document with
    | str spelling =>
      cases shown
      exact ⟨element, ⟨spelling, order, rfl, parsed⟩, named⟩
    | _ => cases shown

theorem readElementType_str (spelling : String) : readElementType (.str spelling) = canonicalElementType spelling := by
  simp only [readElementType, Json.readText, bind, Except.bind]

theorem setting_directory (plain : settings.directory.Plain) :
    setting directoryKey readPath (refuse .missing) (settings.value? directoryKey) = .ok settings.directory :=
  congrArg Except.ok plain.ofText_text

theorem setting_logLevel (level : Severity) :
    setting logLevelKey readLevel (.ok .info) (some (.str level.name)) = .ok level := by
  cases level <;> decide +kernel

/-- All settings but the element type are accepted again. -/
theorem check_values (natural : 0 ≤ settings.blockIndex) : check (.ok settings.directory) settings.value? =
    (setting elementTypeKey readElementType (.ok "float32") (settings.value? elementTypeKey)).map fun name =>
      { settings with elementType := name } := by
  have blockIndex : settings.value? blockIndexKey = some (.int settings.blockIndex) := rfl
  have logLevel : settings.value? logLevelKey = some (.str settings.logLevel.name) := rfl
  unfold check
  dsimp only
  rw [blockIndex, setting_blockIndex natural, logLevel, setting_logLevel]
  cases setting elementTypeKey readElementType (.ok "float32") (settings.value? elementTypeKey) <;> rfl

/-- A refusal of the element type alone. -/
def misnamed (settings : Settings) : Failure := .refused [⟨[.key elementTypeKey], .elementType settings.elementType⟩]

section
variable (named : element.name = settings.elementType) (natural : 0 ≤ settings.blockIndex)
include named natural

theorem make_named {again : ElementType} {order : ByteOrder} (parsed : ElementType.parse element.name = .ok (again, order))
    (same : again.name = element.name) : make (.ok settings.directory) settings.value? = .ok settings := by
  have given : settings.value? elementTypeKey = some (.str element.name) := by rw [named]; rfl
  have canonical : readElementType (.str element.name) = .ok element.name := by
    rw [readElementType_str, canonicalElementType, element.strip_name, parsed]
    exact congrArg Except.ok same
  have read : unreadElementType? settings.value? = none := by
    rw [unreadElementType?, given]
    dsimp only
    rw [element.strip_name, parsed]
  unfold make
  rw [read, check_values natural, given, setting, canonical, named]
  rfl

theorem make_misnamed {defect : SpellingDefect} (refused : ElementType.parse element.name = .error defect)
    (kind : defect.kind = .type) : make (.ok settings.directory) settings.value? = .error settings.misnamed := by
  have given : settings.value? elementTypeKey = some (.str element.name) := by rw [named]; rfl
  have canonical : readElementType (.str element.name) = refuse (.elementType element.name) := by
    rw [readElementType_str, canonicalElementType, element.strip_name, refused]
    dsimp only
    rw [kind]
  have read : unreadElementType? settings.value? = none := by
    rw [unreadElementType?, given]
    dsimp only
    rw [element.strip_name, refused]
    dsimp only
    rw [kind, if_neg (by decide)]
  unfold make
  rw [read, check_values natural, given, setting, canonical, named]
  rfl

end

/-- Accepted settings are accepted again, and are the same, if their element type can be named; its name is then one of a type
with that name. Otherwise they are refused, as is the name wherever it is looked up. -/
theorem ofFields_values (fields : List (String × Json)) (settings : Settings)
    (accepted : ofFields fields = .ok settings) :
    ofFields settings.values = make (.ok settings.directory) settings.value? ∧
    ∃ element, Spells (Json.last? elementTypeKey fields) element ∧ element.name = settings.elementType ∧
      (element.Nameable → ofFields settings.values = .ok settings ∧
        ∃ again order, ElementType.parse settings.elementType = .ok (again, order) ∧
          again.name = settings.elementType) ∧
      (¬ element.Nameable → ofFields settings.values = .error settings.misnamed ∧
        ∃ defect, ElementType.parse settings.elementType = .error defect ∧ defect.kind = .type) := by
  -- The checks that were passed tell what their settings need to pass again.
  obtain ⟨_, directory, _, blockIndex, elementType, _⟩ := (make_eq_ok.mp accepted).imp_right check_eq_ok.mp
  have again : ofFields settings.values = make (.ok settings.directory) settings.value? := by
    unfold ofFields
    dsimp only
    exact congrArg (make · _) (setting_directory (plain_of_read directory))
  have natural := natural_of_read blockIndex
  obtain ⟨element, spells, named⟩ := spells_of_read elementType
  obtain ⟨spelling, order, _, parsed⟩ := id spells
  obtain ⟨shown, unshown⟩ := ElementType.settled_of_parse parsed
  refine ⟨again, element, spells, named, ?_⟩
  rw [again, ← named]
  constructor
  · intro nameable
    obtain ⟨other, order, parsed, same⟩ := shown nameable
    exact ⟨make_named named natural parsed same, other, order, parsed, same⟩
  · intro unnameable
    obtain ⟨defect, refused, kind⟩ := unshown unnameable
    exact ⟨make_misnamed named natural refused kind, defect, refused, kind⟩

/-- Fields with a spelling of an element type. -/
def spelledFields (spelling : String) : List (String × Json) := [(directoryKey, .str "m"), (elementTypeKey, .str spelling)]

theorem ofFields_spelled (spelling : String) : ofFields (spelledFields spelling) =
    make (.ok ⟨"", ["m"]⟩) fun key => Json.last? key (spelledFields spelling) := by
  have path : Path.ofText "m" = ⟨"", ["m"]⟩ := Path.ofText_bare (by decide) (by decide)
  exact congrArg (fun path => make (.ok path) fun key => Json.last? key (spelledFields spelling)) path

/-- Single precision is named as it is spelled, and four bytes have a name that is refused. -/
theorem ofFields_sized :
    (∃ settings, ofFields (spelledFields " <f4 ") = .ok settings ∧ ofFields settings.values = .ok settings) ∧
    ∃ settings, ofFields (spelledFields "S4") = .ok settings ∧ settings.elementType = "bytes32" ∧
      ofFields settings.values = .error settings.misnamed := by
  have plain : ofFields (spelledFields " <f4 ") = .ok { directory := ⟨"", ["m"]⟩ } := by
    rw [ofFields_spelled]
    decide +kernel
  have sized : ofFields (spelledFields "S4") = .ok { directory := ⟨"", ["m"]⟩, elementType := "bytes32" } := by
    rw [ofFields_spelled]
    decide +kernel
  constructor
  · obtain ⟨_, element, ⟨_, _, given, parsed⟩, _, again, _⟩ := ofFields_values _ _ plain
    cases given
    have single : ElementType.parse (strip " <f4 ") = .ok (.float 4, .little) := by decide +kernel
    cases single.symm.trans parsed
    exact ⟨_, plain, (again trivial).1⟩
  · obtain ⟨_, element, ⟨_, _, given, parsed⟩, _, _, refused⟩ := ofFields_values _ _ sized
    cases given
    have four : ElementType.parse (strip "S4") = .ok (.bytes 4, .little) := by decide +kernel
    cases four.symm.trans parsed
    exact ⟨_, sized, rfl, (refused (by decide)).1⟩

end LayerGraph.Settings
