import LayerGraph.Lowering.Context
import LayerGraph.Proofs.Failure.Errors

/-! The conversion errors of stored tensors.

A payload that cannot be read or decoded is refused with the variable that it belongs to. The header is decoded
under the name of the variable, and an empty name is none; only a directory that is a file itself has a payload
under it.
-/

set_option autoImplicit false

namespace LayerGraph

open Attempt

/-- An error about the payload of a variable. -/
def PayloadStore.Refuses (store : PayloadStore) (name : String) (error : ConversionError) : Prop :=
  ∃ defect subject, error = ⟨.payload defect, none, subject⟩ ∧
    (subject = some name ∨ name = "" ∧ ∃ bytes, store.files.read store.directory = .ok bytes)

namespace Tensor

/-- An error about a payload that is decoded under a name. -/
def Malformed (name : String) (error : ConversionError) : Prop :=
  ∃ defect, error = ⟨.payload defect, none, if name.isEmpty then none else some name⟩

theorem malformed_payloadFailure {name : String} {defect : PayloadDefect} {error : ConversionError}
    (failed : payloadFailure name defect = .conversion error) : Malformed name error := by
  unfold payloadFailure at failed
  split at failed
  · cases failed
    exact ⟨defect, rfl⟩
  · cases failed

theorem errorless_spelledType (spelling : String) : (spelledType spelling).Errorless := by
  unfold spelledType
  exact (errs_mapError fun _ _ _ failed => nomatch failed).bind fun _ _ => errs_ok _

theorem errorless_checkExtents (shape : Shape) : (checkExtents shape).Errorless :=
  Errs.ite (fun _ => errs_fault _) fun _ => Errs.ite (fun _ => errs_fault _) fun _ => errs_ok _

theorem errorless_checkStorage (element : ElementType) (shape : Shape) : (checkStorage element shape).Errorless :=
  Errs.ite (fun _ => errs_fault _) fun _ => errs_ok _

theorem errorless_layOut (element : ElementType) (extents : Shape) (body : Bytes) :
    (layOut element extents body).Errorless := by
  have layout : (checkLayout element extents).Errorless := (errorless_checkExtents _).bind fun _ _ =>
    Errs.ite (fun _ => errs_fault _) fun _ => errorless_checkStorage _ _
  unfold layOut
  exact Errs.ite (fun _ => errs_fault _) fun _ => layout.bind fun _ _ =>
    Errs.ite (fun _ => errs_fault _) fun _ => errs_ok _

theorem errs_decodeDeclared (bytes : Bytes) (spelling : String) (shape : Shape) (expected : Int) (name : String) :
    (decodeDeclared bytes spelling (.ok shape) expected name).Errs (Malformed name) := by
  unfold decodeDeclared decodeTyped decodeBody
  refine (errs_mapError fun _ _ _ => malformed_payloadFailure).bind fun payload _ =>
    (errorless_spelledType spelling).of_errorless.bind fun element _ => ?_
  refine Errs.ite (fun _ => errs_fault _) fun _ => Errs.ite (fun _ => errs_fault _) fun _ =>
    Errs.ite (fun _ => ?_) fun _ => ?_
  · intro error failed
    exact malformed_payloadFailure (Except.error.inj failed)
  · exact (errs_mapError fun _ _ _ => malformed_payloadFailure).bind fun extents _ =>
      (errorless_layOut element extents payload.body).of_errorless

theorem errorless_reserve (element : ElementType) (shape : Shape) : (reserve element shape).Errorless := by
  have memory : ∀ extents, (checkMemory element extents).Errorless :=
    fun _ => Errs.ite (fun _ => errs_fault _) fun _ => errs_ok _
  unfold reserve
  refine (errorless_checkExtents shape).bind fun _ _ => ?_
  dsimp only
  split
  · exact (errs_fault _).bind fun _ _ => (errorless_checkStorage _ _).bind fun _ _ =>
      (memory _).bind fun _ _ => errs_ok _
  · exact (errorless_checkStorage _ _).bind fun _ _ => (memory _).bind fun _ _ => errs_ok _

end Tensor

namespace PayloadStore

variable (store : PayloadStore) (name : String)

/-- The path of an empty name is the directory. -/
theorem path_empty : store.path "" = store.directory := by
  have alone : "".splitOn "/" = [""] := by
    rw [String.splitOn, if_neg (by decide), String.splitOnAux]
    rfl
  have nothing : Path.ofText "" = ⟨"", []⟩ := by
    rw [Path.ofText, alone]
    rfl
  rw [path, Path.join, nothing, Path.append_relative, List.append_nil]

theorem errorless_contains : (store.contains name).Errorless :=
  errs_mapError fun _ _ _ failed => nomatch failed

theorem errs_load (shape : Shape) (spelling : String) :
    (store.load name shape spelling).Errs (store.Refuses name) := by
  unfold load loadDeclared
  refine (errs_mapError fun defect error _ failed => ?_).bind fun bytes found => ?_
  · cases defect with
    | nullByte => cases failed
    | absent | notDirectory | isDirectory | nameTooLong =>
      cases failed
      exact ⟨_, _, rfl, .inl rfl⟩
  · refine (Tensor.errs_decodeDeclared bytes spelling shape store.version name).imp ?_
    rintro error ⟨defect, rfl⟩
    refine ⟨defect, _, rfl, ?_⟩
    by_cases empty : name = ""
    · subst empty
      rw [path_empty, mapError_eq_ok] at found
      exact .inr ⟨rfl, bytes, found⟩
    · rw [if_neg (by simpa using empty)]
      exact .inl rfl

theorem errs_loadOrZeros (shape : Shape) (spelling : String) :
    (store.loadOrZeros name shape spelling).Errs (store.Refuses name) := by
  have zeros : ∀ extents, (zeros extents spelling).Errorless := fun extents =>
    (Tensor.errorless_spelledType spelling).bind fun _ _ =>
      (Tensor.errorless_reserve _ _).bind fun _ _ => errs_ok _
  unfold loadOrZeros loadDeclaredOrZeros
  exact (store.errorless_contains name).of_errorless.bind fun stored _ =>
    Errs.ite (fun _ => store.errs_load name shape spelling) fun _ => (zeros _).of_errorless

end PayloadStore

namespace Context

variable {context : Context} {name : String}

theorem errs_elementType {shape : Shape} {condition : ConversionError → Prop}
    (declared : context.shape name = .ok shape) : (context.elementType name).Errs condition := by
  obtain ⟨declaration, found, _⟩ := Attempt.map_eq_ok.mp declared
  exact (errs_of_eq_ok found).bind fun _ _ => errs_ok _

/-- A declared variable is refused for its payload only. -/
theorem errs_load {shape : Shape} (declared : context.shape name = .ok shape) :
    (context.load name).Errs (context.tensors.Refuses name) :=
  (errs_of_eq_ok declared).bind fun shape _ => (errs_elementType declared).bind fun spelling _ =>
    context.tensors.errs_load name shape spelling

theorem errs_loadOrZeros {shape : Shape} (declared : context.shape name = .ok shape) :
    (context.loadOrZeros name).Errs (context.tensors.Refuses name) :=
  (errs_of_eq_ok declared).bind fun shape _ => (errs_elementType declared).bind fun spelling _ =>
    context.tensors.errs_loadOrZeros name shape spelling

end Context

end LayerGraph
