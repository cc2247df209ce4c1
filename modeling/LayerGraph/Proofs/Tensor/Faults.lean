import LayerGraph.Lowering.Context
import LayerGraph.Proofs.Failure.Faults

/-! The faults of stored tensors.

An element type is read when a tensor is: a spelling that names none, or one whose elements have no
width, lie outside of their bytes or come in blocks, is a fault and no conversion error. So is a
path that no file system takes.
-/

set_option autoImplicit false

namespace LayerGraph

open Number Attempt

/-- The faults of what follows the spelling of an element type: it names none, or those of the rest. -/
def ElementType.SpellingHazard (spelling : String) (rest : ElementType → Fault → Prop)
    (fault : Fault) : Prop :=
  (∃ defect, parse spelling = .error defect ∧ fault = .elementType defect) ∨
    ∃ element order, parse spelling = .ok (element, order) ∧ rest element fault

/-- Words about a payload that hold an integer too long to be shown. -/
def PayloadDefect.Unshown (defect : PayloadDefect) (fault : Fault) : Prop :=
  defect.isShown = false ∧ fault = .shownInteger

namespace Tensor

/-- The faults of extents: too many of them, or one that is too large. -/
def ExtentsHazard (shape : Shape) (fault : Fault) : Prop :=
  if 64 < shape.length then fault = .rankLimit shape.length
  else (∃ extent ∈ shape, wordHalf ≤ extent) ∧ fault = .extentLimit

/-- The faults of an array of more bytes than can be counted. -/
def StorageHazard (element : ElementType) (shape : Shape) (fault : Fault) : Prop :=
  wordHalf ≤ storage element shape ∧ fault = .arraySize

/-- The faults of extents that a body is to have. -/
def ArrangeHazard (element : ElementType) (shape : Shape) (fault : Fault) : Prop :=
  ExtentsHazard shape fault ∨ checkExtents shape = .ok () ∧
    if outgrows 1 shape then fault = .reshape 0 shape else StorageHazard element shape fault

/-- The faults of laying out a body: elements that lie elsewhere, extents that no array has, and blocks. -/
def LayoutHazard (element : ElementType) (extents : Shape) (body : Bytes) (fault : Fault) : Prop :=
  if element.reach ≠ .none then fault = .referenceBuffer
  else ArrangeHazard element extents fault ∨ checkLayout element extents = .ok () ∧
    let items := elementCount element.unblocked.2
    0 < body.length ∧ items ≠ 1 ∧
      fault = .reshape (body.length / element.size * items * items) extents

/-- The faults of a new array: extents that it cannot have, or more bytes than there are. -/
def ReserveHazard (element : ElementType) (shape : Shape) (fault : Fault) : Prop :=
  ExtentsHazard shape fault ∨ checkExtents shape = .ok () ∧
    if shape.any (· < 0) then fault = .negativeExtent
    else StorageHazard element shape fault ∨ checkStorage element shape = .ok () ∧
      let extents := shape.map Int.toNat
      memoryLimit ≤ storage element (extents.map Int.ofNat) ∧
        fault = .allocation (element.size * elementCount extents) extents element.shownName

/-- The faults of decoding a body: long texts, elements without a width, words that cannot be shown, or those
of its layout. -/
def BodyHazard (element : ElementType) (shape : Shape) (body : Bytes) (fault : Fault) : Prop :=
  if element.reach = .longTexts then fault = .reorderedText
  else if element.size = 0 then fault = .remainderByZero
  else (∃ defect, bodyExtents element shape body.length = .error defect ∧ defect.Unshown fault) ∨
    ∃ extents, bodyExtents element shape body.length = .ok extents ∧ LayoutHazard element extents body fault

/-- The faults of decoding a payload: words about its header that cannot be shown, or those of its body. -/
def DecodeHazard (bytes : Bytes) (spelling : String) (shape : Shape) (expected : Int) (fault : Fault) :
    Prop :=
  (∃ defect, Payload.read expected bytes = .error defect ∧ defect.Unshown fault) ∨
    ∃ payload, Payload.read expected bytes = .ok payload ∧
      ElementType.SpellingHazard spelling (fun element => BodyHazard element shape payload.body) fault

theorem faults_checkExtents (shape : Shape) : (checkExtents shape).Faults (ExtentsHazard shape) := by
  unfold checkExtents
  refine (Faults.ite (fun _ => faults_fault _) fun _ =>
    Faults.ite (fun _ => faults_fault _) fun _ => faultless_ok _).congr fun fault => ?_
  simp [ExtentsHazard]

theorem faults_checkStorage (element : ElementType) (shape : Shape) :
    (checkStorage element shape).Faults (StorageHazard element shape) := by
  unfold checkStorage
  refine (Faults.ite (fun _ => faults_fault _) fun _ => faultless_ok _).congr fun fault => ?_
  simp [StorageHazard]

theorem faults_checkLayout (element : ElementType) (shape : Shape) :
    (checkLayout element shape).Faults (ArrangeHazard element shape) :=
  (faults_checkExtents shape).followed fun _ =>
    Faults.ite (fun _ => faults_fault _) fun _ => faults_checkStorage element shape

theorem faults_reserve (element : ElementType) (shape : Shape) :
    (reserve element shape).Faults (ReserveHazard element shape) := by
  have checks : Faults (do
      checkStorage element shape
      checkMemory element (shape.map Int.toNat)
      return shape.map Int.toNat) fun fault =>
        StorageHazard element shape fault ∨ checkStorage element shape = .ok () ∧
          memoryLimit ≤ storage element ((shape.map Int.toNat).map Int.ofNat) ∧
            fault = .allocation (element.size * elementCount (shape.map Int.toNat))
              (shape.map Int.toNat) element.shownName := by
    unfold checkMemory
    refine ((faults_checkStorage element shape).followed fun _ => (Faults.ite (fun _ => faults_fault _)
      fun _ => faultless_ok _).before fun _ _ => faultless_ok _).congr fun fault => ?_
    simp
  unfold reserve
  refine (faults_checkExtents shape).followed fun _ => ?_
  dsimp only
  split
  · next negative =>
    refine ((faults_fault _).before fun _ failed => absurd failed fault_ne_ok).congr fun fault => ?_
    rfl
  · exact checks

theorem payloadFailure_of_isShown {name : String} {defect : PayloadDefect} (shown : defect.isShown = true) :
    payloadFailure name defect = .conversion ⟨.payload defect, none, if name.isEmpty then none else some name⟩ := by
  rw [payloadFailure, if_pos shown]

theorem faults_payload {α : Type} (name : String) (attempt : Except PayloadDefect α) :
    Faults (attempt.mapError (payloadFailure name)) fun fault =>
      ∃ defect, attempt = .error defect ∧ defect.Unshown fault := by
  cases attempt with
  | ok value => exact (faultless_ok value).congr fun fault => by simp
  | error defect =>
    have failed : (Except.error defect : Except PayloadDefect α).mapError (payloadFailure name) =
        if defect.isShown then fail (.payload defect) none (if name.isEmpty then none else some name)
        else fault .shownInteger := by
      change Except.error (payloadFailure name defect) = _
      unfold payloadFailure
      split <;> rfl
    rw [failed]
    refine (Faults.ite (fun _ => faultless_fail _ _ _) fun _ => faults_fault _).congr fun fault => ?_
    simp [PayloadDefect.Unshown]

theorem faults_layOut (element : ElementType) (extents : Shape) (body : Bytes) :
    (layOut element extents body).Faults (LayoutHazard element extents body) := by
  unfold layOut LayoutHazard
  refine Faults.ite (fun _ => faults_fault _) fun _ => ?_
  refine ((faults_checkLayout element extents).followed fun _ =>
    Faults.ite (fun _ => faults_fault _) fun _ => faultless_ok _).congr fun fault => ?_
  simp [and_assoc]

theorem faults_decodeBody (element : ElementType) (shape : Shape) (name : String) (body : Bytes) :
    (decodeBody element (.ok shape) name body).Faults (BodyHazard element shape body) := by
  unfold decodeBody BodyHazard
  refine Faults.ite (fun _ => faults_fault _) fun _ => Faults.ite (fun _ => faults_fault _) fun _ => ?_
  split
  · next ragged =>
    refine (faultless_fail _ _ _).congr fun fault => ?_
    simp [bodyExtents, ragged, PayloadDefect.Unshown, PayloadDefect.isShown, PayloadDefect.integers]
  · refine ((faults_payload name _).bind fun extents _ =>
      faults_layOut element extents body).congr fun fault => ?_
    simp only [mapError_eq_ok]

theorem spelledType_eq_ok {spelling : String} {element : ElementType} :
    spelledType spelling = .ok element ↔ ∃ order, ElementType.parse spelling = .ok (element, order) := by
  unfold spelledType
  cases ElementType.parse spelling with
  | error defect => simp [Except.mapError, bind, Except.bind]
  | ok spelled => simp [Except.mapError, bind, Except.bind, pure, Except.pure, Prod.ext_iff]

theorem faults_spelledType (spelling : String) :
    (spelledType spelling).Faults fun fault =>
      ∃ defect, ElementType.parse spelling = .error defect ∧ fault = .elementType defect := by
  unfold spelledType
  exact ((faults_mapError _).before fun _ _ => faultless_ok _).congr fun fault => by simp

theorem faults_decodeDeclared (bytes : Bytes) (spelling : String) (shape : Shape) (expected : Int)
    (name : String) : (decodeDeclared bytes spelling (.ok shape) expected name).Faults
      (DecodeHazard bytes spelling shape expected) := by
  unfold decodeDeclared decodeTyped
  refine ((faults_payload name _).bind fun payload _ =>
    (faults_spelledType spelling).bind fun element _ =>
      faults_decodeBody element shape name payload.body).congr fun fault => ?_
  simp [mapError_eq_ok, DecodeHazard, ElementType.SpellingHazard, spelledType_eq_ok]

end Tensor

namespace PayloadStore

/-- A name whose path is too long to be looked up. -/
def LookupHazard (store : PayloadStore) (name : String) (fault : Fault) : Prop :=
  ∃ defect, store.files.isFile (store.path name) = .error defect ∧
    fault = .file defect (store.path name)

/-- The faults of decoding a stored tensor: a path that no file system takes, or those of its bytes. -/
def LoadHazard (store : PayloadStore) (name : String) (shape : Shape) (spelling : String)
    (fault : Fault) : Prop :=
  store.files.read (store.path name) = .error .nullByte ∧ fault = .file .nullByte (store.path name) ∨
    ∃ bytes, store.files.read (store.path name) = .ok bytes ∧
      Tensor.DecodeHazard bytes spelling shape store.version fault

/-- The faults of making zeros: a spelling that names no type, or extents that no array has. -/
def ZerosHazard (extents : Shape) (spelling : String) (fault : Fault) : Prop :=
  ElementType.SpellingHazard spelling (fun element fault =>
    let (base, inner) := element.sized.unblocked
    Tensor.ReserveHazard base (extents ++ inner.map Int.ofNat) fault) fault

/-- The faults of a stored tensor, or of zeros in its place. -/
def LoadOrZerosHazard (store : PayloadStore) (name : String) (shape : Shape) (spelling : String)
    (fault : Fault) : Prop :=
  store.LookupHazard name fault ∨
    store.contains name = .ok false ∧ ZerosHazard (staticExtents shape) spelling fault ∨
    store.contains name = .ok true ∧ store.LoadHazard name shape spelling fault

variable (store : PayloadStore) (name : String) (shape : Shape) (spelling : String)

theorem faults_contains : (store.contains name).Faults (store.LookupHazard name) :=
  faults_mapError _

theorem faults_load : (store.load name shape spelling).Faults (store.LoadHazard name shape spelling) := by
  have reads : Faults ((store.files.read (store.path name)).mapError (store.readFailure name))
      fun fault => store.files.read (store.path name) = .error .nullByte ∧
        fault = .file .nullByte (store.path name) := by
    cases found : store.files.read (store.path name) with
    | ok bytes => exact (faultless_ok _).congr fun fault => by simp
    | error defect =>
      cases defect with
      | nullByte => exact (faults_fault _).congr fun fault => by simp
      | absent | notDirectory | isDirectory | nameTooLong =>
        exact (faultless_fail _ _ _).congr fun fault => by simp
  unfold load loadDeclared
  refine (reads.bind fun bytes _ => Tensor.faults_decodeDeclared _ _ _ _ _).congr fun fault => ?_
  simp only [mapError_eq_ok, LoadHazard]

theorem faults_zeros : (zeros shape spelling).Faults (ZerosHazard shape spelling) := by
  unfold zeros
  refine ((Tensor.faults_spelledType spelling).bind fun element _ =>
    (Tensor.faults_reserve _ _).before fun extents _ => faultless_ok _).congr fun fault => ?_
  simp [ZerosHazard, ElementType.SpellingHazard, Tensor.spelledType_eq_ok]

theorem faults_loadOrZeros : (store.loadOrZeros name shape spelling).Faults
    (store.LoadOrZerosHazard name shape spelling) := by
  unfold loadOrZeros loadDeclaredOrZeros
  refine ((store.faults_contains name).bind fun stored _ => Faults.ite
    (fun _ => store.faults_load name shape spelling) fun _ => faults_zeros _ spelling).congr fun fault => ?_
  simp [LoadOrZerosHazard]

end PayloadStore

namespace Context

/-- The faults of loading a variable in its declared shape and type. -/
def LoadHazard (context : Context) (name : String) (fault : Fault) : Prop :=
  ∃ shape spelling, context.shape name = .ok shape ∧ context.elementType name = .ok spelling ∧
    context.tensors.LoadHazard name shape spelling fault

/-- The faults of loading a variable, or zeros when none is stored. -/
def LoadOrZerosHazard (context : Context) (name : String) (fault : Fault) : Prop :=
  ∃ shape spelling, context.shape name = .ok shape ∧ context.elementType name = .ok spelling ∧
    context.tensors.LoadOrZerosHazard name shape spelling fault

variable (context : Context) (name : String)

theorem faultless_declaration : (context.block.declaration name).Faultless := by
  unfold Block.declaration
  split
  · exact faultless_ok _
  · exact faultless_fail _ _ _

theorem faultless_shape : (context.shape name).Faultless :=
  Faults.map (context.faultless_declaration name)

theorem faultless_elementType : (context.elementType name).Faultless := by
  unfold elementType
  exact (context.faultless_declaration name).before fun declared _ => faultless_ok _

theorem faults_load : (context.load name).Faults (context.LoadHazard name) := by
  unfold load
  refine (Faults.after (context.faultless_shape name) fun shape _ =>
    Faults.after (context.faultless_elementType name) fun spelling _ =>
      context.tensors.faults_load name shape spelling).congr fun fault => ?_
  simp [LoadHazard]

theorem faults_loadOrZeros : (context.loadOrZeros name).Faults (context.LoadOrZerosHazard name) := by
  unfold loadOrZeros
  refine (Faults.after (context.faultless_shape name) fun shape _ =>
    Faults.after (context.faultless_elementType name) fun spelling _ =>
      context.tensors.faults_loadOrZeros name shape spelling).congr fun fault => ?_
  simp [LoadOrZerosHazard]

end Context

end LayerGraph
