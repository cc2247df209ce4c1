import LayerGraph.Proofs.Wiring.Closing
import LayerGraph.Proofs.Wiring.Errors

/-! What a wiring that fails is never to blame for.

The ports that a wiring connects are free, the layers that it exchanges have as many ports as those that replace them,
and the references that it keeps name ports that there are. So a wiring fails for an operator that cannot be lowered,
for a shape that it hands out, for a payload, or for a line that quotes a name, and never for its own tables.
-/

set_option autoImplicit false

namespace LayerGraph

section
variable {fault : Fault} {threshold : Int} {name : String}

/-! The faults of stored tensors and of lines about variables are none of an index. -/

theorem Severity.Breaks.kind_ne_index {severity : Severity} {message : String}
    (breaks : severity.Breaks threshold message fault) : fault.kind ≠ .index := by
  obtain ⟨_, defect, _, rfl⟩ := breaks
  cases defect <;> exact nofun

theorem Fault.kind_file_ne_index (defect : FileDefect) (path : Path) : (Fault.file defect path).kind ≠ .index := by
  cases defect <;> exact nofun

theorem ElementType.SpellingHazard.kind_ne_index {spelling : String} {rest : ElementType → Fault → Prop}
    (hazard : SpellingHazard spelling rest fault) (later : ∀ element, rest element fault → fault.kind ≠ .index) :
    fault.kind ≠ .index := by
  rcases hazard with ⟨defect, _, rfl⟩ | ⟨element, _, _, named⟩
  · unfold Fault.kind
    dsimp only
    split <;> exact nofun
  · exact later element named

namespace Tensor

variable {element : ElementType} {shape : Shape}

theorem ExtentsHazard.kind_ne_index (hazard : ExtentsHazard shape fault) : fault.kind ≠ .index := by
  unfold ExtentsHazard at hazard
  split at hazard
  · subst hazard
    exact nofun
  · obtain ⟨_, rfl⟩ := hazard
    exact nofun

theorem LayoutHazard.kind_ne_index {body : Bytes} (hazard : LayoutHazard element shape body fault) :
    fault.kind ≠ .index := by
  unfold LayoutHazard at hazard
  split at hazard
  · subst hazard
    exact nofun
  · rcases hazard with (extents | ⟨_, arranged⟩) | ⟨_, _, _, rfl⟩
    · exact extents.kind_ne_index
    · split at arranged
      · subst arranged
        exact nofun
      · obtain ⟨_, rfl⟩ := arranged
        exact nofun
    · exact nofun

theorem BodyHazard.kind_ne_index {body : Bytes} (hazard : BodyHazard element shape body fault) :
    fault.kind ≠ .index := by
  unfold BodyHazard at hazard
  split at hazard
  · subst hazard
    exact nofun
  · split at hazard
    · subst hazard
      exact nofun
    · rcases hazard with ⟨_, _, _, rfl⟩ | ⟨_, _, named⟩
      · exact nofun
      · exact named.kind_ne_index

theorem ReserveHazard.kind_ne_index (hazard : ReserveHazard element shape fault) : fault.kind ≠ .index := by
  rcases hazard with extents | ⟨_, reserved⟩
  · exact extents.kind_ne_index
  · split at reserved
    · subst reserved
      exact nofun
    · rcases reserved with ⟨_, rfl⟩ | ⟨_, _, rfl⟩ <;> exact nofun

end Tensor

namespace PayloadStore

variable {store : PayloadStore} {shape : Shape} {spelling : String}

theorem LookupHazard.kind_ne_index (hazard : store.LookupHazard name fault) : fault.kind ≠ .index := by
  obtain ⟨defect, _, rfl⟩ := hazard
  exact Fault.kind_file_ne_index defect _

theorem LoadHazard.kind_ne_index (hazard : store.LoadHazard name shape spelling fault) : fault.kind ≠ .index := by
  rcases hazard with ⟨_, rfl⟩ | ⟨_, _, ⟨_, _, _, rfl⟩ | ⟨_, _, decoding⟩⟩
  · exact nofun
  · exact nofun
  · exact decoding.kind_ne_index fun _ => Tensor.BodyHazard.kind_ne_index

theorem LoadOrZerosHazard.kind_ne_index (hazard : store.LoadOrZerosHazard name shape spelling fault) :
    fault.kind ≠ .index := by
  rcases hazard with lookup | ⟨_, zeros⟩ | ⟨_, load⟩
  · exact lookup.kind_ne_index
  · exact zeros.kind_ne_index fun _ => Tensor.ReserveHazard.kind_ne_index
  · exact load.kind_ne_index

end PayloadStore

end

namespace Wiring

variable {context : Context} {threshold : Int} {wiring : Wiring} {name : String} {fault : Fault}

theorem ConstantHazard.kind_ne_index {stored : Bool} (hazard : ConstantHazard context threshold name stored fault) :
    fault.kind ≠ .index := by
  have making : (context.LoadOrZerosHazard name fault ∨ ∃ value, context.loadOrZeros name = .ok value ∧
      Severity.debug.Breaks threshold ("Bound " ++ name ++ " to a constant") fault) → fault.kind ≠ .index := by
    rintro (⟨_, _, _, _, load⟩ | ⟨_, _, breaks⟩)
    · exact load.kind_ne_index
    · exact breaks.kind_ne_index
  cases stored with
  | true => exact making hazard
  | false =>
    rcases hazard with breaks | ⟨_, made⟩
    · exact breaks.kind_ne_index
    · exact making made

theorem SourceHazard.kind_ne_index (hazard : SourceHazard context threshold name fault) : fault.kind ≠ .index := by
  obtain ⟨_, _, lookup | ⟨_, _, source⟩⟩ := hazard
  · exact lookup.kind_ne_index
  · split at source
    · exact ConstantHazard.kind_ne_index source
    · exact Severity.Breaks.kind_ne_index source

theorem BoundaryHazard.kind_ne_index {inferred declared : Shape} (hazard : BoundaryHazard inferred declared fault) :
    fault.kind ≠ .index := by
  obtain ⟨_, _, rfl⟩ := hazard
  exact nofun

theorem TargetHazard.kind_ne_index {graph : Graph} {source target : PortRef}
    (hazard : TargetHazard graph source target fault) : fault.kind ≠ .index := by
  obtain ⟨_, _, _, _, _, _, _, boundary⟩ := hazard
  exact boundary.kind_ne_index

theorem BindHazard.kind_ne_index {target : PortRef} {reader : Nat}
    (hazard : BindHazard context threshold wiring target name reader fault) : fault.kind ≠ .index := by
  unfold BindHazard at hazard
  split at hazard
  · exact hazard.kind_ne_index
  · rcases hazard with ⟨_, source⟩ | ⟨_, _, _, check⟩
    · exact source.kind_ne_index
    · exact check.kind_ne_index

theorem ExposeHazard.kind_ne_index {source : PortRef} (hazard : ExposeHazard context threshold wiring name source fault) :
    fault.kind ≠ .index := by
  obtain ⟨_, _, _, _, _, boundary | ⟨_, breaks⟩⟩ := hazard
  · exact boundary.kind_ne_index
  · exact breaks.kind_ne_index

theorem ReplaceHazard.kind_ne_index (hazard : ReplaceHazard context threshold wiring name fault) :
    fault.kind ≠ .index := by
  obtain ⟨_, lookup | ⟨_, ⟨_, _, _, _, load⟩ | ⟨_, _, breaks⟩⟩⟩ := hazard
  · exact lookup.kind_ne_index
  · exact load.kind_ne_index
  · exact breaks.kind_ne_index

/-- Whatever fault of an index a wiring meets is that of an operator on its own. -/
theorem Hazard.operator_of_index (hazard : Hazard context threshold wiring fault) (index : fault.kind = .index) :
    ∃ op ∈ context.block.operators, op.lower context = .error (.fault fault) := by
  rcases hazard with ⟨front, op, back, _, whole, _, lowering⟩ | ⟨_, _, binding | ⟨_, _, filling | ⟨_, _, exposing⟩⟩⟩
  · rcases lowering with named | ⟨_, _, _, _, rfl⟩
    · exact ⟨op, whole ▸ List.mem_append_right _ List.mem_cons_self, Operator.faults_lower.fails fault named⟩
    · cases index
  · obtain ⟨_, _, _, _, _, _, _, _, connecting⟩ := binding
    exact absurd index connecting.kind_ne_index
  · obtain ⟨_, _, _, _, _, _, _, replacing⟩ := filling
    exact absurd index replacing.kind_ne_index
  · obtain ⟨_, _, _, _, _, _, _, _, handing⟩ := exposing
    exact absurd index handing.kind_ne_index

end Wiring

theorem PayloadDefect.tensorFormat_mem (defect : PayloadDefect) : .tensorFormat ∈ defect.errorClass.ancestry := by
  cases defect <;> simp [errorClass, ErrorClass.ancestry, ErrorClass.parent?]

theorem Context.Refusal.cause {context : Context} {error : ConversionError} (refusal : context.Refusal error) :
    (∃ inferred declared, error.cause = .graph (.boundary inferred declared)) ∨
      ∃ defect, error.cause = .payload defect := by
  cases refusal with
  | boundary => exact .inl ⟨_, _, rfl⟩
  | payload => exact .inr ⟨_, rfl⟩

/-- What is refused once all operators are lowered names no operator, and is a connection or the format of a tensor;
a variable that is not declared is neither. -/
theorem Context.Refusal.operator_and_class {context : Context} {error : ConversionError}
    (refusal : context.Refusal error) : error.operator = none ∧
      (error.errorClass = .portConnection ∨ .tensorFormat ∈ error.errorClass.ancestry) := by
  cases refusal with
  | boundary => exact ⟨rfl, .inl rfl⟩
  | payload => exact ⟨rfl, .inr (PayloadDefect.tensorFormat_mem _)⟩

/-- A failure of wiring a block that its own tables are not to blame for. -/
structure Context.Blameless (context : Context) (failure : Failure) : Prop where
  /-- No port is bound twice. -/
  unbound : ∀ port source operator subject, failure ≠ .conversion ⟨.graph (.bound port source), operator, subject⟩
  /-- No layer is exchanged for one that does not fit. -/
  exchanged : ∀ old index new operator subject,
    failure ≠ .conversion ⟨.graph (.replacement old index new), operator, subject⟩
  /-- No port is looked for that is missing: the only faults of an index are those of lowering an operator. -/
  indexed : ∀ fault, failure = .fault fault → fault.kind = .index →
    ∃ op ∈ context.block.operators, op.lower context = .error (.fault fault)
  /-- Once all operators are lowered only shapes that are handed out and payloads are refused. -/
  closing : (∀ op ∈ context.block.operators, ∃ fragment, op.lower context = .ok fragment) →
    ∀ error, failure = .conversion error → context.Refusal error ∧ error.operator = none ∧
      error.errorClass ≠ .unknownVariable ∧
        (error.errorClass = .portConnection ∨ .tensorFormat ∈ error.errorClass.ancestry)

/-- Whatever a block, its payloads and the default element type are, a wiring from the start does not fail for its own
tables. -/
theorem blameless_of_resolve {context : Context} {threshold : Int} {failure : Failure}
    (failed : context.resolve threshold = .error failure) : context.Blameless failure := by
  have laid := Wiring.laid_start threshold
  have errs : (context.resolve threshold).Errs _ := Wiring.errs_resolve laid rfl
  have faults : (context.resolve threshold).Faults _ := Wiring.faults_resolve laid rfl
  -- The only cause about a graph is a shape that is handed out.
  have cause : ∀ defect operator subject, failure = .conversion ⟨.graph defect, operator, subject⟩ →
      ∃ inferred declared, defect = .boundary inferred declared := by
    rintro defect operator subject rfl
    rcases errs _ failed with ⟨op, _, lowered⟩ | ⟨_, refusal⟩
    · exact absurd rfl ((Operator.errs_lower _ lowered).2 defect)
    · rcases refusal.cause with ⟨inferred, declared, same⟩ | ⟨_, same⟩
      · exact ⟨inferred, declared, Cause.graph.inj same⟩
      · cases same
  refine ⟨fun port source operator subject same => ?_, fun old index new operator subject same => ?_,
    fun fault same index => ?_, fun lowers error same => ?_⟩
  · obtain ⟨_, _, other⟩ := cause _ _ _ same
    cases other
  · obtain ⟨_, _, other⟩ := cause _ _ _ same
    cases other
  · exact ((faults.iff fault).mp (same ▸ failed)).operator_of_index index
  · rcases errs error (same ▸ failed) with ⟨op, member, lowered⟩ | ⟨_, refusal⟩
    · obtain ⟨fragment, yielded⟩ := lowers op member
      cases lowered.symm.trans yielded
    · obtain ⟨operator, kind⟩ := refusal.operator_and_class
      refine ⟨refusal, operator, fun unknown => ?_, kind⟩
      rw [unknown] at kind
      rcases kind with kind | kind
      · cases kind
      · revert kind
        decide

/-- A block that rectifies a variable into one of another declared shape, which nothing reads. -/
def misshapen : Context where
  block := {
    declarations := [{ name := "x", shape := [2] }, { name := "y", shape := [3] }]
    operators := [⟨"relu", [("X", ["x"])], [("Out", ["y"])], []⟩] }
  tensors := { files := FileTree.empty, directory := ⟨"/", []⟩ }

theorem blameless_misshapen :
    misshapen.resolve = .error (.conversion ⟨.graph (.boundary [2] [3]), none, some "y"⟩) ∧
      misshapen.Blameless (.conversion ⟨.graph (.boundary [2] [3]), none, some "y"⟩) :=
  have failed : misshapen.resolve = .error (.conversion ⟨.graph (.boundary [2] [3]), none, some "y"⟩) := by cbv
  ⟨failed, blameless_of_resolve failed⟩

end LayerGraph
