import LayerGraph.Proofs.Wiring.Arrangement
import LayerGraph.Proofs.Wiring.Faults

/-! What a block has to meet to be wired, told from the block.

An operator lowers, a source can be made up, a fetched variable comes in the declared shape, a payload can take the
place of a boundary layer, an unread variable can be handed out. No condition depends on what a wiring has done before.
-/

set_option autoImplicit false

namespace LayerGraph

open Text

/-- An operator hands a variable out. -/
def Block.Fetches (block : Block) (number : Nat) (name : String) : Prop :=
  ∃ op, block.operators[number]? = some op ∧ OperatorKind.ofTag? op.tag = some .fetch ∧ op.reads = [name]

namespace Context

/-- What stands at a site before payloads take the place of boundary layers. -/
inductive Drafts (context : Context) : Site → Layer → Prop
  | layer {number index : Nat} {layer : Layer} (here : (context.layersOf number)[index]? = some layer) :
      Drafts context (.layer number index) layer
  | made {name : String} {layer : Layer} (substitute : context.substitute name = .ok layer) :
      Drafts context (.made name) layer

variable (context : Context) (threshold : Int)

/-- An operator becomes layers, and the lines about them can be shown. -/
def Lowers (number : Nat) (op : Operator) : Prop :=
  ∃ fragment, op.lower context = .ok fragment ∧ (threshold ≤ Severity.debug.number →
    ∀ layer ∈ fragment.layers, showsNumerals (Wiring.loweredText number op layer) = true)

/-- A variable becomes a constant, of its payload or of zeros that are warned about. -/
def Stores (name : String) (stored : Bool) : Prop :=
  (stored = false →
    Severity.warning.Shows threshold ("No payload for persistable [var]" ++ name ++ "[/var], using zeros")) ∧
  (∃ value, context.loadOrZeros name = .ok value) ∧
    Severity.debug.Shows threshold ("Bound " ++ name ++ " to a constant")

/-- A source can be made up for a variable. -/
def Procures (name : String) : Prop :=
  ∃ declaration stored, context.block.declaration name = .ok declaration ∧
    context.tensors.contains name = .ok stored ∧
    if declaration.persistable || stored then context.Stores threshold name stored
    else Severity.debug.Shows threshold ("Bound " ++ name ++ " to a new graph input")

/-- What an operator fetches comes in the declared shape. -/
def Receives (number : Nat) (name : String) : Prop :=
  context.block.Fetches number name → ∀ supplier source declared, context.block.Supplier number name supplier →
    context.Drafts (context.supplyOf name supplier) source → context.shape name = .ok declared →
      Shape.compatible source.outputShape declared = true

/-- A fed variable that nobody else writes is not stored, or its payload can take its place. -/
def Refills (name : String) : Prop :=
  ∃ stored, context.tensors.contains name = .ok stored ∧ (stored = true →
    (∃ value, context.load name = .ok value) ∧
      Severity.debug.Shows threshold ("Replaced feed " ++ name ++ " with its stored payload"))

/-- A variable can be handed out from the layer that writes it. -/
def HandsOver (name : String) (source : Layer) : Prop :=
  ∃ shape, context.HandsIn name source shape ∧ Shape.compatible source.outputShape shape = true ∧
    Severity.debug.Shows threshold ("Exposed " ++ name ++ " as a graph output")

/-- All steps of the wiring of a block can be taken. -/
structure Wirable : Prop where
  lowers : ∀ number op, context.block.operators[number]? = some op → context.Lowers threshold number op
  procures : ∀ name ∈ context.block.sourceless, context.Procures threshold name
  receives : ∀ number name, context.Receives number name
  refills : ∀ number name, context.block.Feeds number name →
    (∀ other, context.block.Writes other name → other = number) → context.Refills threshold name
  handsOver : ∀ writer name source, context.block.Writes writer name → context.block.Unread writer name →
    context.Stands (context.exitOf writer) source → context.HandsOver threshold name source

end Context

/-- The turn of an operator is taken exactly if the operator lowers. -/
theorem Operator.turn_eq_ok {op : Operator} {context : Context} {threshold : Int} {number : Nat} :
    op.turn context threshold number = .ok () ↔ context.Lowers threshold number op := by
  unfold turn Context.Lowers
  rw [Attempt.bind_eq_ok]
  refine exists_congr fun fragment => and_congr_right fun _ => ?_
  constructor
  · intro taken kept layer member
    by_contra unshown
    rw [Bool.not_eq_true] at unshown
    rw [if_pos ⟨kept, layer, member, unshown⟩] at taken
    cases taken
  · intro shown
    refine if_neg ?_
    rintro ⟨kept, layer, member, unshown⟩
    cases (shown kept layer member).symm.trans unshown

/-- A line below the threshold is not kept. -/
theorem Severity.shows_of_lt {severity : Severity} {threshold : Int} {message : String}
    (quiet : severity.number < threshold) : severity.Shows threshold message :=
  fun kept => absurd kept (Int.not_le.mpr quiet)

/-- Where no lines are kept, an operator only has to become layers. -/
theorem Context.lowers_iff {context : Context} {threshold : Int} {number : Nat} {op : Operator}
    (quiet : Severity.debug.number < threshold) :
    context.Lowers threshold number op ↔ ∃ fragment, op.lower context = .ok fragment :=
  exists_congr fun _ => and_iff_left fun kept => absurd kept (Int.not_le.mpr quiet)

/-- One layer stands at a site before payloads take places. -/
theorem Context.Drafts.unique {context : Context} {site : Site} {a b : Layer} (first : context.Drafts site a)
    (second : context.Drafts site b) : a = b := by
  cases first with
  | layer here =>
    cases second with
    | layer there => exact Option.some.inj (here.symm.trans there)
  | made substitute =>
    cases second with
    | made again => exact Except.ok.inj (substitute.symm.trans again)

theorem Context.GivesWay.unique {context : Context} {number : Nat} {a b : String} (first : context.GivesWay number a)
    (second : context.GivesWay number b) : a = b := by
  obtain ⟨op, here, _, writes⟩ := first.feeds
  obtain ⟨other, there, _, another⟩ := second.feeds
  cases here.symm.trans there
  exact Option.some.inj (writes.symm.trans another)

/-- What stands for an operator is one of its layers, or the payload of what it feeds. -/
theorem Context.Stands.layer_cases {context : Context} {number index : Nat} {layer : Layer}
    (stands : context.Stands (.layer number index) layer) : (context.layersOf number)[index]? = some layer ∨
      ∃ name value, context.GivesWay number name ∧ context.load name = .ok value ∧ layer = Layer.constant value := by
  cases stands with
  | kept here => exact .inl here
  | payload way loaded => exact .inr ⟨_, _, way, loaded, rfl⟩

/-- One layer stands at a site of an operator. -/
theorem Context.Stands.unique_layer {context : Context} {number index : Nat} {a b : Layer}
    (first : context.Stands (.layer number index) a) (second : context.Stands (.layer number index) b) : a = b := by
  cases first with
  | kept here stays =>
    cases second with
    | kept there => exact Option.some.inj (here.symm.trans there)
    | payload way => exact absurd way (stays _)
  | payload way loaded =>
    cases second with
    | kept there stays => exact absurd way (stays _)
    | payload again found =>
      cases way.unique again
      rw [Except.ok.inj (loaded.symm.trans found)]

end LayerGraph
