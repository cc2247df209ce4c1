import LayerGraph.Proofs.Wiring.Correspondence

/-! Operators that reappear in another block under other numbers.

Declarations and stored tensors stay, so an operator becomes the same layers. Where no other operator writes a
variable and the numbers of its readers and writers keep their order, its suppliers go to its suppliers. What a
renumbering does not keep (one more operator that feeds or fetches a variable) is left to the block at hand.
-/

set_option autoImplicit false

namespace LayerGraph

/-- The same declarations and tensors with other operators. -/
def Context.withOperators (context : Context) (operators : List Operator) : Context :=
  { context with block := { context.block with operators := operators } }

/-- The same kind of site of a renumbered operator. -/
def Site.renumber (number : Nat → Nat) : Site → Site
  | .layer reader index => .layer (number reader) index
  | .made name => .made name
  | .handed writer => .handed (number writer)

theorem Site.renumber_id (site : Site) : site.renumber id = site := by cases site <;> rfl

theorem Site.injective_renumber {number : Nat → Nat} (injective : Function.Injective number) :
    Function.Injective (Site.renumber number) := by
  intro first second same
  cases first <;> cases second <;> simp_all [Site.renumber, injective.eq_iff]

section
variable {block : Block} {number : Nat} {name : String}

theorem Block.Reads.exists_operator {slot : Nat} (reads : block.Reads number slot name) :
    ∃ op, block.operators[number]? = some op := by
  obtain ⟨op, here, _⟩ := reads
  exact ⟨op, here⟩

theorem Block.Writes.exists_operator (writes : block.Writes number name) :
    ∃ op, block.operators[number]? = some op := by
  obtain ⟨op, here, _⟩ := writes
  exact ⟨op, here⟩

theorem Block.Feeds.writes (feeds : block.Feeds number name) : block.Writes number name := by
  obtain ⟨op, here, _, written⟩ := feeds
  exact ⟨op, here, written⟩

theorem Block.Fetches.reads (fetches : block.Fetches number name) : block.Reads number 0 name := by
  obtain ⟨op, here, _, single⟩ := fetches
  exact ⟨op, here, by rw [single]; rfl⟩

end

/-- An operator other than the reader that writes a variable supplies it. -/
theorem Block.exists_supplier (block : Block) (reader : Nat) (name : String) :
    ∃ supplier, block.Supplier reader name supplier := by
  classical
  by_cases before : ∃ writer, writer < reader ∧ block.Writes writer name
  · obtain ⟨writer, less, writes⟩ := before
    have latest := Nat.findGreatest_spec (P := fun writer => writer < reader ∧ block.Writes writer name)
      (Nat.le_of_lt less) ⟨less, writes⟩
    refine ⟨_, .earlier _ latest.1 latest.2 fun other after less' writes' => ?_⟩
    exact Nat.findGreatest_is_greatest (P := fun writer => writer < reader ∧ block.Writes writer name) after
      (Nat.le_of_lt less') ⟨less', writes'⟩
  · by_cases behind : ∃ writer, reader < writer ∧ block.Writes writer name
    · refine ⟨_, .later (Nat.find behind) (fun other less writes => before ⟨other, less, writes⟩)
        (Nat.find_spec behind).1 (Nat.find_spec behind).2 fun other after less writes => ?_⟩
      exact Nat.find_min behind less ⟨after, writes⟩
    · refine ⟨none, .nobody fun other different writes => ?_⟩
      rcases Nat.lt_or_gt_of_ne different with less | more
      · exact before ⟨other, less, writes⟩
      · exact behind ⟨other, more, writes⟩

namespace Context

/-- The operators of one block reappear in another one, with the same declarations and tensors. -/
structure Embeds (first second : Context) (number : Nat → Nat) : Prop where
  setting : ∃ operators, second = first.withOperators operators
  injective : Function.Injective number
  kept : ∀ {reader op}, first.block.operators[reader]? = some op → second.block.operators[number reader]? = some op

/-- A variable is written by the same operators, and its readers and writers keep their order. -/
structure Mirrors (first second : Context) (number : Nat → Nat) (name : String) : Prop where
  writes : ∀ {writer}, second.block.Writes writer name →
    ∃ origin, writer = number origin ∧ first.block.Writes origin name
  order : ∀ {user writer}, ((∃ slot, first.block.Reads user slot name) ∨ first.block.Writes user name) →
    first.block.Writes writer name →
      (number user < number writer ↔ user < writer) ∧ (number writer < number user ↔ writer < user)

/-- A variable is read by no other operators. -/
def Rereads (first second : Context) (number : Nat → Nat) (name : String) : Prop :=
  ∀ {reader slot}, second.block.Reads reader slot name →
    ∃ origin, reader = number origin ∧ first.block.Reads origin slot name

section
variable {first second : Context} {number : Nat → Nat} (embeds : first.Embeds second number)
include embeds

theorem Embeds.shape : second.shape = first.shape := by
  obtain ⟨_, rfl⟩ := embeds.setting
  rfl

theorem Embeds.load : second.load = first.load := by
  obtain ⟨_, rfl⟩ := embeds.setting
  rfl

theorem Embeds.tensors : second.tensors = first.tensors := by
  obtain ⟨_, rfl⟩ := embeds.setting
  rfl

theorem Embeds.substitute : second.substitute = first.substitute := by
  obtain ⟨_, rfl⟩ := embeds.setting
  rfl

theorem Embeds.lower (op : Operator) : op.lower second = op.lower first := by
  obtain ⟨_, rfl⟩ := embeds.setting
  rfl

theorem Embeds.handsIn {name : String} {source : Layer} {shape : Shape} :
    second.HandsIn name source shape ↔ first.HandsIn name source shape := by
  obtain ⟨_, rfl⟩ := embeds.setting
  rfl

theorem Embeds.procures {threshold : Int} {name : String} :
    second.Procures threshold name ↔ first.Procures threshold name := by
  obtain ⟨_, rfl⟩ := embeds.setting
  rfl

theorem Embeds.refills {threshold : Int} {name : String} :
    second.Refills threshold name ↔ first.Refills threshold name := by
  obtain ⟨_, rfl⟩ := embeds.setting
  rfl

theorem Embeds.handsOver {threshold : Int} {name : String} {source : Layer} :
    second.HandsOver threshold name source ↔ first.HandsOver threshold name source := by
  obtain ⟨_, rfl⟩ := embeds.setting
  rfl

section
variable {reader slot : Nat} {name : String} {op : Operator}

theorem Embeds.layersOf (here : first.block.operators[reader]? = some op) :
    second.layersOf (number reader) = first.layersOf reader := by
  rw [Context.layersOf, embeds.kept here, Context.layersOf, here]
  dsimp only
  rw [embeds.lower]

theorem Embeds.reads (reads : first.block.Reads reader slot name) :
    second.block.Reads (number reader) slot name := by
  obtain ⟨op, here, read⟩ := reads
  exact ⟨op, embeds.kept here, read⟩

theorem Embeds.writes (writes : first.block.Writes reader name) : second.block.Writes (number reader) name := by
  obtain ⟨op, here, written⟩ := writes
  exact ⟨op, embeds.kept here, written⟩

theorem Embeds.writes_iff (here : first.block.operators[reader]? = some op) :
    second.block.Writes (number reader) name ↔ first.block.Writes reader name := by
  constructor
  · rintro ⟨other, there, written⟩
    cases (embeds.kept here).symm.trans there
    exact ⟨op, here, written⟩
  · exact embeds.writes

theorem Embeds.feeds_iff (here : first.block.operators[reader]? = some op) :
    second.block.Feeds (number reader) name ↔ first.block.Feeds reader name := by
  constructor
  · rintro ⟨other, there, rest⟩
    cases (embeds.kept here).symm.trans there
    exact ⟨op, here, rest⟩
  · rintro ⟨other, there, rest⟩
    exact ⟨other, embeds.kept there, rest⟩

theorem Embeds.fetches_iff (here : first.block.operators[reader]? = some op) :
    second.block.Fetches (number reader) name ↔ first.block.Fetches reader name := by
  constructor
  · rintro ⟨other, there, rest⟩
    cases (embeds.kept here).symm.trans there
    exact ⟨op, here, rest⟩
  · rintro ⟨other, there, rest⟩
    exact ⟨other, embeds.kept there, rest⟩

theorem Embeds.exitOf (here : first.block.operators[reader]? = some op) :
    second.exitOf (number reader) = (first.exitOf reader).renumber number := by
  rw [Context.exitOf, embeds.layersOf here]
  rfl

/-- Suppliers go to suppliers. -/
theorem Mirrors.supplier (mirrors : first.Mirrors second number name) (reads : first.block.Reads reader slot name)
    {supplier : Option Nat} (supplies : first.block.Supplier reader name supplier) :
    second.block.Supplier (number reader) name (supplier.map number) := by
  -- Writers on the same side of the reader, and between it and the supplier, are so after the renumbering too.
  have reading : (∃ slot, first.block.Reads reader slot name) ∨ first.block.Writes reader name := .inl ⟨slot, reads⟩
  cases supplies with
  | earlier writer before writes last =>
    refine .earlier (number writer) ((mirrors.order reading writes).2.mpr before) (embeds.writes writes) ?_
    intro other after less written
    obtain ⟨origin, rfl, wrote⟩ := mirrors.writes written
    exact last origin ((mirrors.order (.inr writes) wrote).1.mp after) ((mirrors.order reading wrote).2.mp less) wrote
  | later writer unwritten after writes first' =>
    refine .later (number writer) ?_ ((mirrors.order reading writes).1.mpr after) (embeds.writes writes) ?_
    · intro other less written
      obtain ⟨origin, rfl, wrote⟩ := mirrors.writes written
      exact unwritten origin ((mirrors.order reading wrote).2.mp less) wrote
    · intro other behind less written
      obtain ⟨origin, rfl, wrote⟩ := mirrors.writes written
      exact first' origin ((mirrors.order reading wrote).1.mp behind) ((mirrors.order (.inr writes) wrote).2.mp less)
        wrote
  | nobody unwritten =>
    refine .nobody fun other different written => ?_
    obtain ⟨origin, rfl, wrote⟩ := mirrors.writes written
    exact unwritten origin (fun same => different (congrArg number same)) wrote

theorem Mirrors.exists_supplier (mirrors : first.Mirrors second number name)
    (reads : first.block.Reads reader slot name) {supplier : Option Nat}
    (supplies : second.block.Supplier (number reader) name supplier) :
    ∃ origin, supplier = origin.map number ∧ first.block.Supplier reader name origin := by
  obtain ⟨origin, supplied⟩ := first.block.exists_supplier reader name
  exact ⟨origin, supplies.unique (mirrors.supplier embeds reads supplied), supplied⟩

theorem Embeds.supplyOf {supplier : Option Nat} (supplies : first.block.Supplier reader name supplier) :
    second.supplyOf name (supplier.map number) = (first.supplyOf name supplier).renumber number := by
  cases supplier with
  | some writer =>
    obtain ⟨op, here, _⟩ := supplies.writes
    exact embeds.exitOf here
  | none => rfl

/-- A variable that has to be made up has to be so in the other block. -/
theorem Mirrors.sourceless (mirrors : first.Mirrors second number name)
    (sourceless : name ∈ first.block.sourceless) : name ∈ second.block.sourceless := by
  obtain ⟨reader, slot, reads, supplies⟩ := Block.mem_sourceless.mp sourceless
  exact Block.mem_sourceless.mpr ⟨_, slot, embeds.reads reads, mirrors.supplier embeds reads supplies⟩

theorem Mirrors.sourceless_iff (mirrors : first.Mirrors second number name)
    (rereads : first.Rereads second number name) :
    name ∈ second.block.sourceless ↔ name ∈ first.block.sourceless := by
  constructor
  · intro sourceless
    obtain ⟨reader, slot, reads, supplies⟩ := Block.mem_sourceless.mp sourceless
    obtain ⟨origin, rfl, read⟩ := rereads reads
    obtain ⟨supplier, same, supplied⟩ := mirrors.exists_supplier embeds read supplies
    cases supplier with
    | none => exact Block.mem_sourceless.mpr ⟨origin, slot, read, supplied⟩
    | some writer => cases same
  · exact mirrors.sourceless embeds

theorem Mirrors.unread_iff (mirrors : first.Mirrors second number name) (rereads : first.Rereads second number name) :
    second.block.Unread (number reader) name ↔ first.block.Unread reader name := by
  constructor
  · intro unread user slot reads supplies
    exact unread _ slot (embeds.reads reads) (mirrors.supplier embeds reads supplies)
  · intro unread user slot reads supplies
    obtain ⟨origin, rfl, read⟩ := rereads reads
    obtain ⟨supplier, same, supplied⟩ := mirrors.exists_supplier embeds read supplies
    obtain ⟨writer, rfl, equal⟩ := Option.map_eq_some_iff.mp same.symm
    exact unread origin slot read (embeds.injective equal ▸ supplied)

theorem Mirrors.sole_iff (mirrors : first.Mirrors second number name) :
    (∀ other, second.block.Writes other name → other = number reader) ↔
      ∀ other, first.block.Writes other name → other = reader := by
  constructor
  · intro sole other writes
    exact embeds.injective (sole _ (embeds.writes writes))
  · intro sole other writes
    obtain ⟨origin, rfl, wrote⟩ := mirrors.writes writes
    rw [sole origin wrote]

theorem Mirrors.givesWay_iff (mirrors : first.Mirrors second number name)
    (here : first.block.operators[reader]? = some op) :
    second.GivesWay (number reader) name ↔ first.GivesWay reader name := by
  constructor
  · rintro ⟨feeds, sole, stored⟩
    exact ⟨(embeds.feeds_iff here).mp feeds, (mirrors.sole_iff embeds).mp sole, embeds.tensors ▸ stored⟩
  · rintro ⟨feeds, sole, stored⟩
    exact ⟨(embeds.feeds_iff here).mpr feeds, (mirrors.sole_iff embeds).mpr sole, embeds.tensors ▸ stored⟩

theorem Embeds.layer_mem_sites (here : first.block.operators[reader]? = some op) {index : Nat} :
    Site.layer (number reader) index ∈ second.sites ↔ Site.layer reader index ∈ first.sites := by
  rw [Context.layer_mem_sites, Context.layer_mem_sites, embeds.layersOf here]

theorem Mirrors.made_mem_sites (mirrors : first.Mirrors second number name)
    (rereads : first.Rereads second number name) : Site.made name ∈ second.sites ↔ Site.made name ∈ first.sites := by
  rw [Context.made_mem_sites, Context.made_mem_sites, mirrors.sourceless_iff embeds rereads]

/-- An operator hands a variable out in both blocks if it is unread in both. -/
theorem Embeds.handed_mem_sites (here : first.block.operators[reader]? = some op)
    (unread : ∀ name, first.block.Writes reader name →
      (second.block.Unread (number reader) name ↔ first.block.Unread reader name)) :
    Site.handed (number reader) ∈ second.sites ↔ Site.handed reader ∈ first.sites := by
  rw [Context.handed_mem_sites, Context.handed_mem_sites, Block.mem_loose, Block.mem_loose]
  refine exists_congr fun name => ?_
  rw [embeds.writes_iff here]
  exact and_congr_right fun writes => unread name writes

/-- The layer of an operator stands in the other block too, if what the operator writes is written alike. -/
theorem Embeds.stands_iff {index : Nat} {layer : Layer} (here : first.block.operators[reader]? = some op)
    (mirrored : ∀ name, first.block.Writes reader name → first.Mirrors second number name) :
    second.Stands (.layer (number reader) index) layer ↔ first.Stands (.layer reader index) layer := by
  -- Whether a payload takes the place of the layer is decided by the writers of what the operator feeds.
  have way : ∀ name, second.GivesWay (number reader) name ↔ first.GivesWay reader name := by
    intro name
    constructor
    · intro gives
      have feeds := (embeds.feeds_iff here).mp gives.feeds
      obtain ⟨_, there, _, writes⟩ := feeds
      exact ((mirrored name ⟨_, there, writes⟩).givesWay_iff embeds here).mp gives
    · intro gives
      obtain ⟨_, there, _, writes⟩ := gives.feeds
      exact ((mirrored name ⟨_, there, writes⟩).givesWay_iff embeds here).mpr gives
  constructor
  · intro stands
    cases stands with
    | kept there stays =>
      exact .kept (embeds.layersOf here ▸ there) fun name gives => stays name ((way name).mpr gives)
    | payload gives loaded => exact .payload ((way _).mp gives) (embeds.load ▸ loaded)
  · intro stands
    cases stands with
    | kept there stays =>
      exact .kept ((embeds.layersOf here).symm ▸ there) fun name gives => stays name ((way name).mp gives)
    | payload gives loaded => exact .payload ((way _).mpr gives) (embeds.load.symm ▸ loaded)

theorem Embeds.drafts_iff {supplier : Option Nat} {layer : Layer}
    (supplies : first.block.Supplier reader name supplier) :
    second.Drafts (second.supplyOf name (supplier.map number)) layer ↔
      first.Drafts (first.supplyOf name supplier) layer := by
  cases supplier with
  | some writer =>
    obtain ⟨op, here, _⟩ := supplies.writes
    have same := embeds.layersOf here
    constructor
    · rintro ⟨there⟩
      exact .layer (by rwa [same] at there)
    · rintro ⟨there⟩
      exact .layer (by rwa [same])
  | none =>
    constructor
    · rintro ⟨⟩
      next substitute => exact .made (embeds.substitute ▸ substitute)
    · rintro ⟨⟩
      next substitute => exact .made (embeds.substitute.symm ▸ substitute)

theorem Mirrors.receives_iff (mirrors : first.Mirrors second number name)
    (here : first.block.operators[reader]? = some op) :
    second.Receives (number reader) name ↔ first.Receives reader name := by
  constructor
  · intro receives fetches supplier source declared supplies drafts shaped
    exact receives ((embeds.fetches_iff here).mpr fetches) _ source declared
      (mirrors.supplier embeds fetches.reads supplies) ((embeds.drafts_iff supplies).mpr drafts)
      (embeds.shape.symm ▸ shaped)
  · intro receives fetches supplier source declared supplies drafts shaped
    have fetched := (embeds.fetches_iff here).mp fetches
    obtain ⟨origin, rfl, supplied⟩ := mirrors.exists_supplier embeds fetched.reads supplies
    exact receives fetched origin source declared supplied ((embeds.drafts_iff supplied).mp drafts)
      (embeds.shape ▸ shaped)

theorem Mirrors.stands_made (mirrors : first.Mirrors second number name) {layer : Layer}
    (stands : first.Stands (.made name) layer) : second.Stands (.made name) layer := by
  cases stands with
  | made sourceless substitute =>
    exact .made (mirrors.sourceless embeds sourceless) (embeds.substitute.symm ▸ substitute)

/-- A layer that hands out stands in the other block too, if no read takes the variable there either. -/
theorem Embeds.stands_handed {layer : Layer} (stands : first.Stands (.handed reader) layer)
    (mirrored : ∀ name, first.block.Writes reader name → first.Mirrors second number name)
    (unread : ∀ name, first.block.Writes reader name → first.block.Unread reader name →
      second.block.Unread (number reader) name) : second.Stands (.handed (number reader)) layer := by
  cases stands with
  | handed writes free exit shaped =>
    obtain ⟨_, here⟩ := writes.exists_operator
    refine .handed (embeds.writes writes) (unread _ writes free) ?_ (embeds.handsIn.mpr shaped)
    rw [embeds.exitOf here]
    exact (embeds.stands_iff here mirrored).mpr exit

theorem Embeds.joins_link {index : Nat} (inside : index + 1 < (first.layersOf reader).length) :
    second.Joins (.layer (number reader) index) (.layer (number reader) (index + 1)) 0 := by
  obtain ⟨op, here⟩ := Context.exists_operator (Nat.lt_of_succ_lt inside)
  exact .link (by rwa [embeds.layersOf here])

theorem Mirrors.joins_read (mirrors : first.Mirrors second number name)
    (reads : first.block.Reads reader slot name) {supplier : Option Nat}
    (supplies : first.block.Supplier reader name supplier) :
    second.Joins ((first.supplyOf name supplier).renumber number) (.layer (number reader) 0) slot := by
  rw [← embeds.supplyOf supplies]
  exact .read (embeds.reads reads) (mirrors.supplier embeds reads supplies)

theorem Embeds.joins_handed (writes : first.block.Writes reader name)
    (unread : second.block.Unread (number reader) name) :
    second.Joins ((first.exitOf reader).renumber number) (.handed (number reader)) 0 := by
  obtain ⟨_, here⟩ := writes.exists_operator
  rw [← embeds.exitOf here]
  exact .handed (embeds.writes writes) unread

end

end

end Context

end LayerGraph
