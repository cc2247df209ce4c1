import LayerGraph.Proofs.Wiring.Renumbering
import LayerGraph.Proofs.Wiring.Success

/-! A feed in the place of a source that is made up.

For a variable that a block only reads, the binding of the reads makes a source up: a boundary layer, or a constant
for a payload. An operator before all others that feeds the variable supplies the same reads with the same layer, on
another way: its boundary layer is there from the start, and it gives way to a payload after everything is bound.
-/

set_option autoImplicit false

namespace LayerGraph

namespace Context

theorem load_of_loadOrZeros {context : Context} {name : String} {value : Tensor}
    (contained : context.tensors.contains name = .ok true) (loaded : context.loadOrZeros name = .ok value) :
    context.load name = .ok value := by
  obtain ⟨shape, declared, loaded⟩ := Attempt.bind_eq_ok.mp loaded
  obtain ⟨spelling, typed, loaded⟩ := Attempt.bind_eq_ok.mp loaded
  obtain ⟨stored, found, loaded⟩ := Attempt.bind_eq_ok.mp loaded
  cases contained.symm.trans found
  exact Attempt.bind_eq_ok.mpr ⟨shape, declared, Attempt.bind_eq_ok.mpr ⟨spelling, typed, loaded⟩⟩

/-- An operator feeds a variable that a block reads, in known extents, and does not write. If the variable is to be
stored it is, for a feed stands for no zeros. -/
structure Feedable (context : Context) (feed : Operator) (name : String) (shape : Shape) : Prop where
  feeds : OperatorKind.ofTag? feed.tag = some .feed
  writes : feed.write? = some name
  declared : context.shape name = .ok shape
  known : shape.Known
  read : ∃ reader slot, context.block.Reads reader slot name
  unwritten : ∀ writer, ¬ context.block.Writes writer name
  stored : ∀ declaration, context.block.declaration name = .ok declaration → declaration.persistable = true →
    context.tensors.contains name = .ok true

/-- The block with an operator before all others. -/
def fed (context : Context) (feed : Operator) : Context := context.withOperators (feed :: context.block.operators)

/-- The site in the block with the feed: all operators count one more, and the feed stands for what was made up. -/
def fedSite (name : String) : Site → Site := Function.update (Site.renumber Nat.succ) (.made name) (.layer 0 0)

theorem fedSite_made (name : String) : fedSite name (.made name) = .layer 0 0 := Function.update_self ..

theorem fedSite_layer (name : String) (reader index : Nat) :
    fedSite name (.layer reader index) = .layer (reader + 1) index := Function.update_of_ne (by nofun) ..

theorem fedSite_handed (name : String) (writer : Nat) : fedSite name (.handed writer) = .handed (writer + 1) :=
  Function.update_of_ne (by nofun) ..

theorem fedSite_made_of_ne {name other : String} (different : other ≠ name) :
    fedSite name (.made other) = .made other :=
  Function.update_of_ne (fun same => different (Site.made.inj same)) ..

variable {context : Context} {feed : Operator} {name : String} {shape : Shape}

theorem embeds_fed : context.Embeds (context.fed feed) Nat.succ where
  setting := ⟨_, rfl⟩
  injective := Nat.succ_injective
  kept here := here

theorem mirrors_fed {other : String} (apart : feed.write? ≠ some other) :
    context.Mirrors (context.fed feed) Nat.succ other where
  writes := by
    rintro writer ⟨op, here, written⟩
    cases writer with
    | zero => exact absurd (Option.some.inj here ▸ written) apart
    | succ origin => exact ⟨origin, rfl, op, here, written⟩
  order _ _ := ⟨Nat.succ_lt_succ_iff, Nat.succ_lt_succ_iff⟩

namespace Feedable

variable (feedable : context.Feedable feed name shape)
include feedable

theorem apart {other : String} (different : other ≠ name) : feed.write? ≠ some other := fun same =>
  different (Option.some.inj (same.symm.trans feedable.writes))

theorem rereads (other : String) : context.Rereads (context.fed feed) Nat.succ other := by
  rintro reader slot ⟨op, here, read⟩
  cases reader with
  | zero =>
    rw [← Option.some.inj here, Operator.reads_eq feedable.feeds] at read
    cases read
  | succ origin => exact ⟨origin, rfl, op, here, read⟩

theorem layersOf_zero : (context.fed feed).layersOf 0 = [Layer.input shape] := by
  have made : feed.lower (context.fed feed) = .ok (.feed shape name) :=
    Operator.lower_feed feedable.declared feedable.feeds feedable.writes
  have here : (context.fed feed).block.operators[0]? = some feed := rfl
  rw [layersOf, here]
  dsimp only
  rw [made]
  rfl

theorem writes_zero : (context.fed feed).block.Writes 0 name := ⟨feed, rfl, feedable.writes⟩

theorem sole {writer : Nat} (writes : (context.fed feed).block.Writes writer name) : writer = 0 := by
  obtain ⟨op, here, written⟩ := writes
  cases writer with
  | zero => rfl
  | succ origin => exact absurd ⟨op, here, written⟩ (feedable.unwritten origin)

theorem supplier (reader : Nat) : (context.fed feed).block.Supplier (reader + 1) name (some 0) :=
  .earlier 0 (Nat.succ_pos reader) feedable.writes_zero fun _ after _ writes =>
    absurd (feedable.sole writes) (Nat.ne_of_gt after)

theorem sourceless : name ∈ context.block.sourceless := by
  obtain ⟨reader, slot, reads⟩ := feedable.read
  exact Block.mem_sourceless.mpr ⟨reader, slot, reads, .nobody fun other _ => feedable.unwritten other⟩

theorem not_sourceless : name ∉ (context.fed feed).block.sourceless := by
  intro sourceless
  obtain ⟨reader, slot, reads, supplies⟩ := Block.mem_sourceless.mp sourceless
  obtain ⟨origin, rfl, _⟩ := feedable.rereads name reads
  cases supplies.unique (feedable.supplier origin)

theorem not_unread : ¬ (context.fed feed).block.Unread 0 name := by
  obtain ⟨reader, slot, reads⟩ := feedable.read
  exact fun unread => unread _ slot (embeds_fed.reads reads) (feedable.supplier reader)

theorem mirrors_written {writer : Nat} {other : String} (writes : context.block.Writes writer other) :
    context.Mirrors (context.fed feed) Nat.succ other :=
  mirrors_fed <| feedable.apart fun same => feedable.unwritten writer (same ▸ writes)

theorem unread_iff {writer : Nat} {other : String} (writes : context.block.Writes writer other) :
    (context.fed feed).block.Unread (writer + 1) other ↔ context.block.Unread writer other :=
  (feedable.mirrors_written writes).unread_iff embeds_fed (feedable.rereads other)

/-- What is made up for the variable is a boundary layer of the declared shape, or a constant for its payload. -/
theorem substitute_iff {layer : Layer} : context.substitute name = .ok layer ↔
    context.tensors.contains name = .ok false ∧ layer = Layer.input shape ∨
      context.tensors.contains name = .ok true ∧ ∃ value, context.load name = .ok value ∧
        layer = Layer.constant value := by
  obtain ⟨declaration, found, rfl⟩ := Attempt.map_eq_ok.mp feedable.declared
  constructor
  · intro substitute
    obtain ⟨_, again, made⟩ := Attempt.bind_eq_ok.mp substitute
    cases found.symm.trans again
    obtain ⟨stored, contained, made⟩ := Attempt.bind_eq_ok.mp made
    split at made
    · next keeps =>
      obtain ⟨value, loaded, made⟩ := Attempt.bind_eq_ok.mp made
      cases made
      have present : context.tensors.contains name = .ok true := by
        rcases Bool.or_eq_true_iff.mp keeps with persistable | rfl
        · exact feedable.stored declaration found persistable
        · exact contained
      exact .inr ⟨present, value, load_of_loadOrZeros present loaded, rfl⟩
    · next passes =>
      cases made
      rw [Bool.or_eq_true, not_or, Bool.not_eq_true, Bool.not_eq_true] at passes
      exact .inl ⟨passes.2 ▸ contained, rfl⟩
  · rintro (⟨absent, rfl⟩ | ⟨present, value, loaded, rfl⟩)
    · refine Attempt.bind_eq_ok.mpr ⟨declaration, found, Attempt.bind_eq_ok.mpr ⟨false, absent, ?_⟩⟩
      have passes : ¬ (declaration.persistable || false) = true := by
        rw [Bool.or_false]
        intro persistable
        cases absent.symm.trans (feedable.stored declaration found persistable)
      exact if_neg passes
    · refine Attempt.bind_eq_ok.mpr ⟨declaration, found, Attempt.bind_eq_ok.mpr ⟨true, present, ?_⟩⟩
      rw [if_pos (Bool.or_true _), loadOrZeros_of_load present loaded]
      rfl

theorem stands_zero {layer : Layer} (substitute : context.substitute name = .ok layer) :
    (context.fed feed).Stands (.layer 0 0) layer := by
  rcases feedable.substitute_iff.mp substitute with ⟨absent, rfl⟩ | ⟨present, value, loaded, rfl⟩
  · -- Nothing is stored that the boundary layer of the feed could give way to.
    refine .kept (by rw [feedable.layersOf_zero]; rfl) fun other way => ?_
    obtain ⟨op, here, _, writes⟩ := way.feeds
    cases here
    cases feedable.writes.symm.trans writes
    cases absent.symm.trans way.stored
  · exact .payload ⟨⟨feed, rfl, feedable.feeds, feedable.writes⟩, fun _ => feedable.sole, present⟩ loaded

theorem kept_mem_sites (site : Site) (different : site ≠ .made name) :
    site.renumber Nat.succ ∈ (context.fed feed).sites ↔ site ∈ context.sites := by
  cases site with
  | layer reader index =>
    have same : (context.fed feed).layersOf (reader + 1) = context.layersOf reader := rfl
    exact (layer_mem_sites.trans (by rw [same])).trans layer_mem_sites.symm
  | made other =>
    have apart := feedable.apart fun same => different (congrArg Site.made same)
    exact (mirrors_fed apart).made_mem_sites embeds_fed (feedable.rereads other)
  | handed writer =>
    refine handed_mem_sites.trans (Iff.trans ?_ handed_mem_sites.symm)
    rw [Block.mem_loose, Block.mem_loose]
    exact exists_congr fun other => and_congr_right fun writes => feedable.unread_iff writes

theorem bijOn_fedSite :
    Set.BijOn (fedSite name) {site | site ∈ context.sites} {site | site ∈ (context.fed feed).sites} := by
  refine bijOn_update (made_mem_sites.mpr feedable.sourceless)
    (layer_mem_sites.mpr (feedable.layersOf_zero ▸ Nat.one_pos))
    ⟨?_, (Site.injective_renumber Nat.succ_injective).injOn, ?_⟩
  · rintro site ⟨member, different⟩
    refine ⟨(feedable.kept_mem_sites site different).mpr member, ?_⟩
    cases site <;> nofun
  · rintro (⟨reader, index⟩ | other | writer) ⟨member, different⟩
    · cases reader with
      | zero =>
        have inside := layer_mem_sites.mp member
        rw [feedable.layersOf_zero] at inside
        cases Nat.lt_one_iff.mp inside
        exact absurd rfl different
      | succ reader =>
        exact ⟨.layer reader index, ⟨(feedable.kept_mem_sites (.layer reader index) nofun).mp member, nofun⟩, rfl⟩
    · have apart : Site.made other ≠ .made name := by
        rintro ⟨⟩
        exact feedable.not_sourceless (made_mem_sites.mp member)
      exact ⟨.made other, ⟨(feedable.kept_mem_sites _ apart).mp member, apart⟩, rfl⟩
    · cases writer with
      | zero =>
        obtain ⟨other, ⟨op, here, written⟩, unread⟩ := Block.mem_loose.mp (handed_mem_sites.mp member)
        cases here
        cases feedable.writes.symm.trans written
        exact absurd unread feedable.not_unread
      | succ writer =>
        exact ⟨.handed writer, ⟨(feedable.kept_mem_sites (.handed writer) nofun).mp member, nofun⟩, rfl⟩

theorem stands_fedSite {site : Site} {layer : Layer} (member : site ∈ context.sites)
    (stands : context.Stands site layer) : (context.fed feed).Stands (fedSite name site) layer := by
  cases site with
  | layer reader index =>
    obtain ⟨op, here⟩ := exists_operator (layer_mem_sites.mp member)
    rw [fedSite_layer]
    exact (embeds_fed.stands_iff here fun _ writes => feedable.mirrors_written writes).mpr stands
  | made other =>
    by_cases same : other = name
    · subst same
      rw [fedSite_made]
      cases stands with
      | made _ substitute => exact feedable.stands_zero substitute
    · rw [fedSite_made_of_ne same]
      exact (mirrors_fed (feedable.apart same)).stands_made embeds_fed stands
  | handed writer =>
    rw [fedSite_handed]
    exact embeds_fed.stands_handed stands (fun _ writes => feedable.mirrors_written writes)
      fun _ writes unread => (feedable.unread_iff writes).mpr unread

theorem joins_fedSite {origin site : Site} {slot : Nat} (joins : context.Joins origin site slot) :
    (context.fed feed).Joins (fedSite name origin) (fedSite name site) slot := by
  cases joins with
  | link inside =>
    rw [fedSite_layer, fedSite_layer]
    exact embeds_fed.joins_link inside
  | @read reader _ other supplier reads supplies =>
    rw [fedSite_layer]
    by_cases same : other = name
    · -- Nobody supplied the variable, so what was made up did; now the feed does.
      subst same
      cases supplies.unique (.nobody fun writer _ => feedable.unwritten writer)
      have joined := Joins.read (embeds_fed.reads reads) (feedable.supplier reader)
      rw [supplyOf, exitOf, feedable.layersOf_zero] at joined
      exact fedSite_made other ▸ joined
    · have kept : fedSite name (context.supplyOf other supplier) =
          (context.supplyOf other supplier).renumber Nat.succ := by
        cases supplier with
        | none => exact fedSite_made_of_ne same
        | some writer => exact fedSite_layer name writer _
      rw [kept]
      exact (mirrors_fed (feedable.apart same)).joins_read embeds_fed reads supplies
  | @handed writer _ writes unread =>
    rw [exitOf, fedSite_layer, fedSite_handed]
    exact embeds_fed.joins_handed writes ((feedable.unread_iff writes).mpr unread)

theorem corresponds : context.Corresponds (context.fed feed) (fedSite name) where
  bijective := feedable.bijOn_fedSite
  stands _ _ := feedable.stands_fedSite
  joins _ _ _ := feedable.joins_fedSite

section
variable {threshold : Int} (quiet : Severity.debug.number < threshold)
include quiet

theorem procures_iff : context.Procures threshold name ↔ context.Refills threshold name := by
  obtain ⟨declaration, found, _⟩ := Attempt.map_eq_ok.mp feedable.declared
  constructor
  · rintro ⟨_, stored, _, contained, made⟩
    refine ⟨stored, contained, ?_⟩
    rintro rfl
    rw [if_pos (Bool.or_true _)] at made
    obtain ⟨_, ⟨value, loaded⟩, _⟩ := made
    exact ⟨⟨value, load_of_loadOrZeros contained loaded⟩, Severity.shows_of_lt quiet⟩
  · rintro ⟨stored, contained, refilled⟩
    refine ⟨declaration, stored, found, contained, ?_⟩
    split
    · next keeps =>
      -- Only a payload leads here, so no zeros have to be made or warned about.
      have present : stored = true := by
        rcases Bool.or_eq_true_iff.mp keeps with persistable | present
        · exact Except.ok.inj (contained.symm.trans (feedable.stored declaration found persistable))
        · exact present
      obtain ⟨⟨value, loaded⟩, _⟩ := refilled present
      refine ⟨fun absent => ?_, ⟨value, loadOrZeros_of_load (present ▸ contained) loaded⟩, Severity.shows_of_lt quiet⟩
      cases present.symm.trans absent
    · exact Severity.shows_of_lt quiet

end

/-- What fetches the variable takes what is made up, which comes in the declared shape. -/
theorem receives (reader : Nat) : context.Receives reader name := by
  intro _ supplier source declared supplies drafts shaped
  cases supplies.unique (.nobody fun writer _ => feedable.unwritten writer)
  cases feedable.declared.symm.trans shaped
  obtain ⟨⟩ := drafts
  next substitute =>
    rcases feedable.substitute_iff.mp substitute with ⟨_, rfl⟩ | ⟨_, value, loaded, rfl⟩
    · exact Shape.compatible_self shape
    · exact compatible_of_load feedable.known feedable.declared loaded

/-- With the feed it takes the boundary layer of the declared shape. -/
theorem receives_fed (reader : Nat) : (context.fed feed).Receives reader name := by
  intro fetches supplier source declared supplies drafts shaped
  obtain ⟨reader, rfl, _⟩ := feedable.rereads name fetches.reads
  cases supplies.unique (feedable.supplier reader)
  cases feedable.declared.symm.trans shaped
  obtain ⟨there⟩ := drafts
  rw [feedable.layersOf_zero] at there
  cases there
  exact Shape.compatible_self shape

section
variable {threshold : Int} (quiet : Severity.debug.number < threshold)
include quiet

/-- The block with the feed can be wired if the block can. -/
theorem wirable_fed (wirable : context.Wirable threshold) : (context.fed feed).Wirable threshold where
  lowers place op here := by
    rw [lowers_iff quiet, embeds_fed.lower]
    cases place with
    | zero =>
      cases here
      exact ⟨_, Operator.lower_feed feedable.declared feedable.feeds feedable.writes⟩
    | succ origin => exact (lowers_iff quiet).mp (wirable.lowers origin op here)
  procures other sourceless := by
    have different : other ≠ name := fun same => feedable.not_sourceless (same ▸ sourceless)
    exact embeds_fed.procures.mpr <| wirable.procures other <|
      ((mirrors_fed (feedable.apart different)).sourceless_iff embeds_fed (feedable.rereads other)).mp sourceless
  receives place other fetches := by
    by_cases same : other = name
    · exact same ▸ feedable.receives_fed place (same ▸ fetches)
    · obtain ⟨origin, rfl, read⟩ := feedable.rereads other fetches.reads
      obtain ⟨op, there⟩ := read.exists_operator
      exact ((mirrors_fed (feedable.apart same)).receives_iff embeds_fed there).mpr (wirable.receives origin other)
        fetches
  refills place other feeds sole := by
    cases place with
    | zero =>
      -- What was loaded while the reads were bound is loaded when the boundary layers give way.
      obtain ⟨_, here, written⟩ := feeds.writes
      cases here
      cases feedable.writes.symm.trans written
      exact embeds_fed.refills.mpr ((feedable.procures_iff quiet).mp (wirable.procures name feedable.sourceless))
    | succ origin =>
      have wrote : context.block.Writes origin other := feeds.writes
      obtain ⟨op, there⟩ := wrote.exists_operator
      exact embeds_fed.refills.mpr (wirable.refills origin other ((embeds_fed.feeds_iff there).mp feeds)
        (((feedable.mirrors_written wrote).sole_iff embeds_fed).mp sole))
  handsOver place other source writes unread exit := by
    cases place with
    | zero =>
      obtain ⟨_, here, written⟩ := writes
      cases here
      cases feedable.writes.symm.trans written
      exact absurd unread feedable.not_unread
    | succ origin =>
      have wrote : context.block.Writes origin other := writes
      obtain ⟨op, there⟩ := wrote.exists_operator
      rw [embeds_fed.exitOf there] at exit
      exact embeds_fed.handsOver.mpr (wirable.handsOver origin other source wrote
        ((feedable.unread_iff wrote).mp unread)
        ((embeds_fed.stands_iff there fun _ => feedable.mirrors_written).mp exit))

/-- The block can be wired if it can with the feed. -/
theorem wirable_of_fed (wirable : (context.fed feed).Wirable threshold) : context.Wirable threshold where
  lowers place op here := by
    have lowers := wirable.lowers (place + 1) op here
    rwa [lowers_iff quiet, embeds_fed.lower, ← lowers_iff quiet] at lowers
  procures other sourceless := by
    by_cases same : other = name
    · subst same
      exact (feedable.procures_iff quiet).mpr <| embeds_fed.refills.mp <|
        wirable.refills 0 other ⟨feed, rfl, feedable.feeds, feedable.writes⟩ fun _ => feedable.sole
    · exact embeds_fed.procures.mp <| wirable.procures other <|
        (mirrors_fed (feedable.apart same)).sourceless embeds_fed sourceless
  receives place other fetches := by
    by_cases same : other = name
    · exact same ▸ feedable.receives place (same ▸ fetches)
    · obtain ⟨_, here⟩ := fetches.reads.exists_operator
      exact ((mirrors_fed (feedable.apart same)).receives_iff embeds_fed here).mp (wirable.receives (place + 1) other)
        fetches
  refills place other feeds sole := by
    obtain ⟨_, here⟩ := feeds.writes.exists_operator
    exact embeds_fed.refills.mp (wirable.refills (place + 1) other ((embeds_fed.feeds_iff here).mpr feeds)
      (((feedable.mirrors_written feeds.writes).sole_iff embeds_fed).mpr sole))
  handsOver place other source writes unread exit := by
    obtain ⟨_, here⟩ := writes.exists_operator
    refine embeds_fed.handsOver.mp (wirable.handsOver (place + 1) other source (embeds_fed.writes writes)
      ((feedable.unread_iff writes).mpr unread) ?_)
    rw [embeds_fed.exitOf here]
    exact (embeds_fed.stands_iff here fun _ => feedable.mirrors_written).mpr exit

end

theorem placeOf_zero {fragments : List Fragment} (lowered : (context.fed feed).block.operators.map (fun op =>
    op.lower (context.fed feed)) = fragments.map .ok) : (context.fed feed).placeOf (.layer 0 0) = 0 :=
  Layout.placeOf_layer lowered (feedable.layersOf_zero ▸ Nat.one_pos)

end Feedable

/-- A block resolves with a feed, before all other operators, for a variable that it only reads, exactly if it does
without (lines below the information level, which name variables and count operators, set aside). The graphs are
isomorphic: the feed is what is otherwise made up for the variable, a boundary layer of the declared shape or
a constant for the payload. -/
theorem isomorphic_fed (feedable : context.Feedable feed name shape) (threshold : Int) :
    (Severity.debug.number < threshold →
      ((∃ graph, (context.fed feed).resolve threshold = .ok graph) ↔ ∃ graph, context.resolve threshold = .ok graph)) ∧
    ∀ graph other, context.resolve threshold = .ok graph → (context.fed feed).resolve threshold = .ok other →
      ∃ image, graph.Isomorphic other image ∧ image (context.placeOf (.made name)) = 0 ∧
        ∃ layer, graph.bare[context.placeOf (.made name)]? = some layer ∧
          (context.tensors.contains name = .ok false ∧ layer = Layer.input shape ∨
            context.tensors.contains name = .ok true ∧ ∃ value, context.load name = .ok value ∧
              layer = Layer.constant value) := by
  constructor
  · intro quiet
    rw [resolves_iff, resolves_iff]
    exact ⟨feedable.wirable_of_fed quiet, feedable.wirable_fed quiet⟩
  · intro graph other resolved extended
    obtain ⟨before, source⟩ := settled_of_resolve resolved
    obtain ⟨after, target⟩ := settled_of_resolve extended
    have member := made_mem_sites.mpr feedable.sourceless
    obtain ⟨layer, here, stands⟩ := source.stands member
    refine ⟨_, source.isomorphic target feedable.corresponds, ?_, layer, here, ?_⟩
    · rw [relocate_placeOf member, fedSite_made, feedable.placeOf_zero target.assembled.lowered]
    · cases stands with
      | made _ substitute => exact feedable.substitute_iff.mp substitute

end Context

/-- An operator that feeds the second summand of the adder. -/
def feedsSummand : Operator := ⟨"feed", [], [("Out", ["w"])], []⟩

theorem feedable_summand : adder.Feedable feedsSummand "w" [2] where
  feeds := by decide
  writes := by decide
  declared := by decide
  known := by decide
  read := ⟨1, 1, _, rfl, by decide⟩
  unwritten writer := by
    rw [← Block.mem_writersOf]
    have nobody : adder.block.writersOf "w" = [] := by decide
    rw [nobody]
    exact List.not_mem_nil
  stored declaration found persistable := by
    have transient : declaration = { name := "w", shape := [2] } := (Except.ok.inj found).symm
    rw [transient] at persistable
    cases persistable

theorem isomorphic_fed_adder : adder.Feedable feedsSummand "w" [2] ∧ ∃ other image,
    (adder.fed feedsSummand).resolve = .ok other ∧ adderGraph.Isomorphic other image ∧
      image (adder.placeOf (.made "w")) = 0 := by
  obtain ⟨both, isomorphic⟩ := Context.isomorphic_fed feedable_summand 20
  obtain ⟨other, extended⟩ := (both (by decide)).mpr ⟨adderGraph, resolve_adder⟩
  obtain ⟨image, same, first, _⟩ := isomorphic adderGraph other resolve_adder extended
  exact ⟨feedable_summand, other, image, extended, same, first⟩

end LayerGraph
