import LayerGraph.Proofs.Text.Numerals
import LayerGraph.Proofs.Wiring.Renumbering
import LayerGraph.Proofs.Wiring.Success

/-! Independent operators commute.

Two neighbours of which neither reads what the other writes, and which write different variables, may be exchanged:
for every reader the latest writer before it, or the first one behind it, stays the same operator. So the block
resolves as before, to a graph whose nodes have other numbers only.
-/

set_option autoImplicit false

namespace LayerGraph

open Text

/-- Operators that share no variable that one of them writes, except for variables that an operator reads and writes
itself. -/
structure Operator.Independent (first second : Operator) : Prop where
  apart : ∀ name, first.write? = some name → name ∉ second.reads ∧ second.write? ≠ some name
  unread : ∀ name, second.write? = some name → name ∉ first.reads

theorem Operator.Independent.symm {first second : Operator} (independent : first.Independent second) :
    second.Independent first where
  apart name written := ⟨independent.unread name written, fun same => (independent.apart name same).2 written⟩
  unread name written := (independent.apart name written).1

/-- An exchange of neighbours keeps the order of all other pairs. -/
theorem swap_lt_swap_iff {place left right : Nat} (upward : ¬ (left = place ∧ right = place + 1))
    (downward : ¬ (left = place + 1 ∧ right = place)) :
    Equiv.swap place (place + 1) left < Equiv.swap place (place + 1) right ↔ left < right := by
  simp only [Equiv.swap_apply_def]
  split_ifs <;> omega

theorem getElem?_exchange {α : Type} (front back : List α) (first second : α) (place : Nat) :
    (front ++ second :: first :: back)[Equiv.swap front.length (front.length + 1) place]? =
      (front ++ first :: second :: back)[place]? := by
  rw [Equiv.swap_apply_def]
  split_ifs with here next
  · subst here
    simp
  · subst next
    simp
  · -- Places other than the two keep their items, on either side of them.
    rcases Nat.lt_or_ge place front.length with before | behind
    · rw [List.getElem?_append_left before, List.getElem?_append_left before]
    · obtain ⟨more, rfl⟩ : ∃ more, place = front.length + 2 + more := ⟨place - (front.length + 2), by omega⟩
      rw [List.getElem?_append_right (by omega), List.getElem?_append_right (by omega)]
      have later : front.length + 2 + more - front.length = more + 2 := by omega
      rw [later]
      rfl

section
variable {context : Context} {threshold : Int}

/-- The number of an operator in a line about it can be shown apart from the rest of the line. -/
theorem showsNumerals_loweredText (number : Nat) (op : Operator) (layer : Layer) :
    showsNumerals (Wiring.loweredText number op layer) = (showsNumerals ("Lowered #" ++ toString number) &&
      showsNumerals (op.tag ++ " into " ++ layer.text ++ " " ++ layer.body.paramsText)) := by
  have split : (Wiring.loweredText number op layer).toList = ("Lowered #" ++ toString number).toList ++
      ' ' :: (op.tag ++ " into " ++ layer.text ++ " " ++ layer.body.paramsText).toList := by
    simp [Wiring.loweredText]
  rw [showsNumerals, split, showsRuns_append_cons (by decide)]
  rfl

/-- An operator lowers under the number of any other one that lowers. -/
theorem Context.Lowers.renumber {number other : Nat} {op present : Operator}
    (lowers : context.Lowers threshold number op) (stands : context.Lowers threshold other present) :
    context.Lowers threshold other op := by
  obtain ⟨fragment, made, shown⟩ := lowers
  obtain ⟨rest, lowered, seen⟩ := stands
  -- Every operator becomes some layer, and the line about that one has shown the number.
  obtain ⟨_, _, form⟩ := Operator.form_of_lower lowered
  obtain ⟨first, _, _, layers, _, _⟩ := form.exists_first
  refine ⟨fragment, made, fun kept layer member => ?_⟩
  have here := seen kept first (layers ▸ List.mem_cons_self)
  have there := shown kept layer member
  rw [showsNumerals_loweredText, Bool.and_eq_true] at here there ⊢
  exact ⟨here.1, there.2⟩

end

namespace Context

section
variable {first second : Context} {number : Nat → Nat} (embeds : first.Embeds second number)
  (mirrors : ∀ name, first.Mirrors second number name)
  (covers : ∀ {place op}, second.block.operators[place]? = some op →
    ∃ origin, place = number origin ∧ first.block.operators[origin]? = some op)

include covers in
theorem rereads_of_covers (name : String) : first.Rereads second number name := by
  rintro reader slot ⟨op, here, read⟩
  obtain ⟨origin, rfl, there⟩ := covers here
  exact ⟨origin, rfl, op, there, read⟩

include embeds mirrors covers

theorem Embeds.renumber_mem_sites {site : Site} (member : site ∈ first.sites) :
    site.renumber number ∈ second.sites := by
  cases site with
  | layer reader index =>
    obtain ⟨op, here⟩ := exists_operator (Context.layer_mem_sites.mp member)
    exact (embeds.layer_mem_sites here).mpr member
  | made name => exact ((mirrors name).made_mem_sites embeds (rereads_of_covers covers name)).mpr member
  | handed writer =>
    obtain ⟨_, ⟨_, here, _⟩, _⟩ := Block.mem_loose.mp (Context.handed_mem_sites.mp member)
    exact (embeds.handed_mem_sites here fun name _ =>
      (mirrors name).unread_iff embeds (rereads_of_covers covers name)).mpr member

theorem Embeds.exists_renumber {site : Site} (member : site ∈ second.sites) :
    ∃ origin ∈ first.sites, origin.renumber number = site := by
  cases site with
  | layer reader index =>
    obtain ⟨op, here⟩ := exists_operator (Context.layer_mem_sites.mp member)
    obtain ⟨origin, rfl, there⟩ := covers here
    exact ⟨.layer origin index, (embeds.layer_mem_sites there).mp member, rfl⟩
  | made name =>
    exact ⟨.made name, ((mirrors name).made_mem_sites embeds (rereads_of_covers covers name)).mp member, rfl⟩
  | handed writer =>
    obtain ⟨_, ⟨_, here, _⟩, _⟩ := Block.mem_loose.mp (Context.handed_mem_sites.mp member)
    obtain ⟨origin, rfl, there⟩ := covers here
    exact ⟨.handed origin, (embeds.handed_mem_sites there fun name _ =>
      (mirrors name).unread_iff embeds (rereads_of_covers covers name)).mp member, rfl⟩

/-- Blocks of the same operators have corresponding sites when every variable is written alike. -/
theorem Embeds.corresponds : first.Corresponds second (Site.renumber number) where
  bijective := ⟨fun _ => embeds.renumber_mem_sites mirrors covers,
    (Site.injective_renumber embeds.injective).injOn, fun _ => embeds.exists_renumber mirrors covers⟩
  stands site layer member stands := by
    cases site with
    | layer reader index =>
      obtain ⟨op, here⟩ := exists_operator (Context.layer_mem_sites.mp member)
      exact (embeds.stands_iff here fun name _ => mirrors name).mpr stands
    | made name => exact (mirrors name).stands_made embeds stands
    | handed writer =>
      exact embeds.stands_handed stands (fun name _ => mirrors name) fun name _ unread =>
        ((mirrors name).unread_iff embeds (rereads_of_covers covers name)).mpr unread
  joins origin site slot joins := by
    cases joins with
    | link inside => exact embeds.joins_link inside
    | read reads supplies => exact (mirrors _).joins_read embeds reads supplies
    | handed writes unread =>
      exact embeds.joins_handed writes
        (((mirrors _).unread_iff embeds (rereads_of_covers covers _)).mpr unread)

/-- A block of the same operators can be wired when every variable is written alike. -/
theorem Embeds.wirable {threshold : Int} (wirable : first.Wirable threshold)
    (lowers : ∀ place op, second.block.operators[place]? = some op → second.Lowers threshold place op) :
    second.Wirable threshold where
  lowers := lowers
  procures name sourceless := embeds.procures.mpr (wirable.procures name
    (((mirrors name).sourceless_iff embeds (rereads_of_covers covers name)).mp sourceless))
  receives place name fetches := by
    obtain ⟨_, here⟩ := fetches.reads.exists_operator
    obtain ⟨origin, rfl, there⟩ := covers here
    exact ((mirrors name).receives_iff embeds there).mpr (wirable.receives origin name) fetches
  refills place name feeds sole := by
    obtain ⟨_, here⟩ := feeds.writes.exists_operator
    obtain ⟨origin, rfl, there⟩ := covers here
    exact embeds.refills.mpr (wirable.refills origin name ((embeds.feeds_iff there).mp feeds)
      (((mirrors name).sole_iff embeds).mp sole))
  handsOver place name source writes unread exit := by
    obtain ⟨origin, rfl, wrote⟩ := (mirrors name).writes writes
    obtain ⟨_, here⟩ := wrote.exists_operator
    rw [embeds.exitOf here] at exit
    exact embeds.handsOver.mpr (wirable.handsOver origin name source wrote
      (((mirrors name).unread_iff embeds (rereads_of_covers covers name)).mp unread)
      ((embeds.stands_iff here fun name _ => mirrors name).mp exit))

end

section
variable {context : Context} {front back : List Operator} {first second : Operator}

/-- The block with two neighbours exchanged. -/
def exchanged (context : Context) (front back : List Operator) (first second : Operator) : Context :=
  context.withOperators (front ++ second :: first :: back)

variable (ordered : context.block.operators = front ++ first :: second :: back)
include ordered

theorem exchanged_getElem? (place : Nat) :
    (context.exchanged front back first second).block.operators[Equiv.swap front.length (front.length + 1) place]? =
      context.block.operators[place]? := by
  rw [ordered]
  exact getElem?_exchange front back first second place

theorem embeds_exchanged : context.Embeds (context.exchanged front back first second)
    (Equiv.swap front.length (front.length + 1)) where
  setting := ⟨_, rfl⟩
  injective := Equiv.injective _
  kept here := (exchanged_getElem? ordered _).trans here

theorem covers_exchanged {place : Nat} {op : Operator}
    (here : (context.exchanged front back first second).block.operators[place]? = some op) :
    ∃ origin, place = Equiv.swap front.length (front.length + 1) origin ∧
      context.block.operators[origin]? = some op := by
  refine ⟨Equiv.swap front.length (front.length + 1) place, (Equiv.swap_apply_self _ _ _).symm, ?_⟩
  rw [← exchanged_getElem? ordered, Equiv.swap_apply_self, here]

/-- The exchange of independent neighbours keeps every variable's readers and writers in order. -/
theorem mirrors_exchanged (independent : first.Independent second) (name : String) :
    context.Mirrors (context.exchanged front back first second) (Equiv.swap front.length (front.length + 1)) name where
  writes := by
    rintro writer ⟨op, here, written⟩
    obtain ⟨origin, rfl, there⟩ := covers_exchanged ordered here
    exact ⟨origin, rfl, op, there, written⟩
  order := by
    intro user writer uses writes
    have left : ∀ {op : Operator}, context.block.operators[front.length]? = some op → first = op := by
      intro op here
      simpa [ordered] using here
    have right : ∀ {op : Operator}, context.block.operators[front.length + 1]? = some op → second = op := by
      intro op here
      simpa [ordered] using here
    obtain ⟨op, here, written⟩ := writes
    -- The two neighbours are the only pair that changes sides, and neither uses what the other writes.
    have upward : ¬ (user = front.length ∧ writer = front.length + 1) := by
      rintro ⟨rfl, rfl⟩
      cases right here
      rcases uses with ⟨slot, _, there, read⟩ | ⟨_, there, wrote⟩
      · cases left there
        exact independent.unread name written (List.mem_of_getElem? read)
      · cases left there
        exact (independent.apart name wrote).2 written
    have downward : ¬ (user = front.length + 1 ∧ writer = front.length) := by
      rintro ⟨rfl, rfl⟩
      cases left here
      rcases uses with ⟨slot, _, there, read⟩ | ⟨_, there, wrote⟩
      · cases right there
        exact (independent.apart name written).1 (List.mem_of_getElem? read)
      · cases right there
        exact (independent.apart name written).2 wrote
    exact ⟨swap_lt_swap_iff upward downward,
      swap_lt_swap_iff (fun same => downward same.symm) fun same => upward same.symm⟩

/-- The block with independent neighbours exchanged can be wired if the block can. -/
theorem wirable_exchanged (independent : first.Independent second) {threshold : Int}
    (wirable : context.Wirable threshold) : (context.exchanged front back first second).Wirable threshold := by
  have embeds := embeds_exchanged ordered
  refine embeds.wirable (mirrors_exchanged ordered independent) (covers_exchanged ordered) wirable ?_
  intro place op here
  -- The operator lowers under its old number, and another operator does under its new one.
  have present : ∃ other, context.block.operators[place]? = some other := by
    have inside := (List.getElem?_eq_some_iff.mp here).1
    refine ⟨_, List.getElem?_eq_getElem (h := ?_)⟩
    simpa [exchanged, withOperators, ordered] using inside
  obtain ⟨other, stands⟩ := present
  obtain ⟨origin, _, there⟩ := covers_exchanged ordered here
  exact (wirable.lowers origin op there).renumber (wirable.lowers place other stands)

end

/-- A block in which two independent neighbours are exchanged resolves exactly if the block does, and to an isomorphic
graph. -/
theorem isomorphic_exchanged {context : Context} {front back : List Operator} {first second : Operator}
    (ordered : context.block.operators = front ++ first :: second :: back) (independent : first.Independent second)
    (threshold : Int) :
    ((∃ graph, (context.exchanged front back first second).resolve threshold = .ok graph) ↔
      ∃ graph, context.resolve threshold = .ok graph) ∧
    ∀ graph other, context.resolve threshold = .ok graph →
      (context.exchanged front back first second).resolve threshold = .ok other →
        ∃ image, graph.Isomorphic other image := by
  constructor
  · rw [resolves_iff, resolves_iff]
    constructor
    · intro wirable
      have again : (context.exchanged front back first second).exchanged front back second first = context := by
        change context.withOperators (front ++ first :: second :: back) = context
        rw [← ordered]
        rfl
      have reordered : (context.exchanged front back first second).block.operators = front ++ second :: first :: back :=
        rfl
      have restored := wirable_exchanged reordered independent.symm wirable
      rwa [again] at restored
    · exact wirable_exchanged ordered independent
  · intro graph other resolved exchanged
    obtain ⟨before, source⟩ := settled_of_resolve resolved
    obtain ⟨after, target⟩ := settled_of_resolve exchanged
    have corresponds := (embeds_exchanged ordered).corresponds (mirrors_exchanged ordered independent)
      (covers_exchanged ordered)
    exact ⟨_, source.isomorphic target corresponds⟩

end Context

/-- A rectifier of a variable that no neighbour uses. -/
def rectifies : Operator := ⟨"relu", [("X", ["x"])], [("Out", ["y"])], []⟩

/-- A normalizer that works in place. -/
def normalizes : Operator := ⟨"softmax", [("X", ["z"])], [("Out", ["z"])], []⟩

/-- A sum of two variables that are worked out apart from each other. -/
def sums : Operator := ⟨"elementwise_add", [("X", ["y"]), ("Y", ["z"])], [("Out", ["s"])], []⟩

/-- A block whose first two operators are independent. -/
def fork : Context where
  block := {
    declarations := [{ name := "x", shape := [-1, 2] }, { name := "y", shape := [-1, 2] },
      { name := "z", shape := [2] }]
    operators := [rectifies, normalizes, sums] }
  tensors := { files := FileTree.empty, directory := ⟨"/", []⟩ }

/-- The three layers of the fork, the two boundary layers made up and the one for the sum. -/
def forkGraph : Graph where
  nodes := [
    ⟨.relu, [⟨"input", [-1, 2], some ⟨3, 0⟩⟩], [⟨"output", [-1, 2], [⟨2, 0⟩]⟩]⟩,
    ⟨.softmax (-1), [⟨"input", [2], some ⟨4, 0⟩⟩], [⟨"output", [2], [⟨2, 1⟩]⟩]⟩,
    ⟨.add (-1), [⟨"a", [-1, 2], some ⟨0, 0⟩⟩, ⟨"b", [2], some ⟨1, 0⟩⟩], [⟨"output", [-1, 2], [⟨5, 0⟩]⟩]⟩,
    ⟨.input, [], [⟨"output", [-1, 2], [⟨0, 0⟩]⟩]⟩,
    ⟨.input, [], [⟨"output", [2], [⟨1, 0⟩]⟩]⟩,
    ⟨.output, [⟨"input", [-1, 2], some ⟨2, 0⟩⟩], []⟩]
  inputs := [3, 4]
  outputs := [5]

set_option maxRecDepth 8000 in
theorem resolve_fork : fork.resolve = .ok forkGraph := by cbv

theorem independent_rectifies : rectifies.Independent normalizes where
  apart := by
    intro name written
    obtain rfl : "y" = name := Option.some.inj ((by decide : rectifies.write? = some "y").symm.trans written)
    decide
  unread := by
    intro name written
    obtain rfl : "z" = name := Option.some.inj ((by decide : normalizes.write? = some "z").symm.trans written)
    decide

theorem isomorphic_exchanged_fork : fork.block.operators = [] ++ rectifies :: normalizes :: [sums] ∧
    rectifies.Independent normalizes ∧
    ∃ other image, (fork.exchanged [] [sums] rectifies normalizes).resolve = .ok other ∧
      forkGraph.Isomorphic other image := by
  have ordered : fork.block.operators = [] ++ rectifies :: normalizes :: [sums] := rfl
  obtain ⟨both, isomorphic⟩ := Context.isomorphic_exchanged ordered independent_rectifies 20
  obtain ⟨other, exchanged⟩ := both.mpr ⟨forkGraph, resolve_fork⟩
  obtain ⟨image, same⟩ := isomorphic forkGraph other resolve_fork exchanged
  exact ⟨ordered, independent_rectifies, other, image, exchanged, same⟩

end LayerGraph
