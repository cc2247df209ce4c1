import LayerGraph.Proofs.Wiring.Versions

/-! A sequential reading of a block, and its agreement with the wiring.

The reading walks the operators once and keeps the port that each variable stands for. An operator
reads before it writes, and the first read of a variable that stands for nothing makes it up. A block
is ordered when no operator reads a variable whose only other writers come later; then the wiring,
which binds reads after all operators were lowered, is the same.
-/

set_option autoImplicit false

namespace LayerGraph

/-- No operator reads a variable whose only other writers come later. -/
def Block.Ordered (block : Block) : Prop :=
  ∀ reader slot name later, block.Reads reader slot name → reader < later → block.Writes later name →
    ∃ earlier, earlier < reader ∧ block.Writes earlier name

instance (block : Block) : Decidable block.Ordered :=
  decidable_of_iff (∀ reading ∈ block.operators.zipIdx, ∀ name ∈ reading.1.reads,
      ∀ later ∈ block.operators.zipIdx, reading.2 < later.2 → later.1.write? = some name →
        ∃ earlier ∈ block.operators.zipIdx, earlier.2 < reading.2 ∧ earlier.1.write? = some name) <| by
    simp only [Prod.forall, Prod.exists, List.mem_zipIdx_iff_getElem?]
    constructor
    · rintro all reader slot name later ⟨op, here, read⟩ less ⟨other, there, written⟩
      obtain ⟨first, earlier, present, before, writes⟩ :=
        all op reader here name (List.mem_of_getElem? read) other later there less written
      exact ⟨earlier, before, first, present, writes⟩
    · intro ordered op reader here name read other later there less written
      obtain ⟨slot, inside⟩ := List.mem_iff_getElem?.mp read
      obtain ⟨earlier, before, first, present, writes⟩ :=
        ordered reader slot name later ⟨op, here, inside⟩ less ⟨other, there, written⟩
      exact ⟨first, earlier, present, before, writes⟩

theorem ordered_rectifier : rectifier.block.Ordered := by decide

/-- What a sequential reading has seen: the ports that variables stand for, the variables made up and
the connections. -/
structure Walk where
  latest : List (String × PortRef) := []
  made : List String := []
  bound : List (PortRef × PortRef) := []

namespace Walk

/-- Read a variable at a port; layers made up follow a number of other layers. -/
def read (walk : Walk) (start : Nat) (target : PortRef) (name : String) : Walk :=
  match Keyed.get? name walk.latest with
  | some source => { walk with bound := walk.bound ++ [(source, target)] }
  | none =>
    { latest := Keyed.put name ⟨(start + walk.made.length : Nat), 0⟩ walk.latest
      made := walk.made ++ [name]
      bound := walk.bound ++ [(⟨(start + walk.made.length : Nat), 0⟩, target)] }

/-- Let a variable stand for a port. -/
def write (walk : Walk) (name : String) (source : PortRef) : Walk :=
  { walk with latest := Keyed.put name source walk.latest }

/-- An operator reads its variables by slot, then writes. -/
def operate (walk : Walk) (fragments : List Fragment) (op : Operator) (number : Nat) : Walk :=
  let seen := op.reads.zipIdx.foldl (fun walk (name, slot) =>
    walk.read (Layout.layers fragments).length (Layout.entry fragments number slot) name) walk
  match op.write? with
  | some name => seen.write name (Layout.exit fragments number)
  | none => seen

end Walk

/-- The sequential reading of a block, with the ports that its fragments have in the arena. -/
def Block.walk (block : Block) (fragments : List Fragment) : Walk :=
  block.operators.zipIdx.foldl (fun walk (op, number) => walk.operate fragments op number) {}

/-- A reading that has come to an operator and has made some reads agrees with the deferred one. -/
structure Walk.Follows (block : Block) (fragments : List Fragment) (number : Nat)
    (done : List (PortRef × (String × Nat))) (walk : Walk) : Prop where
  written : ∀ writer name, writer < number → block.Writes writer name →
    (∀ other, writer < other → other < number → ¬ block.Writes other name) →
      Keyed.get? name walk.latest = some (Layout.exit fragments writer)
  unwritten : ∀ name, (∀ other, other < number → ¬ block.Writes other name) →
    Keyed.get? name walk.latest =
      if name ∈ walk.made then some (Layout.madeUp fragments name) else none
  made : walk.made = Layout.supply fragments [] done
  bound : walk.bound = Layout.bindings fragments (Layout.made fragments) done

namespace Walk

theorem read_of_some {walk : Walk} {name : String} {source : PortRef}
    (known : Keyed.get? name walk.latest = some source) (start : Nat) (target : PortRef) :
    walk.read start target name = { walk with bound := walk.bound ++ [(source, target)] } := by
  unfold read
  rw [known]

theorem read_of_none {walk : Walk} {name : String} (unknown : Keyed.get? name walk.latest = none)
    (start : Nat) (target : PortRef) : walk.read start target name =
      { latest := Keyed.put name ⟨(start + walk.made.length : Nat), 0⟩ walk.latest
        made := walk.made ++ [name]
        bound := walk.bound ++ [(⟨(start + walk.made.length : Nat), 0⟩, target)] } := by
  unfold read
  rw [unknown]

theorem follows_start (block : Block) (fragments : List Fragment) :
    Follows block fragments 0 [] {} where
  written _ _ before := absurd before (Nat.not_lt_zero _)
  unwritten _ _ := rfl
  made := rfl
  bound := rfl

section
variable {block : Block} {fragments : List Fragment} {number : Nat} {walk : Walk} {name : String} {target : PortRef}
  {done : List (PortRef × (String × Nat))} (follows : walk.Follows block fragments number done)
include follows

theorem Follows.supply_snoc : Layout.supply fragments [] (done ++ [(target, (name, number))]) =
    Layout.note fragments walk.made name number := by
  rw [follows.made, Layout.supply_append]
  rfl

theorem Follows.bindings_snoc :
    Layout.bindings fragments (Layout.made fragments) (done ++ [(target, (name, number))]) =
      walk.bound ++ [(Layout.origin fragments (Layout.made fragments) name number, target)] := by
  rw [follows.bound, Layout.bindings, List.map_append]
  rfl

theorem Follows.madeUp_eq (absent : name ∉ walk.made)
    (noted : Layout.note fragments walk.made name number = walk.made ++ [name])
    (pre : done ++ [(target, (name, number))] <+: Layout.reads fragments) :
    Layout.madeUp fragments name = ⟨((Layout.layers fragments).length + walk.made.length : Nat), 0⟩ := by
  obtain ⟨rest, whole⟩ := pre
  -- What is made up so far is a prefix of all that is made up, so the next place is its own.
  have first : walk.made ++ [name] <+: Layout.made fragments := by
    rw [Layout.made, ← whole, Layout.supply_append, follows.supply_snoc, noted]
    exact Layout.prefix_supply _ rest
  obtain ⟨others, same⟩ := first
  rw [Layout.madeUp, ← same, List.append_assoc, List.idxOf_append_of_notMem absent, List.singleton_append,
    List.idxOf_cons_self]
  rfl

/-- A read of a variable that stands for its origin makes nothing up. -/
theorem Follows.takes
    (known : Keyed.get? name walk.latest = some (Layout.origin fragments (Layout.made fragments) name number))
    (noted : Layout.note fragments walk.made name number = walk.made) (start : Nat) :
    (walk.read start target name).Follows block fragments number (done ++ [(target, (name, number))]) := by
  rw [read_of_some known]
  exact ⟨follows.written, follows.unwritten, (follows.supply_snoc.trans noted).symm, follows.bindings_snoc.symm⟩

/-- A read of a variable that stands for nothing makes it up. -/
theorem Follows.makes (unwritten : ∀ other, other < number → ¬ block.Writes other name) (absent : name ∉ walk.made)
    (noted : Layout.note fragments walk.made name number = walk.made ++ [name])
    (pre : done ++ [(target, (name, number))] <+: Layout.reads fragments)
    (origin : Layout.origin fragments (Layout.made fragments) name number = Layout.madeUp fragments name) :
    (walk.read (Layout.layers fragments).length target name).Follows block fragments number
      (done ++ [(target, (name, number))]) := by
  have known := follows.unwritten name unwritten
  rw [if_neg absent] at known
  rw [read_of_none known, ← follows.madeUp_eq absent noted pre]
  refine ⟨fun writer other less writes last => ?_, fun other none => ?_, (follows.supply_snoc.trans noted).symm, ?_⟩
  · have different : name ≠ other := by
      rintro rfl
      exact unwritten writer less writes
    rw [Keyed.get?_put, if_neg different]
    exact follows.written writer other less writes last
  · rw [Keyed.get?_put]
    by_cases same : name = other
    · subst same
      rw [if_pos rfl, if_pos (by simp)]
    · rw [if_neg same, follows.unwritten other none]
      simp [Ne.symm same]
  · rw [follows.bindings_snoc, origin]

/-- A variable that an operator does not write stands for what it stood for before. -/
theorem Follows.kept (other : ¬ block.Writes number name) :
    (∀ writer, writer < number + 1 → block.Writes writer name →
      (∀ other, writer < other → other < number + 1 → ¬ block.Writes other name) →
        Keyed.get? name walk.latest = some (Layout.exit fragments writer)) ∧
    ((∀ other, other < number + 1 → ¬ block.Writes other name) → Keyed.get? name walk.latest =
      if name ∈ walk.made then some (Layout.madeUp fragments name) else none) := by
  refine ⟨fun writer less writes last => ?_, fun none => ?_⟩
  · have different : writer ≠ number := by
      rintro rfl
      exact other writes
    exact follows.written writer name (by omega) writes fun later after before => last later after (by omega)
  · exact follows.unwritten name fun earlier before => none earlier (by omega)

end

section
variable {context : Context} {fragments : List Fragment} {number : Nat} {walk : Walk}
  {done : List (PortRef × (String × Nat))}
  (lowered : context.block.operators.map (fun op => op.lower context) = fragments.map .ok)
  (closed : Layout.Closed fragments)
include lowered closed

/-- One read is bound alike. -/
theorem Follows.read {slot : Nat} {name : String} (follows : walk.Follows context.block fragments number done)
    (ordered : context.block.Ordered) (reads : context.block.Reads number slot name)
    (pre : done ++ [(Layout.entry fragments number slot, (name, number))] <+: Layout.reads fragments) :
    (walk.read (Layout.layers fragments).length (Layout.entry fragments number slot) name).Follows
      context.block fragments number (done ++ [(Layout.entry fragments number slot, (name, number))]) := by
  obtain ⟨supplier, supplies, found⟩ := Layout.exists_supplier lowered closed name number
  have origin := Layout.origin_of_supplier lowered closed supplies
  cases supplies with
  | earlier writer before writes last =>
    refine follows.takes ?_ (by simp [Layout.note, found]) _
    rw [origin]
    exact follows.written writer name before writes last
  | later writer unwritten after writes first =>
    -- A later writer would supply the read, which the order of the block excludes.
    obtain ⟨earlier, before, written⟩ := ordered number slot name writer reads after writes
    exact absurd written (unwritten earlier before)
  | nobody unwritten =>
    have before : ∀ other, other < number → ¬ context.block.Writes other name :=
      fun other less => unwritten other (Nat.ne_of_lt less)
    by_cases member : name ∈ walk.made
    · refine follows.takes ?_ (by simp [Layout.note, member]) _
      rw [origin, follows.unwritten name before, if_pos member]
      rfl
    · exact follows.makes before member (by simp [Layout.note, member, found]) pre origin

/-- The reads of one operator are bound alike. -/
theorem Follows.readAll {reads : List (String × Nat)}
    (follows : walk.Follows context.block fragments number done) (ordered : context.block.Ordered)
    (all : ∀ read ∈ reads, context.block.Reads number read.2 read.1)
    (pre : done ++ reads.map (fun (name, slot) => (Layout.entry fragments number slot, (name, number))) <+:
      Layout.reads fragments) :
    (reads.foldl (fun walk (name, slot) => walk.read (Layout.layers fragments).length
      (Layout.entry fragments number slot) name) walk).Follows context.block fragments number
        (done ++ reads.map fun (name, slot) => (Layout.entry fragments number slot, (name, number))) := by
  induction reads generalizing walk done with
  | nil => simpa using follows
  | cons read reads ih =>
    obtain ⟨name, slot⟩ := read
    rw [List.map_cons, ← List.singleton_append, ← List.append_assoc] at pre ⊢
    rw [List.foldl_cons]
    exact ih (follows.read lowered closed ordered (all _ List.mem_cons_self)
      ((List.prefix_append _ _).trans pre)) (fun other member => all other (List.mem_cons_of_mem _ member)) pre

omit lowered closed in
/-- The write of an operator comes after its reads. -/
theorem Follows.write {op : Operator} (follows : walk.Follows context.block fragments number done)
    (here : context.block.operators[number]? = some op) :
    (match op.write? with
      | some name => walk.write name (Layout.exit fragments number)
      | none => walk).Follows context.block fragments (number + 1) done := by
  have own : ∀ name, context.block.Writes number name ↔ op.write? = some name := by
    intro name
    constructor
    · rintro ⟨other, present, writes⟩
      cases here.symm.trans present
      exact writes
    · exact fun writes => ⟨op, here, writes⟩
  cases written : op.write? with
  | none =>
    have other : ∀ name, ¬ context.block.Writes number name := fun name => by simp [own, written]
    exact ⟨fun writer name => (follows.kept (other name)).1 writer, fun name => (follows.kept (other name)).2,
      follows.made, follows.bound⟩
  | some name =>
    refine ⟨fun writer other less writes last => ?_, fun other none => ?_, follows.made, follows.bound⟩
    · simp only [Walk.write, Keyed.get?_put]
      by_cases same : name = other
      · subst same
        have latest : writer = number := Decidable.byContradiction fun different =>
          last number (by omega) (by omega) ((own name).mpr written)
        rw [if_pos rfl, latest]
      · rw [if_neg same]
        exact (follows.kept (by simp [own, written, same])).1 writer less writes last
    · simp only [Walk.write, Keyed.get?_put]
      have different : name ≠ other := by
        rintro rfl
        exact none number (Nat.lt_succ_self _) ((own name).mpr written)
      rw [if_neg different]
      exact (follows.kept (by simp [own, written, different])).2 none

/-- After any number of operators the reading agrees with the deferred one. -/
theorem follows_take (ordered : context.block.Ordered) (number : Nat)
    (inside : number ≤ context.block.operators.length) :
    ((context.block.operators.zipIdx.take number).foldl (fun (walk : Walk) (op, number) =>
      walk.operate fragments op number) {}).Follows context.block fragments number
        (Layout.reads (fragments.take number)) := by
  induction number with
  | zero => exact follows_start context.block fragments
  | succ number ih =>
    have here : context.block.operators[number]? = some context.block.operators[number] :=
      List.getElem?_eq_getElem inside
    obtain ⟨fragment, _, present, _, form⟩ := Layout.fragment_of_lowered lowered here
    have bound := (List.getElem?_eq_some_iff.mp present).1
    have more : Layout.reads (fragments.take (number + 1)) = Layout.reads (fragments.take number) ++
        context.block.operators[number].reads.zipIdx.map fun (name, slot) =>
          (Layout.entry fragments number slot, (name, number)) := by
      rw [List.take_add_one, present, Option.toList_some, Layout.reads_concat, Layout.Placed.reads,
        form.pending, Fragment.waiting, List.map_map, List.length_take_of_le (Nat.le_of_lt bound)]
      congr 1
      apply List.map_congr_left
      rintro ⟨name, slot⟩ _
      simp [Layout.entry, Layout.offset, PortRef.rebase]
    have pre : Layout.reads (fragments.take (number + 1)) <+: Layout.reads fragments := by
      conv => rhs; rw [← List.take_append_drop (number + 1) fragments]
      exact Layout.prefix_reads _ _
    rw [more] at pre ⊢
    rw [List.take_add_one, List.getElem?_zipIdx, here, Option.map_some, Nat.zero_add, List.foldl_append]
    have reads := (ih (Nat.le_of_succ_le inside)).readAll lowered closed ordered (fun read member =>
      ⟨_, here, List.mem_zipIdx_iff_getElem?.mp member⟩) pre
    exact reads.write here

/-- The sequential reading makes up the same variables and makes the same connections. -/
theorem follows_walk (ordered : context.block.Ordered) :
    (context.block.walk fragments).made = Layout.made fragments ∧
      (context.block.walk fragments).bound =
        Layout.bindings fragments (Layout.made fragments) (Layout.reads fragments) := by
  have lengths := congrArg List.length lowered
  rw [List.length_map, List.length_map] at lengths
  have whole := follows_take lowered closed ordered _ (Nat.le_refl _)
  rw [← List.length_zipIdx, List.take_length, List.length_zipIdx, lengths, List.take_length] at whole
  exact ⟨whole.made, whole.bound⟩

end

end Walk

/-- The reads of a graph take the versions that their suppliers write. -/
structure Versioned (context : Context) (fragments : List Fragment) (graph : Graph) : Prop where
  lowered : context.block.operators.map (fun op => op.lower context) = fragments.map .ok
  placed : ∀ number index fragment layer, fragments[number]? = some fragment →
    fragment.layers[index]? = some layer →
      ∃ present, graph.bare[Layout.offset fragments number + index]? = some present ∧
        (present = layer ∨ ∃ shape value, layer = Layer.input shape ∧ present = Layer.constant value)
  supplier : ∀ reader name, ∃ supplier, context.block.Supplier reader name supplier
  source : ∀ reader slot name supplier, context.block.Reads reader slot name →
    context.block.Supplier reader name supplier →
      graph.sourceOf? (Layout.entry fragments reader slot) =
        some (Layout.supplied fragments name supplier)
  foreign : ∀ reader slot name source, context.block.Reads reader slot name →
    graph.sourceOf? (Layout.entry fragments reader slot) = some source →
      source.node < Layout.offset fragments reader ∨ Layout.offset fragments (reader + 1) ≤ source.node
  made : ∀ reader slot name, context.block.Reads reader slot name →
    context.block.Supplier reader name none → ∃ place layer, Layout.madeUp fragments name = ⟨(place : Nat), 0⟩ ∧
      (Layout.layers fragments).length ≤ place ∧ context.substitute name = .ok layer ∧
      graph.bare[place]? = some layer
  apart : ∀ name other, name ∈ Layout.made fragments → other ∈ Layout.made fragments →
    Layout.madeUp fragments name = Layout.madeUp fragments other → name = other

/-- The reads of a graph are bound as a sequential reading of the block binds them. -/
structure Sequential (context : Context) (fragments : List Fragment) (graph : Graph) : Prop where
  bound : ∀ source target, (source, target) ∈ (context.block.walk fragments).bound ↔
    (∃ reader slot name, context.block.Reads reader slot name ∧
      target = Layout.entry fragments reader slot) ∧ graph.sourceOf? target = some source
  made : ∀ (index : Nat) name, (context.block.walk fragments).made[index]? = some name →
    ∃ layer, context.substitute name = .ok layer ∧
      graph.bare[(Layout.layers fragments).length + index]? = some layer

section
variable {context : Context} {fragments : List Fragment} {graph : Graph}

theorem Assembled.versioned (assembled : Assembled context fragments graph) :
    Versioned context fragments graph where
  lowered := assembled.lowered
  placed _ _ _ _ here there := assembled.layer_of_operator here there
  supplier reader name := by
    obtain ⟨supplier, supplies, _⟩ :=
      Layout.exists_supplier assembled.lowered assembled.closed name reader
    exact ⟨supplier, supplies⟩
  source _ _ _ _ read supplies := assembled.source_of_read read supplies
  foreign _ _ _ _ read bound := assembled.source_foreign read bound
  made reader slot name read supplies := by
    have member := (Layout.mem_made assembled.lowered assembled.closed).mpr ⟨reader, slot, read, supplies⟩
    obtain ⟨layer, made, here⟩ := assembled.layer_of_made member
    exact ⟨_, layer, rfl, Nat.le_add_right _ _, made, here⟩
  apart name other first second same := by
    have places : (Layout.made fragments).idxOf name = (Layout.made fragments).idxOf other := by
      have nodes := congrArg PortRef.node same
      simp only [Layout.madeUp] at nodes
      omega
    exact (List.idxOf_inj first).mp places

theorem Assembled.sequential (assembled : Assembled context fragments graph)
    (ordered : context.block.Ordered) : Sequential context fragments graph := by
  obtain ⟨made, bound⟩ := Walk.follows_walk assembled.lowered assembled.closed ordered
  refine ⟨fun source target => ?_, fun index name here => ?_⟩
  · rw [bound]
    constructor
    · intro member
      refine ⟨?_, (assembled.edges source target).mpr
        (List.mem_append_left _ (List.mem_append_right _ member))⟩
      obtain ⟨⟨port, name, reader⟩, read, same⟩ := List.mem_map.mp member
      cases same
      obtain ⟨slot, reads, rfl⟩ := (Layout.mem_reads_iff assembled.lowered).mp read
      exact ⟨reader, slot, name, reads, rfl⟩
    · rintro ⟨⟨reader, slot, name, reads, rfl⟩, bound⟩
      have read := (Layout.mem_reads_iff assembled.lowered).mpr ⟨slot, reads, rfl⟩
      have binding : (Layout.origin fragments (Layout.made fragments) name reader,
          Layout.entry fragments reader slot) ∈ Layout.edges fragments :=
        List.mem_append_left _ (List.mem_append_right _ (List.mem_map.mpr ⟨_, read, rfl⟩))
      rw [(assembled.edges _ _).mpr binding, Option.some.injEq] at bound
      subst bound
      exact List.mem_map.mpr ⟨_, read, rfl⟩
  · rw [made] at here
    have member := List.mem_of_getElem? here
    obtain ⟨layer, substitute, there⟩ := assembled.layer_of_made member
    have unique : (Layout.made fragments).Nodup := Layout.nodup_supply List.nodup_nil _
    obtain ⟨inside, same⟩ := List.getElem?_eq_some_iff.mp here
    rw [← same, unique.idxOf_getElem index inside] at there
    exact ⟨layer, substitute, there⟩

/-- The graph that a block resolves to takes every read from its supplier, which for an ordered block
is what a sequential reading takes. -/
theorem versioned_of_resolve {threshold : Int} (resolved : context.resolve threshold = .ok graph) :
    ∃ fragments, Versioned context fragments graph ∧
      (context.block.Ordered → Sequential context fragments graph) := by
  obtain ⟨fragments, assembled⟩ := assembled_of_resolve resolved
  exact ⟨fragments, assembled.versioned, assembled.sequential⟩

end

/-- The rectifier in place is read from itself by nobody. -/
theorem versioned_rectifierGraph : ∃ fragments, Versioned rectifier fragments rectifierGraph ∧
    Sequential rectifier fragments rectifierGraph := by
  obtain ⟨fragments, versioned, sequential⟩ := versioned_of_resolve resolve_rectifier
  exact ⟨fragments, versioned, sequential ordered_rectifier⟩

end LayerGraph
