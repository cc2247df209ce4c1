import LayerGraph.Proofs.Graph.Border
import LayerGraph.Proofs.Wiring.Versions

/-! Suppliers, computed from the operators of a block.

The supplier of a read, the variables that have to be made up and the operators whose port is handed out
can all be listed from what operators read and write. The listed variables are those that the wiring makes up,
and the listed operators those whose ports it hands out, in the same order.
-/

set_option autoImplicit false

namespace LayerGraph

namespace Block

variable {block : Block} {reader writer : Nat} {name : String}

/-- The operators that write a variable, in order. -/
def writersOf (block : Block) (name : String) : List Nat :=
  (block.operators.zipIdx.filter fun entry => entry.1.write? = some name).map Prod.snd

/-- Whether a reader takes a variable from one of its writers: nobody writes it between the two, and nobody before
a reader that takes it from behind. -/
def takesFrom (block : Block) (name : String) (reader writer : Nat) : Bool :=
  if writer < reader then (block.writersOf name).all fun other => other ≤ writer || reader ≤ other
  else writer ≠ reader && (block.writersOf name).all fun other => other = reader || writer ≤ other

/-- What the operators read, in order and by slot, with the operators. -/
def readings (block : Block) : List (String × Nat) :=
  block.operators.zipIdx.flatMap fun (op, reader) => op.reads.map fun name => (name, reader)

/-- Nobody but the reader writes what it reads. -/
def lacksSource (block : Block) (reading : String × Nat) : Bool :=
  (block.writersOf reading.1).all (· = reading.2)

/-- The variables that are read and that no operator but the reader writes, by first such read. -/
def sourceless (block : Block) : List String := ((block.readings.filter block.lacksSource).map Prod.fst).eraseDups

/-- No read takes a variable from an operator. -/
def Unread (block : Block) (writer : Nat) (name : String) : Prop :=
  ∀ reader slot, block.Reads reader slot name → ¬ block.Supplier reader name (some writer)

/-- The operators that write a variable which no read takes from them, in order. -/
def loose (block : Block) : List Nat :=
  (block.operators.zipIdx.filter fun (op, writer) => op.write?.any fun name =>
    !(block.readings.any fun (read, reader) => read = name && block.takesFrom name reader writer)).map Prod.snd

theorem mem_writersOf : writer ∈ block.writersOf name ↔ block.Writes writer name := by
  simp only [writersOf, List.mem_map, List.mem_filter, Prod.exists, List.mem_zipIdx_iff_getElem?,
    decide_eq_true_eq, exists_eq_right, Writes]

theorem mem_readings : (name, reader) ∈ block.readings ↔ ∃ slot, block.Reads reader slot name := by
  simp only [readings, List.mem_flatMap, Prod.exists, List.mem_zipIdx_iff_getElem?, List.mem_map, Prod.mk.injEq,
    Reads]
  constructor
  · rintro ⟨op, number, here, other, read, rfl, rfl⟩
    obtain ⟨slot, there⟩ := List.mem_iff_getElem?.mp read
    exact ⟨slot, op, here, there⟩
  · rintro ⟨slot, op, here, there⟩
    exact ⟨op, reader, here, name, List.mem_of_getElem? there, rfl, rfl⟩

theorem Supplier.writes (supplies : block.Supplier reader name (some writer)) : block.Writes writer name := by
  cases supplies <;> assumption

theorem takesFrom_iff (writes : block.Writes writer name) :
    block.takesFrom name reader writer = true ↔ block.Supplier reader name (some writer) := by
  unfold takesFrom
  split
  · next before =>
    simp only [List.all_eq_true, mem_writersOf, Bool.or_eq_true, decide_eq_true_eq]
    constructor
    · intro apart
      exact .earlier writer before writes fun other after early written => by
        have := apart other written
        omega
    · rintro (⟨_, _, _, last⟩ | ⟨_, _, after, _, _⟩) other written
      · by_contra between
        exact last other (by omega) (by omega) written
      · omega
  · next late =>
    simp only [Bool.and_eq_true, decide_eq_true_eq, List.all_eq_true, mem_writersOf, Bool.or_eq_true]
    constructor
    · rintro ⟨different, apart⟩
      refine .later writer (fun other early written => ?_) (by omega) writes fun other after before written => ?_
      · have := apart other written
        omega
      · have := apart other written
        omega
    · rintro (⟨_, before, _, _⟩ | ⟨_, unwritten, after, _, first⟩)
      · exact absurd before late
      · refine ⟨by omega, fun other written => ?_⟩
        by_contra between
        rcases Nat.lt_trichotomy other reader with early | rfl | behind
        · exact unwritten other early written
        · exact between (.inl rfl)
        · exact first other behind (by omega) written

theorem supplier_none_iff : block.Supplier reader name none ↔
    ∀ other, other ≠ reader → ¬ block.Writes other name := by
  constructor
  · rintro ⟨⟩
    assumption
  · exact .nobody

theorem lacksSource_iff : block.lacksSource (name, reader) = true ↔ block.Supplier reader name none := by
  simp only [lacksSource, List.all_eq_true, mem_writersOf, decide_eq_true_eq, supplier_none_iff]
  constructor
  · intro only other different writes
    exact different (only other writes)
  · intro only other writes
    exact Decidable.not_not.mp fun different => only other different writes

theorem mem_sourceless : name ∈ block.sourceless ↔
    ∃ reader slot, block.Reads reader slot name ∧ block.Supplier reader name none := by
  simp only [sourceless, List.mem_eraseDups, List.mem_map, List.mem_filter, Prod.exists, exists_and_right,
    exists_eq_right, mem_readings, lacksSource_iff]

theorem mem_loose : writer ∈ block.loose ↔ ∃ name, block.Writes writer name ∧ block.Unread writer name := by
  simp only [loose, List.mem_map, List.mem_filter, Prod.exists, List.mem_zipIdx_iff_getElem?, exists_eq_right,
    Option.any_eq_true, Bool.not_eq_true', List.any_eq_false, Bool.and_eq_true, decide_eq_true_eq, not_and,
    Prod.forall, mem_readings]
  constructor
  · rintro ⟨op, here, name, written, free⟩
    have writes : block.Writes writer name := ⟨op, here, written⟩
    exact ⟨name, writes, fun reader slot reads supplies =>
      free name reader ⟨slot, reads⟩ rfl ((takesFrom_iff writes).mpr supplies)⟩
  · rintro ⟨name, writes, free⟩
    obtain ⟨op, here, written⟩ := writes
    refine ⟨op, here, name, written, ?_⟩
    rintro _ reader ⟨slot, reads⟩ rfl takes
    exact free reader slot reads ((takesFrom_iff ⟨op, here, written⟩).mp takes)

theorem pairwise_loose (block : Block) : block.loose.Pairwise (· < ·) := pairwise_filter_zipIdx _ _

end Block

namespace Layout

theorem Placed.map_reads {context : Context} {kind : OperatorKind} {place : Placed} {reads : List String}
    {write : Option String} (form : place.fragment.Form context kind reads write) :
    place.reads.map Prod.snd = reads.map fun name => (name, place.reader) := by
  rw [Placed.reads, form.pending, Fragment.waiting, List.map_map, List.map_map]
  conv => rhs; rw [← List.zipIdx_map_fst 0 reads, List.map_map]
  rfl

variable {context : Context} {fragments : List Fragment}
  (lowered : context.block.operators.map (fun op => op.lower context) = fragments.map .ok)
include lowered

/-- The waiting ports are the reads of the operators, in order. -/
theorem map_reads : (reads fragments).map Prod.snd = context.block.readings := by
  have lengths := congrArg List.length lowered
  rw [List.length_map, List.length_map] at lengths
  have rows : (placed fragments).map (fun place => place.reads.map Prod.snd) =
      context.block.operators.zipIdx.map fun (op, reader) => op.reads.map fun name => (name, reader) := by
    apply List.ext_getElem
    · simp [placed, lengths]
    · intro number left right
      have present : number < fragments.length := by simpa [placed] using left
      obtain ⟨op, _, here, _, form⟩ := form_of_lowered lowered (List.getElem?_eq_getElem present)
      obtain ⟨_, same⟩ := List.getElem?_eq_some_iff.mp here
      simp only [placed, List.getElem_map, List.getElem_zipIdx, Nat.zero_add, same]
      exact Placed.map_reads form
  rw [reads, List.map_flatMap, List.flatMap_def, rows, ← List.flatMap_def]
  rfl

/-- The variables that the wiring makes up are the sourceless ones. -/
theorem made_eq (closed : Closed fragments) : made fragments = context.block.sourceless := by
  have missing : ∀ name reader, (writer? fragments name reader).isSome = !context.block.lacksSource (name, reader) := by
    intro name reader
    obtain ⟨supplier, supplies, found⟩ := exists_supplier lowered closed name reader
    rw [found, Option.isSome_map]
    cases supplier with
    | none => rw [Block.lacksSource_iff.mpr supplies]; rfl
    | some writer =>
      have sourced : ¬ context.block.lacksSource (name, reader) = true := by
        intro lacks
        cases supplies.unique (Block.lacksSource_iff.mp lacks)
      rw [Bool.eq_false_iff.mpr sourced]
      rfl
  have folded : ∀ entries : List (String × Nat),
      entries.foldl (fun made entry => note fragments made entry.1 entry.2) [] =
        ((entries.filter context.block.lacksSource).map Prod.fst).eraseDups := by
    intro entries
    -- The fold notes a variable when it is first read, so the list grows at the end.
    induction entries using List.reverseRecOn with
    | nil => rfl
    | append_singleton entries entry ih =>
      obtain ⟨name, reader⟩ := entry
      rw [List.foldl_append, ih, List.filter_append, List.map_append, List.eraseDups_append, List.foldl_cons,
        List.foldl_nil, note, missing]
      cases lacks : context.block.lacksSource (name, reader) with
      | false => simp [lacks]
      | true =>
        by_cases member : name ∈ (entries.filter context.block.lacksSource).map Prod.fst
        · have noted := List.mem_eraseDups.mpr member
          simp [lacks, List.removeAll, member, noted]
        · have new : name ∉ ((entries.filter context.block.lacksSource).map Prod.fst).eraseDups :=
            fun noted => member (List.mem_eraseDups.mp noted)
          simp [lacks, List.removeAll, member, new, List.eraseDups_cons]
  rw [Block.sourceless, ← map_reads lowered, ← folded, List.foldl_map]
  rfl

/-- A connection inside of an operator leaves a port that nobody is to read. -/
theorem unlinked_of_written {name : String} {writer : Nat} {source target : PortRef}
    (written : (name, (writer, source)) ∈ writes fragments) : (source, target) ∉ links fragments := by
  intro linked
  obtain ⟨_, rfl⟩ := (mem_writes_iff lowered).mp written
  obtain ⟨place, present, link, member, exits, _⟩ := mem_links.mp linked
  obtain ⟨here, start⟩ := mem_placed.mp present
  obtain ⟨_, _, _, _, form⟩ := form_of_lowered lowered here
  obtain ⟨_, _, _, layers, first, _⟩ := form.exists_pair member
  -- The layer of a link is followed by another one of its operator, and the layer of a written port is not.
  have next := offset_succ here
  rw [layers, List.length_cons, List.length_singleton] at next
  have node := congrArg PortRef.node exits
  rw [first] at node
  simp only [exit, PortRef.rebase, start] at node
  rcases Nat.lt_or_ge writer place.reader with before | after
  · have low : offset fragments (writer + 1) ≤ offset fragments place.reader := offset_mono before
    omega
  · have high : offset fragments (place.reader + 1) ≤ offset fragments (writer + 1) :=
      offset_mono (Nat.succ_le_succ after)
    omega

/-- A written port is unread exactly if no read takes the variable from the operator. -/
theorem mem_exposed (closed : Closed fragments) {name : String} {writer : Nat} {source : PortRef} :
    (name, (writer, source)) ∈ exposed fragments ↔
      context.block.Writes writer name ∧ context.block.Unread writer name ∧ source = exit fragments writer := by
  rw [exposed, unread, List.mem_filter, decide_eq_true_eq]
  constructor
  · rintro ⟨written, free⟩
    obtain ⟨writes, rfl⟩ := (mem_writes_iff lowered).mp written
    refine ⟨writes, fun reader slot reads supplies => free ?_, rfl⟩
    refine List.mem_map.mpr ⟨(exit fragments writer, entry fragments reader slot), List.mem_append_right _ ?_, rfl⟩
    refine List.mem_map.mpr ⟨_, (mem_reads_iff lowered).mpr ⟨slot, reads, rfl⟩, ?_⟩
    exact congrArg (·, _) (origin_of_supplier lowered closed supplies)
  · rintro ⟨writes, free, rfl⟩
    have written := (mem_writes_iff lowered).mpr ⟨writes, rfl⟩
    refine ⟨written, fun taken => ?_⟩
    obtain ⟨⟨source, target⟩, member, rfl⟩ := List.mem_map.mp taken
    rcases List.mem_append.mp member with linked | bound
    · exact unlinked_of_written lowered written linked
    · obtain ⟨⟨port, wanted, reader⟩, read, same⟩ := List.mem_map.mp bound
      obtain ⟨origin, rfl⟩ := Prod.mk.inj same
      obtain ⟨slot, reads, rfl⟩ := (mem_reads_iff lowered).mp read
      obtain ⟨supplier, supplies, _⟩ := exists_supplier lowered closed wanted reader
      rw [origin_of_supplier lowered closed supplies] at origin
      cases supplier with
      | none =>
        -- What is made up stands behind the layers of all operators, and a written port among them.
        have inside := (write_inside closed written).2.2
        have whole := offset_le fragments (writer + 1)
        have node := congrArg PortRef.node origin
        simp only [supplied, madeUp] at node
        omega
      | some other =>
        have alike := (mem_writes_iff lowered).mpr ⟨supplies.writes, origin.symm⟩
        obtain ⟨rfl, rfl⟩ := write_unique closed alike written
        exact free reader slot reads supplies

/-- The ports that the wiring hands out are those of the operators that write what no read takes from them. -/
theorem map_exposed (closed : Closed fragments) :
    (exposed fragments).map (fun entry => entry.2.1) = context.block.loose := by
  have ordered : ((exposed fragments).map fun entry => entry.2.1).Pairwise (· < ·) :=
    List.pairwise_map.mpr ((pairwise_writes closed).filter _)
  -- Both lists ascend, so they agree as soon as they have the same members.
  refine (List.sortedLT_iff_pairwise.mpr ordered).eq_of_mem_iff
    (List.sortedLT_iff_pairwise.mpr (Block.pairwise_loose _)) fun writer => ?_
  rw [Block.mem_loose, List.mem_map]
  constructor
  · rintro ⟨⟨name, writer, source⟩, member, rfl⟩
    obtain ⟨writes, free, _⟩ := (mem_exposed lowered closed).mp member
    exact ⟨name, writes, free⟩
  · rintro ⟨name, writes, free⟩
    exact ⟨(name, (writer, exit fragments writer)), (mem_exposed lowered closed).mpr ⟨writes, free, rfl⟩, rfl⟩

end Layout

end LayerGraph
