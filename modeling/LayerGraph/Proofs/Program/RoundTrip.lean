import LayerGraph.Proofs.Files.Path
import LayerGraph.Proofs.Journal.Script
import LayerGraph.Proofs.Json.RoundTrip
import LayerGraph.Proofs.Program.Faults
import LayerGraph.Proofs.Program.Kinds
import LayerGraph.Proofs.Text.Utf8

/-! Programs are read back from the files that hold their texts.

A program within the limits of stored documents is read from its text as it was, up to the kind of empty lists. Only the
line that the file is read, which quotes its name as markup, can stand in the way.
-/

set_option autoImplicit false

namespace LayerGraph

open Number

/-- Attributes with values that have kinds of their own. -/
def Operator.settled (op : Operator) : Operator :=
  { op with attributes := op.attributes.map fun (name, value) => (name, value.settled) }

def Block.settled (block : Block) : Block := { block with operators := block.operators.map Operator.settled }

def Program.settled (program : Program) : Program := { program with blocks := program.blocks.map Block.settled }

/-- Arguments and attributes under distinct names. -/
structure Operator.Keyed (op : Operator) : Prop where
  inputs : (op.inputs.map Prod.fst).Nodup
  outputs : (op.outputs.map Prod.fst).Nodup
  attributes : (op.attributes.map Prod.fst).Nodup

namespace Json

section
variable {α β : Type}

theorem plain_eq_ok {read : Json → Checked (α × Fit)} {document : Json} {value : α} {fit : Fit}
    (reads : read document = .ok (value, fit)) : plain read document = .ok value :=
  Attempt.map_eq_ok.mpr ⟨_, reads, rfl⟩

variable {read : Json → Checked α} {fields : List (String × Json)} {name : String} {document : Json} {value : α}

theorem required_eq_ok (present : last? name fields = some document) (reads : read document = .ok value) :
    required fields name read = .ok value := by
  unfold required
  rw [present]
  exact Checked.under_eq_ok.mpr reads

theorem defaulted_eq_ok {fallback : α} (present : last? name fields = some document)
    (reads : read document = .ok value) : defaulted fields name fallback read = .ok value := by
  unfold defaulted
  rw [present]
  exact Checked.under_eq_ok.mpr reads

variable (write : β → Json) (settle : β → α)

theorem readRecords_map {values : List β} (each : ∀ value ∈ values, read (write value) = .ok (settle value)) :
    readRecords read (.arr (values.map write)) = .ok (values.map settle) := by
  refine Checked.items_eq_ok.mpr ?_
  rw [List.map_map, List.map_map]
  exact List.map_congr_left each

theorem readMapping_map {entries : List (String × β)} (distinct : (entries.map Prod.fst).Nodup)
    (each : ∀ entry ∈ entries, read (write entry.2) = .ok (settle entry.2)) :
    readMapping read (.obj (entries.map fun (key, value) => (key, write value))) =
      .ok (entries.map fun (key, value) => (key, settle value)) := by
  have keys : ((entries.map fun (key, value) => (key, settle value)).map Prod.fst).Nodup := by rwa [List.map_map]
  refine Attempt.map_eq_ok.mpr ⟨entries.map fun (key, value) => (key, settle value), Checked.all_eq_ok.mpr ?_,
    Keyed.distinct_of_nodup keys⟩
  rw [List.map_map, List.map_map]
  refine List.map_congr_left fun entry member => ?_
  exact Attempt.map_eq_ok.mpr ⟨_, Checked.under_eq_ok.mpr (each entry member), rfl⟩

end

theorem readIntegers_map (ns : List Int) : readIntegers (.arr (ns.map .int)) = .ok ns := by
  have read := readRecords_map .int id fun (n : Int) (_ : n ∈ ns) =>
    plain_eq_ok (readInt_exact.mpr rfl)
  rwa [List.map_id] at read

theorem readNames_map (names : List String) : readNames (.arr (names.map .str)) = .ok names := by
  refine plain_eq_ok (readList_exact.mpr ⟨_, rfl, ?_⟩)
  rw [List.map_map]
  rfl

end Json

section
open Json

theorem Variable.ofJson_toJson (v : Variable) : Variable.ofJson v.toJson = .ok v := by
  refine Attempt.map_eq_ok.mpr ⟨(v.name, v.shape, v.dtype, v.persistable), ?_, rfl⟩
  refine Checked.both_eq_ok.mpr ⟨required_eq_ok rfl (plain_eq_ok (readText_exact.mpr rfl)), ?_⟩
  refine Checked.both_eq_ok.mpr ⟨defaulted_eq_ok rfl (readIntegers_map _), ?_⟩
  exact Checked.both_eq_ok.mpr ⟨defaulted_eq_ok rfl (plain_eq_ok (readText_exact.mpr rfl)),
    defaulted_eq_ok rfl (plain_eq_ok (readBool_exact.mpr rfl))⟩

theorem readMapping_arguments {arguments : List (String × List String)} (distinct : (arguments.map Prod.fst).Nodup) :
    readMapping readNames (argumentsJson arguments) = .ok arguments := by
  have read := readMapping_map (fun names => .arr (names.map .str)) id distinct fun entry _ => readNames_map entry.2
  exact read.trans (congrArg Except.ok (List.map_id arguments))

theorem Operator.ofJson_toJson {op : Operator} (keyed : op.Keyed) : Operator.ofJson op.toJson = .ok op.settled := by
  refine Attempt.map_eq_ok.mpr ⟨(op.tag, op.inputs, op.outputs, op.settled.attributes), ?_, rfl⟩
  refine Checked.both_eq_ok.mpr ⟨required_eq_ok rfl (plain_eq_ok (readText_exact.mpr rfl)), ?_⟩
  refine Checked.both_eq_ok.mpr ⟨defaulted_eq_ok rfl (readMapping_arguments keyed.inputs), ?_⟩
  refine Checked.both_eq_ok.mpr ⟨defaulted_eq_ok rfl (readMapping_arguments keyed.outputs), defaulted_eq_ok rfl ?_⟩
  exact readMapping_map AttrValue.toJson _ keyed.attributes fun entry _ => entry.2.ofJson_toJson

theorem Block.ofJson_toJson {block : Block} (keyed : ∀ op ∈ block.operators, op.Keyed) :
    Block.ofJson block.toJson = .ok block.settled := by
  refine Attempt.map_eq_ok.mpr ⟨(block.index, block.parent, block.declarations, block.settled.operators), ?_, rfl⟩
  refine Checked.both_eq_ok.mpr ⟨defaulted_eq_ok rfl (plain_eq_ok (readInt_exact.mpr rfl)), ?_⟩
  refine Checked.both_eq_ok.mpr ⟨defaulted_eq_ok rfl (plain_eq_ok (readInt_exact.mpr rfl)), ?_⟩
  refine Checked.both_eq_ok.mpr ⟨defaulted_eq_ok rfl ?_, defaulted_eq_ok rfl ?_⟩
  · have read := readRecords_map Variable.toJson id fun v (_ : v ∈ block.declarations) => v.ofJson_toJson
    rwa [List.map_id] at read
  · exact readRecords_map Operator.toJson _ fun op member => Operator.ofJson_toJson (keyed op member)

/-- A program is read back from its document. -/
theorem Program.ofJson_toJson {program : Program} (keyed : ∀ block ∈ program.blocks, ∀ op ∈ block.operators, op.Keyed) :
    Program.ofJson program.toJson = .ok program.settled := by
  refine Attempt.map_eq_ok.mpr ⟨(program.blocks.map Block.settled, program.version), ?_, rfl⟩
  refine Checked.both_eq_ok.mpr ⟨defaulted_eq_ok rfl ?_, defaulted_eq_ok rfl (plain_eq_ok (readInt_exact.mpr rfl))⟩
  exact readRecords_map Block.toJson _ fun block member => Block.ofJson_toJson (keyed block member)

end

/-- An integer of no more digits than a stored document may hold. -/
def Short (n : Int) : Prop := n.natAbs < 10 ^ documentLimits.digits

/-- Values that a stored document can hold. -/
def AttrValue.Storable : AttrValue → Prop
  | .bool _ | .str _ | .strs _ => True
  | .int n => Short n
  | .float x => x.isFinite = true
  | .ints ns => ∀ n ∈ ns, Short n
  | .floats xs => ∀ x ∈ xs, x.isFinite = true

structure Operator.Storable (op : Operator) : Prop where
  keyed : op.Keyed
  values : ∀ entry ∈ op.attributes, entry.2.Storable

structure Block.Storable (block : Block) : Prop where
  index : Short block.index
  parent : Short block.parent
  extents : ∀ v ∈ block.declarations, ∀ n ∈ v.shape, Short n
  operators : ∀ op ∈ block.operators, op.Storable

/-- Programs that a stored document can hold: integers are short, floating-point numbers finite and names distinct. -/
structure Program.Storable (program : Program) : Prop where
  version : Short program.version
  blocks : ∀ block ∈ program.blocks, block.Storable

namespace Json

variable {depth : Nat}

theorem Legible.arr_map {α : Type} {write : α → Json} {values : List α}
    (each : ∀ value ∈ values, Legible documentLimits depth (write value)) :
    Legible documentLimits (depth + 1) (.arr (values.map write)) :=
  .arr (List.forall_mem_map.mpr each)

theorem legible_integers {ns : List Int} (short : ∀ n ∈ ns, Short n) :
    Legible documentLimits (depth + 1) (.arr (ns.map .int)) :=
  .arr_map fun n member => .int (short n member)

theorem legible_names (names : List String) : Legible documentLimits (depth + 1) (.arr (names.map .str)) :=
  .arr_map fun name _ => .str name

theorem legible_value {value : AttrValue} (storable : value.Storable) :
    Legible documentLimits (depth + 1) value.toJson := by
  cases value with
  | bool b => exact .bool b
  | int n => exact .int storable
  | float x => exact .float storable
  | str s => exact .str s
  | ints ns => exact legible_integers storable
  | floats xs => exact .arr_map fun x member => .float (storable x member)
  | strs ss => exact legible_names ss

theorem legible_arguments (arguments : List (String × List String)) :
    Legible documentLimits (depth + 2) (argumentsJson arguments) :=
  .obj (List.forall_mem_map.mpr fun entry _ => legible_names entry.2)

theorem legible_variable {v : Variable} (short : ∀ n ∈ v.shape, Short n) :
    Legible documentLimits (depth + 2) v.toJson := by
  refine .obj ?_
  simp only [List.forall_mem_cons]
  exact ⟨.str _, legible_integers short, .str _, .bool _, nofun⟩

theorem legible_operator {op : Operator} (storable : op.Storable) : Legible documentLimits (depth + 3) op.toJson := by
  refine .obj ?_
  simp only [List.forall_mem_cons]
  refine ⟨.str _, legible_arguments _, legible_arguments _, .obj ?_, nofun⟩
  exact List.forall_mem_map.mpr fun entry member => legible_value (storable.values entry member)

theorem legible_block {block : Block} (storable : block.Storable) :
    Legible documentLimits (depth + 5) block.toJson := by
  refine .obj ?_
  simp only [List.forall_mem_cons]
  exact ⟨.int storable.index, .int storable.parent,
    .arr_map fun v member => legible_variable (storable.extents v member),
    .arr_map fun op member => legible_operator (storable.operators op member), nofun⟩

theorem legible_program (depth : Nat) {program : Program} (storable : program.Storable) :
    Legible documentLimits (depth + 7) program.toJson := by
  refine .obj ?_
  simp only [List.forall_mem_cons]
  exact ⟨.arr_map fun block member => legible_block (storable.blocks block member), .int storable.version, nofun⟩

end Json

/-- A program is read back from the bytes of its text. -/
theorem Program.ofBytes_render {program : Program} (storable : program.Storable) :
    Program.ofBytes (Text.encodeUtf8 program.render) = .ok program.settled := by
  have text : Json.textOf (Text.encodeUtf8 program.render) = program.render := by
    unfold Json.textOf
    rw [Text.decodeUtf8_encodeUtf8]
  have document : Json.ofBytes (Text.encodeUtf8 program.render) = .ok program.toJson := by
    unfold Json.ofBytes
    rw [text, Program.render, Json.read_render (by decide) (Json.legible_program 193 storable)]
  unfold Program.ofBytes
  rw [document]
  exact Program.ofJson_toJson fun block member op among => ((storable.blocks block member).operators op among).keyed

namespace ProgramStore

open Run

/-- Reading a file that holds the text of a program ends in the program, unless the line that the file is read cannot be
told. -/
theorem read_written {store : ProgramStore} {program : Program} (storable : program.Storable)
    (written : store.files.find store.path = .ok (.file (Text.encodeUtf8 program.render))) (journal : Journal) :
    (store.read.perform journal).1 =
      Line.tell journal.threshold ⟨.info, store.readingText, true⟩ >>= fun _ => .ok program.settled := by
  have there : store.exists? = .ok true := exists?_eq_ok.mpr (by rw [FileTree.isFile, written])
  have content : (store.files.read store.path).mapError (fun defect => Failure.fault (.file defect store.path)) =
      .ok (Text.encodeUtf8 program.render) := by
    unfold FileTree.read
    rw [written]
    rfl
  have parsed : store.parse (Text.encodeUtf8 program.render) = .ok program.settled :=
    Attempt.mapError_eq_ok.mpr (Program.ofBytes_render storable)
  have looked := Journal.follows_attempt (Except.ok true : Attempt Bool)
  have told := Journal.follows_report .info store.readingText
  have opened := Journal.follows_attempt (Except.ok (Text.encodeUtf8 program.render) : Attempt Bytes)
  have known : Follows Journal.alone (Run.ofAttempt (store.parse (Text.encodeUtf8 program.render))) ()
      ⟨[], .ok program.settled, ()⟩ := by
    rw [parsed]
    exact Journal.follows_attempt _
  have follows : Follows Journal.alone store.read ()
      ⟨[⟨.info, store.readingText, true⟩], .ok program.settled, ()⟩ := by
    unfold read
    rw [there, content]
    exact looked.bind (told.bind (opened.bind known))
  have ends := follows.ending journal
  rwa [Script.ending, Line.tellAll_singleton] at ends

/-- A directory at the top of a file system that holds the text of a program, and nothing else. -/
def holding (program : Program) : ProgramStore where
  files := ⟨[([defaultFilename], .file (Text.encodeUtf8 program.render))]⟩
  directory := ⟨"/", []⟩

theorem path_holding (program : Program) : (holding program).path = ⟨"/", [defaultFilename]⟩ :=
  show (Path.mk "/" []).join defaultFilename = _ from Path.join_bare _ (by decide) (by decide)

theorem readingText_holding (program : Program) :
    (holding program).readingText = "Reading program descriptor [var]" ++ defaultFilename ++ "[/var]..." := by
  unfold readingText
  rw [path_holding]
  rfl

theorem find_holding (program : Program) :
    (holding program).files.find (holding program).path = .ok (.file (Text.encodeUtf8 program.render)) := by
  have short : ¬255 < (Text.encodeUtf8 defaultFilename).length := by decide
  rw [path_holding, FileTree.find, if_neg (by decide), if_neg (by decide)]
  simp [holding, FileTree.walk, FileTree.get?, short, show defaultFilename ≠ ".." by decide, Except.map]

/-- A program with an attribute of every kind, and an empty list. -/
def everyKind : Program where
  blocks := [{
    declarations := [{ name := "x", shape := [-1, 2] }]
    operators := [{
      tag := "scale"
      inputs := [("X", ["x"])]
      attributes := [("a", .bool true), ("b", .int (-7)), ("c", .float (.ofDecimal false 1 (-1))), ("d", .str "1\n"),
        ("e", .ints [1]), ("f", .floats [.ofInt 1]), ("g", .strs ["1"]), ("h", .floats [])] }] }]

theorem storable_everyKind : everyKind.Storable := by
  have short {n : Int} (small : n.natAbs < 10) : Short n := small.trans_le (Nat.le_self_pow (by decide) 10)
  refine ⟨short (by decide), List.forall_mem_singleton.mpr ⟨short (by decide), short (by decide), ?_, ?_⟩⟩
  · exact List.forall_mem_singleton.mpr (List.forall_mem_cons.mpr
      ⟨short (by decide), List.forall_mem_singleton.mpr (short (by decide))⟩)
  · refine List.forall_mem_singleton.mpr ⟨⟨by decide, by decide, by decide⟩, ?_⟩
    simp only [List.forall_mem_cons]
    refine ⟨trivial, short (by decide), ?_, trivial, ?_, ?_, trivial, nofun, nofun⟩
    · exact show Binary64.isFinite _ = true by decide +kernel
    · exact List.forall_mem_singleton.mpr (short (by decide))
    · exact List.forall_mem_singleton.mpr (by decide +kernel)

theorem read_everyKind : everyKind.Storable ∧
    (holding everyKind).files.find (holding everyKind).path = .ok (.file (Text.encodeUtf8 everyKind.render)) ∧
    ((holding everyKind).read.perform {}).1 = .ok everyKind.settled := by
  have told : Line.tell 20 ⟨.info, "Reading program descriptor [var]" ++ defaultFilename ++ "[/var]...", true⟩ =
      .ok () := by decide +kernel
  have read := read_written storable_everyKind (find_holding everyKind) {}
  rw [readingText_holding, told] at read
  exact ⟨storable_everyKind, find_holding everyKind, read⟩

end ProgramStore

end LayerGraph
