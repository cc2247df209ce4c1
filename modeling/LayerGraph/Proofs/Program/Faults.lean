import LayerGraph.Program.Store
import LayerGraph.Proofs.Journal.Script
import LayerGraph.Proofs.Validation.Faults

/-! The faults of reading a stored program.

A document that is refused is a conversion error. What remains is a path that no file system takes, a
file name that is quoted as markup, and a value that names no place in a list of blocks.
-/

set_option autoImplicit false

namespace LayerGraph

open Attempt Run

/-- The faults of asking for a block: a value that is no place, or one that is missing and cannot be
shown. -/
def Program.BlockHazard (program : Program) (index : Json) (fault : Fault) : Prop :=
  Json.PlaceHazard program.blocks.length index fault ∨
    ∃ place, index.placeAmong program.blocks.length = .ok place ∧
      (place.bind fun place => program.blocks[place]?) = none ∧ index.TextHazard fault

theorem Program.faults_block (program : Program) (index : Json) :
    (program.block index).Faults (program.BlockHazard index) := by
  unfold Program.block
  refine (Json.faults_placeAmong _ index).bind fun place _ => ?_
  cases place.bind fun place => program.blocks[place]? with
  | some block => exact (faultless_ok block).congr fun fault => by simp
  | none =>
    refine ((Json.faults_text index).before fun text _ => faultless_fail _ _ _).congr fun fault => ?_
    simp

/-- A file that is found can be read. -/
theorem FileTree.read_of_isFile {tree : FileTree} {path : Path} (file : tree.isFile path = .ok true) :
    ∃ bytes, tree.read path = .ok bytes := by
  unfold isFile at file
  unfold read
  cases found : tree.find path with
  | ok entry =>
    cases entry with
    | file bytes => exact ⟨bytes, rfl⟩
    | directory => simp [found] at file
  | error defect => cases defect <;> simp [found] at file

namespace ProgramStore

/-- What is reported before a program is read. -/
def readingText (store : ProgramStore) : String :=
  "Reading program descriptor [var]" ++ store.path.name ++ "[/var]..."

/-- A program that is stored and can be read, the line about it included. -/
def Provides (store : ProgramStore) (threshold : Int) (program : Program) : Prop :=
  store.files.isFile store.path = .ok true ∧ Severity.info.Shows threshold store.readingText ∧
    ∃ bytes, store.files.read store.path = .ok bytes ∧ store.parse bytes = .ok program

/-- The faults of reading a block: of looking for the file, of the line about it, and of asking for the
block. -/
def ReadHazard (store : ProgramStore) (threshold : Int) (index : Json) (fault : Fault) : Prop :=
  ((∃ defect, store.files.isFile store.path = .error defect ∧ fault = .file defect store.path) ∨
      store.files.isFile store.path = .ok true ∧
        Severity.info.Breaks threshold store.readingText fault) ∨
    ∃ program, store.Provides threshold program ∧ program.BlockHazard index fault

section
variable {store : ProgramStore} {journal next : Journal}

theorem faultless_parse (bytes : Bytes) : (store.parse bytes).Faultless :=
  faultless_mapError fun _ => ⟨_, rfl⟩

theorem exists?_eq_ok {there : Bool} :
    store.exists? = .ok there ↔ store.files.isFile store.path = .ok there :=
  mapError_eq_ok

theorem faults_read : store.read.Faults journal fun fault =>
    (∃ defect, store.files.isFile store.path = .error defect ∧ fault = .file defect store.path) ∨
      store.files.isFile store.path = .ok true ∧
        Severity.info.Breaks journal.threshold store.readingText fault := by
  have looked : store.exists?.Faults fun fault =>
      ∃ defect, store.files.isFile store.path = .error defect ∧ fault = .file defect store.path :=
    faults_mapError _
  have reading : store.files.isFile store.path = .ok true → (do
      Journal.report .info store.readingText
      let bytes ← Run.ofAttempt <|
        (store.files.read store.path).mapError fun defect => .fault (.file defect store.path)
      Run.ofAttempt (store.parse bytes) : Run Journal Program).Faults journal
        (Severity.info.Breaks journal.threshold store.readingText) := by
    intro file
    obtain ⟨bytes, content⟩ := FileTree.read_of_isFile file
    rw [content]
    exact Journal.faults_report.before fun _ _ _ =>
      Run.Faults.before (faults_ofAttempt (faultless_ok bytes)) fun _ _ _ =>
        faults_ofAttempt (faultless_parse _)
  have choice : ∀ there, store.exists? = .ok there → (if there then do
        Journal.report .info store.readingText
        let bytes ← Run.ofAttempt <|
          (store.files.read store.path).mapError fun defect => .fault (.file defect store.path)
        Run.ofAttempt (store.parse bytes)
      else Run.ofAttempt (.fail (.program (.absent store.path))) : Run Journal Program).Faults journal
        fun fault => there = true ∧ Severity.info.Breaks journal.threshold store.readingText fault := by
    rintro (_ | _) found
    · exact (faults_ofAttempt (faultless_fail _ none none)).congr fun fault => by simp
    · exact (reading (exists?_eq_ok.mp found)).congr fun fault => by simp
  unfold read
  refine (faults_attempt looked choice).congr fun fault => ?_
  simp [exists?_eq_ok]

theorem yields_read {program : Program} : store.read.Yields journal program next ↔
    store.Provides journal.threshold program ∧ next = journal.enter .info store.readingText := by
  unfold read Provides readingText
  rw [yields_bind]
  constructor
  · rintro ⟨there, _, looked, rest⟩
    obtain ⟨found, rfl⟩ := yields_ofAttempt.mp looked
    cases there with
    | false => exact absurd (yields_ofAttempt.mp rest).1 fail_ne_ok
    | true =>
      obtain ⟨_, _, reported, rest⟩ := yields_bind.mp rest
      obtain ⟨shows, rfl⟩ := Journal.yields_report.mp reported
      obtain ⟨bytes, _, opened, rest⟩ := yields_bind.mp rest
      obtain ⟨content, rfl⟩ := yields_ofAttempt.mp opened
      obtain ⟨parsed, rfl⟩ := yields_ofAttempt.mp rest
      exact ⟨⟨exists?_eq_ok.mp found, shows, bytes, mapError_eq_ok.mp content, parsed⟩, rfl⟩
  · rintro ⟨⟨file, shows, bytes, content, parsed⟩, rfl⟩
    refine ⟨true, journal, yields_ofAttempt.mpr ⟨exists?_eq_ok.mpr file, rfl⟩, ?_⟩
    rw [if_pos rfl, content]
    refine yields_bind.mpr ⟨(), _, Journal.yields_report.mpr ⟨shows, rfl⟩, ?_⟩
    refine yields_bind.mpr ⟨bytes, _, yields_ofAttempt.mpr ⟨rfl, rfl⟩, ?_⟩
    exact yields_ofAttempt.mpr ⟨parsed, rfl⟩

theorem faults_readBlock (index : Json) : (store.readBlock index).Faults journal
    (store.ReadHazard journal.threshold index) := by
  unfold readBlock
  refine (faults_read.bind fun program state _ =>
    faults_ofAttempt (program.faults_block index)).congr fun fault => ?_
  simp [yields_read, ReadHazard]

theorem yields_readBlock {index : Json} {block : Block} : (store.readBlock index).Yields journal block next ↔
    ∃ program, store.Provides journal.threshold program ∧ program.block index = .ok block ∧
      next = journal.enter .info store.readingText := by
  unfold readBlock
  simp only [yields_bind, yields_read, yields_ofAttempt]
  constructor
  · rintro ⟨program, _, ⟨provided, rfl⟩, found, rfl⟩
    exact ⟨program, provided, found, rfl⟩
  · rintro ⟨program, provided, found, rfl⟩
    exact ⟨program, _, ⟨provided, rfl⟩, found, rfl⟩

end

end ProgramStore

end LayerGraph
