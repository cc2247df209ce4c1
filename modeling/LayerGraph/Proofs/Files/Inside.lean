import LayerGraph.Proofs.Files.Path
import Mathlib.Data.Fintype.EquivFin
import Mathlib.Data.List.Basic
import Mathlib.Data.List.Infix

/-! Paths inside of a directory.

Single and double dots are resolved by the text alone. A name leads into every directory that it is joined to if it is
relative and its double dots never outnumber the components before them. Every other name leads out of some directory.
-/

set_option autoImplicit false

namespace LayerGraph.Path

/-- One step of resolving: two dots drop the component before them. If it is a pair of dots itself they stay, and so they do
where there is none, unless the path begins at the top. -/
def normalStep (top : Bool) (parts : List String) (part : String) : List String :=
  if part = ".." ∧ (parts = [] → top = true) ∧ parts.getLast? ≠ some ".." then parts.dropLast else parts ++ [part]

/-- The components of a path after resolving. -/
def normal (path : Path) : List String := path.parts.foldl (normalStep (path.root ≠ "")) []

/-- A path leads to a directory, or into it. -/
def Inside (directory path : Path) : Prop :=
  path.root = directory.root ∧ ∃ rest, ".." ∉ rest ∧ path.normal = directory.normal ++ rest

/-- Pairs of dots never outnumber the components before them, of which there are `depth` more to begin with. -/
def Level (depth : Nat) (parts : List String) : Prop :=
  ∀ front, front <+: parts → 2 * front.count ".." ≤ depth + front.length

/-- A name that leads out of no directory. -/
def Bounded (name : String) : Prop := (ofText name).root = "" ∧ Level 0 (ofText name).parts

variable {top : Bool} {depth : Nat} {part : String} {parts start rest base : List String}

/-! ### Levels -/

theorem level_nil (depth : Nat) : Level depth [] := by
  intro front pre
  simp [List.prefix_nil.mp pre]

theorem level_cons_other (other : part ≠ "..") : Level depth (part :: parts) ↔ Level (depth + 1) parts := by
  constructor
  · intro level front pre
    have whole := level (part :: front) ((List.prefix_cons_inj part).mpr pre)
    rw [List.count_cons_of_ne other, List.length_cons] at whole
    omega
  · intro level front pre
    rcases List.prefix_cons_iff.mp pre with rfl | ⟨front, rfl, pre⟩
    · simp
    · have behind := level front ((List.prefix_cons_inj part).mp pre)
      rw [List.count_cons_of_ne other, List.length_cons]
      omega

theorem level_cons_dots : Level depth (".." :: parts) ↔ 0 < depth ∧ Level (depth - 1) parts := by
  constructor
  · intro level
    have one := level [".."] (by simp)
    simp only [List.count_singleton_self, List.length_singleton] at one
    refine ⟨by omega, fun front pre => ?_⟩
    have whole := level (".." :: front) ((List.prefix_cons_inj "..").mpr pre)
    rw [List.count_cons_self, List.length_cons] at whole
    omega
  · rintro ⟨some, level⟩ front pre
    rcases List.prefix_cons_iff.mp pre with rfl | ⟨front, rfl, pre⟩
    · simp
    · have behind := level front ((List.prefix_cons_inj "..").mp pre)
      rw [List.count_cons_self, List.length_cons]
      omega

/-! ### Steps -/

theorem normalStep_other (other : part ≠ "..") : normalStep top parts part = parts ++ [part] :=
  if_neg fun dots => other dots.1

/-- Two dots drop the last component if it is none of a base and no pair of dots. -/
theorem normalStep_dots (some : rest ≠ []) (clean : ".." ∉ rest) :
    normalStep top (base ++ rest) ".." = base ++ rest.dropLast := by
  have last : (base ++ rest).getLast? ≠ Option.some ".." := by
    rw [List.getLast?_append_of_ne_nil base some]
    exact fun same => clean (List.mem_of_getLast? same)
  have drops : ".." = ".." ∧ (base ++ rest = [] → top = true) ∧ (base ++ rest).getLast? ≠ Option.some ".." :=
    ⟨rfl, fun empty => absurd (List.append_eq_nil_iff.mp empty).2 some, last⟩
  rw [normalStep, if_pos drops, List.dropLast_append_of_ne_nil some]

theorem mem_normalStep {c : String} (member : c ∈ normalStep top parts part) : c ∈ parts ∨ c = part := by
  unfold normalStep at member
  split at member
  · exact .inl (List.mem_of_mem_dropLast member)
  · simpa using member

theorem mem_foldl_normalStep {c : String} (member : c ∈ parts.foldl (normalStep top) start) : c ∈ start ∨ c ∈ parts := by
  induction parts generalizing start with
  | nil => exact .inl member
  | cons part parts ih =>
    rcases ih member with before | behind
    · exact (mem_normalStep before).imp_right fun same => by simp [same]
    · exact .inr (List.mem_cons_of_mem _ behind)

/-- What is behind a base stays behind it on a level. -/
theorem foldl_of_level (clean : ".." ∉ rest) (level : Level rest.length parts) :
    ∃ last, ".." ∉ last ∧ parts.foldl (normalStep top) (base ++ rest) = base ++ last := by
  induction parts generalizing rest with
  | nil => exact ⟨rest, clean, rfl⟩
  | cons part parts ih =>
    rw [List.foldl_cons]
    by_cases dots : part = ".."
    · subst dots
      obtain ⟨some, level⟩ := level_cons_dots.mp level
      rw [normalStep_dots (List.ne_nil_of_length_pos some) clean]
      apply ih fun dots => clean (List.mem_of_mem_dropLast dots)
      rwa [List.length_dropLast]
    · rw [normalStep_other dots, List.append_assoc]
      apply ih
      · simpa [clean] using Ne.symm dots
      · simpa using (level_cons_other dots).mp level

/-- Off the level a base of one component is dropped, and does not come back if it is none of the others. -/
theorem notMem_foldl_of_unlevel {base : String} (fresh : base ∉ rest ++ parts) (named : base ≠ "..") (clean : ".." ∉ rest)
    (unlevel : ¬ Level rest.length parts) : base ∉ parts.foldl (normalStep true) ([base] ++ rest) := by
  induction parts generalizing rest with
  | nil => exact absurd (level_nil _) unlevel
  | cons part parts ih =>
    simp only [List.mem_append, List.mem_cons, not_or] at fresh
    obtain ⟨behind, other, later⟩ := fresh
    rw [List.foldl_cons]
    by_cases dots : part = ".."
    · subst dots
      by_cases empty : rest = []
      · -- Here the base is dropped.
        have dropped : normalStep true ([base] ++ rest) ".." = [] := by simp [normalStep, empty, named]
        rw [dropped]
        exact fun member => (mem_foldl_normalStep member).elim (by simp) later
      · rw [normalStep_dots empty clean]
        apply ih
        · simp only [List.mem_append, not_or]
          exact ⟨fun member => behind (List.mem_of_mem_dropLast member), later⟩
        · exact fun dots => clean (List.mem_of_mem_dropLast dots)
        · rw [level_cons_dots, not_and] at unlevel
          rw [List.length_dropLast]
          exact unlevel (List.length_pos_of_ne_nil empty)
    · rw [normalStep_other dots, List.append_assoc]
      apply ih
      · simp [behind, other, later]
      · simpa [clean] using Ne.symm dots
      · simpa using mt (level_cons_other dots).mpr unlevel

/-- Without pairs of dots before it a step from the top is one of resolving. -/
theorem normalStep_top (clean : ".." ∉ start) : normalStep true start part = resolveStep start part := by
  have last : start.getLast? ≠ some ".." := fun same => clean (List.mem_of_getLast? same)
  simp [normalStep, resolveStep, last]

theorem foldl_normalStep_top (clean : ".." ∉ start) :
    parts.foldl (normalStep true) start = parts.foldl resolveStep start := by
  induction parts generalizing start with
  | nil => rfl
  | cons part parts ih =>
    rw [List.foldl_cons, List.foldl_cons, normalStep_top clean]
    exact ih (straight_resolveStep clean)

/-- From the top a path is resolved without any pairs of dots that stay. -/
theorem normal_eq_resolve {path : Path} (absolute : path.root ≠ "") : path.normal = path.resolve.parts := by
  have top : decide (path.root ≠ "") = true := by simpa using absolute
  rw [normal, top]
  exact foldl_normalStep_top (by simp)

/-! ### Names -/

theorem join_relative {name : String} (directory : Path) (relative : (ofText name).root = "") :
    directory.join name = ⟨directory.root, directory.parts ++ (ofText name).parts⟩ := by
  rw [join, append, if_pos relative]

theorem normal_append (root : String) (front back : List String) : normal ⟨root, front ++ back⟩ =
    back.foldl (normalStep (root ≠ "")) (normal ⟨root, front⟩) :=
  List.foldl_append

theorem inside_of_bounded {name : String} (bounded : Bounded name) (directory : Path) :
    Inside directory (directory.join name) := by
  obtain ⟨relative, level⟩ := bounded
  have clean : ".." ∉ ([] : List String) := by simp
  obtain ⟨rest, clean, same⟩ := foldl_of_level clean level
  rw [join_relative directory relative]
  refine ⟨rfl, rest, clean, ?_⟩
  rw [normal_append]
  simpa using same

/-- The names that lead out of no directory are those that are relative and level. -/
theorem bounded_iff {name : String} : Bounded name ↔ ∀ directory, Inside directory (directory.join name) := by
  constructor
  · exact inside_of_bounded
  · intro inside
    have relative : (ofText name).root = "" := by
      by_contra absolute
      have alone : (⟨"", []⟩ : Path).join name = ofText name := if_neg absolute
      exact absolute (alone ▸ (inside ⟨"", []⟩).1)
    refine ⟨relative, ?_⟩
    by_contra unlevel
    -- A component that the name does not have is dropped for good.
    obtain ⟨base, fresh⟩ := Infinite.exists_notMem_finset (".." :: (ofText name).parts).toFinset
    simp only [List.mem_toFinset, List.mem_cons, not_or] at fresh
    have one : normal ⟨"/", [base]⟩ = [base] := normalStep_other fresh.1
    obtain ⟨_, rest, _, same⟩ := inside ⟨"/", [base]⟩
    rw [join_relative _ relative, normal_append, one] at same
    have dropped : base ∉ (ofText name).parts.foldl (normalStep true) ([base] ++ []) :=
      notMem_foldl_of_unlevel (by simpa using fresh.2) fresh.1 (by simp) unlevel
    have kept : base ∈ [base] ++ rest := List.mem_append_left _ List.mem_cons_self
    rw [← same] at kept
    exact dropped kept

end LayerGraph.Path
