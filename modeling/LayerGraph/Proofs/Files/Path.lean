import LayerGraph.Files.Path
import Mathlib.Data.List.Basic
import Mathlib.Data.String.Basic

/-! Paths, the texts that name them, and the directories above them.

A text is cut at its slashes. What is left of it without empty components and single dots is a path that is written and read
back as it is. A path is followed by its ancestors, each of which is shorter than the one before, and none of which has
double dots once the path is resolved.
-/

set_option autoImplicit false

namespace LayerGraph

open String

theorem extract_word (front word back : List Char) :
    Pos.Raw.extract (ofList (front ++ word ++ back)) ⟨utf8Len front⟩ ⟨utf8Len (front ++ word)⟩ = ofList word := by
  rw [utf8Len_append]
  exact extract_of_valid front word back

/-- Cutting goes on at a character: `front` is cut, and `word` is what has been read since then. -/
theorem splitOnAux_slash (front word back : List Char) (cut : List String) :
    (ofList (front ++ word ++ back)).splitOnAux "/" ⟨utf8Len front⟩ ⟨utf8Len (front ++ word)⟩ 0 cut =
      cut.reverse ++ (List.splitOnPPrepend (· == '/') back word.reverse).map ofList := by
  induction back generalizing front word cut with
  | nil =>
    rw [String.splitOnAux, if_pos ((atEnd_of_valid _ _).mpr rfl), extract_word]
    simp
  | cons c back ih =>
    have slash : Pos.Raw.get "/" 0 = '/' := rfl
    have next : Pos.Raw.next (ofList (front ++ word ++ c :: back)) ⟨utf8Len (front ++ word)⟩ =
        ⟨utf8Len (front ++ word ++ [c])⟩ := by
      simpa [Nat.add_assoc] using next_of_valid (front ++ word) c back
    rw [String.splitOnAux, if_neg (mt (atEnd_of_valid _ _).mp (List.cons_ne_nil _ _)), get_of_valid, slash,
      List.splitOnPPrepend_cons_eq_if, List.headD_cons]
    split
    · -- A slash ends the word, and the next one begins behind it.
      next same =>
      obtain rfl := eq_of_beq same
      have rest := ih (front ++ word ++ ['/']) [] (ofList word :: cut)
      have whole : front ++ word ++ ['/'] ++ [] ++ back = front ++ word ++ '/' :: back := by simp
      have before : Pos.Raw.unoffsetBy ⟨utf8Len (front ++ word ++ ['/'])⟩ (Pos.Raw.next "/" 0) =
          ⟨utf8Len (front ++ word)⟩ := by
        have one : Pos.Raw.next "/" 0 = ⟨('/').utf8Size⟩ := rfl
        rw [one, utf8Len_append]
        simp [Pos.Raw.unoffsetBy]
      have ended : Pos.Raw.atEnd "/" (Pos.Raw.next "/" 0) = true := rfl
      rw [whole] at rest
      rw [next]
      dsimp only
      rw [if_pos ended, before, extract_word]
      simpa using rest
    · next other =>
      have rest := ih front (word ++ [c]) cut
      have whole : front ++ (word ++ [c]) ++ back = front ++ word ++ c :: back := by simp
      have stay : Pos.Raw.unoffsetBy ⟨utf8Len (front ++ word)⟩ 0 = ⟨utf8Len (front ++ word)⟩ := by
        simp [Pos.Raw.unoffsetBy]
      rw [whole, ← List.append_assoc, List.reverse_append] at rest
      rw [stay, next]
      exact rest

/-- A text is cut at its slashes. -/
theorem splitOn_slash (text : String) : text.splitOn "/" = (text.toList.splitOn '/').map ofList := by
  have whole := splitOnAux_slash [] [] text.toList []
  rw [List.nil_append, List.nil_append, String.ofList_toList] at whole
  rw [String.splitOn, if_neg (by decide)]
  exact whole

namespace Path

/-- A text without a slash is one component, unless it is empty or a single dot. -/
theorem ofText_bare {text : String} (bare : '/' ∉ text.toList) (named : text ≠ "" ∧ text ≠ ".") :
    ofText text = ⟨"", [text]⟩ := by
  have alone : text.splitOn "/" = [text] := by
    rw [splitOn_slash, List.splitOn_eq_singleton bare]
    simp
  have relative : (text.toList.takeWhile (· = '/')).length = 0 := by
    cases listed : text.toList with
    | nil => rfl
    | cons c rest =>
      have other : c ≠ '/' := fun same => bare (by rw [listed, same]; exact List.mem_cons_self)
      rw [List.takeWhile_cons_of_neg (by simpa using other)]
      rfl
  rw [ofText, alone, relative]
  simp [named]

theorem join_bare {text : String} (base : Path) (bare : '/' ∉ text.toList) (named : text ≠ "" ∧ text ≠ ".") :
    base.join text = ⟨base.root, base.parts ++ [text]⟩ := by
  rw [join, ofText_bare bare named]
  rfl

/-- A root and components as texts name them. -/
structure Plain (path : Path) : Prop where
  root : path.root = "" ∨ path.root = "/" ∨ path.root = "//"
  parts : ∀ part ∈ path.parts, part ≠ "" ∧ part ≠ "." ∧ '/' ∉ part.toList

theorem notMem_of_mem_splitOn {c : Char} {text word : List Char} (member : word ∈ text.splitOn c) : c ∉ word := by
  induction text generalizing word with
  | nil =>
    rw [List.splitOn_nil, List.mem_singleton] at member
    simp [member]
  | cons first text ih =>
    rw [List.splitOn_cons_eq_if_modifyHead] at member
    split at member
    · rcases List.mem_cons.mp member with rfl | later
      · simp
      · exact ih later
    · next other =>
      obtain ⟨head, words, cut⟩ := List.exists_cons_of_ne_nil (List.splitOn_ne_nil c text)
      rw [cut] at member ih
      rcases List.mem_cons.mp member with rfl | later
      · simpa [Ne.symm (ne_of_beq_false (Bool.eq_false_of_not_eq_true other))] using ih List.mem_cons_self
      · exact ih (List.mem_cons_of_mem _ later)

theorem plain_ofText (text : String) : (ofText text).Plain where
  root := by
    unfold ofText
    dsimp only
    split
    · exact .inl rfl
    · split
      · exact .inr (.inr rfl)
      · exact .inr (.inl rfl)
  parts part member := by
    simp only [ofText, splitOn_slash, List.mem_filter, List.mem_map, Bool.and_eq_true, decide_eq_true_eq] at member
    obtain ⟨⟨word, cut, rfl⟩, named, dots⟩ := member
    exact ⟨named, dots, by simpa using notMem_of_mem_splitOn cut⟩

/-- The components of a path with slashes between them. -/
def tail (path : Path) : List Char := ['/'].intercalate (path.parts.map String.toList)

theorem toList_text {path : Path} (named : ¬ (path.root = "" ∧ path.parts = [])) :
    path.text.toList = path.root.toList ++ path.tail := by
  have slash : "/".toList = ['/'] := rfl
  rw [text, if_neg named, String.toList_append, Text.join, String.toList_intercalate, slash, tail]

theorem splitOn_cons (text : List Char) : ('/' :: text).splitOn '/' = [] :: text.splitOn '/' := by
  rw [List.splitOn_cons_eq_if_modifyHead]
  exact if_pos (BEq.refl _)

namespace Plain

variable {path : Path} (plain : path.Plain)
include plain

/-- What the components are cut into is them, but for an empty component of none. -/
theorem components : ((path.tail.splitOn '/').map ofList).filter (fun part => part ≠ "" && part ≠ ".") = path.parts := by
  unfold tail
  by_cases none : path.parts = []
  · rw [none]
    rfl
  · have bare : ∀ word ∈ path.parts.map String.toList, '/' ∉ word := by
      simp only [List.mem_map, forall_exists_index, and_imp, forall_apply_eq_imp_iff₂]
      exact fun part member => (plain.parts part member).2.2
    rw [List.splitOn_intercalate '/' bare (by simpa using none), List.map_map]
    have back : path.parts.map (ofList ∘ String.toList) = path.parts := by simp [Function.comp_def]
    rw [back, List.filter_eq_self]
    intro part member
    simpa using ⟨(plain.parts part member).1, (plain.parts part member).2.1⟩

theorem takeWhile_tail : path.tail.takeWhile (· = '/') = [] := by
  unfold tail
  cases listed : path.parts with
  | nil => rfl
  | cons part parts =>
    obtain ⟨some, _, bare⟩ := plain.parts part (by rw [listed]; exact List.mem_cons_self)
    obtain ⟨c, rest, whole⟩ := List.exists_cons_of_ne_nil (l := part.toList) (by simpa using some)
    have other : c ≠ '/' := fun same => bare (by rw [whole, same]; exact List.mem_cons_self)
    cases parts <;> simp [whole, other]

/-- A path is read back from its text. -/
theorem ofText_text : ofText path.text = path := by
  by_cases none : path.root = "" ∧ path.parts = []
  · obtain ⟨root, parts⟩ := path
    obtain ⟨rfl, rfl⟩ := none
    -- Nothing is written as a dot, and a dot is read as nothing.
    change ofText "." = _
    rw [ofText, splitOn_slash]
    rfl
  · have slashes : (path.text.toList.takeWhile (· = '/')).length = path.root.toList.length := by
      rw [toList_text none]
      rcases plain.root with root | root | root <;> rw [root] <;> simp [plain.takeWhile_tail]
    have cut : ((path.text.splitOn "/").filter fun part => part ≠ "" && part ≠ ".") = path.parts := by
      rw [splitOn_slash, toList_text none]
      rcases plain.root with root | root | root <;> rw [root]
      · exact plain.components
      · have one : "/".toList ++ path.tail = '/' :: path.tail := rfl
        rw [one, splitOn_cons]
        simpa using plain.components
      · have two : "//".toList ++ path.tail = '/' :: '/' :: path.tail := rfl
        rw [two, splitOn_cons, splitOn_cons]
        simpa using plain.components
    unfold ofText
    rw [slashes, cut]
    obtain ⟨root, parts⟩ := path
    rcases plain.root with rfl | rfl | rfl <;> simp

end Plain

/-! ### Ancestors -/

section
variable {path place : Path} {front back : List Path}

/-- A step drops a component, or adds one that is no pair of dots. -/
theorem straight_resolveStep {parts : List String} {part : String} (straight : ".." ∉ parts) :
    ".." ∉ resolveStep parts part := by
  unfold resolveStep
  split
  · exact fun dots => straight (List.dropLast_subset _ dots)
  · next other => simpa [straight] using Ne.symm other

/-- Nearer ones are longer. -/
theorem pairwise_withAncestors (path : Path) :
    path.withAncestors.Pairwise fun nearer farther => farther.parts.length < nearer.parts.length := by
  rw [withAncestors, List.pairwise_map]
  refine List.pairwise_lt_range.imp_of_mem ?_
  intro n m _ bound less
  rw [List.mem_range] at bound
  simp only [List.length_take]
  omega

/-- What stands before one of them is nearer, and those nearer stand before it. -/
theorem nearer_iff (split : path.withAncestors = front ++ place :: back) {nearer : Path}
    (member : nearer ∈ path.withAncestors) : nearer ∈ front ↔ place.parts.length < nearer.parts.length := by
  have ordered := path.pairwise_withAncestors
  rw [split, List.pairwise_append, List.pairwise_cons] at ordered
  constructor
  · exact fun before => ordered.2.2 nearer before place List.mem_cons_self
  · intro longer
    rw [split, List.mem_append, List.mem_cons] at member
    rcases member with before | rfl | after
    · exact before
    · exact absurd longer (Nat.lt_irrefl _)
    · exact absurd (ordered.2.1.1 nearer after) (Nat.lt_asymm longer)

end

end Path

end LayerGraph
