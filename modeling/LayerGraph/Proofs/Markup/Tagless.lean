import LayerGraph.Markup.Basic
import Mathlib.Data.List.TakeWhile

/-! Markup without tags, and the markup of literal texts.

Only a tag can make markup unreadable. A text has none when no bracket in it opens one, or when a
backslash that is left over stands before each; that is what keeping a text literal comes to.
-/

set_option autoImplicit false

namespace LayerGraph.Markup

/-- The text behind the backslashes that it starts with. -/
def behindSlashes (text : List Char) : List Char := text.dropWhile (· = '\\')

/-- The bracket that a text comes to first. -/
def bracket? (text : List Char) : Option Char :=
  (text.dropWhile fun c => c != '[' && c != ']').head?

/-- What stands between the brackets of a tag. -/
def IsTag (tag : List Char) : Prop :=
  ∃ c body, tag = c :: body ∧ opensTag c = true ∧ ∀ d ∈ body, d ≠ '[' ∧ d ≠ ']'

/-- A text in which no tag opens or closes: every tag is escaped. -/
inductive Tagless : List Char → Prop where
  | nil : Tagless []
  | char (c : Char) (rest : List Char) (none : tagText? (behindSlashes (c :: rest)) = .none)
      (later : Tagless rest) : Tagless (c :: rest)
  | escaped (slashes : Nat) (tag after : List Char) (odd : slashes % 2 = 1)
      (isTag : IsTag tag) (later : Tagless after) :
      Tagless (List.replicate slashes '\\' ++ '[' :: tag ++ ']' :: after)

/-- A piece that is shown as it is. -/
def Piece.IsPlain : Piece → Prop
  | .plain _ => True
  | .tag .. => False

section
variable {text rest tag after : List Char} {c d : Char}

theorem drop_slashes (text : List Char) :
    text.drop (text.takeWhile (· = '\\')).length = behindSlashes text := by
  induction text with
  | nil => rfl
  | cons c rest ih =>
    unfold behindSlashes at ih ⊢
    by_cases slash : c = '\\' <;> simp [slash, ih]

@[simp] theorem behindSlashes_slash : behindSlashes ('\\' :: rest) = behindSlashes rest := rfl

theorem behindSlashes_cons (other : c ≠ '\\') : behindSlashes (c :: rest) = c :: rest := by
  simp [behindSlashes, other]

theorem behindSlashes_replicate (slashes : Nat) (text : List Char) :
    behindSlashes (List.replicate slashes '\\' ++ text) = behindSlashes text := by
  induction slashes with
  | zero => rfl
  | succ slashes ih => exact ih

theorem takeWhile_slashes (slashes : Nat) (text : List Char) :
    ((List.replicate slashes '\\' ++ '[' :: text).takeWhile (· = '\\')).length = slashes := by
  induction slashes with
  | zero => rfl
  | succ slashes ih => simp [List.replicate_succ]

theorem bracket?_cons : bracket? (c :: rest) = if c = '[' ∨ c = ']' then some c else bracket? rest := by
  unfold bracket?
  by_cases opening : c = '['
  · simp [opening]
  · by_cases closing : c = ']' <;> simp [opening, closing]

theorem tagText?_of_head (other : c ≠ '[') : tagText? (c :: rest) = none := by
  unfold tagText?
  split
  · next same => exact absurd (List.cons.inj same).1 other
  · rfl

theorem tagText?_bracket : tagText? ('[' :: c :: rest) = none ↔
    opensTag c = false ∨ bracket? rest ≠ some ']' := by
  simp only [tagText?, bracket?]
  generalize rest.dropWhile (fun c => c != '[' && c != ']') = behind
  cases opensTag c with
  | false => simp
  | true =>
    cases behind with
    | nil => simp
    | cons d behind =>
      by_cases closing : d = ']'
      · simp [closing]
      · simp [closing]

theorem tagText?_eq_some :
    tagText? text = some (tag, after) ↔ IsTag tag ∧ text = '[' :: tag ++ ']' :: after := by
  constructor
  · intro found
    unfold tagText? at found
    split at found
    · next c rest =>
      split at found
      · next opens =>
        split at found
        · next behind after' closed =>
          cases found
          refine ⟨⟨c, _, rfl, opens, fun d member => ?_⟩, ?_⟩
          · simpa using List.mem_takeWhile_imp member
          · rw [List.cons_append, List.cons_append, ← closed, List.takeWhile_append_dropWhile]
        · cases found
      · cases found
    · cases found
  · rintro ⟨⟨c, body, rfl, opens, inside⟩, rfl⟩
    have all : ∀ d ∈ body, (d != '[' && d != ']') = true := by simpa using inside
    simp only [List.cons_append, tagText?, opens, if_true, List.takeWhile_append_of_pos all,
      List.dropWhile_append_of_pos all]
    simp

theorem bracket?_replicate (slashes : Nat) (text : List Char) :
    bracket? (List.replicate slashes '\\' ++ '[' :: text) = some '[' := by
  induction slashes with
  | zero => simp [bracket?_cons]
  | succ slashes ih => simpa [List.replicate_succ, bracket?_cons] using ih

theorem pieces_char {fuel position : Nat} {plain : List Char}
    (none : tagText? (behindSlashes (c :: rest)) = .none) :
    pieces (fuel + 1) position (c :: rest) plain = pieces fuel (position + 1) rest (c :: plain) := by
  simp only [pieces, drop_slashes, none]

theorem pieces_escaped {slashes : Nat} (odd : slashes % 2 = 1) (isTag : IsTag tag)
    (fuel position : Nat) (after plain : List Char) : ∃ next,
    pieces (fuel + 1) position (List.replicate slashes '\\' ++ '[' :: tag ++ ']' :: after) plain =
      .plain plain.reverse :: .plain (List.replicate (slashes / 2) '\\') :: .plain ('[' :: tag ++ [']'])
        :: pieces fuel next after [] := by
  obtain ⟨fewer, rfl⟩ : ∃ fewer, slashes = fewer + 1 := ⟨slashes - 1, by omega⟩
  have found : tagText? (behindSlashes ('\\' :: (List.replicate fewer '\\' ++ '[' :: (tag ++ ']' :: after)))) =
      some (tag, after) := by
    rw [behindSlashes_slash, behindSlashes_replicate, behindSlashes_cons (by decide)]
    exact tagText?_eq_some.mpr ⟨isTag, rfl⟩
  have count := takeWhile_slashes (fewer + 1) (tag ++ ']' :: after)
  rw [List.replicate_succ, List.cons_append] at count
  refine ⟨position + (fewer + 1) + tag.length + 2, ?_⟩
  rw [List.append_assoc, List.replicate_succ, List.cons_append, List.cons_append]
  simp only [pieces, drop_slashes, found]
  simp only [count, odd, if_true]

/-- Without tags all pieces are plain. -/
theorem plain_pieces (tagless : Tagless text) (fuel position : Nat) (plain : List Char) :
    ∀ piece ∈ pieces fuel position text plain, piece.IsPlain := by
  induction tagless generalizing fuel position plain with
  | nil => cases fuel <;> simp [pieces, Piece.IsPlain]
  | char c rest none _ ih =>
    cases fuel with
    | zero => simp [pieces, Piece.IsPlain]
    | succ fuel =>
      rw [pieces_char none]
      exact ih fuel _ _
  | escaped slashes tag after odd isTag _ ih =>
    cases fuel with
    | zero => simp [pieces, Piece.IsPlain]
    | succ fuel =>
      obtain ⟨next, same⟩ := pieces_escaped odd isTag fuel position after plain
      rw [same]
      simpa [Piece.IsPlain] using ih fuel next []

/-- Plain pieces are followed to the end. -/
theorem follow_plain {list : List Piece} (plain : ∀ piece ∈ list, piece.IsPlain) (stack : List OpenTag)
    (marked : Marked) : ∃ shown, follow stack marked list = .ok shown := by
  induction list generalizing marked with
  | nil => exact ⟨_, rfl⟩
  | cons piece list ih =>
    have later := ih fun other member => plain other (List.mem_cons_of_mem _ member)
    cases piece with
    | plain shown => exact later _
    | tag position tag => exact (plain _ (List.mem_cons_self ..)).elim

/-- Markup without tags can be read. -/
theorem read_tagless {markup : String} (tagless : Tagless markup.toList) :
    ∃ marked, read markup = .ok marked := by
  obtain ⟨shown, followed⟩ := follow_plain (plain_pieces tagless (markup.toList.length + 1) 0 []) [] {}
  exact ⟨shown.ordered, by simp only [read, followed, Except.map]⟩

/-- A text without an opening bracket has no tag. -/
theorem tagless_of_no_bracket (absent : '[' ∉ text) : Tagless text := by
  induction text with
  | nil => exact .nil
  | cons c rest ih =>
    refine .char c rest ?_ (ih fun member => absent (List.mem_cons_of_mem _ member))
    match behind : behindSlashes (c :: rest) with
    | [] => rfl
    | d :: others =>
      refine tagText?_of_head fun same => absent ?_
      have member : d ∈ behindSlashes (c :: rest) := by
        rw [behind]
        exact List.mem_cons_self ..
      rw [← same]
      exact (List.dropWhile_suffix _).subset member

/-- A text in front that has no brackets or backslashes makes no tag. -/
theorem Tagless.behind {front : List Char} (tagless : Tagless text)
    (free : ∀ d ∈ front, d ≠ '[' ∧ d ≠ '\\') : Tagless (front ++ text) := by
  induction front with
  | nil => exact tagless
  | cons d front ih =>
    obtain ⟨bracket, slash⟩ := free d (List.mem_cons_self ..)
    refine .char d _ ?_ (ih fun other member => free other (List.mem_cons_of_mem _ member))
    rw [behindSlashes_cons slash]
    exact tagText?_of_head bracket

theorem escapeTags_char (fuel : Nat) (none : tagText? (behindSlashes (c :: rest)) = .none) :
    escapeTags (fuel + 1) (c :: rest) = c :: escapeTags fuel rest := by
  simp only [escapeTags, drop_slashes, none]

/-- A tag behind backslashes is escaped by doubling them and adding one. -/
theorem escapeTags_tag (fuel : Nat) (found : tagText? (behindSlashes (c :: rest)) = some (tag, after)) :
    ∃ slashes, c :: rest = List.replicate slashes '\\' ++ '[' :: tag ++ ']' :: after ∧
      escapeTags (fuel + 1) (c :: rest) =
        List.replicate (2 * slashes + 1) '\\' ++ '[' :: tag ++ ']' :: escapeTags fuel after := by
  have same : (c :: rest).takeWhile (· = '\\') =
      List.replicate ((c :: rest).takeWhile (· = '\\')).length '\\' := by
    refine List.eq_replicate_iff.mpr ⟨rfl, fun d member => ?_⟩
    simpa using List.mem_takeWhile_imp member
  refine ⟨((c :: rest).takeWhile (· = '\\')).length, ?_, ?_⟩
  · have whole := List.takeWhile_append_dropWhile (p := (· = '\\')) (l := c :: rest)
    change _ ++ behindSlashes (c :: rest) = _ at whole
    rw [(tagText?_eq_some.mp found).2, same] at whole
    rw [List.append_assoc]
    exact whole.symm
  · simp only [escapeTags, drop_slashes, found]
    rw [same]
    simp [List.replicate_succ']
    omega

/-- The first bracket of a text stays the first. -/
theorem bracket?_escapeTags (fuel : Nat) (text : List Char) :
    bracket? (escapeTags fuel text) = bracket? text := by
  induction fuel generalizing text with
  | zero => rfl
  | succ fuel ih =>
    cases text with
    | nil => rfl
    | cons c rest =>
      cases found : tagText? (behindSlashes (c :: rest)) with
      | none => rw [escapeTags_char fuel found, bracket?_cons, bracket?_cons, ih]
      | some tagged =>
        obtain ⟨slashes, same, escaped⟩ := escapeTags_tag fuel found
        rw [escaped, same, List.append_assoc, List.append_assoc, List.cons_append, List.cons_append,
          bracket?_replicate, bracket?_replicate]

/-- A character that stays is followed by what stays of the text, or by a backslash. -/
theorem head_escapeTags (fuel : Nat) (c : Char) (rest : List Char) :
    (∃ later, escapeTags fuel (c :: rest) = c :: later ∧ bracket? later = bracket? rest) ∨
      ∃ later, escapeTags fuel (c :: rest) = '\\' :: later := by
  cases fuel with
  | zero => exact .inl ⟨rest, rfl, rfl⟩
  | succ fuel =>
    cases found : tagText? (behindSlashes (c :: rest)) with
    | none => exact .inl ⟨_, escapeTags_char fuel found, bracket?_escapeTags fuel rest⟩
    | some tagged =>
      obtain ⟨slashes, -, escaped⟩ := escapeTags_tag fuel found
      exact .inr ⟨_, escaped⟩

/-- Where a text has no tag its escaped text has none. -/
theorem tagText?_escapeTags (fuel : Nat) (none : tagText? (behindSlashes text) = .none) :
    tagText? (behindSlashes (escapeTags fuel text)) = .none := by
  induction fuel generalizing text with
  | zero => exact none
  | succ fuel ih =>
    match text with
    | [] => rfl
    | c :: rest =>
      -- A character that begins no tag is kept, and what can begin one is found behind it.
      rw [escapeTags_char fuel none]
      by_cases slash : c = '\\'
      · subst slash
        exact ih none
      · rw [behindSlashes_cons slash] at none ⊢
        by_cases bracket : c = '['
        · subst bracket
          match rest with
          | [] => cases fuel <;> rfl
          | d :: others =>
            rw [tagText?_bracket] at none
            rcases head_escapeTags fuel d others with ⟨later, same, first⟩ | ⟨later, same⟩
            · rw [same, tagText?_bracket, first]
              exact none
            · rw [same, tagText?_bracket]
              exact .inl (by decide)
        · exact tagText?_of_head bracket

/-- An escaped text has no tags. -/
theorem tagless_escapeTags {fuel : Nat} (enough : text.length < fuel) : Tagless (escapeTags fuel text) := by
  induction fuel generalizing text with
  | zero => cases enough
  | succ fuel ih =>
    match text with
    | [] => exact .nil
    | c :: rest =>
      cases found : tagText? (behindSlashes (c :: rest)) with
      | none =>
        have same := escapeTags_char fuel found
        have kept := tagText?_escapeTags (fuel + 1) found
        rw [same] at kept ⊢
        exact .char c _ kept (ih (by simpa using enough))
      | some tagged =>
        obtain ⟨slashes, same, escaped⟩ := escapeTags_tag fuel found
        have fewer : tagged.2.length < fuel := by
          have lengths := congrArg List.length same
          simp only [List.length_cons, List.length_append, List.length_replicate] at lengths enough
          omega
        rw [escaped]
        exact .escaped _ _ _ (by omega) (tagText?_eq_some.mp found).1 (ih fewer)

theorem bracket?_append_slash (text : List Char) : bracket? (text ++ ['\\']) = bracket? text := by
  induction text with
  | nil => rfl
  | cons c rest ih => rw [List.cons_append, bracket?_cons, bracket?_cons, ih]

/-- A backslash at the end makes no tag. -/
theorem tagText?_append_slash (none : tagText? (behindSlashes text) = .none) :
    tagText? (behindSlashes (text ++ ['\\'])) = .none := by
  induction text with
  | nil => rfl
  | cons c rest ih =>
    rw [List.cons_append]
    by_cases slash : c = '\\'
    · subst slash
      exact ih none
    · rw [behindSlashes_cons slash] at none ⊢
      by_cases bracket : c = '['
      · subst bracket
        match rest with
        | [] => rfl
        | d :: others =>
          rw [List.cons_append, tagText?_bracket, bracket?_append_slash]
          exact tagText?_bracket.mp none
      · exact tagText?_of_head bracket

theorem Tagless.append_slash (tagless : Tagless text) : Tagless (text ++ ['\\']) := by
  induction tagless with
  | nil => exact .char _ _ rfl .nil
  | char c rest none _ ih => exact .char c _ (tagText?_append_slash none) ih
  | escaped slashes tag after odd isTag _ ih =>
    rw [List.append_assoc, List.cons_append]
    exact .escaped slashes tag _ odd isTag ih

/-- The markup of a literal text has no tags. -/
theorem tagless_escape (text : String) : Tagless (escape text).toList := by
  have escaped : Tagless (escapeTags (text.length + 1) text.toList) := tagless_escapeTags (Nat.lt_succ_self _)
  unfold escape
  dsimp only
  split
  · rw [String.toList_ofList]
    exact escaped
  · rw [String.toList_ofList]
    exact escaped.append_slash
  · rw [String.toList_ofList]
    exact escaped

/-- The markup of a literal text can be read behind any text without brackets and backslashes. -/
theorem read_escape {front : String} (free : ∀ c ∈ front.toList, c ≠ '[' ∧ c ≠ '\\') (text : String) :
    ∃ marked, read (front ++ escape text) = .ok marked := by
  refine read_tagless ?_
  rw [String.toList_append]
  exact (tagless_escape text).behind free

end

end LayerGraph.Markup
