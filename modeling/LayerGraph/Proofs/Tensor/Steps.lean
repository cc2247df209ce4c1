import LayerGraph.Proofs.Failure.Run
import LayerGraph.Proofs.Json.Numerals
import LayerGraph.Tensor.TimeStep
import Mathlib.Data.List.TakeWhile

/-! Steps of time and their texts.

A step is read back from its text unless its count is negative, which only a divisor gives.
-/

set_option autoImplicit false

namespace LayerGraph.TimeStep

open Attempt Text

/-! ### Integers at the start of a text -/

theorem not_gap_of_digit {c : Char} (digit : isDigit c = true) : isGap c = false := by
  have range := of_decide_eq_true digit
  have low : 48 ≤ c.toNat := range.1
  simp only [isGap, Bool.or_eq_false_iff, decide_eq_false_iff_not, Bool.and_eq_false_iff]
  refine ⟨?_, by omega⟩
  rintro rfl
  exact absurd low (by decide)

theorem not_blank_of_digit {c : Char} (digit : isDigit c = true) : isBlank c = false := by
  simp [isDigit, Char.le_def, UInt32.le_iff_toNat_le] at digit
  simp only [isBlank, isWhiteSpace, Bool.or_eq_false_iff, Bool.and_eq_false_iff, decide_eq_false_iff_not]
  omega

section
variable {digits rest : List Char}

theorem leadingInteger?_digits (all : ∀ c ∈ digits, isDigit c = true) (some : digits ≠ [])
    (stop : ∀ c ∈ rest.head?, isDigit c = false) (negative : Bool) :
    leadingInteger? ((if negative then ['-'] else []) ++ digits ++ rest) =
      Option.some (if negative then -(decimalValue digits : Int) else decimalValue digits, rest) := by
  have none : rest.takeWhile isDigit = [] ∧ rest.dropWhile isDigit = rest := by
    cases rest with
    | nil => exact ⟨rfl, rfl⟩
    | cons c rest => simp [stop c rfl]
  have taken : (digits ++ rest).takeWhile isDigit = digits := by
    rw [List.takeWhile_append_of_pos all, none.1, List.append_nil]
  have left : (digits ++ rest).dropWhile isDigit = rest := by
    rw [List.dropWhile_append_of_pos all, none.2]
  cases negative with
  | true =>
    have sign : ('-' :: (digits ++ rest)).dropWhile isGap = '-' :: (digits ++ rest) := rfl
    simp [leadingInteger?, sign, taken, left, some]
  | false =>
    cases digits with
    | nil => exact absurd rfl some
    | cons d digits =>
      have digit := all d List.mem_cons_self
      have start : (d :: digits ++ rest).dropWhile isGap = d :: digits ++ rest := by
        simp [not_gap_of_digit digit]
      have sign : d ≠ '-' ∧ d ≠ '+' := by
        constructor <;> rintro rfl <;> exact absurd digit (by decide)
      unfold leadingInteger?
      rw [if_neg (by decide), List.nil_append, start]
      -- A digit is no sign, so that the digits are looked for at once.
      split
      next signed =>
        split at signed
        · next same => exact absurd (List.cons.inj same).1 sign.1
        · next same => exact absurd (List.cons.inj same).1 sign.2
        · cases signed
          dsimp only
          rw [taken, left]
          simp

end

theorem leadingInteger?_toString (n : Int) {rest : List Char} (stop : ∀ c ∈ rest.head?, isDigit c = false) :
    leadingInteger? ((toString n).toList ++ rest) = some (n, rest) := by
  have some_digit : Nat.toDigits 10 n.natAbs ≠ [] := Nat.toDigits_ne_nil
  have read := leadingInteger?_digits isDigit_toDigits some_digit stop (decide (n < 0))
  rw [decimalValue_toDigits] at read
  rw [Json.toList_toString_int]
  simp only [decide_eq_true_eq] at read
  rw [read]
  congr 2
  split <;> omega

theorem leadingInteger?_other {c : Char} {rest : List Char}
    (other : isGap c = false ∧ c ≠ '-' ∧ c ≠ '+' ∧ isDigit c = false) : leadingInteger? (c :: rest) = none := by
  obtain ⟨gap, minus, plus, digit⟩ := other
  have start : (c :: rest).dropWhile isGap = c :: rest := by simp [gap]
  unfold leadingInteger?
  rw [start]
  split
  next signed =>
    split at signed
    · next same => exact absurd (List.cons.inj same).1 minus
    · next same => exact absurd (List.cons.inj same).1 plus
    · cases signed
      simp [digit]

/-! ### Steps in brackets -/

/-- The letters of a unit can stand behind a number and before a bracket. -/
structure Letters (text : List Char) : Prop where
  head : ∃ c rest, text = c :: rest ∧ isGap c = false ∧ c ≠ '-' ∧ c ≠ '+' ∧ isDigit c = false
  inside : ∀ c ∈ text, (c ≠ ']' ∧ c ≠ ',' ∧ isBlank c = false) ∧ c ≠ '/'

theorem letters_unit (unit : TimeUnit) : Letters unit.text.toList := by
  cases unit <;> exact ⟨⟨_, _, rfl, by decide⟩, List.forall_iff_forall_mem.mp (by decide)⟩

theorem ofText?_text (unit : TimeUnit) : TimeUnit.ofText? unit.text = some unit := by
  cases unit <;> decide

/-- The digits of the count, which are left out for a single unit. -/
def number (step : TimeStep) : List Char := if step.count = 1 then [] else (toString step.count).toList

/-- What stands between the brackets. -/
def body (step : TimeStep) : List Char := step.number ++ step.unit.text.toList

variable {step : TimeStep} {written : List Char} {shown : String}

theorem toList_text (specific : step.unit ≠ .generic) : step.text.toList = '[' :: (step.body ++ [']']) := by
  unfold text body number
  rw [if_neg specific]
  split <;> simp

theorem mem_number {c : Char} (member : c ∈ step.number) : c ≠ ']' ∧ c ≠ ',' ∧ isBlank c = false := by
  unfold number at member
  split at member
  · cases member
  · rw [Json.toList_toString_int, List.mem_append] at member
    rcases member with sign | digit
    · split at sign <;> simp at sign
      subst sign
      decide
    · have digit := isDigit_toDigits c digit
      refine ⟨?_, ?_, not_blank_of_digit digit⟩ <;> rintro rfl <;> exact absurd digit (by decide)

theorem mem_body {c : Char} (member : c ∈ step.body) : c ≠ ']' ∧ c ≠ ',' ∧ isBlank c = false :=
  (List.mem_append.mp member).elim mem_number fun letter => ((letters_unit step.unit).inside c letter).1

theorem mem_text {c : Char} (member : c ∈ step.text.toList) : c ≠ ',' ∧ isBlank c = false := by
  by_cases generic : step.unit = .generic
  · simp [text, generic] at member
  · rw [toList_text generic, List.mem_cons, List.mem_append, List.mem_singleton] at member
    rcases member with rfl | inside | rfl
    · decide
    · exact (mem_body inside).2
    · decide

theorem leadingInteger?_body (step : TimeStep) (rest : List Char) :
    (leadingInteger? (step.body ++ rest)).getD (1, step.body ++ rest) = (step.count, step.unit.text.toList ++ rest) := by
  obtain ⟨c, letters, named, other⟩ := (letters_unit step.unit).head
  unfold body number
  split
  · next single =>
    rw [single, List.nil_append, named, List.cons_append, leadingInteger?_other other]
    rfl
  · have stop : ∀ first ∈ (step.unit.text.toList ++ rest).head?, isDigit first = false := by
      simp [named, other]
    rw [List.append_assoc, leadingInteger?_toString _ stop]
    rfl

theorem takeWhile_body (step : TimeStep) : (step.body ++ [']']).takeWhile (· ≠ ']') = step.body := by
  rw [List.takeWhile_append_of_pos fun c member => by simpa using (mem_body member).1]
  simp

theorem readInner_body (natural : 0 ≤ step.count) (most : step.count ≤ 0x7fffffff) :
    readInner shown (step.body ++ [']']) = .ok step := by
  have letters := letters_unit step.unit
  have name : (step.body.drop ((step.body ++ [']']).length - (step.unit.text.toList ++ [']']).length)).takeWhile
      (· ≠ '/') = step.unit.text.toList := by
    have drop : (step.body ++ [']']).length - (step.unit.text.toList ++ [']']).length = step.number.length := by
      simp [body]
    rw [drop, body, List.drop_left]
    exact List.takeWhile_eq_self_iff.mpr fun c member => by simpa using (letters.inside c member).2
  have some_letter : step.unit.text.toList.isEmpty = false := by
    obtain ⟨c, rest, named, _⟩ := letters.head
    rw [named]
    rfl
  unfold readInner
  dsimp only
  rw [leadingInteger?_body, takeWhile_body]
  dsimp only
  rw [if_neg (by omega), name, List.drop_left, some_letter, String.ofList_toList, ofText?_text]
  rfl

theorem readInner_negative (negative : step.count < 0) :
    ∃ position, readInner shown (step.body ++ [']']) = .error (.form shown (some position)) := by
  unfold readInner
  dsimp only
  rw [leadingInteger?_body]
  dsimp only
  rw [if_pos (Or.inl negative)]
  exact ⟨_, rfl⟩

theorem read_text_eq (specific : step.unit ≠ .generic) :
    ∃ shown, read step.text.toList = readInner shown (step.body ++ [']']) := by
  obtain ⟨c, letters, named, _⟩ := (letters_unit step.unit).head
  have some_body : step.body ≠ [] := by simp [body, named]
  have long : ¬ (String.ofList ('[' :: (step.body ++ [']']))).utf8ByteSize < 3 := by
    obtain ⟨first, rest, whole⟩ := List.exists_cons_of_ne_nil some_body
    have brackets : "[".utf8ByteSize = 1 ∧ "]".utf8ByteSize = 1 := by decide
    have inside := first.utf8Size_pos
    simp [whole, brackets]
    omega
  refine ⟨String.ofList (step.text.toList.takeWhile (· ≠ '\x00')), ?_⟩
  rw [toList_text specific]
  change (if (String.ofList ('[' :: (step.body ++ [']']))).utf8ByteSize < 3 then _ else _) = _
  rw [if_neg long, if_neg (by simp)]
  dsimp only
  rw [takeWhile_body, if_neg (by simp [some_body])]
  -- The brackets end the text, so that what they hold is all of it.
  have closed : step.body.length + 1 = (step.body ++ [']']).length := by simp
  simp only [closed, if_true]
  exact bind_pure _

/-- A step is read back from its text, as a step of the same text, unless its count is negative. -/
theorem read_text (most : step.count ≤ 0x7fffffff) :
    (step.unit = .generic ∨ 0 ≤ step.count → ∃ again, read step.text.toList = .ok again ∧ again.text = step.text) ∧
    (¬ (step.unit = .generic ∨ 0 ≤ step.count) →
      ∃ shown position, read step.text.toList = .error (.form shown (some position))) := by
  constructor
  · intro shown
    by_cases generic : step.unit = .generic
    · have empty : step.text = "" := if_pos generic
      exact ⟨{}, by rw [empty]; rfl, by rw [empty]; rfl⟩
    · obtain ⟨_, read⟩ := read_text_eq generic
      exact ⟨step, read.trans (readInner_body (shown.resolve_left generic) most), rfl⟩
  · intro unshown
    rw [not_or, Int.not_le] at unshown
    obtain ⟨shown, read⟩ := read_text_eq unshown.1
    obtain ⟨position, refused⟩ := readInner_negative unshown.2
    exact ⟨shown, position, read.trans refused⟩

/-! ### Counts -/

theorem wrapped_le (n : Int) : wrapped n ≤ 0x7fffffff := by
  have less : wrapped n < ((0x100000000 : Nat) + 1) / 2 := Int.bmod_lt (by decide)
  omega

theorem count_le_of_divided {divisor : Int} {smaller : TimeStep} {text : String} (most : step.count ≤ 0x7fffffff)
    (made : divided text step divisor = .ok smaller) : smaller.count ≤ 0x7fffffff := by
  unfold divided at made
  split at made
  · cases made
    exact most
  · split at made
    · cases made
    · split at made
      · cases made
        exact wrapped_le _
      · cases made

theorem count_le_of_readInner {behind : List Char} (made : readInner shown behind = .ok step) :
    step.count ≤ 0x7fffffff := by
  unfold readInner at made
  dsimp only at made
  split at made
  · cases made
  · next fits =>
    have most := Int.not_lt.mp fun more => fits (.inr more)
    split at made
    · cases made
    · split at made
      · cases made
      · split at made
        · exact count_le_of_divided most made
        · cases made
      · cases made
        exact most

/-- A count is one of 31 bits, or negative. -/
theorem count_le_of_read (made : read written = .ok step) : step.count ≤ 0x7fffffff := by
  unfold read at made
  dsimp only at made
  split at made
  · cases made
    decide
  · split at made
    · cases made
    · split at made
      · cases made
      · split at made
        · cases made
        · obtain ⟨inner, read, same⟩ := bind_eq_ok.mp made
          split at same
          · cases same
            exact count_le_of_readInner read
          · cases same

end LayerGraph.TimeStep
