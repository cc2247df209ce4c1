import LayerGraph.Text.CodePoints
import Mathlib.Data.List.Basic

/-! Numerals that are shown.

A numeral is shown up to a length. A text is put together from words, which end outside of a numeral, and from integers
with no digit behind them, so it is shown exactly when its integers are.
-/

set_option autoImplicit false

namespace LayerGraph.Text

theorem isDigit_of_char {c : Char} (digit : c.isDigit = true) : isDigit c = true := by
  rw [Char.isDigit, Bool.and_eq_true, decide_eq_true_eq, decide_eq_true_eq] at digit
  exact decide_eq_true digit

theorem isDigit_toDigits {n : Nat} : ∀ c ∈ Nat.toDigits 10 n, isDigit c = true :=
  fun _ member => isDigit_of_char (Nat.isDigit_of_mem_toDigits (by decide) (by decide) member)

theorem showsRuns_append_cons {run : Nat} {separator : Char} (blank : isDigit separator = false)
    (front back : List Char) :
    showsRuns run (front ++ separator :: back) = (showsRuns run front && showsRuns 0 back) := by
  induction front generalizing run with
  | nil => simp [showsRuns, blank]
  | cons character front ih =>
    rw [List.cons_append, showsRuns, showsRuns]
    split
    · exact ih
    · rw [ih, Bool.and_assoc]

theorem showsNumerals_empty : showsNumerals "" = true := by decide

/-- What may stand behind a numeral: nothing, or something else than a digit. -/
def Stops (rest : String) : Prop := rest.toList.head?.map isDigit ≠ some true

instance (rest : String) : Decidable (Stops rest) := inferInstanceAs (Decidable (_ ≠ _))

/-- A text that begins with something else than a digit. -/
def Separates (text : String) : Prop := text.toList.head?.map isDigit = some false

instance (text : String) : Decidable (Separates text) := inferInstanceAs (Decidable (_ = _))

theorem Separates.stops {front : String} (apart : Separates front) (rest : String) : Stops (front ++ rest) := by
  unfold Separates at apart
  unfold Stops
  rw [String.toList_append]
  cases split : front.toList with
  | nil =>
    rw [split] at apart
    cases apart
  | cons c others =>
    rw [split] at apart
    rw [List.cons_append, List.head?_cons, ← List.head?_cons (l := others), apart]
    decide

/-- Digits up to something else are one run. -/
theorem showsRuns_digits {run : Nat} {digits rest : List Char} (all : ∀ c ∈ digits, isDigit c = true)
    (stops : rest.head?.map isDigit ≠ some true) :
    showsRuns run (digits ++ rest) = (decide (run + digits.length ≤ numeralLimit) && showsRuns 0 rest) := by
  induction digits generalizing run with
  | nil =>
    cases rest with
    | nil => simp [showsRuns]
    | cons c rest =>
      have other : isDigit c = false := Bool.eq_false_iff.mpr fun digit => stops (congrArg some digit)
      simp [showsRuns, other]
  | cons digit digits ih =>
    rw [List.cons_append, showsRuns, if_pos (all digit List.mem_cons_self),
      ih fun c member => all c (List.mem_cons_of_mem _ member), List.length_cons, Nat.add_right_comm, Nat.add_assoc]

/-- A text that is shown and ends outside of a numeral. -/
def Words (text : String) : Prop := showsNumerals text = true ∧ text.toList.getLast?.any isDigit = false

instance (text : String) : Decidable (Words text) := inferInstanceAs (Decidable (_ ∧ _))

theorem showsNumerals_of_words {words : String} (closed : Words words) : showsNumerals words = true := closed.1

theorem showsNumerals_words {words : String} (closed : Words words) (rest : String) :
    showsNumerals (words ++ rest) = showsNumerals rest := by
  obtain ⟨shown, last⟩ := closed
  unfold showsNumerals at shown ⊢
  rw [String.toList_append]
  rcases List.eq_nil_or_concat' words.toList with empty | ⟨front, c, split⟩
  · rw [empty, List.nil_append]
  · rw [split, List.getLast?_concat] at last
    rw [split, showsRuns_append_cons last, Bool.and_eq_true] at shown
    rw [split, List.append_assoc, List.singleton_append, showsRuns_append_cons last, shown.1, Bool.true_and]

theorem showsInteger_natural (n : Nat) : showsInteger n = decide (n < Nat.pow 10 numeralLimit) := by
  rw [showsInteger, Int.natAbs_natCast]

theorem showsInteger_negSucc (n : Nat) : showsInteger (Int.negSucc n) = showsInteger (n + 1 : Nat) := by
  rw [showsInteger, Int.natAbs_negSucc, showsInteger, Int.natAbs_natCast]

theorem showsNumerals_natural (n : Nat) {rest : String} (stops : Stops rest) :
    showsNumerals (toString n ++ rest) = (showsInteger n && showsNumerals rest) := by
  have short : (0 + (Nat.toDigits 10 n).length ≤ numeralLimit) ↔ n < Nat.pow 10 numeralLimit := by
    rw [Nat.zero_add, Nat.length_toDigits_le_iff (by decide) (by decide), Nat.pow_eq]
  rw [showsNumerals, String.toList_append, Nat.toString_eq_repr, Nat.toList_repr,
    showsRuns_digits isDigit_toDigits stops, decide_eq_decide.mpr short, showsInteger_natural, showsNumerals]

/-- An integer with no digit behind it is shown unless it is too long. -/
theorem showsNumerals_integer (n : Int) {rest : String} (stops : Stops rest) :
    showsNumerals (toString n ++ rest) = (showsInteger n && showsNumerals rest) := by
  cases n with
  | ofNat n => exact showsNumerals_natural n stops
  | negSucc n =>
    have negative : toString (Int.negSucc n) = "-" ++ toString (n + 1) := rfl
    rw [negative, String.append_assoc, showsNumerals_words (by decide), showsNumerals_natural _ stops,
      showsInteger_negSucc]

theorem showsNumerals_integer_words (n : Int) {words : String} (apart : Separates words) (rest : String) :
    showsNumerals (toString n ++ (words ++ rest)) = (showsInteger n && showsNumerals (words ++ rest)) :=
  showsNumerals_integer n (apart.stops rest)

theorem showsNumerals_toString (n : Int) : showsNumerals (toString n) = showsInteger n := by
  have alone := showsNumerals_integer n (by decide : Stops "")
  rwa [String.append_empty, showsNumerals_empty, Bool.and_true] at alone

/-- A list of integers is shown when each of them is. -/
theorem showsNumerals_integers (ns : List Int) (rest : String) :
    showsNumerals (integers ns ++ rest) = (ns.all showsInteger && showsNumerals rest) := by
  unfold integers join
  rw [String.append_assoc, String.append_assoc, showsNumerals_words (by decide)]
  -- Behind the last integer stands the bracket, and behind every other one a comma.
  induction ns with
  | nil => exact showsNumerals_words (by decide : Words "]") rest
  | cons n ns ih =>
    cases ns with
    | nil =>
      rw [List.map_singleton, String.intercalate_singleton,
        showsNumerals_integer_words n (by decide), showsNumerals_words (by decide),
        List.all_cons, List.all_nil, Bool.and_true]
    | cons next ns =>
      rw [List.map_cons, List.map_cons, String.intercalate_cons_cons, String.append_assoc, String.append_assoc,
        showsNumerals_integer_words n (by decide), showsNumerals_words (by decide),
        ← List.map_cons, ih, List.all_cons (a := n), Bool.and_assoc]

theorem showsNumerals_integers_alone (ns : List Int) : showsNumerals (integers ns) = ns.all showsInteger := by
  have alone := showsNumerals_integers ns ""
  rwa [String.append_empty, showsNumerals_empty, Bool.and_true] at alone

end LayerGraph.Text
