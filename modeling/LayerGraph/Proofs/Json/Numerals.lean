import LayerGraph.Json.Printer
import LayerGraph.Json.Reader
import LayerGraph.Proofs.Number.Shortest
import LayerGraph.Proofs.Text.Numerals
import Mathlib.Tactic.NormNum

/-! Numbers read from the texts that they are written as.

A numeral is digits with an optional point and an optional exponent. Every layout of a decimal is a numeral of the same
value, so a finite number is read back from it.
-/

set_option autoImplicit false

namespace LayerGraph

open Number Text

namespace Text

/-- The value of digits is the number that they are the digits of. -/
theorem decimalValue_eq {digits : List Char} (all : ∀ c ∈ digits, isDigit c = true) :
    decimalValue digits = Nat.ofDigitChars 10 digits 0 := by
  unfold decimalValue Nat.ofDigitChars
  refine List.foldl_ext _ _ _ fun value c member => ?_
  have digit := of_decide_eq_true (all c member)
  rw [digitValue?, if_pos digit]
  rfl

theorem isDigit_zeros {count : Nat} : ∀ c ∈ List.replicate count '0', isDigit c = true := by
  intro c member
  rw [List.eq_of_mem_replicate member]
  rfl

theorem isDigit_append {left right : List Char} (one : ∀ c ∈ left, isDigit c = true)
    (other : ∀ c ∈ right, isDigit c = true) : ∀ c ∈ left ++ right, isDigit c = true :=
  fun c member => (List.mem_append.mp member).elim (one c) (other c)

theorem decimalValue_toDigits (n : Nat) : decimalValue (Nat.toDigits 10 n) = n := by
  rw [decimalValue_eq isDigit_toDigits, Nat.ofDigitChars_ten_toDigits]

theorem decimalValue_toDigits_zeros (n count : Nat) :
    decimalValue (Nat.toDigits 10 n ++ List.replicate count '0') = 10 ^ count * n := by
  rw [decimalValue_eq (isDigit_append isDigit_toDigits isDigit_zeros), Nat.ofDigitChars_append,
    Nat.ofDigitChars_ten_toDigits, Nat.ofDigitChars_replicate_zero]

theorem decimalValue_zeros_toDigits (count n : Nat) :
    decimalValue (List.replicate count '0' ++ Nat.toDigits 10 n) = n := by
  rw [decimalValue_eq (isDigit_append isDigit_zeros isDigit_toDigits), Nat.ofDigitChars_append,
    Nat.ofDigitChars_replicate_zero, Nat.mul_zero, Nat.ofDigitChars_ten_toDigits]

/-- The digits of a positive number do not begin with a zero. -/
theorem head?_toDigits {n : Nat} (positive : 0 < n) : (Nat.toDigits 10 n).head? ≠ some '0' := by
  induction n using Nat.strong_induction_on with
  | _ n ih =>
    rw [Nat.toDigits_eq_if (by decide)]
    split
    · next small =>
      have all : ∀ m < 10, 0 < m → m.digitChar ≠ '0' := by decide
      exact fun same => all n small positive (Option.some.inj same)
    · next large =>
      rw [List.head?_append_of_ne_nil _ Nat.toDigits_ne_nil]
      exact ih (n / 10) (Nat.div_lt_self positive (by decide)) (Nat.div_pos (Nat.not_lt.mp large) (by decide))

end Text

namespace Json

/-- What may stand behind a value: nothing, a comma or the end of a container. -/
def Ends (rest : List Char) : Prop := ∀ c ∈ rest.head?, c = ',' ∨ c = ']' ∨ c = '\x7d'

/-- Digits with an optional point and an optional exponent. -/
structure Numeral where
  whole : List Char
  fraction : List Char := []
  /-- Whether the exponent is negative, and its digits. -/
  exponent : Option (Bool × List Char) := none

namespace Numeral

def exponentChars : Option (Bool × List Char) → List Char
  | none => []
  | some (negative, digits) => 'e' :: (if negative then '-' else '+') :: digits

def chars (numeral : Numeral) : List Char :=
  numeral.whole ++ ((if numeral.fraction = [] then [] else '.' :: numeral.fraction) ++ exponentChars numeral.exponent)

/-- The exponent of the last digit. -/
def lastExponent (numeral : Numeral) : Int :=
  (match numeral.exponent with
    | none => 0
    | some (negative, digits) => if negative then -(decimalValue digits : Int) else decimalValue digits) -
    numeral.fraction.length

/-- Numerals within limits: no zero stands in front of the digits before the point. -/
structure Valid (limits : Limits) (numeral : Numeral) : Prop where
  whole : ∀ c ∈ numeral.whole, isDigit c = true
  some : numeral.whole ≠ []
  leading : 1 < numeral.whole.length → numeral.whole.head? ≠ Option.some '0'
  short : numeral.whole.length ≤ limits.digits
  fraction : ∀ c ∈ numeral.fraction, isDigit c = true
  exponent : ∀ part ∈ numeral.exponent, part.2 ≠ [] ∧ ∀ c ∈ part.2, isDigit c = true

end Numeral

/-- A run of digits is read up to what is no digit. -/
theorem readDigits_append {digits rest : List Char} (all : ∀ c ∈ digits, isDigit c = true) (some : digits ≠ [])
    (stop : ∀ c ∈ rest.head?, isDigit c = false) : readDigits (digits ++ rest) = Option.some (digits, rest) := by
  have none : rest.takeWhile isDigit = [] ∧ rest.dropWhile isDigit = rest := by
    cases rest with
    | nil => exact ⟨rfl, rfl⟩
    | cons c rest => simp [stop c rfl]
  unfold readDigits
  rw [List.takeWhile_append_of_pos all, List.dropWhile_append_of_pos all, none.1, none.2, List.append_nil]
  dsimp only
  rw [if_neg (by simpa using some)]

theorem Ends.not_digit {rest : List Char} (ends : Ends rest) : ∀ c ∈ rest.head?, isDigit c = false := by
  intro c member
  rcases ends c member with rfl | rfl | rfl <;> rfl

/-- Neither a point nor an exponent stands behind a value. -/
theorem Ends.not_mark {rest : List Char} (ends : Ends rest) : ∀ c ∈ rest.head?, c ≠ '.' ∧ c ≠ 'e' ∧ c ≠ 'E' := by
  intro c member
  rcases ends c member with rfl | rfl | rfl <;> decide

section
variable {limits : Limits} {numeral : Numeral} {rest : List Char}

theorem readExponent_chars (valid : numeral.Valid limits) (ends : Ends rest) :
    readExponent (Numeral.exponentChars numeral.exponent ++ rest) =
      some (numeral.exponent.map fun (negative, digits) =>
        if negative then -(decimalValue digits : Int) else decimalValue digits, rest) := by
  cases written : numeral.exponent with
  | none =>
    cases rest with
    | nil => rfl
    | cons c rest =>
      obtain ⟨-, small, large⟩ := ends.not_mark c rfl
      exact if_neg (not_or.mpr ⟨small, large⟩)
  | some part =>
    obtain ⟨negative, digits⟩ := part
    obtain ⟨some, all⟩ := valid.exponent _ written
    have read := readDigits_append all some ends.not_digit
    cases negative <;> simp [Numeral.exponentChars, readExponent, read]

theorem exponentChars_head (numeral : Numeral) (ends : Ends rest) :
    ∀ c ∈ (Numeral.exponentChars numeral.exponent ++ rest).head?, isDigit c = false ∧ c ≠ '.' := by
  intro c member
  cases written : numeral.exponent with
  | none =>
    rw [written] at member
    exact ⟨ends.not_digit c member, (ends.not_mark c member).1⟩
  | some part =>
    rw [written] at member
    cases member
    decide

theorem readFraction_chars (valid : numeral.Valid limits) {behind : List Char}
    (stop : ∀ c ∈ behind.head?, isDigit c = false ∧ c ≠ '.') :
    readFraction ((if numeral.fraction = [] then [] else '.' :: numeral.fraction) ++ behind) =
      some (numeral.fraction, behind) := by
  split
  · next none =>
    rw [none, List.nil_append]
    unfold readFraction
    split
    · exact absurd rfl (stop _ rfl).2
    · rfl
  · next some => exact readDigits_append valid.fraction some fun c member => (stop c member).1

/-- A numeral is read whole, and what it stands for is told by whether it has a point or an exponent. -/
theorem readNumber_chars (valid : numeral.Valid limits) (ends : Ends rest) (negative : Bool) :
    readNumber limits negative (numeral.chars ++ rest) =
      some (if numeral.fraction = [] ∧ numeral.exponent = none then
          .int (if negative then -(decimalValue numeral.whole : Int) else decimalValue numeral.whole)
        else .float (.ofDecimal negative (decimalValue (numeral.whole ++ numeral.fraction)) numeral.lastExponent),
        rest) := by
  have marked := exponentChars_head numeral ends
  -- The digits end at a point, at an exponent, or where the value ends.
  have stop : ∀ c ∈ ((if numeral.fraction = [] then [] else '.' :: numeral.fraction) ++
      (Numeral.exponentChars numeral.exponent ++ rest)).head?, isDigit c = false := by
    split
    · exact fun c member => (marked c member).1
    · rintro _ ⟨⟩
      rfl
  have leading : ¬(1 < numeral.whole.length ∧ numeral.whole.head? = some '0') :=
    fun ⟨long, zero⟩ => valid.leading long zero
  unfold readNumber Numeral.chars
  rw [List.append_assoc, List.append_assoc, readDigits_append valid.whole valid.some stop]
  dsimp only [bind, Option.bind]
  rw [if_neg leading, if_neg (Nat.not_lt.mpr valid.short), readFraction_chars valid marked]
  dsimp only
  rw [readExponent_chars valid ends]
  dsimp only
  unfold Numeral.lastExponent
  cases numeral.fraction <;> cases numeral.exponent <;> rfl

/-- A sign and a numeral are read as the number of that sign. -/
theorem readAtom_chars (valid : numeral.Valid limits) (negative : Bool) (rest : List Char) :
    readAtom limits ((if negative then ['-'] else []) ++ (numeral.chars ++ rest)) =
      readNumber limits negative (numeral.chars ++ rest) := by
  obtain ⟨c, tail, written⟩ := List.exists_cons_of_ne_nil valid.some
  have digit : isDigit c = true := valid.whole c (by rw [written]; exact List.mem_cons_self)
  have first : ∃ behind, numeral.chars ++ rest = c :: behind := ⟨_, by rw [Numeral.chars, written]; rfl⟩
  obtain ⟨behind, same⟩ := first
  rw [same]
  have letters : c ≠ 't' ∧ c ≠ 'f' ∧ c ≠ 'n' ∧ c ≠ 'N' ∧ c ≠ 'I' ∧ c ≠ '-' := by
    refine ⟨?_, ?_, ?_, ?_, ?_, ?_⟩ <;> rintro rfl <;> exact absurd digit (by decide)
  obtain ⟨t, f, n, nan, inf, minus⟩ := letters
  cases negative with
  | true =>
    rw [if_pos rfl, List.singleton_append]
    unfold readAtom
    split <;> grind
  | false =>
    rw [if_neg Bool.false_ne_true, List.nil_append]
    unfold readAtom
    split <;> grind

end

/-- The digits of a number as a numeral. -/
def Numeral.ofNat (n : Nat) : Numeral := { whole := Nat.toDigits 10 n }

theorem Numeral.ofNat_valid {limits : Limits} {n : Nat} (some : 0 < limits.digits) (short : n < 10 ^ limits.digits) :
    (Numeral.ofNat n).Valid limits where
  whole := isDigit_toDigits
  some := Nat.toDigits_ne_nil
  leading long := by
    rcases Nat.eq_zero_or_pos n with rfl | positive
    · exact absurd long (by decide)
    · exact head?_toDigits positive
  short := (Nat.length_toDigits_le_iff (by decide) some).mpr short
  fraction c member := absurd member List.not_mem_nil
  exponent part member := by cases member

theorem toList_toString_int (n : Int) :
    (toString n).toList = (if n < 0 then ['-'] else []) ++ Nat.toDigits 10 n.natAbs := by
  cases n with
  | ofNat m => exact Nat.toList_repr
  | negSucc m =>
    rw [if_pos (Int.negSucc_lt_zero m), show toString (Int.negSucc m) = "-" ++ toString (m + 1) from rfl,
      String.toList_append, Nat.toString_eq_repr, Nat.toList_repr]
    rfl

/-- An integer is read from its text. -/
theorem readAtom_int {limits : Limits} {n : Int} {rest : List Char} (some : 0 < limits.digits)
    (short : n.natAbs < 10 ^ limits.digits) (ends : Ends rest) :
    readAtom limits ((toString n).toList ++ rest) = Option.some (.int n, rest) := by
  have valid := Numeral.ofNat_valid some short
  have chars : (Numeral.ofNat n.natAbs).chars = Nat.toDigits 10 n.natAbs := by
    simp [Numeral.chars, Numeral.ofNat, Numeral.exponentChars]
  have read := readAtom_chars valid (decide (n < 0)) rest
  rw [readNumber_chars valid ends, chars] at read
  have plain : (Numeral.ofNat n.natAbs).fraction = [] ∧ (Numeral.ofNat n.natAbs).exponent = none := ⟨rfl, rfl⟩
  rw [if_pos plain] at read
  have value : (if decide (n < 0) = true then -(decimalValue (Numeral.ofNat n.natAbs).whole : Int)
      else decimalValue (Numeral.ofNat n.natAbs).whole) = n := by
    rw [Numeral.ofNat, decimalValue_toDigits]
    simp only [decide_eq_true_eq]
    omega
  rw [value] at read
  rw [toList_toString_int, List.append_assoc]
  simpa only [decide_eq_true_eq] using read

/-- A numeral with a point or an exponent that stands for a decimal, in few digits. -/
structure Numeral.Writes (limits : Limits) (numeral : Numeral) (x : Decimal) : Prop where
  valid : numeral.Valid limits
  real : ¬(numeral.fraction = [] ∧ numeral.exponent = none)
  few : decimalValue (numeral.whole ++ numeral.fraction) ≤ 10 ^ 40
  value : Decimal.value ⟨decimalValue (numeral.whole ++ numeral.fraction), numeral.lastExponent⟩ = x.value

section
variable {limits : Limits} {numeral : Numeral} {x : Decimal}

/-- A numeral of the same digits with the same last exponent. -/
theorem Numeral.Valid.writes (valid : numeral.Valid limits) (real : numeral.fraction = [] → numeral.exponent ≠ none)
    (few : x.digits ≤ 10 ^ 20) (digits : decimalValue (numeral.whole ++ numeral.fraction) = x.digits)
    (last : numeral.lastExponent = x.exponent) : numeral.Writes limits x where
  valid := valid
  real := fun ⟨pointless, plain⟩ => real pointless plain
  few := digits.trans_le (few.trans (by decide))
  value := by rw [digits, last]

/-- The whole digits, zeros behind them and a fraction of zero. -/
theorem writes_whole (positive : 0 < x.digits) (natural : 0 ≤ x.exponent)
    (short : ((Nat.toDigits 10 x.digits).length : Int) + x.exponent ≤ 16) (room : 16 ≤ limits.digits) :
    Numeral.Writes limits
      { whole := Nat.toDigits 10 x.digits ++ List.replicate x.exponent.toNat '0', fraction := ['0'] } x := by
  obtain ⟨count, same⟩ := Int.eq_ofNat_of_zero_le natural
  rw [same] at short ⊢
  rw [Int.toNat_natCast]
  have shifted : decimalValue (Nat.toDigits 10 x.digits ++ List.replicate count '0' ++ ['0']) =
      10 ^ (count + 1) * x.digits := by
    rw [List.append_assoc, ← List.replicate_succ', decimalValue_toDigits_zeros]
  have digits : x.digits < 10 ^ (Nat.toDigits 10 x.digits).length :=
    (Nat.length_toDigits_le_iff (by decide) Nat.length_toDigits_pos).mp (Nat.le_refl _)
  constructor
  case valid =>
    refine ⟨isDigit_append isDigit_toDigits isDigit_zeros, List.append_ne_nil_of_left_ne_nil Nat.toDigits_ne_nil _,
      fun _ => ?_, ?_, List.forall_mem_singleton.mpr rfl, fun part member => by cases member⟩
    · rw [List.head?_append_of_ne_nil _ Nat.toDigits_ne_nil]
      exact head?_toDigits positive
    · rw [List.length_append, List.length_replicate]
      omega
  case real => exact fun empty => List.cons_ne_nil _ _ empty.1
  case few =>
    rw [shifted]
    calc 10 ^ (count + 1) * x.digits ≤ 10 ^ (count + 1) * 10 ^ (Nat.toDigits 10 x.digits).length :=
          Nat.mul_le_mul_left _ digits.le
      _ = 10 ^ (count + 1 + (Nat.toDigits 10 x.digits).length) := (Nat.pow_add ..).symm
      _ ≤ 10 ^ 40 := Nat.pow_le_pow_right (by decide) (by omega)
  case value =>
    have last : Numeral.lastExponent
        { whole := Nat.toDigits 10 x.digits ++ List.replicate count '0', fraction := ['0'] } = -1 := rfl
    rw [shifted, last, Decimal.value, Decimal.value, same, pow_succ]
    push_cast
    rw [zpow_neg_one, zpow_natCast]
    ring

/-- The digits with a point among them. -/
theorem writes_split (places : Nat) (positive : 0 < x.digits) (some : 0 < places)
    (inner : places < (Nat.toDigits 10 x.digits).length) (room : places ≤ limits.digits)
    (few : x.digits ≤ 10 ^ 20) (exponent : x.exponent = places - (Nat.toDigits 10 x.digits).length) :
    Numeral.Writes limits
      { whole := (Nat.toDigits 10 x.digits).take places, fraction := (Nat.toDigits 10 x.digits).drop places } x := by
  have first : ((Nat.toDigits 10 x.digits).take places).head? = (Nat.toDigits 10 x.digits).head? := by
    rw [List.head?_take, if_neg (by omega)]
  refine Numeral.Valid.writes ⟨fun c member => isDigit_toDigits c (List.mem_of_mem_take member), ?_, fun _ => ?_, ?_,
    fun c member => isDigit_toDigits c (List.mem_of_mem_drop member), fun part member => by cases member⟩ ?_ few ?_ ?_
  · simp [some.ne']
  · dsimp only
    rw [first]
    exact head?_toDigits positive
  · exact (List.length_take_le _ _).trans room
  · intro none
    exact absurd (List.drop_eq_nil_iff.mp none) (by omega)
  · rw [List.take_append_drop, decimalValue_toDigits]
  · simp only [Numeral.lastExponent, List.length_drop]
    omega

/-- The digits behind a point and zeros. -/
theorem writes_small (zeros : Nat) (room : 0 < limits.digits) (few : x.digits ≤ 10 ^ 20)
    (exponent : x.exponent = -((zeros : Int) + (Nat.toDigits 10 x.digits).length)) :
    Numeral.Writes limits
      { whole := ['0'], fraction := List.replicate zeros '0' ++ Nat.toDigits 10 x.digits } x := by
  refine Numeral.Valid.writes ⟨List.forall_mem_singleton.mpr rfl, List.cons_ne_nil _ _,
    fun long => absurd long (Nat.lt_irrefl 1), room, isDigit_append isDigit_zeros isDigit_toDigits,
    fun part member => by cases member⟩ ?_ few ?_ ?_
  · intro none
    exact absurd (List.append_eq_nil_iff.mp none).2 Nat.toDigits_ne_nil
  · rw [← List.append_assoc, List.singleton_append, ← List.replicate_succ, decimalValue_zeros_toDigits]
  · simp only [Numeral.lastExponent, List.length_append, List.length_replicate]
    omega

/-- One digit before the point, and an exponent that counts the digits behind it. -/
theorem writes_scientific {leading : Int} (zeros : Nat) (room : 0 < limits.digits)
    (few : x.digits ≤ 10 ^ 20) (exponent : leading = x.exponent + (Nat.toDigits 10 x.digits).length - 1) :
    Numeral.Writes limits
      { whole := (Nat.toDigits 10 x.digits).take 1, fraction := (Nat.toDigits 10 x.digits).drop 1,
        exponent := some (decide (leading < 0), List.replicate zeros '0' ++ Nat.toDigits 10 leading.natAbs) } x := by
  have digits : 0 < (Nat.toDigits 10 x.digits).length := Nat.length_toDigits_pos
  refine Numeral.Valid.writes ⟨fun c member => isDigit_toDigits c (List.mem_of_mem_take member), ?_, fun long => ?_,
    (List.length_take_le _ _).trans room, fun c member => isDigit_toDigits c (List.mem_of_mem_drop member), ?_⟩
    (fun _ => Option.some_ne_none _) few ?_ ?_
  · simp
  · exact absurd (List.length_take_le _ _) (Nat.not_le.mpr long)
  · rintro _ ⟨⟩
    exact ⟨List.append_ne_nil_of_right_ne_nil _ Nat.toDigits_ne_nil, isDigit_append isDigit_zeros isDigit_toDigits⟩
  · rw [List.take_append_drop, decimalValue_toDigits]
  · simp only [Numeral.lastExponent, decimalValue_zeros_toDigits, decide_eq_true_eq, List.length_drop]
    omega

/-- Every layout of a decimal is a numeral that writes it. -/
theorem exists_writes (style : FloatStyle) (top : style.high ≤ 16) (positive : 0 < x.digits) (few : x.digits ≤ 10 ^ 20)
    (room : 16 ≤ limits.digits) :
    ∃ numeral : Numeral, numeral.Writes limits x ∧ (x.render style).toList = numeral.chars := by
  have digits : 0 < (Nat.toDigits 10 x.digits).length := Nat.length_toDigits_pos
  have text : (toString x.digits).toList = Nat.toDigits 10 x.digits := by rw [Nat.toString_eq_repr, Nat.toList_repr]
  have length : (toString x.digits).length = (Nat.toDigits 10 x.digits).length := by rw [← String.length_toList, text]
  have zeros (count : Nat) : (zeroDigits count).toList = List.replicate count '0' := String.toList_ofList
  unfold Decimal.render
  dsimp only
  rw [length]
  split
  · -- The notation depends on where the point falls: behind the digits, among them, before them, or far away.
    next positional =>
    split
    · next natural =>
      refine ⟨_, writes_whole positive natural (by omega) room, ?_⟩
      simp [Numeral.chars, Numeral.exponentChars, zeros]
    · split
      · next among =>
        refine ⟨_, writes_split ((x.exponent + (Nat.toDigits 10 x.digits).length - 1).toNat + 1) positive
          (Nat.succ_pos _) (by omega) (by omega) few (by omega), ?_⟩
        simp [Numeral.chars, Numeral.exponentChars]
        omega
      · next behind =>
        refine ⟨_, writes_small (-(x.exponent + (Nat.toDigits 10 x.digits).length - 1) - 1).toNat (by omega)
          few (by omega), ?_⟩
        simp [Numeral.chars, Numeral.exponentChars, zeros]
  · next scientific =>
    refine ⟨_, writes_scientific (style.exponentDigits -
      (toString (x.exponent + (Nat.toDigits 10 x.digits).length - 1).natAbs).length) (by omega) few rfl, ?_⟩
    by_cases single : (Nat.toDigits 10 x.digits).tail = [] <;>
      by_cases negative : x.exponent + (Nat.toDigits 10 x.digits).length < 1 <;>
        simp [Numeral.chars, Numeral.exponentChars, padDigits, zeros, single, negative]

end

/-- The zero with a point. -/
def Numeral.zero : Numeral := { whole := ['0'], fraction := ['0'] }

theorem Numeral.zero_valid {limits : Limits} (room : 0 < limits.digits) : Numeral.zero.Valid limits where
  whole := List.forall_mem_singleton.mpr rfl
  some := List.cons_ne_nil _ _
  leading long := absurd long (Nat.lt_irrefl 1)
  short := room
  fraction := List.forall_mem_singleton.mpr rfl
  exponent part member := by cases member

/-- A finite number is read from its text. -/
theorem readAtom_float {limits : Limits} {x : Binary64} {rest : List Char} (room : 16 ≤ limits.digits)
    (finite : x.isFinite = true) (ends : Ends rest) :
    readAtom limits ((Style.document.float x).toList ++ rest) = some (.float x, rest) := by
  have below : x.magnitude < binary64.infinity := of_decide_eq_true finite
  have number : x.isNaN = false := decide_eq_false (by omega)
  have bounded : x.isInfinite = false := decide_eq_false (by omega)
  -- Zero has a spelling of its own; every other number is its shortest decimal.
  have text : (Style.document.float x).toList = (if x.negative then ['-'] else []) ++
      (if x.isZero then "0.0" else (Decimal.shortest binary64 x.magnitude).render .document).toList := by
    simp only [Style.document, finite, Binary64.render, number, bounded, if_true, Bool.false_eq_true, if_false]
    split <;> split <;> rw [String.toList_append] <;> rfl
  rw [text, List.append_assoc]
  cases zero : x.isZero with
  | true =>
    have none : x.magnitude = 0 := of_decide_eq_true zero
    have valid : Numeral.zero.Valid limits := Numeral.zero_valid (by omega)
    have real : ¬(Numeral.zero.fraction = [] ∧ Numeral.zero.exponent = Option.none) := fun empty =>
      List.cons_ne_nil _ _ empty.1
    have read := readAtom_chars valid x.negative rest
    rw [readNumber_chars valid ends, if_neg real] at read
    have value : Binary64.ofMagnitude x.negative 0 = x := by rw [← none, x.ofMagnitude_magnitude]
    rw [if_pos rfl, show "0.0".toList = ['0', '.', '0'] from rfl]
    exact read.trans (congrArg (fun y => some (Json.float y, rest)) value)
  | false =>
    have positive : 0 < x.magnitude := Nat.pos_of_ne_zero (of_decide_eq_false zero)
    obtain ⟨rounds, few⟩ := Decimal.shortest_spec Prod.mk.eta.symm positive below
    obtain ⟨some, -⟩ := Binary64.exponent_bounds Prod.mk.eta.symm positive below (few.trans (by decide)) rounds
    obtain ⟨numeral, writes, chars⟩ := exists_writes .document (Int.le_refl 16) some few room
    have read := readAtom_chars writes.valid x.negative rest
    rw [readNumber_chars writes.valid ends, if_neg writes.real,
      x.ofDecimal_shortest finite zero writes.few writes.value] at read
    rw [if_neg Bool.false_ne_true, chars]
    exact read

end Json

end LayerGraph
