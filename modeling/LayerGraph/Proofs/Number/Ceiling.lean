import LayerGraph.Proofs.Number.Shortest
import Mathlib.Algebra.Order.Floor.Ring
import Mathlib.Data.Rat.Floor

/-! Ceilings of rounded quotients.

A quotient is rounded to a number that is at most half a unit away. As long as both of its integers fit a mantissa the
units are finer than the distance of a quotient from the integer below it, and no integer is crossed on the way up: the
ceiling is that of the quotient itself.
-/

set_option autoImplicit false

namespace LayerGraph.Number

/-- Rounding moves a quotient by a half at most. -/
theorem roundQuotient_near (num : Nat) {den : Nat} (positive : 0 < den) :
    (roundQuotient num den : ℚ) - 1 / 2 ≤ num / den ∧ (num : ℚ) / den ≤ roundQuotient num den + 1 / 2 := by
  have pos : (0 : ℚ) < den := by exact_mod_cast positive
  have near : 2 * roundQuotient num den * den ≤ 2 * num + den ∧ 2 * num ≤ 2 * roundQuotient num den * den + den := by
    have whole : den * (num / den) + num % den = num := Nat.div_add_mod num den
    have rest : num % den < den := Nat.mod_lt _ positive
    unfold roundQuotient
    dsimp only
    generalize num / den = quotient at whole ⊢
    generalize num % den = left at whole rest ⊢
    subst whole
    have parity : quotient % 2 = 0 ∨ quotient % 2 = 1 := Nat.mod_two_eq_zero_or_one quotient
    split
    · constructor <;> nlinarith
    · split
      · constructor <;> nlinarith
      · rcases parity with even | odd
        · rw [even]
          constructor <;> nlinarith
        · rw [odd]
          constructor <;> nlinarith
  have low : (2 * roundQuotient num den * den : ℚ) ≤ 2 * num + den := by exact_mod_cast near.1
  have high : (2 * num : ℚ) ≤ 2 * roundQuotient num den * den + den := by exact_mod_cast near.2
  rw [le_div_iff₀ pos, div_le_iff₀ pos]
  constructor <;> linarith

namespace Format

/-- A mantissa is at most half a unit away from the quotient that it is rounded from. -/
theorem mantissaAt_near (num : Nat) {den : Nat} (unit : Int) (positive : 0 < den) :
    (mantissaAt num den unit : ℚ) - 1 / 2 ≤ num / den / 2 ^ unit ∧
      (num : ℚ) / den / 2 ^ unit ≤ mantissaAt num den unit + 1 / 2 := by
  unfold mantissaAt
  split
  · next natural =>
    obtain ⟨n, rfl⟩ := Int.eq_ofNat_of_zero_le natural
    have near := roundQuotient_near num (Nat.mul_pos positive (Nat.pow_pos (n := n) Nat.two_pos))
    simpa [div_div] using near
  · next negative =>
    obtain ⟨n, same⟩ := Int.eq_ofNat_of_zero_le (show 0 ≤ -unit by omega)
    obtain rfl : unit = -n := by omega
    have near := roundQuotient_near (num * 2 ^ n) positive
    have scaled : (num : ℚ) / den / 2 ^ (-(n : Int)) = (num * 2 ^ n : Nat) / den := by
      simp [div_eq_mul_inv]
      ring
    rw [scaled]
    simpa using near

/-- The number that a finite magnitude stands for. -/
def value (format : Format) (magnitude : Nat) : ℚ :=
  (format.decompose magnitude).1 * 2 ^ (format.decompose magnitude).2

section
variable {format : Format} {mantissa : Nat} {unit : Int}

theorem value_nonneg (format : Format) (magnitude : Nat) : 0 ≤ format.value magnitude := by
  unfold value
  positivity

/-- A mantissa in a unit is numbered by its magnitude, also when it has been rounded up to the next power of two. -/
theorem value_numbered (least : format.minUnit ≤ unit) (full : format.minUnit < unit → 2 ^ format.fraction ≤ mantissa)
    (bounded : mantissa ≤ 2 * 2 ^ format.fraction) :
    format.value ((unit - format.minUnit).toNat * 2 ^ format.fraction + mantissa) = mantissa * 2 ^ unit := by
  obtain ⟨count, counted⟩ := Int.eq_ofNat_of_zero_le (show 0 ≤ unit - format.minUnit by omega)
  obtain rfl : unit = format.minUnit + count := by omega
  have power : 0 < 2 ^ format.fraction := by positivity
  rw [counted, Int.toNat_natCast]
  unfold value decompose
  simp only [Nat.pow_eq]
  by_cases short : mantissa < 2 ^ format.fraction
  · obtain rfl : count = 0 := by
      by_contra more
      exact absurd (full (by omega)) (Nat.not_le.mpr short)
    simp [Nat.div_eq_of_lt short, Nat.mod_eq_of_lt short]
  · obtain ⟨stored, rfl⟩ := Nat.exists_eq_add_of_le (Nat.not_lt.mp short)
    rcases Nat.lt_or_ge stored (2 ^ format.fraction) with within | carried
    · have split : count * 2 ^ format.fraction + (2 ^ format.fraction + stored) =
          stored + 2 ^ format.fraction * (count + 1) := by ring
      rw [split, Nat.add_mul_div_left _ _ power, Nat.add_mul_mod_self_left, Nat.div_eq_of_lt within,
        Nat.mod_eq_of_lt within, Nat.zero_add, if_neg (Nat.succ_ne_zero count)]
      congr 2
      push_cast
      ring
    · obtain rfl : stored = 2 ^ format.fraction := by omega
      have split : count * 2 ^ format.fraction + (2 ^ format.fraction + 2 ^ format.fraction) =
          2 ^ format.fraction * (count + 2) := by ring
      rw [split, Nat.mul_div_cancel_left _ power, Nat.mul_mod_right, if_neg (Nat.succ_ne_zero (count + 1))]
      have next : format.minUnit + ((count + 2 : Nat) : Int) - 1 = format.minUnit + count + 1 := by
        push_cast
        ring
      dsimp only
      rw [next, zpow_add_one₀ (by norm_num)]
      push_cast
      ring

end

end Format

open Format

namespace Binary64

section
variable {magnitude : Nat}

theorem infinity_lt_sign : binary64.infinity < binary64.sign := by decide

theorem toNat_ofMagnitude (small : magnitude < binary64.sign) : (ofMagnitude false magnitude).bits.toNat = magnitude := by
  unfold ofMagnitude
  rw [if_neg (by decide), Nat.zero_add]
  exact UInt64.toNat_ofNat_of_lt' (Nat.lt_trans small (by decide))

theorem magnitude_ofMagnitude (small : magnitude < binary64.sign) :
    (ofMagnitude false magnitude).magnitude = magnitude := by
  unfold Binary64.magnitude
  rw [toNat_ofMagnitude small, Nat.mod_eq_of_lt small]

theorem negative_ofMagnitude (small : magnitude < binary64.sign) : (ofMagnitude false magnitude).negative = false := by
  unfold negative
  rw [toNat_ofMagnitude small]
  exact decide_eq_false (Nat.not_le.mpr small)

/-- The ceiling of a number is that of the multiple of a power of two that it stands for. -/
theorem ceiling_eq {x : Binary64} (natural : x.negative = false) : x.ceiling = ⌈binary64.value x.magnitude⌉ := by
  unfold ceiling ratio Format.value
  rw [natural]
  generalize binary64.decompose x.magnitude = parts
  obtain ⟨mantissa, unit⟩ := parts
  dsimp only
  rw [if_neg (by decide)]
  have same : (mantissa : ℚ) * 2 ^ unit = ((if 0 ≤ unit then mantissa * Nat.pow 2 unit.toNat else mantissa : Nat) : ℚ) /
      ((if 0 ≤ unit then 1 else Nat.pow 2 (-unit).toNat : Nat) : ℚ) := by
    have power := ratio_zpow 2 unit
    rw [Nat.cast_ofNat] at power
    rw [← power]
    split <;> simp [div_eq_mul_inv]
  rw [same]
  generalize (if 0 ≤ unit then mantissa * Nat.pow 2 unit.toNat else mantissa) = num
  generalize (if 0 ≤ unit then 1 else Nat.pow 2 (-unit).toNat) = den
  have floor : ⌊-((num : ℚ) / den)⌋ = Int.fdiv (-num) den := by
    rw [Int.fdiv_eq_ediv_of_nonneg _ (Int.natCast_nonneg den), ← Rat.floor_intCast_div_natCast, ← neg_div]
    push_cast
    rfl
  exact (congrArg Int.neg floor.symm).trans (Int.ceil_neg.symm.trans (by rw [neg_neg]))

end

section
variable {num den : Nat}

theorem roundRatio_lt_sign (num den : Nat) : binary64.roundRatio num den < binary64.sign := by
  refine Nat.lt_of_le_of_lt ?_ infinity_lt_sign
  unfold Format.roundRatio
  split
  · exact Nat.zero_le _
  · exact Nat.min_le_right _ _

/-- A quotient that is not negative has a ceiling that is not negative. -/
theorem ceiling_ofRatio_nonneg (num den : Nat) : 0 ≤ (ofRatio false num den).ceiling := by
  have small := roundRatio_lt_sign num den
  unfold ofRatio
  rw [ceiling_eq (negative_ofMagnitude small)]
  exact Int.ceil_nonneg (value_nonneg _ _)

/-- A quotient of integers that fit a mantissa fills one in units of a power of two, and the units are finer than the
parts of its denominator. -/
theorem exists_places (some : 0 < num) (positive : 0 < den) (short : num < 2 ^ 53) (shortToo : den < 2 ^ 53) :
    ∃ places : Nat, places ≤ 105 ∧ (2 : ℚ) ^ 52 ≤ num / den * 2 ^ places ∧
      (num : ℚ) / den * 2 ^ places < 2 * 2 ^ 52 ∧ (den : ℚ) < 2 * 2 ^ places := by
  have numPos : (1 : ℚ) ≤ num := by exact_mod_cast some
  have denPos : (0 : ℚ) < den := by exact_mod_cast positive
  have numShort : (num : ℚ) < 2 ^ 53 := by exact_mod_cast short
  have denShort : (den : ℚ) < 2 ^ 53 := by exact_mod_cast shortToo
  have above : (0 : ℚ) < num / den := by positivity
  obtain ⟨binade, low, high⟩ := exists_mem_Ico_zpow above (by norm_num : (1 : ℚ) < 2)
  have under : binade < (53 : Nat) := by
    have whole : (num : ℚ) / den ≤ num := div_le_self (by positivity) (by exact_mod_cast positive)
    refine (zpow_lt_zpow_iff_right₀ (by norm_num : (1 : ℚ) < 2)).mp (low.trans_lt (whole.trans_lt ?_))
    rwa [zpow_natCast]
  have beyond : -(53 : Nat) < binade + 1 := by
    have least : (2 : ℚ) ^ (-((53 : Nat) : Int)) < num / den := by
      rw [zpow_neg, zpow_natCast, lt_div_iff₀ denPos, inv_mul_lt_iff₀ (by positivity)]
      exact denShort.trans_le (le_mul_of_one_le_right (by positivity) numPos)
    exact (zpow_lt_zpow_iff_right₀ (by norm_num : (1 : ℚ) < 2)).mp (least.trans high)
  obtain ⟨places, placed⟩ := Int.eq_ofNat_of_zero_le (show 0 ≤ 52 - binade by omega)
  obtain rfl : binade = (52 : Nat) - (places : Int) := by omega
  have power : (0 : ℚ) < 2 ^ places := by positivity
  rw [zpow_add_one₀ (by norm_num)] at high
  rw [zpow_sub₀ (by norm_num), zpow_natCast, zpow_natCast] at low high
  rw [div_le_iff₀ power] at low
  rw [div_mul_eq_mul_div, lt_div_iff₀ power] at high
  refine ⟨places, by omega, low, by linarith, ?_⟩
  have whole : (2 : ℚ) ^ 52 * den ≤ num * 2 ^ places := by
    rwa [div_mul_eq_mul_div, le_div_iff₀ denPos] at low
  have less : (2 : ℚ) ^ 52 * den < 2 ^ 52 * (2 * 2 ^ places) :=
    whole.trans_lt ((mul_lt_mul_of_pos_right numShort power).trans_eq (by ring))
  exact lt_of_mul_lt_mul_left less (by positivity)

/-- A quotient that fills a mantissa is rounded to a finite number of its units. -/
theorem roundRatio_of_places {places : Nat} (positive : 0 < den) (few : places ≤ 1074)
    (low : (2 : ℚ) ^ 52 ≤ num / den * 2 ^ places) (high : (num : ℚ) / den * 2 ^ places < 2 * 2 ^ 52) :
    binary64.roundRatio num den < binary64.infinity ∧ ∃ mantissa : Nat,
      binary64.value (binary64.roundRatio num den) = mantissa / 2 ^ places ∧
        (mantissa : ℚ) - 1 / 2 ≤ num / den * 2 ^ places ∧ (num : ℚ) / den * 2 ^ places ≤ mantissa + 1 / 2 := by
  have scaled : (num : ℚ) / den / 2 ^ (-(places : Int)) = num / den * 2 ^ places := by
    rw [zpow_neg, zpow_natCast, div_inv_eq_mul]
  have least : binary64.minUnit ≤ -(places : Int) := by
    rw [Decimal.minUnit_binary64]
    omega
  have near := mantissaAt_near num (-(places : Int)) positive
  have rounded := roundRatio_of_full positive least (by rw [scaled]; exact low) (by rw [scaled]; exact high)
  rw [scaled] at near
  generalize mantissaAt num den (-(places : Int)) = mantissa at rounded near
  have full : 2 ^ 52 ≤ mantissa := by
    have : (2 ^ 52 : ℚ) < mantissa + 1 := by linarith [near.2]
    exact Nat.lt_succ_iff.mp (by exact_mod_cast this)
  have bounded : mantissa ≤ 2 * 2 ^ 52 := by
    have : (mantissa : ℚ) < 2 * 2 ^ 52 + 1 := by linarith [near.1]
    exact Nat.lt_succ_iff.mp (by exact_mod_cast this)
  have stands := value_numbered least (fun _ => full) bounded
  have finite : (-(places : Int) - binary64.minUnit).toNat * 2 ^ binary64.fraction + mantissa < binary64.infinity := by
    have most : (-(places : Int) - binary64.minUnit).toNat ≤ 1074 := by
      rw [Decimal.minUnit_binary64]
      omega
    have largest : binary64.infinity = 2047 * 2 ^ 52 := by decide
    change _ * 2 ^ 52 + mantissa < _
    omega
  rw [Nat.min_eq_left finite.le] at rounded
  rw [rounded]
  refine ⟨finite, mantissa, ?_, near⟩
  rw [stands, zpow_neg, zpow_natCast, div_eq_mul_inv]

/-- Rounded in units that are finer than the parts of its denominator, a quotient keeps its ceiling. -/
theorem ceil_of_near {mantissa places : Nat} (positive : 0 < den) (fine : (den : ℚ) < 2 * 2 ^ places)
    (low : (mantissa : ℚ) - 1 / 2 ≤ num / den * 2 ^ places) (high : (num : ℚ) / den * 2 ^ places ≤ mantissa + 1 / 2) :
    ⌈(mantissa : ℚ) / 2 ^ places⌉ = ⌈(num : ℚ) / den⌉ := by
  have denPos : (0 : ℚ) < den := by exact_mod_cast positive
  have power : (0 : ℚ) < 2 ^ places := by positivity
  obtain ⟨after, upto⟩ := Int.ceil_eq_iff.mp (rfl : ⌈(num : ℚ) / den⌉ = _)
  generalize ⌈(num : ℚ) / den⌉ = least at after upto ⊢
  refine Int.ceil_eq_iff.mpr ⟨?_, ?_⟩
  · -- The integer below is one part of the denominator away, which is more than half a unit.
    have apart : (least - 1 : ℚ) + 1 / den ≤ num / den := by
      rw [lt_div_iff₀ denPos] at after
      have step : (least - 1) * (den : Int) < num := by exact_mod_cast after
      rw [le_div_iff₀ denPos, add_mul, one_div_mul_cancel denPos.ne']
      exact_mod_cast Int.add_one_le_of_lt step
    have half : (1 : ℚ) / 2 < 1 / den * 2 ^ places := by
      rw [one_div_mul_eq_div, lt_div_iff₀ denPos]
      linarith
    have := mul_le_mul_of_nonneg_right apart power.le
    rw [lt_div_iff₀ power]
    linarith
  · have : (num : ℚ) / den * 2 ^ places ≤ least * 2 ^ places := mul_le_mul_of_nonneg_right upto power.le
    have : (mantissa : ℚ) < least * 2 ^ places + 1 := by linarith
    have : (mantissa : Int) < least * 2 ^ places + 1 := by exact_mod_cast this
    rw [div_le_iff₀ power]
    exact_mod_cast Int.lt_add_one_iff.mp this

/-- The quotient of integers that fit a mantissa is rounded to a finite number with the ceiling of the quotient. -/
theorem ceiling_ofRatio (some : 0 < num) (positive : 0 < den) (short : num < 2 ^ 53) (shortToo : den < 2 ^ 53) :
    (ofRatio false num den).isInfinite = false ∧ (ofRatio false num den).ceiling = ⌈(num : ℚ) / den⌉ := by
  obtain ⟨places, few, low, high, fine⟩ := exists_places some positive short shortToo
  obtain ⟨finite, mantissa, stands, near⟩ := roundRatio_of_places positive (by omega) low high
  have small := roundRatio_lt_sign num den
  unfold ofRatio
  constructor
  · rw [isInfinite, magnitude_ofMagnitude small]
    exact decide_eq_false finite.ne
  · rw [ceiling_eq (negative_ofMagnitude small), magnitude_ofMagnitude small, stands]
    exact ceil_of_near positive fine near.1 near.2

end

end Binary64

end LayerGraph.Number
