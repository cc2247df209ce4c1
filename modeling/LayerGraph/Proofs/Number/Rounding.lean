import LayerGraph.Number.Binary
import Mathlib.Algebra.Order.Archimedean.Basic
import Mathlib.Algebra.Order.Field.Power
import Mathlib.Data.Rat.Cast.Order
import Mathlib.Tactic.FieldSimp
import Mathlib.Tactic.Linarith
import Mathlib.Tactic.Positivity
import Mathlib.Tactic.Ring

/-! Quotients that round to a magnitude.

A magnitude is a mantissa times a power of two, and the quotients that round to it lie between the points halfway to its
two neighbours. Under a power of two the lower neighbour is half as far away. The points themselves round to it when its
mantissa is even.
-/

set_option autoImplicit false

namespace LayerGraph.Number

theorem roundQuotient_eq_of_le {num den k : Nat} (positive : 0 < den) (low : 2 * k * den ≤ 2 * num + den)
    (high : 2 * num ≤ 2 * k * den + den)
    (inside : k % 2 = 0 ∨ 2 * k * den < 2 * num + den ∧ 2 * num < 2 * k * den + den) : roundQuotient num den = k := by
  have whole : den * (num / den) + num % den = num := Nat.div_add_mod num den
  have rest : num % den < den := Nat.mod_lt _ positive
  unfold roundQuotient
  dsimp only
  generalize num / den = quotient at whole ⊢
  generalize num % den = left at whole rest ⊢
  subst whole
  -- Only the integers next to the quotient are within a half of it.
  have near : k = quotient ∨ k = quotient + 1 := by
    rcases Nat.lt_trichotomy k quotient with less | same | more
    · have := Nat.mul_le_mul_left den (show k + 1 ≤ quotient from less)
      nlinarith
    · exact .inl same
    · rcases Nat.eq_or_lt_of_le (show quotient + 1 ≤ k from more) with same | more
      · exact .inr same.symm
      · have := Nat.mul_le_mul_left den (show quotient + 2 ≤ k from more)
        nlinarith
  rcases near with rfl | rfl
  · have small : 2 * left ≤ den := by nlinarith
    rcases Nat.lt_or_eq_of_le small with less | tie
    · rw [if_pos less]
    · have even : k % 2 = 0 := by
        refine inside.resolve_right fun ⟨_, below⟩ => ?_
        nlinarith
      rw [if_neg (by omega), if_neg (by omega), even, Nat.add_zero]
  · have large : den ≤ 2 * left := by nlinarith
    rcases Nat.lt_or_eq_of_le large with less | tie
    · rw [if_neg (by omega), if_pos less]
    · have odd : quotient % 2 = 1 := by
        have even := inside.resolve_right fun ⟨above, _⟩ => by nlinarith
        omega
      rw [if_neg (by omega), if_neg (by omega), odd]

/-- Quotients within a half of an integer round to it, at a distance of exactly a half only if the integer is even. -/
theorem roundQuotient_eq {num den k : Nat} (positive : 0 < den) (low : (k : ℚ) - 1 / 2 ≤ num / den)
    (high : (num : ℚ) / den ≤ k + 1 / 2)
    (inside : k % 2 = 0 ∨ (k : ℚ) - 1 / 2 < num / den ∧ (num : ℚ) / den < k + 1 / 2) : roundQuotient num den = k := by
  have pos : (0 : ℚ) < den := by exact_mod_cast positive
  refine roundQuotient_eq_of_le positive ?_ ?_ (inside.imp_right fun ⟨above, below⟩ => ⟨?_, ?_⟩)
  · rw [le_div_iff₀ pos] at low
    have : (2 * k * den : ℚ) ≤ 2 * num + den := by linarith
    exact_mod_cast this
  · rw [div_le_iff₀ pos] at high
    have : (2 * num : ℚ) ≤ 2 * k * den + den := by linarith
    exact_mod_cast this
  · rw [lt_div_iff₀ pos] at above
    have : (2 * k * den : ℚ) < 2 * num + den := by linarith
    exact_mod_cast this
  · rw [div_lt_iff₀ pos] at below
    have : (2 * num : ℚ) < 2 * k * den + den := by linarith
    exact_mod_cast this

/-- A power with an integer exponent is compared to a quotient without a fraction. -/
theorem power_le_iff (num : Nat) {den base : Nat} (exponent : Int) (some : 0 < base) (positive : 0 < den) :
    (if 0 ≤ exponent then den * Nat.pow base exponent.toNat ≤ num else den ≤ num * Nat.pow base (-exponent).toNat) ↔
      (base : ℚ) ^ exponent ≤ num / den := by
  have pos : (0 : ℚ) < den := by exact_mod_cast positive
  have pos' : (0 : ℚ) < base := by exact_mod_cast some
  rw [le_div_iff₀ pos]
  split
  · next natural =>
    obtain ⟨n, rfl⟩ := Int.eq_ofNat_of_zero_le natural
    rw [Int.toNat_natCast, zpow_natCast, Nat.mul_comm]
    change base ^ n * den ≤ num ↔ _
    exact_mod_cast Iff.rfl
  · next negative =>
    obtain ⟨n, same⟩ := Int.eq_ofNat_of_zero_le (show 0 ≤ -exponent by omega)
    obtain rfl : exponent = -n := by omega
    rw [Int.neg_neg, Int.toNat_natCast, zpow_neg, zpow_natCast, inv_mul_eq_div, div_le_iff₀ (by positivity)]
    change den ≤ num * base ^ n ↔ _
    exact_mod_cast Iff.rfl

namespace Format

/-- A quotient in units of a power of two, rounded. -/
def mantissaAt (num den : Nat) (unit : Int) : Nat :=
  if 0 ≤ unit then roundQuotient num (den * Nat.pow 2 unit.toNat)
  else roundQuotient (num * Nat.pow 2 (-unit).toNat) den

section
variable {num den : Nat} {unit : Int}

theorem mantissaAt_eq {k : Nat} (positive : 0 < den) (low : (k : ℚ) - 1 / 2 ≤ num / den / 2 ^ unit)
    (high : (num : ℚ) / den / 2 ^ unit ≤ k + 1 / 2)
    (inside : k % 2 = 0 ∨ (k : ℚ) - 1 / 2 < num / den / 2 ^ unit ∧ (num : ℚ) / den / 2 ^ unit < k + 1 / 2) :
    mantissaAt num den unit = k := by
  unfold mantissaAt
  split
  · next natural =>
    have scaled : (num : ℚ) / den / 2 ^ unit = num / (den * Nat.pow 2 unit.toNat : Nat) := by
      obtain ⟨n, rfl⟩ := Int.eq_ofNat_of_zero_le natural
      simp [div_div]
    rw [scaled] at low high inside
    exact roundQuotient_eq (Nat.mul_pos positive (Nat.pow_pos (by decide))) low high inside
  · next negative =>
    have scaled : (num : ℚ) / den / 2 ^ unit = (num * Nat.pow 2 (-unit).toNat : Nat) / den := by
      obtain ⟨n, same⟩ := Int.eq_ofNat_of_zero_le (show 0 ≤ -unit by omega)
      obtain rfl : unit = -n := by omega
      simp [div_eq_mul_inv]
      ring
    rw [scaled] at low high inside
    exact roundQuotient_eq positive low high inside

/-- The bit lengths of a quotient give its binade, or the one above it. -/
theorem quotient_bounds (some : 0 < num) (positive : 0 < den) :
    (2 : ℚ) ^ ((num.log2 : Int) - den.log2 - 1) < num / den ∧
      (num : ℚ) / den < 2 ^ ((num.log2 : Int) - den.log2 + 1) := by
  have pos : (0 : ℚ) < den := by exact_mod_cast positive
  have numLow : ((2 : ℚ) ^ num.log2) ≤ num := by exact_mod_cast Nat.log2_self_le some.ne'
  have numHigh : (num : ℚ) < 2 ^ (num.log2 + 1) := by exact_mod_cast Nat.lt_log2_self
  have denLow : ((2 : ℚ) ^ den.log2) ≤ den := by exact_mod_cast Nat.log2_self_le positive.ne'
  have denHigh : (den : ℚ) < 2 ^ (den.log2 + 1) := by exact_mod_cast Nat.lt_log2_self
  rw [lt_div_iff₀ pos, div_lt_iff₀ pos]
  constructor
  · have scale : (2 : ℚ) ^ ((num.log2 : Int) - den.log2 - 1) * 2 ^ (den.log2 + 1) = 2 ^ num.log2 := by
      rw [← zpow_natCast, ← zpow_natCast, ← zpow_add₀ (by norm_num)]
      congr 1
      push_cast
      ring
    have factor : (0 : ℚ) < 2 ^ ((num.log2 : Int) - den.log2 - 1) := by positivity
    nlinarith
  · have scale : (2 : ℚ) ^ ((num.log2 : Int) - den.log2 + 1) * 2 ^ den.log2 = 2 ^ (num.log2 + 1) := by
      rw [← zpow_natCast, ← zpow_natCast, ← zpow_add₀ (by norm_num)]
      congr 1
      push_cast
      ring
    have factor : (0 : ℚ) < 2 ^ ((num.log2 : Int) - den.log2 + 1) := by positivity
    nlinarith

theorem below_iff (positive : 0 < den) {exponent : Int} :
    (if 0 ≤ exponent then num < den * Nat.pow 2 exponent.toNat else num * Nat.pow 2 (-exponent).toNat < den) ↔
      (num : ℚ) / den < 2 ^ exponent := by
  have reached := power_le_iff num exponent Nat.two_pos positive
  rw [Nat.cast_ofNat] at reached
  rw [← not_le (b := (num : ℚ) / den), ← reached]
  split <;> exact Nat.not_le.symm

/-- A number is in one binade. -/
theorem binade_unique {q : ℚ} {one other : Int} (low : (2 : ℚ) ^ one ≤ q) (high : q < 2 ^ (one + 1))
    (low' : (2 : ℚ) ^ other ≤ q) (high' : q < 2 ^ (other + 1)) : one = other := by
  have less : one < other + 1 := (zpow_lt_zpow_iff_right₀ (by norm_num : (1 : ℚ) < 2)).mp (low.trans_lt high')
  have more : other < one + 1 := (zpow_lt_zpow_iff_right₀ (by norm_num : (1 : ℚ) < 2)).mp (low'.trans_lt high)
  omega

/-- A quotient is rounded in the unit of its binade, or the least one. -/
theorem roundRatio_of_binade (format : Format) (binade : Int) (some : 0 < num) (positive : 0 < den)
    (low : (2 : ℚ) ^ binade ≤ num / den) (high : (num : ℚ) / den < 2 ^ (binade + 1)) :
    let unit := max (binade - format.fraction) format.minUnit
    format.roundRatio num den =
      min ((unit - format.minUnit).toNat * Nat.pow 2 format.fraction + mantissaAt num den unit) format.infinity := by
  have estimated : (if (if 0 ≤ (num.log2 : Int) - den.log2
      then num < den * Nat.pow 2 ((num.log2 : Int) - den.log2).toNat
      else num * Nat.pow 2 (-((num.log2 : Int) - den.log2)).toNat < den) then (num.log2 : Int) - den.log2 - 1
      else (num.log2 : Int) - den.log2) = binade := by
    obtain ⟨above, beneath⟩ := quotient_bounds some positive
    by_cases less : (num : ℚ) / den < 2 ^ ((num.log2 : Int) - den.log2)
    · rw [if_pos ((below_iff positive).mpr less)]
      exact binade_unique above.le (by rwa [Int.sub_add_cancel]) low high
    · rw [if_neg (mt (below_iff positive).mp less)]
      exact binade_unique (not_lt.mp less) beneath low high
  unfold roundRatio
  rw [if_neg some.ne']
  dsimp only
  rw [estimated]
  rfl

end

section
variable {format : Format} {num den : Nat} {unit : Int}

theorem numerator_pos (above : (0 : ℚ) < num / den) : 0 < num := by
  rcases Nat.eq_zero_or_pos num with rfl | positive
  · simp at above
  · exact positive

/-- A quotient with a leading bit in a unit is rounded in it. -/
theorem roundRatio_of_full (positive : 0 < den) (least : format.minUnit ≤ unit)
    (low : (2 : ℚ) ^ format.fraction ≤ num / den / 2 ^ unit)
    (high : (num : ℚ) / den / 2 ^ unit < 2 * 2 ^ format.fraction) :
    format.roundRatio num den =
      min ((unit - format.minUnit).toNat * 2 ^ format.fraction + mantissaAt num den unit) format.infinity := by
  have scale : (0 : ℚ) < 2 ^ unit := by positivity
  rw [le_div_iff₀ scale] at low
  rw [div_lt_iff₀ scale] at high
  have whole : (2 : ℚ) ^ ((format.fraction : Int) + unit) = 2 ^ format.fraction * 2 ^ unit := by
    rw [zpow_add₀ (by norm_num), zpow_natCast]
  have above : (0 : ℚ) < num / den := lt_of_lt_of_le (by positivity) low
  rw [roundRatio_of_binade format (format.fraction + unit) (numerator_pos above) positive (by rwa [whole])
    (by rw [zpow_add_one₀ (by norm_num), whole]; linarith)]
  rw [show max ((format.fraction : Int) + unit - format.fraction) format.minUnit = unit by omega, Nat.pow_eq]

/-- A quotient without a leading bit in the least unit is rounded in it. -/
theorem roundRatio_of_least (positive : 0 < den) (above : (0 : ℚ) < num / den / 2 ^ format.minUnit)
    (high : (num : ℚ) / den / 2 ^ format.minUnit < 2 ^ format.fraction) :
    format.roundRatio num den = min (mantissaAt num den format.minUnit) format.infinity := by
  have scale : (0 : ℚ) < 2 ^ format.minUnit := by positivity
  rw [div_lt_iff₀ scale, ← zpow_natCast, ← zpow_add₀ (by norm_num)] at high
  have above : (0 : ℚ) < num / den := (div_pos_iff_of_pos_right scale).mp above
  obtain ⟨binade, low, high'⟩ := exists_mem_Ico_zpow above (by norm_num : (1 : ℚ) < 2)
  have under : binade < format.fraction + format.minUnit :=
    (zpow_lt_zpow_iff_right₀ (by norm_num : (1 : ℚ) < 2)).mp (low.trans_lt high)
  rw [roundRatio_of_binade format binade (numerator_pos above) positive low high']
  rw [show max (binade - format.fraction) format.minUnit = format.minUnit by omega]
  simp

/-- A quotient less than a quarter of a unit below a power of two rounds up to it. -/
theorem roundRatio_of_beneath (positive : 0 < den) (finer : format.minUnit < unit)
    (low : (2 : ℚ) ^ format.fraction - 1 / 4 ≤ num / den / 2 ^ unit)
    (high : (num : ℚ) / den / 2 ^ unit < 2 ^ format.fraction) :
    format.roundRatio num den =
      min ((unit - format.minUnit).toNat * 2 ^ format.fraction + 2 ^ format.fraction) format.infinity := by
  have halved : (2 : ℚ) ^ unit = 2 * 2 ^ (unit - 1) := by
    rw [← zpow_one_add₀ (by norm_num), add_sub_cancel]
  have doubled : (num : ℚ) / den / 2 ^ (unit - 1) = 2 * (num / den / 2 ^ unit) := by
    rw [halved]
    field_simp
  have power : (1 : ℚ) ≤ 2 ^ format.fraction := one_le_pow₀ (by norm_num)
  rw [roundRatio_of_full positive (show format.minUnit ≤ unit - 1 by omega) (by rw [doubled]; linarith)
    (by rw [doubled]; linarith)]
  -- Twice the mantissa is an even number of the smaller units.
  rw [mantissaAt_eq (k := 2 * 2 ^ format.fraction) positive (by rw [doubled]; push_cast; linarith)
    (by rw [doubled]; push_cast; linarith) (.inl (Nat.mul_mod_right 2 _))]
  have units : (unit - format.minUnit).toNat = (unit - 1 - format.minUnit).toNat + 1 := by omega
  rw [units]
  congr 1
  ring

end

/-- A magnitude as a mantissa in a unit: full mantissas have one leading bit, and only in the least unit is there a
smaller one. -/
structure Composes (format : Format) (magnitude mantissa : Nat) (unit : Int) : Prop where
  bounded : mantissa < 2 ^ (format.fraction + 1)
  least : format.minUnit ≤ unit
  full : format.minUnit < unit → 2 ^ format.fraction ≤ mantissa
  numbered : (unit - format.minUnit).toNat * 2 ^ format.fraction + mantissa = magnitude

theorem composes_decompose (format : Format) (magnitude : Nat) :
    format.Composes magnitude (format.decompose magnitude).1 (format.decompose magnitude).2 := by
  have stored : magnitude % 2 ^ format.fraction < 2 ^ format.fraction := Nat.mod_lt _ (by positivity)
  have whole : 2 ^ format.fraction * (magnitude / 2 ^ format.fraction) + magnitude % 2 ^ format.fraction = magnitude :=
    Nat.div_add_mod _ _
  unfold decompose
  simp only [Nat.pow_eq]
  generalize magnitude % 2 ^ format.fraction = rest at stored whole ⊢
  generalize magnitude / 2 ^ format.fraction = biased at whole ⊢
  subst whole
  split
  · next small =>
    subst small
    exact ⟨by rw [pow_succ]; omega, Int.le_refl _, fun less => absurd less (Int.lt_irrefl _), by simp⟩
  · next large =>
    obtain ⟨count, rfl⟩ := Nat.exists_eq_succ_of_ne_zero large
    refine ⟨by rw [pow_succ]; dsimp only; omega, by dsimp only; omega, fun _ => Nat.le_add_right _ _, ?_⟩
    have units : (format.minUnit + (count + 1 : Nat) - 1 - format.minUnit).toNat = count := by omega
    dsimp only
    rw [Nat.succ_eq_add_one, units]
    ring

theorem Composes.mantissa_pos {format : Format} {magnitude mantissa : Nat} {unit : Int}
    (composes : format.Composes magnitude mantissa unit) (some : 0 < magnitude) : 0 < mantissa := by
  rcases Int.lt_or_eq_of_le composes.least with finer | rfl
  · exact (Nat.pow_pos (by decide)).trans_le (composes.full finer)
  · have := composes.numbered
    rw [Int.sub_self, Int.toNat_zero, Nat.zero_mul, Nat.zero_add] at this
    omega

/-- How far down the reals that round to a mantissa reach, in quarters of its unit. -/
def reach (format : Format) (mantissa : Nat) (unit : Int) : Nat :=
  if mantissa = 2 ^ format.fraction ∧ format.minUnit < unit then 1 else 2

/-- The reals that round to a mantissa in a unit. -/
structure Rounds (format : Format) (mantissa : Nat) (unit : Int) (q : ℚ) : Prop where
  low : (mantissa : ℚ) - format.reach mantissa unit / 4 ≤ q / 2 ^ unit
  high : q / 2 ^ unit ≤ mantissa + 1 / 2
  inside : mantissa % 2 = 0 ∨
    (mantissa : ℚ) - format.reach mantissa unit / 4 < q / 2 ^ unit ∧ q / 2 ^ unit < mantissa + 1 / 2

section
variable {format : Format} {magnitude mantissa num den : Nat} {unit : Int}

theorem reach_le (format : Format) (mantissa : Nat) (unit : Int) : (format.reach mantissa unit : ℚ) ≤ 2 := by
  unfold reach
  split <;> norm_num

theorem one_le_reach (format : Format) (mantissa : Nat) (unit : Int) : (1 : ℚ) ≤ format.reach mantissa unit := by
  unfold reach
  split <;> norm_num

/-- A quotient that rounds to a mantissa is that mantissa in its unit. -/
theorem mantissaAt_of_rounds (positive : 0 < den) (rounds : format.Rounds mantissa unit (num / den)) :
    mantissaAt num den unit = mantissa := by
  have near := format.reach_le mantissa unit
  refine mantissaAt_eq positive (by linarith [rounds.low]) rounds.high ?_
  exact rounds.inside.imp_right fun ⟨above, below⟩ => ⟨by linarith, below⟩

/-- Rounding a quotient finds the magnitude that it rounds to. -/
theorem roundRatio_of_rounds (composes : format.Composes magnitude mantissa unit) (some : 0 < mantissa)
    (finite : magnitude < format.infinity) (positive : 0 < den) (rounds : format.Rounds mantissa unit (num / den)) :
    format.roundRatio num den = magnitude := by
  have same := mantissaAt_of_rounds positive rounds
  have near := format.reach_le mantissa unit
  have one : (1 : ℚ) ≤ mantissa := by exact_mod_cast some
  have above : (0 : ℚ) < num / den / 2 ^ unit := by linarith [rounds.low]
  have bounded : (mantissa : ℚ) + 1 ≤ 2 * 2 ^ format.fraction := by
    have := composes.bounded
    rw [pow_succ'] at this
    exact_mod_cast this
  have found : format.roundRatio num den = min magnitude format.infinity := by
    rw [← composes.numbered]
    by_cases full : (2 : ℚ) ^ format.fraction ≤ num / den / 2 ^ unit
    · rw [roundRatio_of_full positive composes.least full (by linarith [rounds.high]), same]
    · rw [not_le] at full
      rcases Int.lt_or_eq_of_le composes.least with finer | exact
      · obtain rfl : mantissa = 2 ^ format.fraction := by
          have : (mantissa : ℚ) < 2 ^ format.fraction + 1 := by linarith [rounds.low]
          refine Nat.le_antisymm (Nat.lt_succ_iff.mp ?_) (composes.full finer)
          exact_mod_cast this
        refine roundRatio_of_beneath positive finer ?_ full
        have := rounds.low
        rw [reach, if_pos ⟨rfl, finer⟩] at this
        exact_mod_cast this
      · subst exact
        rw [roundRatio_of_least positive above full, same, Int.sub_self, Int.toNat_zero, Nat.zero_mul, Nat.zero_add]
  rw [found, Nat.min_eq_left finite.le]

end

end Format

end LayerGraph.Number
