import LayerGraph.Number.Decimal
import LayerGraph.Proofs.Number.Rounding

/-! The shortest decimals of a magnitude read back to it.

An interval is searched on ever finer decimal grids, and some grid of at most eighteen digits is finer than the distance
from the value to the lower end. What is found therefore lies in the interval, and whoever rounds it finds the magnitude
again, in whatever digits it is written.
-/

set_option autoImplicit false

namespace LayerGraph.Number

/-- Powers of ten under powers of two, as far as two fractions near the logarithm tell. -/
theorem ten_zpow_le {n k : Int} (above : 196 * n ≤ 59 * k) (below : 93 * n ≤ 28 * k) : (10 : ℚ) ^ n ≤ 2 ^ k := by
  -- The decimal logarithm of two lies between 59 / 196 and 28 / 93.
  obtain ⟨m, rfl | rfl⟩ := n.eq_nat_or_neg
  · have base : ((10 : ℚ) ^ 59) ^ m ≤ ((2 : ℚ) ^ 196) ^ m := pow_le_pow_left₀ (by positivity) (by norm_num) m
    refine le_of_pow_le_pow_left₀ (n := 59) (by decide) (by positivity) ?_
    calc ((10 : ℚ) ^ (m : Int)) ^ 59 = ((10 : ℚ) ^ 59) ^ m := by rw [zpow_natCast, pow_right_comm]
      _ ≤ ((2 : ℚ) ^ 196) ^ m := base
      _ = 2 ^ (196 * m : Int) := by rw [← pow_mul, ← zpow_natCast]; rfl
      _ ≤ 2 ^ (59 * k) := zpow_le_zpow_right₀ (by norm_num) above
      _ = (2 ^ k) ^ 59 := by rw [mul_comm, zpow_mul]; rfl
  · have base : ((2 : ℚ) ^ 93) ^ m ≤ ((10 : ℚ) ^ 28) ^ m := pow_le_pow_left₀ (by positivity) (by norm_num) m
    refine le_of_pow_le_pow_left₀ (n := 28) (by decide) (by positivity) ?_
    calc ((10 : ℚ) ^ (-m : Int)) ^ 28 = (((10 : ℚ) ^ 28) ^ m)⁻¹ := by
          rw [zpow_neg, zpow_natCast, inv_pow, pow_right_comm]
      _ ≤ (((2 : ℚ) ^ 93) ^ m)⁻¹ := inv_anti₀ (by positivity) base
      _ = 2 ^ (93 * (-m) : Int) := by rw [← pow_mul, mul_neg, zpow_neg, ← zpow_natCast]; rfl
      _ ≤ 2 ^ (28 * k) := zpow_le_zpow_right₀ (by norm_num) below
      _ = (2 ^ k) ^ 28 := by rw [mul_comm, zpow_mul]; rfl

theorem two_zpow_le {n k : Int} (above : 59 * k ≤ 196 * n) (below : 28 * k ≤ 93 * n) : (2 : ℚ) ^ k ≤ 10 ^ n := by
  have inverse := ten_zpow_le (n := -n) (k := -k) (by omega) (by omega)
  rw [zpow_neg, zpow_neg] at inverse
  exact (inv_le_inv₀ (by positivity) (by positivity)).mp inverse

/-- A power with an integer exponent as a quotient of natural numbers. -/
theorem ratio_zpow (base : Nat) (exponent : Int) :
    (((if 0 ≤ exponent then Nat.pow base exponent.toNat else 1 : Nat) : ℚ) /
      (if 0 ≤ exponent then 1 else Nat.pow base (-exponent).toNat : Nat)) = (base : ℚ) ^ exponent := by
  split
  · next natural =>
    obtain ⟨n, rfl⟩ := Int.eq_ofNat_of_zero_le natural
    simp
  · next negative =>
    obtain ⟨n, same⟩ := Int.eq_ofNat_of_zero_le (show 0 ≤ -exponent by omega)
    obtain rfl : exponent = -n := by omega
    simp

section
variable {num den : Nat} {exponent : Int}

theorem reachesPower_iff (positive : 0 < den) :
    reachesPower num den exponent = true ↔ (10 : ℚ) ^ exponent ≤ num / den := by
  have reached := power_le_iff num exponent (show 0 < 10 by decide) positive
  rw [Nat.cast_ofNat] at reached
  rw [← reached, reachesPower]
  split <;> exact decide_eq_true_iff

/-- The leading exponent of a quotient within a wide range of binades. -/
theorem leadingExponent_bounds (some : 0 < num) (positive : 0 < den)
    (range : |(num.log2 : Int) - den.log2| ≤ 10000) :
    (10 : ℚ) ^ leadingExponent num den ≤ num / den ∧ (num : ℚ) / den < 10 ^ (leadingExponent num den + 1) := by
  obtain ⟨above, beneath⟩ := Format.quotient_bounds some positive
  obtain ⟨least, most⟩ := abs_le.mp range
  unfold leadingExponent
  dsimp only
  generalize bits : (num.log2 : Int) - den.log2 = length at *
  generalize estimated : length * 30103 / 100000 = estimate
  -- Within the range the fraction of the estimate is close enough to the logarithm to be off by one at most.
  have low : (10 : ℚ) ^ (estimate - 1) ≤ num / den :=
    (ten_zpow_le (by omega) (by omega)).trans above.le
  have high : (num : ℚ) / den < 10 ^ (estimate + 2) :=
    beneath.trans_le (two_zpow_le (by omega) (by omega))
  split
  · next reached =>
    exact ⟨(reachesPower_iff positive).mp reached, by rwa [Int.add_assoc]⟩
  · next missed =>
    rw [reachesPower_iff positive, not_le] at missed
    split
    · next reached =>
      exact ⟨(reachesPower_iff positive).mp reached, missed⟩
    · next missed =>
      rw [reachesPower_iff positive, not_le] at missed
      exact ⟨low, by rwa [Int.sub_add_cancel]⟩

end

namespace Decimal

/-- The number that a decimal stands for. -/
def value (x : Decimal) : ℚ := x.digits * 10 ^ x.exponent

theorem trim_value (fuel : Nat) (x : Decimal) : (x.trim fuel).value = x.value := by
  induction fuel generalizing x with
  | zero => rfl
  | succ fuel ih =>
    unfold trim
    split
    · next round =>
      have whole : 10 * (x.digits / 10) = x.digits := by omega
      rw [ih]
      unfold value
      conv_rhs => rw [← whole]
      rw [zpow_add_one₀ (by norm_num)]
      push_cast
      ring
    · rfl

theorem trim_digits_le (fuel : Nat) (x : Decimal) : (x.trim fuel).digits ≤ x.digits := by
  induction fuel generalizing x with
  | zero => exact Nat.le_refl _
  | succ fuel ih =>
    unfold trim
    split
    · exact (ih _).trans (Nat.div_le_self _ _)
    · exact Nat.le_refl _

namespace Interval

/-- The numbers of an interval. -/
def Holds (interval : Interval) (q : ℚ) : Prop :=
  if interval.closed then (interval.low : ℚ) / interval.den ≤ q ∧ q ≤ interval.high / interval.den
  else (interval.low : ℚ) / interval.den < q ∧ q < interval.high / interval.den

section
variable {interval : Interval} {leading : Int} {count : Nat} {found : Decimal}

theorem inside_iff (positive : 0 < interval.den) {stepNum stepDen digits : Nat} (scaled : 0 < stepDen) :
    (if interval.closed then interval.low * stepDen ≤ digits * (interval.den * stepNum) &&
        digits * (interval.den * stepNum) ≤ interval.high * stepDen
      else interval.low * stepDen < digits * (interval.den * stepNum) &&
        digits * (interval.den * stepNum) < interval.high * stepDen : Bool) = true ↔
      interval.Holds (digits * (stepNum / stepDen)) := by
  have pos : (0 : ℚ) < interval.den := by exact_mod_cast positive
  have pos' : (0 : ℚ) < stepDen := by exact_mod_cast scaled
  unfold Holds
  rw [← mul_div_assoc]
  split
  · rw [div_le_div_iff₀ pos pos', div_le_div_iff₀ pos' pos, Bool.and_eq_true, decide_eq_true_eq, decide_eq_true_eq]
    have swap : digits * (interval.den * stepNum) = digits * stepNum * interval.den := by ring
    rw [swap]
    exact_mod_cast Iff.rfl
  · rw [div_lt_div_iff₀ pos pos', div_lt_div_iff₀ pos' pos, Bool.and_eq_true, decide_eq_true_eq, decide_eq_true_eq]
    have swap : digits * (interval.den * stepNum) = digits * stepNum * interval.den := by ring
    rw [swap]
    exact_mod_cast Iff.rfl

/-- A grid has a point at or below the value; it yields a point in the interval, or that point is not there. -/
theorem nearest?_cases (positive : 0 < interval.den) (leading : Int) (count : Nat) :
    (∃ digits : Nat, interval.nearest? leading count = some ⟨digits, leading + 1 - count⟩ ∧
        interval.Holds (digits * 10 ^ (leading + 1 - count))) ∨
      ∃ floor : Nat, interval.nearest? leading count = none ∧ ¬interval.Holds (floor * 10 ^ (leading + 1 - count)) ∧
        floor * (10 : ℚ) ^ (leading + 1 - count) ≤ interval.value / interval.den ∧
        interval.value / interval.den < (floor + 1) * (10 : ℚ) ^ (leading + 1 - count) := by
  have scaled : 0 < (if 0 ≤ leading + 1 - count then 1 else Nat.pow 10 (-(leading + 1 - count)).toNat) := by
    split
    · exact Nat.one_pos
    · exact Nat.pow_pos (by decide)
  have stepped : 0 < (if 0 ≤ leading + 1 - count then Nat.pow 10 (leading + 1 - count).toNat else 1) := by
    split
    · exact Nat.pow_pos (by decide)
    · exact Nat.one_pos
  have power := ratio_zpow 10 (leading + 1 - count)
  rw [Nat.cast_ofNat] at power
  rw [← power]
  unfold nearest?
  dsimp only
  generalize leading + 1 - (count : Int) = step at *
  generalize (if 0 ≤ step then Nat.pow 10 step.toNat else 1) = num at *
  generalize (if 0 ≤ step then 1 else Nat.pow 10 (-step).toNat) = den at *
  split
  · next one other => 
    left
    split
    · exact ⟨_, rfl, (inside_iff positive scaled).mp one⟩
    · exact ⟨_, rfl, (inside_iff positive scaled).mp other⟩
  · next one other => exact .inl ⟨_, rfl, (inside_iff positive scaled).mp one⟩
  · next one other => exact .inl ⟨_, rfl, (inside_iff positive scaled).mp other⟩
  · next one other =>
    have pos : (0 : ℚ) < interval.den := by exact_mod_cast positive
    have pos' : (0 : ℚ) < den := by exact_mod_cast scaled
    have cell : 0 < interval.den * num := Nat.mul_pos positive stepped
    refine .inr ⟨interval.value * den / (interval.den * num), rfl, ?_, ?_, ?_⟩
    · rw [← inside_iff positive scaled, one]
      exact Bool.false_ne_true
    · have := Nat.div_mul_le_self (interval.value * den) (interval.den * num)
      rw [← mul_div_assoc, div_le_div_iff₀ pos' pos, mul_assoc, mul_comm (num : ℚ)]
      exact_mod_cast this
    · have := Nat.lt_mul_of_div_lt (Nat.lt_succ_self (interval.value * den / (interval.den * num))) cell
      rw [← mul_div_assoc, div_lt_div_iff₀ pos pos', mul_assoc, mul_comm (num : ℚ)]
      exact_mod_cast this

/-- A grid point that is found lies in the interval. -/
theorem nearest?_holds (positive : 0 < interval.den) (near : interval.nearest? leading count = some found) :
    interval.Holds found.value ∧ found.exponent = leading + 1 - count := by
  rcases nearest?_cases positive leading count with ⟨digits, same, inside⟩ | ⟨_, missed, _⟩
  · cases same.symm.trans near
    exact ⟨inside, rfl⟩
  · cases missed.symm.trans near

/-- A grid finer than the distance to the lower end has a point in the interval. -/
theorem nearest?_isSome (positive : 0 < interval.den) (above : interval.value < interval.high)
    (fine : (10 : ℚ) ^ (leading + 1 - count) ≤ (interval.value - interval.low) / interval.den) :
    (interval.nearest? leading count).isSome := by
  rcases nearest?_cases positive leading count with ⟨digits, same, _⟩ | ⟨floor, _, outside, beneath, past⟩
  · rw [same]
    rfl
  · have pos : (0 : ℚ) < interval.den := by exact_mod_cast positive
    have top : (interval.value : ℚ) / interval.den < interval.high / interval.den :=
      div_lt_div_of_pos_right (by exact_mod_cast above) pos
    rw [sub_div] at fine
    have bottom : (interval.low : ℚ) / interval.den < floor * 10 ^ (leading + 1 - count) := by linarith
    refine absurd ?_ outside
    unfold Holds
    split
    · exact ⟨bottom.le, (beneath.trans_lt top).le⟩
    · exact ⟨bottom, beneath.trans_lt top⟩

theorem search_spec (fuel count extra : Nat) (enough : extra < fuel)
    (fine : (interval.nearest? leading (count + extra)).isSome) :
    ∃ reached ≤ count + extra, interval.nearest? leading reached = some (interval.search leading fuel count) := by
  induction fuel generalizing count extra with
  | zero => exact absurd enough (Nat.not_lt_zero _)
  | succ fuel ih =>
    unfold search
    split
    · next found same => exact ⟨count, Nat.le_add_right _ _, same⟩
    · next missed =>
      rcases extra with - | extra
      · rw [Nat.add_zero, missed] at fine
        exact absurd fine Bool.false_ne_true
      · obtain ⟨reached, within, same⟩ := ih (count + 1) extra (by omega)
          (by rwa [Nat.add_assoc, Nat.add_comm 1])
        exact ⟨reached, by omega, same⟩

end

section
variable {format : Format} {magnitude mantissa : Nat} {unit : Int}

/-- The ends and the middle of an interval are over one denominator, in quarters of a unit. -/
theorem ofMagnitude_scale (same : format.decompose magnitude = (mantissa, unit)) :
    let interval := ofMagnitude format magnitude
    0 < interval.den ∧ ∃ scale : Nat, (scale : ℚ) / interval.den = 2 ^ unit / 4 ∧
      interval.low = (4 * mantissa - format.reach mantissa unit) * scale ∧ interval.value = 4 * mantissa * scale ∧
      interval.high = (4 * mantissa + 2) * scale := by
  have power := ratio_zpow 2 (unit - 2)
  rw [Nat.cast_ofNat, zpow_sub₀ (by norm_num), neg_sub] at power
  simp only [sub_nonneg] at power
  unfold ofMagnitude
  rw [same]
  dsimp only
  refine ⟨?_, _, ?_, rfl, rfl, rfl⟩
  · split
    · exact Nat.one_pos
    · exact Nat.pow_pos (by decide)
  · rw [power]
    norm_num

theorem ofMagnitude_ends (same : format.decompose magnitude = (mantissa, unit)) (some : 0 < mantissa) :
    let interval := ofMagnitude format magnitude
    (interval.low : ℚ) / interval.den = (mantissa - format.reach mantissa unit / 4) * 2 ^ unit ∧
      (interval.value : ℚ) / interval.den = mantissa * 2 ^ unit ∧
      (interval.high : ℚ) / interval.den = (mantissa + 1 / 2) * 2 ^ unit := by
  obtain ⟨-, scale, quarter, low, value, high⟩ := ofMagnitude_scale same
  have near : format.reach mantissa unit ≤ 4 * mantissa := by
    have := format.reach_le mantissa unit
    have : format.reach mantissa unit ≤ 2 := by exact_mod_cast this
    omega
  have scaled (n : Nat) : ((n * scale : Nat) : ℚ) / (ofMagnitude format magnitude).den = n * (2 ^ unit / 4) := by
    rw [Nat.cast_mul, mul_div_assoc, quarter]
  dsimp only
  rw [low, value, high, scaled, scaled, scaled, Nat.cast_sub near]
  push_cast
  refine ⟨?_, ?_, ?_⟩ <;> ring

/-- The interval of a magnitude holds the numbers that round to it. -/
theorem ofMagnitude_holds (same : format.decompose magnitude = (mantissa, unit)) (some : 0 < mantissa) {q : ℚ} :
    (ofMagnitude format magnitude).Holds q ↔ format.Rounds mantissa unit q := by
  have scale : (0 : ℚ) < 2 ^ unit := by positivity
  obtain ⟨low, -, high⟩ := ofMagnitude_ends same some
  have closed : (ofMagnitude format magnitude).closed = decide (mantissa % 2 = 0) := by
    unfold ofMagnitude
    rw [same]
  unfold Holds
  rw [low, high, closed, ← le_div_iff₀ scale, ← div_le_iff₀ scale, ← lt_div_iff₀ scale, ← div_lt_iff₀ scale]
  split
  · next even =>
    exact ⟨fun ⟨above, below⟩ => ⟨above, below, .inl (of_decide_eq_true even)⟩, fun rounds => ⟨rounds.low, rounds.high⟩⟩
  · next odd =>
    refine ⟨fun ⟨above, below⟩ => ⟨above.le, below.le, .inr ⟨above, below⟩⟩, fun rounds => ?_⟩
    exact rounds.inside.resolve_left fun even => odd (decide_eq_true even)

end

end Interval

section
variable {magnitude : Nat}

theorem minUnit_binary64 : binary64.minUnit = -1074 := by decide

theorem decompose_unit_le (finite : magnitude < binary64.infinity) : (binary64.decompose magnitude).2 ≤ 971 := by
  have bound : magnitude / Nat.pow 2 binary64.fraction < 2047 :=
    Nat.div_lt_of_lt_mul (by rwa [Nat.mul_comm])
  unfold Format.decompose
  rw [minUnit_binary64]
  dsimp only
  split
  · exact show (-1074 : Int) ≤ 971 by decide
  · dsimp only
    omega

section
variable {mantissa : Nat} {unit : Int}

/-- The leading digit of a magnitude stands where the leading exponent says. -/
theorem leading_bounds (same : binary64.decompose magnitude = (mantissa, unit)) (some : 0 < magnitude)
    (finite : magnitude < binary64.infinity) :
    let interval := Interval.ofMagnitude binary64 magnitude
    (10 : ℚ) ^ leadingExponent interval.value interval.den ≤ mantissa * 2 ^ unit ∧
      (mantissa : ℚ) * 2 ^ unit < 10 ^ (leadingExponent interval.value interval.den + 1) := by
  have composes := binary64.composes_decompose magnitude
  have top := decompose_unit_le finite
  rw [same] at composes top
  have positive := composes.mantissa_pos some
  have least := composes.least
  rw [minUnit_binary64] at least
  obtain ⟨-, value, -⟩ := Interval.ofMagnitude_ends same positive
  obtain ⟨denPos, -⟩ := Interval.ofMagnitude_scale same
  dsimp only at top least value denPos ⊢
  generalize Interval.ofMagnitude binary64 magnitude = interval at *
  have one : (1 : ℚ) ≤ mantissa := by exact_mod_cast positive
  have bounded : (mantissa : ℚ) < 2 ^ (53 : Int) := by exact_mod_cast composes.bounded
  have scale : (0 : ℚ) < 2 ^ unit := by positivity
  have numerator : 0 < interval.value := by
    refine Format.numerator_pos (?_ : (0 : ℚ) < interval.value / interval.den)
    rw [value]
    positivity
  obtain ⟨above, beneath⟩ := Format.quotient_bounds numerator denPos
  rw [value] at above beneath
  -- The value is at least one unit and less than 2 ^ 53 of them, which bounds its bit lengths.
  have fewest : unit < (interval.value.log2 : Int) - interval.den.log2 + 1 := by
    refine (zpow_lt_zpow_iff_right₀ (by norm_num : (1 : ℚ) < 2)).mp (lt_of_le_of_lt ?_ beneath)
    nlinarith
  have most : (interval.value.log2 : Int) - interval.den.log2 - 1 < 53 + unit := by
    refine (zpow_lt_zpow_iff_right₀ (by norm_num : (1 : ℚ) < 2)).mp (above.trans ?_)
    rw [zpow_add₀ (by norm_num)]
    exact mul_lt_mul_of_pos_right bounded scale
  rw [← value]
  exact leadingExponent_bounds numerator denPos (abs_le.mpr (by omega))

/-- The grid of eighteen digits has a point in every interval. -/
theorem nearest?_eighteen (same : binary64.decompose magnitude = (mantissa, unit)) (some : 0 < magnitude)
    {leading : Int} (leads : (10 : ℚ) ^ leading ≤ mantissa * 2 ^ unit) :
    ((Interval.ofMagnitude binary64 magnitude).nearest? leading 18).isSome := by
  have composes := binary64.composes_decompose magnitude
  rw [same] at composes
  have positive := composes.mantissa_pos some
  obtain ⟨low, value, high⟩ := Interval.ofMagnitude_ends same positive
  obtain ⟨denPos, -⟩ := Interval.ofMagnitude_scale same
  generalize Interval.ofMagnitude binary64 magnitude = interval at *
  have bounded : (mantissa : ℚ) < 2 ^ 53 := by exact_mod_cast composes.bounded
  have scale : (0 : ℚ) < 2 ^ unit := by positivity
  have pos : (0 : ℚ) < interval.den := by exact_mod_cast denPos
  have higher : (interval.value : ℚ) / interval.den < interval.high / interval.den := by
    rw [value, high]
    linarith
  -- The lower end is at least a quarter of a unit away, and 2 ^ 55 is less than 10 ^ 17.
  have quarter : (10 : ℚ) ^ (leading + 1 - (18 : Nat)) ≤ 2 ^ unit / 4 := by
    refine le_of_mul_le_mul_right ?_ (show (0 : ℚ) < 10 ^ (17 : Int) by positivity)
    calc (10 : ℚ) ^ (leading + 1 - (18 : Nat)) * 10 ^ (17 : Int) = 10 ^ leading := by
          rw [← zpow_add₀ (by norm_num)]
          congr 1
          push_cast
          ring
      _ ≤ mantissa * 2 ^ unit := leads
      _ ≤ 2 ^ 53 * 2 ^ unit := mul_le_mul_of_nonneg_right bounded.le scale.le
      _ ≤ 2 ^ unit / 4 * 10 ^ (17 : Int) := by
          norm_num
          linarith
  refine Interval.nearest?_isSome denPos (by exact_mod_cast (div_lt_div_iff_of_pos_right pos).mp higher) ?_
  have reach := binary64.one_le_reach mantissa unit
  rw [sub_div, value, low]
  nlinarith

/-- The shortest decimal of a magnitude rounds to it, and has few digits. -/
theorem shortest_spec (same : binary64.decompose magnitude = (mantissa, unit)) (some : 0 < magnitude)
    (finite : magnitude < binary64.infinity) :
    binary64.Rounds mantissa unit (shortest binary64 magnitude).value ∧
      (shortest binary64 magnitude).digits ≤ 10 ^ 20 := by
  have composes := binary64.composes_decompose magnitude
  rw [same] at composes
  have positive := composes.mantissa_pos some
  obtain ⟨leads, under⟩ := leading_bounds same some finite
  have fine := nearest?_eighteen same some leads
  obtain ⟨denPos, -⟩ := Interval.ofMagnitude_scale same
  unfold shortest
  dsimp only at leads under fine denPos ⊢
  generalize binary : Interval.ofMagnitude binary64 magnitude = interval at *
  generalize leadingExponent interval.value interval.den = leading at *
  obtain ⟨reached, few, found⟩ := Interval.search_spec 20 1 17 (by decide) fine
  obtain ⟨inside, exponent⟩ := Interval.nearest?_holds denPos found
  have rounds : binary64.Rounds mantissa unit (interval.search leading 20 1).value := by
    rwa [← Interval.ofMagnitude_holds same positive, binary]
  refine ⟨by rwa [trim_value], (trim_digits_le _ _).trans ?_⟩
  have one : (1 : ℚ) ≤ mantissa := by exact_mod_cast positive
  have scale : (0 : ℚ) < 2 ^ unit := by positivity
  have beneath := rounds.high
  rw [div_le_iff₀ scale, Decimal.value, exponent] at beneath
  have power : (10 : ℚ) ^ (leading + 1) = 10 ^ (leading + 1 - reached) * 10 ^ reached := by
    rw [← zpow_natCast, ← zpow_add₀ (by norm_num), Int.sub_add_cancel]
  have most : (10 : ℚ) ^ reached ≤ 10 ^ 18 := pow_le_pow_right₀ (by norm_num) few
  have digits : ((interval.search leading 20 1).digits : ℚ) ≤ 2 * 10 ^ reached := by
    refine le_of_mul_le_mul_right ?_ (show (0 : ℚ) < 10 ^ (leading + 1 - reached) by positivity)
    nlinarith
  have : ((interval.search leading 20 1).digits : ℚ) ≤ 10 ^ 20 := by linarith
  exact_mod_cast this

end

end

end Decimal

namespace Binary64

section
variable {magnitude mantissa digits : Nat} {unit exponent : Int}

/-- What rounds to a mantissa of its unit lies between half a unit and the end of the binade. -/
theorem bounds_of_rounds {q : ℚ} (positive : 0 < mantissa) (bounded : mantissa + 1 ≤ 2 ^ 53)
    (rounds : binary64.Rounds mantissa unit q) : (2 : ℚ) ^ (unit - 1) ≤ q ∧ q ≤ 2 ^ (53 + unit) := by
  have one : (1 : ℚ) ≤ mantissa := by exact_mod_cast positive
  have most : (mantissa : ℚ) + 1 ≤ 2 ^ (53 : Int) := by exact_mod_cast bounded
  have reach := binary64.reach_le mantissa unit
  have scale : (0 : ℚ) < 2 ^ unit := by positivity
  have low := rounds.low
  have high := rounds.high
  rw [le_div_iff₀ scale] at low
  rw [div_le_iff₀ scale] at high
  constructor
  · rw [zpow_sub_one₀ (by norm_num)]
    nlinarith
  · rw [zpow_add₀ (by norm_num)]
    nlinarith

/-- A decimal of few digits that rounds to a magnitude is within the powers of ten that are taken. -/
theorem exponent_bounds (same : binary64.decompose magnitude = (mantissa, unit)) (some : 0 < magnitude)
    (finite : magnitude < binary64.infinity) (few : digits ≤ 10 ^ 40)
    (rounds : binary64.Rounds mantissa unit (Decimal.value ⟨digits, exponent⟩)) :
    0 < digits ∧ -364 ≤ exponent ∧ exponent ≤ 309 := by
  have composes := binary64.composes_decompose magnitude
  have top := Decimal.decompose_unit_le finite
  rw [same] at composes top
  have least := composes.least
  rw [Decimal.minUnit_binary64] at least
  obtain ⟨half, whole⟩ := bounds_of_rounds (composes.mantissa_pos some) composes.bounded rounds
  rw [Decimal.value] at half whole
  have nonzero : 0 < digits := by
    rcases Nat.eq_zero_or_pos digits with rfl | positive
    · rw [Nat.cast_zero, zero_mul] at half
      exact absurd half (not_le.mpr (by positivity))
    · exact positive
  have first : (1 : ℚ) ≤ digits := by exact_mod_cast nonzero
  have last : (digits : ℚ) ≤ 10 ^ (40 : Int) := by exact_mod_cast few
  have power : (0 : ℚ) < 10 ^ exponent := by positivity
  refine ⟨nonzero, ?_, ?_⟩
  · have : (10 : ℚ) ^ (-324 : Int) ≤ 10 ^ (40 + exponent) := by
      calc (10 : ℚ) ^ (-324 : Int) ≤ 2 ^ (unit - 1) := ten_zpow_le (by omega) (by omega)
        _ ≤ digits * 10 ^ exponent := half
        _ ≤ 10 ^ (40 : Int) * 10 ^ exponent := mul_le_mul_of_nonneg_right last power.le
        _ = 10 ^ (40 + exponent) := (zpow_add₀ (by norm_num) _ _).symm
    have := (zpow_le_zpow_iff_right₀ (by norm_num : (1 : ℚ) < 10)).mp this
    omega
  · have : (10 : ℚ) ^ exponent ≤ 10 ^ (309 : Int) := by
      calc (10 : ℚ) ^ exponent ≤ digits * 10 ^ exponent := le_mul_of_one_le_left power.le first
        _ ≤ 2 ^ (53 + unit) := whole
        _ ≤ 10 ^ (309 : Int) := two_zpow_le (by omega) (by omega)
    exact (zpow_le_zpow_iff_right₀ (by norm_num : (1 : ℚ) < 10)).mp this

/-- A decimal of few digits is read as the magnitude that it rounds to. -/
theorem ofDecimal_of_rounds (negative : Bool) (same : binary64.decompose magnitude = (mantissa, unit))
    (some : 0 < magnitude) (finite : magnitude < binary64.infinity) (few : digits ≤ 10 ^ 40)
    (rounds : binary64.Rounds mantissa unit (Decimal.value ⟨digits, exponent⟩)) :
    ofDecimal negative digits exponent = ofMagnitude negative magnitude := by
  have composes := binary64.composes_decompose magnitude
  rw [same] at composes
  obtain ⟨nonzero, least, most⟩ := exponent_bounds same some finite few rounds
  -- The two shortcuts are for exponents that no decimal near a finite magnitude has.
  have bits : digits.log2 < 133 := (Nat.log2_lt nonzero.ne').mpr (few.trans_lt (by decide))
  have found {num den : Nat} (positive : 0 < den) (quotient : (num : ℚ) / den = digits * 10 ^ exponent) :
      ofRatio negative num den = ofMagnitude negative magnitude := by
    unfold ofRatio
    rw [Format.roundRatio_of_rounds composes (composes.mantissa_pos some) finite positive (by rwa [quotient])]
  unfold ofDecimal
  dsimp only
  rw [if_neg nonzero.ne', if_neg (by omega), if_neg (by omega)]
  split
  · next natural =>
    obtain ⟨n, rfl⟩ := Int.eq_ofNat_of_zero_le natural
    refine found Nat.one_pos ?_
    simp
  · next below =>
    obtain ⟨n, is⟩ := Int.eq_ofNat_of_zero_le (show 0 ≤ -exponent by omega)
    obtain rfl : exponent = -n := by omega
    refine found (Nat.pow_pos (by decide)) ?_
    simp [div_eq_mul_inv]

end

section
variable (x : Binary64)

/-- A number is its sign and its magnitude. -/
theorem ofMagnitude_magnitude : ofMagnitude x.negative x.magnitude = x := by
  have bound : x.bits.toNat < 2 * binary64.sign := x.bits.toNat_lt
  have sum : (if x.negative then binary64.sign else 0) + x.magnitude = x.bits.toNat := by
    unfold negative magnitude
    generalize binary64.sign = sign at *
    split
    · next high =>
      rw [Nat.mod_eq_sub_mod (of_decide_eq_true high), Nat.mod_eq_of_lt (by omega)]
      exact Nat.add_sub_cancel' (of_decide_eq_true high)
    · next low =>
      rw [Nat.zero_add, Nat.mod_eq_of_lt (Nat.not_le.mp fun high => low (decide_eq_true high))]
  unfold ofMagnitude
  rw [sum, UInt64.ofNat_toNat]

/-- A finite number is read from any writing of its shortest decimal that has few digits. -/
theorem ofDecimal_shortest (finite : x.isFinite = true) (nonzero : x.isZero = false) {digits : Nat} {exponent : Int}
    (few : digits ≤ 10 ^ 40)
    (same : Decimal.value ⟨digits, exponent⟩ = (Decimal.shortest binary64 x.magnitude).value) :
    ofDecimal x.negative digits exponent = x := by
  have some : 0 < x.magnitude := Nat.pos_of_ne_zero (of_decide_eq_false nonzero)
  obtain ⟨rounds, -⟩ := Decimal.shortest_spec (Prod.mk.eta.symm) some (of_decide_eq_true finite)
  rw [← same] at rounds
  exact (ofDecimal_of_rounds x.negative Prod.mk.eta.symm some (of_decide_eq_true finite) few rounds).trans
    x.ofMagnitude_magnitude

end

end Binary64

end LayerGraph.Number
