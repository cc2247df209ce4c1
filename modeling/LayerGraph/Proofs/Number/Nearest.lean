import LayerGraph.Proofs.Number.Ceiling

/-! The nearest number to a quotient.

A quotient is rounded in the unit of its binade. Numbers from the binade on are multiples of that unit, of which the
nearest is taken, and numbers below the binade are further away than the power of two that it starts with.
-/

set_option autoImplicit false

namespace LayerGraph.Number

/-- An integer within a half is the nearest one, and another one is as near only at a half. -/
theorem nearest_of_half {k : Nat} {x : ℚ} (near : |(k : ℚ) - x| ≤ 1 / 2) (j : Nat) :
    |(k : ℚ) - x| ≤ |(j : ℚ) - x| ∧ (j ≠ k → |(j : ℚ) - x| = |(k : ℚ) - x| → |(k : ℚ) - x| = 1 / 2) := by
  by_cases same : j = k
  · subst same
    exact ⟨le_rfl, fun differ => absurd rfl differ⟩
  · have apart : (1 : ℚ) ≤ |(j : ℚ) - k| := by
      have whole : (1 : Int) ≤ |(j : Int) - k| := Int.one_le_abs (by omega)
      exact_mod_cast whole
    have triangle : |(j : ℚ) - k| ≤ |(j : ℚ) - x| + |(k : ℚ) - x| := by
      rw [abs_sub_comm (k : ℚ) x]
      exact abs_sub_le _ _ _
    exact ⟨by linarith, fun _ equal => by linarith⟩

namespace Format

/-- A finite magnitude to which no other one is preferred: it is nearest to a number, and even if there are two. -/
structure IsNearest (format : Format) (q : ℚ) (magnitude : Nat) : Prop where
  finite : magnitude < format.infinity
  nearest : ∀ other < format.infinity, |format.value magnitude - q| ≤ |format.value other - q|
  even : ∀ other < format.infinity, format.value other ≠ format.value magnitude →
    |format.value other - q| = |format.value magnitude - q| → magnitude % 2 = 0

section
variable {format : Format} {num den magnitude : Nat} {unit : Int}

/-- A quotient halfway between two multiples of a unit is rounded to the even one. -/
theorem mantissaAt_even (positive : 0 < den)
    (tie : |(mantissaAt num den unit : ℚ) - num / den / 2 ^ unit| = 1 / 2) : mantissaAt num den unit % 2 = 0 := by
  by_contra odd
  -- The even neighbour at the same distance would have been taken.
  rcases eq_or_eq_neg_of_abs_eq tie with above | beneath
  · obtain ⟨k, same⟩ : ∃ k, mantissaAt num den unit = k + 1 := ⟨mantissaAt num den unit - 1, by omega⟩
    rw [same] at above odd
    push_cast at above
    have other : mantissaAt num den unit = k :=
      mantissaAt_eq positive (by linarith) (by linarith) (.inl (by omega))
    omega
  · have other : mantissaAt num den unit = mantissaAt num den unit + 1 :=
      mantissaAt_eq positive (by push_cast; linarith) (by push_cast; linarith) (.inl (by omega))
    omega

/-- Numbers that fill a mantissa in a unit, or are in the least unit, are multiples of it. -/
theorem exists_multiple (filled : unit = format.minUnit ∨ 2 ^ format.fraction * 2 ^ unit ≤ format.value magnitude) :
    ∃ j : Nat, format.value magnitude = j * 2 ^ unit := by
  have composes := composes_decompose format magnitude
  unfold value at filled ⊢
  generalize (format.decompose magnitude).1 = mantissa at composes filled ⊢
  generalize (format.decompose magnitude).2 = own at composes filled ⊢
  rcases lt_or_ge own unit with finer | coarser
  · -- In a finer unit a mantissa that is not full would have to reach as far as a full one.
    have reached := filled.resolve_left fun same => by
      have := composes.least
      omega
    have bounded : (mantissa : ℚ) < 2 ^ format.fraction * 2 := by
      rw [← pow_succ]
      exact_mod_cast composes.bounded
    have next : (2 : ℚ) ^ (own + 1) ≤ 2 ^ unit := zpow_le_zpow_right₀ (by norm_num) (by omega)
    rw [zpow_add_one₀ (by norm_num)] at next
    have power : (0 : ℚ) < 2 ^ own := by positivity
    have factor : (0 : ℚ) < 2 ^ format.fraction := by positivity
    nlinarith
  · obtain ⟨count, rfl⟩ := Int.le.dest coarser
    refine ⟨mantissa * 2 ^ count, ?_⟩
    rw [zpow_add₀ (by norm_num), zpow_natCast]
    push_cast
    ring

/-- The unit that a quotient is rounded in: that of its binade, or the least one. -/
structure UnitOf (format : Format) (q : ℚ) (unit : Int) : Prop where
  least : format.minUnit ≤ unit
  filled : unit = format.minUnit ∨ 2 ^ format.fraction * 2 ^ unit ≤ q
  short : q < 2 * 2 ^ format.fraction * 2 ^ unit

theorem exists_unitOf (format : Format) (some : 0 < num) (positive : 0 < den) : ∃ unit,
    format.UnitOf (num / den) unit ∧ format.roundRatio num den =
      min ((unit - format.minUnit).toNat * 2 ^ format.fraction + mantissaAt num den unit) format.infinity := by
  have above : (0 : ℚ) < num / den := by positivity
  obtain ⟨binade, low, high⟩ := exists_mem_Ico_zpow above (by norm_num : (1 : ℚ) < 2)
  refine ⟨_, ⟨le_max_right _ _, ?_, ?_⟩, roundRatio_of_binade format binade some positive low high⟩
  · refine (max_choice _ _).symm.imp_right fun same => ?_
    rw [same, ← zpow_natCast, ← zpow_add₀ (by norm_num), add_sub_cancel]
    exact low
  · refine high.trans_le ?_
    rw [mul_assoc, ← zpow_natCast, ← zpow_add₀ (by norm_num), ← zpow_one_add₀ (by norm_num)]
    exact zpow_le_zpow_right₀ (by norm_num) (by omega)

section
variable (within : format.UnitOf (num / den) unit) (positive : 0 < den)

include within positive

theorem UnitOf.full (finer : format.minUnit < unit) : 2 ^ format.fraction ≤ mantissaAt num den unit := by
  have low := within.filled.resolve_left finer.ne'
  rw [← le_div_iff₀ (by positivity)] at low
  have near := (mantissaAt_near num unit positive).2
  have : (2 ^ format.fraction : ℚ) < mantissaAt num den unit + 1 := by linarith
  exact Nat.lt_succ_iff.mp (by exact_mod_cast this)

theorem UnitOf.bounded : mantissaAt num den unit ≤ 2 * 2 ^ format.fraction := by
  have high := within.short
  rw [← div_lt_iff₀ (by positivity)] at high
  have near := (mantissaAt_near num unit positive).1
  have : (mantissaAt num den unit : ℚ) < 2 * 2 ^ format.fraction + 1 := by linarith
  exact Nat.lt_succ_iff.mp (by exact_mod_cast this)

/-- A multiple of the unit that a quotient is rounded in is at least as near to it as any other number. -/
theorem UnitOf.nearest (other : Nat) :
    |(mantissaAt num den unit : ℚ) * 2 ^ unit - num / den| ≤ |format.value other - num / den| ∧
      (format.value other ≠ mantissaAt num den unit * 2 ^ unit →
        |format.value other - num / den| = |(mantissaAt num den unit : ℚ) * 2 ^ unit - num / den| →
        mantissaAt num den unit % 2 = 0) := by
  have power : (0 : ℚ) < 2 ^ unit := by positivity
  have even := @mantissaAt_even num den unit positive
  obtain ⟨low, high⟩ := mantissaAt_near num unit positive
  generalize mantissaAt num den unit = k at low high even ⊢
  have near : |(k : ℚ) - num / den / 2 ^ unit| ≤ 1 / 2 := abs_sub_le_iff.mpr ⟨by linarith, by linarith⟩
  have scaled : ∀ j : Nat, |(j : ℚ) * 2 ^ unit - num / den| = |(j : ℚ) - num / den / 2 ^ unit| * 2 ^ unit := by
    intro j
    rw [← abs_of_pos power, ← abs_mul, abs_of_pos power, sub_mul, div_mul_cancel₀ _ power.ne']
  by_cases filled : unit = format.minUnit ∨ 2 ^ format.fraction * 2 ^ unit ≤ format.value other
  · obtain ⟨j, same⟩ := exists_multiple filled
    obtain ⟨nearest, tie⟩ := nearest_of_half near j
    rw [same, scaled, scaled]
    refine ⟨mul_le_mul_of_nonneg_right nearest power.le, fun differ equal => ?_⟩
    refine even (tie (fun same => differ (by rw [same])) (mul_right_cancel₀ power.ne' equal))
  · -- Below the binade every number is further away than its first one.
    rw [not_or, not_le] at filled
    have start := within.filled.resolve_left filled.1
    have closer := mul_le_mul_of_nonneg_right (nearest_of_half near (2 ^ format.fraction)).1 power.le
    rw [← scaled, ← scaled, Nat.cast_pow, Nat.cast_ofNat, abs_of_nonpos (sub_nonpos.mpr start)] at closer
    have away : |format.value other - num / den| = -(format.value other - num / den) :=
      abs_of_neg (by linarith)
    rw [away]
    exact ⟨by linarith, fun _ equal => by linarith⟩

end

/-- A quotient that is not rounded up to infinity is rounded to the nearest number. -/
theorem isNearest_roundRatio (stored : 0 < format.fraction) (some : 0 < num) (positive : 0 < den)
    (finite : format.roundRatio num den < format.infinity) :
    format.IsNearest (num / den) (format.roundRatio num den) := by
  obtain ⟨unit, within, rounded⟩ := exists_unitOf format some positive
  have numbered : format.roundRatio num den =
      (unit - format.minUnit).toNat * 2 ^ format.fraction + mantissaAt num den unit := by omega
  have stands := value_numbered within.least (within.full positive) (within.bounded positive)
  rw [← numbered] at stands
  refine ⟨finite, fun other _ => ?_, fun other _ differ equal => ?_⟩
  · rw [stands]
    exact (within.nearest positive other).1
  · rw [stands] at differ equal
    have even := (within.nearest positive other).2 differ equal
    have whole : 2 ∣ (unit - format.minUnit).toNat * 2 ^ format.fraction := (dvd_pow_self 2 stored.ne').mul_left _
    rw [numbered, Nat.add_mod, even, Nat.mod_eq_zero_of_dvd whole]

end

end Format

open Format

namespace Binary64

/-- Halfway between the largest number and the next power of two. -/
def overflow : Nat := (2 ^ 54 - 1) * 2 ^ 970

theorem cast_overflow : (overflow : ℚ) = (2 ^ 54 - 1) * 2 ^ (970 : Int) := by
  have mantissa : ((2 ^ 54 - 1 : Nat) : ℚ) = 2 ^ 54 - 1 := by norm_num
  rw [overflow, Nat.cast_mul, mantissa, Nat.cast_pow, Nat.cast_ofNat]
  exact congrArg _ (zpow_natCast 2 970).symm

section
variable {num den : Nat}

/-- A quotient is rounded up to infinity from halfway on. -/
theorem roundRatio_eq_infinity (some : 0 < num) (positive : 0 < den) :
    binary64.roundRatio num den = binary64.infinity ↔ (overflow : ℚ) ≤ num / den := by
  obtain ⟨unit, within, rounded⟩ := exists_unitOf binary64 some positive
  have full := within.full positive
  have bounded := within.bounded positive
  have near := mantissaAt_near num unit positive
  have reached := @mantissaAt_eq num den unit (2 * 2 ^ 52) positive
  obtain ⟨least, filled, short⟩ := within
  have fraction : binary64.fraction = 52 := rfl
  have largest : binary64.infinity = 2047 * 2 ^ 52 := by decide
  rw [Decimal.minUnit_binary64] at rounded least filled full
  rw [fraction] at rounded filled short full bounded
  rw [rounded, largest, min_eq_right_iff, cast_overflow]
  generalize mantissaAt num den unit = k at full bounded near reached ⊢
  generalize (num : ℚ) / den = q at near reached filled short ⊢
  have power : (0 : ℚ) < 2 ^ (970 : Int) := by positivity
  rcases lt_trichotomy unit 971 with less | rfl | more
  · -- The binades below end before halfway.
    have below : (2 : ℚ) ^ unit ≤ 2 ^ (970 : Int) := zpow_le_zpow_right₀ (by norm_num) (by omega)
    generalize (2 : ℚ) ^ (970 : Int) = least at below power ⊢
    exact iff_of_false (by omega) (not_le.mpr (by linarith))
  · -- In the last binade halfway is half a unit before the mantissa that is too large.
    have doubled : (2 : ℚ) ^ (971 : Int) = 2 ^ (970 : Int) * 2 := zpow_add_one₀ (by norm_num) 970
    have scaled : (2 ^ 54 - 1) * 2 ^ (970 : Int) ≤ q ↔ (2 * 2 ^ 52 : ℚ) - 1 / 2 ≤ q / 2 ^ (971 : Int) := by
      rw [doubled]
      generalize (2 : ℚ) ^ (970 : Int) = least at power ⊢
      rw [le_div_iff₀ (by linarith)]
      constructor <;> intro bound <;> linarith
    rw [← div_lt_iff₀ (by positivity)] at short
    rw [scaled]
    generalize q / 2 ^ (971 : Int) = x at near reached short ⊢
    constructor
    · intro most
      obtain rfl : k = 2 * 2 ^ 52 := by omega
      exact_mod_cast near.1
    · intro halfway
      have := reached (by exact_mod_cast halfway) (by push_cast; linarith) (.inl (by norm_num))
      omega
  · -- Any binade above begins behind halfway.
    have above : (2 : ℚ) ^ (972 : Int) ≤ 2 ^ unit := zpow_le_zpow_right₀ (by norm_num) (by omega)
    have doubled : (2 : ℚ) ^ (972 : Int) = 2 ^ (970 : Int) * 2 ^ 2 := zpow_add₀ (by norm_num) 970 2
    have low := filled.resolve_left (by omega)
    have := full (by omega)
    rw [doubled] at above
    generalize (2 : ℚ) ^ (970 : Int) = least at above power ⊢
    exact iff_of_true (by omega) (by linarith)

theorem isInfinite_ofRatio (some : 0 < num) (positive : 0 < den) :
    (ofRatio false num den).isInfinite = true ↔ (overflow : ℚ) ≤ num / den := by
  rw [isInfinite, ofRatio, magnitude_ofMagnitude (roundRatio_lt_sign num den), decide_eq_true_eq,
    roundRatio_eq_infinity some positive]

/-- Below halfway the ceiling is taken of the nearest number. -/
theorem exists_nearest_ceiling (some : 0 < num) (positive : 0 < den) (short : (num : ℚ) / den < overflow) :
    ∃ nearest, binary64.IsNearest (num / den) nearest ∧ (ofRatio false num den).ceiling = ⌈binary64.value nearest⌉ := by
  have small := roundRatio_lt_sign num den
  have finite : binary64.roundRatio num den < binary64.infinity := by
    obtain ⟨_, _, rounded⟩ := exists_unitOf binary64 some positive
    refine Nat.lt_of_le_of_ne (rounded ▸ Nat.min_le_right _ _) fun same => ?_
    exact not_le.mpr short ((roundRatio_eq_infinity some positive).mp same)
  refine ⟨_, isNearest_roundRatio (by decide) some positive finite, ?_⟩
  rw [ofRatio, ceiling_eq (negative_ofMagnitude small), magnitude_ofMagnitude small]

theorem value_least : binary64.value 1 = 2 ^ (-1074 : Int) := by
  have parts : binary64.decompose 1 = (1, -1074) := by decide
  rw [Format.value, parts, Nat.cast_one, one_mul]

theorem value_one : binary64.value (1023 * 2 ^ 52) = 1 := by
  have parts : binary64.decompose (1023 * 2 ^ 52) = (2 ^ 52, -52) := by decide
  rw [Format.value, parts]
  norm_num

/-- Between the least number and one nothing is rounded beyond these. -/
theorem ceil_nearest_eq_one {q : ℚ} {nearest : Nat} (rounded : binary64.IsNearest q nearest)
    (low : 2 ^ (-1074 : Int) ≤ q) (high : q ≤ 1) : ⌈binary64.value nearest⌉ = 1 := by
  have least := rounded.nearest 1 (by decide)
  have one := rounded.nearest (1023 * 2 ^ 52) (by decide)
  have power : (0 : ℚ) < 2 ^ (-1074 : Int) := by positivity
  rw [value_least] at least
  rw [value_one] at one
  generalize (2 : ℚ) ^ (-1074 : Int) = bound at low least power
  rw [abs_of_nonpos (by linarith : bound - q ≤ 0), abs_le] at least
  rw [abs_of_nonneg (by linarith : 0 ≤ 1 - q), abs_le] at one
  refine Int.ceil_eq_iff.mpr ⟨?_, ?_⟩
  · push_cast
    linarith [least.1]
  · push_cast
    linarith [one.2]

end

end Binary64

end LayerGraph.Number
