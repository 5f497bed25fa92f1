/-
  The range of whole numbers that have a nearest double.

  A number of units is rounded to a multiple of a power of two, which fits unless it reaches
  `2 ^ 2098` (`fits_roundUnits_iff`). It does so from half a step below that limit on: the last
  step below it is odd, so the tie goes up (`roundUnits_lt_two_pow_iff`). A whole number is out
  of range exactly if its magnitude is at least `2 ^ 1024 - 2 ^ 970` (`ofInt?_eq_none_iff`).
-/
import ThermalLabel.Proofs.Number.Rounding

namespace ThermalLabel

namespace Binary64

/-! ## The nearest magnitude of 53 bits -/

theorem roundUnits_one (m : Nat) :
    roundUnits m 1 = nearestEven m (2 ^ (m.log2 - 52)) * 2 ^ (m.log2 - 52) := by
  rw [roundUnits, two_pow, Nat.div_one, Nat.one_mul]

theorem fits_roundUnits_iff (num : Nat) {den : Nat} (hden : 0 < den) :
    Fits (roundUnits num den) ↔ roundUnits num den < 2 ^ 2098 := by
  rw [fits_iff, and_iff_right (isPrecise_roundUnits num hden)]
  rcases Nat.eq_zero_or_pos (roundUnits num den) with h | h
  · rw [h]
    exact iff_of_true fits_zero.2 (pow_pos two_pos 2098)
  · generalize 2098 = limit
    exact Nat.log2_lt (Nat.ne_of_gt h)

theorem eq_zero_of_roundUnits {m : Nat} (h : roundUnits m 1 = 0) : m = 0 := by
  rcases Nat.eq_zero_or_pos m with hm | hm
  · exact hm
  · have hle : 2 ^ (m / 1).log2 ≤ roundUnits m 1 :=
      two_pow_le_roundUnits Nat.one_pos (by rw [Nat.div_one]; omega)
    rw [h] at hle
    exact absurd (Nat.two_pow_pos _) (Nat.not_lt_of_le hle)

/-- Of the magnitudes in the last binade below a power of two, those nearer than half a step are
    rounded to the power. -/
theorem roundUnits_lt_of_log2 {m s : Nat} (h : m.log2 = s + 53) :
    roundUnits m 1 < 2 ^ (s + 54) ↔ m < 2 ^ (s + 54) - 2 ^ s := by
  have hstep : 2 ^ (s + 1) = 2 * 2 ^ s := by rw [Nat.pow_succ, Nat.mul_comm]
  have hfull : 2 ^ (s + 54) = 2 ^ 53 * 2 ^ (s + 1) := by
    rw [← Nat.pow_add]
    congr 1
    omega
  have hexponent : m.log2 - 52 = s + 1 := by omega
  have hlast := nearestEven_le_iff m (Nat.two_pow_pos (s + 1)) (2 ^ 53 - 1)
  rw [roundUnits_one, hexponent, hfull]
  generalize nearestEven m (2 ^ (s + 1)) = q at hlast ⊢
  have hq : q * 2 ^ (s + 1) < 2 ^ 53 * 2 ^ (s + 1) ↔ q ≤ 2 ^ 53 - 1 := by
    rw [← Nat.lt_iff_le_pred (Nat.two_pow_pos 53)]
    exact ⟨fun hlt => Nat.lt_of_mul_lt_mul_right hlt,
      fun hlt => Nat.mul_lt_mul_of_pos_right hlt (Nat.two_pow_pos _)⟩
  rw [hq, hlast, hstep]
  generalize 2 ^ s = step
  omega

/-- Rounding reaches a power of two from half a step below it on. -/
theorem roundUnits_lt_two_pow_iff (s m : Nat) :
    roundUnits m 1 < 2 ^ (s + 54) ↔ m < 2 ^ (s + 54) - 2 ^ s := by
  have hhalf : 2 ^ (s + 54) = 2 ^ (s + 53) + 2 ^ (s + 53) := by
    rw [Nat.pow_succ, Nat.mul_two]
  have hle : 2 ^ s ≤ 2 ^ (s + 53) := Nat.pow_le_pow_right (by decide) (by omega)
  have hpos : 0 < 2 ^ s := Nat.two_pow_pos s
  rcases Nat.lt_trichotomy m.log2 (s + 53) with hlt | heq | hgt
  · have hm : m < 2 ^ (m.log2 + 1) := Nat.lt_log2_self
    have hpow : 2 ^ (m.log2 + 1) ≤ 2 ^ (s + 53) := Nat.pow_le_pow_right (by decide) hlt
    have hround := roundUnits_le_two_pow m Nat.one_pos
    rw [Nat.div_one] at hround
    exact iff_of_true (by omega) (by omega)
  · exact roundUnits_lt_of_log2 heq
  · have hm : m ≠ 0 := by
      rintro rfl
      rw [Nat.log2_zero] at hgt
      exact Nat.not_lt_zero _ hgt
    have hself : 2 ^ m.log2 ≤ m := Nat.log2_self_le hm
    have hpow : 2 ^ (s + 54) ≤ 2 ^ m.log2 := Nat.pow_le_pow_right (by decide) hgt
    have hround : 2 ^ (m / 1).log2 ≤ roundUnits m 1 :=
      two_pow_le_roundUnits Nat.one_pos (by rwa [Nat.div_one])
    rw [Nat.div_one] at hround
    exact iff_of_false (by omega) (by omega)

/-! ## Whole numbers -/

/-- The least magnitude of a whole number that is out of the range of doubles: half a step below
    the first power of two that is no double. -/
def overflowLimit : Nat := 2 ^ 1024 - 2 ^ 970

theorem overflowLimit_pos : 0 < overflowLimit :=
  Nat.sub_pos_of_lt (pow_lt_pow_right₀ one_lt_two (by decide))

theorem roundUnits_mul_lt_iff (s c k : Nat) :
    roundUnits (k * 2 ^ c) 1 < 2 ^ (s + c + 54) ↔ k < 2 ^ (s + 54) - 2 ^ s := by
  have hscale : 2 ^ (s + c + 54) - 2 ^ (s + c) = (2 ^ (s + 54) - 2 ^ s) * 2 ^ c := by
    rw [Nat.sub_mul, ← Nat.pow_add, ← Nat.pow_add, Nat.add_right_comm]
  rw [roundUnits_lt_two_pow_iff, hscale]
  exact ⟨Nat.lt_of_mul_lt_mul_right, fun h => Nat.mul_lt_mul_of_pos_right h (Nat.two_pow_pos c)⟩

theorem fits_ones_iff (k : Nat) : Fits (roundUnits (k * unitsPerOne) 1) ↔ k < overflowLimit := by
  have hunits : 2098 = 970 + 1074 + 54 := rfl
  have hones : 1024 = 970 + 54 := rfl
  rw [fits_roundUnits_iff _ Nat.one_pos, hunits, unitsPerOne_eq, roundUnits_mul_lt_iff, overflowLimit,
    hones]

theorem finite?_ofUnits_eq_none_iff {negative : Bool} {units : Nat} :
    (ofUnits negative units).finite? = none ↔ ¬ Fits units := by
  rw [ofUnits]
  split
  · next h => exact iff_of_false (Option.some_ne_none _) (not_not_intro h)
  · next h => exact iff_of_true rfl h

theorem ofInt?_eq_none_iff {n : Int} : ofInt? n = none ↔ overflowLimit ≤ n.natAbs := by
  rw [ofInt?, ofRatio, finite?_ofUnits_eq_none_iff, fits_ones_iff, Nat.not_lt]

/-- The double of a whole number has its sign and is zero only for zero. -/
theorem ofInt?_eq_some {n : Int} {x : Binary64} (h : ofInt? n = some x) :
    ∃ units hfits, x = finite (n < 0) units hfits ∧ (units = 0 → n = 0) := by
  rw [ofInt?, ofRatio, ofUnits] at h
  split at h
  · next hfits =>
    cases h
    refine ⟨_, hfits, rfl, fun hzero => ?_⟩
    rcases Nat.mul_eq_zero.mp (eq_zero_of_roundUnits hzero) with hn | hone
    · exact Int.natAbs_eq_zero.mp hn
    · rw [unitsPerOne_eq] at hone
      exact absurd hone (pow_ne_zero 1074 two_ne_zero)
  · cases h

end Binary64

end ThermalLabel
