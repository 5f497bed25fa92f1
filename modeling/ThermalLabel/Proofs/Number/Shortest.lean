/-
  The shortest decimal of a magnitude reads back to it.

  A decimal goes to the magnitude nearest to its value, so decimals are ordered as their values are
  (`ScaledDecimal.units_mono`), and the place of the leading digit bounds the value by powers of
  ten (`ScaledDecimal.le_leadingPlace_iff`). Of seventeen digits the nearest decimal is within
  `2 ^ (-54)` of the magnitude, since `2 ^ 53` is less than `10 ^ 16`. So the search for a decimal
  that reads back ends with one (`Binary64.units_shortest`). Its leading digit is a ten-thousandth
  or stands before it exactly if the magnitude is at least one ten-thousandth
  (`Binary64.le_leadingPlace_shortest_iff`).
-/
import ThermalLabel.Number.Shortest
import ThermalLabel.Proofs.Number.Rounding

namespace ThermalLabel

open Binary64

/-! ## Powers of ten -/

theorem ten_zpow_mul (e : Int) : (10 : ℚ) ^ e * 10 ^ (-e).toNat = 10 ^ e.toNat := by
  have hsplit : e + ((-e).toNat : Int) = (e.toNat : Int) := by omega
  rw [← zpow_natCast, ← zpow_natCast, ← zpow_add₀ (by norm_num), hsplit]

namespace Decimal

theorem lt_pow_length (n : Nat) : n < 10 ^ length n :=
  (Nat.length_toDigits_le_iff (by decide) Nat.length_toDigits_pos).mp le_rfl

theorem pow_length_le {n : Nat} (h : n ≠ 0) : 10 ^ (length n - 1) ≤ n := by
  by_contra hlt
  rcases Nat.eq_zero_or_pos (length n - 1) with hzero | hpos
  · rw [hzero] at hlt
    omega
  · have hle : length n ≤ length n - 1 :=
      (Nat.length_toDigits_le_iff (by decide) hpos).mpr (Nat.not_le.mp hlt)
    omega

theorem length_pos (n : Nat) : 0 < length n := Nat.length_toDigits_pos

end Decimal

/-! ## Values -/

namespace ScaledDecimal

variable {d d' : ScaledDecimal}

/-- The rational that a scaled decimal denotes. -/
def value (d : ScaledDecimal) : ℚ := d.digits * 10 ^ d.exponent

/-- The quotient whose rounding are the units of a decimal. -/
theorem numerator_eq (d : ScaledDecimal) :
    ((d.digits * 10 ^ d.exponent.toNat * unitsPerOne : Nat) : ℚ) =
      d.value * unitsPerOne * (10 ^ (-d.exponent).toNat : Nat) := by
  push_cast
  rw [← ten_zpow_mul d.exponent, value]
  ring

theorem denominator_pos (d : ScaledDecimal) : 0 < 10 ^ (-d.exponent).toNat :=
  Nat.pow_pos (by decide)

theorem units_eq (d : ScaledDecimal) :
    d.units = roundUnits (d.digits * 10 ^ d.exponent.toNat * unitsPerOne)
      (10 ^ (-d.exponent).toNat) := rfl

theorem units_mono (h : d.value ≤ d'.value) : d.units ≤ d'.units := by
  rw [units_eq, units_eq]
  refine roundUnits_mono d.denominator_pos d'.denominator_pos ?_
  rw [← Nat.cast_le (α := ℚ), Nat.cast_mul, Nat.cast_mul (n := 10 ^ (-d.exponent).toNat),
    numerator_eq, numerator_eq, mul_right_comm _ ((10 ^ (-d.exponent).toNat : Nat) : ℚ)]
  gcongr

theorem units_eq_of_value (h : d.value = d'.value) : d.units = d'.units :=
  Nat.le_antisymm (units_mono h.le) (units_mono h.ge)

theorem units_le {k : Nat} (hk : IsPrecise k) (h : d.value * unitsPerOne ≤ k) : d.units ≤ k := by
  rw [units_eq]
  refine roundUnits_le d.denominator_pos hk ?_
  rw [← Nat.cast_le (α := ℚ), Nat.cast_mul k, numerator_eq]
  gcongr

theorem le_units {k : Nat} (hk : IsPrecise k) (h : k ≤ d.value * unitsPerOne) : k ≤ d.units := by
  rw [units_eq]
  refine le_roundUnits d.denominator_pos hk ?_
  rw [← Nat.cast_le (α := ℚ), Nat.cast_mul k, numerator_eq]
  gcongr

/-- Less than half a unit goes to zero. -/
theorem units_eq_zero (h : 2 * (d.value * unitsPerOne) < 1) : d.units = 0 := by
  have hden : (0 : ℚ) < (10 ^ (-d.exponent).toNat : Nat) := by exact_mod_cast d.denominator_pos
  have hnum := d.numerator_eq
  have hpos := d.denominator_pos
  rw [units_eq]
  generalize d.digits * 10 ^ d.exponent.toNat * unitsPerOne = num at hnum ⊢
  generalize 10 ^ (-d.exponent).toNat = den at hden hnum hpos ⊢
  have hsmall : 2 * num < den := by
    have hscaled := mul_lt_mul_of_pos_right h hden
    rw [mul_assoc (2 : ℚ), ← hnum, one_mul] at hscaled
    exact_mod_cast hscaled
  have hfloor : num / den = 0 := Nat.div_eq_of_lt (by omega)
  rw [roundUnits_eq, hfloor, Nat.log2_zero, Nat.zero_sub, Nat.pow_zero, Nat.mul_one, Nat.mul_one]
  exact nearestEven_of_near hpos (by omega) (by omega)

theorem digits_ne_zero (h : d.units ≠ 0) : d.digits ≠ 0 := by
  intro hzero
  refine h (units_eq_zero ?_)
  rw [value, hzero, Nat.cast_zero, zero_mul, zero_mul, mul_zero]
  exact one_pos

/-- A decimal that is near to a magnitude goes there. -/
theorem units_of_near {k : Nat} (hk : IsPrecise k)
    (hlow : (2 ^ 54 - 1) * (k : ℚ) < 2 ^ 54 * (d.value * unitsPerOne))
    (hhigh : 2 ^ 54 * (d.value * unitsPerOne) < (2 ^ 54 + 1) * (k : ℚ)) : d.units = k := by
  have hden : (0 : ℚ) < (10 ^ (-d.exponent).toNat : Nat) := by exact_mod_cast d.denominator_pos
  have hnum := d.numerator_eq
  rw [units_eq]
  generalize d.digits * 10 ^ d.exponent.toNat * unitsPerOne = num at hnum ⊢
  have hpos := d.denominator_pos
  generalize 10 ^ (-d.exponent).toNat = den at hden hnum hpos ⊢
  refine roundUnits_of_near hpos hk ?_ ?_
  · have hscaled := mul_lt_mul_of_pos_right hlow hden
    rw [mul_assoc (2 ^ 54 : ℚ), ← hnum] at hscaled
    have hcast : (((2 ^ 54 - 1) * (k * den) : Nat) : ℚ) < ((2 ^ 54 * num : Nat) : ℚ) := by
      push_cast
      linarith
    exact_mod_cast hcast
  · have hscaled := mul_lt_mul_of_pos_right hhigh hden
    rw [mul_assoc (2 ^ 54 : ℚ), ← hnum] at hscaled
    have hcast : ((2 ^ 54 * num : Nat) : ℚ) < (((2 ^ 54 + 1) * (k * den) : Nat) : ℚ) := by
      push_cast
      linarith
    exact_mod_cast hcast

/-! ## The place of the leading digit -/

theorem le_leadingPlace_iff (h : d.digits ≠ 0) {n : Int} :
    n ≤ d.leadingPlace ↔ (10 : ℚ) ^ n ≤ d.value := by
  have hten : (1 : ℚ) < 10 := by norm_num
  have hpower : (0 : ℚ) < 10 ^ d.exponent := by positivity
  have hlength := Decimal.length_pos d.digits
  have hlow : (10 : ℚ) ^ d.leadingPlace ≤ d.value := by
    have hdigits : ((10 ^ (Decimal.length d.digits - 1) : Nat) : ℚ) ≤ d.digits := by
      exact_mod_cast Decimal.pow_length_le h
    have hplace : d.leadingPlace = ((Decimal.length d.digits - 1 : Nat) : Int) + d.exponent := by
      rw [leadingPlace]
      omega
    rw [hplace, zpow_add₀ (by norm_num), zpow_natCast, value]
    push_cast at hdigits
    gcongr
  have hhigh : d.value < (10 : ℚ) ^ (d.leadingPlace + 1) := by
    have hdigits : (d.digits : ℚ) < ((10 ^ Decimal.length d.digits : Nat) : ℚ) := by
      exact_mod_cast Decimal.lt_pow_length d.digits
    have hplace : d.leadingPlace + 1 = (Decimal.length d.digits : Int) + d.exponent := by
      rw [leadingPlace]
      omega
    rw [hplace, zpow_add₀ (by norm_num), zpow_natCast, value]
    push_cast at hdigits
    gcongr
  constructor
  · intro hn
    exact (zpow_le_zpow_right₀ hten.le hn).trans hlow
  · intro hn
    exact Int.le_of_lt_add_one ((zpow_lt_zpow_iff_right₀ hten).mp (hn.trans_lt hhigh))

/-- What is not rounded to zero has its leading digit not too far behind the point. -/
theorem le_leadingPlace (h : d.units ≠ 0) {k : Nat} (hk : 2 * unitsPerOne ≤ 10 ^ k) :
    -(k : Int) ≤ d.leadingPlace := by
  by_contra hplace
  refine h (units_eq_zero ?_)
  rw [le_leadingPlace_iff (digits_ne_zero h), not_le, zpow_neg, zpow_natCast] at hplace
  have hpos := cast_unitsPerOne_pos
  have hone : (2 : ℚ) * unitsPerOne ≤ 10 ^ k := by exact_mod_cast hk
  generalize (unitsPerOne : ℚ) = one at hpos hone ⊢
  calc 2 * (d.value * one) = d.value * (2 * one) := by ring
    _ < ((10 : ℚ) ^ k)⁻¹ * (2 * one) := by gcongr
    _ ≤ ((10 : ℚ) ^ k)⁻¹ * 10 ^ k := by gcongr
    _ = 1 := inv_mul_cancel₀ (by positivity)

/-- What is rounded to less than a power of two has its leading digit not too far before the
    point. -/
theorem leadingPlace_lt {e k : Nat} (hk : 2 ^ e ≤ 10 ^ k) (hne : d.units ≠ 0)
    (h : d.units < 2 ^ e * unitsPerOne) : d.leadingPlace < k := by
  by_contra hplace
  rw [not_lt, le_leadingPlace_iff (digits_ne_zero hne), zpow_natCast] at hplace
  refine Nat.not_le_of_lt h (le_units ?_ ?_)
  · rw [unitsPerOne_eq, ← Nat.pow_add]
    exact isPrecise_two_pow _
  · have hpower : (2 : ℚ) ^ e ≤ 10 ^ k := by exact_mod_cast hk
    rw [Nat.cast_mul, Nat.cast_pow]
    exact mul_le_mul_of_nonneg_right (hpower.trans hplace) (Nat.cast_nonneg _)

/-! ## Zeros at the end -/

theorem value_stripZeros (fuel : Nat) (d : ScaledDecimal) :
    (stripZeros fuel d).value = d.value := by
  induction fuel generalizing d with
  | zero => rfl
  | succ fuel ih =>
    rw [stripZeros]
    split
    · next hzero =>
      have hdigits : d.digits = d.digits / 10 * 10 := by omega
      rw [ih, value, value, zpow_add_one₀ (by norm_num)]
      conv_rhs => rw [hdigits]
      push_cast
      ring
    · rfl

end ScaledDecimal

/-! ## The search -/

namespace Binary64

/-- The leading digit of a magnitude stands at its place or before. -/
theorem pow_leadingPlace_le {units : Nat} (h : units ≠ 0) :
    (10 : ℚ) ^ leadingPlace units * unitsPerOne ≤ units := by
  rw [leadingPlace]
  split
  · next hone =>
    have hne : units / unitsPerOne ≠ 0 := Nat.ne_of_gt (Nat.div_pos hone unitsPerOne_pos)
    have hlength := Decimal.length_pos (units / unitsPerOne)
    have hplace : (Decimal.length (units / unitsPerOne) : Int) - 1 =
        ((Decimal.length (units / unitsPerOne) - 1 : Nat) : Int) := by omega
    have hle : 10 ^ (Decimal.length (units / unitsPerOne) - 1) * unitsPerOne ≤ units :=
      (Nat.le_div_iff_mul_le unitsPerOne_pos).mp (Decimal.pow_length_le hne)
    rw [hplace, zpow_natCast]
    exact_mod_cast hle
  · -- the quotient is less than a power of ten, by which the magnitude reaches one
    have hquotient := Decimal.lt_pow_length ((unitsPerOne - 1) / units)
    generalize Decimal.length ((unitsPerOne - 1) / units) = k at hquotient ⊢
    have hlt := (Nat.div_lt_iff_lt_mul (Nat.pos_of_ne_zero h)).mp hquotient
    have hle : unitsPerOne ≤ units * 10 ^ k := by
      rw [Nat.mul_comm]
      generalize unitsPerOne = one at hlt ⊢
      omega
    have hcast : (unitsPerOne : ℚ) ≤ units * 10 ^ k := by exact_mod_cast hle
    rw [zpow_neg, zpow_natCast, inv_mul_le_iff₀ (by positivity), mul_comm]
    exact hcast

theorem nearestEven_near (num : Nat) {den : Nat} (hden : 0 < den) :
    2 * num ≤ 2 * (nearestEven num den * den) + den ∧
      2 * (nearestEven num den * den) ≤ 2 * num + den := by
  have hdiv : num / den * den + num % den = num := by
    rw [Nat.mul_comm]
    exact Nat.div_add_mod num den
  have hmod : num % den < den := Nat.mod_lt num hden
  rw [nearestEven]
  split
  · omega
  · rw [Nat.add_mul, Nat.one_mul]
    omega

/-- The nearest multiple of a power of ten comes first among the neighbours. -/
theorem exists_neighbours (units : Nat) (e : Int) :
    ∃ others, neighbours units e =
      ⟨nearestEven (units * 10 ^ (-e).toNat) (unitsPerOne * 10 ^ e.toNat), e⟩ :: others := by
  rw [neighbours]
  split
  · next hbelow => exact ⟨_, by rw [← hbelow]; rfl⟩
  · next habove =>
    refine ⟨_, congrArg (fun digits => ScaledDecimal.mk digits e :: _) ?_⟩
    change nearestEven (units * 10 ^ (-e).toNat) (unitsPerOne * 10 ^ e.toNat) ≠ _ at habove
    rw [nearestEven] at habove ⊢
    split at habove
    · exact absurd rfl habove
    · next h => rw [if_neg h]; rfl

/-- The nearest multiple of a power of ten reads back if sixteen more digits stand before it. -/
theorem units_nearest {units : Nat} (hk : IsPrecise units) (hne : units ≠ 0) {e : Int}
    (hlarge : (10 : ℚ) ^ (e + 16) * unitsPerOne ≤ units) :
    (⟨nearestEven (units * 10 ^ (-e).toNat) (unitsPerOne * 10 ^ e.toNat), e⟩ :
      ScaledDecimal).units = units := by
  have hden : 0 < unitsPerOne * 10 ^ e.toNat :=
    Nat.mul_pos unitsPerOne_pos (Nat.pow_pos (by decide))
  obtain ⟨hlow, hhigh⟩ := nearestEven_near (units * 10 ^ (-e).toNat) hden
  generalize nearestEven (units * 10 ^ (-e).toNat) (unitsPerOne * 10 ^ e.toNat) = n at hlow hhigh ⊢
  -- divided by the power of ten below the point, both bounds are about the value of the decimal
  have hpower : (0 : ℚ) < 10 ^ (-e).toNat := by positivity
  have hstep : ((unitsPerOne * 10 ^ e.toNat : Nat) : ℚ) =
      10 ^ e * unitsPerOne * 10 ^ (-e).toNat := by
    push_cast
    rw [← ten_zpow_mul e]
    ring
  rw [← Nat.cast_le (α := ℚ)] at hlow hhigh
  simp only [Nat.cast_add, Nat.cast_mul 2, Nat.cast_mul n, hstep] at hlow hhigh
  rw [zpow_add₀ (by norm_num), mul_right_comm] at hlarge
  have hunits : (0 : ℚ) < units := by exact_mod_cast Nat.pos_of_ne_zero hne
  push_cast at hlow hhigh
  have hlow' : 2 * (units : ℚ) ≤ 2 * (n * (10 ^ e * unitsPerOne)) + 10 ^ e * unitsPerOne := by
    apply le_of_mul_le_mul_right _ hpower
    linarith
  have hhigh' : 2 * (n * (10 ^ e * unitsPerOne)) ≤ 2 * (units : ℚ) + 10 ^ e * unitsPerOne := by
    apply le_of_mul_le_mul_right _ hpower
    linarith
  have hvalue : (⟨n, e⟩ : ScaledDecimal).value * unitsPerOne = n * (10 ^ e * unitsPerOne) :=
    mul_assoc _ _ _
  generalize (10 : ℚ) ^ e * unitsPerOne = step at *
  refine ScaledDecimal.units_of_near hk ?_ ?_
  · rw [hvalue]
    norm_num at hlarge ⊢
    linarith
  · rw [hvalue]
    norm_num at hlarge ⊢
    linarith

theorem exists_readBack? {units : Nat} (hk : IsPrecise units) (hne : units ≠ 0) :
    ∃ d, readBack? units 17 = some d := by
  have hlarge : (10 : ℚ) ^ (leadingPlace units - (17 : Nat) + 1 + 16) * unitsPerOne ≤ units := by
    have hplace : leadingPlace units - ((17 : Nat) : Int) + 1 + 16 = leadingPlace units := by omega
    rw [hplace]
    exact pow_leadingPlace_le hne
  obtain ⟨others, hothers⟩ := exists_neighbours units (leadingPlace units - (17 : Nat) + 1)
  have hfirst := units_nearest hk hne hlarge
  rw [readBack?, hothers]
  exact ⟨_, List.find?_cons_of_pos (decide_eq_true hfirst)⟩

theorem units_of_readBack? {units count : Nat} {d : ScaledDecimal}
    (h : readBack? units count = some d) : d.units = units := by
  have hfound := List.find?_some h
  exact of_decide_eq_true hfound

/-- The shortest decimal of a magnitude reads back to it. -/
theorem units_shortest {units : Nat} (hk : IsPrecise units) (hne : units ≠ 0) :
    (shortest units).units = units := by
  obtain ⟨last, hlast⟩ := exists_readBack? hk hne
  have hsome : ((List.range 17).findSome? fun n => readBack? units (n + 1)).isSome := by
    rw [List.findSome?_isSome_iff]
    refine ⟨16, List.mem_range.mpr (by decide), ?_⟩
    rw [hlast]
    rfl
  obtain ⟨d, hd⟩ := Option.isSome_iff_exists.mp hsome
  obtain ⟨count, -, hcount⟩ := List.exists_of_findSome?_eq_some hd
  have hunits := units_of_readBack? hcount
  rw [shortest, hd, Option.getD_some,
    ScaledDecimal.units_eq_of_value (ScaledDecimal.value_stripZeros 17 d)]
  exact hunits

/-! ## The place of its leading digit -/

theorem dvd_of_two_pow_le {e k : Nat} (hk : IsPrecise k) (h : 2 ^ 52 * 2 ^ e ≤ k) : 2 ^ e ∣ k := by
  rw [← Nat.pow_add] at h
  have hne : k ≠ 0 := Nat.ne_of_gt ((Nat.two_pow_pos _).trans_le h)
  have hlog : 52 + e ≤ k.log2 := (Nat.le_log2 hne).mpr h
  exact (Nat.pow_dvd_pow 2 (by omega)).trans hk

/-- A magnitude with a fraction of one has fewer than seventeen digits before the point. -/
theorem leadingPlace_shortest_lt {units : Nat} (hk : IsPrecise units)
    (hfraction : ¬ unitsPerOne ∣ units) : (shortest units).leadingPlace < 16 := by
  have hne : units ≠ 0 := by
    rintro rfl
    exact hfraction (Nat.dvd_zero _)
  have hself := units_shortest hk hne
  have hsmall : units < 2 ^ 52 * unitsPerOne := by
    rw [unitsPerOne_eq] at hfraction ⊢
    by_contra hlarge
    exact hfraction (dvd_of_two_pow_le hk (Nat.not_lt.mp hlarge))
  refine ScaledDecimal.leadingPlace_lt (e := 52) (k := 16) (by decide) ?_ ?_
  · rwa [hself]
  · rwa [hself]

/-- One ten-thousandth. -/
def tenThousandth : ScaledDecimal := ⟨1, -4⟩

/-- The double of one ten-thousandth is written with one digit, and it is not below one
    ten-thousandth. -/
theorem shortest_tenThousandth :
    shortest tenThousandth.units = tenThousandth ∧
      unitsPerOne ≤ tenThousandth.units * 10 ^ 4 := by decide +kernel

theorem value_tenThousandth : tenThousandth.value = 1 / 10 ^ 4 := by
  rw [ScaledDecimal.value, tenThousandth]
  norm_num

/-- The leading digit is a ten-thousandth or stands before it exactly if the magnitude is at least
    one ten-thousandth. -/
theorem le_leadingPlace_shortest_iff {units : Nat} (hk : IsPrecise units) (hne : units ≠ 0) :
    -4 ≤ (shortest units).leadingPlace ↔ unitsPerOne ≤ units * 10 ^ 4 := by
  have hself := units_shortest hk hne
  have hdigits : (shortest units).digits ≠ 0 := ScaledDecimal.digits_ne_zero (by rwa [hself])
  have hpower : (10 : ℚ) ^ (-4 : Int) = tenThousandth.value := by
    rw [value_tenThousandth]
    norm_num
  rw [ScaledDecimal.le_leadingPlace_iff hdigits, hpower]
  constructor
  · intro h
    have hmono := ScaledDecimal.units_mono h
    rw [hself] at hmono
    exact shortest_tenThousandth.2.trans (Nat.mul_le_mul_right _ hmono)
  · intro h
    have hle : tenThousandth.units ≤ units := by
      refine ScaledDecimal.units_le hk ?_
      have hcast : (unitsPerOne : ℚ) ≤ units * 10 ^ 4 := by exact_mod_cast h
      rw [value_tenThousandth]
      generalize (unitsPerOne : ℚ) = one at hcast ⊢
      linarith
    rcases Nat.lt_or_eq_of_le hle with hlt | heq
    · by_contra hvalue
      have hmono := ScaledDecimal.units_mono (not_le.mp hvalue).le
      rw [hself] at hmono
      exact Nat.not_lt.mpr hmono hlt
    · rw [← heq, shortest_tenThousandth.1]

end Binary64

end ThermalLabel
