/-
  The exact value of a number, and what an operation makes of it.

  A whole number and a finite double are a whole number of units, and their value is the rational
  that these units are (`Number.units?`, `Number.value?`). Where a number is read as a double and
  where two doubles are added, the exact units go to the nearest magnitude of 53 bits, with the sign
  kept (`nearestUnits`, `units?_toReal?`, `units?_add`), which keeps order (`nearestUnits_mono`).
-/
import ThermalLabel.Number.Quantity
import ThermalLabel.Proofs.Number.Range

namespace ThermalLabel

/-! ## Exact values -/

namespace Binary64

/-- A finite double in units, with its sign. -/
def units? : Binary64 → Option Int
  | finite negative units _ => some (signed negative units)
  | nan | infinite _ => none

/-- The rational that a finite double denotes. -/
def value? (x : Binary64) : Option ℚ := x.units?.map fun z : Int => (z : ℚ) / unitsPerOne

end Binary64

namespace Number

/-- A number in units, none for a double that is not finite. -/
def units? : Number → Option Int
  | integer n => some (n * Binary64.unitsPerOne)
  | real x => x.units?

/-- The rational that a number denotes, none for a double that is not finite. -/
def value? : Number → Option ℚ
  | integer n => some n
  | real x => x.value?

theorem value?_eq_some_iff {n : Number} {v : ℚ} :
    n.value? = some v ↔ ∃ z, n.units? = some z ∧ v * Binary64.unitsPerOne = z := by
  cases n with
  | integer n =>
    simp only [value?, units?, Option.some.injEq, exists_eq_left']
    push_cast
    rw [mul_left_inj' Binary64.cast_unitsPerOne_ne_zero, eq_comm]
  | real x =>
    simp only [value?, units?, Binary64.value?, Option.map_eq_some_iff,
      div_eq_iff Binary64.cast_unitsPerOne_ne_zero, eq_comm (a := v * _)]

theorem exists_value? {n : Number} {z : Int} (h : n.units? = some z) :
    ∃ v, n.value? = some v ∧ v * Binary64.unitsPerOne = z := by
  have hvalue := div_mul_cancel₀ (z : ℚ) Binary64.cast_unitsPerOne_ne_zero
  exact ⟨_, value?_eq_some_iff.mpr ⟨z, h, hvalue⟩, hvalue⟩

theorem units?_of_value? {n : Number} {v : ℚ} {z : Int} (h : n.value? = some v)
    (hv : v * Binary64.unitsPerOne = z) : n.units? = some z := by
  obtain ⟨y, hy, hvy⟩ := value?_eq_some_iff.mp h
  rw [hy, Int.cast_injective (hvy.symm.trans hv)]

end Number

/-! ## Rounding with a sign -/

namespace Binary64

theorem signed_false (units : Nat) : signed false units = units := rfl

theorem signed_true (units : Nat) : signed true units = -units := rfl

theorem natAbs_signed (negative : Bool) (units : Nat) : (signed negative units).natAbs = units := by
  cases negative with
  | false => rfl
  | true => exact Int.natAbs_neg _

/-- A number of units, rounded to 53 bits. -/
def nearestUnits (z : Int) : Int := signed (z < 0) (roundUnits z.natAbs 1)

theorem natAbs_nearestUnits (z : Int) : (nearestUnits z).natAbs = roundUnits z.natAbs 1 :=
  natAbs_signed _ _

theorem nearestUnits_of_nonneg {z : Int} (h : 0 ≤ z) : nearestUnits z = roundUnits z.natAbs 1 := by
  rw [nearestUnits, decide_eq_false (Int.not_lt.mpr h), signed_false]

theorem nearestUnits_of_neg {z : Int} (h : z < 0) : nearestUnits z = -roundUnits z.natAbs 1 := by
  rw [nearestUnits, decide_eq_true h, signed_true]

theorem nearestUnits_mono {z w : Int} (h : z ≤ w) : nearestUnits z ≤ nearestUnits w := by
  have hmono : ∀ {m n : Nat}, m ≤ n → roundUnits m 1 ≤ roundUnits n 1 := fun hle =>
    roundUnits_mono Nat.one_pos Nat.one_pos (by omega)
  rcases Int.lt_or_le z 0 with hz | hz
  · rw [nearestUnits_of_neg hz]
    rcases Int.lt_or_le w 0 with hw | hw
    · rw [nearestUnits_of_neg hw]
      exact Int.neg_le_neg (Int.ofNat_le.mpr (hmono (by omega)))
    · rw [nearestUnits_of_nonneg hw]
      omega
  · rw [nearestUnits_of_nonneg hz, nearestUnits_of_nonneg (hz.trans h)]
    exact Int.ofNat_le.mpr (hmono (by omega))

theorem nearestUnits_of_isPrecise {z : Int} (h : IsPrecise z.natAbs) : nearestUnits z = z := by
  have hself := roundUnits_mul Nat.one_pos h
  rw [Nat.mul_one] at hself
  rw [nearestUnits, hself, signed]
  by_cases hz : z < 0
  · rw [if_pos (decide_eq_true hz)]
    omega
  · rw [if_neg (by simp [hz])]
    omega

theorem nearestUnits_zero : nearestUnits 0 = 0 := nearestUnits_of_isPrecise (Nat.dvd_zero _)

theorem isPrecise_of_units? {x : Binary64} {z : Int} (h : x.units? = some z) :
    IsPrecise z.natAbs := by
  cases x with
  | nan | infinite => cases h
  | finite negative units fits =>
    cases h
    rw [natAbs_signed]
    exact (fits_iff.mp fits).1

/-- The first magnitude that no double has. -/
def unitsLimit : Nat := 2 ^ 2098

theorem unitsLimit_pos : 0 < unitsLimit := pow_pos two_pos 2098

theorem Fits.lt_unitsLimit {k : Nat} (h : Fits k) : k < unitsLimit := by
  refine Nat.lt_log2_self.trans_le ?_
  unfold unitsLimit
  exact pow_le_pow_right₀ one_le_two h.2

/-- The double nearest to a number of units, an infinity if it is out of range. -/
def ofExact (z : Int) : Binary64 := ofUnits (z < 0) (roundUnits z.natAbs 1)

theorem units?_ofExact {z r : Int} :
    (ofExact z).units? = some r ↔ nearestUnits z = r ∧ (nearestUnits z).natAbs < unitsLimit := by
  have hlimit : Fits (roundUnits z.natAbs 1) ↔ (nearestUnits z).natAbs < unitsLimit := by
    rw [natAbs_nearestUnits, unitsLimit]
    exact fits_roundUnits_iff z.natAbs Nat.one_pos
  rw [ofExact, ofUnits, ← hlimit]
  split
  · next hfits => simp [units?, hfits, nearestUnits]
  · next hfits => simp [units?, hfits]

theorem ofInt?_eq (n : Int) : ofInt? n = (ofExact (n * unitsPerOne)).finite? := by
  have hsign : n * unitsPerOne < 0 ↔ n < 0 :=
    ⟨fun h => neg_of_mul_neg_left h (Int.natCast_nonneg _),
      fun h => Int.mul_neg_of_neg_of_pos h (Int.natCast_pos.mpr unitsPerOne_pos)⟩
  rw [ofInt?, ofRatio, ofExact, Int.natAbs_mul, Int.natAbs_natCast]
  simp only [hsign]

theorem units?_finite? (x : Binary64) : x.finite?.bind units? = x.units? := by
  cases x <;> rfl

/-- A sum has the exact units, rounded once. -/
theorem units?_add {x y : Binary64} {z w r : Int} (hx : x.units? = some z)
    (hy : y.units? = some w) :
    (x.add y).units? = some r ↔
      nearestUnits (z + w) = r ∧ (nearestUnits (z + w)).natAbs < unitsLimit := by
  rw [← units?_ofExact]
  cases x with
  | nan | infinite => cases hx
  | finite a m hm =>
    cases y with
    | nan | infinite => cases hy
    | finite b n hn =>
      cases hx
      cases hy
      rw [add]
      split
      · next hzero =>
        -- the sign of a zero does not count
        rw [hzero, units?_ofExact, nearestUnits_zero, zero, units?, signed]
        simp [unitsLimit_pos]
      · rfl

/-- Nothing is added to a double by a positive zero in front of it; a negative zero alone would lose
    its sign. -/
theorem zero_add {negative : Bool} {units : Nat} (h : Fits units)
    (hsign : units = 0 → negative = false) :
    (zero false).add (finite negative units h) = finite negative units h := by
  have hself : roundUnits (signed negative units).natAbs 1 = units := by
    rw [← natAbs_nearestUnits, nearestUnits_of_isPrecise, natAbs_signed]
    rw [natAbs_signed]
    exact (fits_iff.mp h).1
  have hnegative : units ≠ 0 → decide (signed negative units < 0) = negative := by
    intro hne
    cases negative with
    | false => exact decide_eq_false (by rw [signed_false]; omega)
    | true => exact decide_eq_true (by rw [signed_true]; omega)
  have hzero : signed negative units = 0 ↔ units = 0 := by
    rw [← Int.natAbs_eq_zero, natAbs_signed]
  rw [zero, add]
  rw [signed_false, Int.natCast_zero, Int.zero_add, hself]
  by_cases hunits : units = 0
  · rw [if_pos (hzero.mpr hunits)]
    subst hunits
    rw [hsign rfl]
    rfl
  · rw [if_neg (hunits ∘ hzero.mp), hnegative hunits, ofUnits, dif_pos h]

end Binary64

namespace Number

open Binary64

/-- A number is read as a double of its exact units, rounded once. -/
theorem units?_toReal? {n : Number} {z r : Int} (h : n.units? = some z) :
    n.toReal?.bind Binary64.units? = some r ↔
      nearestUnits z = r ∧ (nearestUnits z).natAbs < unitsLimit := by
  cases n with
  | integer n =>
    cases h
    rw [toReal?, ofInt?_eq, units?_finite?, units?_ofExact]
  | real x =>
    have hunits : x.units? = some z := h
    have hself := nearestUnits_of_isPrecise (isPrecise_of_units? hunits)
    have hlimit : z.natAbs < unitsLimit := by
      cases x with
      | nan | infinite => cases hunits
      | finite negative units fits =>
        cases hunits
        rw [natAbs_signed]
        exact fits.lt_unitsLimit
    rw [toReal?, Option.bind_some, hunits, hself, Option.some.injEq]
    exact (and_iff_left hlimit).symm

end Number

end ThermalLabel
