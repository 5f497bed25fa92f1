/-
  The dots of a coordinate.

  The dots of a double keep its order (`Position.dots_mono`), and a double stays on its side of
  whole dots (`Position.le_roundedDots`, `Position.roundedDots_le`). A coordinate is read exactly
  if it is finite and its dots are a position (`Position.read_eq_ok_iff`). A coordinate that is not
  read although it has a nearest double is refused with a fault about the position
  (`Position.refused_of_not_read`).
-/
import ThermalLabel.Proofs.Overflow
import ThermalLabel.Proofs.Number.Value

namespace ThermalLabel

open Binary64

namespace Position

/-! ## Order -/

theorem roundedDots_mono {m n : Nat} (h : m ≤ n) : roundedDots m ≤ roundedDots n := by
  refine Nat.div_le_div_right (roundUnits_mono Nat.one_pos Nat.one_pos ?_)
  rw [Nat.mul_one, Nat.mul_one]
  exact Nat.add_le_add_right h _

/-- The dots of a coordinate in units, below zero those of its magnitude with a minus sign. -/
def dots (z : Int) : Int := signed (z < 0) (roundedDots z.natAbs)

theorem dots_of_nonneg {z : Int} (h : 0 ≤ z) : dots z = roundedDots z.natAbs := by
  rw [dots, decide_eq_false (Int.not_lt.mpr h), signed_false]

theorem dots_of_neg {z : Int} (h : z < 0) : dots z = -roundedDots z.natAbs := by
  rw [dots, decide_eq_true h, signed_true]

theorem dots_mono {z w : Int} (h : z ≤ w) : dots z ≤ dots w := by
  rcases Int.lt_or_le z 0 with hz | hz
  · rw [dots_of_neg hz]
    rcases Int.lt_or_le w 0 with hw | hw
    · rw [dots_of_neg hw]
      exact Int.neg_le_neg (Int.ofNat_le.mpr (roundedDots_mono (by omega)))
    · rw [dots_of_nonneg hw]
      omega
  · rw [dots_of_nonneg hz, dots_of_nonneg (hz.trans h)]
    exact Int.ofNat_le.mpr (roundedDots_mono (by omega))

/-! ## Whole dots -/

theorem isPrecise_mul_two_pow {n : Nat} (h : n < 2 ^ 53) (e : Nat) : IsPrecise (n * 2 ^ e) := by
  refine isPrecise_of_dvd (Nat.dvd_mul_left _ n) ?_
  rw [Nat.pow_add, Nat.mul_comm (2 ^ e)]
  exact Nat.mul_lt_mul_of_pos_right h (Nat.two_pow_pos e)

theorem isPrecise_mul_unitsPerOne {n : Nat} (h : n < 2 ^ 53) : IsPrecise (n * unitsPerOne) := by
  rw [unitsPerOne_eq]
  exact isPrecise_mul_two_pow h _

theorem le_roundedDots {n units : Nat} (hn : n < 2 ^ 53)
    (h : n * unitsPerOne ≤ units + unitsPerOne / 2) : n ≤ roundedDots units := by
  rw [roundedDots, Nat.le_div_iff_mul_le unitsPerOne_pos]
  refine le_roundUnits Nat.one_pos (isPrecise_mul_unitsPerOne hn) ?_
  rwa [Nat.mul_one]

theorem roundedDots_le {n units : Nat} (hn : n < 2 ^ 53)
    (h : units + unitsPerOne / 2 ≤ n * unitsPerOne) : roundedDots units ≤ n := by
  refine Nat.div_le_of_le_mul ?_
  rw [Nat.mul_comm]
  refine roundUnits_le Nat.one_pos (isPrecise_mul_unitsPerOne hn) ?_
  rwa [Nat.mul_one]

theorem lt_of_roundedDots_lt {n units : Nat} (hn : n < 2 ^ 53) (h : roundedDots units < n) :
    units < n * unitsPerOne := by
  by_contra hle
  exact Nat.not_lt_of_le (le_roundedDots hn ((Nat.not_lt.mp hle).trans (Nat.le_add_right _ _))) h

/-- Half a dot in a power of two. -/
theorem exists_unitsPerOne : ∃ e, unitsPerOne = 2 ^ (e + 54) := ⟨1020, unitsPerOne_eq⟩

theorem half_unitsPerOne {e : Nat} (h : unitsPerOne = 2 ^ (e + 54)) :
    unitsPerOne / 2 = 2 ^ (e + 53) := by
  rw [h, Nat.pow_succ, Nat.mul_div_cancel _ two_pos]

/-- The magnitude of the largest double below one half, in units. -/
def almostHalfUnits : Nat := unitsPerOne / 2 - unitsPerOne / 2 ^ 54

theorem almostHalfUnits_eq {e : Nat} (h : unitsPerOne = 2 ^ (e + 54)) :
    almostHalfUnits = 2 ^ (e + 53) - 2 ^ e := by
  rw [almostHalfUnits, half_unitsPerOne h, h, Nat.pow_add 2 e 54,
    Nat.mul_div_cancel _ (Nat.two_pow_pos 54)]

/-- The largest double below one half is rounded up when half a dot is added. -/
theorem roundedDots_eq_zero_iff {units : Nat} :
    roundedDots units = 0 ↔ units < almostHalfUnits := by
  obtain ⟨e, he⟩ := exists_unitsPerOne
  rw [roundedDots, half_unitsPerOne he, almostHalfUnits_eq he, he, Nat.div_eq_zero_iff_lt
    (Nat.two_pow_pos _), roundUnits_lt_two_pow_iff, Nat.pow_succ 2 (e + 53)]
  omega

theorem almostHalfUnits_pos : 0 < almostHalfUnits := by
  obtain ⟨e, he⟩ := exists_unitsPerOne
  rw [almostHalfUnits_eq he, Nat.sub_pos_iff_lt]
  exact Nat.pow_lt_pow_right (by decide) (by omega)

theorem roundedDots_zero : roundedDots 0 = 0 := roundedDots_eq_zero_iff.mpr almostHalfUnits_pos

/-! ## Reading -/

theorem dots_signed_eq_iff {negative : Bool} {units : Nat} {p : Position} :
    dots (signed negative units) = (p.val : Int) ↔
      roundedDots units = p.val ∧ (negative = true → roundedDots units = 0) := by
  cases negative with
  | false =>
    rw [signed_false, dots_of_nonneg (Int.natCast_nonneg units), Int.natAbs_natCast]
    simp
  | true =>
    rcases Nat.eq_zero_or_pos units with rfl | hpos
    · have hzero : dots (signed true 0) = 0 := by
        rw [signed_true, Int.natCast_zero, Int.neg_zero, dots_of_nonneg le_rfl, Int.natAbs_zero,
          roundedDots_zero, Int.natCast_zero]
      rw [hzero, roundedDots_zero]
      omega
    · have hneg : signed true units < 0 := by
        rw [signed_true]
        omega
      rw [dots_of_neg hneg, natAbs_signed]
      simp only [forall_const]
      omega

theorem ofPixels_eq_ok_iff {given : Quantity} {x : Binary64} {p : Position} :
    ofPixels given x = .ok p ↔ ∃ z, x.units? = some z ∧ dots z = (p.val : Int) := by
  cases x with
  | nan | infinite => simp [ofPixels, Binary64.units?]
  | finite negative units fits =>
    simp only [Binary64.units?, Option.some.injEq, exists_eq_left', dots_signed_eq_iff]
    rw [ofPixels]
    by_cases hfield : roundedDots units < 10000 ∧ (negative = true → roundedDots units = 0)
    · rw [dif_pos hfield, Except.ok.injEq, Fin.ext_iff]
      exact (and_iff_left hfield.2).symm
    · rw [dif_neg hfield]
      refine iff_of_false (by simp) ?_
      rintro ⟨hdots, hsign⟩
      exact hfield ⟨hdots ▸ p.isLt, hsign⟩

/-- What is out of the range of doubles has no position. -/
theorem natAbs_lt_of_dots {z : Int} {p : Position} (h : dots z = (p.val : Int)) :
    z.natAbs < unitsLimit := by
  have hfield : roundedDots z.natAbs < 10000 := by
    have hp := p.isLt
    rcases Int.lt_or_le z 0 with hz | hz
    · rw [dots_of_neg hz] at h
      omega
    · rw [dots_of_nonneg hz] at h
      omega
  refine (lt_of_roundedDots_lt (by decide) hfield).trans_le ?_
  have hdigits : 10000 ≤ 2 ^ 14 := by decide
  calc 10000 * unitsPerOne ≤ 2 ^ 14 * unitsPerOne := Nat.mul_le_mul_right _ hdigits
    _ = 2 ^ (14 + 1074) := by rw [unitsPerOne_eq, pow_add]
    _ ≤ unitsLimit := pow_le_pow_right₀ one_le_two (by decide)

end Position

theorem Number.asReal_eq_ok_iff {n : Number} {x : Binary64} :
    n.asReal = .ok x ↔ n.toReal? = some x := by
  unfold asReal
  cases n.toReal? with
  | none => simp
  | some y => simp

namespace Position

theorem read_number (n : Number) : read (.number n) = n.asReal >>= ofPixels (.number n) := rfl

/-- A coordinate is read exactly if it is finite and its dots are a position. -/
theorem read_eq_ok_iff {n : Number} {p : Position} :
    read (.number n) = .ok p ↔
      ∃ z, n.units? = some z ∧ dots (nearestUnits z) = (p.val : Int) := by
  have hreal : read (.number n) = .ok p ↔
      ∃ r, n.toReal?.bind Binary64.units? = some r ∧ dots r = (p.val : Int) := by
    simp only [read_number, bind_eq_ok_iff, Number.asReal_eq_ok_iff, ofPixels_eq_ok_iff,
      Option.bind_eq_some_iff]
    constructor
    · rintro ⟨x, hx, r, hr, hdots⟩
      exact ⟨r, ⟨x, hx, hr⟩, hdots⟩
    · rintro ⟨r, ⟨x, hx, hr⟩, hdots⟩
      exact ⟨x, hx, r, hr, hdots⟩
  rw [hreal]
  cases hunits : n.units? with
  | none =>
    cases n with
    | integer n => cases hunits
    | real x =>
      have hnone : x.units? = none := hunits
      simp [Number.toReal?, hnone]
  | some z =>
    simp only [Number.units?_toReal? hunits, Option.some.injEq, exists_eq_left']
    constructor
    · rintro ⟨r, ⟨rfl, -⟩, hdots⟩
      exact hdots
    · intro hdots
      exact ⟨_, ⟨rfl, natAbs_lt_of_dots hdots⟩, hdots⟩

/-- Only a whole number out of range is refused for something else than its position. -/
theorem refused_of_not_read {n : Number} (hrange : ∀ m, n = .integer m → ¬ OutOfRange m)
    (h : ∀ p, read (.number n) ≠ .ok p) :
    ∃ reason, read (.number n) = .error reason ∧ reason.diagnosticKind? = some .position := by
  have hreal : ∃ x, n.asReal = .ok x := by
    cases n with
    | integer m =>
      rw [exists_ok_iff]
      exact fun reason herror => hrange m rfl (asReal_integer_eq_error_iff.mp herror).1
    | real x => exact ⟨x, rfl⟩
  obtain ⟨x, hx⟩ := hreal
  rw [read_number, hx, ok_bind] at h ⊢
  cases hread : ofPixels (.number n) x with
  | ok p => exact absurd hread (h p)
  | error reason => exact ⟨reason, rfl, ofPixels_eq_error hread⟩

end Position

end ThermalLabel
