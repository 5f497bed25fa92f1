/-
  Coordinates rounded half up.

  A position field is to show the exact coordinate plus one half, rounded down, and a coordinate
  whose field would be no position is to be refused as such (`Position.RoundsHalfUp`). Half a dot is
  added in double arithmetic, and below zero to the magnitude. So three doubles are rounded away
  from zero instead, and a whole number without a nearest double ends the run
  (`Position.Misrounded`). These four kinds are all: `Position.rounds_half_up_iff`.
-/
import ThermalLabel.Proofs.Number.Reading
import ThermalLabel.Proofs.Script.Dots

namespace ThermalLabel

open Binary64

namespace Position

/-! ## What a field is to show -/

/-- The text is a number in four digits. -/
structure Shows (t : Text) (n : Int) : Prop where
  length : t.length = 4
  digits : ∀ c ∈ t, c.isDigit
  value : (Decimal.value (Numeral.digits t).1 : Int) = n

theorem shows_field_iff {p : Position} {n : Int} : Shows p.field n ↔ (p.val : Int) = n := by
  constructor
  · intro h
    rw [← h.value, value_digits_field]
  · intro h
    refine ⟨length_field p, fun _ => Decimal.isDigit_of_mem_padded, ?_⟩
    rw [value_digits_field, h]

/-- The coordinate is refused because it has no position. -/
def Refused (n : Number) : Prop :=
  ∃ reason, read (.number n) = .error reason ∧ reason.diagnosticKind? = some .position

/-- The coordinate is written as its value rounded half up if this is a position, else refused. -/
structure RoundsHalfUp (n : Number) : Prop where
  written : ∀ v dots, n.value? = some v → dots = ⌊v + 1 / 2⌋ → 0 ≤ dots → dots ≤ 9999 →
    ∃ p, read (.number n) = .ok p ∧ Shows p.field dots
  refused : (∀ v, n.value? = some v → ⌊v + 1 / 2⌋ < 0 ∨ 9999 < ⌊v + 1 / 2⌋) → Refused n

/-- The largest double below one half. -/
def almostHalf : ℚ := 1 / 2 - 1 / 2 ^ 54

/-- The coordinates that are not rounded half up. -/
inductive Misrounded (n : Number) : Prop
  | almostHalf (h : n.value? = some almostHalf)
  | minusAlmostHalf (h : n.value? = some (-almostHalf))
  | minusHalf (h : n.value? = some (-(1 / 2)))
  | outOfRange (m : Int) (hn : n = .integer m) (h : OutOfRange m)

/-! ## Units -/

/-- Half a dot in units, as a whole number. -/
theorem two_mul_half : 2 * ((unitsPerOne / 2 : Nat) : Int) = unitsPerOne := by
  obtain ⟨e, he⟩ := exists_unitsPerOne
  rw [half_unitsPerOne he, he, Nat.pow_succ 2 (e + 53)]
  push_cast
  ring

theorem floor_eq_iff {v : ℚ} {z n : Int} (h : v * unitsPerOne = z) :
    ⌊v + 1 / 2⌋ = n ↔ n * (unitsPerOne : Int) ≤ z + (unitsPerOne / 2 : Nat) ∧
      z + (unitsPerOne / 2 : Nat) < (n + 1) * (unitsPerOne : Int) := by
  have hhalf : (v + 1 / 2) * unitsPerOne = ((z + (unitsPerOne / 2 : Nat) : Int) : ℚ) := by
    have htwo : (2 : ℚ) * ((unitsPerOne / 2 : Nat) : Int) = unitsPerOne := by
      exact_mod_cast two_mul_half
    rw [Int.cast_add, ← h]
    linarith
  rw [Int.floor_eq_iff, ← mul_le_mul_iff_of_pos_right cast_unitsPerOne_pos,
    ← mul_lt_mul_iff_of_pos_right cast_unitsPerOne_pos, hhalf]
  exact_mod_cast Iff.rfl

theorem almostHalf_mul : almostHalf * unitsPerOne = (almostHalfUnits : Int) := by
  obtain ⟨e, he⟩ := exists_unitsPerOne
  have hle : 2 ^ e ≤ 2 ^ (e + 53) := Nat.pow_le_pow_right (by decide) (by omega)
  rw [almostHalfUnits_eq he, he, almostHalf, Nat.cast_sub hle]
  push_cast
  ring

/-! ## Doubles -/

/-- A double below one half is the one next to it or is smaller. -/
theorem le_almostHalfUnits {units : Nat} (hprecise : IsPrecise units)
    (h : units < unitsPerOne / 2) : units ≤ almostHalfUnits := by
  obtain ⟨e, he⟩ := exists_unitsPerOne
  rw [almostHalfUnits_eq he]
  rw [half_unitsPerOne he] at h
  have hsplit : 2 ^ (e + 53) = 2 ^ (e + 52) + 2 ^ (e + 52) := by rw [Nat.pow_succ, Nat.mul_two]
  have hstep : 2 ^ e ≤ 2 ^ (e + 52) := Nat.pow_le_pow_right (by decide) (by omega)
  rcases Nat.lt_or_ge units (2 ^ (e + 52)) with hsmall | hlarge
  · omega
  · have hne : units ≠ 0 := Nat.ne_of_gt ((Nat.two_pow_pos _).trans_le hlarge)
    have hlog : units.log2 = e + 52 := (Nat.log2_eq_iff hne).mpr ⟨hlarge, h⟩
    rw [IsPrecise, hlog, Nat.add_sub_cancel] at hprecise
    have hgap := add_le_of_dvd hprecise (Nat.pow_dvd_pow 2 (by omega)) h
    omega

theorem almostHalfUnits_lt : almostHalfUnits < unitsPerOne / 2 := by
  obtain ⟨e, he⟩ := exists_unitsPerOne
  rw [almostHalfUnits_eq he, half_unitsPerOne he]
  exact Nat.sub_lt (Nat.two_pow_pos _) (Nat.two_pow_pos _)

theorem roundedDots_almostHalfUnits : roundedDots almostHalfUnits = 1 := by
  have hne : roundedDots almostHalfUnits ≠ 0 := fun h =>
    Nat.lt_irrefl _ (roundedDots_eq_zero_iff.mp h)
  have hle : roundedDots almostHalfUnits ≤ 1 := by
    refine roundedDots_le (by decide) ?_
    have hhalf := almostHalfUnits_lt
    have htwo := two_mul_half
    omega
  omega

theorem isPrecise_add_two_pow {k b : Nat} (hk : IsPrecise k) (hb : k.log2 ≤ b + 52)
    (hsame : k + 2 ^ b < 2 ^ (k.log2 + 1)) : IsPrecise (k + 2 ^ b) := by
  have hdvd : 2 ^ (k.log2 - 52) ∣ k + 2 ^ b := Nat.dvd_add hk (Nat.pow_dvd_pow 2 (by omega))
  exact isPrecise_of_dvd hdvd (hsame.trans_le (Nat.pow_le_pow_right two_pos (by omega)))

theorem isPrecise_two_pow_add {a b : Nat} (hb : b ≤ a) (ha : a < b + 52) :
    IsPrecise (2 ^ a + 2 ^ b) := by
  refine isPrecise_of_dvd (s := b) (Nat.dvd_add (Nat.pow_dvd_pow 2 hb) dvd_rfl) ?_
  have hle : 2 ^ b ≤ 2 ^ a := Nat.pow_le_pow_right two_pos hb
  calc 2 ^ a + 2 ^ b ≤ 2 ^ (a + 1) := by
        rw [Nat.pow_succ]
        omega
    _ < 2 ^ (b + 53) := Nat.pow_lt_pow_right (by decide) (by omega)

/-- The sum of a double above one half and half a dot is not rounded up to the next whole dots: it
    has 53 bits itself, or it is only just past a power of two. -/
theorem roundUnits_half_lt {e units n : Nat} (hprecise : IsPrecise units) (hn : 0 < n)
    (hsmall : n < 10000) (hlow : n * 2 ^ (e + 54) ≤ units + 2 ^ (e + 53))
    (hhigh : units + 2 ^ (e + 53) < (n + 1) * 2 ^ (e + 54)) :
    roundUnits (units + 2 ^ (e + 53)) 1 < (n + 1) * 2 ^ (e + 54) := by
  have hdouble : 2 ^ (e + 54) = 2 ^ (e + 53) + 2 ^ (e + 53) := by rw [Nat.pow_succ, Nat.mul_two]
  have hlarge : 2 ^ (e + 53) ≤ units := by
    have hone := Nat.le_mul_of_pos_left (2 ^ (e + 54)) hn
    omega
  have hne : units ≠ 0 := Nat.ne_of_gt ((Nat.two_pow_pos _).trans_le hlarge)
  have hfirst : e + 53 ≤ units.log2 := (Nat.le_log2 hne).mpr hlarge
  have hlast : units.log2 < e + 68 := by
    rw [Nat.log2_lt hne]
    have hdigits : n + 1 ≤ 2 ^ 14 := by omega
    calc units < (n + 1) * 2 ^ (e + 54) := (Nat.le_add_right _ _).trans_lt hhigh
      _ ≤ 2 ^ 14 * 2 ^ (e + 54) := Nat.mul_le_mul_right _ hdigits
      _ = 2 ^ (e + 68) := by rw [← Nat.pow_add, Nat.add_comm 14]
  rcases Nat.lt_or_ge (units + 2 ^ (e + 53)) (2 ^ (units.log2 + 1)) with hsame | hnext
  · have hround := roundUnits_mul Nat.one_pos (isPrecise_add_two_pow hprecise (by omega) hsame)
    rw [Nat.mul_one] at hround
    rw [hround]
    exact hhigh
  · have hself : units < 2 ^ (units.log2 + 1) := Nat.lt_log2_self
    have hpower : 2 ^ (e + 54) ∣ 2 ^ (units.log2 + 1) := Nat.pow_dvd_pow 2 (by omega)
    have hgap := add_le_of_dvd hpower (Nat.dvd_mul_left _ (n + 1)) (hnext.trans_lt hhigh)
    have hbound : IsPrecise (2 ^ (units.log2 + 1) + 2 ^ (e + 53)) :=
      isPrecise_two_pow_add (by omega) (by omega)
    have hround : roundUnits (units + 2 ^ (e + 53)) 1 ≤ 2 ^ (units.log2 + 1) + 2 ^ (e + 53) :=
      roundUnits_le Nat.one_pos hbound (by omega)
    have hhalf : 0 < 2 ^ (e + 53) := Nat.two_pow_pos _
    omega

theorem roundedDots_eq {units n : Nat} (hprecise : IsPrecise units) (hn : 0 < n)
    (hsmall : n < 10000) (hlow : n * unitsPerOne ≤ units + unitsPerOne / 2)
    (hhigh : units + unitsPerOne / 2 < (n + 1) * unitsPerOne) : roundedDots units = n := by
  refine Nat.le_antisymm (Nat.le_of_lt_succ ?_) (le_roundedDots (by omega) hlow)
  rw [roundedDots, Nat.div_lt_iff_lt_mul unitsPerOne_pos]
  obtain ⟨e, he⟩ := exists_unitsPerOne
  rw [half_unitsPerOne he, he] at hlow hhigh ⊢
  exact roundUnits_half_lt hprecise hn hsmall hlow hhigh

/-! ## Both signs -/

/-- One half below zero, or next to one half on either side of zero. -/
def IsNearHalf (z : Int) : Prop :=
  z = almostHalfUnits ∨ z = -almostHalfUnits ∨ z = -(unitsPerOne / 2 : Nat)

theorem dots_neg_iff {z : Int} : dots z < 0 ↔ z ≤ -almostHalfUnits := by
  have hpos := almostHalfUnits_pos
  rcases Int.lt_or_le z 0 with hz | hz
  · have hzero : roundedDots z.natAbs = 0 ↔ z.natAbs < almostHalfUnits := roundedDots_eq_zero_iff
    rw [dots_of_neg hz]
    omega
  · rw [dots_of_nonneg hz]
    omega

theorem dots_eq_zero {z : Int} (h : z.natAbs < almostHalfUnits) : dots z = 0 := by
  have hzero := roundedDots_eq_zero_iff.mpr h
  rcases Int.lt_or_le z 0 with hz | hz
  · rw [dots_of_neg hz, hzero, Int.natCast_zero, Int.neg_zero]
  · rw [dots_of_nonneg hz, hzero, Int.natCast_zero]

/-- The dots of a double are its value rounded half up if this is a position. -/
theorem dots_eq {z n : Int} (hprecise : IsPrecise z.natAbs) (hexact : ¬ IsNearHalf z) (hn : 0 ≤ n)
    (hsmall : n < 10000) (hlow : n * unitsPerOne ≤ z + (unitsPerOne / 2 : Nat))
    (hhigh : z + (unitsPerOne / 2 : Nat) < (n + 1) * unitsPerOne) : dots z = n := by
  obtain ⟨k, rfl⟩ := Int.eq_ofNat_of_zero_le hn
  have hhalf := two_mul_half
  unfold IsNearHalf at hexact
  rcases Nat.eq_zero_or_pos k with rfl | hk
  · refine dots_eq_zero ?_
    have hle := le_almostHalfUnits hprecise (by omega)
    omega
  · have hone : (unitsPerOne : Int) ≤ k * unitsPerOne := by
      exact_mod_cast Nat.le_mul_of_pos_left unitsPerOne hk
    have hz : 0 ≤ z := by omega
    lift z to Nat using hz
    rw [dots_of_nonneg (Int.natCast_nonneg z), Int.natAbs_natCast]
    exact_mod_cast roundedDots_eq hprecise hk (by omega) (by exact_mod_cast hlow)
      (by exact_mod_cast hhigh)

/-- Beyond the positions the dots are none either. -/
theorem dots_of_outside {z n : Int} (hout : n < 0 ∨ 10000 ≤ n)
    (hlow : n * unitsPerOne ≤ z + (unitsPerOne / 2 : Nat))
    (hhigh : z + (unitsPerOne / 2 : Nat) < (n + 1) * unitsPerOne) :
    dots z < 0 ∨ 10000 ≤ dots z := by
  have hpos : (0 : Int) < unitsPerOne := Int.natCast_pos.mpr unitsPerOne_pos
  rcases hout with hout | hout
  · left
    have hle : (n + 1) * (unitsPerOne : Int) ≤ 0 :=
      mul_nonpos_of_nonpos_of_nonneg (by omega) hpos.le
    have hlt := almostHalfUnits_lt
    rw [dots_neg_iff]
    omega
  · right
    have hle : 10000 * (unitsPerOne : Int) ≤ n * unitsPerOne :=
      mul_le_mul_of_nonneg_right hout hpos.le
    have hhalf := two_mul_half
    have hz : 0 ≤ z := by omega
    lift z to Nat using hz
    rw [dots_of_nonneg (Int.natCast_nonneg z), Int.natAbs_natCast]
    exact_mod_cast le_roundedDots (n := 10000) (by decide) (by exact_mod_cast hle.trans hlow)

/-! ## Numbers -/

theorem isPrecise_almostHalfUnits : IsPrecise almostHalfUnits := by
  obtain ⟨e, he⟩ := exists_unitsPerOne
  have hmul : almostHalfUnits = (2 ^ 53 - 1) * 2 ^ e := by
    rw [almostHalfUnits_eq he, Nat.sub_mul, Nat.one_mul, Nat.pow_add, Nat.mul_comm (2 ^ e)]
  rw [hmul]
  exact isPrecise_mul_two_pow (by decide) e

theorem isPrecise_half : IsPrecise (unitsPerOne / 2) := by
  obtain ⟨e, he⟩ := exists_unitsPerOne
  rw [half_unitsPerOne he]
  exact isPrecise_two_pow _

theorem isPrecise_whole {m : Int} (h : m.natAbs < 2 ^ 53) :
    IsPrecise (m * (unitsPerOne : Int)).natAbs := by
  rw [Int.natAbs_mul, Int.natAbs_natCast]
  exact isPrecise_mul_unitsPerOne h

theorem floor_integer {n : Number} {v : ℚ} {m : Int} (hn : n = .integer m)
    (hv : n.value? = some v) : ⌊v + 1 / 2⌋ = m := by
  subst hn
  cases hv
  rw [Int.floor_eq_iff]
  constructor <;> linarith

/-- A number whose value rounded half up is a position has 53 bits. -/
theorem isPrecise_of_floor {n : Number} {v : ℚ} {z : Int} (hv : n.value? = some v)
    (hz : n.units? = some z) (hlow : 0 ≤ ⌊v + 1 / 2⌋) (hhigh : ⌊v + 1 / 2⌋ < 10000) :
    IsPrecise z.natAbs := by
  cases n with
  | real x => exact isPrecise_of_units? hz
  | integer m =>
    rw [floor_integer rfl hv] at hlow hhigh
    cases hz
    exact isPrecise_whole (by omega)

/-- A number whose value rounded half up is no position has no dots that are one. -/
theorem dots_nearestUnits_of_outside {n : Number} {v : ℚ} {z : Int} (hv : n.value? = some v)
    (hz : n.units? = some z) (hvz : v * unitsPerOne = z)
    (hout : ⌊v + 1 / 2⌋ < 0 ∨ 10000 ≤ ⌊v + 1 / 2⌋) :
    dots (nearestUnits z) < 0 ∨ 10000 ≤ dots (nearestUnits z) := by
  obtain ⟨hlow, hhigh⟩ := (floor_eq_iff hvz).mp rfl
  cases n with
  | real x =>
    rw [nearestUnits_of_isPrecise (isPrecise_of_units? hz)]
    exact dots_of_outside hout hlow hhigh
  | integer m =>
    -- rounding keeps a whole number on its side of -1 and of 10000
    rw [floor_integer rfl hv] at hout
    cases hz
    have hmono : ∀ {k l : Int}, k ≤ l →
        nearestUnits (k * unitsPerOne) ≤ nearestUnits (l * unitsPerOne) := fun hle =>
      nearestUnits_mono (mul_le_mul_of_nonneg_right hle (Int.natCast_nonneg _))
    rcases hout with hout | hout
    · have hle := hmono (show m ≤ -1 by omega)
      rw [nearestUnits_of_isPrecise (isPrecise_whole (m := -1) (by decide))] at hle
      have hhalf := almostHalfUnits_lt
      have htwo := two_mul_half
      rw [dots_neg_iff]
      omega
    · have hle := hmono hout
      rw [nearestUnits_of_isPrecise (isPrecise_whole (m := 10000) (by decide))] at hle
      have htwo := two_mul_half
      have hone : (0 : Int) < unitsPerOne := Int.natCast_pos.mpr unitsPerOne_pos
      have hten := dots_of_outside (z := 10000 * unitsPerOne) (.inr le_rfl) (by omega) (by omega)
      have hdots := dots_mono hle
      rw [dots_neg_iff] at hten
      have hpos := almostHalfUnits_pos
      omega

/-! ## Which coordinates are rounded half up -/

theorem value_of_units {v w : ℚ} {z : Int} (hv : v * unitsPerOne = z) (hw : w * unitsPerOne = z) :
    v = w := mul_right_cancel₀ cast_unitsPerOne_ne_zero (hv.trans hw.symm)

theorem minusHalf_mul : -(1 / 2) * (unitsPerOne : ℚ) = ((-(unitsPerOne / 2 : Nat) : Int) : ℚ) := by
  have htwo : (2 : ℚ) * ((unitsPerOne / 2 : Nat) : Int) = unitsPerOne := by
    exact_mod_cast two_mul_half
  push_cast at htwo ⊢
  linarith

theorem minusAlmostHalf_mul : -almostHalf * unitsPerOne = ((-almostHalfUnits : Int) : ℚ) := by
  rw [neg_mul, almostHalf_mul, Int.cast_neg]

theorem isNearHalf_iff {n : Number} {v : ℚ} {z : Int} (hv : n.value? = some v)
    (hvz : v * unitsPerOne = z) :
    IsNearHalf z ↔ n.value? = some almostHalf ∨ n.value? = some (-almostHalf) ∨
      n.value? = some (-(1 / 2)) := by
  have hsame : ∀ {w : ℚ} {y : Int}, w * unitsPerOne = y → (z = y ↔ n.value? = some w) := by
    intro w y hw
    rw [hv, Option.some.injEq]
    constructor
    · rintro rfl
      exact value_of_units hvz hw
    · rintro rfl
      exact Int.cast_injective (hvz.symm.trans hw)
  unfold IsNearHalf
  rw [hsame almostHalf_mul, hsame minusAlmostHalf_mul, hsame minusHalf_mul]

theorem roundsHalfUp_of_not_misrounded {n : Number} (h : ¬ Misrounded n) : RoundsHalfUp n := by
  refine ⟨fun v dots hv hdots hlow hhigh => ?_, fun hout => ?_⟩
  · obtain ⟨z, hz, hvz⟩ := Number.value?_eq_some_iff.mp hv
    have hnear : ¬ IsNearHalf z := by
      rw [isNearHalf_iff hv hvz]
      rintro (hv | hv | hv)
      · exact h (.almostHalf hv)
      · exact h (.minusAlmostHalf hv)
      · exact h (.minusHalf hv)
    subst hdots
    have hprecise := isPrecise_of_floor hv hz hlow (by omega)
    obtain ⟨hfirst, hlast⟩ := (floor_eq_iff hvz).mp rfl
    have hdots := dots_eq hprecise hnear hlow (by omega) hfirst hlast
    generalize ⌊v + 1 / 2⌋ = d at *
    lift d to Nat using hlow
    refine ⟨⟨d, by omega⟩, read_eq_ok_iff.mpr ⟨z, hz, ?_⟩, shows_field_iff.mpr rfl⟩
    rw [nearestUnits_of_isPrecise hprecise, hdots]
  · refine refused_of_not_read (fun m hn hm => h (.outOfRange m hn hm)) fun p hp => ?_
    obtain ⟨z, hz, hdots⟩ := read_eq_ok_iff.mp hp
    obtain ⟨v, hv, hvz⟩ := Number.exists_value? hz
    have hfar := dots_nearestUnits_of_outside hv hz hvz (by have := hout _ hv; omega)
    have hfield := p.isLt
    omega

/-- The largest double below one half is written as 1. -/
theorem read_almostHalf {n : Number} (h : n.value? = some almostHalf) :
    ∃ p, read (.number n) = .ok p ∧ Shows p.field 1 := by
  have hprecise : IsPrecise (almostHalfUnits : Int).natAbs := by
    rw [Int.natAbs_natCast]
    exact isPrecise_almostHalfUnits
  have hdots : dots (nearestUnits almostHalfUnits) = ((⟨1, by decide⟩ : Position).val : Int) := by
    rw [nearestUnits_of_isPrecise hprecise, dots_of_nonneg (Int.natCast_nonneg _),
      Int.natAbs_natCast, roundedDots_almostHalfUnits]
  have hunits := Number.units?_of_value? h almostHalf_mul
  exact ⟨_, read_eq_ok_iff.mpr ⟨_, hunits, hdots⟩, shows_field_iff.mpr rfl⟩

theorem not_read_of_dots_neg {n : Number} {z : Int} (hz : n.units? = some z)
    (hprecise : IsPrecise z.natAbs) (h : z ≤ -almostHalfUnits) (p : Position) :
    read (.number n) ≠ .ok p := by
  intro hp
  obtain ⟨w, hw, hdots⟩ := read_eq_ok_iff.mp hp
  rw [hz, Option.some.injEq] at hw
  subst hw
  rw [nearestUnits_of_isPrecise hprecise] at hdots
  have hneg := dots_neg_iff.mpr h
  omega

/-- One half below zero and the double next to it are refused. -/
theorem not_read_minusHalf {n : Number}
    (h : n.value? = some (-almostHalf) ∨ n.value? = some (-(1 / 2))) (p : Position) :
    read (.number n) ≠ .ok p := by
  rcases h with h | h
  · refine not_read_of_dots_neg (Number.units?_of_value? h minusAlmostHalf_mul) ?_ le_rfl p
    rw [Int.natAbs_neg, Int.natAbs_natCast]
    exact isPrecise_almostHalfUnits
  · refine not_read_of_dots_neg (Number.units?_of_value? h minusHalf_mul) ?_ ?_ p
    · rw [Int.natAbs_neg, Int.natAbs_natCast]
      exact isPrecise_half
    · have hlt := almostHalfUnits_lt
      omega

/-! ## The exceptions -/

/-- A whole number without a nearest double ends the run. -/
theorem read_of_outOfRange {m : Int} (h : OutOfRange m) :
    read (.number (.integer m)) = .error .outOfRange := by
  rw [read_number, asReal_integer_eq_error_iff.mpr ⟨h, rfl⟩]
  rfl

theorem refused_minusHalf {n : Number}
    (h : n.value? = some (-almostHalf) ∨ n.value? = some (-(1 / 2))) : Refused n := by
  refine refused_of_not_read (fun m hn _ => ?_) (not_read_minusHalf h)
  -- a whole number has no such value
  subst hn
  have hdouble : ∃ w : ℚ, (m : ℚ) = w ∧ -1 < w ∧ w < 0 := by
    rcases h with h | h
    · exact ⟨_, Option.some.inj h, by norm_num [almostHalf], by norm_num [almostHalf]⟩
    · exact ⟨_, Option.some.inj h, by norm_num, by norm_num⟩
  obtain ⟨w, rfl, hlow, hhigh⟩ := hdouble
  have hm : -1 < m := by exact_mod_cast hlow
  have hm' : m < 0 := by exact_mod_cast hhigh
  omega

theorem not_roundsHalfUp_of_misrounded {n : Number} (h : Misrounded n) : ¬ RoundsHalfUp n := by
  intro hrounds
  have hzero : ∀ {v : ℚ}, n.value? = some v → 0 ≤ v + 1 / 2 → v + 1 / 2 < 1 →
      ∃ p, read (.number n) = .ok p ∧ Shows p.field 0 := fun hv hlow hhigh =>
    hrounds.written _ 0 hv (Int.floor_eq_zero_iff.mpr ⟨hlow, hhigh⟩).symm le_rfl (by decide)
  have hrefused : (n.value? = some (-almostHalf) ∨ n.value? = some (-(1 / 2))) →
      ¬ ∃ p, read (.number n) = .ok p ∧ Shows p.field 0 := fun hv ⟨p, hp, _⟩ =>
    not_read_minusHalf hv p hp
  cases h with
  | almostHalf hv =>
    obtain ⟨p, hp, hshown⟩ := hzero hv (by norm_num [almostHalf]) (by norm_num [almostHalf])
    obtain ⟨q, hq, hone⟩ := read_almostHalf hv
    rw [hp, Except.ok.injEq] at hq
    subst hq
    rw [shows_field_iff] at hshown hone
    omega
  | minusAlmostHalf hv =>
    exact hrefused (.inl hv)
      (hzero hv (by norm_num [almostHalf]) (by norm_num [almostHalf]))
  | minusHalf hv => exact hrefused (.inr hv) (hzero hv (by norm_num) (by norm_num))
  | outOfRange m hn h =>
    have hlimit : 10000 ≤ overflowLimit := by decide +kernel
    have hfar : ∀ v, n.value? = some v → ⌊v + 1 / 2⌋ < 0 ∨ 9999 < ⌊v + 1 / 2⌋ := by
      intro v hv
      rw [floor_integer hn hv]
      unfold OutOfRange at h
      generalize overflowLimit = limit at *
      omega
    obtain ⟨reason, hread, hkind⟩ := hrounds.refused hfar
    rw [hn, read_of_outOfRange h, Except.error.injEq] at hread
    subst hread
    cases hkind

/-- A coordinate is written as its value rounded half up, or refused as no position, with these
    exceptions: the largest double below one half is written as 1, this double below zero and one
    half below zero are refused, and a whole number without a nearest double ends the run. -/
theorem rounds_half_up_iff (n : Number) :
    (RoundsHalfUp n ↔ ¬ Misrounded n) ∧
      (n.value? = some almostHalf → ∃ p, read (.number n) = .ok p ∧ Shows p.field 1) ∧
      (n.value? = some (-almostHalf) ∨ n.value? = some (-(1 / 2)) → Refused n) ∧
      ∀ m, n = .integer m → OutOfRange m → read (.number n) = .error .outOfRange := by
  refine ⟨⟨fun hrounds h => not_roundsHalfUp_of_misrounded h hrounds,
    roundsHalfUp_of_not_misrounded⟩, read_almostHalf, refused_minusHalf, ?_⟩
  rintro m rfl h
  exact read_of_outOfRange h

/-- 0.49999999999999994, the largest double below one half. -/
def belowHalf : Binary64 :=
  .finite false almostHalfUnits (fits_iff.mpr ⟨isPrecise_almostHalfUnits, by decide +kernel⟩)

theorem value?_belowHalf : (Number.real belowHalf).value? = some almostHalf :=
  Number.value?_eq_some_iff.mpr ⟨almostHalfUnits, rfl, almostHalf_mul⟩

theorem rounds_half_up_iff_belowHalf :
    (Number.real belowHalf).value? = some almostHalf ∧
      ∃ p, read (.number (.real belowHalf)) = .ok p ∧ Shows p.field 1 :=
  ⟨value?_belowHalf, (rounds_half_up_iff _).2.1 value?_belowHalf⟩

/-- Rounded half up, the largest double below one half is 0, and it is written as 1. -/
theorem not_rounds_half_up_belowHalf :
    ⌊almostHalf + 1 / 2⌋ = 0 ∧ ¬ RoundsHalfUp (.real belowHalf) :=
  ⟨Int.floor_eq_zero_iff.mpr ⟨by norm_num [almostHalf], by norm_num [almostHalf]⟩,
    not_roundsHalfUp_of_misrounded (.almostHalf value?_belowHalf)⟩

end Position

end ThermalLabel
