/-
  Rounding to magnitudes of 53 bits.

  A quotient goes to the nearest magnitude of 53 bits. One that is nearer to a magnitude than
  `2 ^ (-54)` of it goes there (`roundUnits_of_near`), so a magnitude of 53 bits goes to itself
  (`roundUnits_mul`). Rounding keeps order (`roundUnits_mono`), and a quotient stays on its side of
  every magnitude of 53 bits (`roundUnits_le`, `le_roundUnits`).
-/
import Mathlib
import ThermalLabel.Number.Binary64

namespace ThermalLabel

namespace Binary64

theorem two_pow (k : Nat) : Nat.pow 2 k = 2 ^ k := rfl

theorem unitsPerOne_eq : unitsPerOne = 2 ^ 1074 := by decide +kernel

theorem unitsPerOne_pos : 0 < unitsPerOne := by
  rw [unitsPerOne_eq]
  exact Nat.two_pow_pos 1074

theorem cast_unitsPerOne_pos : (0 : ℚ) < unitsPerOne := Nat.cast_pos.mpr unitsPerOne_pos

theorem cast_unitsPerOne_ne_zero : (unitsPerOne : ℚ) ≠ 0 := cast_unitsPerOne_pos.ne'

/-! ## The nearest whole number -/

theorem nearestEven_le_iff (num : Nat) {den : Nat} (hden : 0 < den) (k : Nat) :
    nearestEven num den ≤ k ↔
      2 * num < (2 * k + 1) * den ∨ (2 * num = (2 * k + 1) * den ∧ k % 2 = 0) := by
  have hdiv : den * (num / den) + num % den = num := Nat.div_add_mod num den
  have hmod : num % den < den := Nat.mod_lt num hden
  rw [nearestEven]
  rcases Nat.lt_trichotomy (num / den) k with hlt | heq | hgt
  · -- the quotient and its successor are both at most `k`
    have hle : (num / den + 1) * den ≤ k * den := Nat.mul_le_mul_right den hlt
    have hnum : 2 * num < (2 * k + 1) * den := by
      rw [Nat.add_mul, Nat.mul_assoc]
      rw [Nat.add_mul, Nat.mul_comm (num / den)] at hle
      omega
    refine iff_of_true ?_ (.inl hnum)
    split <;> omega
  · subst heq
    have hstep : (2 * (num / den) + 1) * den = 2 * (den * (num / den)) + den := by
      rw [Nat.add_mul, Nat.mul_assoc, Nat.mul_comm (num / den), Nat.one_mul]
    rw [hstep]
    split <;> omega
  · have hle : (k + 1) * den ≤ num / den * den := Nat.mul_le_mul_right den hgt
    have hnum : (2 * k + 1) * den < 2 * num := by
      rw [Nat.add_mul, Nat.mul_assoc]
      rw [Nat.add_mul, Nat.mul_comm (num / den)] at hle
      omega
    refine iff_of_false ?_ (by omega)
    split <;> omega

theorem nearestEven_mono {num den num' den' : Nat} (hden : 0 < den) (hden' : 0 < den')
    (h : num * den' ≤ num' * den) : nearestEven num den ≤ nearestEven num' den' := by
  have hself := (nearestEven_le_iff num' hden' _).mp le_rfl
  rw [nearestEven_le_iff num hden]
  generalize nearestEven num' den' = k at hself ⊢
  have hscale : 2 * num * den' ≤ 2 * num' * den := by
    rw [Nat.mul_assoc, Nat.mul_assoc]
    exact Nat.mul_le_mul_left 2 h
  rcases hself with hlt | ⟨heq, heven⟩
  · left
    apply Nat.lt_of_mul_lt_mul_right (a := den')
    calc 2 * num * den' ≤ 2 * num' * den := hscale
      _ < (2 * k + 1) * den' * den := Nat.mul_lt_mul_of_pos_right hlt hden
      _ = (2 * k + 1) * den * den' := Nat.mul_right_comm _ _ _
  · have hle : 2 * num ≤ (2 * k + 1) * den := by
      apply Nat.le_of_mul_le_mul_right _ hden'
      calc 2 * num * den' ≤ 2 * num' * den := hscale
        _ = (2 * k + 1) * den * den' := by rw [heq, Nat.mul_right_comm]
    rcases Nat.lt_or_eq_of_le hle with hlt | heq
    · exact .inl hlt
    · exact .inr ⟨heq, heven⟩

theorem nearestEven_mul (k : Nat) {den : Nat} (hden : 0 < den) : nearestEven (k * den) den = k := by
  simp [nearestEven, Nat.mul_div_cancel k hden, hden]

/-- A quotient that is nearer than half to a whole number goes there. -/
theorem nearestEven_of_near {num den k : Nat} (hden : 0 < den) (hlow : 2 * k * den < 2 * num + den)
    (hhigh : 2 * num < (2 * k + 1) * den) : nearestEven num den = k := by
  refine Nat.le_antisymm ((nearestEven_le_iff num hden k).mpr (.inl hhigh)) ?_
  by_contra hlt
  obtain ⟨j, rfl⟩ : ∃ j, k = j + 1 := Nat.exists_eq_succ_of_ne_zero (by omega)
  have hj := (nearestEven_le_iff num hden j).mp (by omega)
  have hsplit : 2 * (j + 1) * den = (2 * j + 1) * den + den := by ring
  omega

/-! ## Magnitudes of 53 bits -/

/-- The bits below the first 53 are zero. -/
def IsPrecise (k : Nat) : Prop := 2 ^ (k.log2 - 52) ∣ k

theorem fits_iff {k : Nat} : Fits k ↔ IsPrecise k ∧ k.log2 < 2098 := by
  rw [Fits, two_pow, IsPrecise, Nat.dvd_iff_mod_eq_zero]

theorem isPrecise_of_dvd {k s : Nat} (hdvd : 2 ^ s ∣ k) (hlt : k < 2 ^ (s + 53)) :
    IsPrecise k := by
  rcases Nat.eq_zero_or_pos k with rfl | hk
  · exact Nat.dvd_zero _
  · have hlog : k.log2 < s + 53 := (Nat.log2_lt (Nat.ne_of_gt hk)).mpr hlt
    exact Nat.dvd_trans (Nat.pow_dvd_pow 2 (by omega)) hdvd

theorem isPrecise_two_pow (e : Nat) : IsPrecise (2 ^ e) := by
  rw [IsPrecise, Nat.log2_two_pow]
  exact Nat.pow_dvd_pow 2 (Nat.sub_le e 52)

theorem log2_mono {m n : Nat} (h : m ≤ n) : m.log2 ≤ n.log2 := by
  rw [Nat.log2_eq_log_two, Nat.log2_eq_log_two]
  exact Nat.log_mono_right h

/-! ## The step of a quotient -/

variable {num den : Nat}

theorem roundUnits_eq (num den : Nat) :
    roundUnits num den =
      nearestEven num (den * 2 ^ ((num / den).log2 - 52)) * 2 ^ ((num / den).log2 - 52) := rfl

theorem step_pos (hden : 0 < den) (s : Nat) : 0 < den * 2 ^ s :=
  Nat.mul_pos hden (Nat.two_pow_pos s)

/-- A quotient is not rounded past a multiple of its step. -/
theorem roundUnits_le_of_dvd (hden : 0 < den) {k : Nat}
    (hdvd : 2 ^ ((num / den).log2 - 52) ∣ k) (h : num ≤ k * den) : roundUnits num den ≤ k := by
  rw [roundUnits_eq]
  generalize (num / den).log2 - 52 = s at hdvd ⊢
  obtain ⟨q, rfl⟩ := hdvd
  have hstep := step_pos hden s
  have hmono : nearestEven num (den * 2 ^ s) ≤ nearestEven (q * (den * 2 ^ s)) (den * 2 ^ s) :=
    nearestEven_mono hstep hstep (Nat.mul_le_mul_right _
      (by rwa [Nat.mul_comm den, ← Nat.mul_assoc, Nat.mul_comm q]))
  rw [nearestEven_mul q hstep] at hmono
  rw [Nat.mul_comm _ q]
  exact Nat.mul_le_mul_right _ hmono

theorem le_roundUnits_of_dvd (hden : 0 < den) {k : Nat}
    (hdvd : 2 ^ ((num / den).log2 - 52) ∣ k) (h : k * den ≤ num) : k ≤ roundUnits num den := by
  rw [roundUnits_eq]
  generalize (num / den).log2 - 52 = s at hdvd ⊢
  obtain ⟨q, rfl⟩ := hdvd
  have hstep := step_pos hden s
  have hmono : nearestEven (q * (den * 2 ^ s)) (den * 2 ^ s) ≤ nearestEven num (den * 2 ^ s) :=
    nearestEven_mono hstep hstep (Nat.mul_le_mul_right _
      (by rwa [Nat.mul_comm den, ← Nat.mul_assoc, Nat.mul_comm q]))
  rw [nearestEven_mul q hstep] at hmono
  rw [Nat.mul_comm _ q]
  exact Nat.mul_le_mul_right _ hmono

theorem roundUnits_le_two_pow (num : Nat) (hden : 0 < den) :
    roundUnits num den ≤ 2 ^ ((num / den).log2 + 1) := by
  refine roundUnits_le_of_dvd hden (Nat.pow_dvd_pow 2 (by omega)) ?_
  have hfloor : num / den < 2 ^ ((num / den).log2 + 1) := Nat.lt_log2_self
  exact Nat.le_of_lt ((Nat.div_lt_iff_lt_mul hden).mp hfloor)

theorem two_pow_le_roundUnits (hden : 0 < den) (hnum : num / den ≠ 0) :
    2 ^ (num / den).log2 ≤ roundUnits num den := by
  refine le_roundUnits_of_dvd hden (Nat.pow_dvd_pow 2 (by omega)) ?_
  exact (Nat.le_div_iff_mul_le hden).mp (Nat.log2_self_le hnum)

/-! ## Order -/

theorem roundUnits_mono {num' den' : Nat} (hden : 0 < den) (hden' : 0 < den')
    (h : num * den' ≤ num' * den) : roundUnits num den ≤ roundUnits num' den' := by
  have hfloor : num / den ≤ num' / den' := by
    rw [Nat.le_div_iff_mul_le hden']
    apply Nat.le_of_mul_le_mul_right _ hden
    calc num / den * den' * den = num / den * den * den' := Nat.mul_right_comm _ _ _
      _ ≤ num * den' := Nat.mul_le_mul_right _ (Nat.div_mul_le_self num den)
      _ ≤ num' * den := h
  rcases Nat.lt_or_eq_of_le (log2_mono hfloor) with hlt | heq
  · -- a power of two stands between them
    have hne : num' / den' ≠ 0 := by
      intro hzero
      rw [hzero, Nat.log2_zero] at hlt
      exact Nat.not_lt_zero _ hlt
    calc roundUnits num den ≤ 2 ^ ((num / den).log2 + 1) := roundUnits_le_two_pow num hden
      _ ≤ 2 ^ (num' / den').log2 := Nat.pow_le_pow_right (by decide) hlt
      _ ≤ roundUnits num' den' := two_pow_le_roundUnits hden' hne
  · rw [roundUnits_eq, roundUnits_eq, heq]
    refine Nat.mul_le_mul_right _ (nearestEven_mono (step_pos hden _) (step_pos hden' _) ?_)
    rw [← Nat.mul_assoc, ← Nat.mul_assoc]
    exact Nat.mul_le_mul_right _ h

theorem isPrecise_roundUnits (num : Nat) (hden : 0 < den) : IsPrecise (roundUnits num den) := by
  have hle := roundUnits_le_two_pow num hden
  have hlog : (num / den).log2 + 1 ≤ (num / den).log2 - 52 + 53 := by omega
  have hbound := hle.trans (Nat.pow_le_pow_right (by decide) hlog)
  rw [roundUnits_eq] at hbound ⊢
  rcases Nat.lt_or_eq_of_le hbound with hlt | heq
  · exact isPrecise_of_dvd (Nat.dvd_mul_left _ _) hlt
  · -- the quotient was rounded up to the next power of two
    rw [heq]
    exact isPrecise_two_pow _

/-- A quotient that is near to a magnitude goes there, if the magnitude is on its grid. -/
theorem roundUnits_of_grid (hden : 0 < den) {k : Nat}
    (hdvd : 2 ^ ((num / den).log2 - 52) ∣ k) (hle : k ≤ 2 ^ ((num / den).log2 - 52 + 53))
    (hlow : (2 ^ 54 - 1) * (k * den) < 2 ^ 54 * num)
    (hhigh : 2 ^ 54 * num < (2 ^ 54 + 1) * (k * den)) : roundUnits num den = k := by
  rw [roundUnits_eq]
  generalize (num / den).log2 - 52 = s at hdvd hle ⊢
  obtain ⟨q, rfl⟩ := hdvd
  have hq : q ≤ 2 ^ 53 := by
    rw [Nat.pow_add] at hle
    exact Nat.le_of_mul_le_mul_left hle (Nat.two_pow_pos s)
  have hscale : 2 ^ s * q * den = q * (den * 2 ^ s) := by ring
  have hbound : q * (den * 2 ^ s) ≤ 2 ^ 53 * (den * 2 ^ s) := Nat.mul_le_mul_right _ hq
  rw [hscale] at hlow hhigh
  have hnear : nearestEven num (den * 2 ^ s) = q := by
    refine nearestEven_of_near (step_pos hden s) ?_ ?_
    · rw [Nat.mul_assoc]
      omega
    · rw [Nat.add_mul, Nat.mul_assoc, Nat.one_mul]
      omega
  rw [hnear, Nat.mul_comm]

theorem log2_div_eq (hden : 0 < den) {e : Nat} (hlow : 2 ^ e * den ≤ num)
    (hhigh : num < 2 ^ (e + 1) * den) : (num / den).log2 = e := by
  have hle : 2 ^ e ≤ num / den := (Nat.le_div_iff_mul_le hden).mpr hlow
  have hne : num / den ≠ 0 := Nat.ne_of_gt ((Nat.two_pow_pos e).trans_le hle)
  exact (Nat.log2_eq_iff hne).mpr ⟨hle, (Nat.div_lt_iff_lt_mul hden).mpr hhigh⟩

/-- Multiples of a step are at least the step apart. -/
theorem add_le_of_dvd {s k l : Nat} (hk : s ∣ k) (hl : s ∣ l) (h : k < l) : k + s ≤ l := by
  have hle := Nat.le_of_dvd (Nat.sub_pos_of_lt h) (Nat.dvd_sub hl hk)
  omega

/-- Of the magnitudes with more bits only a power of two has quotients below its binade that are
    nearer than `2 ^ (-54)` of it. -/
theorem exists_two_pow_of_near (hden : 0 < den) {k : Nat} (hk : IsPrecise k) (hlarge : 52 < k.log2)
    (hlow : (2 ^ 54 - 1) * (k * den) < 2 ^ 54 * num) (hbelow : num < 2 ^ k.log2 * den) :
    ∃ e, k = 2 ^ e := by
  refine ⟨k.log2, ?_⟩
  have hfirst : 2 ^ k.log2 ≤ k := Nat.log2_self_le (by rintro rfl; simp at hlarge)
  rcases Nat.lt_or_eq_of_le hfirst with hlt | heq
  · have hgap := Nat.mul_le_mul_right den
      (add_le_of_dvd (Nat.pow_dvd_pow 2 (Nat.sub_le k.log2 52)) hk hlt)
    have hsplit : 2 ^ k.log2 * den = 2 ^ 52 * (2 ^ (k.log2 - 52) * den) := by
      rw [← Nat.mul_assoc, ← Nat.pow_add]
      congr 2
      omega
    have hpos : 0 < 2 ^ (k.log2 - 52) * den := Nat.mul_pos (Nat.two_pow_pos _) hden
    rw [Nat.add_mul] at hgap
    omega
  · exact heq.symm

/-- A quotient that is nearer to a magnitude of 53 bits than `2 ^ (-54)` of it goes there. -/
theorem roundUnits_of_near (hden : 0 < den) {k : Nat} (hk : IsPrecise k)
    (hlow : (2 ^ 54 - 1) * (k * den) < 2 ^ 54 * num)
    (hhigh : 2 ^ 54 * num < (2 ^ 54 + 1) * (k * den)) : roundUnits num den = k := by
  have hne : k ≠ 0 := by
    rintro rfl
    rw [Nat.zero_mul, Nat.mul_zero] at hhigh
    exact Nat.not_lt_zero _ hhigh
  have hself : k < 2 ^ (k.log2 + 1) := Nat.lt_log2_self
  have hfirst : 2 ^ k.log2 ≤ k := Nat.log2_self_le hne
  have hrange : 2 ^ (k.log2 + 1) ≤ 2 ^ (k.log2 - 52 + 53) :=
    Nat.pow_le_pow_right (by decide) (by omega)
  rcases Nat.lt_or_ge num (2 ^ k.log2 * den) with hbelow | habove
  · have hfloor : (num / den).log2 ≤ k.log2 := by
      refine log2_mono (Nat.le_of_lt ?_)
      exact ((Nat.div_lt_iff_lt_mul hden).mpr hbelow).trans_le hfirst
    rcases Nat.lt_or_ge 52 k.log2 with hlarge | hsmall
    · obtain ⟨e, rfl⟩ := exists_two_pow_of_near hden hk hlarge hlow hbelow
      rw [Nat.log2_two_pow] at hbelow hlarge
      have hlog : (num / den).log2 = e - 1 := by
        have hhalf : 2 ^ e = 2 * 2 ^ (e - 1) := by
          rw [← Nat.pow_succ']
          congr 1
          omega
        rw [hhalf, Nat.mul_assoc] at hlow hbelow
        refine log2_div_eq hden (by omega) ?_
        rwa [Nat.pow_succ', Nat.mul_assoc]
      refine roundUnits_of_grid hden ?_ ?_ hlow hhigh
      · exact Nat.pow_dvd_pow 2 (by omega)
      · exact Nat.pow_le_pow_right (by decide) (by omega)
    · -- below 53 bits all whole numbers are on the grid
      have hstep : (num / den).log2 - 52 = 0 := by omega
      have hbits : 2 ^ (k.log2 + 1) ≤ 2 ^ 53 := Nat.pow_le_pow_right (by decide) (by omega)
      refine roundUnits_of_grid hden ?_ ?_ hlow hhigh
      · rw [hstep]
        exact Nat.one_dvd k
      · rw [hstep]
        exact (hself.trans_le hbits).le
  · have hlog : (num / den).log2 = k.log2 := by
      refine log2_div_eq hden habove ?_
      have hgap := Nat.mul_le_mul_right den (add_le_of_dvd hk (Nat.pow_dvd_pow 2 (by omega)) hself)
      have hstep := Nat.mul_le_mul_right den hrange
      rw [Nat.add_mul] at hgap
      rw [Nat.pow_add 2 (k.log2 - 52), Nat.mul_comm (2 ^ (k.log2 - 52)), Nat.mul_assoc] at hstep
      omega
    refine roundUnits_of_grid hden ?_ ?_ hlow hhigh
    · rw [hlog]
      exact hk
    · rw [hlog]
      exact (hself.trans_le hrange).le

/-- A magnitude of 53 bits goes to itself. -/
theorem roundUnits_mul (hden : 0 < den) {k : Nat} (hk : IsPrecise k) :
    roundUnits (k * den) den = k := by
  refine Nat.le_antisymm (roundUnits_le_of_dvd hden ?_ le_rfl)
    (le_roundUnits_of_dvd hden ?_ le_rfl)
  · rwa [Nat.mul_div_cancel k hden]
  · rwa [Nat.mul_div_cancel k hden]

theorem roundUnits_le (hden : 0 < den) {k : Nat} (hk : IsPrecise k) (h : num ≤ k * den) :
    roundUnits num den ≤ k := by
  have hmono : roundUnits num den ≤ roundUnits (k * den) den :=
    roundUnits_mono hden hden (Nat.mul_le_mul_right den h)
  rwa [roundUnits_mul hden hk] at hmono

theorem le_roundUnits (hden : 0 < den) {k : Nat} (hk : IsPrecise k) (h : k * den ≤ num) :
    k ≤ roundUnits num den := by
  have hmono : roundUnits (k * den) den ≤ roundUnits num den :=
    roundUnits_mono hden hden (Nat.mul_le_mul_right den h)
  rwa [roundUnits_mul hden hk] at hmono

end Binary64

end ThermalLabel
