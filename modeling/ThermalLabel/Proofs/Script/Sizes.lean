/-
  Written sizes.

  A size that is a whole number is written in digits. One with a fraction is written with a point
  if it is at least one ten-thousandth, and below that with an exponent, so not every size field is
  a plain numeral. All are read back as the size (`Size.field_numeral`).
-/
import ThermalLabel.Proofs.Fields
import ThermalLabel.Proofs.Number.Notation

namespace ThermalLabel

/-! ## Kinds of numerals -/

namespace Text

/-- Digits, or digits, a point and digits. -/
inductive IsPlainNumeral : Text → Prop
  | whole {w : Text} (hw : w.IsDigits) : IsPlainNumeral w
  | point {w p : Text} (hw : w.IsDigits) (hp : p.IsDigits) : IsPlainNumeral (w ++ '.' :: p)

/-- A digit, or a digit, a point and digits, with a negative power of ten in two digits or more. -/
inductive IsTinyNumeral : Text → Prop
  | whole {first : Char} {places : Text} (hfirst : first.isDigit) (hplaces : places.IsDigits)
      (hlength : 2 ≤ places.length) : IsTinyNumeral (first :: 'e' :: '-' :: places)
  | point {first : Char} {p places : Text} (hfirst : first.isDigit) (hp : p.IsDigits)
      (hplaces : places.IsDigits) (hlength : 2 ≤ places.length) :
      IsTinyNumeral (first :: '.' :: (p ++ 'e' :: '-' :: places))

theorem IsDigits.not_mem {t : Text} (h : t.IsDigits) {c : Char} (hc : c.isDigit = false) :
    c ∉ t := by
  intro hmem
  rw [h.digits c hmem] at hc
  cases hc

theorem IsPlainNumeral.not_mem_exponent {t : Text} (h : t.IsPlainNumeral) : 'e' ∉ t := by
  cases h with
  | whole hw => exact hw.not_mem rfl
  | point hw hp =>
    rw [List.mem_append, List.mem_cons, not_or, not_or]
    exact ⟨hw.not_mem rfl, by decide, hp.not_mem rfl⟩

end Text

theorem ScaledDecimal.isTinyNumeral_scientific {d : ScaledDecimal} (h : d.leadingPlace < 0) :
    d.scientific.IsTinyNumeral := by
  obtain ⟨first, p, hfirst, hp, -, htext⟩ := d.scientific_eq
  have hplaces := Text.isDigits_padded 2 d.leadingPlace.natAbs
  have hlength : 2 ≤ (Decimal.padded 2 d.leadingPlace.natAbs).length := by
    rw [Decimal.padded, List.length_append, List.length_replicate]
    omega
  rw [htext, if_pos (decide_eq_true h)]
  by_cases hnil : p = []
  · rw [if_pos hnil]
    exact .whole hfirst hplaces hlength
  · rw [if_neg hnil]
    exact .point hfirst ⟨hnil, hp⟩ hplaces hlength

/-! ## Fields -/

namespace Size

open Binary64

/-- The rational that a size is. -/
def value (s : Size) : ℚ := (s.units : ℚ) / unitsPerOne

variable (s : Size)

theorem isInt_value_iff : (∃ n : Int, s.value = n) ↔ s.units % unitsPerOne = 0 := by
  rw [← Nat.dvd_iff_mod_eq_zero, ← Int.natCast_dvd_natCast]
  constructor
  · rintro ⟨n, hn⟩
    rw [value, div_eq_iff cast_unitsPerOne_ne_zero] at hn
    exact ⟨n, by rw [mul_comm]; exact_mod_cast hn⟩
  · rintro ⟨n, hn⟩
    refine ⟨n, ?_⟩
    rw [value, div_eq_iff cast_unitsPerOne_ne_zero, mul_comm]
    exact_mod_cast hn

theorem tenThousandth_le_iff : 1 / 10 ^ 4 ≤ s.value ↔ unitsPerOne ≤ s.units * 10 ^ 4 := by
  rw [value, div_le_div_iff₀ (by positivity) cast_unitsPerOne_pos, one_mul]
  exact_mod_cast Iff.rfl

theorem isDigits_field (h : s.units % unitsPerOne = 0) : s.field.IsDigits := by
  have hnonneg : ¬ ((s.units / unitsPerOne : Nat) : Int) < 0 :=
    Int.not_lt.mpr (Int.natCast_nonneg _)
  rw [field, numeral, if_pos h, truncate, signed_false, Decimal.ofInt, if_neg hnonneg]
  exact Text.isDigits_ofNat _

theorem isPrecise : IsPrecise s.units := (fits_iff.mp s.fits).1

theorem units_ne_zero {s : Size} (h : s.units % unitsPerOne ≠ 0) : s.units ≠ 0 := by
  intro hzero
  rw [hzero] at h
  exact h (Nat.zero_mod _)

theorem field_of_fraction {s : Size} (h : s.units % unitsPerOne ≠ 0) :
    s.field = (shortest s.units).text := by
  rw [field, numeral, if_neg h, text, if_neg Bool.false_ne_true, magnitudeText,
    if_neg (units_ne_zero h)]

theorem exists_field_eq_point {s : Size} (h : s.units % unitsPerOne ≠ 0)
    (hlarge : unitsPerOne ≤ s.units * 10 ^ 4) :
    ∃ w p : Text, s.field = w ++ '.' :: p ∧ w.IsDigits ∧ p.IsDigits := by
  have hlow := (le_leadingPlace_shortest_iff s.isPrecise (units_ne_zero h)).mpr hlarge
  have hhigh := leadingPlace_shortest_lt s.isPrecise fun hdvd => h (Nat.mod_eq_zero_of_dvd hdvd)
  obtain ⟨w, p, htext, hpointed⟩ := (shortest s.units).positional_eq
  refine ⟨w, p, ?_, hpointed.whole, hpointed.fraction⟩
  rw [field_of_fraction h, ScaledDecimal.text, if_pos ⟨hlow, hhigh⟩, htext]

theorem isTinyNumeral_field {s : Size} (h : s.units % unitsPerOne ≠ 0)
    (hsmall : ¬ unitsPerOne ≤ s.units * 10 ^ 4) : s.field.IsTinyNumeral := by
  rw [← le_leadingPlace_shortest_iff s.isPrecise (units_ne_zero h), not_le] at hsmall
  have hplace : ¬ (-4 ≤ (shortest s.units).leadingPlace ∧ (shortest s.units).leadingPlace < 16) :=
    fun h => Int.not_le.mpr hsmall h.1
  rw [field_of_fraction h, ScaledDecimal.text, if_neg hplace]
  exact ScaledDecimal.isTinyNumeral_scientific (by omega)

/-- A whole number, and a number that is at least one ten-thousandth, is written without an
    exponent, and with a point exactly if it is no whole number. -/
theorem isPlainNumeral_field (h : s.value = 0 ∨ 1 / 10 ^ 4 ≤ s.value) :
    s.field.IsPlainNumeral ∧ ('.' ∉ s.field ↔ ∃ n : Int, s.value = n) := by
  rw [isInt_value_iff]
  by_cases hwhole : s.units % unitsPerOne = 0
  · have hdigits := s.isDigits_field hwhole
    exact ⟨.whole hdigits, iff_of_true (hdigits.not_mem rfl) hwhole⟩
  · have hlarge : unitsPerOne ≤ s.units * 10 ^ 4 := by
      rcases h with hzero | hlarge
      · exact absurd ((isInt_value_iff s).mp ⟨0, by rw [hzero, Int.cast_zero]⟩) hwhole
      · exact s.tenThousandth_le_iff.mp hlarge
    obtain ⟨w, p, htext, hw, hp⟩ := exists_field_eq_point hwhole hlarge
    rw [htext]
    refine ⟨.point hw hp, iff_of_false ?_ hwhole⟩
    rw [not_not]
    exact List.mem_append_right w List.mem_cons_self

theorem isTinyNumeral_of_lt (hpos : 0 < s.value) (hsmall : s.value < 1 / 10 ^ 4) :
    s.field.IsTinyNumeral := by
  have hnot : ¬ unitsPerOne ≤ s.units * 10 ^ 4 := by
    rw [← tenThousandth_le_iff, not_le]
    exact hsmall
  refine isTinyNumeral_field ?_ hnot
  rw [ne_eq, ← isInt_value_iff]
  rintro ⟨n, hn⟩
  -- there is no whole number between zero and one
  rw [hn] at hpos hsmall
  have hone : (n : ℚ) < 1 := hsmall.trans (by norm_num)
  have hlow : 0 < n := by exact_mod_cast hpos
  have hhigh : n < 1 := by exact_mod_cast hone
  omega

theorem field_of_value_zero (h : s.value = 0) : s.field = ['0'] := by
  have hunits : s.units = 0 := by
    rw [value, div_eq_zero_iff, or_iff_left cast_unitsPerOne_ne_zero] at h
    exact_mod_cast h
  obtain ⟨units, fits⟩ := s
  subst hunits
  have hfield : (⟨0, fits_zero⟩ : Size).field = ['0'] := by decide +kernel
  exact hfield

/-! ## Accepted and refused -/

theorem value_nonneg : 0 ≤ s.value := div_nonneg (Nat.cast_nonneg _) (Nat.cast_nonneg _)

variable {s} {q : Quantity} {x : Binary64}

theorem value?_eq_iff : x.value? = some s.value ↔ x.units? = some (s.units : Int) := by
  rw [Binary64.value?, Option.map_eq_some_iff]
  constructor
  · rintro ⟨z, hz, hvalue⟩
    rw [value, div_left_inj' cast_unitsPerOne_ne_zero] at hvalue
    rw [hz, Option.some.injEq]
    exact_mod_cast hvalue
  · intro h
    exact ⟨_, h, by rw [Int.cast_natCast, value]⟩

/-- A double is a size with its own value. -/
theorem ofPixels_eq_ok_iff : ofPixels q x = .ok s ↔ x.value? = some s.value := by
  rw [value?_eq_iff]
  cases x with
  | nan | infinite => simp [ofPixels, Binary64.units?]
  | finite negative units fits =>
    rw [ofPixels, Binary64.units?, Option.some.injEq]
    by_cases hbelow : negative = true ∧ units ≠ 0
    · obtain ⟨rfl, hne⟩ := hbelow
      rw [if_pos ⟨rfl, hne⟩, signed_true]
      refine iff_of_false (by simp) ?_
      omega
    · rw [if_neg hbelow, Except.ok.injEq, ← eq_iff]
      cases negative with
      | false =>
        rw [signed_false, Int.natCast_inj]
      | true =>
        have hzero : units = 0 := by simpa using hbelow
        subst hzero
        rw [signed_true, Int.natCast_zero, Int.neg_zero, eq_comm, eq_comm (a := (0 : Int)),
          Int.natCast_eq_zero]

theorem read_of_pixels (h : q.pixels = .ok x) : read q = ofPixels q x := by
  rw [read, h, ok_bind]

/-- What is below zero or not finite is refused. -/
theorem read_eq_error (h : q.pixels = .ok x) (hbelow : ∀ v, x.value? = some v → v < 0) :
    read q = .error (.notSize q) := by
  rw [read_of_pixels h]
  cases hsize : ofPixels q x with
  | ok s => exact absurd s.value_nonneg (not_le.mpr (hbelow _ (ofPixels_eq_ok_iff.mp hsize)))
  | error reason => rw [ofPixels_eq_error hsize]

theorem exists_read_eq_ok_iff :
    (∃ s, read q = .ok s) ↔ ∃ x v, q.pixels = .ok x ∧ x.value? = some v ∧ 0 ≤ v := by
  constructor
  · rintro ⟨s, hs⟩
    obtain ⟨x, hx, hsize⟩ := bind_eq_ok_iff.mp hs
    exact ⟨x, _, hx, ofPixels_eq_ok_iff.mp hsize, s.value_nonneg⟩
  · rintro ⟨x, v, hx, hv, hnonneg⟩
    rw [read_of_pixels hx]
    cases x with
    | nan | infinite => cases hv
    | finite negative units fits =>
      rw [ofPixels]
      split
      · next hbelow =>
        obtain ⟨rfl, hne⟩ := hbelow
        have hunits : (0 : ℚ) < units := by exact_mod_cast Nat.pos_of_ne_zero hne
        have hminus : ((signed true units : Int) : ℚ) / unitsPerOne = v := Option.some.inj hv
        rw [signed_true, Int.cast_neg, Int.cast_natCast, neg_div] at hminus
        rw [← hminus] at hnonneg
        exact absurd (div_pos hunits cast_unitsPerOne_pos) (not_lt.mpr (neg_nonneg.mp hnonneg))
      · exact ⟨_, rfl⟩

/-- A size field is read back as the pixels that were given. It is a plain numeral without a sign
    for zero, of either sign, and from one ten-thousandth on, with a point exactly if the pixels are
    no whole number; below that it has a negative exponent. What is below zero or not finite has no
    size field. -/
theorem field_numeral (q : Quantity) :
    ((∃ s, read q = .ok s) ↔ ∃ x v, q.pixels = .ok x ∧ x.value? = some v ∧ 0 ≤ v) ∧
      (∀ x, q.pixels = .ok x → (∀ v, x.value? = some v → v < 0) →
        read q = .error (.notSize q)) ∧
      ∀ s, read q = .ok s → ∃ x v, q.pixels = .ok x ∧ x.value? = some v ∧
        (∃ y, Numeral.real? s.field = some y ∧ y.value? = some v) ∧
        (v = 0 → s.field = ['0']) ∧
        (v = 0 ∨ 1 / 10 ^ 4 ≤ v →
          s.field.IsPlainNumeral ∧ ('.' ∉ s.field ↔ ∃ n : Int, v = n)) ∧
        (0 < v → v < 1 / 10 ^ 4 → s.field.IsTinyNumeral) := by
  refine ⟨exists_read_eq_ok_iff, fun x => read_eq_error, fun s hs => ?_⟩
  obtain ⟨x, hx, hsize⟩ := bind_eq_ok_iff.mp hs
  refine ⟨x, s.value, hx, ofPixels_eq_ok_iff.mp hsize, ⟨_, Numeral.real?_numeral s.fits, rfl⟩,
    s.field_of_value_zero, s.isPlainNumeral_field, s.isTinyNumeral_of_lt⟩

theorem field_numeral_of_negativeZero :
    ∃ s, read (.ofReal (zero true)) = .ok s ∧ s.field = ['0'] ∧
      s.field.IsPlainNumeral ∧ read (.ofReal (.infinite false)) =
        .error (.notSize (.ofReal (.infinite false))) := by
  have hread : read (.ofReal (zero true)) = .ok ⟨0, fits_zero⟩ := by decide +kernel
  obtain ⟨x, v, hx, hv, -, hzero, hplain, -⟩ := (field_numeral _).2.2 _ hread
  have hvalue : v = 0 := by
    cases hx
    cases hv
    exact zero_div _
  exact ⟨_, hread, hzero hvalue, (hplain (.inl hvalue)).1,
    (field_numeral _).2.1 _ rfl fun v hv => by cases hv⟩

/-- 0.00001, a size that is written with an exponent. -/
def hundredThousandth : Binary64 :=
  .finite false (⟨1, -5⟩ : ScaledDecimal).units (by decide +kernel)

/-- The field of 0.00001 is no plain numeral, and it has no point although 0.00001 is no whole
    number. -/
theorem not_plain_hundredThousandth :
    ∃ s, read (.ofReal hundredThousandth) = .ok s ∧ s.field = ['1', 'e', '-', '0', '5'] ∧
      ¬ s.field.IsPlainNumeral ∧ '.' ∉ s.field ∧ ¬ ∃ n : Int, s.value = n := by
  have hfield : (⟨(⟨1, -5⟩ : ScaledDecimal).units, by decide +kernel⟩ : Size).field =
      ['1', 'e', '-', '0', '5'] := by decide +kernel
  refine ⟨_, by decide +kernel, hfield, ?_, ?_, ?_⟩
  · intro hplain
    exact hplain.not_mem_exponent (by rw [hfield]; decide)
  · rw [hfield]
    decide
  · rw [isInt_value_iff]
    decide +kernel

end Size

end ThermalLabel
