/-
  Written doubles, read back.

  In both notations the digits of a decimal are read back with the place of the point, so the text
  of a decimal is read as a decimal of the same value (`Numeral.decimal?_text`). The shortest
  decimal of a double goes to it, and so every double is read back from its text
  (`Numeral.real?_text`), a whole number of ones also from its digits alone
  (`Numeral.real?_numeral`).
-/
import ThermalLabel.Proofs.Number.Reading
import ThermalLabel.Proofs.Number.Shortest
import ThermalLabel.Proofs.Number.Value

namespace ThermalLabel

/-- One ASCII digit or more. -/
structure Text.IsDigits (t : Text) : Prop where
  ne_nil : t ≠ []
  digits : ∀ c ∈ t, c.isDigit

theorem Text.isDigits_ofNat (n : Nat) : IsDigits (Decimal.ofNat n) :=
  ⟨Decimal.ofNat_ne_nil n, fun _ => Decimal.isDigit_of_mem_ofNat⟩

/-! ## Parts of a numeral -/

namespace Numeral

theorem digits_append {t rest : Text} (h : ∀ c ∈ t, c.isDigit)
    (hrest : startsWithDigit rest = false) :
    digits (t ++ rest) = (t.map fun c => c.toNat - '0'.toNat, rest) := by
  induction t with
  | nil =>
    cases rest with
    | nil => rfl
    | cons c rest =>
      have hnone : Text.digitValue? c = none := by
        rwa [startsWithDigit, Text.isDecimalDigit, Option.isSome_eq_false_iff,
          Option.isNone_iff_eq_none] at hrest
      rw [List.nil_append, digits, hnone]
      rfl
  | cons c t ih =>
    rw [List.forall_mem_cons] at h
    rw [List.cons_append, digits, Text.digitValue?_of_isDigit h.1, ih h.2]
    rfl

/-- The end of a numeral behind its digits: nothing or an exponent. -/
structure EndsIn (tail : Text) (power : Int) : Prop where
  digit : startsWithDigit tail = false
  fraction : fraction tail = ([], tail)
  power : exponent tail = (power, [])

theorem endsIn_nil : EndsIn [] 0 := ⟨rfl, rfl, rfl⟩

theorem endsIn_exponent (negative : Bool) {ds : Text} (h : ds.IsDigits) :
    EndsIn ('e' :: (if negative then '-' else '+') :: ds)
      (if negative then -(Nat.ofDigitChars 10 ds 0 : Int) else Nat.ofDigitChars 10 ds 0) := by
  have hmark : Text.isDecimalDigit 'e' = false := by decide
  refine ⟨hmark, rfl, ?_⟩
  have hsign : sign ((if negative then '-' else '+') :: ds) = (negative, ds) := by
    cases negative <;> rfl
  have hdigits := digits_of_isDigit h.digits
  have hne : (ds.map fun c => c.toNat - '0'.toNat) ≠ [] := by
    rw [ne_eq, List.map_eq_nil_iff]
    exact h.ne_nil
  rw [exponent, if_pos (.inl rfl), hsign]
  dsimp only
  rw [hdigits]
  dsimp only
  rw [if_neg hne, Decimal.value_map]

theorem decimal?_whole {w tail : Text} {power : Int} (hw : w.IsDigits) (htail : EndsIn tail power) :
    decimal? (w ++ tail) = some ⟨Nat.ofDigitChars 10 w 0, power⟩ := by
  have hne : (w.map fun c => c.toNat - '0'.toNat) ++ [] ≠ [] := by
    rw [List.append_nil, ne_eq, List.map_eq_nil_iff]
    exact hw.ne_nil
  simp only [decimal?, digits_append hw.digits htail.digit, htail.fraction, htail.power]
  rw [if_pos ⟨trivial, hne⟩, List.append_nil, Decimal.value_map]
  simp

theorem decimal?_point {w p tail : Text} {power : Int} (hw : w.IsDigits) (hp : ∀ c ∈ p, c.isDigit)
    (htail : EndsIn tail power) :
    decimal? (w ++ '.' :: (p ++ tail)) =
      some ⟨Nat.ofDigitChars 10 (w ++ p) 0, power - p.length⟩ := by
  have hmark : Text.isDecimalDigit '.' = false := by decide
  have hwhole : digits (w ++ '.' :: (p ++ tail)) = (_, '.' :: (p ++ tail)) :=
    digits_append hw.digits hmark
  have hne : (w.map fun c => c.toNat - '0'.toNat) ++ (p.map fun c => c.toNat - '0'.toNat) ≠ [] := by
    rw [← List.map_append, ne_eq, List.map_eq_nil_iff, List.append_eq_nil_iff]
    exact fun h => hw.ne_nil h.1
  simp only [decimal?, hwhole, fraction, digits_append hp htail.digit, htail.power]
  rw [if_pos ⟨trivial, hne⟩, ← List.map_append, Decimal.value_map, List.length_map]

end Numeral

/-! ## The two notations -/

theorem Text.isDigits_append {s t : Text} (hs : ∀ c ∈ s, c.isDigit) (ht : ∀ c ∈ t, c.isDigit)
    (hne : s ≠ [] ∨ t ≠ []) : IsDigits (s ++ t) := by
  refine ⟨?_, fun c hc => (List.mem_append.mp hc).elim (hs c) (ht c)⟩
  rw [ne_eq, List.append_eq_nil_iff, not_and_or]
  exact hne

theorem Text.isDigit_of_mem_zeros {n : Nat} {c : Char} (h : c ∈ List.replicate n '0') :
    c.isDigit := by
  rw [List.eq_of_mem_replicate h]
  rfl

theorem Text.isDigits_zero : IsDigits ['0'] :=
  ⟨List.cons_ne_nil _ _, fun _ => isDigit_of_mem_zeros (n := 1)⟩

namespace ScaledDecimal

variable (d : ScaledDecimal)

theorem ofDigitChars_ofNat (n : Nat) : Nat.ofDigitChars 10 (Decimal.ofNat n) 0 = n :=
  Nat.ofDigitChars_ten_toDigits

/-- Digits before and behind a point that are the value of a decimal. -/
structure IsPointed (w p : Text) : Prop where
  whole : w.IsDigits
  fraction : p.IsDigits
  value : (⟨Nat.ofDigitChars 10 (w ++ p) 0, -p.length⟩ : ScaledDecimal).value = d.value

variable {d}

theorem isPointed_behind (h : 0 ≤ d.exponent) :
    d.IsPointed (Decimal.ofNat d.digits ++ List.replicate d.exponent.toNat '0') ['0'] := by
  have hdigits := Text.isDigits_ofNat d.digits
  refine ⟨Text.isDigits_append hdigits.digits (fun _ => Text.isDigit_of_mem_zeros)
    (.inl hdigits.ne_nil), Text.isDigits_zero, ?_⟩
  have hpower : (10 : ℚ) ^ d.exponent = 10 ^ d.exponent.toNat := by
    rw [← zpow_natCast, Int.toNat_of_nonneg h]
  have hzero : ∀ n, Nat.ofDigitChars 10 ['0'] n = 10 ^ 1 * n := fun n =>
    Nat.ofDigitChars_replicate_zero (n := 1)
  rw [Nat.ofDigitChars_append, Nat.ofDigitChars_append, ofDigitChars_ofNat,
    Nat.ofDigitChars_replicate_zero, hzero, value, value, hpower]
  push_cast
  norm_num
  ring

theorem isPointed_before (h : d.exponent < 0)
    (hlength : (Decimal.ofNat d.digits).length ≤ (-d.exponent).toNat) :
    d.IsPointed ['0'] (List.replicate ((-d.exponent).toNat - (Decimal.ofNat d.digits).length) '0' ++
      Decimal.ofNat d.digits) := by
  have hdigits := Text.isDigits_ofNat d.digits
  refine ⟨Text.isDigits_zero, Text.isDigits_append (fun _ => Text.isDigit_of_mem_zeros)
    hdigits.digits (.inr hdigits.ne_nil), ?_⟩
  have hplaces : -((List.replicate ((-d.exponent).toNat - (Decimal.ofNat d.digits).length) '0' ++
      Decimal.ofNat d.digits).length : Int) = d.exponent := by
    rw [List.length_append, List.length_replicate]
    omega
  have hzero : Nat.ofDigitChars 10 ['0'] 0 = 0 := rfl
  rw [hplaces, Nat.ofDigitChars_append, Nat.ofDigitChars_append, hzero,
    Nat.ofDigitChars_replicate_zero, Nat.mul_zero, ofDigitChars_ofNat]

theorem isPointed_among (h : d.exponent < 0)
    (hlength : (-d.exponent).toNat < (Decimal.ofNat d.digits).length) :
    d.IsPointed
      ((Decimal.ofNat d.digits).take ((Decimal.ofNat d.digits).length - (-d.exponent).toNat))
      ((Decimal.ofNat d.digits).drop ((Decimal.ofNat d.digits).length - (-d.exponent).toNat)) := by
  have hdigits := Text.isDigits_ofNat d.digits
  have hplaces : -(((Decimal.ofNat d.digits).drop
      ((Decimal.ofNat d.digits).length - (-d.exponent).toNat)).length : Int) = d.exponent := by
    rw [List.length_drop]
    omega
  refine ⟨⟨?_, fun c hc => hdigits.digits c (List.mem_of_mem_take hc)⟩,
    ⟨?_, fun c hc => hdigits.digits c (List.mem_of_mem_drop hc)⟩, ?_⟩
  · rw [ne_eq, List.take_eq_nil_iff, not_or]
    exact ⟨by omega, hdigits.ne_nil⟩
  · rw [ne_eq, List.drop_eq_nil_iff]
    omega
  · rw [hplaces, List.take_append_drop, ofDigitChars_ofNat]

variable (d)

/-- The positional notation has the point behind, before or among the digits. -/
theorem positional_eq : ∃ w p : Text, d.positional = w ++ '.' :: p ∧ d.IsPointed w p := by
  rw [positional]
  dsimp only
  split
  · next hwhole => exact ⟨_, _, rfl, isPointed_behind hwhole⟩
  · split
    · exact ⟨_, _, rfl, isPointed_before (by omega) (by omega)⟩
    · exact ⟨_, _, rfl, isPointed_among (by omega) (by omega)⟩

/-- A digit, maybe a point and the other digits, and the place of the first digit. -/
theorem scientific_eq :
    ∃ (first : Char) (p : Text), first.isDigit ∧ (∀ c ∈ p, c.isDigit) ∧
      Decimal.ofNat d.digits = first :: p ∧
      d.scientific = first :: ((if p = [] then [] else '.' :: p) ++
        'e' :: (if decide (d.leadingPlace < 0) then '-' else '+') ::
          Decimal.padded 2 d.leadingPlace.natAbs) := by
  have hdigits := Text.isDigits_ofNat d.digits
  obtain ⟨first, p, hfirst⟩ := List.exists_cons_of_ne_nil hdigits.ne_nil
  have hall := hdigits.digits
  rw [hfirst, List.forall_mem_cons] at hall
  refine ⟨first, p, hall.1, hall.2, hfirst, ?_⟩
  rw [scientific, hfirst]
  cases p with
  | nil => simp
  | cons second rest => simp

end ScaledDecimal

namespace Text

theorem isDigits_padded (width n : Nat) : IsDigits (Decimal.padded width n) :=
  ⟨fun h => Decimal.ofNat_ne_nil n (List.append_eq_nil_iff.mp h).2,
    fun _ => Decimal.isDigit_of_mem_padded⟩

end Text

namespace Numeral

open ScaledDecimal (ofDigitChars_ofNat)

theorem decimal?_positional (d : ScaledDecimal) :
    ∃ d', decimal? d.positional = some d' ∧ d'.value = d.value := by
  obtain ⟨w, p, htext, hpointed⟩ := d.positional_eq
  have hread := decimal?_point hpointed.whole hpointed.fraction.digits endsIn_nil
  rw [List.append_nil, Int.zero_sub] at hread
  exact ⟨_, htext ▸ hread, hpointed.value⟩

theorem decimal?_scientific (d : ScaledDecimal) : decimal? d.scientific = some d := by
  obtain ⟨first, p, hfirst, hp, hdigits, htext⟩ := d.scientific_eq
  have hw : Text.IsDigits [first] := ⟨List.cons_ne_nil _ _, by simpa using hfirst⟩
  have hplace := endsIn_exponent (decide (d.leadingPlace < 0))
    (Text.isDigits_padded 2 d.leadingPlace.natAbs)
  have hpower : (if decide (d.leadingPlace < 0) = true then
      -(Nat.ofDigitChars 10 (Decimal.padded 2 d.leadingPlace.natAbs) 0 : Int)
      else Nat.ofDigitChars 10 (Decimal.padded 2 d.leadingPlace.natAbs) 0) = d.leadingPlace := by
    have hpadded : Nat.ofDigitChars 10 (Decimal.padded 2 d.leadingPlace.natAbs) 0 =
        d.leadingPlace.natAbs := by
      rw [Decimal.padded, Nat.ofDigitChars_append, Nat.ofDigitChars_replicate_zero, Nat.mul_zero,
        ofDigitChars_ofNat]
    rw [hpadded]
    by_cases hplace : d.leadingPlace < 0
    · rw [if_pos (decide_eq_true hplace)]
      omega
    · rw [if_neg (by simpa using hplace)]
      omega
  rw [hpower] at hplace
  have hlength : d.leadingPlace - p.length = d.exponent := by
    rw [ScaledDecimal.leadingPlace, Decimal.length, hdigits, List.length_cons]
    push_cast
    ring
  have hself : d = ⟨d.digits, d.leadingPlace - p.length⟩ := by rw [hlength]
  rw [htext]
  conv_rhs => rw [hself]
  by_cases hnil : p = []
  · subst hnil
    have hread := decimal?_whole hw hplace
    rw [← hdigits, ofDigitChars_ofNat, hdigits] at hread
    rw [if_pos rfl, List.length_nil, Int.natCast_zero, Int.sub_zero]
    exact hread
  · have hread := decimal?_point hw hp hplace
    have hnumber : Nat.ofDigitChars 10 ([first] ++ p) 0 = d.digits := by
      rw [List.singleton_append, ← hdigits, ofDigitChars_ofNat]
    rw [hnumber] at hread
    rw [if_neg hnil]
    exact hread

theorem decimal?_text (d : ScaledDecimal) :
    ∃ d', decimal? d.text = some d' ∧ d'.value = d.value := by
  rw [ScaledDecimal.text]
  split
  · exact decimal?_positional d
  · exact ⟨d, decimal?_scientific d, rfl⟩

/-! ## Doubles -/

theorem two_mul_two_pow_le {n k : Nat} (h : n + 1 ≤ 3 * k) : 2 * 2 ^ n ≤ 10 ^ k := by
  rw [← Nat.pow_succ']
  exact two_pow_le_ten_pow h

/-- A decimal whose units are those of a double is read as the double: its leading digit is not so
    far from the point that it would be dropped. -/
theorem nearest_eq {negative : Bool} {units : Nat} (hfits : Binary64.Fits units) (hne : units ≠ 0)
    {d : ScaledDecimal} (h : d.units = units) :
    nearest negative d = .finite negative units hfits := by
  subst h
  have hone : 2 * Binary64.unitsPerOne ≤ 10 ^ 400 := by
    rw [Binary64.unitsPerOne_eq]
    exact two_mul_two_pow_le (by decide)
  have hlimit : d.units < 2 ^ 1024 * Binary64.unitsPerOne := by
    have hsum : 1024 + 1074 = 2098 := rfl
    rw [Binary64.unitsPerOne_eq, ← Nat.pow_add, hsum, ← Binary64.unitsLimit]
    exact hfits.lt_unitsLimit
  have hlow := ScaledDecimal.le_leadingPlace hne hone
  have hhigh := ScaledDecimal.leadingPlace_lt (two_pow_le_ten_pow (k := 400) (by decide)) hne hlimit
  have hplace : ¬ (d.digits = 0 ∨ d.leadingPlace < -400) := by
    rintro (hzero | hplace)
    · exact ScaledDecimal.digits_ne_zero hne hzero
    · omega
  rw [nearest, if_neg hplace, if_neg (by omega), Binary64.ofUnits, dif_pos hfits]

/-- A text of figures is read without its sign. -/
theorem real?_signed {t : Text} (ht : Decimal.IsWritten t) (hfirst : startsWithDigit t)
    (negative : Bool) :
    real? (if negative then '-' :: t else t) = unsigned? negative t := by
  have hwritten : Decimal.IsWritten (if negative then '-' :: t else t) := by
    cases negative with
    | false => exact ht
    | true => exact Decimal.isWritten_cons Decimal.isFigure_minus ht
  have hfigure : ∀ c, Decimal.IsFigure c → Text.isSpace c = false ∧ c ≠ '_' := by
    rintro c (hc | hc)
    · have hall : Decimal.integral.all (fun c => !Text.isSpace c && c != '_') := by decide
      have hboth := List.all_eq_true.mp hall c (Decimal.mem_integral_of_isDigit hc)
      simpa using hboth
    · have hall : ['.', 'e', '+', '-'].all (fun c => !Text.isSpace c && c != '_') := by decide
      have hboth := List.all_eq_true.mp hall c hc
      simpa using hboth
  have hsign : sign (if negative then '-' :: t else t) = (negative, t) := by
    cases negative with
    | true => rfl
    | false =>
      cases t with
      | nil => cases hfirst
      | cons c t =>
        have hminus : c ≠ '-' := by
          rintro rfl
          cases hfirst
        have hplus : c ≠ '+' := by
          rintro rfl
          cases hfirst
        simp [sign, hminus, hplus]
  rw [real?, Text.trimBy_eq_self fun c hc => (hfigure c (hwritten c hc)).1,
    joined?_eq_self fun hc => (hfigure _ (hwritten _ hc)).2 rfl]
  simp only [Option.bind_eq_bind, Option.bind_some, hsign]

theorem startsWithDigit_text (d : ScaledDecimal) : startsWithDigit d.text := by
  have hdigit : ∀ {c : Char} {t : Text}, c.isDigit → startsWithDigit (c :: t) := fun hc => by
    rw [startsWithDigit, Text.isDecimalDigit, Text.digitValue?_of_isDigit hc]
    rfl
  rw [ScaledDecimal.text]
  split
  · obtain ⟨w, p, htext, hpointed⟩ := d.positional_eq
    obtain ⟨c, w, rfl⟩ := List.exists_cons_of_ne_nil hpointed.whole.ne_nil
    rw [htext]
    exact hdigit (hpointed.whole.digits c List.mem_cons_self)
  · obtain ⟨first, p, hfirst, -, -, htext⟩ := d.scientific_eq
    rw [htext]
    exact hdigit hfirst

theorem real?_shortest {units : Nat} (hfits : Binary64.Fits units) (hne : units ≠ 0)
    (negative : Bool) :
    real? (if negative then '-' :: (Binary64.shortest units).text
      else (Binary64.shortest units).text) = some (.finite negative units hfits) := by
  obtain ⟨d, hread, hvalue⟩ := decimal?_text (Binary64.shortest units)
  have hunits : d.units = units := by
    rw [ScaledDecimal.units_eq_of_value hvalue]
    exact Binary64.units_shortest (Binary64.fits_iff.mp hfits).1 hne
  rw [real?_signed (ScaledDecimal.isWritten_text _) (startsWithDigit_text _), unsigned?, hread]
  exact congrArg some (nearest_eq hfits hne hunits)

theorem real?_zero (negative : Bool) :
    real? (Binary64.zero negative).text = some (.zero negative) := by
  cases negative <;> decide +kernel

/-- Every double is read back from its text. -/
theorem real?_text (x : Binary64) : real? x.text = some x := by
  cases x with
  | nan => decide +kernel
  | infinite negative => cases negative <;> decide +kernel
  | finite negative units hfits =>
    by_cases hzero : units = 0
    · subst hzero
      exact real?_zero negative
    · rw [Binary64.text, Binary64.magnitudeText, if_neg hzero]
      exact real?_shortest hfits hzero negative

/-- A double that is not below zero is also read back where it is written without a point for being
    a whole number. -/
theorem real?_numeral {units : Nat} (hfits : Binary64.Fits units) :
    real? (Binary64.finite false units hfits).numeral = some (.finite false units hfits) := by
  rw [Binary64.numeral]
  split
  · next hwhole =>
    have hunits : units / Binary64.unitsPerOne * Binary64.unitsPerOne = units :=
      Nat.div_mul_cancel (Nat.dvd_of_mod_eq_zero hwhole)
    have hround : Binary64.roundUnits units 1 = units := by
      have hmul := Binary64.roundUnits_mul Nat.one_pos (Binary64.fits_iff.mp hfits).1
      rwa [Nat.mul_one] at hmul
    refine real?_ofInt ?_
    have hsign : decide (((units / Binary64.unitsPerOne : Nat) : Int) < 0) = false :=
      decide_eq_false (Int.not_lt.mpr (Int.natCast_nonneg _))
    rw [Binary64.truncate, Binary64.signed_false, Binary64.ofInt?, Binary64.ofRatio, hsign,
      Int.natAbs_natCast, hunits, hround, Binary64.ofUnits, dif_pos hfits, Binary64.finite?]
  · exact real?_text _

end Numeral

end ThermalLabel
