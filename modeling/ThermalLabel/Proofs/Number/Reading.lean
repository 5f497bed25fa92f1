/-
  Written whole numbers, read back.

  A whole number in decimal digits is read as itself (`Numeral.integer?_ofInt`), and where a
  double is asked for, as the double nearest to it (`Numeral.real?_ofInt`). So it does not matter
  whether a whole number is given as such or as a text. The digits of a position are read back as
  the position (`Position.value_digits_field`).
-/
import ThermalLabel.Pixels
import ThermalLabel.Proofs.Number.Characters
import ThermalLabel.Proofs.Number.Range

namespace ThermalLabel

/-! ## Digits -/

theorem Text.digitValue?_of_isDigit {c : Char} (h : c.isDigit) :
    digitValue? c = some (c.toNat - '0'.toNat) := by
  have hsmall : c.toNat < 0x80 := by
    simp only [Char.isDigit, Bool.and_eq_true, decide_eq_true_eq] at h
    have hle : c.toNat ≤ 57 := h.2
    omega
  rw [digitValue?, if_pos hsmall, if_pos h]

theorem Numeral.digits_of_isDigit {t : Text} (h : ∀ c ∈ t, c.isDigit) :
    digits t = (t.map fun c => c.toNat - '0'.toNat, []) := by
  induction t with
  | nil => rfl
  | cons c t ih =>
    rw [List.forall_mem_cons] at h
    rw [digits, Text.digitValue?_of_isDigit h.1, ih h.2]
    rfl

namespace Decimal

theorem isDigit_of_mem_ofNat {n : Nat} {c : Char} (h : c ∈ ofNat n) : c.isDigit :=
  Nat.isDigit_of_mem_toDigits (by decide) (by decide) h

theorem isDigit_of_mem_padded {width n : Nat} {c : Char} (h : c ∈ padded width n) : c.isDigit := by
  rcases List.mem_append.mp h with h | h
  · rw [List.eq_of_mem_replicate h]
    rfl
  · exact isDigit_of_mem_ofNat h

theorem value_map (t : Text) :
    value (t.map fun c => c.toNat - '0'.toNat) = Nat.ofDigitChars 10 t 0 := by
  unfold value Nat.ofDigitChars
  rw [List.foldl_map]

theorem value_digits_ofNat (n : Nat) : value (Numeral.digits (ofNat n)).1 = n := by
  rw [Numeral.digits_of_isDigit fun _ => isDigit_of_mem_ofNat, value_map]
  exact Nat.ofDigitChars_ten_toDigits

/-- Zeros before a number do not change it. -/
theorem value_digits_padded (width n : Nat) : value (Numeral.digits (padded width n)).1 = n := by
  rw [Numeral.digits_of_isDigit fun _ => isDigit_of_mem_padded, value_map, padded,
    Nat.ofDigitChars_append, Nat.ofDigitChars_replicate_zero, Nat.mul_zero]
  exact Nat.ofDigitChars_ten_toDigits

theorem length_ofNat_le {n k : Nat} (hk : 0 < k) (h : n < 10 ^ k) : (ofNat n).length ≤ k :=
  (Nat.length_toDigits_le_iff (by decide) hk).mpr h

theorem length_padded {width n : Nat} (hwidth : 0 < width) (h : n < 10 ^ width) :
    (padded width n).length = width := by
  rw [padded, List.length_append, List.length_replicate,
    Nat.sub_add_cancel (length_ofNat_le hwidth h)]

theorem ofNat_ne_nil (n : Nat) : ofNat n ≠ [] := Nat.toDigits_ne_nil

theorem ofInt_ne_nil (n : Int) : ofInt n ≠ [] := by
  unfold ofInt
  split
  · exact List.cons_ne_nil _ _
  · exact ofNat_ne_nil _

end Decimal

/-! ## Positions -/

namespace Position

theorem length_field (p : Position) : p.field.length = 4 :=
  Decimal.length_padded (by decide) p.isLt

theorem value_digits_field (p : Position) : Decimal.value (Numeral.digits p.field).1 = p.val :=
  Decimal.value_digits_padded 4 p.val

end Position

/-! ## Whole numbers -/

namespace Decimal

/-- The characters of written whole numbers. -/
def integral : Text := ['0', '1', '2', '3', '4', '5', '6', '7', '8', '9', '-']

theorem mem_integral_of_isDigit {c : Char} (h : c.isDigit) : c ∈ integral := by
  simp only [Char.isDigit, Bool.and_eq_true, decide_eq_true_eq] at h
  have hlow : 48 ≤ c.toNat := h.1
  have hhigh : c.toNat ≤ 57 := h.2
  rw [← Char.ofNat_toNat c]
  interval_cases c.toNat <;> decide

theorem mem_integral_of_mem_ofInt {n : Int} {c : Char} (h : c ∈ ofInt n) : c ∈ integral := by
  unfold ofInt at h
  split at h
  · rcases List.mem_cons.mp h with rfl | h
    · decide
    · exact mem_integral_of_isDigit (isDigit_of_mem_ofNat h)
  · exact mem_integral_of_isDigit (isDigit_of_mem_ofNat h)

/-- A character that no written whole number has. -/
theorem not_mem_ofInt {c : Char} (hc : c ∉ integral) (n : Int) : c ∉ ofInt n :=
  fun h => hc (mem_integral_of_mem_ofInt h)

end Decimal

theorem Text.trimBy_eq_self {p : Char → Bool} {t : Text} (h : ∀ c ∈ t, p c = false) :
    trimBy p t = t := by
  have hdrop : ∀ {s : Text}, (∀ c ∈ s, p c = false) → s.dropWhile p = s := by
    intro s hs
    cases s with
    | nil => rfl
    | cons c s => rw [List.dropWhile_cons_of_neg (by simp [hs c List.mem_cons_self])]
  unfold trimBy
  rw [hdrop h, hdrop fun c hc => h c (List.mem_reverse.mp hc), List.reverse_reverse]

namespace Numeral

open Decimal (ofInt ofNat)

theorem trimBy_ofInt {p : Char → Bool} (hp : Decimal.integral.all fun c => !p c) (n : Int) :
    Text.trimBy p (ofInt n) = ofInt n := by
  refine Text.trimBy_eq_self fun c hc => ?_
  have hnot := List.all_eq_true.mp hp c (Decimal.mem_integral_of_mem_ofInt hc)
  rwa [Bool.not_eq_true'] at hnot

theorem joined?_eq_self {t : Text} (h : '_' ∉ t) (afterDigit : Bool) :
    joined? afterDigit t = some t := by
  induction t generalizing afterDigit with
  | nil => rfl
  | cons c t ih =>
    rw [List.mem_cons, not_or] at h
    rw [joined?, if_neg (Ne.symm h.1), ih h.2]
    rfl

theorem sign_ofInt (n : Int) : sign (ofInt n) = (decide (n < 0), ofNat n.natAbs) := by
  by_cases hn : n < 0
  · simp [ofInt, hn, sign]
  · -- the first digit is no sign
    obtain ⟨c, rest, hdigits⟩ := List.exists_cons_of_ne_nil (Decimal.ofNat_ne_nil n.natAbs)
    have hc : c.isDigit := Decimal.isDigit_of_mem_ofNat (hdigits ▸ List.mem_cons_self)
    have hminus : c ≠ '-' := by
      rintro rfl
      cases hc
    have hplus : c ≠ '+' := by
      rintro rfl
      cases hc
    simp [ofInt, hn, hdigits, sign, hminus, hplus]

theorem digits_ofNat (n : Nat) :
    ∃ values, digits (ofNat n) = (values, []) ∧ Decimal.value values = n ∧ values ≠ [] ∧
      values.length = (ofNat n).length := by
  have hdigits := digits_of_isDigit fun _ => Decimal.isDigit_of_mem_ofNat (n := n)
  have hvalue := Decimal.value_digits_ofNat n
  rw [hdigits] at hvalue
  refine ⟨_, hdigits, hvalue, ?_, List.length_map _⟩
  rw [ne_eq, List.map_eq_nil_iff]
  exact Decimal.ofNat_ne_nil n

/-- A whole number is read back from its digits, if these are not too many. -/
theorem integer?_ofInt {n : Int} (h : Decimal.length n.natAbs ≤ digitLimit) :
    integer? (ofInt n) = some n := by
  obtain ⟨values, hdigits, hvalue, hne, hlength⟩ := digits_ofNat n.natAbs
  have hlimit : values.length ≤ digitLimit := by
    rw [hlength]
    exact h
  have hvalues : (if n < 0 then -(n.natAbs : Int) else n.natAbs) = n := by
    split <;> omega
  rw [integer?, trimBy_ofInt (by decide), joined?_eq_self (Decimal.not_mem_ofInt (by decide) n)]
  simp only [Option.bind_eq_bind, Option.bind_some, sign_ofInt, hdigits, hvalue, hne, hlimit, guard,
    ne_eq, not_false_eq_true, and_self, if_true, pure, decide_eq_true_eq, hvalues]

theorem decimal?_ofNat (n : Nat) : decimal? (ofNat n) = some ⟨n, 0⟩ := by
  obtain ⟨values, hdigits, hvalue, hne, -⟩ := digits_ofNat n
  simp [decimal?, hdigits, fraction, exponent, hne, hvalue]

end Numeral

namespace Binary64

theorem eq_of_finite? {x y : Binary64} (h : x.finite? = some y) : x = y := by
  cases x with
  | nan | infinite => cases h
  | finite negative units fits =>
    cases h
    rfl

theorem units_ofNat (n : Nat) :
    (⟨n, 0⟩ : ScaledDecimal).units = roundUnits (n * unitsPerOne) 1 := by
  simp [ScaledDecimal.units]

theorem ofInt?_zero : ofInt? 0 = some (zero false) := by
  have hround : roundUnits (0 * unitsPerOne) 1 = 0 := by
    rw [Nat.zero_mul]
    rfl
  simp only [ofInt?, ofRatio, Int.natAbs_zero, hround]
  rfl

end Binary64

namespace Numeral

open Decimal (ofInt ofNat)

theorem two_pow_le_ten_pow {n k : Nat} (h : n ≤ 3 * k) : 2 ^ n ≤ 10 ^ k := by
  refine (Nat.pow_le_pow_right two_pos h).trans ?_
  rw [Nat.pow_mul]
  exact Nat.pow_le_pow_left (by decide) k

theorem length_le_of_ofInt? {n : Int} {x : Binary64} (h : Binary64.ofInt? n = some x) :
    Decimal.length n.natAbs ≤ 400 := by
  have hrange : n.natAbs < Binary64.overflowLimit := by
    rw [← Nat.not_le, ← Binary64.ofInt?_eq_none_iff, h]
    exact Option.some_ne_none x
  have hlimit : Binary64.overflowLimit ≤ 2 ^ 1024 := by
    unfold Binary64.overflowLimit
    exact tsub_le_self
  have hpower : 2 ^ 1024 ≤ 10 ^ 400 := two_pow_le_ten_pow (by decide)
  exact Decimal.length_ofNat_le (by decide) (hrange.trans_le (hlimit.trans hpower))

theorem nearest_ofNat {n : Int} {x : Binary64} (h : Binary64.ofInt? n = some x) :
    nearest (decide (n < 0)) ⟨n.natAbs, 0⟩ = x := by
  by_cases hzero : n = 0
  · subst hzero
    rw [Binary64.ofInt?_zero] at h
    cases h
    rfl
  · have hlength := length_le_of_ofInt? h
    have hplace : (⟨n.natAbs, 0⟩ : ScaledDecimal).leadingPlace = Decimal.length n.natAbs - 1 := by
      simp [ScaledDecimal.leadingPlace]
    have hsmall : ¬ (n.natAbs = 0 ∨ (⟨n.natAbs, 0⟩ : ScaledDecimal).leadingPlace < -400) := by
      rw [hplace]
      omega
    have hlarge : ¬ 400 < (⟨n.natAbs, 0⟩ : ScaledDecimal).leadingPlace := by
      rw [hplace]
      omega
    rw [nearest, if_neg hsmall, if_neg hlarge, Binary64.units_ofNat]
    exact Binary64.eq_of_finite? h

/-- A whole number in digits is read as the double that is nearest to it. -/
theorem real?_ofInt {n : Int} {x : Binary64} (h : Binary64.ofInt? n = some x) :
    real? (ofInt n) = some x := by
  rw [real?, trimBy_ofInt (by decide), joined?_eq_self (Decimal.not_mem_ofInt (by decide) n)]
  simp only [Option.bind_eq_bind, Option.bind_some, sign_ofInt, unsigned?, decimal?_ofNat,
    nearest_ofNat h]

end Numeral

end ThermalLabel
