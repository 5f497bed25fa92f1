/-
  The bitmaps of pictures are hexadecimal.

  A bit of a thresholded picture is 0 or 1, so the bytes of its rows are not negative, and their
  digits are capital hexadecimal ones (`Picture.isHexadecimal_of_encode`).
-/
import ThermalLabel.Proofs.Fallible
import ThermalLabel.Proofs.Text.Capitals
import ThermalLabel.Raster.Threshold
import ThermalLabel.Script.Label

namespace ThermalLabel

open StoredImage (isHexadecimal)

theorem exists_mem_of_mem_rowsOf {α : Type} {size count : Nat} {items piece : List α}
    (h : piece ∈ rowsOf size count items) : ∀ item ∈ piece, item ∈ items := by
  induction count generalizing items with
  | zero => cases h
  | succ count ih =>
    intro item hitem
    rcases List.mem_cons.mp h with rfl | h
    · exact List.mem_of_mem_take hitem
    · exact List.mem_of_mem_drop (ih h item hitem)

namespace Bitmap

/-! ## Digits -/

theorem mem_digits_of_isHexadecimal {c : Char} (h : isHexadecimal c) :
    c ∈ "0123456789ABCDEF".toList := by
  have hsmall : c.toNat < 128 := by
    simp only [isHexadecimal, Char.isDigit, Bool.or_eq_true, Bool.and_eq_true,
      decide_eq_true_eq] at h
    rcases h with h | h
    · have hlast : c.toNat ≤ 57 := h.2
      omega
    · have hlast : c.toNat ≤ 70 := h.2
      omega
  exact Text.forall_ascii (P := fun c => isHexadecimal c → c ∈ "0123456789ABCDEF".toList)
    (by decide +kernel) hsmall h

theorem exists_digit_of_mem_toDigits {n : Nat} {c : Char} (h : c ∈ Nat.toDigits 16 n) :
    ∃ digit : Fin 16, c = Nat.digitChar digit := by
  induction n using Nat.strongRecOn with
  | ind n ih =>
    rw [Nat.toDigits_eq_if (by decide)] at h
    split at h
    · next hn => exact ⟨⟨n, hn⟩, List.mem_singleton.mp h⟩
    · next hn =>
      rcases List.mem_append.mp h with h | h
      · exact ih (n / 16) (Nat.div_lt_self (by omega) (by decide)) h
      · exact ⟨⟨n % 16, Nat.mod_lt n (by decide)⟩, List.mem_singleton.mp h⟩

theorem isHexadecimal_of_mem_hexadecimal {n : Nat} {c : Char} (h : c ∈ hexadecimal n) :
    isHexadecimal c := by
  have hdigits : ∀ digit : Fin 16, isHexadecimal (Nat.digitChar digit).toUpper := by decide
  obtain ⟨d, hd, rfl⟩ := List.mem_map.mp h
  obtain ⟨digit, rfl⟩ := exists_digit_of_mem_toDigits hd
  exact hdigits digit

/-! ## Bytes -/

/-- The number is 0 or 1. -/
def IsBit (bit : Int) : Prop := bit = 0 ∨ bit = 1

theorem IsBit.nonneg {bit : Int} (h : IsBit bit) : 0 ≤ bit := by
  rcases h with rfl | rfl
  · decide
  · decide

theorem or_nonneg {a b : Int} (ha : 0 ≤ a) (hb : 0 ≤ b) : 0 ≤ or a b := by
  obtain ⟨m, rfl⟩ := Int.eq_ofNat_of_zero_le ha
  obtain ⟨n, rfl⟩ := Int.eq_ofNat_of_zero_le hb
  exact Int.natCast_nonneg (m ||| n)

theorem isHexadecimal_of_mem_byteText {n : Int} (hn : 0 ≤ n) {c : Char} (h : c ∈ byteText n) :
    isHexadecimal c := by
  unfold byteText at h
  rw [if_neg (Int.not_lt.mpr hn)] at h
  rcases List.mem_append.mp h with h | h
  · rw [List.eq_of_mem_replicate h]
    rfl
  · exact isHexadecimal_of_mem_hexadecimal h

/-- The byte under way is never negative, so its digits have no sign. -/
theorem isHexadecimal_of_mem_rowTextFrom {bits : List Int} (hbits : ∀ bit ∈ bits, 0 ≤ bit)
    {byte : Int} (hbyte : 0 ≤ byte) {count : Nat} {c : Char} (h : c ∈ rowTextFrom byte count bits) :
    isHexadecimal c := by
  induction bits generalizing byte count with
  | nil =>
    rw [rowTextFrom] at h
    split at h
    · cases h
    · have hpow : 0 ≤ Int.pow 2 (8 - count) := Int.le_of_lt (Int.pow_pos (by decide))
      exact isHexadecimal_of_mem_byteText (Int.mul_nonneg hbyte hpow) h
  | cons bit bits ih =>
    rw [List.forall_mem_cons] at hbits
    have hnext : 0 ≤ or (2 * byte) bit :=
      or_nonneg (Int.mul_nonneg (by decide) hbyte) hbits.1
    rw [rowTextFrom] at h
    split at h
    · rcases List.mem_append.mp h with h | h
      · exact isHexadecimal_of_mem_byteText hnext h
      · exact ih hbits.2 (Int.le_refl 0) h
    · exact ih hbits.2 hnext h

theorem isHexadecimal_of_mem_rowsText {bits : List Int} {width height : Nat}
    (hbits : ∀ bit ∈ bits, 0 ≤ bit) {c : Char} (h : c ∈ rowsText bits width height) :
    isHexadecimal c := by
  obtain ⟨row, hrow, h⟩ := List.mem_flatMap.mp h
  refine isHexadecimal_of_mem_rowTextFrom (fun bit hbit => ?_) (Int.le_refl 0) h
  exact hbits bit (exists_mem_of_mem_rowsOf hrow bit hbit)

end Bitmap

/-! ## Pictures -/

theorem Threshold.isBit_bit (t : Threshold) (p : Pixel) : Bitmap.IsBit (t.bit p) := by
  unfold bit
  split
  · exact .inr rfl
  · exact .inl rfl

theorem Picture.isHexadecimal_of_encode {picture : Picture} {threshold : Quantity} {data : Text}
    (h : picture.encode threshold = .ok data) : data.all isHexadecimal := by
  obtain ⟨⟨image, t⟩, -, h⟩ := bind_eq_ok_iff.mp h
  cases h
  refine List.all_eq_true.mpr fun c hc => Bitmap.isHexadecimal_of_mem_rowsText ?_ hc
  intro bit hbit
  obtain ⟨p, -, rfl⟩ := List.mem_map.mp hbit
  exact (t.isBit_bit p).nonneg

end ThermalLabel
