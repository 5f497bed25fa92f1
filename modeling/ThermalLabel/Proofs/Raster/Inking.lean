/-
  The ink of a picture.

  The bytes of an image are its pixels in threes (`Image.triples_bytes`). With a whole threshold the
  comparison of sums is that of the average of the channels with the threshold
  (`Threshold.bit_eq_one_iff`), so a pixel is a set bit of the bitmap exactly if its average is
  below the threshold (`Image.inked_hexadecimal`). From this follow what a higher threshold adds and
  what the ends of the scale leave (`Picture.ink_of_encode`).
-/
import Mathlib.Algebra.Order.Field.Rat
import ThermalLabel.Proofs.Raster.Packing

namespace ThermalLabel

open StoredImage (isHexadecimal)

/-! ## Averages -/

namespace Pixel

/-- The exact average of the channels. -/
def average (p : Pixel) : ℚ := (p.red.toNat + p.green.toNat + p.blue.toNat) / 3

theorem average_lt_iff (p : Pixel) (n : Int) : p.average < n ↔ (p.sum : Int) < 3 * n := by
  have hsum : p.average = (p.sum : ℚ) / 3 := by
    unfold average sum
    push_cast
    rfl
  rw [hsum, div_lt_iff₀ (by decide), mul_comm]
  exact_mod_cast Iff.rfl

theorem average_nonneg (p : Pixel) : 0 ≤ p.average := by
  have hsum : ¬ (p.sum : Int) < 3 * 0 := by omega
  exact not_lt.mp (by exact_mod_cast mt (p.average_lt_iff 0).mp hsum)

theorem average_lt (p : Pixel) : p.average < 256 := by
  have hsum : (p.sum : Int) < 3 * 256 := by
    have hred := p.red.toNat_lt
    have hgreen := p.green.toNat_lt
    have hblue := p.blue.toNat_lt
    unfold sum
    omega
  exact_mod_cast (p.average_lt_iff 256).mpr hsum

end Pixel

/-! ## Bits -/

namespace Threshold

theorem read_ofInt {n : Int} (hn : 0 ≤ n ∧ n ≤ 256) :
    read (.ofInt n) = .ok ⟨.integer (3 * n)⟩ := if_pos hn

/-- No division is needed to compare the average with a whole threshold. -/
theorem bit_eq_one_iff (n : Int) (p : Pixel) :
    bit ⟨.integer (3 * n)⟩ p = 1 ↔ p.average < n := by
  rw [p.average_lt_iff]
  unfold bit
  split
  · next h => exact iff_of_true rfl (of_decide_eq_true h)
  · next h => exact iff_of_false (by decide) fun hless => h (decide_eq_true hless)

end Threshold

namespace Image

theorem triples_bytes (image : Image) : PixelFormat.triples image.bytes = image.pixels := by
  have hall : ∀ pixels : List Pixel,
      PixelFormat.triples (pixels.flatMap fun p => [p.red, p.green, p.blue]) = pixels := by
    intro pixels
    induction pixels with
    | nil => rfl
    | cons p pixels ih => exact congrArg (p :: ·) ih
  exact hall image.pixels

theorem isBitmap_bits (image : Image) (t : Threshold) :
    Bitmap.IsBitmap image.width image.height (image.bits t) where
  length := by rw [bits, triples_bytes, List.length_map, image.length_pixels]
  isBit bit hbit := by
    obtain ⟨p, -, rfl⟩ := List.mem_map.mp hbit
    exact t.isBit_bit p

/-- The pixel of column `x` in row `y`. -/
def pixel? (image : Image) (x y : Nat) : Option Pixel := image.pixels[y * image.width + x]?

variable {image : Image} {x y : Nat}

theorem exists_pixel (hx : x < image.width) (hy : y < image.height) :
    ∃ p, image.pixel? x y = some p := by
  have hin : y * image.width + x < image.pixels.length := by
    rw [image.length_pixels]
    exact Bitmap.place_lt hx hy
  exact ⟨_, List.getElem?_eq_getElem hin⟩

/-- The bits of a text are set where the average of the pixel is below the threshold, and it has no
    others. -/
structure Inked (image : Image) (threshold : Int) (data : Text) : Prop where
  packing : Bitmap.IsPacking image.width image.height data
  ink_iff : ∀ x < image.width, ∀ y < image.height, ∃ p, image.pixel? x y = some p ∧
    (Bitmap.bitAt image.width data x y ↔ p.average < threshold)

theorem inked_hexadecimal (image : Image) (n : Int) :
    image.Inked n (image.hexadecimal ⟨.integer (3 * n)⟩) where
  packing := Bitmap.isPacking_rowsText (image.isBitmap_bits _)
  ink_iff x hx y hy := by
    obtain ⟨p, hp⟩ := exists_pixel hx hy
    refine ⟨p, hp, ?_⟩
    have hbit : (image.bits ⟨.integer (3 * n)⟩)[y * image.width + x]? =
        some (Threshold.bit ⟨.integer (3 * n)⟩ p) := by
      rw [bits, triples_bytes, List.getElem?_map]
      exact congrArg (Option.map _) hp
    rw [hexadecimal, Bitmap.bitAt_rowsText (image.isBitmap_bits _)
      (Nat.lt_of_lt_of_le hx (Bitmap.width_le_stride _)) hy, hbit, decide_eq_true_eq,
      Option.some.injEq, Threshold.bit_eq_one_iff]
    exact and_iff_right hx

end Image

/-! ## Pictures -/

namespace Picture

variable {picture : Picture} {image : Image}

theorem encode_ofInt (hrgb : picture.rgb = .ok image) {n : Int} (hn : 0 ≤ n ∧ n ≤ 256) :
    picture.encode (.ofInt n) = .ok (image.hexadecimal ⟨.integer (3 * n)⟩) := by
  unfold encode thresholded
  rw [Threshold.read_ofInt hn, hrgb]
  rfl

theorem exists_inked (hrgb : picture.rgb = .ok image) {n : Int} (hn : 0 ≤ n ∧ n ≤ 256) :
    ∃ data, picture.encode (.ofInt n) = .ok data ∧ image.Inked n data :=
  ⟨_, encode_ofInt hrgb hn, image.inked_hexadecimal n⟩

/-- A whole threshold on the scale turns those pixels to ink whose average is below it. A higher
    threshold only adds ink, 0 leaves none and 256 leaves no pixel blank. The bitmap is accepted for
    storing whatever the threshold is. -/
theorem ink_of_encode (hrgb : picture.rgb = .ok image) :
    (∀ n : Int, 0 ≤ n ∧ n ≤ 256 →
      ∃ data, picture.encode (.ofInt n) = .ok data ∧ image.Inked n data) ∧
    (∀ m n : Int, 0 ≤ m ∧ m ≤ n ∧ n ≤ 256 → ∃ faint dark,
      picture.encode (.ofInt m) = .ok faint ∧ picture.encode (.ofInt n) = .ok dark ∧
        ∀ x < image.width, ∀ y < image.height,
          Bitmap.bitAt image.width faint x y → Bitmap.bitAt image.width dark x y) ∧
    (∃ data, picture.encode (.ofInt 0) = .ok data ∧
      ∀ x < image.width, ∀ y < image.height, Bitmap.bitAt image.width data x y = false) ∧
    (∃ data, picture.encode (.ofInt 256) = .ok data ∧
      ∀ x < image.width, ∀ y < image.height, Bitmap.bitAt image.width data x y = true) ∧
    ∀ threshold data, picture.encode threshold = .ok data → data.all isHexadecimal ∧
      ∀ name, name ≠ [] → name.all Text.isWord → StoredImage.make name data = .ok ⟨name, data⟩ := by
  refine ⟨fun n hn => exists_inked hrgb hn, fun m n hmn => ?_, ?_, ?_, fun threshold data h => ?_⟩
  · obtain ⟨faint, hfaint, inkedFaint⟩ := exists_inked hrgb (n := m) (by omega)
    obtain ⟨dark, hdark, inkedDark⟩ := exists_inked hrgb (n := n) (by omega)
    refine ⟨faint, dark, hfaint, hdark, fun x hx y hy hink => ?_⟩
    obtain ⟨p, hp, hbelow⟩ := inkedFaint.ink_iff x hx y hy
    obtain ⟨q, hq, hbelow'⟩ := inkedDark.ink_iff x hx y hy
    obtain rfl : p = q := Option.some.inj (hp.symm.trans hq)
    exact hbelow'.mpr (lt_of_lt_of_le (hbelow.mp hink) (by exact_mod_cast hmn.2.1))
  · obtain ⟨data, hdata, hinked⟩ := exists_inked hrgb (n := 0) (by decide)
    refine ⟨data, hdata, fun x hx y hy => ?_⟩
    obtain ⟨p, -, hbelow⟩ := hinked.ink_iff x hx y hy
    exact Bool.eq_false_iff.mpr fun hink => absurd (hbelow.mp hink) (not_lt.mpr p.average_nonneg)
  · obtain ⟨data, hdata, hinked⟩ := exists_inked hrgb (n := 256) (by decide)
    refine ⟨data, hdata, fun x hx y hy => ?_⟩
    obtain ⟨p, -, hbelow⟩ := hinked.ink_iff x hx y hy
    exact hbelow.mpr p.average_lt
  · have hdigits := isHexadecimal_of_encode h
    refine ⟨hdigits, fun name hne hword => ?_⟩
    rw [StoredImage.make, if_neg (by simp [hne, hword]), if_neg (not_not.mpr hdigits)]

/-- Three pixels over three, of averages 127, 128 and 130 and the ends of the scale. -/
def grays : Image where
  width := 3
  height := 2
  pixels := [.gray 127, .gray 128, ⟨100, 200, 90⟩, .gray 0, .gray 255, ⟨255, 0, 128⟩]
  length_pixels := rfl

theorem ink_of_encode_of_grays :
    (Picture.ofImage grays).rgb = .ok grays ∧
      (∃ data, (Picture.ofImage grays).encode (.ofInt 128) = .ok data ∧ grays.Inked 128 data) ∧
      (Picture.ofImage grays).encode (.ofInt 128) = .ok "80A0".toList := by
  have hink := @ink_of_encode (Picture.ofImage grays) grays rfl
  exact ⟨rfl, hink.1 128 (by decide), by decide +kernel⟩

end Picture

end ThermalLabel
