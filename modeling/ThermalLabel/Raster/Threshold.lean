/-
  Thresholds: which pixels of an image become ink.

  A pixel is ink when the average of its channels is below the threshold. Sums are compared
  with three times the threshold, so that a whole threshold needs no division; a double is
  tripled in double arithmetic.
-/
import ThermalLabel.Pixels
import ThermalLabel.Raster.Bitmap

namespace ThermalLabel

/-- Three times a threshold between 0 and 256. -/
structure Threshold where
  tripled : Number
  deriving DecidableEq

namespace Threshold

/-- The threshold of images that are given none. -/
def default : Quantity := .ofInt 128

/-- A double between 0 and 256. -/
def onScale : Binary64 → Bool
  | .finite negative units _ =>
    if negative then units = 0 else units ≤ 256 * Binary64.unitsPerOne
  | _ => false

/-- The threshold of a quantity. -/
def read (q : Quantity) : Except Fault Threshold :=
  match q.number? with
  | some (.integer n) =>
    if 0 ≤ n ∧ n ≤ 256 then .ok ⟨.integer (3 * n)⟩ else .error .thresholdOutside
  | some (.real x) => if onScale x then .ok ⟨.real x.triple⟩ else .error .thresholdOutside
  | none => .error .notNumber

/-- A sum of channels is below three times the threshold. -/
def exceeds (t : Threshold) (sum : Nat) : Bool :=
  match t.tripled with
  | .integer n => (sum : Int) < n
  | .real (.finite negative units _) =>
    (sum * Binary64.unitsPerOne : Int) < Binary64.signed negative units
  | .real _ => false

/-- 1 for a pixel that becomes ink, 0 for one that stays blank. -/
def bit (t : Threshold) (p : Pixel) : Int := if t.exceeds p.sum then 1 else 0

end Threshold

namespace Image

/-- The bits of an image, row by row, from its bytes three by three. -/
def bits (image : Image) (t : Threshold) : List Int :=
  (PixelFormat.triples image.bytes).map t.bit

/-- The bitmap of an image in hexadecimal. -/
def hexadecimal (image : Image) (t : Threshold) : Text :=
  Bitmap.rowsText (image.bits t) image.width image.height

end Image

/-- A loaded image, whose conversion to red, green and blue may still fail. -/
structure Picture where
  rgb : Except LoadFault Image

namespace Picture

/-- A picture with its pixels at hand. -/
def ofImage (image : Image) : Picture := ⟨.ok image⟩

/-- The pixels of a picture, after the threshold is found to be on the scale. -/
def thresholded (picture : Picture) (threshold : Quantity) : Except Fault (Image × Threshold) := do
  let t ← Threshold.read threshold
  let image ← picture.rgb.mapError .loading
  return (image, t)

/-- The bitmap of a picture in hexadecimal. -/
def encode (picture : Picture) (threshold : Quantity) : Except Fault Text := do
  let (image, t) ← picture.thresholded threshold
  return image.hexadecimal t

end Picture

end ThermalLabel
