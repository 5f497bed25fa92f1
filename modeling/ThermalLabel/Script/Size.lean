/-
  Size fields: a thickness or a diameter, a finite double that is not negative, written
  without a point where it is integral.
-/
import ThermalLabel.Pixels

namespace ThermalLabel

/-- A size, as the magnitude of a double. -/
structure Size where
  units : Nat
  fits : Binary64.Fits units

namespace Size

theorem eq_iff {s t : Size} : s.units = t.units ↔ s = t := by
  cases s
  cases t
  simp

instance : DecidableEq Size := fun _ _ => decidable_of_iff _ eq_iff

/-- The size of a number of pixels; `given` is the number as a message shows it. -/
def ofPixels (given : Quantity) : Binary64 → Except Fault Size
  | .finite negative units h =>
    if negative = true ∧ units ≠ 0 then .error (.notSize given) else .ok ⟨units, h⟩
  | _ => .error (.notSize given)

/-- The size of a quantity. -/
def read (q : Quantity) : Except Fault Size := do ofPixels q (← q.pixels)

/-- The text of a size. -/
def field (s : Size) : Text := (Binary64.finite false s.units s.fits).numeral

end Size

end ThermalLabel
