/-
  Position fields: a coordinate of the printed label, in dots from 0 to 9999, written in four
  digits.

  Half a dot is added in double arithmetic and the fraction dropped. Of a coordinate below zero
  the magnitude is rounded so, and only one nearer to zero than half a dot fits, as 0.
-/
import ThermalLabel.Pixels

namespace ThermalLabel

/-- A coordinate in dots. -/
abbrev Position := Fin 10000

namespace Position

/-- The number of whole dots in a magnitude to which half a dot is added. -/
def roundedDots (units : Nat) : Nat :=
  Binary64.roundUnits (units + Binary64.unitsPerOne / 2) 1 / Binary64.unitsPerOne

/-- The position of a coordinate in pixels; `given` is the coordinate as a message shows it. -/
def ofPixels (given : Quantity) : Binary64 → Except Fault Position
  | .finite negative units h =>
    let dots := roundedDots units
    if inField : dots < 10000 ∧ (negative = true → dots = 0) then .ok ⟨dots, inField.1⟩
    else .error (.outsideField (.finite negative units h))
  | _ => .error (.notFinite given)

/-- The position of a quantity. -/
def read (q : Quantity) : Except Fault Position := do ofPixels q (← q.pixels)

/-- The four digits of a position. -/
def field (p : Position) : Text := Decimal.padded 4 p.val

end Position

end ThermalLabel
