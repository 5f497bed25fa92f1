/-
  The field origin: where the next field is drawn.

  It starts at the whole numbers 0, 0. A move sets each coordinate whose parameter is not empty
  to a double; if one of the two cannot be read, neither changes.
-/
import ThermalLabel.Command.Basic
import ThermalLabel.Fault

namespace ThermalLabel

/-- The origin of fields. -/
structure Origin where
  x : Number
  y : Number
  deriving DecidableEq

namespace Origin

/-- The origin before any move. -/
def initial : Origin := ⟨.integer 0, .integer 0⟩

/-- The coordinate that a parameter sets, the current one if it is empty. -/
def coordinate? (current : Number) (parameter : Text) : Option Number :=
  if parameter = [] then some current else (Numeral.real? parameter).map .real

/-- The origin after a move. -/
def move (origin : Origin) (c : Command) : Except Fault Origin :=
  match coordinate? origin.x (c.parameter 0), coordinate? origin.y (c.parameter 1) with
  | some x, some y => .ok ⟨x, y⟩
  | _, _ => .error (.notOrigin c.params)

end Origin

end ThermalLabel
