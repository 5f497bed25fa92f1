/-
  Quantities: the numbers of a label as they are given.

  A coordinate, a size or an attribute is a whole number of any size, a double, a truth value, a
  text such as `150px`, or missing. Where a number is needed a truth value counts as 1 or 0.
  Whole numbers stay exact until a field is written; a sum of two of them is exact, and a sum
  with a double turns the whole number into a double first.
-/
import ThermalLabel.Number.Numeral
import ThermalLabel.Text.Quoted

namespace ThermalLabel

/-- A number as it is given: a whole number of any size or a double. -/
inductive Number where
  | integer (value : Int)
  | real (value : Binary64)
  deriving DecidableEq

/-- A coordinate, a size or an attribute as it is given. -/
inductive Quantity where
  | number (value : Number)
  | flag (value : Bool)
  | text (value : Text)
  | missing
  deriving DecidableEq

namespace Number

/-- 1 for true and 0 for false. -/
def ofFlag (b : Bool) : Number := integer (if b then 1 else 0)

/-- The nearest double; none for a whole number that is out of range. -/
def toReal? : Number → Option Binary64
  | integer n => Binary64.ofInt? n
  | real x => some x

/-- The sum; none if a whole number that has to become a double is out of range. -/
def add? : Number → Number → Option Number
  | integer m, integer n => some (integer (m + n))
  | a, b => do
    let x ← a.toReal?
    let y ← b.toReal?
    return real (x.add y)

/-- Digits only for a whole number, a point or an exponent for a double. -/
def text : Number → Text
  | integer n => Decimal.ofInt n
  | real x => x.text

end Number

namespace Quantity

/-- A whole number as a quantity. -/
def ofInt (n : Int) : Quantity := number (.integer n)

/-- A double as a quantity. -/
def ofReal (x : Binary64) : Quantity := number (.real x)

/-- The number that a quantity counts as, none for a text and for what is missing. -/
def number? : Quantity → Option Number
  | number n => some n
  | flag b => some (.ofFlag b)
  | text _ | missing => none

/-- The name of a truth value. -/
def flagText (b : Bool) : Text := if b then ['T', 'r', 'u', 'e'] else ['F', 'a', 'l', 's', 'e']

/-- How a message shows a quantity. -/
def inMessage : Quantity → Text
  | number n => n.text
  | flag b => flagText b
  | text t => Text.quoted t
  | missing => ['N', 'o', 'n', 'e']

/-- The text of a length without blanks and without the unit `px` at its end. -/
def withoutUnit (t : Text) : Text :=
  (Text.dropEnding? ['p', 'x'] (Text.trim t)).getD (Text.trim t)

end Quantity

end ThermalLabel
