/-
  Decimal notation of whole numbers and of doubles.

  A whole number is written without leading zeros or padded with zeros to a width. The text of
  a double has the fewest decimal digits that read back to it. For each digit count from 1 to 17
  the double has two neighbours among the decimals of that many digits, one not above and one
  above it. The first count where a neighbour reads back gives the digits; of two that read back
  the nearer is taken, and the one with an even last digit if both are equally near. Seventeen
  digits are always enough. A leading digit at one of the places -4 to 15 is written
  positionally, any other in exponent form; an integral value keeps `.0`.
-/
import ThermalLabel.Number.Binary64
import ThermalLabel.Text.Basic

namespace ThermalLabel

/-! ## Whole numbers -/

namespace Decimal

/-- A natural number in decimal digits. -/
def ofNat (n : Nat) : Text := Nat.toDigits 10 n

/-- A whole number in decimal digits, a minus sign before a negative one. -/
def ofInt (n : Int) : Text :=
  if n < 0 then '-' :: ofNat n.natAbs else ofNat n.natAbs

/-- A natural number in at least `width` decimal digits. -/
def padded (width n : Nat) : Text :=
  List.replicate (width - (ofNat n).length) '0' ++ ofNat n

/-- The number that a list of digit values denotes, most significant first. -/
def value (digits : List Nat) : Nat := digits.foldl (fun n d => 10 * n + d) 0

/-- How many decimal digits a number has. -/
def length (n : Nat) : Nat := (ofNat n).length

end Decimal

/-! ## Scaled decimals -/

/-- The number `digits * 10 ^ exponent`. -/
structure ScaledDecimal where
  digits : Nat
  exponent : Int
  deriving DecidableEq

namespace ScaledDecimal

/-- The nearest number of units. -/
def units (d : ScaledDecimal) : Nat :=
  Binary64.roundUnits (d.digits * Nat.pow 10 d.exponent.toNat * Binary64.unitsPerOne)
    (Nat.pow 10 (-d.exponent).toNat)

/-- The place of the leading digit: 0 for the ones. -/
def leadingPlace (d : ScaledDecimal) : Int := d.exponent + Decimal.length d.digits - 1

/-- The same number with the zeros at the end of `digits` moved into the exponent. At most
    `fuel` zeros are moved. -/
def stripZeros : (fuel : Nat) → ScaledDecimal → ScaledDecimal
  | 0, d => d
  | fuel + 1, d =>
    if d.digits % 10 = 0 then stripZeros fuel ⟨d.digits / 10, d.exponent + 1⟩ else d

/-- Digits with the point among or before them. -/
def positional (d : ScaledDecimal) : Text :=
  let digits := Decimal.ofNat d.digits
  if 0 ≤ d.exponent then digits ++ List.replicate d.exponent.toNat '0' ++ ['.', '0']
  else
    let fraction := (-d.exponent).toNat
    let whole := digits.length - fraction
    if whole = 0 then '0' :: '.' :: List.replicate (fraction - digits.length) '0' ++ digits
    else digits.take whole ++ '.' :: digits.drop whole

/-- One digit, the others after a point, and the exponent with its sign and two places. -/
def scientific (d : ScaledDecimal) : Text :=
  let digits := Decimal.ofNat d.digits
  let place := d.leadingPlace
  let mantissa :=
    match digits with
    | first :: second :: rest => first :: '.' :: second :: rest
    | _ => digits
  mantissa ++ 'e' :: (if place < 0 then '-' else '+') :: Decimal.padded 2 place.natAbs

/-- Positional for a leading digit from ten-thousandths up to the sixteenth place before the
    point, else scientific. -/
def text (d : ScaledDecimal) : Text :=
  if -4 ≤ d.leadingPlace ∧ d.leadingPlace < 16 then d.positional else d.scientific

end ScaledDecimal

namespace Binary64

/-! ## The fewest digits -/

/-- The place of the leading digit of `units`, which are not zero. -/
def leadingPlace (units : Nat) : Int :=
  if unitsPerOne ≤ units then Decimal.length (units / unitsPerOne) - 1
  else -(Decimal.length ((unitsPerOne - 1) / units) : Int)

/-- The neighbours of a magnitude among the multiples of `10 ^ exponent`: the nearest one
    first, of two that are equally near the one with an even last digit. -/
def neighbours (units : Nat) (exponent : Int) : List ScaledDecimal :=
  let num := units * Nat.pow 10 (-exponent).toNat
  let den := unitsPerOne * Nat.pow 10 exponent.toNat
  let below := num / den
  if nearestEven num den = below then [⟨below, exponent⟩, ⟨below + 1, exponent⟩]
  else [⟨below + 1, exponent⟩, ⟨below, exponent⟩]

/-- The decimal of `count` digits that reads back to the magnitude and is nearest to it. -/
def readBack? (units count : Nat) : Option ScaledDecimal :=
  (neighbours units (leadingPlace units - count + 1)).find? fun d => d.units = units

/-- The shortest decimal that reads back to a magnitude, without zeros at its end. -/
def shortest (units : Nat) : ScaledDecimal :=
  let found := (List.range 17).findSome? fun n => readBack? units (n + 1)
  (found.getD ⟨0, 0⟩).stripZeros 17

/-! ## Texts -/

/-- The text of a finite magnitude. -/
def magnitudeText (units : Nat) : Text :=
  if units = 0 then ['0', '.', '0'] else (shortest units).text

/-- The shortest text of a double, always with a point or an exponent. -/
def text : Binary64 → Text
  | nan => ['n', 'a', 'n']
  | infinite negative => if negative then ['-', 'i', 'n', 'f'] else ['i', 'n', 'f']
  | finite negative units _ =>
    if negative then '-' :: magnitudeText units else magnitudeText units

/-- The text of a double without a point where the value is integral. Such a value is written
    with all its digits. -/
def numeral : Binary64 → Text
  | finite negative units h =>
    if units % unitsPerOne = 0 then Decimal.ofInt (truncate negative units)
    else text (finite negative units h)
  | x => text x

end Binary64

end ThermalLabel
