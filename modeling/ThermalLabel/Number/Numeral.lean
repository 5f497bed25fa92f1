/-
  Numerals: whole numbers and doubles read from text.

  White space may stand around a numeral and one sign before it. Digits of every script count,
  and an underscore may stand between two digits. A whole number of more than 4300 digits is
  refused. A double has a whole part, a fraction and an exponent, of which only one digit
  before the exponent is needed; it may also be named `inf`, `infinity` or `nan`, in letters
  of either case.
-/
import ThermalLabel.Number.Shortest

namespace ThermalLabel

namespace Numeral

/-! ## Parts -/

/-- The values of the digits at the front, and what follows them. -/
def digits : Text → List Nat × Text
  | [] => ([], [])
  | c :: rest =>
    match Text.digitValue? c with
    | some d => (d :: (digits rest).1, (digits rest).2)
    | none => ([], c :: rest)

/-- The text starts with a digit. -/
def startsWithDigit : Text → Bool
  | [] => false
  | c :: _ => Text.isDecimalDigit c

/-- The text without its underscores; none if one does not stand between two digits.
    `afterDigit` says whether the character before the text is a digit. -/
def joined? (afterDigit : Bool) : Text → Option Text
  | [] => some []
  | c :: rest =>
    if c = '_' then
      if afterDigit && startsWithDigit rest then joined? false rest else none
    else (joined? (Text.isDecimalDigit c) rest).map (c :: ·)

/-- The sign at the front, true for minus, and what follows it. -/
def sign : Text → Bool × Text
  | '-' :: rest => (true, rest)
  | '+' :: rest => (false, rest)
  | t => (false, t)

/-! ## Whole numbers -/

/-- The longest whole number that is read. -/
def digitLimit : Nat := 4300

/-- A whole number. -/
def integer? (t : Text) : Option Int := do
  let joined ← joined? false (Text.trimBy Text.isSpace t)
  let (negative, body) := sign joined
  let (ds, rest) := digits body
  guard (rest = [] ∧ ds ≠ [] ∧ ds.length ≤ digitLimit)
  return if negative then -(Decimal.value ds : Int) else Decimal.value ds

/-! ## Doubles -/

/-- An exponent with its mark, zero if the text does not start with one, and what follows. -/
def exponent : Text → Int × Text
  | [] => (0, [])
  | c :: rest =>
    if c = 'e' ∨ c = 'E' then
      let (negative, body) := sign rest
      let (ds, after) := digits body
      if ds = [] then (0, c :: rest)
      else (if negative then -(Decimal.value ds : Int) else Decimal.value ds, after)
    else (0, c :: rest)

/-- A fraction with its point, empty if the text does not start with one, and what follows. -/
def fraction : Text → List Nat × Text
  | '.' :: rest => digits rest
  | t => ([], t)

/-- An unsigned decimal with fraction and exponent, and nothing after it. -/
def decimal? (t : Text) : Option ScaledDecimal :=
  let (whole, afterWhole) := digits t
  let (part, afterPart) := fraction afterWhole
  let (power, rest) := exponent afterPart
  if rest = [] ∧ whole ++ part ≠ [] then
    some ⟨Decimal.value (whole ++ part), power - part.length⟩
  else none

/-- The double nearest to a decimal. Beyond the places 400 and -400 the magnitude is out of
    range or vanishes whatever its digits, and powers of ten need not be computed. -/
def nearest (negative : Bool) (d : ScaledDecimal) : Binary64 :=
  if d.digits = 0 ∨ d.leadingPlace < -400 then .zero negative
  else if 400 < d.leadingPlace then .infinite negative
  else .ofUnits negative d.units

/-- An unsigned double: a decimal or one of the names. -/
def unsigned? (negative : Bool) (t : Text) : Option Binary64 :=
  match decimal? t with
  | some d => some (nearest negative d)
  | none =>
    match (Text.lowercase t) with
    | ['i', 'n', 'f'] => some (.infinite negative)
    | ['i', 'n', 'f', 'i', 'n', 'i', 't', 'y'] => some (.infinite negative)
    | ['n', 'a', 'n'] => some .nan
    | _ => none

/-- A double. -/
def real? (t : Text) : Option Binary64 := do
  let joined ← joined? false (Text.trimBy Text.isSpace t)
  let (negative, body) := sign joined
  unsigned? negative body

end Numeral

end ThermalLabel
