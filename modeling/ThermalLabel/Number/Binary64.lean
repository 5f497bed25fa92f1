/-
  Double-precision numbers as exact multiples of their smallest step.

  Every finite double is a whole multiple of `2 ^ (-1074)`, its unit. A magnitude of `k` units
  is a double when `k` has at most 53 significant bits (`Fits`) and stays below the overflow
  limit, `2 ^ 1024`, which is `2 ^ 2098` units. So a double is a sign and a number of units,
  and an operation is the exact operation followed by one rounding: `roundUnits` goes to the
  nearest magnitude that fits, the one with an even last bit where two are equally near.
-/

namespace ThermalLabel

namespace Binary64

/-- The number of units in one. -/
def unitsPerOne : Nat := Nat.pow 2 1074

/-- The bits of the magnitude below the first 53 are zero, and the first bit is in range. -/
def Fits (units : Nat) : Prop :=
  units % Nat.pow 2 (units.log2 - 52) = 0 ∧ units.log2 < 2098

instance : DecidablePred Fits := fun _ => inferInstanceAs (Decidable (_ ∧ _))

end Binary64

/-- A double: no number, an infinity, or a sign and a magnitude in units. -/
inductive Binary64 where
  | nan
  | infinite (negative : Bool)
  | finite (negative : Bool) (units : Nat) (fits : Binary64.Fits units)
  deriving DecidableEq

namespace Binary64

/-! ## Rounding -/

/-- The whole number nearest to a quotient, the even one of two that are equally near. -/
def nearestEven (num den : Nat) : Nat :=
  let quotient := num / den
  let twice := 2 * (num % den)
  if twice < den ∨ (twice = den ∧ quotient % 2 = 0) then quotient else quotient + 1

/-- The number of units, of at most 53 significant bits, nearest to a quotient. -/
def roundUnits (num den : Nat) : Nat :=
  let step := Nat.pow 2 ((num / den).log2 - 52)
  nearestEven num (den * step) * step

/-- The double of a rounded magnitude, an infinity if it is out of range. -/
def ofUnits (negative : Bool) (units : Nat) : Binary64 :=
  if h : Fits units then finite negative units h else infinite negative

/-- The double nearest to a quotient. -/
def ofRatio (negative : Bool) (num den : Nat) : Binary64 :=
  ofUnits negative (roundUnits (num * unitsPerOne) den)

/-- The number itself if it is finite. -/
def finite? : Binary64 → Option Binary64
  | finite negative units h => some (finite negative units h)
  | _ => none

/-- The double nearest to a whole number; none if the number is out of range. -/
def ofInt? (n : Int) : Option Binary64 := (ofRatio (n < 0) n.natAbs 1).finite?

theorem fits_zero : Fits 0 := ⟨Nat.zero_mod _, by decide⟩

/-- Zero, of either sign. -/
def zero (negative : Bool) : Binary64 := finite negative 0 fits_zero

/-! ## Operations -/

/-- A magnitude with its sign. -/
def signed (negative : Bool) (units : Nat) : Int :=
  if negative then -(units : Int) else units

/-- The sum, rounded once. A sum that is exactly zero is positive unless both terms are negative
    zeros. -/
def add : Binary64 → Binary64 → Binary64
  | nan, _ => nan
  | _, nan => nan
  | infinite a, infinite b => if a = b then infinite a else nan
  | infinite a, finite .. => infinite a
  | finite .., infinite b => infinite b
  | finite a m _, finite b n _ =>
    let sum := signed a m + signed b n
    if sum = 0 then zero (a && b) else ofUnits (sum < 0) (roundUnits sum.natAbs 1)

/-- Three times a number, rounded once. -/
def triple : Binary64 → Binary64
  | nan => nan
  | infinite a => infinite a
  | finite a m _ => ofUnits a (roundUnits (3 * m) 1)

/-- The whole number next to a finite double in the direction of zero. -/
def truncate (negative : Bool) (units : Nat) : Int := signed negative (units / unitsPerOne)

end Binary64

end ThermalLabel
