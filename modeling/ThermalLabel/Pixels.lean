/-
  Quantities as pixels: the reading of a coordinate or a size as a double, and sums of
  quantities as they are given.
-/
import ThermalLabel.Fault

namespace ThermalLabel

namespace Number

/-- A number as a double. -/
def asReal (n : Number) : Except Fault Binary64 := n.toReal?.elim (.error .outOfRange) .ok

end Number

namespace Quantity

/-- A quantity as a double, where a text has to be a plain numeral. -/
def real : Quantity → Except Fault Binary64
  | number n => n.asReal
  | flag b => (Number.ofFlag b).asReal
  | text t => (Numeral.real? t).elim (.error (.notNumeral t)) .ok
  | missing => .error .notNumber

/-- A quantity in pixels, where a text may have the unit `px`. -/
def pixels : Quantity → Except Fault Binary64
  | number n => n.asReal
  | flag b => (Number.ofFlag b).asReal
  | text t => (Numeral.real? (withoutUnit t)).elim (.error (.notPixels (text t))) .ok
  | missing => .error (.notPixels missing)

/-- The sum of two quantities, before they are read as pixels. Two texts are joined. -/
def plus : Quantity → Quantity → Except Fault Quantity
  | text s, text t => .ok (text (s ++ t))
  | p, q =>
    match p.number?, q.number? with
    | some a, some b => (a.add? b).elim (.error .outOfRange) (.ok ∘ number)
    | _, _ => .error .notNumber

/-- A quantity that has to be a text. -/
def literal : Quantity → Except Fault Text
  | text t => .ok t
  | _ => .error .notText

end Quantity

end ThermalLabel
