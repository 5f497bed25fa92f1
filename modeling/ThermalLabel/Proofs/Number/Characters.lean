/-
  The characters of written numbers: digits, the point, the mark of an exponent and the signs.
  So a position field or a size field holds no mark of the script that it stands in.
-/
import ThermalLabel.Script.Record

namespace ThermalLabel

namespace Decimal

/-- A character that a written number can have. -/
def IsFigure (c : Char) : Prop := c.isDigit ∨ c ∈ ['.', 'e', '+', '-']

theorem IsFigure.ne_return {c : Char} (h : IsFigure c) : c ≠ '\r' := by
  rintro rfl
  rcases h with h | h
  · exact absurd h (by decide)
  · exact absurd h (by decide)

/-- All characters of a text are those of numbers. -/
def IsWritten (t : Text) : Prop := ∀ c ∈ t, IsFigure c

theorem isWritten_nil : IsWritten [] := by
  intro c h
  cases h

theorem isWritten_cons {c : Char} {t : Text} (hc : IsFigure c) (ht : IsWritten t) :
    IsWritten (c :: t) := by
  intro x hx
  rcases List.mem_cons.mp hx with rfl | hx
  · exact hc
  · exact ht x hx

theorem isWritten_append {s t : Text} (hs : IsWritten s) (ht : IsWritten t) :
    IsWritten (s ++ t) := by
  intro c hc
  rcases List.mem_append.mp hc with hc | hc
  · exact hs c hc
  · exact ht c hc

theorem isWritten_ofNat (n : Nat) : IsWritten (ofNat n) := fun _ hc =>
  .inl (Nat.isDigit_of_mem_toDigits (by decide) (by decide) hc)

theorem isWritten_zeros (n : Nat) : IsWritten (List.replicate n '0') := by
  intro c hc
  rw [List.eq_of_mem_replicate hc]
  exact .inl rfl

theorem isWritten_padded (width n : Nat) : IsWritten (padded width n) :=
  isWritten_append (isWritten_zeros _) (isWritten_ofNat n)

theorem isFigure_minus : IsFigure '-' := .inr (by decide)

theorem isFigure_point : IsFigure '.' := .inr (by decide)

theorem isWritten_ofInt (n : Int) : IsWritten (ofInt n) := by
  unfold ofInt
  split
  · exact isWritten_cons isFigure_minus (isWritten_ofNat _)
  · exact isWritten_ofNat _

end Decimal

open Decimal

namespace ScaledDecimal

theorem isWritten_positional (d : ScaledDecimal) : IsWritten d.positional := by
  have hdigits := isWritten_ofNat d.digits
  unfold positional
  dsimp only
  split
  · refine isWritten_append (isWritten_append hdigits (isWritten_zeros _)) ?_
    exact isWritten_cons isFigure_point (isWritten_cons (.inl rfl) isWritten_nil)
  · split
    · exact isWritten_cons (.inl rfl) (isWritten_cons isFigure_point
        (isWritten_append (isWritten_zeros _) hdigits))
    · refine isWritten_append (fun c hc => hdigits c (List.mem_of_mem_take hc)) ?_
      exact isWritten_cons isFigure_point fun c hc => hdigits c (List.mem_of_mem_drop hc)

theorem isWritten_scientific (d : ScaledDecimal) : IsWritten d.scientific := by
  have hdigits := isWritten_ofNat d.digits
  unfold scientific
  dsimp only
  refine isWritten_append ?_ (isWritten_cons (.inr (by decide)) (isWritten_cons ?_
    (isWritten_padded _ _)))
  · split
    · next first second rest heq =>
      rw [heq] at hdigits
      refine isWritten_cons (hdigits _ List.mem_cons_self) (isWritten_cons isFigure_point ?_)
      exact fun c hc => hdigits c (List.mem_cons_of_mem _ hc)
    · exact hdigits
  · split
    · exact isFigure_minus
    · exact .inr (by decide)

theorem isWritten_text (d : ScaledDecimal) : IsWritten d.text := by
  unfold text
  split
  · exact isWritten_positional d
  · exact isWritten_scientific d

end ScaledDecimal

theorem Binary64.isWritten_magnitudeText (units : Nat) :
    IsWritten (magnitudeText units) := by
  unfold magnitudeText
  split
  · exact isWritten_cons (.inl rfl) (isWritten_cons isFigure_point
      (isWritten_cons (.inl rfl) isWritten_nil))
  · exact (shortest units).isWritten_text

theorem Position.isWritten_field (p : Position) : IsWritten p.field := isWritten_padded _ _

theorem Size.isWritten_field (s : Size) : IsWritten s.field := by
  unfold field Binary64.numeral
  dsimp only
  split
  · exact isWritten_ofInt _
  · exact Binary64.isWritten_magnitudeText _

end ThermalLabel
