/-
  Figures that come to the same.

  A size may be given as a whole number or as the double nearest to it. A whole number becomes that
  double before it is rounded to dots or added to another one, so a figure is the same record either
  way, or it is refused with a fault of the same kind (`Figure.sameResult_cornered`,
  `Figure.sameResult_circle`).
-/
import ThermalLabel.Proofs.Number.Reading
import ThermalLabel.Proofs.Overflow

namespace ThermalLabel

/-! ## Steps with the same result -/

/-- Both steps have the same result, or faults that make diagnostics of the same kind. -/
inductive SameResult {α : Type} : Except Fault α → Except Fault α → Prop
  | ok (a : α) : SameResult (.ok a) (.ok a)
  | fault {reason other : Fault} {kind : DiagnosticKind}
    (first : reason.diagnosticKind? = some kind) (second : other.diagnosticKind? = some kind) :
    SameResult (.error reason) (.error other)

theorem SameResult.bind {α β : Type} {x y : Except Fault α} {f g : α → Except Fault β}
    (h : SameResult x y) (hnext : ∀ a, SameResult (f a) (g a)) :
    SameResult (x >>= f) (y >>= g) := by
  cases h with
  | ok a => exact hnext a
  | fault first second => exact .fault first second

/-- Quantities of the same number of pixels are the same position. -/
theorem Position.sameResult_read {q r : Quantity} {x : Binary64} (hq : q.pixels = .ok x)
    (hr : r.pixels = .ok x) : SameResult (read q) (read r) := by
  rw [read, read, hq, hr, ok_bind, ok_bind]
  cases x with
  | nan | infinite => exact .fault rfl rfl
  | finite negative units fits =>
    by_cases hfield : roundedDots units < 10000 ∧ (negative = true → roundedDots units = 0)
    · rw [ofPixels, ofPixels, dif_pos hfield]
      exact .ok _
    · rw [ofPixels, ofPixels, dif_neg hfield]
      exact .fault rfl rfl

theorem Size.sameResult_read {q r : Quantity} {x : Binary64} (hq : q.pixels = .ok x)
    (hr : r.pixels = .ok x) : SameResult (read q) (read r) := by
  rw [read, read, hq, hr, ok_bind, ok_bind]
  cases x with
  | nan | infinite => exact .fault rfl rfl
  | finite negative units fits =>
    by_cases hnegative : negative = true ∧ units ≠ 0
    · rw [ofPixels, ofPixels, if_pos hnegative, if_pos hnegative]
      exact .fault rfl rfl
    · rw [ofPixels, ofPixels, if_neg hnegative, if_neg hnegative]
      exact .ok _

namespace Quantity

theorem pixels_ofReal (x : Binary64) : (ofReal x).pixels = .ok x := rfl

theorem pixels_ofInt {n : Int} {x : Binary64} (h : Binary64.ofInt? n = some x) :
    (ofInt n).pixels = .ok x := by
  unfold ofInt pixels
  dsimp only
  rw [Number.asReal_integer, h]
  rfl

/-- A whole number in digits has as many pixels as the whole number. -/
theorem pixels_text_ofInt {n : Int} {x : Binary64} (h : Binary64.ofInt? n = some x) :
    (text (Decimal.ofInt n)).pixels = .ok x := by
  have htrim : Text.trim (Decimal.ofInt n) = Decimal.ofInt n := Numeral.trimBy_ofInt (by decide) n
  have hunit : Text.dropEnding? ['p', 'x'] (Decimal.ofInt n) = none := by
    rw [Text.dropEnding?, if_neg]
    intro hending
    have hx := (List.isSuffixOf_iff_suffix.mp hending).subset
      (List.mem_cons_of_mem 'p' List.mem_cons_self)
    exact Decimal.not_mem_ofInt (by decide) n hx
  unfold pixels withoutUnit
  dsimp only
  rw [htrim, hunit, Option.getD_none, Numeral.real?_ofInt h]
  rfl

end Quantity

/-- A far edge is the same whether the size is a whole number or the double nearest to it. -/
theorem Position.sameResult_edge (start : Binary64) {n : Int} {x : Binary64}
    (h : Binary64.ofInt? n = some x) :
    SameResult (edge (.ofReal start) (.ofInt n)) (edge (.ofReal start) (.ofReal x)) := by
  have hsum : (Quantity.ofReal start).plus (.ofInt n) = .ok (.ofReal (start.add x)) := by
    unfold Quantity.ofReal
    rw [Quantity.plus_real_integer, Number.asReal_integer, h]
    rfl
  have hreal : (Quantity.ofReal start).plus (.ofReal x) = .ok (.ofReal (start.add x)) := rfl
  rw [edge, edge, hsum, hreal, ok_bind]
  exact sameResult_read (Quantity.pixels_ofReal _) (Quantity.pixels_ofReal _)

namespace Figure

variable {x y : Binary64}

theorem sameResult_cornered {draw : Position → Position → Position → Position → Size → Record}
    {width height thickness : Int} {w h t : Binary64} (hw : Binary64.ofInt? width = some w)
    (hh : Binary64.ofInt? height = some h) (ht : Binary64.ofInt? thickness = some t) :
    SameResult
      (cornered draw (.ofReal x) (.ofReal y) (.ofInt width) (.ofInt height) (.ofInt thickness))
      (cornered draw (.ofReal x) (.ofReal y) (.ofReal w) (.ofReal h) (.ofReal t)) := by
  refine (Position.sameResult_read rfl rfl).bind fun row => ?_
  refine (Position.sameResult_read rfl rfl).bind fun column => ?_
  refine (Position.sameResult_edge y hh).bind fun endRow => ?_
  refine (Position.sameResult_edge x hw).bind fun endColumn => ?_
  refine (Size.sameResult_read (Quantity.pixels_ofInt ht) rfl).bind fun size => ?_
  exact .ok _

theorem sameResult_circle {diameter thickness : Int} {d t : Binary64}
    (hd : Binary64.ofInt? diameter = some d) (ht : Binary64.ofInt? thickness = some t) :
    SameResult
      (circle (.ofReal x) (.ofReal y) (.ofInt diameter) (.ofInt thickness)).record
      (circle (.ofReal x) (.ofReal y) (.ofReal d) (.ofReal t)).record := by
  refine (Position.sameResult_read rfl rfl).bind fun row => ?_
  refine (Position.sameResult_read rfl rfl).bind fun column => ?_
  refine (Size.sameResult_read (Quantity.pixels_ofInt hd) rfl).bind fun across => ?_
  refine (Size.sameResult_read (Quantity.pixels_ofInt ht) rfl).bind fun size => ?_
  exact .ok _

theorem sameResult_text (body : Text) :
    SameResult (text (.ofReal x) (.ofReal y) body).record
      (text (.ofReal x) (.ofReal y) body).record := by
  refine (Position.sameResult_read rfl rfl).bind fun row => ?_
  refine (Position.sameResult_read rfl rfl).bind fun column => ?_
  exact .ok _

end Figure

end ThermalLabel
