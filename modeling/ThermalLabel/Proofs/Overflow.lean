/-
  Whole numbers that end a conversion.

  A fault that makes no diagnostic ends the conversion. Of the commands only figures with a
  whole-number size can have one, where the size has no nearest double and is read at all: sizes
  are read in order, and one that is skipped for an earlier fault does no harm
  (`Command.outcome_eq_error_iff_overflows`). The coordinates of the origin never end a
  conversion, as they are 0 or doubles (`Origin.isMeasured_along`).
-/
import ThermalLabel.Proofs.Fields
import ThermalLabel.Proofs.Layout
import ThermalLabel.Proofs.Number.Range

namespace ThermalLabel

/-! ## Steps that end a conversion -/

/-- The step has a fault that makes no diagnostic. -/
def Ends {α : Type} (step : Except Fault α) (reason : Fault) : Prop :=
  step = .error reason ∧ reason.diagnosticKind? = none

theorem not_ends_ok {α : Type} {a : α} {reason : Fault} : ¬ Ends (.ok a) reason := by
  rintro ⟨h, -⟩
  cases h

theorem ends_bind_iff {α β : Type} {step : Except Fault α} {next : α → Except Fault β}
    {reason : Fault} :
    Ends (step >>= next) reason ↔
      Ends step reason ∨ ∃ a, step = .ok a ∧ Ends (next a) reason := by
  unfold Ends
  rw [bind_eq_error_iff, or_and_right, ← exists_and_right]
  simp only [and_assoc]

theorem ends_bind_ok_iff {α β : Type} {a : α} {next : α → Except Fault β} {reason : Fault} :
    Ends (.ok a >>= next) reason ↔ Ends (next a) reason := Iff.rfl

/-! ## Numbers and fields -/

/-- A whole number without a nearest double. -/
def OutOfRange (n : Int) : Prop := Binary64.overflowLimit ≤ n.natAbs

/-- A number that a coordinate of the origin can be: 0 before any move, else a double. -/
def Number.IsMeasured (x : Number) : Prop := x = .integer 0 ∨ ∃ r, x = .real r

theorem not_outOfRange_zero : ¬ OutOfRange 0 := by
  unfold OutOfRange
  rw [Int.natAbs_zero, Nat.not_le]
  exact Binary64.overflowLimit_pos

theorem Number.asReal_integer (n : Int) :
    (integer n).asReal = (Binary64.ofInt? n).elim (.error .outOfRange) .ok := rfl

theorem asReal_integer_eq_error_iff {n : Int} {reason : Fault} :
    (Number.integer n).asReal = .error reason ↔ OutOfRange n ∧ reason = .outOfRange := by
  rw [Number.asReal_integer, OutOfRange, ← Binary64.ofInt?_eq_none_iff]
  cases Binary64.ofInt? n with
  | none => simp [eq_comm]
  | some x => simp

theorem Position.not_ends_ofPixels {given : Quantity} {x : Binary64} {reason : Fault} :
    ¬ Ends (Position.ofPixels given x) reason := by
  rintro ⟨h, hkind⟩
  rw [Position.ofPixels_eq_error h] at hkind
  cases hkind

theorem Position.ends_read_number_iff {x : Number} {reason : Fault} :
    Ends (Position.read (.number x)) reason ↔ x.asReal = .error reason := by
  unfold Position.read Quantity.pixels
  rw [ends_bind_iff]
  constructor
  · rintro (⟨h, -⟩ | ⟨_, -, h⟩)
    · exact h
    · exact absurd h not_ends_ofPixels
  · intro h
    refine .inl ⟨h, ?_⟩
    rw [Number.asReal_eq_error h]
    rfl

theorem Position.not_ends_read {x : Number} (hx : x.IsMeasured) {reason : Fault} :
    ¬ Ends (Position.read (.number x)) reason := by
  rw [ends_read_number_iff]
  rcases hx with rfl | ⟨r, rfl⟩
  · rw [asReal_integer_eq_error_iff]
    exact fun h => not_outOfRange_zero h.1
  · intro h
    cases h

theorem Size.ends_read_iff {n : Int} {reason : Fault} :
    Ends (Size.read (.ofInt n)) reason ↔ OutOfRange n ∧ reason = .outOfRange := by
  unfold Size.read Quantity.ofInt Quantity.pixels
  rw [ends_bind_iff, ← asReal_integer_eq_error_iff]
  constructor
  · rintro (⟨h, -⟩ | ⟨_, -, h, hkind⟩)
    · exact h
    · rw [Size.ofPixels_eq_error h] at hkind
      cases hkind
  · intro h
    refine .inl ⟨h, ?_⟩
    rw [Number.asReal_eq_error h]
    rfl

/-- A whole number that is added to a double becomes a double first. -/
theorem Quantity.plus_real_integer (r : Binary64) (n : Int) :
    (Quantity.number (.real r)).plus (.ofInt n) =
      (Number.integer n).asReal.map fun y => .number (.real (r.add y)) := by
  have hsum : (Number.real r).add? (.integer n) =
      (Binary64.ofInt? n).map fun y => .real (r.add y) := by
    unfold Number.add? Number.toReal?
    dsimp only
    cases Binary64.ofInt? n with
    | none => rfl
    | some y => rfl
  have hplus : (Quantity.number (.real r)).plus (.ofInt n) =
      ((Number.real r).add? (.integer n)).elim (.error .outOfRange) (.ok ∘ number) := rfl
  rw [hplus, hsum, Number.asReal_integer]
  cases Binary64.ofInt? n with
  | none => rfl
  | some y => rfl

/-- The far edge of a figure that starts at a coordinate. -/
def Position.edge (start size : Quantity) : Except Fault Position := do
  Position.read (← start.plus size)

/-- A far edge ends the conversion exactly if the size is out of range: added to 0 it stays as
    it is and is read as a position, and before it is added to a double it becomes one. -/
theorem Position.ends_edge_iff {x : Number} (hx : x.IsMeasured) {n : Int} {reason : Fault} :
    Ends (Position.edge (.number x) (.ofInt n)) reason ↔ OutOfRange n ∧ reason = .outOfRange := by
  unfold Position.edge
  rcases hx with rfl | ⟨r, rfl⟩
  · have hsum : (Quantity.number (.integer 0)).plus (.ofInt n) = .ok (.number (.integer n)) := by
      show Except.ok (Quantity.number (.integer (0 + n))) = _
      rw [Int.zero_add]
    rw [hsum, ends_bind_ok_iff, ends_read_number_iff, asReal_integer_eq_error_iff]
  · have hsum := Quantity.plus_real_integer r n
    rw [hsum, ends_bind_iff, ← asReal_integer_eq_error_iff]
    constructor
    · rintro (⟨h, -⟩ | ⟨sum, h, hread⟩)
      · exact map_eq_error_iff.mp h
      · obtain ⟨y, -, rfl⟩ := map_eq_ok_iff.mp h
        exact absurd hread (not_ends_read (.inr ⟨_, rfl⟩))
    · intro h
      refine .inl ⟨map_eq_error_iff.mpr h, ?_⟩
      rw [Number.asReal_eq_error h]
      rfl

/-! ## Figures -/

/-- The record of a figure with two corners and a thickness, a box or a line. -/
def Figure.cornered (draw : Position → Position → Position → Position → Size → Record)
    (x y width height thickness : Quantity) : Except Fault Record := do
  let row ← Position.read y
  let column ← Position.read x
  let endRow ← Position.edge y height
  let endColumn ← Position.edge x width
  return draw row column endRow endColumn (← Size.read thickness)

namespace Origin

/-- The origin can be written. -/
def OnLabel (origin : Origin) : Prop :=
  (∃ row, Position.read (.number origin.y) = .ok row) ∧
    ∃ column, Position.read (.number origin.x) = .ok column

/-- A box or a line at the origin has a size out of range and none that is refused before it is
    read: the height comes first, then the width and the thickness. -/
def CornersOverflow (origin : Origin) (width height thickness : Int) : Prop :=
  OutOfRange height ∨
    (∃ row, Position.edge (.number origin.y) (.ofInt height) = .ok row) ∧
      (OutOfRange width ∨
        (∃ column, Position.edge (.number origin.x) (.ofInt width) = .ok column) ∧
          OutOfRange thickness)

/-- Both coordinates are 0 or doubles. -/
structure IsMeasured (origin : Origin) : Prop where
  x : origin.x.IsMeasured
  y : origin.y.IsMeasured

theorem isMeasured_initial : initial.IsMeasured := ⟨.inl rfl, .inl rfl⟩

theorem isMeasured_coordinate {current x : Number} {parameter : Text}
    (hcurrent : current.IsMeasured) (h : coordinate? current parameter = some x) :
    x.IsMeasured := by
  unfold coordinate? at h
  split at h
  · cases h
    exact hcurrent
  · obtain ⟨r, -, rfl⟩ := Option.map_eq_some_iff.mp h
    exact .inr ⟨r, rfl⟩

theorem isMeasured_move {origin moved : Origin} {c : Command} (horigin : origin.IsMeasured)
    (h : origin.move c = .ok moved) : moved.IsMeasured := by
  unfold move at h
  split at h
  · next x y hx hy =>
    cases h
    exact ⟨isMeasured_coordinate horigin.x hx, isMeasured_coordinate horigin.y hy⟩
  · cases h

theorem isMeasured_follow {origin : Origin} (h : origin.IsMeasured) (c : Command) :
    (origin.follow c).IsMeasured := by
  unfold follow
  split
  · cases hm : origin.move c with
    | ok moved => exact isMeasured_move h hm
    | error reason => exact h
  · exact h

theorem isMeasured_along {origin : Origin} (h : origin.IsMeasured) (commands : List Command) :
    (origin.along commands).IsMeasured := by
  induction commands generalizing origin with
  | nil => exact h
  | cons c commands ih =>
    rw [along_cons]
    exact ih (isMeasured_follow h c)

end Origin

/-- A circle has a size out of range and none that is refused before it is read. -/
def CircleOverflows (diameter thickness : Int) : Prop :=
  OutOfRange diameter ∨ 0 ≤ diameter ∧ OutOfRange thickness

theorem Size.exists_read_ok_iff {n : Int} :
    (∃ s, Size.read (.ofInt n) = .ok s) ↔ ¬ OutOfRange n ∧ 0 ≤ n := by
  have hpixels : (Quantity.ofInt n).pixels = (Number.integer n).asReal := rfl
  unfold Size.read OutOfRange
  rw [hpixels, Number.asReal_integer, ← Binary64.ofInt?_eq_none_iff]
  cases h : Binary64.ofInt? n with
  | none => simp [bind, Except.bind]
  | some x =>
    obtain ⟨units, hfits, rfl, hzero⟩ := Binary64.ofInt?_eq_some h
    by_cases hn : n < 0
    · have hunits : units ≠ 0 := fun hu => absurd (hzero hu) (Int.ne_of_lt hn)
      simp [bind, Except.bind, ofPixels, hn, hunits]
    · simp [bind, Except.bind, ofPixels, hn, Int.not_lt.mp hn]

namespace Figure

variable {origin : Origin} {reason : Fault}

theorem record_box (x y width height thickness : Quantity) :
    (box x y width height thickness).record = cornered .box x y width height thickness := by
  unfold record cornered Position.edge
  simp only [bind_assoc]

theorem record_line (x y width height thickness : Quantity) :
    (line x y width height thickness).record = cornered .line x y width height thickness := by
  unfold record cornered Position.edge
  simp only [bind_assoc]

theorem ends_cornered_iff (horigin : origin.IsMeasured)
    {draw : Position → Position → Position → Position → Size → Record}
    {width height thickness : Int} :
    Ends (cornered draw (.number origin.x) (.number origin.y) (.ofInt width) (.ofInt height)
      (.ofInt thickness)) reason ↔
      (origin.OnLabel ∧ origin.CornersOverflow width height thickness) ∧
        reason = .outOfRange := by
  unfold cornered Origin.OnLabel Origin.CornersOverflow
  simp only [ends_bind_iff, Position.not_ends_read horigin.x, Position.not_ends_read horigin.y,
    Position.ends_edge_iff horigin.x, Position.ends_edge_iff horigin.y, Size.ends_read_iff,
    false_or, pure, Except.pure, not_ends_ok, and_false, exists_false, or_false,
    exists_and_right, or_and_right, and_assoc]

theorem ends_circle_iff (horigin : origin.IsMeasured) {diameter thickness : Int} :
    Ends (circle (.number origin.x) (.number origin.y) (.ofInt diameter) (.ofInt thickness)).record
      reason ↔
      (origin.OnLabel ∧ CircleOverflows diameter thickness) ∧ reason = .outOfRange := by
  unfold record Origin.OnLabel CircleOverflows
  simp only [ends_bind_iff, Position.not_ends_read horigin.x, Position.not_ends_read horigin.y,
    Size.ends_read_iff, false_or, pure, Except.pure, not_ends_ok, and_false, exists_false, or_false,
    exists_and_right, or_and_right, and_assoc, Size.exists_read_ok_iff]
  by_cases hdiameter : OutOfRange diameter
  · simp +contextual [hdiameter]
  · simp [hdiameter]

/-- A figure without sizes does not end the conversion. -/
theorem not_ends_of_position (horigin : origin.IsMeasured) {draw : Position → Position → Record} :
    ¬ Ends (do
      let row ← Position.read (.number origin.y)
      let column ← Position.read (.number origin.x)
      return draw row column) reason := by
  simp only [ends_bind_iff, Position.not_ends_read horigin.x, Position.not_ends_read horigin.y,
    false_or, pure, Except.pure, not_ends_ok, and_false, exists_false, not_false_eq_true]

end Figure

/-! ## Commands -/

namespace Command

/-- The command draws a figure with a whole-number size that is out of range and is read. -/
inductive Overflows (origin : Origin) (c : Command) : Prop
  | box {width height thickness : Option Int} (asked : c.instruction = .box)
      (first : c.integer? 0 = .ok width) (second : c.integer? 1 = .ok height)
      (third : c.integer? 2 = .ok thickness) (onLabel : origin.OnLabel)
      (overflow : origin.CornersOverflow (width.getD (thickness.getD 1))
        (height.getD (thickness.getD 1)) (thickness.getD 1))
  | line {width height thickness : Option Int} (asked : c.instruction = .line)
      (first : c.integer? 0 = .ok width) (second : c.integer? 1 = .ok height)
      (third : c.integer? 2 = .ok thickness) (onLabel : origin.OnLabel)
      (overflow : origin.CornersOverflow (width.getD 3) (height.getD 3) (thickness.getD 1))
  | circle {diameter thickness : Option Int} (asked : c.instruction = .circle)
      (first : c.integer? 0 = .ok diameter) (second : c.integer? 1 = .ok thickness)
      (onLabel : origin.OnLabel)
      (overflow : CircleOverflows (diameter.getD 3) (thickness.getD 1))

variable {stored : List Text} {origin : Origin} {later : List Command} {c : Command}
  {reason : Fault}

theorem overflows_of_ends (horigin : origin.IsMeasured) {drawn : Figure}
    (hdraw : c.Draw stored origin later drawn) (hends : Ends drawn.record reason) :
    c.Overflows origin ∧ reason = .outOfRange := by
  cases hdraw with
  | text | qrCode | barcode | recallImage =>
    exact absurd hends (Figure.not_ends_of_position horigin)
  | box asked first second third =>
    rw [Figure.record_box, Figure.ends_cornered_iff horigin] at hends
    exact ⟨.box asked first second third hends.1.1 hends.1.2, hends.2⟩
  | line asked first second third =>
    rw [Figure.record_line, Figure.ends_cornered_iff horigin] at hends
    exact ⟨.line asked first second third hends.1.1 hends.1.2, hends.2⟩
  | circle asked first second =>
    rw [Figure.ends_circle_iff horigin] at hends
    exact ⟨.circle asked first second hends.1.1 hends.1.2, hends.2⟩

theorem ends_of_overflows (horigin : origin.IsMeasured) (h : c.Overflows origin) :
    ∃ drawn, c.Draw stored origin later drawn ∧ Ends drawn.record .outOfRange := by
  cases h with
  | box asked first second third onLabel overflow =>
    refine ⟨_, .box asked first second third, ?_⟩
    rw [Figure.record_box]
    exact (Figure.ends_cornered_iff horigin).mpr ⟨⟨onLabel, overflow⟩, rfl⟩
  | line asked first second third onLabel overflow =>
    refine ⟨_, .line asked first second third, ?_⟩
    rw [Figure.record_line]
    exact (Figure.ends_cornered_iff horigin).mpr ⟨⟨onLabel, overflow⟩, rfl⟩
  | circle asked first second onLabel overflow =>
    exact ⟨_, .circle asked first second,
      (Figure.ends_circle_iff horigin).mpr ⟨⟨onLabel, overflow⟩, rfl⟩⟩

/-- A command ends the conversion exactly if it overflows. -/
theorem outcome_eq_error_iff_overflows (horigin : origin.IsMeasured) :
    c.outcome stored origin later = .error reason ↔
      c.Overflows origin ∧ reason = .outOfRange := by
  rw [outcome_eq_error_iff]
  constructor
  · rintro ⟨drawn, hfigure, hends⟩
    exact overflows_of_ends horigin (figure_eq_some_iff.mp hfigure) hends
  · rintro ⟨h, rfl⟩
    obtain ⟨drawn, hdraw, hends⟩ := ends_of_overflows horigin h
    exact ⟨drawn, figure_eq_some_iff.mpr hdraw, hends⟩

end Command

end ThermalLabel
