/-
  The corners of boxes and lines.

  A far edge is the start plus the size, rounded to dots. The sum is exact for two whole numbers
  and else one of doubles, and each of its steps keeps order (`Number.sumUnits_mono`), so the dots
  of the far edge do not fall where the size grows and are those of the start for a size of zero
  (`Position.start_le_edge`, `Position.edge_of_within`). Hence a box or a line has its far corner
  behind the near one, and one with smaller sizes is drawn too, with a far corner that is no farther
  (`Label.corners_ordered`).
-/
import ThermalLabel.Proofs.Number.Reading
import ThermalLabel.Proofs.Script.Calls
import ThermalLabel.Proofs.Script.Dots

namespace ThermalLabel

open Binary64

/-! ## Sums of units -/

theorem Binary64.exists_units?_of_add {x y : Binary64} {r : Int} (h : (x.add y).units? = some r) :
    (∃ z, x.units? = some z) ∧ ∃ w, y.units? = some w := by
  cases x with
  | nan => cases h
  | infinite a =>
    cases y with
    | nan | finite => cases h
    | infinite b =>
      rw [add] at h
      split at h <;> cases h
  | finite a m hm =>
    cases y with
    | nan | infinite => cases h
    | finite b n hn => exact ⟨⟨_, rfl⟩, _, rfl⟩

theorem Binary64.nearestUnits_nearestUnits (z : Int) :
    nearestUnits (nearestUnits z) = nearestUnits z := by
  refine nearestUnits_of_isPrecise ?_
  rw [natAbs_nearestUnits]
  exact isPrecise_roundUnits _ Nat.one_pos

namespace Number

/-- The number is given as a whole number, not as a double. -/
def isInteger : Number → Bool
  | integer _ => true
  | real _ => false

/-- The units of a sum, not yet rounded: of the terms themselves where both are whole numbers, else
    of the doubles nearest to them. -/
def sumUnits (whole : Bool) (z w : Int) : Int :=
  if whole then z + w else nearestUnits z + nearestUnits w

theorem sumUnits_mono (whole : Bool) (z : Int) {w w' : Int} (h : w ≤ w') :
    sumUnits whole z w ≤ sumUnits whole z w' := by
  cases whole with
  | true => exact Int.add_le_add_left h z
  | false => exact Int.add_le_add_left (nearestUnits_mono h) _

theorem nearestUnits_sumUnits_zero (whole : Bool) (z : Int) :
    nearestUnits (sumUnits whole z 0) = nearestUnits z := by
  cases whole with
  | true =>
    rw [sumUnits, if_pos rfl, Int.add_zero]
  | false =>
    rw [sumUnits, if_neg Bool.false_ne_true, nearestUnits_zero, Int.add_zero,
      nearestUnits_nearestUnits]

/-- A double is within the range once the number that it is nearest to is. -/
theorem exists_toReal?_iff {n : Number} {z : Int} (h : n.units? = some z) :
    (∃ x, n.toReal? = some x ∧ x.units? = some (nearestUnits z)) ↔
      (nearestUnits z).natAbs < unitsLimit := by
  rw [← Option.bind_eq_some_iff, units?_toReal? h]
  exact and_iff_right rfl

theorem add?_of_not_whole {s n : Number} (h : (s.isInteger && n.isInteger) = false) :
    s.add? n = do
      let x ← s.toReal?
      let y ← n.toReal?
      return real (x.add y) := by
  cases s with
  | real x => rfl
  | integer a =>
    cases n with
    | real y => rfl
    | integer b => cases h

end Number

/-! ## Far edges -/

namespace Position

open Number (sumUnits)

variable {s n : Number} {q : Position}

theorem edge_number_eq_ok_iff :
    edge (.number s) (.number n) = .ok q ↔
      ∃ sum, s.add? n = some sum ∧ read (.number sum) = .ok q := by
  have hplus : ∀ sum, (Quantity.number s).plus (.number n) = .ok sum ↔
      ∃ total, s.add? n = some total ∧ .number total = sum := fun sum => elim_eq_ok_iff
  rw [edge, bind_eq_ok_iff]
  simp only [hplus]
  constructor
  · rintro ⟨_, ⟨total, htotal, rfl⟩, hread⟩
    exact ⟨total, htotal, hread⟩
  · rintro ⟨total, htotal, hread⟩
    exact ⟨_, ⟨total, htotal, rfl⟩, hread⟩

/-- A size with an edge is finite. -/
theorem exists_units?_of_edge (h : edge (.number s) (.number n) = .ok q) :
    ∃ w, n.units? = some w := by
  cases n with
  | integer m => exact ⟨_, rfl⟩
  | real y =>
    obtain ⟨sum, hsum, hread⟩ := edge_number_eq_ok_iff.mp h
    rw [Number.add?_of_not_whole (Bool.and_false _)] at hsum
    obtain ⟨x, -, hsum⟩ := Option.bind_eq_some_iff.mp hsum
    cases hsum
    obtain ⟨r, hr, -⟩ := read_eq_ok_iff.mp hread
    exact (exists_units?_of_add hr).2

theorem edge_of_integers {a b : Int} :
    edge (.number (.integer a)) (.number (.integer b)) = .ok q ↔
      dots (nearestUnits (a * unitsPerOne + b * unitsPerOne)) = (q.val : Int) := by
  have hsum : (Number.integer a).add? (.integer b) = some (.integer (a + b)) := rfl
  have hunits : (Number.integer (a + b)).units? = some (a * unitsPerOne + b * unitsPerOne) :=
    congrArg some (Int.add_mul a b unitsPerOne)
  rw [edge_number_eq_ok_iff, hsum]
  simp only [Option.some.injEq, exists_eq_left', read_eq_ok_iff, hunits]

theorem edge_of_doubles (h : (s.isInteger && n.isInteger) = false) {z w : Int}
    (hs : s.units? = some z) (hn : n.units? = some w) :
    edge (.number s) (.number n) = .ok q ↔
      ((nearestUnits z).natAbs < unitsLimit ∧ (nearestUnits w).natAbs < unitsLimit) ∧
        dots (nearestUnits (nearestUnits z + nearestUnits w)) = (q.val : Int) := by
  rw [edge_number_eq_ok_iff, Number.add?_of_not_whole h]
  simp only [bind, Option.bind_eq_some_iff, pure, Option.some.injEq]
  constructor
  · rintro ⟨_, ⟨x, hx, y, hy, rfl⟩, hread⟩
    obtain ⟨r, hr, hdots⟩ := read_eq_ok_iff.mp hread
    obtain ⟨⟨xu, hxu⟩, yu, hyu⟩ := exists_units?_of_add hr
    obtain ⟨hxz, hxlimit⟩ :=
      (Number.units?_toReal? hs).mp (Option.bind_eq_some_iff.mpr ⟨x, hx, hxu⟩)
    obtain ⟨hyw, hylimit⟩ :=
      (Number.units?_toReal? hn).mp (Option.bind_eq_some_iff.mpr ⟨y, hy, hyu⟩)
    refine ⟨⟨hxlimit, hylimit⟩, ?_⟩
    obtain ⟨hsum, -⟩ := (units?_add hxu hyu).mp hr
    rw [hxz, hyw, hsum, ← hdots, ← hsum, nearestUnits_nearestUnits]
  · rintro ⟨⟨hxlimit, hylimit⟩, hdots⟩
    obtain ⟨x, hx, hxu⟩ := (Number.exists_toReal?_iff hs).mpr hxlimit
    obtain ⟨y, hy, hyu⟩ := (Number.exists_toReal?_iff hn).mpr hylimit
    refine ⟨_, ⟨x, hx, y, hy, rfl⟩,
      read_eq_ok_iff.mpr ⟨nearestUnits (nearestUnits z + nearestUnits w), ?_, ?_⟩⟩
    · exact (units?_add hxu hyu).mpr ⟨rfl, natAbs_lt_of_dots hdots⟩
    · rw [nearestUnits_nearestUnits]
      exact hdots

/-- A far edge is the dots of the sum, where the terms have doubles if they need them. -/
theorem edge_eq_ok_iff {z w : Int} (hs : s.units? = some z) (hn : n.units? = some w) :
    edge (.number s) (.number n) = .ok q ↔
      ((s.isInteger && n.isInteger) = false →
        (nearestUnits z).natAbs < unitsLimit ∧ (nearestUnits w).natAbs < unitsLimit) ∧
        dots (nearestUnits (sumUnits (s.isInteger && n.isInteger) z w)) = (q.val : Int) := by
  cases hwhole : s.isInteger && n.isInteger with
  | false =>
    rw [edge_of_doubles hwhole hs hn]
    simp only [forall_const]
    exact Iff.rfl
  | true =>
    cases s with
    | real x => cases hwhole
    | integer a =>
      cases n with
      | real y => cases hwhole
      | integer b =>
        cases hs
        cases hn
        rw [edge_of_integers]
        simp only [Bool.true_eq_false, false_implies, true_and]
        exact Iff.rfl

end Position

/-! ## Sizes -/

namespace Number

/-- A number that is not below zero. One that is not finite has no far edge and may be anything. -/
def IsNonneg (n : Number) : Prop := ∀ v, n.value? = some v → 0 ≤ v

/-- A number that is of the same type as another, not below zero and at most as large. -/
inductive Within : Number → Number → Prop
  | integer {m n : Int} (nonneg : 0 ≤ m) (le : m ≤ n) : Within (.integer m) (.integer n)
  | real {x y : Binary64} {v w : ℚ} (small : x.value? = some v) (large : y.value? = some w)
      (nonneg : 0 ≤ v) (le : v ≤ w) : Within (.real x) (.real y)

theorem units_mono {m n : Number} {v w : ℚ} {y z : Int} (hv : m.value? = some v)
    (hy : m.units? = some y) (hw : n.value? = some w) (hz : n.units? = some z) :
    v ≤ w ↔ y ≤ z := by
  obtain ⟨_, hy', hvy⟩ := value?_eq_some_iff.mp hv
  obtain ⟨_, hz', hwz⟩ := value?_eq_some_iff.mp hw
  rw [hy, Option.some.injEq] at hy'
  rw [hz, Option.some.injEq] at hz'
  subst hy'
  subst hz'
  rw [← mul_le_mul_iff_of_pos_right cast_unitsPerOne_pos, hvy, hwz, Int.cast_le]

theorem units_zero : (integer 0).units? = some 0 := congrArg some (Int.zero_mul _)

theorem value?_zero : (integer 0).value? = some 0 := congrArg some Int.cast_zero

theorem IsNonneg.units {n : Number} (h : n.IsNonneg) {z : Int} (hz : n.units? = some z) :
    0 ≤ z := by
  obtain ⟨v, hv, -⟩ := exists_value? hz
  exact (units_mono value?_zero units_zero hv hz).mp (h v hv)

theorem Within.isInteger {m n : Number} (h : m.Within n) : m.isInteger = n.isInteger := by
  cases h <;> rfl

theorem Within.exists_units? {m n : Number} (h : m.Within n) {z : Int} (hz : n.units? = some z) :
    ∃ y, m.units? = some y ∧ 0 ≤ y ∧ y ≤ z := by
  cases h with
  | integer nonneg le =>
    cases hz
    exact ⟨_, rfl, mul_nonneg nonneg (Int.natCast_nonneg _),
      mul_le_mul_of_nonneg_right le (Int.natCast_nonneg _)⟩
  | @real x y v w small large nonneg le =>
    have hsmall : (Number.real x).value? = some v := small
    have hlarge : (Number.real y).value? = some w := large
    obtain ⟨u, hu, -⟩ := value?_eq_some_iff.mp hsmall
    exact ⟨u, hu, (units_mono value?_zero units_zero hsmall hu).mp nonneg,
      (units_mono hsmall hu hlarge hz).mp le⟩

end Number

/-! ## Order of the corners -/

namespace Position

/-- The number that a position field shows. -/
def shown (p : Position) : Nat := Decimal.value (Numeral.digits p.field).1

theorem shown_eq (p : Position) : p.shown = p.val := value_digits_field p

variable {s n : Number} {p q : Position}

/-- A far edge is not before the start, and is at the start for a size of zero. -/
theorem start_le_edge (hn : n.IsNonneg) (hs : read (.number s) = .ok p)
    (h : edge (.number s) (.number n) = .ok q) :
    p.shown ≤ q.shown ∧ (n.value? = some 0 → q.shown = p.shown) := by
  rw [shown_eq, shown_eq]
  obtain ⟨z, hz, hstart⟩ := read_eq_ok_iff.mp hs
  obtain ⟨w, hw⟩ := exists_units?_of_edge h
  obtain ⟨-, hend⟩ := (edge_eq_ok_iff hz hw).mp h
  rw [← Number.nearestUnits_sumUnits_zero (s.isInteger && n.isInteger)] at hstart
  constructor
  · have hle := dots_mono (nearestUnits_mono
      (Number.sumUnits_mono (s.isInteger && n.isInteger) z (hn.units hw)))
    rw [hstart, hend] at hle
    exact_mod_cast hle
  · intro hzero
    have hunits : n.units? = some 0 :=
      Number.units?_of_value? hzero (by rw [zero_mul, Int.cast_zero])
    rw [hunits, Option.some.injEq] at hw
    subst hw
    rw [hstart] at hend
    exact_mod_cast hend.symm

/-- A smaller size has a far edge too, one that is no farther. -/
theorem edge_of_within {m : Number} (hm : m.Within n) (hs : read (.number s) = .ok p)
    (h : edge (.number s) (.number n) = .ok q) :
    ∃ q', edge (.number s) (.number m) = .ok q' ∧ q'.shown ≤ q.shown := by
  simp only [shown_eq]
  obtain ⟨z, hz, hstart⟩ := read_eq_ok_iff.mp hs
  obtain ⟨w, hw⟩ := exists_units?_of_edge h
  obtain ⟨u, hu, hnonneg, hle⟩ := hm.exists_units? hw
  obtain ⟨hlimit, hend⟩ := (edge_eq_ok_iff hz hw).mp h
  have hnear : 0 ≤ nearestUnits u := nearestUnits_zero ▸ nearestUnits_mono hnonneg
  have hsum : ∀ {a b : Int}, a ≤ b →
      dots (nearestUnits (Number.sumUnits (s.isInteger && n.isInteger) z a)) ≤
        dots (nearestUnits (Number.sumUnits (s.isInteger && n.isInteger) z b)) := fun hab =>
    dots_mono (nearestUnits_mono (Number.sumUnits_mono _ z hab))
  have hfirst := hsum hnonneg
  have hlast := hsum hle
  rw [Number.nearestUnits_sumUnits_zero, hstart] at hfirst
  rw [hend] at hlast
  obtain ⟨k, hk⟩ := Int.eq_ofNat_of_zero_le ((Int.natCast_nonneg _).trans hfirst)
  rw [hk] at hlast
  have hkq : k ≤ q.val := by exact_mod_cast hlast
  refine ⟨⟨k, hkq.trans_lt q.isLt⟩, (edge_eq_ok_iff hz hu).mpr ?_, hkq⟩
  rw [hm.isInteger]
  refine ⟨fun hwhole => ⟨(hlimit hwhole).1, ?_⟩, hk⟩
  have hlarge := (hlimit hwhole).2
  have hmono := nearestUnits_mono hle
  generalize nearestUnits u = a at hnear hmono ⊢
  generalize nearestUnits w = b at hmono hlarge
  refine Nat.lt_of_le_of_lt ?_ hlarge
  omega

end Position

/-! ## Boxes and lines -/

/-- What is drawn from a corner to the far one. -/
inductive Cornered where
  | box
  | line
  deriving DecidableEq

namespace Cornered

/-- The call that draws it. -/
def call : Cornered → (x y width height thickness : Quantity) → LabelCall
  | box => .drawBox
  | line => .drawLine

/-- Its record. -/
def record : Cornered → (row column endRow endColumn : Position) → Size → Record
  | box => .box
  | line => .line

theorem build_call (kind : Cornered) (x y width height thickness : Quantity) :
    (kind.call x y width height thickness).build =
      Building.argument (Figure.cornered kind.record x y width height thickness) >>=
        Building.draw := by
  cases kind with
  | box =>
    have h := LabelCall.build_ofRequest_draw (.box x y width height thickness)
    rw [Figure.record_box] at h
    exact h
  | line =>
    have h := LabelCall.build_ofRequest_draw (.line x y width height thickness)
    rw [Figure.record_line] at h
    exact h

variable {kind : Cornered} {label next : Label}

theorem build_call_eq_ok_iff {x y width height thickness : Quantity} :
    (kind.call x y width height thickness).build label = .ok () next ↔
      ∃ row, Position.read y = .ok row ∧ ∃ column, Position.read x = .ok column ∧
        ∃ endRow, Position.edge y height = .ok endRow ∧
          ∃ endColumn, Position.edge x width = .ok endColumn ∧
            ∃ size, Size.read thickness = .ok size ∧
              next = { label with
                records := label.records ++ [kind.record row column endRow endColumn size] } := by
  have hcornered : ∀ record,
      Figure.cornered kind.record x y width height thickness = .ok record ↔
        ∃ row, Position.read y = .ok row ∧ ∃ column, Position.read x = .ok column ∧
          ∃ endRow, Position.edge y height = .ok endRow ∧
            ∃ endColumn, Position.edge x width = .ok endColumn ∧
              ∃ size, Size.read thickness = .ok size ∧
                kind.record row column endRow endColumn size = record := fun record => by
    simp only [Figure.cornered, bind_eq_ok_iff, pure, Except.pure, Except.ok.injEq]
  have hbuild : (kind.call x y width height thickness).build label = .ok () next ↔
      ∃ record, Figure.cornered kind.record x y width height thickness = .ok record ∧
        next = { label with records := label.records ++ [record] } := by
    rw [build_call]
    cases Figure.cornered kind.record x y width height thickness with
    | error reason => simp [Building.argument, bind, EStateM.bind, throw, throwThe,
        MonadExceptOf.throw, EStateM.throw]
    | ok record =>
      constructor
      · intro h
        cases h
        exact ⟨record, rfl, rfl⟩
      · rintro ⟨_, h, rfl⟩
        cases h
        rfl
  rw [hbuild]
  simp only [hcornered]
  constructor
  · rintro ⟨_, ⟨row, hrow, column, hcolumn, endRow, hendRow, endColumn, hendColumn, size, hsize,
      rfl⟩, rfl⟩
    exact ⟨row, hrow, column, hcolumn, endRow, hendRow, endColumn, hendColumn, size, hsize, rfl⟩
  · rintro ⟨row, hrow, column, hcolumn, endRow, hendRow, endColumn, hendColumn, size, hsize, rfl⟩
    exact ⟨_, ⟨row, hrow, column, hcolumn, endRow, hendRow, endColumn, hendColumn, size, hsize,
      rfl⟩, rfl⟩

end Cornered

/-- One half. -/
def Binary64.half : Binary64 := .finite false (unitsPerOne / 2) (by decide +kernel)

namespace Label

/-- A box or a line with sizes that are not below zero has its far corner not before the near one,
    and in the same row or column for a height or width of zero. With smaller sizes of the same
    types it is drawn on any label too, from the same corner to one that is not farther. -/
theorem corners_ordered {kind : Cornered} {label next : Label} {x y width height : Number}
    {thickness : Quantity} (hwidth : width.IsNonneg) (hheight : height.IsNonneg)
    (h : (kind.call (.number x) (.number y) (.number width) (.number height) thickness).build
      label = .ok () next) :
    ∃ row column endRow endColumn size,
      next = { label with
        records := label.records ++ [kind.record row column endRow endColumn size] } ∧
      (row.shown ≤ endRow.shown ∧ column.shown ≤ endColumn.shown) ∧
      ((height.value? = some 0 → endRow.shown = row.shown) ∧
        (width.value? = some 0 → endColumn.shown = column.shown)) ∧
      ∀ (other : Label) (width' height' : Number), width'.Within width → height'.Within height →
        ∃ endRow' endColumn',
          (kind.call (.number x) (.number y) (.number width') (.number height') thickness).build
              other =
            .ok () { other with
              records := other.records ++ [kind.record row column endRow' endColumn' size] } ∧
          endRow'.shown ≤ endRow.shown ∧ endColumn'.shown ≤ endColumn.shown := by
  obtain ⟨row, hrow, column, hcolumn, endRow, hendRow, endColumn, hendColumn, size, hsize, rfl⟩ :=
    Cornered.build_call_eq_ok_iff.mp h
  obtain ⟨hrows, hrowZero⟩ := Position.start_le_edge hheight hrow hendRow
  obtain ⟨hcolumns, hcolumnZero⟩ := Position.start_le_edge hwidth hcolumn hendColumn
  refine ⟨row, column, endRow, endColumn, size, rfl, ⟨hrows, hcolumns⟩, ⟨hrowZero, hcolumnZero⟩,
    fun other width' height' hwidth' hheight' => ?_⟩
  obtain ⟨endRow', hendRow', hrowLe⟩ := Position.edge_of_within hheight' hrow hendRow
  obtain ⟨endColumn', hendColumn', hcolumnLe⟩ :=
    Position.edge_of_within hwidth' hcolumn hendColumn
  exact ⟨endRow', endColumn', Cornered.build_call_eq_ok_iff.mpr ⟨row, hrow, column, hcolumn,
    endRow', hendRow', endColumn', hendColumn', size, hsize, rfl⟩, hrowLe, hcolumnLe⟩

/-- A flat box in the rounded row of a fraction, and the same box with no width. -/
theorem corners_ordered_of_flatBox :
    ∃ next, (Cornered.box.call (.ofInt 1) (.ofReal half) (.ofInt 5) (.ofInt 0) (.ofInt 1)).build
        (empty []) = .ok () next ∧
      ∃ row column endRow endColumn size, next.records = [.box row column endRow endColumn size] ∧
        column.shown ≤ endColumn.shown ∧ endRow.shown = row.shown ∧
        ∃ other, (Cornered.box.call (.ofInt 1) (.ofReal half) (.ofInt 0) (.ofInt 0)
          (.ofInt 1)).build (empty []) = .ok () other := by
  have hwidth : (Number.integer 5).IsNonneg := by
    rintro _ ⟨⟩
    norm_num
  have hheight : (Number.integer 0).IsNonneg := by
    rintro _ ⟨⟩
    norm_num
  have hbuild : (Cornered.box.call (.ofInt 1) (.ofReal half) (.ofInt 5) (.ofInt 0)
      (.ofInt 1)).build (empty []) = .ok () _ :=
    Cornered.build_call_eq_ok_iff.mpr ⟨1, by decide +kernel, 1, by decide +kernel,
      1, by decide +kernel, 6, by decide +kernel, ⟨unitsPerOne, by decide +kernel⟩,
      by decide +kernel, rfl⟩
  obtain ⟨row, column, endRow, endColumn, size, hnext, ⟨-, hcolumns⟩, ⟨hflat, -⟩, hsmaller⟩ :=
    corners_ordered hwidth hheight hbuild
  obtain ⟨_, _, hother, -⟩ := hsmaller (empty []) (.integer 0) (.integer 0)
    (.integer le_rfl (by decide)) (.integer le_rfl le_rfl)
  exact ⟨_, hbuild, row, column, endRow, endColumn, size, congrArg Label.records hnext, hcolumns,
    hflat (congrArg some Int.cast_zero), _, hother⟩

end Label

end ThermalLabel
