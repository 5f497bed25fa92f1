/-
  Whole numbers that end a design.

  An element whose attributes are texts ends the conversion exactly if one of its coordinates or
  sizes is out of the range of doubles and none that is read before is refused
  (`PlacedElement.ends_resolve_iff`).
-/
import ThermalLabel.Design.Element
import ThermalLabel.Proofs.Overflow

namespace ThermalLabel

/-! ## Quantities -/

namespace Quantity

variable {q : Quantity} {reason : Fault}

/-- A whole number without a nearest double. -/
def Overflows (q : Quantity) : Prop := ∃ n, q = .ofInt n ∧ OutOfRange n

theorem not_outOfRange_one : ¬ OutOfRange 1 := by
  unfold OutOfRange
  decide +kernel

theorem pixels_eq_outOfRange_iff : q.pixels = .error .outOfRange ↔ q.Overflows := by
  unfold Overflows ofInt
  cases q with
  | number n =>
    cases n with
    | integer n =>
      unfold pixels
      rw [asReal_integer_eq_error_iff]
      simp
    | real x => simp [pixels, Number.asReal, Number.toReal?]
  | flag b =>
    have hflag : (Number.ofFlag b).asReal ≠ .error .outOfRange := by
      intro h
      obtain ⟨hrange, -⟩ := asReal_integer_eq_error_iff.mp h
      cases b with
      | false => exact not_outOfRange_zero hrange
      | true => exact not_outOfRange_one hrange
    simp [pixels, hflag]
  | text t =>
    have htext : (text t).pixels ≠ .error .outOfRange := fun h => by cases elim_eq_error h
    simp [htext]
  | missing => simp [pixels]

theorem ends_pixels_iff : Ends q.pixels reason ↔ q.Overflows ∧ reason = .outOfRange := by
  rw [← pixels_eq_outOfRange_iff]
  constructor
  · rintro ⟨h, hkind⟩
    rcases pixels_eq_error h with rfl | rfl
    · exact ⟨h, rfl⟩
    · cases hkind
  · rintro ⟨h, rfl⟩
    exact ⟨h, rfl⟩

/-- The quantity is a text. -/
def isText : Quantity → Bool
  | text _ => true
  | _ => false

theorem exists_of_isText (h : q.isText) : ∃ t, q = .text t := by
  cases q with
  | text t => exact ⟨t, rfl⟩
  | number | flag | missing => cases h

theorem not_ends_pixels_text {t : Text} : ¬ Ends (text t).pixels reason := by
  rw [ends_pixels_iff]
  rintro ⟨⟨n, h, -⟩, -⟩
  cases h

end Quantity

/-! ## Placed elements -/

namespace PlacedElement

variable {e : PlacedElement} {reason : Fault}

/-- Every attribute is a text. -/
def HasTexts (e : PlacedElement) : Prop := ∀ a ∈ e.attributes, a.2.isText

instance : DecidablePred HasTexts :=
  fun e => inferInstanceAs (Decidable (∀ a ∈ e.attributes, a.2.isText))

/-- A size of the element is out of the range of doubles, and none that is read before is refused:
    the width comes first, then the height of the kinds that have one. -/
def SizesOverflow (e : PlacedElement) : Prop :=
  (ElementKind.ofTag? e.tag ∈ [some .box, some .circle, some .line] ∧ e.width.Overflows) ∨
    (ElementKind.ofTag? e.tag ∈ [some .box, some .line] ∧
      (∃ w, e.size "width" e.width = .ok w) ∧ e.height.Overflows)

/-- A coordinate or a size of the element is out of the range of doubles, and none that is read
    before is refused: the column comes first, then the row and the sizes. -/
inductive Overflows (e : PlacedElement) : Prop
  | left (overflow : e.left.Overflows)
  | top (column : ∃ x, e.left.pixels = .ok x) (overflow : e.top.Overflows)
  | sizes (column : ∃ x, e.left.pixels = .ok x) (row : ∃ y, e.top.pixels = .ok y)
      (overflow : e.SizesOverflow)

theorem ends_size_iff {dimension : String} {given : Quantity} :
    Ends (e.size dimension given) reason ↔ given.Overflows ∧ reason = .outOfRange := by
  rw [← Quantity.ends_pixels_iff]
  unfold size
  split
  · next h =>
    have hno : ¬ Ends given.pixels reason := by
      rw [Quantity.ends_pixels_iff]
      rintro ⟨⟨n, rfl, -⟩, -⟩
      rcases h with h | h
      · cases h
      · cases h
    refine iff_of_false ?_ hno
    rintro ⟨h, hkind⟩
    cases h
    cases hkind
  · exact Iff.rfl

/-- A given attribute is a text that is not empty. -/
theorem text_of_attribute? (htexts : e.HasTexts) {name : String} {q : Quantity}
    (h : e.attribute? name = some q) : ∃ t, q = .text t ∧ t ≠ [] := by
  obtain ⟨hlookup, hvoid⟩ := Option.filter_eq_some_iff.mp h
  obtain ⟨before, after, hattributes, -⟩ := List.lookup_eq_some_iff.mp hlookup
  have hmem : (name.toList, q) ∈ e.attributes := by
    rw [hattributes]
    exact List.mem_append_right _ List.mem_cons_self
  obtain ⟨t, rfl⟩ := Quantity.exists_of_isText (htexts _ hmem)
  refine ⟨t, rfl, ?_⟩
  rintro rfl
  cases hvoid

theorem text_of_source (htexts : e.HasTexts) {given : Quantity} (h : e.source = .ok given) :
    ∃ t, given = .text t := by
  unfold source at h
  cases hsource : e.attribute? "src" with
  | none =>
    rw [hsource] at h
    cases h
  | some q =>
    rw [hsource] at h
    cases h
    obtain ⟨t, rfl, -⟩ := text_of_attribute? htexts hsource
    exact ⟨t, rfl⟩

/-- The name that an image is given is not empty and has word characters only. -/
theorem isWord_of_imageName {name : Text} (h : e.imageName = .ok (some name)) :
    name ≠ [] ∧ name.all Text.isWord := by
  unfold imageName at h
  cases hgiven : e.attribute? "image-name" with
  | none =>
    rw [hgiven] at h
    cases h
  | some q =>
    rw [hgiven] at h
    dsimp only at h
    obtain ⟨t, ht, hchecked⟩ := bind_eq_ok_iff.mp h
    have hvoid := (Option.filter_eq_some_iff.mp hgiven).2
    cases q with
    | number | flag | missing => cases ht
    | text given =>
      cases ht
      split at hchecked
      · next hword =>
        cases hchecked
        refine ⟨?_, hword⟩
        rintro rfl
        cases hvoid
      · cases hchecked

theorem not_ends_thickness (htexts : e.HasTexts) : ¬ Ends e.thickness reason := by
  unfold thickness
  cases h : e.attribute? "thickness" with
  | none => exact Quantity.not_ends_pixels_text
  | some q =>
    obtain ⟨t, rfl, -⟩ := text_of_attribute? htexts h
    exact Quantity.not_ends_pixels_text

theorem not_ends_symbology (htexts : e.HasTexts) : ¬ Ends e.symbology reason := by
  unfold symbology
  cases h : e.attribute? "type" with
  | none => exact not_ends_ok
  | some q =>
    obtain ⟨t, rfl, -⟩ := text_of_attribute? htexts h
    exact not_ends_ok

theorem not_ends_source : ¬ Ends e.source reason := by
  rintro ⟨h, hkind⟩
  rw [elim_eq_error h] at hkind
  cases hkind

theorem not_ends_imageName (htexts : e.HasTexts) : ¬ Ends e.imageName reason := by
  unfold imageName
  cases h : e.attribute? "image-name" with
  | none => exact not_ends_ok
  | some q =>
    obtain ⟨t, rfl, -⟩ := text_of_attribute? htexts h
    rintro ⟨hname, hkind⟩
    unfold Quantity.literal at hname
    dsimp only at hname
    rw [ok_bind] at hname
    split at hname
    · cases hname
    · cases hname
      cases hkind

theorem ends_resolveAt_iff (htexts : e.HasTexts) {x y : Binary64} :
    Ends (e.resolveAt x y) reason ↔ e.SizesOverflow ∧ reason = .outOfRange := by
  unfold resolveAt SizesOverflow
  cases ElementKind.ofTag? e.tag with
  | none =>
    refine iff_of_false ?_ (by simp)
    rintro ⟨h, hkind⟩
    cases h
    cases hkind
  | some kind =>
    cases kind with
    | text => simp [not_ends_ok]
    | barcode =>
      simp [ends_bind_iff, not_ends_symbology htexts, pure, Except.pure, not_ends_ok]
    | box | line =>
      simp [ends_bind_iff, not_ends_thickness htexts, ends_size_iff, pure, Except.pure, not_ends_ok,
        or_and_right, and_assoc]
    | circle =>
      simp [ends_bind_iff, not_ends_thickness htexts, ends_size_iff, pure, Except.pure, not_ends_ok]
    | image =>
      simp [ends_bind_iff, not_ends_source, not_ends_imageName htexts, pure, Except.pure,
        not_ends_ok]

/-- An element ends the conversion exactly if it overflows. -/
theorem ends_resolve_iff (htexts : e.HasTexts) :
    Ends e.resolve reason ↔ e.Overflows ∧ reason = .outOfRange := by
  unfold resolve
  simp only [ends_bind_iff, Quantity.ends_pixels_iff, ends_resolveAt_iff htexts]
  constructor
  · rintro (⟨h, hreason⟩ | ⟨x, hx, ⟨h, hreason⟩ | ⟨y, hy, h, hreason⟩⟩)
    · exact ⟨.left h, hreason⟩
    · exact ⟨.top ⟨x, hx⟩ h, hreason⟩
    · exact ⟨.sizes ⟨x, hx⟩ ⟨y, hy⟩ h, hreason⟩
  · rintro ⟨h, hreason⟩
    cases h with
    | left h => exact .inl ⟨h, hreason⟩
    | top column h =>
      obtain ⟨x, hx⟩ := column
      exact .inr ⟨x, hx, .inl ⟨h, hreason⟩⟩
    | sizes column row h =>
      obtain ⟨x, hx⟩ := column
      obtain ⟨y, hy⟩ := row
      exact .inr ⟨x, hx, .inr ⟨y, hy, h, hreason⟩⟩

end PlacedElement

end ThermalLabel
